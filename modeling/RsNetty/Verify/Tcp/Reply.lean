import RsNetty.Verify.Tcp.Segmentation

/-!
# Messages that are answered at once

A handler that writes its replies and returns leaves a connection between two messages as it was:
the outbox and `write_buf` are empty again, and the codec has encoded the replies. Only a failing
socket comes in between, after the handler is done.
-/

namespace RsNetty
open EStateM Traced Segmentation

/-- The handler writes these messages, returns `Ok` and leaves this handler behind. -/
inductive HandlerFuture.Replies {H M : Type} : HandlerFuture H M → List M → H → Prop
  | ready : Replies (.ready (.ok ()) handler) [] handler
  | write : Replies rest msgs handler → Replies (.write msg rest) (msg :: msgs) handler
  | suspend : Replies rest msgs handler → Replies (.suspend rest) msgs handler

namespace StreamState

variable {P : StreamStages}

/-- The parts of a connection that the answering of a message goes through, on a socket that has
the last of these faults ahead. Only messages are staged. -/
structure Looks (codec : P.C) (handler : P.H) (staged : List P.Write) (dst : BytesMut)
    (faults : List (Option (Nat × String))) (s : StreamState P) : Prop where
  codec : s.pipeline.codec = codec
  handler : s.pipeline.handler = handler
  outbox : s.ctx.outbox = staged.map .write
  writeBuf : s.writeBuf = dst
  ended : s.ctx.closeRequested = false
  faults : s.stream.faults <:+ faults

/-- The socket failed when the message had been handled. -/
structure Broken (handler : P.H) (faults : List (Option (Nat × String))) (s : StreamState P) :
    Prop where
  handler : s.pipeline.handler = handler
  fault : ∃ fault ∈ faults, fault ≠ none

/-- A program that answers a message, and does not fail unless the socket does. -/
abbrev Answering {α : Type} (handler : P.H) (faults : List (Option (Nat × String)))
    (P₀ : StreamState P → Prop) (x : Traced (Exit Error) (StreamState P) α)
    (Q : α → StreamState P → Prop) : Prop :=
  Triple (fun _ => True) P₀ x Q fun _ => Broken handler faults

variable {codec codec' : P.C} {handler handler' : P.H} {staged msgs : List P.Write}
  {dst dst' : BytesMut} {faults : List (Option (Nat × String))} {s : StreamState P}

theorem Looks.pushWrite (h : s.Looks codec handler staged dst faults) (msg : P.Write) :
    (s.pushWrite msg).Looks codec handler (staged ++ [msg]) dst faults := by
  refine ⟨h.codec, h.handler, ?_, h.writeBuf, h.ended, h.faults⟩
  change s.ctx.outbox ++ [.write msg] = _
  rw [h.outbox, List.map_append, List.map_singleton]

end StreamState

end RsNetty
