import RsNetty.Codec.Json
import RsNetty.Verify.Tcp.Exchange

/-!
# JSON over lines

A client and a server that exchange values as JSON texts, a line for each. What the handlers get
are the values (`run_jsonExchanged`), as far as `sonic_rs` writes them on one line and reads them as
they were.
-/

namespace RsNetty
open EStateM StreamStages StreamChannel

namespace SonicRs

variable {T : Type}

/-- The text of a value. -/
def text (sonicRs : SonicRs T) (value : T) : String := (sonicRs.toString value).toOption.getD ""

/-- The text of the value is a line that is not too long, and denotes the value. -/
structure Carries (sonicRs : SonicRs T) (maxLineLen : Nat) (value : T) : Prop where
  written : sonicRs.toString value = .ok (sonicRs.text value)
  read : sonicRs.fromSlice (asBytes (sonicRs.text value)) = .ok value
  line : LineCodec.IsLine (sonicRs.text value)
  length : (asBytes (sonicRs.text value)).length ≤ maxLineLen

variable {sonicRs : SonicRs T} {maxLineLen : Nat} {value : T}

theorem Carries.decode (h : sonicRs.Carries maxLineLen value) :
    JsonDecode.read sonicRs (sonicRs.text value) () = .ok (.next value) () := by
  have hdecode : decodeJson sonicRs (asBytes (sonicRs.text value)) = .ok (.next value) := by
    rw [decodeJson, h.read]
  rw [JsonDecode.read, hdecode]
  rfl

theorem Carries.encode (h : sonicRs.Carries maxLineLen value) :
    JsonEncode.write sonicRs value () = .ok (.next (sonicRs.text value)) () := by
  rw [JsonEncode.write, h.written]
  rfl

end SonicRs

section
variable {H I O : Type} {decoder : SonicRs I} {encoder : SonicRs O}
  {read : H → I → HandlerFuture H O} {maxLineLen : Nat}

/-- A pipeline of JSON stages. -/
abbrev jsonStages (decoder : SonicRs I) (encoder : SonicRs O) (read : H → I → HandlerFuture H O) :
    StreamStages :=
  (CodecStages.json decoder encoder read).around LineCodec.codec

/-- The texts of values lead the handler where the values do. -/
theorem serve_json {reply : Transducer H I O} {handler : H} {values : List I}
    (h : ∀ value ∈ values, decoder.Carries maxLineLen value) :
    ((jsonStages decoder encoder read).serve reply).run ((), (), handler)
        (values.map decoder.text) =
      ((reply.run handler values).1, (reply.run handler values).2.map fun h => ((), (), h)) := by
  have hstep (handler : H) (value : I) (hvalue : value ∈ values) :
      (jsonStages decoder encoder read).serve reply ((), (), handler) (decoder.text value) =
        ((reply handler value).1.map id, (reply handler value).2.map fun h => ((), (), h)) := by
    rw [List.map_id]
    exact serve_of_next (P := jsonStages decoder encoder read) (h value hvalue).decode rfl
  exact (Transducer.run_map (f := fun h => ((), (), h)) hstep).trans
    (Prod.ext (List.map_id _) rfl)

/-- The outbound stage writes the texts of values. -/
theorem render_json {values : List O} (h : ∀ value ∈ values, encoder.Carries maxLineLen value) :
    (jsonStages decoder encoder read).render.run () values =
      (values.map encoder.text, some ()) := by
  induction values using List.reverseRecOn with
  | nil => rfl
  | append_singleton values value ih =>
    obtain ⟨hvalues, hvalue⟩ := List.forall_mem_append.1 h
    have hwrite := (hvalue value List.mem_cons_self).encode
    refine (Transducer.run_concat_of_some (ih hvalues)).trans ?_
    rw [List.map_append, render_of_next (P := jsonStages decoder encoder read) hwrite]
    rfl

/-- The handler is where the values lead it. -/
theorem handler_json {reply : Transducer H I O} {handler : H} {values : List I}
    {s : StreamState (jsonStages decoder encoder read)}
    (h : ∀ value ∈ values, decoder.Carries maxLineLen value)
    (hserves : s.Serves reply ((), (), handler) told)
    (hhanded : s.history.handed = values.map decoder.text) :
    (reply.run handler values).2 = some s.pipeline.handler := by
  have hservice := hserves.service
  rw [hhanded] at hservice
  have hstate : (reply.run handler values).2.map (fun h => ((), (), h)) = some s.service :=
    (congrArg Prod.snd (serve_json h)).symm.trans hservice
  obtain ⟨handler', hrun, hhandler⟩ := Option.map_eq_some_iff.1 hstate
  rw [hrun]
  exact congrArg (fun service : (jsonStages decoder encoder read).Service => some service.2.2)
    hhandler

end

namespace TcpPeers

variable {H H' I O : Type}

/-- The stages of a client that sends values of the one type and gets values of the other. -/
abbrev jsonClient (request : SonicRs I) (response : SonicRs O) (g : H → O → FnFuture H Unit) :
    StreamStages :=
  jsonStages response request fun handler msg => (g handler msg).consume

abbrev jsonServer (request : SonicRs I) (response : SonicRs O) (f : H' → I → FnFuture H' O) :
    StreamStages :=
  jsonStages request response fun handler msg => (f handler msg).respond

variable {request : SonicRs I} {response : SonicRs O} {g : H → O → FnFuture H Unit}
  {f : H' → I → FnFuture H' O} {t : TcpPeers (jsonClient request response g)
    (jsonServer request response f)}
  {actions : List (PeersAction (jsonClient request response g) (jsonServer request response f))}

/-- The client is handed the texts of the responses to the requests put into its channel, in their
order and each of them once. When the connection has come to rest it is all of them, and both
handlers are where the values have led them. -/
theorem run_jsonExchanged (env : Surroundings) (faults faults' : List (Option (Nat × String)))
    (codec codec' : LineCodec) (client : H) (server : H') (config config' : TcpConnectionConfig)
    (tracked tracked' : Bool)
    (hrun : (step env).run (new
      (.new { faults } ⟨codec, (), (), client, ()⟩ config tracked)
      (.new { faults := faults' } ⟨codec', (), (), server, ()⟩ config' tracked')) actions = some t)
    (hserved : commandMessages t.right.channel.queued = []) :
    let requests : List I := commandMessages t.left.channel.queued
    let responses := (FnFuture.machine f).outputs server requests
    (∀ m ∈ requests, request.Carries codec'.maxLineLen m) →
    (∀ m ∈ responses, response.Carries codec.maxLineLen m) →
    t.left.handed <+: responses.map response.text ∧
    (t.Quiet → t.left.handed = responses.map response.text ∧
      ((FnFuture.machine g).run client responses).2 = some t.left.channel.rt.io.pipeline.handler ∧
      ((FnFuture.machine f).run server requests).2 =
        some t.right.channel.rt.io.pipeline.handler) := by
  intro requests responses hrequests hresponses
  have h := run_exchanging ((LineCodec.understood codec codec').link _ _)
    ((LineCodec.understood codec' codec).link _ _) (g := g) (f := f) rfl rfl rfl rfl hrun
  have hwritten : t.left.channel.requests () = requests.map request.text :=
    congrArg Prod.fst (render_json hrequests)
  have hasked : (t.left.channel.requests ()).map id = requests.map request.text :=
    (List.map_id _).trans hwritten
  have hserve : ((jsonServer request response f).serve (respondBy f)).outputs ((), (), server)
      (requests.map request.text) = responses := congrArg Prod.fst (serve_json hrequests)
  have hanswered : ((jsonServer request response f).responses f ⟨codec', (), (), server, ()⟩
      ((t.left.channel.requests ()).map id)).map id = responses.map response.text :=
    (List.map_id _).trans ((congrArg _ hasked).trans
      ((congrArg ((jsonServer request response f).render.outputs ()) hserve).trans
        (congrArg Prod.fst (render_json hresponses))))
  have hgood : ∀ m ∈ t.left.channel.requests (), LineCodec.IsLine m ∧
      (asBytes m).length ≤ codec'.maxLineLen := by
    rw [hwritten]
    exact List.forall_mem_map.2 fun m hm => ⟨(hrequests m hm).line, (hrequests m hm).length⟩
  have hgood' : ∀ m ∈ responses.map response.text, LineCodec.IsLine m ∧
      (asBytes m).length ≤ codec.maxLineLen :=
    List.forall_mem_map.2 fun m hm => ⟨(hresponses m hm).line, (hresponses m hm).length⟩
  obtain ⟨horder, hall⟩ := h.answered hserved hgood fun m hm =>
    hgood' m (hanswered ▸ List.mem_map.2 ⟨m, hm, rfl⟩)
  refine ⟨hanswered ▸ horder, fun hquiet => ?_⟩
  obtain ⟨hleft, hright⟩ := hall hquiet
  obtain ⟨_, -, hclient⟩ := h.client.serves hquiet.left
  obtain ⟨_, -, hserver⟩ := h.server.serves hquiet.right
  have hconsumed : ((FnFuture.machine g).run client responses).2 =
      (Transducer.run (consumeBy (P := jsonClient request response g) g) client responses).2 :=
    Transducer.run_snd_congr fun _ _ => rfl
  exact ⟨hanswered ▸ hleft,
    hconsumed.trans (handler_json hresponses hclient (hleft.trans hanswered)),
    handler_json hrequests hserver (hright.trans hasked)⟩

/-- `sonic_rs` on `bool` -/
def jsonBool : SonicRs Bool where
  fromSlice src :=
    if src = asBytes "true" then .ok true
    else if src = asBytes "false" then .ok false
    else .error "expected a boolean"
  toString value := .ok (if value then "true" else "false")

theorem carries_bool (value : Bool) : jsonBool.Carries 5 value := by
  cases value <;> exact ⟨rfl, by decide, ⟨by decide, by decide⟩, by decide⟩

/-- A server that negates, and a client that counts. -/
theorem run_jsonExchanged_negation :
    let count := fun (n : Nat) (_ : Bool) => FnFuture.ready (.ok ()) (n + 1)
    let negate := fun (_ : Unit) (b : Bool) => FnFuture.ready (.ok !b) ()
    let client : StreamPipeline (jsonClient jsonBool jsonBool count) := ⟨⟨5⟩, (), (), (0 : Nat), ()⟩
    let server : StreamPipeline (jsonServer jsonBool jsonBool negate) := ⟨⟨5⟩, (), (), (), ()⟩
    ∃ t, (step ⟨fun _ => "", 0⟩).run (new (.new {} client {} true) (.new {} server {} true))
        [.left (.write true), .left (.writeAndFlush false), .left .recv, .left .recv,
          .right (.read (.ok (asBytes "true\nfal"))), .right (.read (.ok (asBytes "se\n"))),
          .left (.read (.ok (asBytes "false\ntrue\n")))] = some t ∧
      t.Quiet ∧ t.left.handed = ["false", "true"] ∧
      t.left.channel.rt.io.pipeline.handler = (2 : Nat) := by
  intro count negate client server
  have hend : ((step ⟨fun _ => "", 0⟩).run (new (.new {} client {} true) (.new {} server {} true))
      [.left (.write true), .left (.writeAndFlush false), .left .recv, .left .recv,
        .right (.read (.ok (asBytes "true\nfal"))), .right (.read (.ok (asBytes "se\n"))),
        .left (.read (.ok (asBytes "false\ntrue\n")))]).map (fun t => ((t.isQuiet,
          commandMessages t.left.channel.queued, commandMessages t.right.channel.queued) :
            Bool × List Bool × List Bool)) = some (true, [true, false], []) := by
    decide +kernel
  obtain ⟨t, hrun, ht⟩ := Option.map_eq_some_iff.1 hend
  obtain ⟨hquiet, hqueued⟩ := Prod.mk.inj ht
  obtain ⟨hleft, hright⟩ := Prod.mk.inj hqueued
  obtain ⟨-, hall⟩ := run_jsonExchanged (g := count) (f := negate) ⟨fun _ => "", 0⟩ [] [] ⟨5⟩ ⟨5⟩
    0 () {} {} true true hrun hright (fun m _ => carries_bool m) fun m _ => carries_bool m
  obtain ⟨hhanded, hclient, -⟩ := hall (quiet_iff.2 hquiet)
  have hresponses : (FnFuture.machine negate).outputs () (commandMessages t.left.channel.queued) =
      [false, true] := congrArg _ hleft
  refine ⟨t, hrun, quiet_iff.2 hquiet, ?_, ?_⟩
  · exact hhanded.trans (congrArg _ hresponses)
  · exact Option.some.inj (hclient.symm.trans (congrArg
      (fun responses => ((FnFuture.machine count).run 0 responses).2) hresponses))

end TcpPeers

end RsNetty
