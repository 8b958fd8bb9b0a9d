import RsNetty.Transport.Udp.Socket

/-!
# Rules for the programs of a datagram socket

As for a connection: what is shown for the drain of an outbox is carried through a handler and the
stages in front of it, and what is shown for a turn of the task through its runs.
-/

namespace RsNetty
open EStateM Traced

namespace DatagramState

variable {P : DatagramStages} {I K S : DatagramState P → Prop}
  {R : Exit Error → DatagramState P → Prop} {info : DatagramInfo}

theorem runHandler_triple {msg : P.CurrentIn} (hI : ∀ s, S s → I s)
    (hR : ∀ e s, K s → R (.err e) s) (hstart : ∀ s, K s → S s)
    (hpoll : ∀ future : HandlerFuture P.H (SocketAddr × P.Write),
      Triple I S ((handlerRuntime info).pollHandler future) (fun _ => S) R)
    (hset : ∀ handler s, S s → S (setHandler handler s))
    (hdrain : Triple I S (drainDatagramOutbox info) (fun _ => K) R) :
    Triple I K (runHandler info msg) (fun _ => K) R :=
  (handlerRuntime info).run_triple hI hR hstart hpoll hset hdrain

theorem processInboundFlushable_triple {msg : P.Item} (hI : ∀ s, K s → I s)
    (hR : ∀ e s, K s → R e s)
    (hdeliver : ∀ s, S s → K { s with delivered := s.delivered ++ [(info.peerAddr, msg)] })
    (hinbound : ∀ t s, K s → K (inboundPart.set t s))
    (hbusiness : ∀ t s, K s → K (businessPart.set t s))
    (hrun : ∀ msg, Triple I K (runHandler info msg) (fun _ => K) R) :
    Triple I S (processInboundFlushable info msg) (fun _ => K) R := by
  apply Triple.bind (Q := fun _ => K)
  · exact Triple.step fun s hs => ⟨hI _ (hdeliver s hs), hdeliver s hs⟩
  intro _
  refine stage_triple hI hR hinbound (Triple.pure fun _ hs => hs) fun msg => ?_
  exact stage_triple hI hR hbusiness (Triple.pure fun _ hs => hs) hrun

end DatagramState

namespace DatagramSocketRuntime
variable {P : DatagramStages} {I K : DatagramSocketRuntime P → Prop}
  {R : Exit Error → DatagramSocketRuntime P → Prop}

/-! ## What does not depend on the socket and its pipeline -/

section
variable (hK : ∀ rt io, K rt → K { rt with io })
include hK

theorem onIo_frame {α : Type} (x : Traced (Exit Error) (DatagramState P) α) :
    Triple (fun _ => True) K (onIo x) (fun _ => K) fun _ => K := by
  refine Triple.zoom fun rt hrt => ?_
  rintro io rfl
  refine ⟨fun _ _ => trivial, ?_⟩
  cases x.result (ioPart.get rt) with
  | ok a io => exact hK rt io hrt
  | error e io => exact hK rt io hrt

theorem handleDatagram_frame (datagram : Bytes) (peerAddr : SocketAddr) :
    Triple (fun _ => True) K (handleDatagram datagram peerAddr) (fun _ => K) fun _ => K := by
  refine Triple.look_keep fun rt _ => ?_
  dsimp only
  split
  · exact Triple.fail fun _ hrt => hrt
  · refine Triple.bind (onIo_frame hK _) fun msg => ?_
    apply Triple.bind (Q := fun _ => K)
    · exact Triple.step fun rt hrt => ⟨trivial, hK rt _ hrt⟩
    intro _
    refine Triple.look_keep fun rt _ => Triple.bind (onIo_frame hK _) fun _ => ?_
    exact Triple.look_keep fun _ _ => Triple.pure fun _ hrt => hrt

theorem writeMessage_frame (peerAddr : SocketAddr) (msg : P.Write) :
    Triple (fun _ => True) K (writeMessage peerAddr msg) (fun _ => K) fun _ => K := by
  apply Triple.bind (Q := fun _ => K)
  · exact Triple.step fun rt hrt => ⟨trivial, hK rt _ hrt⟩
  intro _
  refine Triple.look_keep fun rt _ => Triple.bind (onIo_frame hK _) fun _ => ?_
  exact Triple.bind (onIo_frame hK _) fun _ => onIo_frame hK _

end

/-! ## A run -/

theorem run_triple (hselect : ∀ event, Triple I K (select event) (fun _ => K) R)
    (events : List (SocketEvent P.Write)) : Triple I K (run events) (fun _ => K) R := by
  induction events with
  | nil => exact Triple.pure fun rt hrt => hrt
  | cons event events ih =>
    refine Triple.bind (hselect event) fun stopped => ?_
    cases stopped with
    | true => exact Triple.pure fun rt hrt => hrt
    | false => exact ih

end DatagramSocketRuntime

end RsNetty
