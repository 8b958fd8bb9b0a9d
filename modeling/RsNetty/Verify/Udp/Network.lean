import RsNetty.Transport.Udp.Network
import RsNetty.Verify.Udp.Channel

/-!
# Runs of a network

In every run the tasks do what the transducer does, each at its own site, and what one of them has
received under the address of another one was sent by this one.
-/

namespace RsNetty

variable {ι : Type} {P : ι → DatagramStages}

namespace UdpNetwork
open DatagramStages

structure Delivering (pipelines : (i : ι) → DatagramPipeline (P i)) (sites : ι → Site)
    (s : UdpNetwork P) : Prop where
  serving i : (s i).Serving (pipelines i) (sites i)
  arrived i k datagram : .recv (.ok (datagram, (sites k).localAddr)) ∈ (s i).events →
    ((sites i).localAddr, datagram) ∈ (s k).sent

variable {pipelines : (i : ι) → DatagramPipeline (P i)} {sites : ι → Site}
  {s t : UdpNetwork P} {i : ι} {action : DatagramAction (P i).Write}

/-- The address of a socket does not change. -/
theorem Delivering.addr (h : s.Delivering pipelines sites) (k : ι) :
    (s k).addr = (sites k).localAddr :=
  congrArg Site.localAddr (h.serving k).located

variable [DecidableEq ι]

/-- A step of a socket that, where it brings a datagram of one of the others, brings one that was
sent. -/
theorem Delivering.stepAt (h : s.Delivering pipelines sites)
    (haction : ∀ k datagram, action = .recvFrom (.ok (datagram, (sites k).localAddr)) →
      ((sites i).localAddr, datagram) ∈ (s k).sent)
    (hstep : s.stepAt i action = some t) : t.Delivering pipelines sites := by
  obtain ⟨socket, hsocket, rfl⟩ := Option.map_eq_some_iff.1 hstep
  have hsent (k : ι) : (s k).sent <+: (Function.update s i socket k).sent := by
    rcases eq_or_ne k i with rfl | hk
    · rw [Function.update_self]
      exact (h.serving k).sent_mono hsocket
    · rw [Function.update_of_ne hk]
  constructor
  · intro k
    rcases eq_or_ne k i with rfl | hk
    · rw [Function.update_self]
      exact (h.serving k).step hsocket
    · rw [Function.update_of_ne hk]
      exact h.serving k
  · intro j k datagram harrived
    rcases eq_or_ne j i with rfl | hj
    · rw [Function.update_self] at harrived
      rcases DatagramChannel.step_events hsocket with hevents | ⟨event, hevents, hread⟩
      · exact (hsent k).subset (h.arrived j k datagram (hevents ▸ harrived))
      · rw [hevents] at harrived
        rcases List.mem_append.1 harrived with hold | hnew
        · exact (hsent k).subset (h.arrived j k datagram hold)
        · exact (hsent k).subset (haction k datagram (hread _ (List.mem_singleton.1 hnew).symm))
    · rw [Function.update_of_ne hj] at harrived
      exact (hsent k).subset (h.arrived j k datagram harrived)

variable [Fintype ι]

theorem Delivering.step (h : s.Delivering pipelines sites)
    (haddr : Function.Injective fun i => (sites i).localAddr) {action : NetworkAction P}
    (hstep : UdpNetwork.step s action = some t) : t.Delivering pipelines sites := by
  cases action with
  | act i action =>
    simp only [UdpNetwork.step] at hstep
    split at hstep
    next hlocal =>
      refine h.stepAt ?_ hstep
      rintro k datagram rfl
      exact (of_decide_eq_true hlocal k (h.addr k)).elim
    next => cases hstep
  | arrive i sender number =>
    simp only [UdpNetwork.step] at hstep
    split at hstep
    next peerAddr datagram hnumber =>
      split at hstep
      next hpeer =>
        refine h.stepAt ?_ hstep
        intro k datagram' haction
        obtain ⟨rfl, hk⟩ : datagram = datagram' ∧ (s sender).addr = (sites k).localAddr := by
          simpa using haction
        rw [h.addr] at hk hpeer
        obtain rfl := haddr hk
        exact hpeer ▸ List.mem_of_getElem? hnumber
      next => cases hstep
    next => cases hstep

end UdpNetwork

end RsNetty
