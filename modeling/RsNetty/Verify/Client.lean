import RsNetty.Transport.Client

/-!
# Abandoned clients

A client whose application has neither its handle nor a channel can get no more commands, yet its
task is never told: it owns a sender of its own command queue, and so the queue is never closed.
-/

namespace RsNetty

/-- The loop is not left yet. -/
def ClientPhase.Live {W : Type} : ClientPhase W → Prop
  | .opening | .select | .read | .command _ => True
  | .closing | .ended => False

/-- The task owns a sender as long as its loop runs. -/
theorem ClientPhase.Live.senders_ne_zero {W : Type} {phase : ClientPhase W} (h : phase.Live)
    (transport : ClientTransport) : phase.senders transport ≠ 0 := by
  cases phase with
  | opening | select | command _ => exact Nat.one_ne_zero
  | read => cases transport <;> exact Nat.succ_ne_zero _
  | closing | ended => exact h.elim

namespace Client
variable {W : Type} {client client' : Client W} {action : ClientAction W}

/-- All senders of the command queue are accounted for. -/
def Counted (client : Client W) : Prop :=
  client.channel.senders =
    client.handle.senders + client.clones + client.phase.senders client.transport

theorem Counted.goto (h : client.Counted) (phase : ClientPhase W) : (client.goto phase).Counted := by
  simp only [Counted, Client.goto, Mpsc.senders_drop, Mpsc.senders_clone] at h ⊢
  omega

theorem Counted.of_channel (h : client.Counted) {channel : Mpsc (ClientCommand W)}
    (hsenders : channel.senders = client.channel.senders) : { client with channel }.Counted :=
  hsenders.trans h

theorem counted_started (transport : ClientTransport) (outboundQueueSize : Nat) :
    (started transport outboundQueueSize : Client W).Counted := rfl

theorem Counted.step (h : client.Counted) (hstep : Client.step client action = some client') :
    client'.Counted := by
  cases action with
  | clone =>
    simp only [Client.step] at hstep
    split at hstep <;> cases hstep
    simp only [Counted, Mpsc.senders_clone] at h ⊢
    omega
  | contextChannel =>
    simp only [Client.step] at hstep
    split at hstep <;> cases hstep
    simp only [Counted, Mpsc.senders_clone] at h ⊢
    omega
  | dropClone =>
    simp only [Client.step] at hstep
    split at hstep <;> cases hstep
    next hclones =>
    simp only [Counted, Mpsc.senders_drop, hclones] at h ⊢
    omega
  | wait =>
    simp only [Client.step] at hstep
    split at hstep <;> cases hstep
    next hhandle =>
    simp only [Counted, hhandle] at h ⊢
    exact h
  | dropHandle =>
    simp only [Client.step] at hstep
    split at hstep <;> cases hstep
    all_goals
      next hhandle =>
      simp only [Counted, Mpsc.senders_drop, hhandle, ClientHandle.senders] at h ⊢
      omega
  | send command =>
    simp only [Client.step] at hstep
    split at hstep
    next =>
      obtain ⟨channel, hsend, rfl⟩ := Option.map_eq_some_iff.1 hstep
      exact h.of_channel (Mpsc.senders_send hsend)
    next => cases hstep
  | opened result =>
    simp only [Client.step] at hstep
    split at hstep <;> cases hstep <;> exact h.goto _
  | read =>
    simp only [Client.step] at hstep
    split at hstep <;> cases hstep
    exact h.goto _
  | leave stop =>
    simp only [Client.step] at hstep
    split at hstep <;> cases hstep
    exact h.goto _
  | recv =>
    simp only [Client.step] at hstep
    split at hstep
    next =>
      split at hstep
      next hrecv => cases hstep; exact (h.of_channel (Mpsc.senders_recv hrecv)).goto _
      next hrecv => cases hstep; exact (h.of_channel (Mpsc.senders_recv hrecv)).goto _
      next => cases hstep
    next => cases hstep
  | done result =>
    simp only [Client.step] at hstep
    split at hstep <;> cases hstep <;> exact h.goto _
  | idle =>
    simp only [Client.step] at hstep
    split at hstep <;> cases hstep
    exact h.goto _
  | closed =>
    simp only [Client.step] at hstep
    split at hstep <;> cases hstep
    exact h.goto _
  | panic =>
    simp only [Client.step] at hstep
    split at hstep <;> cases hstep <;> exact h.goto _

theorem counted_run {transport : ClientTransport} {outboundQueueSize : Nat}
    {actions : List (ClientAction W)}
    (h : step.run (started transport outboundQueueSize) actions = some client) : client.Counted :=
  step.run_invariant Counted (counted_started transport outboundQueueSize)
    (fun _ _ _ _ hcounted hstep => hcounted.step hstep) h

/-- The application has neither the handle nor a channel, and the queue is empty. -/
structure Abandoned (client : Client W) : Prop where
  handle : client.handle = .dropped
  clones : client.clones = 0
  queue : client.channel.items = []

/-- The receive branch of the task is ready with `None`. -/
def RecvClosed (client : Client W) : Prop := ∃ channel, client.channel.recv = some (none, channel)

/-- The receive branch of an abandoned client waits for a command that cannot come. -/
theorem recv_of_abandoned (transport : ClientTransport) (outboundQueueSize : Nat)
    (actions : List (ClientAction W)) (client : Client W)
    (h : step.run (started transport outboundQueueSize) actions = some client)
    (habandoned : client.Abandoned) (hlive : client.phase.Live) :
    client.channel.recv = none ∧ ¬client.RecvClosed := by
  have hcounted : client.channel.senders = _ := counted_run h
  have hphase := hlive.senders_ne_zero client.transport
  have hrecv : client.channel.recv = none :=
    Mpsc.recv_eq_none_iff.2 ⟨habandoned.queue, by omega⟩
  refine ⟨hrecv, ?_⟩
  rintro ⟨channel, hclosed⟩
  cases hrecv.symm.trans hclosed

/-- The connection is open, and its handle dropped. -/
theorem recv_of_abandoned_dropped :
    ∃ client : Client Unit, client.Abandoned ∧ client.phase = .select ∧
      client.channel.recv = none ∧ ¬client.RecvClosed :=
  ⟨_, ⟨rfl, rfl, rfl⟩, rfl, recv_of_abandoned .tcp 1024 [.opened (.ok ()), .dropHandle] _ rfl
    ⟨rfl, rfl, rfl⟩ trivial⟩

/-- A client of either kind that only its peer can stop. -/
theorem abandoned_not_recvClosed :
    (∃ client : Client Unit,
      step.run (started .tcp 1024) [.opened (.ok ()), .dropHandle] = some client ∧
        client.Abandoned ∧ client.phase = .select ∧ ¬client.RecvClosed) ∧
    ∃ client : Client Unit,
      step.run (started .udp 1024) [.opened (.ok ()), .dropHandle] = some client ∧
        client.Abandoned ∧ client.phase = .select ∧ ¬client.RecvClosed :=
  ⟨⟨_, rfl, ⟨rfl, rfl, rfl⟩, rfl, nofun⟩, _, rfl, ⟨rfl, rfl, rfl⟩, rfl, nofun⟩

end Client

end RsNetty
