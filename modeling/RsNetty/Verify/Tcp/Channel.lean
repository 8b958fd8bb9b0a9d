import RsNetty.Transport.Tcp.Peers
import RsNetty.Verify.Tcp.Acks

/-!
# Steps of a connection task with its channel

A step queues a command or is a turn of the task (`step_cases`). What the result of a turn is known
to satisfy holds of the task behind it (`turn_holds`).
-/

namespace RsNetty
open EStateM Traced StreamConnectionRuntime

variable {P : StreamStages}

namespace StreamChannel

variable {env : Surroundings} {s u : StreamChannel P} {action : ChannelAction P}

/-- A step that leaves the task alone and may put commands into its queue, or a turn. -/
inductive StepCase (env : Surroundings) (s : StreamChannel P) (action : ChannelAction P) :
    StreamChannel P → Prop
  | sent : t.rt = s.rt → t.status = s.status → action.bytes = [] → t.queued = s.queued ++ more →
      (s.status.isOver = false → t.queue = s.queue ++ more) → StepCase env s action t
  | turned : s.status.isRunning = true → s.event? action = some (event, left) →
      event.bytes = action.bytes → StepCase env s action (s.turn env event left)

theorem send_cases {command : StreamCommand P.Write} {next : Sender}
    (hbytes : action.bytes = []) (h : { s with next }.send command = some u) :
    StepCase env s action u := by
  rw [send] at h
  split at h
  next hover =>
    cases h
    have hqueued : s.queued = s.queued ++ [] := (List.append_nil _).symm
    exact .sent rfl rfl hbytes hqueued fun hopen =>
      (Bool.false_ne_true (hopen.symm.trans hover)).elim
  next =>
    split at h
    next =>
      cases h
      exact .sent rfl rfl hbytes rfl fun _ => rfl
    next => cases h

theorem event?_bytes {event : Event P.Write} {left : List (StreamCommand P.Write)}
    (h : s.event? action = some (event, left)) : event.bytes = action.bytes := by
  cases action with
  | recv =>
    rw [event?] at h
    split at h <;> cases h <;> rfl
  | read read =>
    cases h
    cases read <;> rfl
  | shutdown | idle =>
    cases h
    rfl
  | write | writeAndFlush | close => cases h

theorem act_cases (h : s.act env action = some u) : StepCase env s action u := by
  rw [act] at h
  split at h
  next event left hevent =>
    split at h
    next hrunning =>
      cases h
      exact .turned hrunning hevent (event?_bytes hevent)
    next => cases h
  next => cases h

theorem step_cases (h : step env s action = some u) : StepCase env s action u := by
  cases action with
  | write msg => exact send_cases rfl h
  | writeAndFlush msg => exact send_cases rfl h
  | close => exact send_cases rfl h
  | recv => exact act_cases h
  | read read => exact act_cases h
  | shutdown => exact act_cases h
  | idle => exact act_cases h

theorem turn_queued (event : Event P.Write) (left : List (StreamCommand P.Write)) :
    (s.turn env event left).queued = s.queued := by
  rw [turn]
  split <;> rfl

/-- A task that runs on keeps its queue. -/
theorem turn_queue {event : Event P.Write} {left : List (StreamCommand P.Write)}
    (h : (s.turn env event left).status.isRunning = true) :
    (s.turn env event left).queue = left := by
  rw [turn] at h ⊢
  split <;> simp_all [TaskStatus.isRunning]

/-- A task that runs on is what its turn returned. -/
theorem turn_holds {event : Event P.Write} {I K : StreamConnectionRuntime P → Prop}
    (left : List (StreamCommand P.Write))
    (h : ((select env event).result s.rt).Holds (fun closed t => I t ∧ (closed = none → K t))
      fun _ => I) :
    I (s.turn env event left).rt ∧
      ((s.turn env event left).status.isRunning = true → K (s.turn env event left).rt) := by
  rw [turn]
  cases hresult : (select env event).result s.rt with
  | ok closed t =>
    rw [hresult] at h
    obtain ⟨hI, hK⟩ := h
    cases closed with
    | none => exact ⟨hI, fun _ => hK rfl⟩
    | some reason => exact ⟨hI, fun h => (Bool.false_ne_true h).elim⟩
  | error e t =>
    rw [hresult] at h
    cases e with
    | err e => exact ⟨h, fun h => (Bool.false_ne_true h).elim⟩
    | panic => exact ⟨h, fun h => (Bool.false_ne_true h).elim⟩
    | hang => exact ⟨h, fun h => (Bool.false_ne_true h).elim⟩

end StreamChannel

end RsNetty
