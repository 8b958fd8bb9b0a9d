import RsNetty.Theory.WaitFor
import RsNetty.Transport.Tcp.CrossWrites
import Mathlib.Data.Fintype.EquivFin

/-!
# Deadlocks of handlers

A handler that awaits a place in the queue of a connection, or its acknowledgement, waits for the
task of that connection, which provides neither as long as it runs a handler itself. Handlers that
wait for each other in a circle wait forever, and a single one does if it waits for its own
connection.
-/

namespace RsNetty
open Relation

namespace ConnectionLoop
variable {K : Type} {connection connection' : ConnectionLoop K} {command : QueuedCommand K}

theorem mem_unanswered_of_items (h : command ∈ connection.rx.items) :
    command ∈ connection.unanswered := by
  unfold unanswered
  split
  · exact .tail _ h
  · exact h

theorem unanswered_of_stage (h : ∀ command, connection.stage ≠ .command command) :
    connection.unanswered = connection.rx.items := by
  unfold unanswered
  split
  next hstage => exact (h _ hstage).elim
  next => rfl

/-- What is unanswered is in the queue or is being carried out. -/
theorem mem_unanswered_mono (hmem : command ∈ connection.unanswered)
    (hstage : connection'.stage = connection.stage)
    (h : command ∈ connection.rx.items → command ∈ connection'.rx.items) :
    command ∈ connection'.unanswered := by
  unfold unanswered at hmem ⊢
  rw [hstage]
  split at hmem
  · exact (List.mem_cons.1 hmem).elim (fun heq => heq ▸ .head _) fun hitems => .tail _ (h hitems)
  · exact h hmem

end ConnectionLoop

namespace Connections

section
variable {K : Type} {s t u : Connections K} {x y : K}

/-- The handler of `k` awaits what only the task of `j` can provide: a place in its full queue, or the
acknowledgement of a command that it has not carried out. -/
def WaitsFor (s : Connections K) (k j : K) : Prop :=
  match (s k).stage with
  | .sending j' => j' = j ∧ ∃ kind, ⟨some k, kind⟩ ∈ (s j).rx.waiting
  | .awaiting j' => j' = j ∧ ⟨some k, .writeAndFlush⟩ ∈ (s j).unanswered
  | _ => False

/-- The handlers of the connections in the set wait for nobody else. -/
def Deadlocked (s : Connections K) (connections : Set K) : Prop :=
  WaitFor.Stuck s.WaitsFor connections

theorem WaitsFor.stage (h : s.WaitsFor x y) :
    (s x).stage = .sending y ∨ (s x).stage = .awaiting y := by
  unfold WaitsFor at h
  split at h
  next hstage => exact .inl (h.1 ▸ hstage)
  next hstage => exact .inr (h.1 ▸ hstage)
  next => exact h.elim

/-- From `s` to `t`, nothing is added to what the handler of `x` waits for. -/
structure Eases (x : K) (s t : Connections K) : Prop where
  stage : (t x).stage = (s x).stage
  waiting : ∀ y kind, ⟨some x, kind⟩ ∈ (t y).rx.waiting → ⟨some x, kind⟩ ∈ (s y).rx.waiting
  unanswered : ∀ y, ⟨some x, .writeAndFlush⟩ ∈ (t y).unanswered →
    ⟨some x, .writeAndFlush⟩ ∈ (s y).unanswered

theorem Eases.waitsFor (h : Eases x s t) (hwait : t.WaitsFor x y) : s.WaitsFor x y := by
  unfold WaitsFor at hwait ⊢
  rw [h.stage] at hwait
  split at hwait
  next hstage =>
    obtain ⟨rfl, kind, hmem⟩ := hwait
    exact ⟨rfl, kind, h.waiting _ kind hmem⟩
  next hstage =>
    obtain ⟨rfl, hmem⟩ := hwait
    exact ⟨rfl, h.unanswered _ hmem⟩
  next => exact hwait.elim

theorem Eases.trans (h : Eases x s t) (h' : Eases x t u) : Eases x s u where
  stage := h'.stage.trans h.stage
  waiting y kind hmem := h.waiting y kind (h'.waiting y kind hmem)
  unanswered y hmem := h.unanswered y (h'.unanswered y hmem)

end

variable {K : Type} [DecidableEq K] {s t : Connections K} {k j x y : K}

/-- The wait that begins with a step, if one does. -/
def nextWait (s : Connections K) : ConnectionsAction K → Option (K × K)
  | .task k (.write j flush) =>
    if ¬(s j).isEnded ∧ (flush ∨ (s j).rx.Full) then some (k, j) else none
  | .task k .resume =>
    match (s k).stage with
    | .sending j =>
      if (s j).isEnded then none
      else
        match (s j).rx.commit (·.sender = some k) with
        | some ({ kind := .writeAndFlush, .. }, _) => some (k, j)
        | _ => none
    | _ => none
  | _ => none

/-! ## Steps of other tasks -/

@[simp] theorem goto_self (stage : LoopStage K) :
    s.goto k stage k = { s k with stage } := Function.update_self ..

theorem goto_of_ne (stage : LoopStage K) (h : x ≠ k) : s.goto k stage x = s x :=
  Function.update_of_ne h ..

@[simp] theorem goto_rx (stage : LoopStage K) : (s.goto k stage x).rx = (s x).rx := by
  by_cases h : x = k
  · rw [h, goto_self]
  · rw [goto_of_ne stage h]

@[simp] theorem setRx_self (rx : BoundedQueue (QueuedCommand K)) :
    s.setRx j rx j = { s j with rx } := Function.update_self ..

theorem setRx_of_ne (rx : BoundedQueue (QueuedCommand K)) (h : x ≠ j) : s.setRx j rx x = s x :=
  Function.update_of_ne h ..

@[simp] theorem setRx_stage (rx : BoundedQueue (QueuedCommand K)) :
    (s.setRx j rx x).stage = (s x).stage := by
  by_cases h : x = j
  · rw [h, setRx_self]
  · rw [setRx_of_ne rx h]

theorem eases_goto (hx : x ≠ k) (stage : LoopStage K)
    (hstage : ∀ command, stage ≠ .command command) : Eases x s (s.goto k stage) where
  stage := by rw [goto_of_ne stage hx]
  waiting y kind hmem := by rwa [goto_rx] at hmem
  unanswered y hmem := by
    by_cases hy : y = k
    · subst hy
      rw [goto_self, ConnectionLoop.unanswered_of_stage hstage] at hmem
      exact ConnectionLoop.mem_unanswered_of_items hmem
    · rwa [goto_of_ne stage hy] at hmem

theorem eases_setRx {rx : BoundedQueue (QueuedCommand K)}
    (hwaiting : ∀ kind, ⟨some x, kind⟩ ∈ rx.waiting → ⟨some x, kind⟩ ∈ (s j).rx.waiting)
    (hitems : ∀ kind, ⟨some x, kind⟩ ∈ rx.items → ⟨some x, kind⟩ ∈ (s j).rx.items) :
    Eases x s (s.setRx j rx) where
  stage := setRx_stage rx
  waiting y kind hmem := by
    by_cases hy : y = j
    · subst hy
      rw [setRx_self] at hmem
      exact hwaiting kind hmem
    · rwa [setRx_of_ne rx hy] at hmem
  unanswered y hmem := by
    by_cases hy : y = j
    · subst hy
      rw [setRx_self] at hmem
      exact ConnectionLoop.mem_unanswered_mono hmem rfl (hitems .writeAndFlush)
    · rwa [setRx_of_ne rx hy] at hmem

theorem eases_offer {command : QueuedCommand K} (hx : command.sender ≠ some x) :
    Eases x s (s.setRx j ((s j).rx.offer command)) := by
  apply eases_setRx
  · intro kind hmem
    exact (BoundedQueue.mem_waiting_offer hmem).resolve_right fun h => hx (h ▸ rfl)
  · intro kind hmem
    exact (BoundedQueue.mem_items_offer hmem).resolve_right fun h => hx (h ▸ rfl)

theorem eases_commit {p : QueuedCommand K → Bool} {command : QueuedCommand K}
    {rx : BoundedQueue (QueuedCommand K)} (h : (s j).rx.commit p = some (command, rx))
    (hx : command.sender ≠ some x) : Eases x s (s.setRx j rx) := by
  obtain ⟨-, hitems, hwaiting⟩ := BoundedQueue.commit_eq_some h
  apply eases_setRx
  · intro kind hmem
    rwa [hwaiting] at hmem
  · intro kind hmem
    rw [hitems, List.mem_append, List.mem_singleton] at hmem
    exact hmem.resolve_right fun h => hx (h ▸ rfl)

theorem eases_stop (hx : x ≠ k) : Eases x s (s.stop k) := by
  have hclose : Eases x s (s.setRx k (s k).rx.close) :=
    eases_setRx (fun _ hmem => nomatch hmem) fun _ hmem => nomatch hmem
  exact hclose.trans (eases_goto hx .ended nofun)

theorem eases_receive {command : QueuedCommand K} {rx : BoundedQueue (QueuedCommand K)}
    (h : (s k).rx.receive = some (command, rx)) (hx : x ≠ k) :
    Eases x s ((s.setRx k rx).goto k (.command command)) := by
  obtain ⟨hitems, hwaiting⟩ := BoundedQueue.receive_eq_some h
  constructor
  · rw [goto_of_ne _ hx, setRx_stage]
  · intro y kind hmem
    rw [goto_rx] at hmem
    by_cases hy : y = k
    · subst hy
      rw [setRx_self] at hmem
      exact hwaiting hmem
    · rwa [setRx_of_ne rx hy] at hmem
  · intro y hmem
    by_cases hy : y = k
    · subst hy
      rw [goto_self, setRx_self] at hmem
      exact ConnectionLoop.mem_unanswered_of_items (hitems ▸ hmem)
    · rwa [goto_of_ne _ hy, setRx_of_ne rx hy] at hmem

theorem eases_sent (hx : x ≠ k) (kind : CommandKind) : Eases x s (s.sent k j kind) := by
  cases kind with
  | writeAndFlush => exact eases_goto hx (.awaiting j) nofun
  | write | close => exact eases_goto hx .handler nofun

/-! ## Waits that begin -/

/-- A step of a task to where it awaits nothing begins no wait. -/
theorem waitsFor_of_goto {stage : LoopStage K}
    (hstage : stage = .select ∨ stage = .read ∨ stage = .handler)
    (h : (s.goto k stage).WaitsFor x y) : s.WaitsFor x y := by
  have hplain : (∀ command, stage ≠ .command command) ∧ stage ≠ .sending y ∧ stage ≠ .awaiting y := by
    rcases hstage with rfl | rfl | rfl <;> exact ⟨nofun, nofun, nofun⟩
  by_cases hx : x = k
  · subst hx
    have hwaits := h.stage
    rw [goto_self] at hwaits
    exact (hwaits.elim hplain.2.1 hplain.2.2).elim
  · exact (eases_goto hx stage hplain.1).waitsFor h

theorem waitsFor_of_stop (h : (s.stop k).WaitsFor x y) : s.WaitsFor x y := by
  by_cases hx : x = k
  · subst hx
    have hwaits := h.stage
    rw [stop, goto_self] at hwaits
    rcases hwaits with hwaits | hwaits <;> cases hwaits
  · exact (eases_stop hx).waitsFor h

theorem waitsFor_of_receive {command : QueuedCommand K} {rx : BoundedQueue (QueuedCommand K)}
    (hreceive : (s k).rx.receive = some (command, rx))
    (h : ((s.setRx k rx).goto k (.command command)).WaitsFor x y) : s.WaitsFor x y := by
  by_cases hx : x = k
  · subst hx
    have hwaits := h.stage
    rw [goto_self] at hwaits
    rcases hwaits with hwaits | hwaits <;> cases hwaits
  · exact (eases_receive hreceive hx).waitsFor h

theorem waitsFor_sent {kind : CommandKind} (h : (s.sent k j kind).WaitsFor k y) :
    kind = .writeAndFlush ∧ y = j := by
  have hwaits := h.stage
  cases kind with
  | writeAndFlush =>
    rw [sent, goto_self] at hwaits
    rcases hwaits with hwaits | hwaits
    · cases hwaits
    · cases hwaits
      exact ⟨rfl, rfl⟩
  | write | close =>
    rw [sent, goto_self] at hwaits
    rcases hwaits with hwaits | hwaits <;> cases hwaits

theorem waitsFor_write {flush : Bool} (h : (s.write k j flush).WaitsFor x y) :
    s.WaitsFor x y ∨ s.nextWait (.task k (.write j flush)) = some (x, y) := by
  simp only [write] at h
  split at h
  next => exact .inl h
  next hopen =>
    by_cases hx : x = k
    · subst hx
      right
      split at h
      next hfull =>
        have hwaits := h.stage
        rw [goto_self] at hwaits
        rcases hwaits with hwaits | hwaits <;> cases hwaits
        exact if_pos ⟨hopen, .inr hfull⟩
      next =>
        obtain ⟨hkind, rfl⟩ := waitsFor_sent h
        have hflush : flush = true := by
          by_contra hflush
          rw [if_neg hflush] at hkind
          cases hkind
        exact if_pos ⟨hopen, .inl hflush⟩
    · have hoffer {kind : CommandKind} :
          Eases x s (s.setRx j ((s j).rx.offer ⟨some k, kind⟩)) :=
        eases_offer fun h => hx (Option.some.inj h).symm
      left
      split at h
      next => exact (hoffer.trans (eases_goto hx (.sending j) nofun)).waitsFor h
      next => exact (hoffer.trans (eases_sent hx _)).waitsFor h

theorem waitsFor_resume (hstep : s.resume k = some t) (h : t.WaitsFor x y) :
    s.WaitsFor x y ∨ s.nextWait (.task k .resume) = some (x, y) := by
  unfold resume at hstep
  split at hstep
  next j hstage =>
    split at hstep
    next =>
      cases hstep
      exact .inl (waitsFor_of_goto (.inr (.inr rfl)) h)
    next hopen =>
      split at hstep
      next command rx hcommit =>
        cases hstep
        by_cases hx : x = k
        · subst hx
          obtain ⟨hkind, rfl⟩ := waitsFor_sent h
          obtain ⟨sender, kind⟩ := command
          cases hkind
          right
          simp only [nextWait, hstage]
          rw [if_neg hopen, hcommit]
        · have hsender : command.sender = some k :=
            of_decide_eq_true (BoundedQueue.commit_eq_some hcommit).1
          have hne : command.sender ≠ some x :=
            fun heq => hx (Option.some.inj (heq.symm.trans hsender))
          exact .inl (((eases_commit hcommit hne).trans (eases_sent hx _)).waitsFor h)
      next => cases hstep
  next j hstage =>
    split at hstep
    next => cases hstep
    next =>
      cases hstep
      exact .inl (waitsFor_of_goto (.inr (.inr rfl)) h)
  next => cases hstep

theorem waitsFor_stepTask {action : TaskAction K} (hstep : s.stepTask k action = some t)
    (h : t.WaitsFor x y) : s.WaitsFor x y ∨ s.nextWait (.task k action) = some (x, y) := by
  cases action with
  | write j flush =>
    simp only [stepTask] at hstep
    split at hstep <;> cases hstep
    exact waitsFor_write h
  | resume => exact waitsFor_resume hstep h
  | opened result =>
    left
    simp only [stepTask] at hstep
    split at hstep <;> cases hstep
    · exact waitsFor_of_goto (.inl rfl) h
    · exact waitsFor_of_stop h
  | read =>
    left
    simp only [stepTask] at hstep
    split at hstep <;> cases hstep
    exact waitsFor_of_goto (.inr (.inl rfl)) h
  | call =>
    left
    simp only [stepTask] at hstep
    split at hstep <;> cases hstep
    exact waitsFor_of_goto (.inr (.inr rfl)) h
  | returned =>
    left
    simp only [stepTask] at hstep
    split at hstep <;> cases hstep
    exact waitsFor_of_goto (.inr (.inl rfl)) h
  | leave stop =>
    left
    simp only [stepTask] at hstep
    split at hstep <;> cases hstep
    split at h
    · exact waitsFor_of_stop h
    · exact waitsFor_of_goto (.inl rfl) h
  | receive =>
    left
    simp only [stepTask] at hstep
    split at hstep
    next =>
      split at hstep
      next hreceive =>
        cases hstep
        exact waitsFor_of_receive hreceive h
      next => cases hstep
    next => cases hstep
  | done result =>
    left
    simp only [stepTask] at hstep
    split at hstep <;> cases hstep
    · exact waitsFor_of_stop h
    · exact waitsFor_of_stop h
    · exact waitsFor_of_goto (.inl rfl) h
  | stop =>
    left
    simp only [stepTask] at hstep
    split at hstep <;> cases hstep
    exact waitsFor_of_stop h
  | panic =>
    left
    simp only [stepTask] at hstep
    split at hstep <;> cases hstep <;> exact waitsFor_of_stop h

/-- A wait that is new after a step is the one that the step begins. -/
theorem waitsFor_step {action : ConnectionsAction K} (hstep : step s action = some t)
    (h : t.WaitsFor x y) : s.WaitsFor x y ∨ s.nextWait action = some (x, y) := by
  cases action with
  | task k action => exact waitsFor_stepTask hstep h
  | offer j kind =>
    simp only [step] at hstep
    split at hstep <;> cases hstep
    have hoffer : Eases x s (s.setRx j ((s j).rx.offer ⟨none, kind⟩)) := eases_offer nofun
    exact .inl (hoffer.waitsFor h)
  | commit j =>
    simp only [step] at hstep
    split at hstep
    next command rx hcommit =>
      cases hstep
      have hsender : command.sender = none :=
        of_decide_eq_true (BoundedQueue.commit_eq_some hcommit).1
      exact .inl ((eases_commit hcommit (hsender ▸ nofun)).waitsFor h)
    next => cases hstep

/-! ## Waits that go on -/

theorem eases_goto_back (hx : x ≠ k) (stage : LoopStage K)
    (hstage : ∀ command, (s k).stage ≠ .command command) : Eases x (s.goto k stage) s := by
  have hback : (s.goto k stage).goto k (s k).stage = s := by
    simp only [goto, Function.update_self, Function.update_idem]
    exact Function.update_eq_self k s
  have hgoto := eases_goto (s := s.goto k stage) hx (s k).stage hstage
  rwa [hback] at hgoto

theorem eases_setRx_back {rx : BoundedQueue (QueuedCommand K)}
    (hwaiting : (s j).rx.waiting ⊆ rx.waiting) (hitems : (s j).rx.items ⊆ rx.items) :
    Eases x (s.setRx j rx) s := by
  have hback : (s.setRx j rx).setRx j (s j).rx = s := by
    simp only [setRx, Function.update_self, Function.update_idem]
    exact Function.update_eq_self j s
  have hsetRx : Eases x (s.setRx j rx) ((s.setRx j rx).setRx j (s j).rx) := by
    apply eases_setRx
    · intro kind hmem
      rw [setRx_self]
      exact hwaiting hmem
    · intro kind hmem
      rw [setRx_self]
      exact hitems hmem
  rwa [hback] at hsetRx

theorem eases_sent_back (hx : x ≠ k) (kind : CommandKind)
    (hstage : ∀ command, (s k).stage ≠ .command command) : Eases x (s.sent k j kind) s := by
  cases kind with
  | writeAndFlush => exact eases_goto_back hx (.awaiting j) hstage
  | write | close => exact eases_goto_back hx .handler hstage

/-- A handler that has put its command into the queue awaits the acknowledgement. -/
theorem waitsFor_awaiting (h : ⟨some k, .writeAndFlush⟩ ∈ (s j).rx.items) :
    (s.sent k j .writeAndFlush).WaitsFor k j := by
  have hmem : ⟨some k, .writeAndFlush⟩ ∈ (s.sent k j .writeAndFlush j).unanswered := by
    apply ConnectionLoop.mem_unanswered_of_items
    rwa [sent, goto_rx]
  unfold WaitsFor
  rw [show (s.sent k j .writeAndFlush k).stage = .awaiting j by rw [sent, goto_self]]
  exact ⟨rfl, hmem⟩

theorem waitsFor_sending {kind : CommandKind} (h : ⟨some k, kind⟩ ∈ (s j).rx.waiting) :
    (s.goto k (.sending j)).WaitsFor k j := by
  unfold WaitsFor
  rw [goto_self]
  exact ⟨rfl, kind, by rwa [goto_rx]⟩

/-- A wait that a step begins is there after it, with those of the other handlers. -/
theorem nextWait_step {action : ConnectionsAction K} (hstep : step s action = some t)
    (hnext : s.nextWait action = some (k, j)) :
    t.WaitsFor k j ∧ ∀ x y, x ≠ k → s.WaitsFor x y → t.WaitsFor x y := by
  unfold nextWait at hnext
  split at hnext
  next k' j' flush =>
    split at hnext
    next hbegins =>
      cases hnext
      obtain ⟨hopen, hflush⟩ := hbegins
      simp only [step, stepTask] at hstep
      split at hstep <;> cases hstep
      next hstage =>
      have hcommand {rx : BoundedQueue (QueuedCommand K)} (command : QueuedCommand K) :
          (s.setRx j rx k).stage ≠ .command command := by
        rw [setRx_stage, hstage]
        exact nofun
      have hoffer (command : QueuedCommand K) (x : K) :
          Eases x (s.setRx j ((s j).rx.offer command)) s :=
        eases_setRx_back (BoundedQueue.waiting_subset_offer _ _) (BoundedQueue.items_subset_offer _ _)
      simp only [write, if_neg hopen]
      split
      next hfull =>
        constructor
        · apply waitsFor_sending
          rw [setRx_self, BoundedQueue.offer_of_full hfull]
          exact List.mem_append_right _ (List.mem_singleton_self _)
        · intro x y hx
          exact ((eases_goto_back hx _ hcommand).trans (hoffer _ x)).waitsFor
      next hroom =>
        rw [if_pos (hflush.resolve_right hroom)]
        constructor
        · apply waitsFor_awaiting
          rw [setRx_self, BoundedQueue.offer_of_not_full hroom]
          exact List.mem_append_right _ (List.mem_singleton_self _)
        · intro x y hx
          exact ((eases_sent_back hx _ hcommand).trans (hoffer _ x)).waitsFor
    next => cases hnext
  next k' =>
    split at hnext
    next j' hstage =>
      split at hnext
      next => cases hnext
      next hopen =>
        split at hnext
        next sender rx hcommit =>
          cases hnext
          simp only [step, stepTask, resume, hstage, if_neg hopen, hcommit] at hstep
          cases hstep
          obtain ⟨hsender, hitems, hwaiting⟩ := BoundedQueue.commit_eq_some hcommit
          obtain rfl : sender = some k := of_decide_eq_true hsender
          constructor
          · apply waitsFor_awaiting
            rw [setRx_self, hitems]
            exact List.mem_append_right _ (List.mem_singleton_self _)
          · intro x y hx
            have hcommand (command : QueuedCommand K) :
                (s.setRx j rx k).stage ≠ .command command := by
              rw [setRx_stage, hstage]
              exact nofun
            have hback : Eases x (s.setRx j rx) s :=
              eases_setRx_back (fun _ hmem => hwaiting ▸ hmem)
                fun _ hmem => hitems ▸ List.mem_append_left _ hmem
            exact ((eases_sent_back hx _ hcommand).trans hback).waitsFor
        next => cases hnext
    next => cases hnext
  next => cases hnext

/-! ## Runs -/

/-- The step does not begin a wait for a connection whose handler waits, directly or through others,
for that of the step. -/
def ClosesNoCycle (s : Connections K) (action : ConnectionsAction K) (_ : Connections K) : Prop :=
  ∀ k j, s.nextWait action = some (k, j) → ¬ReflTransGen s.WaitsFor j k

theorem acyclic_step {action : ConnectionsAction K} (h : WaitFor.Acyclic s.WaitsFor)
    (hstep : step s action = some t) (hcloses : s.ClosesNoCycle action t) :
    WaitFor.Acyclic t.WaitsFor := by
  cases hnext : s.nextWait action with
  | none =>
    have hsub (x y : K) (hxy : t.WaitsFor x y) : s.WaitsFor x y :=
      (waitsFor_step hstep hxy).resolve_right fun hsome => nomatch hnext.symm.trans hsome
    exact fun k hcycle => h k (TransGen.mono hsub k k hcycle)
  | some wait =>
    obtain ⟨k, j⟩ := wait
    refine h.insert (a := k) (b := j) (fun x y hxy => ?_) (hcloses k j hnext)
    refine (waitsFor_step hstep hxy).imp_right fun hsome => ?_
    cases hnext.symm.trans hsome
    exact ⟨rfl, rfl⟩

omit [DecidableEq K] in
theorem acyclic_spawned (outboundQueueSize : K → Nat) :
    WaitFor.Acyclic (spawned outboundQueueSize).WaitsFor := by
  intro k hcycle
  obtain ⟨j, hwaits, -⟩ := TransGen.head'_iff.1 hcycle
  rcases hwaits.stage with hstage | hstage <;> cases hstage

/-- Handlers never deadlock exactly in the runs in which none begins to wait for one that waits for
it. -/
theorem never_deadlocked_iff [Fintype K] (outboundQueueSize : K → Nat)
    (actions : List (ConnectionsAction K)) :
    (∀ before s, before <+: actions → step.run (spawned outboundQueueSize) before = some s →
      ∀ connections, ¬s.Deadlocked connections) ↔
      step.Steps ClosesNoCycle (spawned outboundQueueSize) actions := by
  constructor
  · rintro h before action after s t rfl hs ht k j hnext hpath
    obtain ⟨hbegin, hkeep⟩ := nextWait_step ht hnext
    have hcycle := WaitFor.not_acyclic_of_insert hbegin hkeep hpath
    refine hcycle (WaitFor.acyclic_iff_not_stuck.2 ?_)
    apply h (before ++ [action]) t
    · exact ⟨after, by simp⟩
    · exact Machine.run_concat_eq_some.2 ⟨s, hs, ht⟩
  · rintro h before s ⟨after, rfl⟩ hs
    have hacyclic : WaitFor.Acyclic s.WaitsFor :=
      h.of_append.run_invariant (fun s => WaitFor.Acyclic s.WaitsFor)
        (acyclic_spawned outboundQueueSize)
        (fun _ _ _ hacyclic hcloses hstep => acyclic_step hacyclic hstep hcloses) hs
    exact WaitFor.acyclic_iff_not_stuck.1 hacyclic

/-- Two handlers write to each other's connections, and wait for each other's acknowledgement. -/
theorem deadlocked_crossWrites :
    ∃ s, step.run (spawned fun _ : Bool => 1024)
        [.task false (.opened (.ok ())), .task true (.opened (.ok ())),
          .task false .read, .task true .read, .task false .call, .task true .call,
          .task false (.write true true), .task true (.write false true)] = some s ∧
      s.Deadlocked {false, true} := by
  refine ⟨_, rfl, ⟨false, .inl rfl⟩, ?_⟩
  rintro k (rfl | rfl)
  · exact ⟨true, .inr rfl, rfl, .head _⟩
  · exact ⟨false, .inl rfl, rfl, .head _⟩

end Connections

end RsNetty
