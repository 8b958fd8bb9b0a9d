import RsNetty.Transport.Shutdown

/-!
# Shutdown requests

Once the flag is set, no loop of a server stays in its `select!`: whoever is in it has looked at the
flag before, and has not seen what was sent since. The flag is the only thing that stops a TCP server,
whose task has a sender of its own. A UDP server stops as well when its handle is dropped.
-/

namespace RsNetty

variable {flag : Watch Bool} {senders receivers : Nat} {rx : Watch.Receiver}

/-- Nothing but `true` was sent. -/
def OnlySet (flag : Watch Bool) : Prop := flag.value = true ↔ flag.version ≠ 0

theorem OnlySet.send (h : OnlySet flag) (receivers : Nat) : OnlySet (flag.send receivers true) := by
  unfold Watch.send
  split
  · exact h
  · exact iff_of_true rfl (Nat.succ_ne_zero _)

/-! ## The task of a connection or of a socket -/

/-- The loop is not left yet. -/
def LoopPhase.Live : LoopPhase → Prop
  | .opening | .loopHead | .select | .branch => True
  | .left _ | .ended => False

namespace LoopTask

variable {task task' : LoopTask} {action : LoopAction}

/-- The shutdown branch of the task is ready. -/
def Ready (senders : Nat) (flag : Watch Bool) (task : LoopTask) : Prop :=
  (Shutdown.wait senders flag task.shutdownRx).isSome

theorem ready_iff (hrx : task.shutdownRx = some rx) :
    task.Ready senders flag ↔ rx.seen ≠ flag.version ∨ senders = 0 := by
  rw [Ready, hrx, Shutdown.wait, Option.isSome_map, Watch.isSome_changed]

/-- A task enters its `select!` from the head of the loop only, and leaves the loop by the shutdown
branch from there and from the `select!` only. -/
theorem step_cases (h : task.step senders flag action = some task') :
    (∃ phase, task' = task.goto phase ∧ phase ≠ .select ∧ phase ≠ .left .shutdown ∧
      (phase.Live → task.phase.Live)) ∨
    (task.phase = .loopHead ∧ task' = task.goto
      (if Shutdown.requested flag task.shutdownRx then .left .shutdown else .select)) ∨
    (task.phase = .select ∧ ∃ shutdownRx,
      Shutdown.wait senders flag task.shutdownRx = some shutdownRx ∧
      task' = { phase := .left .shutdown, shutdownRx }) := by
  have hgoto {phase : LoopPhase} (h : some (task.goto phase) = some task') (hselect : phase ≠ .select)
      (hleft : phase ≠ .left .shutdown) (hlive : phase.Live → task.phase.Live) :
      ∃ phase, task' = task.goto phase ∧ phase ≠ .select ∧ phase ≠ .left .shutdown ∧
        (phase.Live → task.phase.Live) :=
    ⟨phase, (Option.some.inj h).symm, hselect, hleft, hlive⟩
  cases action with
  | opened result =>
    simp only [step] at h
    split at h
    next hphase => cases result <;> exact .inl (hgoto h nofun nofun fun _ => hphase ▸ trivial)
    next => cases h
  | head =>
    simp only [step] at h
    split at h
    next hphase => exact .inr (.inl ⟨hphase, (Option.some.inj h).symm⟩)
    next => cases h
  | shutdown =>
    simp only [step] at h
    split at h
    next hphase =>
      split at h
      next shutdownRx hwait =>
        exact .inr (.inr ⟨hphase, shutdownRx, hwait, (Option.some.inj h).symm⟩)
      next => cases h
    next => cases h
  | enter =>
    simp only [step] at h
    split at h
    next hphase => exact .inl (hgoto h nofun nofun fun _ => hphase ▸ trivial)
    next => cases h
  | leave stop =>
    simp only [step] at h
    split at h
    next hphase => cases stop <;> exact .inl (hgoto h nofun nofun fun _ => hphase ▸ trivial)
    next => cases h
  | closed =>
    simp only [step] at h
    split at h
    next => exact .inl (hgoto h nofun nofun nofun)
    next => cases h
  | panic =>
    simp only [step] at h
    split at h
    next => exact .inl (hgoto h nofun nofun nofun)
    next => exact .inl (hgoto h nofun nofun nofun)
    next => exact .inl (hgoto h nofun nofun nofun)
    next => cases h

/-- Who leaves the loop by the shutdown branch found the flag set at its head, or the branch ready in
the `select!`. -/
theorem step_left (h : task.step senders flag action = some task')
    (hleft : task'.phase = .left .shutdown) :
    (task.phase = .loopHead ∧ Shutdown.requested flag task.shutdownRx = true) ∨
      (task.phase = .select ∧ task.Ready senders flag) := by
  rcases step_cases h with
    ⟨phase, rfl, -, hphase, -⟩ | ⟨hphase, rfl⟩ | ⟨hphase, shutdownRx, hwait, -⟩
  · exact (hphase hleft).elim
  · refine .inl ⟨hphase, ?_⟩
    by_contra hrequested
    rw [if_neg hrequested] at hleft
    cases hleft
  · exact .inr ⟨hphase, Option.isSome_iff_exists.2 ⟨shutdownRx, hwait⟩⟩

/-- The receiver of the task does not know more than was sent, and in the `select!` it does not know
of a shutdown that was asked for. -/
structure Watching (flag : Watch Bool) (task : LoopTask) (rx : Watch.Receiver) : Prop where
  shutdownRx : task.shutdownRx = some rx
  behind : flag.Behind rx
  alert : task.phase = .select → flag.Alert (· = true) rx

theorem Watching.ready (h : task.Watching flag rx) (hphase : task.phase = .select)
    (hvalue : flag.value = true) (senders : Nat) : task.Ready senders flag :=
  (ready_iff h.shutdownRx).2 (.inl (h.alert hphase hvalue))

theorem Watching.send (h : task.Watching flag rx) (receivers : Nat) :
    task.Watching (flag.send receivers true) rx where
  shutdownRx := h.shutdownRx
  behind := h.behind.send receivers true
  alert hphase := (h.alert hphase).send h.behind receivers true

theorem Watching.goto (h : task.Watching flag rx) {phase : LoopPhase} (hphase : phase ≠ .select) :
    (task.goto phase).Watching flag rx :=
  ⟨h.shutdownRx, h.behind, fun hselect => (hphase hselect).elim⟩

theorem Watching.step (h : task.Watching flag rx) (hstep : task.step senders flag action = some task') :
    ∃ rx, task'.Watching flag rx := by
  rcases step_cases hstep with ⟨phase, rfl, hselect, -, -⟩ | ⟨-, rfl⟩ | ⟨-, shutdownRx, hwait, rfl⟩
  · exact ⟨rx, h.goto hselect⟩
  · rw [h.shutdownRx, Shutdown.requested]
    split
    next => exact ⟨rx, h.goto nofun⟩
    next hvalue => exact ⟨rx, h.shutdownRx, h.behind, fun _ => Watch.alert_of_not hvalue rx⟩
  · rw [h.shutdownRx, Shutdown.wait, Option.map_eq_some_iff] at hwait
    obtain ⟨⟨result, rx'⟩, hchanged, rfl⟩ := hwait
    exact ⟨rx', rfl, Watch.behind_of_changed h.behind hchanged, nofun⟩

/-- Where there is a sender, only the flag makes a task leave its loop by the shutdown branch. -/
theorem Watching.left (h : task.Watching flag rx) (hflag : OnlySet flag) (hsenders : senders ≠ 0)
    (hstep : task.step senders flag action = some task') (hleft : task'.phase = .left .shutdown) :
    flag.value = true := by
  rcases step_left hstep hleft with ⟨-, hrequested⟩ | ⟨-, hready⟩
  · rwa [h.shutdownRx] at hrequested
  · rcases (ready_iff h.shutdownRx).1 hready with hseen | hnone
    · have hbehind : rx.seen ≤ flag.version := h.behind
      exact hflag.2 (by omega)
    · exact (hsenders hnone).elim

end LoopTask

/-! ## TCP servers -/

theorem ServerHandle.step_flag {handle handle' : ServerHandle} {flag' : Watch Bool}
    {action : HandleAction} (h : handle.step flag receivers action = some (handle', flag')) :
    flag' = flag ∨ flag' = flag.send receivers true := by
  cases action with
  | shutdown =>
    simp only [step] at h
    split at h <;> cases h
    exact .inl rfl
  | send =>
    simp only [step] at h
    split at h <;> cases h
    exact .inr rfl
  | wait =>
    simp only [step] at h
    split at h <;> cases h
    exact .inl rfl
  | drop =>
    simp only [step] at h
    split at h <;> cases h <;> exact .inl rfl

theorem ServerHandle.step_senders {handle handle' : ServerHandle} {flag' : Watch Bool}
    {action : HandleAction} (h : handle.step flag receivers action = some (handle', flag'))
    (hdrop : action ≠ .drop) : handle'.senders = 1 := by
  cases action with
  | drop => exact (hdrop rfl).elim
  | _ =>
    simp only [step] at h
    split at h <;> cases h
    rfl

theorem ServerHandle.step_drop {handle handle' : ServerHandle} {flag' : Watch Bool}
    (h : handle.step flag receivers .drop = some (handle', flag')) :
    handle.senders = 1 ∧ handle' = .dropped ∧ flag' = flag := by
  simp only [step] at h
  split at h <;> cases h <;> exact ⟨rfl, rfl, rfl⟩

/-- What holds in a phase of the accept loop. -/
def AcceptPhase.Fits (flag : Watch Bool) (shutdownRx : Watch.Receiver)
    (connections : List LoopTask) : AcceptPhase → Prop
  | .select => flag.Alert (· = true) shutdownRx
  | .subscribed shutdownRx => flag.Behind shutdownRx
  | .changed result => result = .ok ()
  | .spawned | .stopping | .ended => connections = []
  | .loopHead | .accepted | .left _ | .sending | .draining => True

theorem AcceptPhase.Fits.set {shutdownRx : Watch.Receiver} {connections : List LoopTask}
    {phase : AcceptPhase} (h : phase.Fits flag shutdownRx connections) (i : Nat) (task : LoopTask) :
    phase.Fits flag shutdownRx (connections.set i task) := by
  have hset (h : connections = []) : connections.set i task = [] := by rw [h, List.set_nil]
  cases phase with
  | spawned | stopping | ended => exact hset h
  | _ => exact h

theorem AcceptPhase.Fits.send {shutdownRx : Watch.Receiver} {connections : List LoopTask}
    {phase : AcceptPhase} (h : phase.Fits flag shutdownRx connections)
    (hbehind : flag.Behind shutdownRx) (receivers : Nat) :
    phase.Fits (flag.send receivers true) shutdownRx connections := by
  cases phase with
  | select =>
    have halert : flag.Alert (· = true) shutdownRx := h
    exact halert.send hbehind receivers true
  | subscribed shutdownRx => exact Watch.Behind.send h receivers true
  | _ => exact h

theorem AcceptLoop.handles_of_ne_ended {server : AcceptLoop} (h : server.phase ≠ .ended) :
    server.handles = 1 := by
  rw [handles]
  split
  next hended => exact (h hended).elim
  next => rfl

namespace TcpShutdown

variable {s t : TcpShutdown}

/-- The shutdown branch of the accept loop is ready. -/
def ServerReady (s : TcpShutdown) : Prop := (s.flag.changed s.senders s.server.shutdownRx).isSome

/-- What the accept loop and the connections have seen of the flag. -/
structure Watched (s : TcpShutdown) : Prop where
  flag : OnlySet s.flag
  behind : s.flag.Behind s.server.shutdownRx
  phase : s.server.phase.Fits s.flag s.server.shutdownRx s.connections
  connections : ∀ task ∈ s.connections, ∃ rx, task.Watching s.flag rx

/-- Who leaves a loop by the shutdown branch in this step leaves it for the flag. -/
structure StopsForFlag (s t : TcpShutdown) : Prop where
  server : t.server.phase = .left .shutdown →
    s.server.phase = .left .shutdown ∨ s.flag.value = true
  connections : ∀ task ∈ t.connections, task.phase = .left .shutdown →
    task ∈ s.connections ∨ s.flag.value = true

theorem watched_started : started.Watched where
  flag := ⟨nofun, fun h => (h rfl).elim⟩
  behind := Nat.le_refl _
  phase := rfl
  connections := nofun

/-- The task of the server has a sender until it ends. -/
theorem senders_ne_zero (h : s.server.phase ≠ .ended) : s.senders ≠ 0 := by
  rw [senders, AcceptLoop.handles_of_ne_ended h]
  exact Nat.succ_ne_zero _

theorem Watched.ne_ended (h : s.Watched) {i : Nat} {task : LoopTask}
    (htask : s.connections[i]? = some task) : s.server.phase ≠ .ended := by
  intro hended
  have hfits := h.phase
  rw [hended] at hfits
  rw [show s.connections = [] from hfits] at htask
  cases htask

theorem Watched.send (h : s.Watched) (receivers : Nat) (handle : ServerHandle) :
    { s with handle, flag := s.flag.send receivers true }.Watched where
  flag := h.flag.send receivers
  behind := h.behind.send receivers true
  phase := h.phase.send h.behind receivers
  connections task htask := by
    obtain ⟨rx, hwatching⟩ := h.connections task htask
    exact ⟨rx, hwatching.send receivers⟩

theorem Watched.goto (h : s.Watched) (phase : AcceptPhase)
    (hfits : phase.Fits s.flag s.server.shutdownRx s.connections)
    (hleft : phase = .left .shutdown → s.flag.value = true) :
    (s.goto phase).Watched ∧ s.StopsForFlag (s.goto phase) :=
  ⟨⟨h.flag, h.behind, hfits, h.connections⟩, fun hphase => .inr (hleft hphase),
    fun _ htask _ => .inl htask⟩

theorem Watched.joinNext (h : s.Watched) {i : Nat} (hstep : s.joinNext i = some t)
    (hphase : ∀ connections, s.server.phase.Fits s.flag s.server.shutdownRx connections) :
    t.Watched ∧ s.StopsForFlag t := by
  simp only [TcpShutdown.joinNext] at hstep
  split at hstep <;> cases hstep
  have hmem (task : LoopTask) (htask : task ∈ s.connections.eraseIdx i) : task ∈ s.connections :=
    List.mem_of_mem_eraseIdx htask
  constructor
  · exact ⟨h.flag, h.behind, hphase _, fun task htask => h.connections task (hmem task htask)⟩
  · exact ⟨.inl, fun task htask _ => .inl (hmem task htask)⟩

theorem Watched.stepServer (h : s.Watched) {action : AcceptAction}
    (hstep : s.stepServer action = some t) : t.Watched ∧ s.StopsForFlag t := by
  have hfits := h.phase
  cases action with
  | localAddr result =>
    simp only [TcpShutdown.stepServer] at hstep
    split at hstep
    next hphase =>
      rw [hphase] at hfits
      cases hstep
      cases result with
      | ok _ => exact h.goto _ trivial nofun
      | error _ => exact h.goto _ hfits nofun
    next => cases hstep
  | head =>
    simp only [TcpShutdown.stepServer] at hstep
    split at hstep <;> cases hstep
    split
    next hvalue => exact h.goto _ trivial fun _ => hvalue
    next hvalue =>
      have halert : s.flag.Alert (· = true) s.server.shutdownRx := Watch.alert_of_not hvalue _
      exact h.goto _ halert nofun
  | accept result =>
    simp only [TcpShutdown.stepServer] at hstep
    split at hstep <;> cases hstep
    cases result with
    | ok _ => exact h.goto _ trivial nofun
    | error _ => exact h.goto _ trivial nofun
  | subscribe result =>
    simp only [TcpShutdown.stepServer] at hstep
    split at hstep <;> cases hstep
    cases result with
    | ok _ => exact h.goto _ (Watch.behind_subscribe s.flag) nofun
    | error _ => exact h.goto _ trivial nofun
  | spawn =>
    simp only [TcpShutdown.stepServer] at hstep
    split at hstep
    next shutdownRx hphase =>
      rw [hphase] at hfits
      cases hstep
      constructor
      · refine ⟨h.flag, h.behind, trivial, ?_⟩
        intro task htask
        rcases List.mem_append.1 htask with htask | htask
        · exact h.connections task htask
        · cases List.mem_singleton.1 htask
          exact ⟨shutdownRx, rfl, hfits, nofun⟩
      · refine ⟨nofun, ?_⟩
        intro task htask hleft
        rcases List.mem_append.1 htask with htask | htask
        · exact .inl htask
        · cases List.mem_singleton.1 htask
          cases hleft
    next => cases hstep
  | changed =>
    simp only [TcpShutdown.stepServer] at hstep
    split at hstep
    next hphase =>
      split at hstep
      next result shutdownRx hchanged =>
        cases hstep
        have hsenders : s.senders ≠ 0 := senders_ne_zero (hphase ▸ nofun)
        obtain ⟨-, hresult, -⟩ := Watch.changed_of_senders hsenders hchanged
        exact ⟨⟨h.flag, Watch.behind_of_changed h.behind hchanged, hresult, h.connections⟩,
          nofun, fun _ htask _ => .inl htask⟩
      next => cases hstep
    next => cases hstep
  | borrow =>
    simp only [TcpShutdown.stepServer] at hstep
    split at hstep
    next hphase =>
      rw [hphase] at hfits
      cases hfits
    next =>
      cases hstep
      split
      next hvalue => exact h.goto _ trivial fun _ => hvalue
      next => exact h.goto _ trivial nofun
    next =>
      cases hstep
      split
      next => exact h.goto _ trivial nofun
      next => exact h.goto _ trivial nofun
    next => cases hstep
  | send =>
    simp only [TcpShutdown.stepServer] at hstep
    split at hstep <;> cases hstep
    obtain ⟨hwatched, -⟩ := h.goto .draining trivial nofun
    exact ⟨hwatched.send s.receivers s.handle, nofun, fun _ htask _ => .inl htask⟩
  | joinNext i =>
    simp only [TcpShutdown.stepServer] at hstep
    split at hstep
    next =>
      obtain ⟨hwatched, -⟩ := h.goto .loopHead trivial nofun
      obtain ⟨hjoined, hstops⟩ := hwatched.joinNext hstep fun _ => trivial
      refine ⟨hjoined, ?_, hstops.connections⟩
      exact fun hleft => (hstops.server hleft).imp nofun id
    next hphase =>
      exact h.joinNext hstep fun _ => hphase ▸ trivial
    next => cases hstep
  | drained =>
    simp only [TcpShutdown.stepServer] at hstep
    split at hstep
    next =>
      split at hstep
      next hconnections =>
        cases hstep
        exact h.goto _ hconnections nofun
      next => cases hstep
    next => cases hstep
  | stopped =>
    simp only [TcpShutdown.stepServer] at hstep
    split at hstep
    next hphase =>
      rw [hphase] at hfits
      cases hstep
      exact h.goto _ hfits nofun
    next => cases hstep

theorem Watched.step (h : s.Watched) {action : TcpShutdownAction}
    (hstep : TcpShutdown.step s action = some t) : t.Watched ∧ s.StopsForFlag t := by
  cases action with
  | handle action =>
    simp only [TcpShutdown.step] at hstep
    split at hstep
    next handle flag hhandle =>
      cases hstep
      refine ⟨?_, .inl, fun _ htask _ => .inl htask⟩
      rcases ServerHandle.step_flag hhandle with rfl | rfl
      · exact ⟨h.flag, h.behind, h.phase, h.connections⟩
      · exact h.send s.receivers handle
    next => cases hstep
  | server action => exact h.stepServer hstep
  | connection i action =>
    simp only [TcpShutdown.step] at hstep
    split at hstep
    next task htask =>
      split at hstep
      next task' htask' =>
        cases hstep
        obtain ⟨rx, hwatching⟩ := h.connections task (List.mem_of_getElem? htask)
        have hmem {other : LoopTask} (hother : other ∈ s.connections.set i task') :
            other ∈ s.connections ∨ other = task' := List.mem_or_eq_of_mem_set hother
        constructor
        · refine ⟨h.flag, h.behind, h.phase.set i task', ?_⟩
          intro other hother
          rcases hmem hother with hother | rfl
          · exact h.connections other hother
          · exact hwatching.step htask'
        · refine ⟨.inl, ?_⟩
          intro other hother hleft
          rcases hmem hother with hother | rfl
          · exact .inl hother
          · exact .inr (hwatching.left h.flag (senders_ne_zero (h.ne_ended htask)) htask' hleft)
      next => cases hstep
    next => cases hstep

theorem watched_run {actions : List TcpShutdownAction} (h : step.run started actions = some s) :
    s.Watched :=
  step.run_invariant Watched watched_started (fun _ _ _ _ hwatched hstep => (hwatched.step hstep).1) h

/-- A shutdown that is asked for while the server's task is there sets the flag. -/
theorem value_of_send (h : step s (.handle .send) = some t) (hphase : s.server.phase ≠ .ended) :
    t.flag.value = true := by
  have hreceivers : s.receivers ≠ 0 := by
    rw [receivers, AcceptLoop.handles_of_ne_ended hphase]
    omega
  simp only [step, ServerHandle.step] at h
  split at h
  next handle flag hsend =>
    split at hsend <;> cases hsend
    cases h
    exact congrArg Watch.value (if_neg hreceivers)
  next => cases h

/-- Once the flag is set, no loop of the server stays in its `select!`. -/
structure NoneMissed (s : TcpShutdown) : Prop where
  server : s.flag.value = true → s.server.phase = .select → s.ServerReady
  connections : s.flag.value = true → ∀ task ∈ s.connections, task.phase = .select →
    task.Ready s.senders s.flag

theorem Watched.noneMissed (h : s.Watched) : s.NoneMissed where
  server hvalue hphase := by
    have hfits := h.phase
    rw [hphase] at hfits
    have halert : s.flag.Alert (· = true) s.server.shutdownRx := hfits
    exact halert.isSome_changed hvalue s.senders
  connections hvalue task htask hphase := by
    obtain ⟨rx, hwatching⟩ := h.connections task htask
    exact hwatching.ready hphase hvalue s.senders

/-- What is ready is so with or without the handle. -/
structure SameReady (s t : TcpShutdown) : Prop where
  server : s.server.phase ≠ .ended → (t.ServerReady ↔ s.ServerReady)
  connections : ∀ task ∈ s.connections,
    (task.Ready t.senders t.flag ↔ task.Ready s.senders s.flag)

/-- The step stops no loop by its shutdown branch unless the flag is set, and dropping the handle is
nothing that a loop could see. -/
structure OnlyForFlag (s : TcpShutdown) (action : TcpShutdownAction) (t : TcpShutdown) : Prop where
  stops : s.StopsForFlag t
  drop : action = .handle .drop → s.SameReady t

theorem Watched.sameReady (h : s.Watched) (hstep : TcpShutdown.step s (.handle .drop) = some t) :
    s.SameReady t := by
  simp only [TcpShutdown.step] at hstep
  split at hstep
  next handle flag hhandle =>
    cases hstep
    obtain ⟨-, rfl, rfl⟩ := ServerHandle.step_drop hhandle
    have hready {rx : Watch.Receiver} (hphase : s.server.phase ≠ .ended) :
        (rx.seen ≠ s.flag.version ∨ senders { s with handle := .dropped } = 0) ↔
          (rx.seen ≠ s.flag.version ∨ s.senders = 0) :=
      or_congr_right (iff_of_false (senders_ne_zero hphase) (senders_ne_zero hphase))
    constructor
    · intro hphase
      exact Watch.isSome_changed.trans ((hready hphase).trans Watch.isSome_changed.symm)
    · intro task htask
      obtain ⟨i, hi⟩ := List.mem_iff_getElem?.1 htask
      obtain ⟨rx, hwatching⟩ := h.connections task htask
      rw [LoopTask.ready_iff hwatching.shutdownRx, LoopTask.ready_iff hwatching.shutdownRx]
      exact hready (h.ne_ended hi)
  next => cases hstep

end TcpShutdown

/-! ## UDP servers -/

namespace UdpShutdown

variable {s t : UdpShutdown} {action : UdpShutdownAction}

/-- In its loop, the task of the socket has seen nothing that was sent. -/
structure Fresh (s : UdpShutdown) : Prop where
  flag : OnlySet s.flag
  shutdownRx : s.socket.phase.Live → s.socket.shutdownRx = some ⟨0⟩

theorem fresh_started : started.Fresh where
  flag := ⟨nofun, fun h => (h rfl).elim⟩
  shutdownRx _ := rfl

theorem Fresh.ready_iff (h : s.Fresh) (hlive : s.socket.phase.Live) (senders : Nat) :
    s.socket.Ready senders s.flag ↔ s.flag.value = true ∨ senders = 0 := by
  rw [LoopTask.ready_iff (h.shutdownRx hlive)]
  exact or_congr_left (ne_comm.trans h.flag.symm)

theorem Fresh.step (h : s.Fresh) (hstep : UdpShutdown.step s action = some t) : t.Fresh := by
  cases action with
  | handle action =>
    simp only [UdpShutdown.step] at hstep
    split at hstep
    next handle flag hhandle =>
      cases hstep
      rcases ServerHandle.step_flag hhandle with rfl | rfl
      · exact ⟨h.flag, h.shutdownRx⟩
      · exact ⟨h.flag.send s.receivers, h.shutdownRx⟩
    next => cases hstep
  | socket action =>
    simp only [UdpShutdown.step] at hstep
    split at hstep
    next socket hsocket =>
      cases hstep
      refine ⟨h.flag, ?_⟩
      rcases LoopTask.step_cases hsocket with
        ⟨phase, rfl, -, -, hlive⟩ | ⟨hphase, rfl⟩ | ⟨-, shutdownRx, -, rfl⟩
      · exact fun hphase => h.shutdownRx (hlive hphase)
      · exact fun _ => h.shutdownRx (hphase ▸ trivial)
      · exact nofun
    next => cases hstep

theorem fresh_run {actions : List UdpShutdownAction} (h : step.run started actions = some s) :
    s.Fresh :=
  step.run_invariant Fresh fresh_started (fun _ _ _ _ hfresh hstep => hfresh.step hstep) h

/-- A shutdown that is asked for while the task of the socket is there sets the flag. -/
theorem value_of_send (h : step s (.handle .send) = some t) (hphase : s.socket.phase ≠ .ended) :
    t.flag.value = true := by
  have hreceivers : s.receivers ≠ 0 := by
    rw [receivers]
    split
    next hended => exact (hphase hended).elim
    next => exact Nat.one_ne_zero
  simp only [step, ServerHandle.step] at h
  split at h
  next handle flag hsend =>
    split at hsend <;> cases hsend
    cases h
    exact congrArg Watch.value (if_neg hreceivers)
  next => cases h

/-- Once the flag is set, the task of the socket does not stay in its `select!`. -/
def NoneMissed (s : UdpShutdown) : Prop :=
  s.flag.value = true → s.socket.phase = .select → s.socket.Ready s.senders s.flag

theorem Fresh.noneMissed (h : s.Fresh) : s.NoneMissed :=
  fun hvalue hphase => (h.ready_iff (hphase ▸ trivial) s.senders).2 (.inl hvalue)

/-- What is ready is so with or without the handle, as long as the loop is not left. -/
def SameReady (s t : UdpShutdown) : Prop :=
  s.socket.phase.Live → (s.socket.Ready t.senders t.flag ↔ s.socket.Ready s.senders s.flag)

/-- The step stops the loop by its shutdown branch only if the flag is set, and dropping the handle
is nothing that the loop could see. -/
structure OnlyForFlag (s : UdpShutdown) (action : UdpShutdownAction) (t : UdpShutdown) : Prop where
  stops : t.socket.phase = .left .shutdown →
    s.socket.phase = .left .shutdown ∨ s.flag.value = true
  drop : action = .handle .drop → s.SameReady t

/-- The handle is dropped only when the flag is set or the loop is left. -/
def KeepsHandle (s : UdpShutdown) (action : UdpShutdownAction) (_ : UdpShutdown) : Prop :=
  action = .handle .drop → s.flag.value = true ∨ ¬s.socket.phase.Live

theorem step_drop (hstep : step s (.handle .drop) = some t) :
    s.senders = 1 ∧ t.senders = 0 ∧ t.flag = s.flag ∧ t.socket = s.socket := by
  simp only [step] at hstep
  split at hstep
  next handle flag hhandle =>
    obtain ⟨hsenders, rfl, rfl⟩ := ServerHandle.step_drop hhandle
    cases hstep
    exact ⟨hsenders, rfl, rfl, rfl⟩
  next => cases hstep

theorem Fresh.sameReady_iff (h : s.Fresh) (hstep : UdpShutdown.step s (.handle .drop) = some t) :
    s.SameReady t ↔ s.flag.value = true ∨ ¬s.socket.phase.Live := by
  obtain ⟨hsenders, hdropped, hflag, -⟩ := step_drop hstep
  rw [SameReady, hflag, hdropped, hsenders]
  by_cases hlive : s.socket.phase.Live
  · rw [h.ready_iff hlive, h.ready_iff hlive]
    simp [hlive]
  · simp [hlive]

/-- Where nobody has the handle, the flag is set or the loop is left. -/
def Kept (s : UdpShutdown) : Prop := s.senders = 0 → s.flag.value = true ∨ ¬s.socket.phase.Live

theorem Kept.step (h : s.Kept) (hkeeps : s.KeepsHandle action t)
    (hstep : UdpShutdown.step s action = some t) : t.Kept := by
  cases action with
  | handle action =>
    by_cases hdrop : action = .drop
    · subst hdrop
      obtain ⟨-, -, hflag, hsocket⟩ := step_drop hstep
      rw [Kept, hflag, hsocket]
      exact fun _ => hkeeps rfl
    · simp only [UdpShutdown.step] at hstep
      split at hstep
      next handle flag hhandle =>
        cases hstep
        intro hsenders
        cases (ServerHandle.step_senders hhandle hdrop).symm.trans hsenders
      next => cases hstep
  | socket action =>
    simp only [UdpShutdown.step] at hstep
    split at hstep
    next socket hsocket =>
      cases hstep
      intro hsenders
      refine (h hsenders).imp_right fun hlive => ?_
      rcases LoopTask.step_cases hsocket with
        ⟨phase, rfl, -, -, hphase⟩ | ⟨hphase, -⟩ | ⟨hphase, -⟩
      · exact fun hlive' => hlive (hphase hlive')
      · exact (hlive (hphase ▸ trivial)).elim
      · exact (hlive (hphase ▸ trivial)).elim
    next => cases hstep

theorem Fresh.stops (h : s.Fresh) (hkept : s.Kept) (hstep : UdpShutdown.step s action = some t) :
    t.socket.phase = .left .shutdown → s.socket.phase = .left .shutdown ∨ s.flag.value = true := by
  cases action with
  | handle action =>
    simp only [UdpShutdown.step] at hstep
    split at hstep <;> cases hstep
    exact .inl
  | socket action =>
    simp only [UdpShutdown.step] at hstep
    split at hstep
    next socket hsocket =>
      cases hstep
      intro hleft
      right
      rcases LoopTask.step_left hsocket hleft with ⟨hphase, hrequested⟩ | ⟨hphase, hready⟩
      · rwa [h.shutdownRx (hphase ▸ trivial)] at hrequested
      · have hlive : s.socket.phase.Live := hphase ▸ trivial
        rcases (h.ready_iff hlive s.senders).1 hready with hvalue | hsenders
        · exact hvalue
        · exact (hkept hsenders).resolve_right (not_not_intro hlive)
    next => cases hstep

/-- A UDP server stops for the flag only in the runs that keep the handle until then. -/
theorem steps_onlyForFlag_iff (actions : List UdpShutdownAction) :
    step.Steps OnlyForFlag started actions ↔ step.Steps KeepsHandle started actions := by
  constructor
  · rintro h before action after u v hactions hu hv rfl
    exact ((fresh_run hu).sameReady_iff hv).1 ((h before _ after u v hactions hu hv).drop rfl)
  · intro h before action after u v hactions hu hv
    have hkept : u.Kept := by
      have hbefore : step.Steps KeepsHandle started before := by
        rw [hactions] at h
        exact h.of_append
      exact hbefore.run_invariant Kept nofun (fun _ _ _ hkept hkeeps => hkept.step hkeeps) hu
    refine ⟨(fresh_run hu).stops hkept hv, ?_⟩
    rintro rfl
    exact ((fresh_run hu).sameReady_iff hv).2 (h before _ after u v hactions hu hv rfl)

end UdpShutdown

theorem TcpShutdown.steps_onlyForFlag (actions : List TcpShutdownAction) :
    step.Steps OnlyForFlag started actions := by
  rintro before action after u v - hu hv
  refine ⟨((watched_run hu).step hv).2, ?_⟩
  rintro rfl
  exact (watched_run hu).sameReady hv

/-- A TCP server stops for the flag only, and a UDP server in the runs that keep its handle. -/
theorem shutdown_onlyForFlag_iff (actions : List TcpShutdownAction)
    (udpActions : List UdpShutdownAction) :
    TcpShutdown.step.Steps TcpShutdown.OnlyForFlag .started actions ∧
      (UdpShutdown.step.Steps UdpShutdown.OnlyForFlag .started udpActions ↔
        UdpShutdown.step.Steps UdpShutdown.KeepsHandle .started udpActions) :=
  ⟨TcpShutdown.steps_onlyForFlag actions, UdpShutdown.steps_onlyForFlag_iff udpActions⟩

/-- A UDP server is started, and its handle dropped while it waits. -/
theorem not_onlyForFlag_dropped :
    ¬UdpShutdown.step.Steps UdpShutdown.OnlyForFlag .started
      [.socket (.opened (.ok ())), .socket .head, .handle .drop, .socket .shutdown] := by
  intro h
  have hstops := (h [.socket (.opened (.ok ())), .socket .head, .handle .drop] (.socket .shutdown) []
    _ _ rfl rfl rfl).stops rfl
  rcases hstops with hleft | hvalue
  · cases hleft
  · cases hvalue

/-- No loop misses a shutdown, whatever the order of the steps. -/
theorem shutdown_noneMissed (actions : List TcpShutdownAction) (s : TcpShutdown)
    (udpActions : List UdpShutdownAction) (udp : UdpShutdown)
    (h : TcpShutdown.step.run .started actions = some s)
    (hudp : UdpShutdown.step.run .started udpActions = some udp) :
    s.NoneMissed ∧ udp.NoneMissed :=
  ⟨(TcpShutdown.watched_run h).noneMissed, (UdpShutdown.fresh_run hudp).noneMissed⟩

/-- While one connection waits, a socket is accepted, and the flag is set before its receiver is
there. -/
theorem noneMissed_subscribed :
    ∃ (s : TcpShutdown) (udp : UdpShutdown), s.flag.value = true ∧ udp.flag.value = true ∧
      s.connections.length = 2 ∧ s.NoneMissed ∧ udp.NoneMissed :=
  ⟨_, _, rfl, rfl, rfl, shutdown_noneMissed
    [.server (.localAddr (.ok ())), .server .head, .server (.accept (.ok ())),
      .server (.subscribe (.ok ())), .server .spawn, .connection 0 (.opened (.ok ())),
      .connection 0 .head, .server .head, .server (.accept (.ok ())), .handle .shutdown,
      .handle .send, .server (.subscribe (.ok ())), .server .spawn] _
    [.socket (.opened (.ok ())), .socket .head, .handle .shutdown, .handle .send] _ rfl rfl⟩

end RsNetty
