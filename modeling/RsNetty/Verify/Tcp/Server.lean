import RsNetty.Codec.FixedLength
import RsNetty.Transport.Tcp.Server

/-!
# What ends the accept loop of a TCP server

The connections of a server do not disturb each other, however they end, and the server goes on
accepting. But the accept loop is also left when an accepted socket cannot be set up, and then every
connection is told to shut down: `run_keepsServing_iff`.
-/

namespace RsNetty

variable {P : StreamStages} {env : Surroundings}

/-- The socket can be set up, and this is its local address. -/
structure Accepted.SetsUp (accepted : Accepted P) (config : TcpConnectionConfig)
    (localAddr : SocketAddr) : Prop where
  nodelay : accepted.setNodelay config.tcpNodelay = .ok ()
  localAddr : accepted.localAddr = .ok localAddr

namespace TcpServer

variable {s t : TcpServer P}

/-- `start` has returned a handle, or is about to. -/
def HasHandle (s : TcpServer P) : Prop :=
  match s.phase with
  | .bound | .starting | .failed _ => False
  | _ => True

/-! ## The steps, one rule for each -/

inductive Step (env : Surroundings) (s : TcpServer P) : ServerAction P → TcpServer P → Prop
  | listening (localAddr : SocketAddr) : s.phase = .bound →
    Step env s (.localAddr (.ok localAddr))
      ({ s with localAddr, phase := .starting }.record [.called (.tcpServerStarted localAddr)])
  | notListening (err : String) : s.phase = .bound →
    Step env s (.localAddr (.error err)) (s.goto (.failed (.io err)))
  | started : s.phase = .starting →
    Step env s (.started (.ok ()))
      ((s.goto .spawned).record [.returned (.tcpServerStarted s.localAddr) (.ok ())])
  | notStarted (err : Error) : s.phase = .starting →
    Step env s (.started (.error err))
      ((s.goto (.failed err)).record [.returned (.tcpServerStarted s.localAddr) (.error err)])
  | entering (localAddr : SocketAddr) : s.phase = .spawned →
    Step env s (.localAddr (.ok localAddr)) { s with localAddr, phase := .loopHead }
  | notEntering (err : String) : s.phase = .spawned →
    Step env s (.localAddr (.error err)) (s.goto (.stopped (.error (.io err))))
  | waiting : s.phase = .loopHead → s.shutdown = false → Step env s .head (s.goto .select)
  | breaking : s.phase = .loopHead → s.shutdown = true → Step env s .head (s.leave (.ok ()))
  | notAccepted (err : String) : s.phase = .select →
    Step env s (.accept (.error err)) (s.leave (.error (.io err)))
  | notSetUp (accepted : Accepted P) (err : String) : s.phase = .select →
    (∀ localAddr, ¬accepted.SetsUp s.config localAddr) →
    Step env s (.accept (.ok accepted)) (s.leave (.error (.io err)))
  | accepted (accepted : Accepted P) (localAddr : SocketAddr) : s.phase = .select →
    accepted.SetsUp s.config localAddr →
    Step env s (.accept (.ok accepted)) (s.spawn accepted localAddr)
  | changed : s.phase = .select → s.shutdown = true → Step env s .changed (s.leave (.ok ()))
  | joined (i : Nat) (task : ConnectionTask P) : s.phase = .select →
    s.connections[i]? = some task → task.phase.isEnded = true →
    Step env s (.joinNext i)
      { s with phase := .loopHead, connections := s.connections.eraseIdx i }
  | drainedOne (i : Nat) (task : ConnectionTask P) (result : Except Error Unit) :
    s.phase = .draining result → s.connections[i]? = some task → task.phase.isEnded = true →
    Step env s (.joinNext i) { s with connections := s.connections.eraseIdx i }
  | drained (result : Except Error Unit) : s.phase = .draining result → s.connections = [] →
    Step env s .drained
      ((s.goto (.stopping result)).record [.called (.tcpServerStopped s.localAddr)])
  | stopped (serverResult result : Except Error Unit) : s.phase = .stopping serverResult →
    Step env s (.stopped result)
      ((s.goto (.stopped serverResult)).record [.returned (.tcpServerStopped s.localAddr) result])
  | shutdown : s.HasHandle → Step env s .shutdown { s with shutdown := true }
  | task (i : Nat) (action : ConnectionAction P) (task task' : ConnectionTask P)
    (events : List LifeEvent) : s.connections[i]? = some task →
    task.step env s.shutdown action = some (task', events) →
    Step env s (.task i action) { s with
      connections := s.connections.set i task'
      life := s.life ++ events
      panics := s.panics + match task'.phase with | .panicked => 1 | _ => 0 }

theorem handleAccepted_ok (accepted : Accepted P) (s : TcpServer P) :
    (∃ localAddr, accepted.SetsUp s.config localAddr ∧
      s.handleAccepted (.ok accepted) = s.spawn accepted localAddr) ∨
    (∀ localAddr, ¬accepted.SetsUp s.config localAddr) ∧
      ∃ err, s.handleAccepted (.ok accepted) = s.leave (.error (.io err)) := by
  cases hnodelay : accepted.setNodelay s.config.tcpNodelay with
  | error err =>
    refine .inr ⟨fun localAddr h => ?_, err, by simp [handleAccepted, hnodelay]⟩
    cases hnodelay.symm.trans h.nodelay
  | ok =>
    cases hlocalAddr : accepted.localAddr with
    | error err =>
      refine .inr ⟨fun localAddr h => ?_, err, by simp [handleAccepted, hnodelay, hlocalAddr]⟩
      cases hlocalAddr.symm.trans h.localAddr
    | ok localAddr =>
      exact .inl ⟨localAddr, ⟨hnodelay, hlocalAddr⟩, by simp [handleAccepted, hnodelay, hlocalAddr]⟩

theorem handleConnectionResult_eq_some {i : Nat} (h : s.handleConnectionResult i = some t) :
    ∃ task, s.connections[i]? = some task ∧ task.phase.isEnded = true ∧
      t = { s with connections := s.connections.eraseIdx i } := by
  rw [handleConnectionResult] at h
  split at h
  next task htask =>
    split at h
    next hended => exact ⟨task, htask, hended, (Option.some.inj h).symm⟩
    next => cases h
  next => cases h

theorem stepTask_step {i : Nat} {action : ConnectionAction P}
    (h : s.stepTask env i action = some t) : Step env s (.task i action) t := by
  rw [stepTask] at h
  split at h
  next task htask =>
    split at h
    next task' events hstep => exact Option.some.inj h ▸ .task i action task task' events htask hstep
    next => cases h
  next => cases h

theorem step_cases {action : ServerAction P} (h : step env s action = some t) :
    Step env s action t := by
  unfold step at h
  split at h
  next localAddr hphase => exact Option.some.inj h ▸ .listening localAddr hphase
  next err hphase => exact Option.some.inj h ▸ .notListening err hphase
  next result hphase =>
    cases result with
    | ok => exact Option.some.inj h ▸ .started hphase
    | error err => exact Option.some.inj h ▸ .notStarted err hphase
  next localAddr hphase => exact Option.some.inj h ▸ .entering localAddr hphase
  next err hphase => exact Option.some.inj h ▸ .notEntering err hphase
  next hphase =>
    cases hshutdown : s.shutdown with
    | false =>
      rw [hshutdown] at h
      exact Option.some.inj h ▸ .waiting hphase hshutdown
    | true =>
      rw [hshutdown] at h
      exact Option.some.inj h ▸ .breaking hphase hshutdown
  next accepted hphase =>
    cases accepted with
    | error err => exact Option.some.inj h ▸ .notAccepted err hphase
    | ok accepted =>
      rcases handleAccepted_ok accepted s with ⟨localAddr, hsetsUp, heq⟩ | ⟨hnot, err, heq⟩
      · rw [heq] at h
        exact Option.some.inj h ▸ .accepted accepted localAddr hphase hsetsUp
      · rw [heq] at h
        exact Option.some.inj h ▸ .notSetUp accepted err hphase hnot
  next hphase =>
    split at h
    next hshutdown => exact Option.some.inj h ▸ .changed hphase hshutdown
    next => cases h
  next i hphase =>
    obtain ⟨task, htask, hended, rfl⟩ := handleConnectionResult_eq_some h
    exact .joined i task hphase htask hended
  next i result hphase =>
    obtain ⟨task, htask, hended, rfl⟩ := handleConnectionResult_eq_some h
    exact .drainedOne i task result hphase htask hended
  next result hphase =>
    split at h
    next hempty => exact Option.some.inj h ▸ .drained result hphase (List.isEmpty_iff.1 hempty)
    next => cases h
  next result serverResult hphase =>
    exact Option.some.inj h ▸ .stopped serverResult result hphase
  next => cases h
  next => cases h
  next => cases h
  next hbound hstarting hfailed =>
    refine Option.some.inj h ▸ .shutdown ?_
    rw [HasHandle]
    split
    next hphase => exact (hbound hphase).elim
    next hphase => exact (hstarting hphase).elim
    next err hphase => exact (hfailed err hphase).elim
    next => trivial
  next i action => exact stepTask_step h
  next => cases h

/-! ## Serving -/

/-- The server is in its accept loop: it takes the next socket by itself, and no step but its own
ends or stops a connection. -/
structure Serving (env : Surroundings) (s : TcpServer P) : Prop where
  looping : s.phase = .loopHead ∨ s.phase = .select
  accepts : ∀ accepted localAddr, accepted.SetsUp s.config localAddr →
    ∃ path ∈ [[], [ServerAction.head]], ∃ t task,
      (step env).run s (path ++ [.accept (.ok accepted)]) = some t ∧
      t.connections = s.connections ++ [task]
  leaves : ∀ i task, s.connections[i]? = some task → task.phase.isEnded = false →
    ∀ action t, (∀ own, action ≠ .task i own) → step env s action = some t → task ∈ t.connections
  untold : ∀ i, step env s (.task i (.event .shutdown)) = none

theorem handleAccepted_of_setsUp {accepted : Accepted P} {localAddr : SocketAddr}
    (h : accepted.SetsUp s.config localAddr) :
    s.handleAccepted (.ok accepted) = s.spawn accepted localAddr := by
  simp only [handleAccepted, h.nodelay, h.localAddr]

theorem mem_eraseIdx_of_ne {α : Type} {l : List α} {i j : Nat} {a : α} (h : l[i]? = some a)
    (hne : j ≠ i) : a ∈ l.eraseIdx j :=
  List.mem_eraseIdx_iff_getElem?.2 ⟨i, hne.symm, h⟩

/-- A connection that has not ended stays as it is until a step of its own. -/
theorem Step.leaves {action : ServerAction P} (h : Step env s action t) {i : Nat}
    {task : ConnectionTask P} (htask : s.connections[i]? = some task)
    (hrunning : task.phase.isEnded = false) (hother : ∀ own, action ≠ .task i own) :
    task ∈ t.connections := by
  have hmem : task ∈ s.connections := List.mem_of_getElem? htask
  have herase {j : Nat} {ended : ConnectionTask P} (hj : s.connections[j]? = some ended)
      (hended : ended.phase.isEnded = true) : task ∈ s.connections.eraseIdx j := by
    refine mem_eraseIdx_of_ne htask ?_
    rintro rfl
    cases htask.symm.trans hj
    cases hrunning.symm.trans hended
  cases h with
  | accepted accepted localAddr _ _ => exact List.mem_append_left _ hmem
  | joined j ended _ hj hended => exact herase hj hended
  | drainedOne j ended _ _ hj hended => exact herase hj hended
  | task j own before after events hj _ =>
    have hne : j ≠ i := by
      rintro rfl
      exact hother own rfl
    exact List.mem_of_getElem? ((List.getElem?_set_ne hne).trans htask)
  | _ => exact hmem

/-- Without a request, no connection sees a shutdown. -/
theorem step_shutdown_eq_none (huntold : s.shutdown = false) (i : Nat) :
    step env s (.task i (.event .shutdown)) = none := by
  rw [Option.eq_none_iff_forall_ne_some]
  intro t h
  cases step_cases h with
  | task _ _ task _ _ _ hstep =>
    rw [huntold] at hstep
    obtain ⟨connection, phase⟩ := task
    cases phase <;> cases hstep

theorem serving (hlooping : s.phase = .loopHead ∨ s.phase = .select) (huntold : s.shutdown = false) :
    s.Serving env where
  looping := hlooping
  accepts accepted localAddr hsetsUp := by
    rcases hlooping with hphase | hphase
    · refine ⟨[.head], by simp, (s.goto .select).spawn accepted localAddr, _, ?_, rfl⟩
      have hhead : step env s .head = some (s.goto .select) := by simp [step, hphase, huntold]
      have haccept : step env (s.goto .select) (.accept (.ok accepted)) =
          some ((s.goto .select).spawn accepted localAddr) :=
        congrArg some (handleAccepted_of_setsUp hsetsUp)
      simp [hhead, haccept]
    · refine ⟨[], by simp, s.spawn accepted localAddr, _, ?_, rfl⟩
      have haccept : step env s (.accept (.ok accepted)) = some (s.spawn accepted localAddr) := by
        simp [step, hphase, handleAccepted_of_setsUp hsetsUp]
      simp [haccept]
  leaves _ _ htask hrunning _ _ hother h := (step_cases h).leaves htask hrunning hother
  untold := step_shutdown_eq_none huntold

/-! ## Runs -/

/-- The actions that start a server. -/
def entry (localAddr listenerAddr : SocketAddr) : List (ServerAction P) :=
  [.localAddr (.ok localAddr), .started (.ok ()), .localAddr (.ok listenerAddr)]

/-- The server that they start. -/
def listening (config : TcpConnectionConfig) (localAddr listenerAddr : SocketAddr) : TcpServer P where
  config
  phase := .loopHead
  localAddr := listenerAddr
  life := [.called (.tcpServerStarted localAddr), .returned (.tcpServerStarted localAddr) (.ok ())]

theorem run_entry (config : TcpConnectionConfig) (localAddr listenerAddr : SocketAddr)
    (actions : List (ServerAction P)) :
    (step env).run (new config) (entry localAddr listenerAddr ++ actions) =
      (step env).run (listening config localAddr listenerAddr) actions := rfl

/-- The server serves at every point of the run. -/
def KeepsServing (env : Surroundings) (config : TcpConnectionConfig)
    (localAddr listenerAddr : SocketAddr) (actions : List (ServerAction P)) : Prop :=
  ∀ before, before <+: actions → ∀ t,
    (step env).run (new config) (entry localAddr listenerAddr ++ before) = some t → t.Serving env

/-- The server is in its loop with this configuration, and was not asked to shut down. -/
structure Looping (config : TcpConnectionConfig) (s : TcpServer P) : Prop where
  looping : s.phase = .loopHead ∨ s.phase = .select
  untold : s.shutdown = false
  config : s.config = config

theorem Step.looping {action : ServerAction P} (h : Step env s action t)
    {config : TcpConnectionConfig} (hs : s.Looping config) (hshutdown : action ≠ .shutdown)
    (haccept : ∀ err, action ≠ .accept (.error err))
    (hsetsUp : ∀ accepted, action = .accept (.ok accepted) →
      ∃ localAddr, accepted.SetsUp config localAddr) : t.Looping config := by
  obtain ⟨hlooping, huntold, rfl⟩ := hs
  have hnot {phase : ServerPhase} (hphase : s.phase = phase) (hne : phase ≠ .loopHead)
      (hne' : phase ≠ .select) : t.Looping s.config := by
    rcases hlooping with hlooping | hlooping
    · exact (hne (hphase.symm.trans hlooping)).elim
    · exact (hne' (hphase.symm.trans hlooping)).elim
  cases h with
  | waiting => exact ⟨.inr rfl, huntold, rfl⟩
  | breaking _ htold => cases huntold.symm.trans htold
  | notAccepted err => exact (haccept err rfl).elim
  | notSetUp accepted err _ hfails =>
    obtain ⟨localAddr, hlocalAddr⟩ := hsetsUp accepted rfl
    exact (hfails localAddr hlocalAddr).elim
  | accepted => exact ⟨.inl rfl, huntold, rfl⟩
  | changed _ htold => cases huntold.symm.trans htold
  | joined => exact ⟨.inl rfl, huntold, rfl⟩
  | shutdown => exact (hshutdown rfl).elim
  | task => exact ⟨hlooping, huntold, rfl⟩
  | started hphase => exact hnot hphase nofun nofun
  | listening _ hphase | notListening _ hphase | notStarted _ hphase | entering _ hphase
  | notEntering _ hphase | drained _ hphase => exact hnot hphase nofun nofun
  | stopped _ _ hphase => exact hnot hphase nofun nofun
  | drainedOne _ _ _ hphase => exact hnot hphase nofun nofun

/-- A socket that cannot be set up ends the loop. -/
theorem Step.not_serving {accepted : Accepted P} (h : Step env s (.accept (.ok accepted)) t)
    (hsetsUp : ∀ localAddr, ¬accepted.SetsUp s.config localAddr) : ¬t.Serving env := by
  intro hserving
  cases h with
  | notSetUp _ err _ _ => exact hserving.looping.elim nofun nofun
  | accepted _ localAddr _ h => exact hsetsUp localAddr h

/-- As long as nobody requests a shutdown and `accept` itself does not fail, the server goes on
serving if and only if every socket it accepts can be set up. -/
theorem run_keepsServing_iff (env : Surroundings) (config : TcpConnectionConfig)
    (localAddr listenerAddr : SocketAddr) (actions : List (ServerAction P))
    (hrun : ((step env).run (new config) (entry localAddr listenerAddr ++ actions)).isSome = true)
    (hshutdown : .shutdown ∉ actions) (haccept : ∀ err, .accept (.error err) ∉ actions) :
    KeepsServing env config localAddr listenerAddr actions ↔
      ∀ accepted, .accept (.ok accepted) ∈ actions → ∃ addr, accepted.SetsUp config addr := by
  rw [run_entry] at hrun
  have hlooping {before : List (ServerAction P)} (hbefore : before <+: actions)
      (hsetsUp : ∀ accepted, .accept (.ok accepted) ∈ before → ∃ addr, accepted.SetsUp config addr)
      {t : TcpServer P}
      (ht : (step env).run (listening config localAddr listenerAddr) before = some t) :
      t.Looping config := by
    refine Machine.run_invariant (Looping config) ⟨.inl rfl, rfl, rfl⟩ ?_ ht
    intro action haction u v hu hv
    have hmem := hbefore.subset haction
    refine (step_cases hv).looping hu (fun h => hshutdown (h ▸ hmem))
      (fun err h => haccept err (h ▸ hmem)) ?_
    rintro accepted rfl
    exact hsetsUp accepted haction
  constructor
  · intro hserving accepted hmem
    by_contra hnot
    -- The first part of the run that ends with this socket leaves the loop.
    obtain ⟨before, after, rfl⟩ := List.append_of_mem hmem
    have hprefix : before ++ [.accept (.ok accepted)] <+:
        before ++ .accept (.ok accepted) :: after := ⟨after, by simp⟩
    obtain ⟨v, hv⟩ := Machine.run_of_prefix hprefix (Option.some_get hrun).symm
    obtain ⟨u, hu, hstep⟩ := Machine.run_concat_eq_some.1 hv
    have hconfig : u.config = config := by
      refine Machine.run_invariant (TcpServer.config · = config) rfl ?_ hu
      intro action _ v w hv hw
      cases step_cases hw <;> exact hv
    refine (step_cases hstep).not_serving (fun addr h => hnot ⟨addr, hconfig ▸ h⟩)
      (hserving _ hprefix v hv)
  · intro hsetsUp before hbefore t ht
    have ht := hlooping hbefore (fun accepted h => hsetsUp accepted (hbefore.subset h)) ht
    exact serving ht.looping ht.untold

/-- An accepted socket whose local address is what `localAddr` says. -/
def echoSocket (localAddr : Except String SocketAddr) : Accepted FixedLengthFrameDecoder.echo where
  stream := {}
  peerAddr := ⟨[10, 0, 0, 7], 40000⟩
  setNodelay _ := .ok ()
  localAddr
  pipeline := FixedLengthFrameDecoder.echoPipeline ⟨4, by decide⟩

theorem echoSocket_setsUp (config : TcpConnectionConfig) (localAddr : SocketAddr) :
    (echoSocket (.ok localAddr)).SetsUp config localAddr := ⟨rfl, rfl⟩

/-- The opening hook refuses the first connection, the second is dropped by a panic of its closing
hook, and the server still accepts the third. -/
theorem run_keepsServing_refused :
    KeepsServing ⟨fun _ => "", 0⟩ {} ⟨[], 80⟩ ⟨[], 80⟩
      [.head, .accept (.ok (echoSocket (.ok ⟨[], 80⟩))), .task 0 .start,
        .task 0 (.opened (.error .closed)), .head, .accept (.ok (echoSocket (.ok ⟨[], 80⟩))),
        .task 1 .start, .task 1 (.opened (.ok ())), .head, .joinNext 0,
        .task 0 (.event (.command none)), .task 0 .panic, .head, .joinNext 0, .head,
        .accept (.ok (echoSocket (.ok ⟨[], 80⟩)))] := by
  refine (run_keepsServing_iff _ _ _ _ _ rfl (by simp) (by simp)).2 fun accepted h => ?_
  have haccepted : accepted = echoSocket (.ok ⟨[], 80⟩) := by simpa using h
  exact ⟨_, haccepted ▸ echoSocket_setsUp _ _⟩

/-- A peer that is gone before its local address is asked for takes the server down, and the first
connection with it. -/
theorem not_keepsServing_unset :
    ¬KeepsServing ⟨fun _ => "", 0⟩ {} ⟨[], 80⟩ ⟨[], 80⟩
      [.head, .accept (.ok (echoSocket (.ok ⟨[], 80⟩))), .task 0 .start, .task 0 (.opened (.ok ())),
        .head, .accept (.ok (echoSocket (.error "Transport endpoint is not connected")))] :=
  fun h => (h _ List.prefix_rfl _ rfl).looping.elim nofun nofun

end TcpServer

end RsNetty
