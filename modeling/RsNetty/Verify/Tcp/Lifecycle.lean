import RsNetty.Theory.Trace
import RsNetty.Verify.Tcp.Server

/-!
# The life hooks of a TCP server

`Lifecycle` says what the whole trace of the life hooks of a server must be: the start of the server
first and its stop last, and between them one bracket for each connection. `run_lifecycle`: the
trace of every run is a first part of such a trace, and all of it once the server is over.
-/

namespace RsNetty
open Trace

variable {P : StreamStages} {env : Surroundings}

/-! ## Brackets -/

/-- The connection that a hook is about. -/
def LifeCall.connection? : LifeCall → Option ConnInfo
  | .tcpConnectionOpened info | .tcpConnectionClosed info _ => some info
  | .tcpServerStarted _ | .tcpServerStopped _ => none

def LifeEvent.connection? : LifeEvent → Option ConnInfo
  | .called call | .returned call _ => call.connection?

def LifeEvent.id? (event : LifeEvent) : Option UInt64 := event.connection?.map ConnInfo.id

/-- All that a connection tells its hooks. -/
inductive Bracket (info : ConnInfo) : List LifeEvent → Prop
  | refused (err : Error) : Bracket info
    [.called (.tcpConnectionOpened info), .returned (.tcpConnectionOpened info) (.error err)]
  | served (reason : CloseReason) (result : Except Error Unit) : Bracket info
    [.called (.tcpConnectionOpened info), .returned (.tcpConnectionOpened info) (.ok ()),
      .called (.tcpConnectionClosed info reason), .returned (.tcpConnectionClosed info reason) result]

/-- The trace up to the accept loop. -/
def startedTrace (localAddr : SocketAddr) : List LifeEvent :=
  [.called (.tcpServerStarted localAddr), .returned (.tcpServerStarted localAddr) (.ok ())]

/-- The whole trace of a server that spawned the tasks of these connections. -/
inductive Lifecycle (accepted : List ConnInfo) : List LifeEvent → Prop
  | refused (localAddr : SocketAddr) (err : Error) : accepted = [] → Lifecycle accepted
    [.called (.tcpServerStarted localAddr), .returned (.tcpServerStarted localAddr) (.error err)]
  | served (localAddr listenerAddr : SocketAddr) (connections : List LifeEvent)
    (result : Except Error Unit) :
    (accepted.map ConnInfo.id).Nodup →
    (∀ event ∈ connections, ∃ info ∈ accepted, event.connection? = some info) →
    (∀ info ∈ accepted, Bracket info (eventsOf LifeEvent.id? info.id connections)) →
    Lifecycle accepted (startedTrace localAddr ++ connections ++
      [.called (.tcpServerStopped listenerAddr), .returned (.tcpServerStopped listenerAddr) result])

/-! ## One connection -/

namespace ConnectionPhase

def closeReason : Except ConnectionFailure CloseReason → CloseReason
  | .ok reason => reason
  | .error failure => failure.reason

/-- What a connection has told its hooks when it is in this phase. -/
def Traces (info : ConnInfo) (trace : List LifeEvent) : ConnectionPhase P → Prop
  | .spawned => trace = []
  | .opening => trace = [.called (.tcpConnectionOpened info)]
  | .running _ | .hung =>
    trace = [.called (.tcpConnectionOpened info), .returned (.tcpConnectionOpened info) (.ok ())]
  | .closing closed =>
    trace = [.called (.tcpConnectionOpened info), .returned (.tcpConnectionOpened info) (.ok ()),
      .called (.tcpConnectionClosed info (closeReason closed))]
  | .finished _ => Bracket info trace
  | .panicked => False

/-- One way in which the hooks of a connection may go on. -/
def remaining (info : ConnInfo) : ConnectionPhase P → List LifeEvent
  | .spawned =>
    [.called (.tcpConnectionOpened info), .returned (.tcpConnectionOpened info) (.error .closed)]
  | .opening => [.returned (.tcpConnectionOpened info) (.error .closed)]
  | .running _ | .hung =>
    [.called (.tcpConnectionClosed info .peerClosed),
      .returned (.tcpConnectionClosed info .peerClosed) (.ok ())]
  | .closing closed => [.returned (.tcpConnectionClosed info (closeReason closed)) (.ok ())]
  | .finished _ | .panicked => []

variable {phase : ConnectionPhase P} {info : ConnInfo} {trace : List LifeEvent}

theorem Traces.bracket (h : phase.Traces info trace) :
    Bracket info (trace ++ phase.remaining info) := by
  cases phase with
  | spawned | opening =>
    rw [Traces] at h
    subst h
    exact .refused _
  | running | hung | closing =>
    rw [Traces] at h
    subst h
    exact .served _ _
  | finished => exact (List.append_nil trace).symm ▸ h
  | panicked => exact h.elim

theorem Traces.bracket_of_isEnded (h : phase.Traces info trace) (hended : phase.isEnded = true) :
    Bracket info trace := by
  cases phase with
  | finished => exact h
  | panicked => exact h.elim
  | _ => cases hended

theorem connection?_remaining :
    ∀ event ∈ phase.remaining info, event.connection? = some info := by
  cases phase <;> simp [remaining, LifeEvent.connection?, LifeCall.connection?]

end ConnectionPhase

namespace ConnectionTask

variable {task task' : ConnectionTask P} {events trace : List LifeEvent}

/-- What a step of a task does to the trace: it enters a phase that fits the longer trace, unless
it panics. -/
structure Advances (task task' : ConnectionTask P) (events : List LifeEvent) : Prop where
  info : task'.info = task.info
  own : ∀ event ∈ events, event.connection? = some task.info
  traces : task'.phase ≠ .panicked → ∀ trace, task.phase.Traces task.info trace →
    task'.phase.Traces task.info (trace ++ events)

/-- Entering a phase, with events of the task's own. -/
theorem enter_advances {phase before : ConnectionPhase P} (hphase : task.phase = before)
    (hown : ∀ event ∈ events, event.connection? = some task.info)
    (htraces : phase ≠ .panicked → ∀ trace, before.Traces task.info trace →
      phase.Traces task.info (trace ++ events)) :
    task.Advances { task with phase } events :=
  ⟨rfl, hown, fun hpanic trace ht => htraces hpanic trace (hphase ▸ ht)⟩

theorem own_nil {info : ConnInfo} : ∀ event ∈ ([] : List LifeEvent), event.connection? = some info :=
  fun _ hevent => (List.not_mem_nil hevent).elim

theorem own_called {call : LifeCall} {info : ConnInfo} (h : call.connection? = some info) :
    ∀ event ∈ [LifeEvent.called call], event.connection? = some info := by
  simp [LifeEvent.connection?, h]

theorem own_returned {call : LifeCall} {info : ConnInfo} (h : call.connection? = some info)
    (result : Except Error Unit) :
    ∀ event ∈ [LifeEvent.returned call result], event.connection? = some info := by
  simp [LifeEvent.connection?, h]

theorem turn_advances {rt : StreamConnectionRuntime P} {event : Event P.Write}
    (hphase : task.phase = .running rt) (h : task.turn env event rt = some (task', events)) :
    task.Advances task' events := by
  rw [turn] at h
  split at h
  next =>
    cases h
    exact enter_advances hphase own_nil fun _ trace ht => (List.append_nil trace).symm ▸ ht
  next =>
    cases h
    refine enter_advances hphase (own_called rfl) fun _ trace ht => ?_
    obtain rfl : trace = _ := ht
    rfl
  next =>
    cases h
    refine enter_advances hphase (own_called rfl) fun _ trace ht => ?_
    obtain rfl : trace = _ := ht
    rfl
  next =>
    cases h
    exact enter_advances hphase own_nil fun hpanic => (hpanic rfl).elim
  next =>
    cases h
    exact enter_advances hphase own_nil fun _ trace ht => (List.append_nil trace).symm ▸ ht

theorem step_advances {requested : Bool} {action : ConnectionAction P}
    (h : task.step env requested action = some (task', events)) : task.Advances task' events := by
  cases action with
  | start =>
    simp only [step] at h
    split at h <;> cases h
    next hphase =>
      refine enter_advances hphase (own_called rfl) fun _ trace ht => ?_
      obtain rfl : trace = _ := ht
      rfl
  | opened result =>
    simp only [step] at h
    split at h <;> cases h
    next hphase =>
      refine enter_advances hphase (own_returned rfl result) fun _ trace ht => ?_
      obtain rfl : trace = _ := ht
      cases result with
      | ok => rfl
      | error err => exact .refused err
  | event event =>
    cases hphase : task.phase with
    | running rt =>
      simp only [step, hphase] at h
      split at h
      next heq =>
        cases heq
        split at h
        next => exact turn_advances hphase h
        next => cases h
      next heq _ =>
        cases heq
        exact turn_advances hphase h
      next => cases h
    | _ => simp [step, hphase] at h
  | closed result =>
    simp only [step] at h
    split at h <;> cases h
    next reason hphase =>
      refine enter_advances hphase (own_returned rfl result) fun _ trace ht => ?_
      obtain rfl : trace = _ := ht
      exact .served reason result
    next failure hphase =>
      refine enter_advances hphase (own_returned rfl result) fun _ trace ht => ?_
      obtain rfl : trace = _ := ht
      exact .served failure.reason result
  | panic =>
    simp only [step] at h
    split at h <;> cases h
    next hphase => exact enter_advances hphase own_nil fun hpanic => (hpanic rfl).elim
    next hphase => exact enter_advances hphase own_nil fun hpanic => (hpanic rfl).elim

end ConnectionTask

/-! ## All connections -/

/-- The tasks in the `JoinSet`, the connections spawned so far, and what they have told the hooks:
each connection either has its task, in a phase that fits, or has told all. -/
structure Connected (connections : List (ConnectionTask P)) (accepted : List ConnInfo)
    (events : List LifeEvent) : Prop where
  distinct : (accepted.map ConnInfo.id).Nodup
  known : ∀ event ∈ events, ∃ info ∈ accepted, event.connection? = some info
  tasks : ∀ task ∈ connections, task.info ∈ accepted
  once : (connections.map (·.info.id)).Nodup
  traces : ∀ task ∈ connections,
    task.phase.Traces task.info (eventsOf LifeEvent.id? task.info.id events)
  joined : ∀ info ∈ accepted, (∃ task ∈ connections, task.info = info) ∨
    Bracket info (eventsOf LifeEvent.id? info.id events)

namespace Connected

variable {connections : List (ConnectionTask P)} {accepted : List ConnInfo}
  {events new : List LifeEvent} {task task' : ConnectionTask P} {i : Nat}

theorem nil : Connected ([] : List (ConnectionTask P)) [] [] :=
  ⟨.nil, by simp, by simp, .nil, by simp, by simp⟩

theorem id?_eq {event : LifeEvent} {info : ConnInfo} (h : event.connection? = some info) :
    event.id? = some info.id := by
  rw [LifeEvent.id?, h]
  rfl

theorem spawn (h : Connected connections accepted events) {connection : StreamConnection P}
    (hdistinct : ((accepted ++ [connection.info]).map ConnInfo.id).Nodup) :
    Connected (connections ++ [⟨connection, .spawned⟩]) (accepted ++ [connection.info]) events := by
  have hfresh : ∀ info ∈ accepted, info.id ≠ connection.info.id := by
    intro info hinfo heq
    rw [List.map_append, List.nodup_append] at hdistinct
    exact hdistinct.2.2 _ (List.mem_map_of_mem hinfo) _ (by simp) heq
  have hold {info : ConnInfo} (hinfo : info ∈ accepted) : info ∈ accepted ++ [connection.info] :=
    List.mem_append_left _ hinfo
  refine ⟨hdistinct, ?_, ?_, ?_, ?_, ?_⟩
  · intro event hevent
    obtain ⟨info, hinfo, heq⟩ := h.known event hevent
    exact ⟨info, hold hinfo, heq⟩
  · intro task htask
    rcases List.mem_append.1 htask with htask | htask
    · exact hold (h.tasks task htask)
    · obtain rfl := List.mem_singleton.1 htask
      exact List.mem_append_right _ (.head _)
  · rw [List.map_append, List.nodup_append]
    refine ⟨h.once, by simp, fun id hid id' hid' => ?_⟩
    obtain ⟨task, htask, rfl⟩ := List.mem_map.1 hid
    obtain rfl := List.mem_singleton.1 hid'
    exact hfresh _ (h.tasks task htask)
  · intro task htask
    rcases List.mem_append.1 htask with htask | htask
    · exact h.traces task htask
    · obtain rfl := List.mem_singleton.1 htask
      refine eventsOf_eq_nil fun event hevent heq => ?_
      obtain ⟨info, hinfo, hconnection⟩ := h.known event hevent
      exact hfresh info hinfo (Option.some.inj ((id?_eq hconnection).symm.trans heq))
  · intro info hinfo
    rcases List.mem_append.1 hinfo with hinfo | hinfo
    · obtain ⟨task, htask, heq⟩ | hbracket := h.joined info hinfo
      · exact .inl ⟨task, List.mem_append_left _ htask, heq⟩
      · exact .inr hbracket
    · obtain rfl := List.mem_singleton.1 hinfo
      exact .inl ⟨_, List.mem_append_right _ (.head _), rfl⟩

/-- A task that has ended has told all. -/
theorem join (h : Connected connections accepted events) (htask : connections[i]? = some task)
    (hended : task.phase.isEnded = true) :
    Connected (connections.eraseIdx i) accepted events := by
  have hsub := List.eraseIdx_sublist connections i
  refine ⟨h.distinct, h.known, fun other hother => h.tasks other (hsub.subset hother),
    h.once.sublist (hsub.map _), fun other hother => h.traces other (hsub.subset hother), ?_⟩
  intro info hinfo
  obtain ⟨other, hother, rfl⟩ | hbracket := h.joined info hinfo
  · obtain ⟨j, hj⟩ := List.mem_iff_getElem?.1 hother
    by_cases hij : i = j
    · subst hij
      cases hj.symm.trans htask
      exact .inr ((h.traces _ hother).bracket_of_isEnded hended)
    · exact .inl ⟨other, List.mem_eraseIdx_iff_getElem?.2 ⟨j, Ne.symm hij, hj⟩, rfl⟩
  · exact .inr hbracket

/-- The places of the list hold different connections. -/
theorem eq_of_id_eq (h : Connected connections accepted events) {j : Nat}
    {other : ConnectionTask P} (htask : connections[i]? = some task)
    (hother : connections[j]? = some other) (heq : task.info.id = other.info.id) : i = j := by
  obtain ⟨hi, -⟩ := List.getElem?_eq_some_iff.1 htask
  refine (List.getElem?_inj ((List.length_map _).symm ▸ hi) h.once).1 ?_
  rw [List.getElem?_map, List.getElem?_map, htask, hother]
  exact congrArg some heq

theorem step (h : Connected connections accepted events) (htask : connections[i]? = some task)
    (hadvances : task.Advances task' new) (hpanic : task'.phase ≠ .panicked) :
    Connected (connections.set i task') accepted (events ++ new) := by
  have hmem := List.mem_of_getElem? htask
  have hnew : ∀ event ∈ new, event.id? = some task.info.id :=
    fun event hevent => id?_eq (hadvances.own event hevent)
  have hself : eventsOf LifeEvent.id? task.info.id (events ++ new) =
      eventsOf LifeEvent.id? task.info.id events ++ new := by
    rw [eventsOf_append, eventsOf_eq_self hnew]
  have hother {id : UInt64} (hne : task.info.id ≠ id) :
      eventsOf LifeEvent.id? id (events ++ new) = eventsOf LifeEvent.id? id events := by
    have hnil : eventsOf LifeEvent.id? id new = [] :=
      eventsOf_eq_nil fun event hevent heq =>
        hne (Option.some.inj ((hnew event hevent).symm.trans heq))
    rw [eventsOf_append, hnil, List.append_nil]
  have hmap : (connections.set i task').map ConnectionTask.info =
      connections.map ConnectionTask.info := by
    have hget : (connections.map ConnectionTask.info)[i]? = some task'.info := by
      rw [List.getElem?_map, htask, hadvances.info]
      rfl
    obtain ⟨_, hget⟩ := List.getElem?_eq_some_iff.1 hget
    rw [List.map_set, ← hget, List.set_getElem_self]
  have hinfos {info : ConnInfo} : (∃ other ∈ connections.set i task', other.info = info) ↔
      ∃ other ∈ connections, other.info = info := by
    rw [← List.mem_map, ← List.mem_map, hmap]
  refine ⟨h.distinct, ?_, ?_, ?_, ?_, ?_⟩
  · intro event hevent
    rcases List.mem_append.1 hevent with hevent | hevent
    · exact h.known event hevent
    · exact ⟨task.info, h.tasks task hmem, hadvances.own event hevent⟩
  · intro other hother
    obtain ⟨before, hbefore, heq⟩ := hinfos.1 ⟨other, hother, rfl⟩
    exact heq ▸ h.tasks before hbefore
  · have := congrArg (List.map ConnInfo.id) hmap
    rw [List.map_map, List.map_map] at this
    exact this ▸ h.once
  · intro other hmem'
    obtain ⟨j, hj⟩ := List.mem_iff_getElem?.1 hmem'
    rw [List.getElem?_set] at hj
    split at hj
    next hij =>
      split at hj
      next =>
        cases hj
        rw [hadvances.info, hself]
        exact hadvances.traces hpanic _ (h.traces task hmem)
      next => cases hj
    next hij =>
      rw [hother fun heq => hij (h.eq_of_id_eq htask hj heq)]
      exact h.traces other (List.mem_of_getElem? hj)
  · intro info hinfo
    by_cases heq : task.info.id = info.id
    · have := List.inj_on_of_nodup_map h.distinct (h.tasks task hmem) hinfo heq
      exact .inl (hinfos.2 ⟨task, hmem, this⟩)
    · rw [hother heq]
      exact (h.joined info hinfo).imp_left hinfos.2

/-- The connections could still tell the rest of their brackets. -/
theorem exists_brackets (h : Connected connections accepted events) :
    ∃ rest, (∀ event ∈ events ++ rest, ∃ info ∈ accepted, event.connection? = some info) ∧
      (∀ info ∈ accepted, Bracket info (eventsOf LifeEvent.id? info.id (events ++ rest))) ∧
      (connections = [] → rest = []) := by
  have howner : ∀ task ∈ connections, ∀ event ∈ task.phase.remaining task.info,
      event.id? = some task.info.id :=
    fun task _ event hevent => id?_eq (ConnectionPhase.connection?_remaining event hevent)
  refine ⟨connections.flatMap fun task => task.phase.remaining task.info, ?_, ?_, ?_⟩
  · intro event hevent
    rcases List.mem_append.1 hevent with hevent | hevent
    · exact h.known event hevent
    · obtain ⟨task, htask, hevent⟩ := List.mem_flatMap.1 hevent
      exact ⟨task.info, h.tasks task htask, ConnectionPhase.connection?_remaining event hevent⟩
  · have htask : ∀ task ∈ connections, Bracket task.info (eventsOf LifeEvent.id? task.info.id
        (events ++ connections.flatMap fun task => task.phase.remaining task.info)) := by
      intro task htask
      rw [eventsOf_append, eventsOf_flatMap howner h.once htask]
      exact (h.traces task htask).bracket
    intro info hinfo
    obtain ⟨task, hmem, rfl⟩ | hbracket := h.joined info hinfo
    · exact htask task hmem
    · by_cases hid : info.id ∈ connections.map (·.info.id)
      · obtain ⟨task, hmem, heq⟩ := List.mem_map.1 hid
        cases List.inj_on_of_nodup_map h.distinct (h.tasks task hmem) hinfo heq
        exact htask task hmem
      · rw [eventsOf_append, eventsOf_flatMap_eq_nil howner hid, List.append_nil]
        exact hbracket
  · rintro rfl
    rfl

/-- A server with these connections can still come to a whole trace. -/
theorem lifecycle (h : Connected connections accepted events)
    (localAddr listenerAddr : SocketAddr) (result : Except Error Unit) :
    ∃ rest, (connections = [] → rest = []) ∧
      Lifecycle accepted (startedTrace localAddr ++ (events ++ rest) ++
        [.called (.tcpServerStopped listenerAddr),
          .returned (.tcpServerStopped listenerAddr) result]) := by
  obtain ⟨rest, hknown, hbrackets, hnil⟩ := h.exists_brackets
  exact ⟨rest, hnil, .served localAddr listenerAddr _ result h.distinct hknown hbrackets⟩

end Connected

/-! ## The server -/

namespace TcpServer

variable {s t : TcpServer P}

/-- The `n`-th connection of a server gets the number `n`, modulo `2 ^ 64`. -/
structure Numbered (s : TcpServer P) : Prop where
  next : s.ids = UInt64.ofNat (s.accepted.length + 1)
  ids : s.accepted.map ConnInfo.id = (List.range s.accepted.length).map fun n => UInt64.ofNat (n + 1)

theorem Numbered.distinct (h : s.Numbered) (hlen : s.accepted.length < 2 ^ 64) :
    (s.accepted.map ConnInfo.id).Nodup := by
  rw [h.ids]
  refine List.nodup_range.map_on fun i hi j hj heq => ?_
  rw [List.mem_range] at hi hj
  have := congrArg UInt64.toNat heq
  rw [UInt64.toNat_ofNat', UInt64.toNat_ofNat'] at this
  omega

/-- No connection has been accepted. -/
def Fresh (s : TcpServer P) : Prop := s.connections = [] ∧ s.accepted = []

theorem Fresh.connected (h : s.Fresh) : Connected s.connections s.accepted [] := by
  rw [h.1, h.2]
  exact .nil

/-- What the server has told its hooks when it is in this phase. -/
def PhaseTraces (s : TcpServer P) : ServerPhase → Prop
  | .bound => s.Fresh ∧ s.life = []
  | .starting => s.Fresh ∧ s.life = [.called (.tcpServerStarted s.localAddr)]
  | .failed err => s.Fresh ∧
    s.life = [.called (.tcpServerStarted s.localAddr),
      .returned (.tcpServerStarted s.localAddr) (.error err)]
  | .spawned => s.Fresh ∧ s.life = startedTrace s.localAddr
  | .loopHead | .select | .draining _ => ∃ localAddr events,
    Connected s.connections s.accepted events ∧ s.life = startedTrace localAddr ++ events
  | .stopping _ => ∃ localAddr events, s.connections = [] ∧
    Connected s.connections s.accepted events ∧ s.life = startedTrace localAddr ++ events ++
      [.called (.tcpServerStopped s.localAddr)]
  | .stopped _ => ∃ localAddr events result, s.connections = [] ∧
    Connected s.connections s.accepted events ∧ s.life = startedTrace localAddr ++ events ++
      [.called (.tcpServerStopped s.localAddr), .returned (.tcpServerStopped s.localAddr) result]

theorem Step.numbered {action : ServerAction P} (h : Step env s action t) (hs : s.Numbered) :
    t.Numbered := by
  cases h with
  | accepted accepted localAddr _ _ =>
    have hlen : (s.spawn accepted localAddr).accepted.length = s.accepted.length + 1 := by
      simp [spawn]
    constructor
    · rw [hlen, UInt64.ofNat_add, ← hs.next]
      rfl
    · rw [hlen, List.range_succ, List.map_append, ← hs.ids]
      simp [spawn, hs.next]
  | _ => exact ⟨hs.next, hs.ids⟩

theorem Step.panics_le {action : ServerAction P} (h : Step env s action t) :
    s.panics ≤ t.panics := by
  cases h with
  | task => exact Nat.le_add_right ..
  | _ => exact Nat.le_refl _

theorem Step.length_le {action : ServerAction P} (h : Step env s action t) :
    s.accepted.length ≤ t.accepted.length := by
  cases h with
  | accepted => simp [spawn]
  | _ => exact Nat.le_refl _

/-- A step of a task, in whatever phase the server is. -/
theorem PhaseTraces.task (hs : s.PhaseTraces s.phase) {i : Nat} {task task' : ConnectionTask P}
    {events : List LifeEvent} (htask : s.connections[i]? = some task)
    (hadvances : task.Advances task' events) (hpanic : task'.phase ≠ .panicked) {panics : Nat} :
    PhaseTraces { s with connections := s.connections.set i task', life := s.life ++ events, panics }
      s.phase := by
  have hne : s.connections ≠ [] := by
    intro hnil
    rw [hnil] at htask
    cases htask
  cases hphase : s.phase with
  | bound | starting | failed | spawned =>
    rw [hphase] at hs
    exact (hne hs.1.1).elim
  | loopHead | select | draining =>
    rw [hphase] at hs
    obtain ⟨localAddr, before, hconnected, hlife⟩ := hs
    refine ⟨localAddr, before ++ events, hconnected.step htask hadvances hpanic, ?_⟩
    rw [← List.append_assoc, ← hlife]
  | stopping =>
    rw [hphase] at hs
    obtain ⟨_, _, hnil, _⟩ := hs
    exact (hne hnil).elim
  | stopped =>
    rw [hphase] at hs
    obtain ⟨_, _, _, hnil, _⟩ := hs
    exact (hne hnil).elim

theorem Step.phaseTraces {action : ServerAction P} (h : Step env s action t)
    (hlocalAddr : ∀ err, action ≠ .localAddr (.error err)) (hpanics : t.panics = 0)
    (hdistinct : (t.accepted.map ConnInfo.id).Nodup) (hs : s.PhaseTraces s.phase) :
    t.PhaseTraces t.phase := by
  cases h with
  | listening localAddr hphase =>
    rw [hphase] at hs
    exact ⟨hs.1, congrArg (· ++ _) hs.2⟩
  | notListening err => exact (hlocalAddr err rfl).elim
  | started hphase =>
    rw [hphase] at hs
    exact ⟨hs.1, congrArg (· ++ _) hs.2⟩
  | notStarted err hphase =>
    rw [hphase] at hs
    exact ⟨hs.1, congrArg (· ++ _) hs.2⟩
  | entering localAddr hphase =>
    rw [hphase] at hs
    exact ⟨s.localAddr, [], hs.1.connected, hs.2⟩
  | notEntering err => exact (hlocalAddr err rfl).elim
  | waiting hphase => rw [hphase] at hs; exact hs
  | breaking hphase => rw [hphase] at hs; exact hs
  | notAccepted err hphase => rw [hphase] at hs; exact hs
  | notSetUp accepted err hphase => rw [hphase] at hs; exact hs
  | changed hphase => rw [hphase] at hs; exact hs
  | accepted accepted addr hphase =>
    rw [hphase] at hs
    obtain ⟨localAddr, events, hconnected, hlife⟩ := hs
    exact ⟨localAddr, events, hconnected.spawn hdistinct, hlife⟩
  | joined i task hphase htask hended =>
    rw [hphase] at hs
    obtain ⟨localAddr, events, hconnected, hlife⟩ := hs
    exact ⟨localAddr, events, hconnected.join htask hended, hlife⟩
  | drainedOne i task result hphase htask hended =>
    rw [hphase] at hs
    obtain ⟨localAddr, events, hconnected, hlife⟩ := hs
    show PhaseTraces _ s.phase
    rw [hphase]
    exact ⟨localAddr, events, hconnected.join htask hended, hlife⟩
  | drained result hphase hnil =>
    rw [hphase] at hs
    obtain ⟨localAddr, events, hconnected, hlife⟩ := hs
    exact ⟨localAddr, events, hnil, hconnected, congrArg (· ++ _) hlife⟩
  | stopped serverResult result hphase =>
    rw [hphase] at hs
    obtain ⟨localAddr, events, hnil, hconnected, hlife⟩ := hs
    refine ⟨localAddr, events, result, hnil, hconnected, ?_⟩
    show s.life ++ _ = _
    rw [hlife, List.append_assoc]
    rfl
  | shutdown =>
    show PhaseTraces _ s.phase
    cases hphase : s.phase <;> rw [hphase] at hs <;> exact hs
  | task i action task task' events htask hstep =>
    refine hs.task htask (ConnectionTask.step_advances hstep) fun hpanic => ?_
    rw [hpanic] at hpanics
    exact Nat.succ_ne_zero _ hpanics

/-- `start` or the task of `run_tcp_server` has returned. -/
def isOver (s : TcpServer P) : Bool :=
  match s.phase with
  | .failed _ | .stopped _ => true
  | _ => false

/-- The trace of the life hooks is a first part of the whole trace of a server, all of it once the
server is over. -/
theorem PhaseTraces.lifecycle (h : s.PhaseTraces s.phase) :
    ∃ whole, Lifecycle s.accepted whole ∧ s.life <+: whole ∧ (s.isOver = true → s.life = whole) := by
  cases hphase : s.phase with
  | bound =>
    rw [hphase] at h
    obtain ⟨hfresh, hlife⟩ := h
    refine ⟨_, .refused s.localAddr .closed hfresh.2, ?_, by simp [isOver, hphase]⟩
    rw [hlife]
    exact List.nil_prefix
  | starting =>
    rw [hphase] at h
    obtain ⟨hfresh, hlife⟩ := h
    refine ⟨_, .refused s.localAddr .closed hfresh.2, ?_, by simp [isOver, hphase]⟩
    rw [hlife]
    exact List.prefix_append [_] [_]
  | failed err =>
    rw [hphase] at h
    obtain ⟨hfresh, hlife⟩ := h
    exact ⟨_, .refused s.localAddr err hfresh.2, hlife ▸ List.prefix_rfl, fun _ => hlife⟩
  | spawned =>
    rw [hphase] at h
    obtain ⟨hfresh, hlife⟩ := h
    obtain ⟨rest, -, hwhole⟩ :=
      Connected.lifecycle hfresh.connected s.localAddr s.localAddr (.ok ())
    refine ⟨_, hwhole, ?_, by simp [isOver, hphase]⟩
    rw [hlife, List.append_assoc]
    exact List.prefix_append _ _
  | loopHead | select | draining =>
    rw [hphase] at h
    obtain ⟨localAddr, events, hconnected, hlife⟩ := h
    obtain ⟨rest, -, hwhole⟩ := hconnected.lifecycle localAddr s.localAddr (.ok ())
    refine ⟨_, hwhole, ?_, by simp [isOver, hphase]⟩
    rw [hlife, ← List.append_assoc, List.append_assoc]
    exact List.prefix_append _ _
  | stopping =>
    rw [hphase] at h
    obtain ⟨localAddr, events, hnil, hconnected, hlife⟩ := h
    obtain ⟨rest, hrest, hwhole⟩ := hconnected.lifecycle localAddr s.localAddr (.ok ())
    rw [hrest hnil, List.append_nil] at hwhole
    refine ⟨_, hwhole, ?_, by simp [isOver, hphase]⟩
    rw [hlife]
    exact List.prefix_append_right_inj _ |>.2 (List.prefix_append [_] [_])
  | stopped =>
    rw [hphase] at h
    obtain ⟨localAddr, events, result, hnil, hconnected, hlife⟩ := h
    obtain ⟨rest, hrest, hwhole⟩ := hconnected.lifecycle localAddr s.localAddr result
    rw [hrest hnil, List.append_nil] at hwhole
    exact ⟨_, hwhole, hlife ▸ List.prefix_rfl, fun _ => hlife⟩

/-- In a run without panics, in which asking the listener for its address succeeds, the life hooks
of a server and of its connections are called in brackets. -/
theorem run_lifecycle (env : Surroundings) (config : TcpConnectionConfig)
    (actions : List (ServerAction P)) {s : TcpServer P}
    (hrun : (step env).run (new config) actions = some s)
    (hlocalAddr : ∀ err, .localAddr (.error err) ∉ actions) (hpanics : s.panics = 0)
    (hlen : s.accepted.length < 2 ^ 64) :
    ∃ whole, Lifecycle s.accepted whole ∧ s.life <+: whole ∧ (s.isOver = true → s.life = whole) := by
  have hinv : s.Numbered ∧ (s.panics = 0 → s.accepted.length < 2 ^ 64 → s.PhaseTraces s.phase) := by
    refine Machine.run_invariant
      (fun s => s.Numbered ∧ (s.panics = 0 → s.accepted.length < 2 ^ 64 → s.PhaseTraces s.phase))
      ⟨⟨rfl, rfl⟩, fun _ _ => ⟨⟨rfl, rfl⟩, rfl⟩⟩ ?_ hrun
    intro action haction u v ⟨hnumbered, htraces⟩ hstep
    have hstep := step_cases hstep
    have hv := hstep.numbered hnumbered
    refine ⟨hv, fun hpanics hlen => ?_⟩
    exact hstep.phaseTraces (fun err h => hlocalAddr err (h ▸ haction)) hpanics (hv.distinct hlen)
      (htraces (Nat.le_zero.1 (hpanics ▸ hstep.panics_le)) (Nat.lt_of_le_of_lt hstep.length_le hlen))
  exact (hinv.2 hpanics hlen).lifecycle

/-- One connection is closed by the shutdown, the other is refused by its opening hook. -/
def twoConnections : List (ServerAction FixedLengthFrameDecoder.echo) :=
  entry ⟨[], 80⟩ ⟨[], 80⟩ ++
    [.head, .accept (.ok (echoSocket (.ok ⟨[], 80⟩))), .head, .task 0 .start,
      .accept (.ok (echoSocket (.ok ⟨[], 80⟩))), .task 1 .start, .task 0 (.opened (.ok ())),
      .shutdown, .task 1 (.opened (.error .closed)), .task 0 (.event .shutdown), .head,
      .joinNext 1, .task 0 (.closed (.ok ())), .joinNext 0, .drained, .stopped (.ok ())]

theorem run_lifecycle_twoConnections :
    ∃ s, (step ⟨fun _ => "", 0⟩).run (new {}) twoConnections = some s ∧ s.accepted.length = 2 ∧
      Lifecycle s.accepted s.life := by
  have hend : ((step ⟨fun _ => "", 0⟩).run (new {}) twoConnections).map
      (fun s => (s.accepted.length, s.panics, s.isOver)) = some (2, 0, true) := by
    decide
  obtain ⟨s, hrun, hs⟩ := Option.map_eq_some_iff.1 hend
  simp only [Prod.mk.injEq] at hs
  obtain ⟨hlen, hpanics, hover⟩ := hs
  obtain ⟨whole, hwhole, -, heq⟩ := run_lifecycle _ _ _ hrun (by simp [twoConnections, entry]) hpanics
    (by omega)
  exact ⟨s, hrun, hlen, heq hover ▸ hwhole⟩

end TcpServer

end RsNetty
