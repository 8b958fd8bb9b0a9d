import Mathlib.Data.List.Forall2
import RsNetty.Verify.Tcp.Server

/-!
# The connections of a server

What becomes of a connection is up to its own socket and its own events. `Alone` says where
`run_stream_connection_with_life` is behind some events, without the server and the other
connections; `run_connectionsAlone` that every connection of every server is there. So what holds of
a connection by itself holds of all connections of a server, however it ends and whatever their
neighbours do.
-/

namespace RsNetty

variable {P : StreamStages} {env : Surroundings}

/-! ## A connection by itself -/

namespace StreamConnection

variable {connection : StreamConnection P} {events : List (Event P.Write)}
  {rt : StreamConnectionRuntime P}

/-- What `run_stream_connection` does with these events. -/
def outcome (env : Surroundings) (connection : StreamConnection P) (events : List (Event P.Write)) :
    EStateM.Result (Exit ConnectionFailure) (StreamConnectionRuntime P) (Option CloseReason) :=
  (StreamConnectionRuntime.run env events).result connection.runtime

/-- A running connection takes one event more. -/
theorem outcome_concat (h : connection.outcome env events = .ok none rt) (event : Event P.Write) :
    connection.outcome env (events ++ [event]) =
      (StreamConnectionRuntime.select env event).result rt := by
  rw [outcome] at h
  rw [outcome, StreamConnectionRuntime.run_append, h]
  refine (StreamConnectionRuntime.run_cons event []).trans ?_
  cases (StreamConnectionRuntime.select env event).result rt with
  | ok closed rt' => cases closed <;> rfl
  | error e rt' => rfl

/-- The loop is over behind these events, and the closing hook is called with this reason. -/
inductive EndsFor (env : Surroundings) (connection : StreamConnection P)
    (events : List (Event P.Write)) : CloseReason → Prop
  | closed {reason : CloseReason} {rt : StreamConnectionRuntime P} :
    connection.outcome env events = .ok (some reason) rt →
    EndsFor env connection events reason
  | failed {fault : ConnectionFailure} {rt : StreamConnectionRuntime P} :
    connection.outcome env events = .error (.err fault) rt →
    EndsFor env connection events fault.reason

/-- Where the task of a connection is that has found these events. -/
inductive Alone (env : Surroundings) (connection : StreamConnection P) :
    List (Event P.Write) → ConnectionPhase P → Prop
  | spawned : Alone env connection [] .spawned
  | opening : Alone env connection [] .opening
  /-- The opening hook has refused the connection. -/
  | refused (err : Error) : Alone env connection [] (.finished (.error err))
  | panickedOpening : Alone env connection [] .panicked
  | running {events : List (Event P.Write)} {rt : StreamConnectionRuntime P} :
    connection.outcome env events = .ok none rt → Alone env connection events (.running rt)
  | hung {events : List (Event P.Write)} {rt : StreamConnectionRuntime P} :
    connection.outcome env events = .error .hang rt → Alone env connection events .hung
  | panicked {events : List (Event P.Write)} {rt : StreamConnectionRuntime P} :
    connection.outcome env events = .error .panic rt → Alone env connection events .panicked
  | closing {events : List (Event P.Write)} {reason : CloseReason}
    {rt : StreamConnectionRuntime P} :
    connection.outcome env events = .ok (some reason) rt →
    Alone env connection events (.closing (.ok reason))
  | failing {events : List (Event P.Write)} {fault : ConnectionFailure}
    {rt : StreamConnectionRuntime P} :
    connection.outcome env events = .error (.err fault) rt →
    Alone env connection events (.closing (.error fault))
  | panickedClosing {events : List (Event P.Write)} {reason : CloseReason} :
    EndsFor env connection events reason → Alone env connection events .panicked
  /-- The result of the closing hook is the result of the task. -/
  | closed {events : List (Event P.Write)} {reason : CloseReason}
    {rt : StreamConnectionRuntime P} (result : Except Error Unit) :
    connection.outcome env events = .ok (some reason) rt →
    Alone env connection events (.finished result)
  /-- The error of the loop is, whatever the hook returned. -/
  | failed {events : List (Event P.Write)} {fault : ConnectionFailure}
    {rt : StreamConnectionRuntime P} :
    connection.outcome env events = .error (.err fault) rt →
    Alone env connection events (.finished (.error fault.error))

namespace Alone

theorem of_running (h : Alone env connection events (.running rt)) :
    connection.outcome env events = .ok none rt := by
  cases h with
  | running hrun => exact hrun

theorem of_closing {reason : CloseReason}
    (h : Alone env connection events (.closing (.ok reason))) :
    ∃ rt, connection.outcome env events = .ok (some reason) rt := by
  cases h with
  | closing hrun => exact ⟨_, hrun⟩

theorem of_failing {fault : ConnectionFailure}
    (h : Alone env connection events (.closing (.error fault))) :
    ∃ rt, connection.outcome env events = .error (.err fault) rt := by
  cases h with
  | failing hrun => exact ⟨_, hrun⟩

end Alone

end StreamConnection

open StreamConnection

/-! ## A step of its task -/

namespace ConnectionTask

variable {task task' : ConnectionTask P} {events more : List (Event P.Write)}
  {life : List LifeEvent} {requested : Bool}

/-- What a step leads to: the connection stays, `more` events are found, and what the closing hook
is told is why the loop is over. -/
structure Continues (env : Surroundings) (task : ConnectionTask P)
    (events : List (Event P.Write)) (task' : ConnectionTask P) (life : List LifeEvent) : Prop where
  connection : task'.connection = task.connection
  alone : Alone env task.connection events task'.phase
  ends : ∀ info reason, .called (.tcpConnectionClosed info reason) ∈ life →
    info = task.info ∧ EndsFor env task.connection events reason

/-- The closing hook is not called. -/
theorem continues_silent {phase : ConnectionPhase P}
    (h : Alone env task.connection events phase)
    (hlife : ∀ info reason, .called (.tcpConnectionClosed info reason) ∉ life) :
    Continues env task events { task with phase } life :=
  ⟨rfl, h, fun info reason hcall => (hlife info reason hcall).elim⟩

theorem continues_closing {phase : ConnectionPhase P} {reason : CloseReason}
    (h : Alone env task.connection events phase)
    (hends : EndsFor env task.connection events reason) :
    Continues env task events { task with phase }
      [.called (.tcpConnectionClosed task.info reason)] := by
  refine ⟨rfl, h, fun info reason' hcall => ?_⟩
  cases List.mem_singleton.1 hcall
  exact ⟨rfl, hends⟩

theorem turn_continues {event : Event P.Write} {rt : StreamConnectionRuntime P}
    (h : Alone env task.connection events (.running rt))
    (hturn : task.turn env event rt = some (task', life)) :
    Continues env task (events ++ [event]) task' life := by
  have hnext := outcome_concat h.of_running event
  rw [turn] at hturn
  cases hresult : (StreamConnectionRuntime.select env event).result rt with
  | ok closed rt' =>
    rw [hresult] at hturn hnext
    cases closed with
    | none =>
      cases hturn
      exact continues_silent (.running hnext) nofun
    | some reason =>
      cases hturn
      exact continues_closing (.closing hnext) (.closed hnext)
  | error e rt' =>
    rw [hresult] at hturn hnext
    cases e with
    | err fault =>
      cases hturn
      exact continues_closing (.failing hnext) (.failed hnext)
    | panic =>
      cases hturn
      exact continues_silent (.panicked hnext) nofun
    | hang =>
      cases hturn
      exact continues_silent (.hung hnext) nofun

/-- The events that an action brings to the task: a shutdown only once one is `requested`. -/
inductive Brings (requested : Bool) : ConnectionAction P → List (Event P.Write) → Prop
  | nothing {action : ConnectionAction P} : (∀ event, action ≠ .event event) →
    Brings requested action []
  | event (event : Event P.Write) : (event = .shutdown → requested = true) →
    Brings requested (.event event) [event]

theorem step_continues {action : ConnectionAction P}
    (h : Alone env task.connection events task.phase)
    (hstep : task.step env requested action = some (task', life)) :
    ∃ more, Brings requested action more ∧ Continues env task (events ++ more) task' life := by
  have silent (hnot : ∀ event, action ≠ .event event)
      (hcontinues : Continues env task events task' life) :
      ∃ more, Brings requested action more ∧ Continues env task (events ++ more) task' life :=
    ⟨[], .nothing hnot, (List.append_nil events).symm ▸ hcontinues⟩
  obtain ⟨connection, phase⟩ := task
  cases action with
  | start =>
    cases phase with
    | spawned =>
      cases h
      cases hstep
      exact silent nofun (continues_silent .opening (by simp))
    | _ => cases hstep
  | opened result =>
    cases phase with
    | opening =>
      cases h
      cases hstep
      cases result with
      | ok => exact silent nofun (continues_silent (.running rfl) (by simp))
      | error err => exact silent nofun (continues_silent (.refused err) (by simp))
    | _ => cases hstep
  | event event =>
    cases phase with
    | running rt =>
      have taken (hrequested : event = .shutdown → requested = true)
          (hturn : turn env event rt ⟨connection, .running rt⟩ = some (task', life)) :
          ∃ more, Brings requested (.event event) more ∧
            Continues env ⟨connection, .running rt⟩ (events ++ more) task' life :=
        ⟨[event], .event event hrequested, turn_continues h hturn⟩
      cases event with
      | shutdown =>
        simp only [step] at hstep
        split at hstep
        next hrequested => exact taken (fun _ => hrequested) hstep
        next => cases hstep
      | read _ | command _ | idle => exact taken nofun hstep
    | _ => cases hstep
  | closed result =>
    cases phase with
    | closing closed =>
      cases closed with
      | ok reason =>
        obtain ⟨rt, hrun⟩ := h.of_closing
        cases hstep
        exact silent nofun (continues_silent (.closed result hrun) (by simp))
      | error fault =>
        obtain ⟨rt, hrun⟩ := h.of_failing
        cases hstep
        exact silent nofun (continues_silent (.failed hrun) (by simp))
    | _ => cases hstep
  | panic =>
    cases phase with
    | opening =>
      cases h
      cases hstep
      exact silent nofun (continues_silent .panickedOpening nofun)
    | closing closed =>
      cases closed with
      | ok reason =>
        obtain ⟨rt, hrun⟩ := h.of_closing
        cases hstep
        exact silent nofun (continues_silent (.panickedClosing (.closed hrun)) nofun)
      | error fault =>
        obtain ⟨rt, hrun⟩ := h.of_failing
        cases hstep
        exact silent nofun (continues_silent (.panickedClosing (.failed hrun)) nofun)
    | _ => cases hstep

end ConnectionTask

/-! ## Lists side by side -/

section
variable {α β : Type} {R : α → β → Prop} {as : List α} {bs : List β} {a : α} {b : β}

theorem forall₂_eraseIdx (h : List.Forall₂ R as bs) (i : Nat) :
    List.Forall₂ R (as.eraseIdx i) (bs.eraseIdx i) := by
  induction h generalizing i with
  | nil => exact .nil
  | cons hab hrest ih =>
    cases i with
    | zero => exact hrest
    | succ i => exact .cons hab (ih i)

theorem forall₂_set (h : List.Forall₂ R as bs) (hab : R a b) (i : Nat) :
    List.Forall₂ R (as.set i a) (bs.set i b) := by
  induction h generalizing i with
  | nil => exact .nil
  | cons hab' hrest ih =>
    cases i with
    | zero => exact .cons hab hrest
    | succ i => exact .cons hab' (ih i)

theorem forall₂_getElem? (h : List.Forall₂ R as bs) {i : Nat} (hb : bs[i]? = some b) :
    ∃ a, as[i]? = some a ∧ R a b := by
  induction h generalizing i with
  | nil => cases hb
  | cons hab hrest ih =>
    cases i with
    | zero =>
      cases hb
      exact ⟨_, rfl, hab⟩
    | succ i => exact ih hb

end

/-! ## The server around it -/

/-- The connection that `spawn` makes for an accepted socket. -/
structure StreamConnection.MadeFor (connection : StreamConnection P) (accepted : Accepted P)
    (config : TcpConnectionConfig) : Prop where
  setsUp : accepted.SetsUp config connection.info.localAddr
  peerAddr : connection.info.peerAddr = accepted.peerAddr
  stream : connection.stream = accepted.stream
  pipeline : connection.pipeline = accepted.pipeline
  config : connection.config = config

/-- What the server has given a connection: the socket that it was made for, and the events that its
task has found. -/
structure Account (P : StreamStages) where
  accepted : Accepted P
  events : List (Event P.Write) := []

/-- The task is where its connection is by itself behind the events of the account. -/
structure Account.Of (env : Surroundings) (config : TcpConnectionConfig) (told : Bool)
    (account : Account P) (task : ConnectionTask P) : Prop where
  made : task.connection.MadeFor account.accepted config
  alone : Alone env task.connection account.events task.phase
  /-- It finds a shutdown only if the server was told to shut down. -/
  told : .shutdown ∈ account.events → told = true

theorem Account.Of.mono {config : TcpConnectionConfig} {told told' : Bool} {account : Account P}
    {task : ConnectionTask P} (htold : told = true → told' = true)
    (h : account.Of env config told task) : account.Of env config told' task :=
  ⟨h.made, h.alone, htold ∘ h.told⟩

namespace TcpServer

variable {s t u : TcpServer P} {config : TcpConnectionConfig} {actions : List (ServerAction P)}
  {action : ServerAction P} {kept : List (Account P)}

/-- The accounts behind an action that has led to this server. -/
def keepAccounts (t : TcpServer P) (kept : List (Account P)) :
    ServerAction P → List (Account P)
  | .task i (.event event) =>
    kept.modify i fun account => { account with events := account.events ++ [event] }
  | .joinNext i => kept.eraseIdx i
  -- An accepted socket that cannot be set up gets no task.
  | .accept (.ok accepted) =>
    if kept.length < t.connections.length then kept ++ [⟨accepted, []⟩] else kept
  | _ => kept

def accountsFrom (env : Surroundings) (s : TcpServer P) (kept : List (Account P)) :
    List (ServerAction P) → List (Account P)
  | [] => kept
  | action :: actions =>
    match step env s action with
    | some t => accountsFrom env t (t.keepAccounts kept action) actions
    | none => kept

/-- The accounts of the connections at the end of a run, in the order of the `JoinSet`. -/
def accounts (env : Surroundings) (config : TcpConnectionConfig) (actions : List (ServerAction P)) :
    List (Account P) :=
  accountsFrom env (new config) [] actions

theorem accountsFrom_concat {before : List (ServerAction P)}
    (hbefore : (TcpServer.step env).run s before = some u) (h : step env u action = some t) :
    accountsFrom env s kept (before ++ [action]) =
      t.keepAccounts (accountsFrom env s kept before) action := by
  induction before generalizing s kept with
  | nil =>
    cases hbefore
    simp only [List.nil_append, accountsFrom, h]
  | cons first before ih =>
    rw [Machine.run_cons, Option.bind_eq_some_iff] at hbefore
    obtain ⟨v, hv, hbefore⟩ := hbefore
    rw [List.cons_append, accountsFrom, hv, accountsFrom, hv]
    exact ih hbefore

/-- The socket that an action accepts. -/
def accepted? : ServerAction P → Option (Accepted P)
  | .accept (.ok accepted) => some accepted
  | _ => none

theorem keepAccounts_accepted (t : TcpServer P) (kept : List (Account P))
    (action : ServerAction P) : ((t.keepAccounts kept action).map Account.accepted).Sublist
      (kept.map Account.accepted ++ (accepted? action).toList) := by
  unfold keepAccounts
  split
  next i event =>
    have hmodify : (kept.modify i fun account =>
        { account with events := account.events ++ [event] }).map Account.accepted =
          kept.map Account.accepted := by
      refine List.ext_getElem (by simp) fun j _ _ => ?_
      simp only [List.getElem_map, List.getElem_modify]
      split <;> rfl
    rw [hmodify]
    exact List.sublist_append_left _ _
  next i => exact ((List.eraseIdx_sublist kept i).map _).trans (List.sublist_append_left _ _)
  next accepted =>
    split
    next => rw [List.map_append]; exact .refl _
    next => exact List.sublist_append_left _ _
  next => exact List.sublist_append_left _ _

/-- The accounts are of accepted sockets, each in one account, in the order in which they were
accepted. -/
theorem accountsFrom_accepted (env : Surroundings) (s : TcpServer P) (kept : List (Account P))
    (actions : List (ServerAction P)) :
    ((accountsFrom env s kept actions).map Account.accepted).Sublist
      (kept.map Account.accepted ++ actions.filterMap accepted?) := by
  induction actions generalizing s kept with
  | nil =>
    rw [List.filterMap_nil, List.append_nil]
    exact .refl _
  | cons action actions ih =>
    rw [accountsFrom]
    split
    next t _ =>
      have hcons : (accepted? action).toList ++ actions.filterMap accepted? =
          (action :: actions).filterMap accepted? := by
        cases h : accepted? action <;> simp [h]
      have hkept := (keepAccounts_accepted t kept action).append_right (actions.filterMap accepted?)
      rw [List.append_assoc, hcons] at hkept
      exact (ih t (t.keepAccounts kept action)).trans hkept
    next => exact List.sublist_append_left _ _

/-- The accounts are those of the connections. -/
structure Accounted (env : Surroundings) (config : TcpConnectionConfig) (s : TcpServer P)
    (kept : List (Account P)) : Prop where
  configured : s.config = config
  connections : List.Forall₂ (Account.Of env config s.shutdown) kept s.connections

/-- What a step tells the closing hook: the connection is that of the task that takes the step, and
the reason is why its own loop is over behind the events of its account. -/
def ClosesOwn (env : Surroundings) (s : TcpServer P) (action : ServerAction P) (t : TcpServer P)
    (kept : List (Account P)) : Prop :=
  ∃ calls, t.life = s.life ++ calls ∧ ∀ info reason,
    .called (.tcpConnectionClosed info reason) ∈ calls → ∃ i own task account,
      action = .task i own ∧ t.connections[i]? = some task ∧ task.info = info ∧
      kept[i]? = some account ∧ EndsFor env task.connection account.events reason

namespace Accounted

theorem length (h : Accounted env config s kept) : kept.length = s.connections.length :=
  h.connections.length_eq

/-- No connection is new, and no task takes a step. -/
theorem frame (h : Accounted env config s kept) (hconfig : t.config = s.config)
    (htold : s.shutdown = true → t.shutdown = true) (hconnections : t.connections = s.connections) :
    Accounted env config t kept where
  configured := hconfig.trans h.configured
  connections := hconnections ▸ h.connections.imp fun _ _ => .mono htold

theorem spawn {accepted : Accepted P} {localAddr : SocketAddr}
    (h : Accounted env config s kept) (hsetsUp : accepted.SetsUp s.config localAddr) :
    Accounted env config (s.spawn accepted localAddr) (kept ++ [⟨accepted, []⟩]) where
  configured := h.configured
  connections := List.rel_append h.connections <| .cons
    ⟨⟨h.configured ▸ hsetsUp, rfl, rfl, rfl, h.configured⟩, .spawned, nofun⟩ .nil

/-- A task takes a step: what is kept in its account is what it finds. -/
theorem keep {i : Nat} {own : ConnectionAction P} {task task' : ConnectionTask P}
    {life : List LifeEvent} (h : Accounted env config s kept)
    (htask : s.connections[i]? = some task)
    (hstep : task.step env s.shutdown own = some (task', life)) (t : TcpServer P) :
    ∃ account, t.keepAccounts kept (.task i own) = kept.set i account ∧
      i < kept.length ∧ account.Of env config s.shutdown task' ∧
      task.Continues env account.events task' life := by
  obtain ⟨account, haccount, hof⟩ := forall₂_getElem? h.connections htask
  obtain ⟨hlt, rfl⟩ := List.getElem?_eq_some_iff.1 haccount
  obtain ⟨more, hbrings, hcontinues⟩ := ConnectionTask.step_continues hof.alone hstep
  have hmade : task'.connection.MadeFor kept[i].accepted config :=
    hcontinues.connection ▸ hof.made
  have halone := hcontinues.alone
  rw [← hcontinues.connection] at halone
  cases hbrings with
  | nothing hnot =>
    refine ⟨kept[i], ?_, hlt, ⟨hmade, ?_, hof.told⟩, ?_⟩
    · rw [List.set_getElem_self]
      cases own with
      | event event => exact (hnot event rfl).elim
      | _ => rfl
    · rwa [List.append_nil] at halone
    · rwa [List.append_nil] at hcontinues
  | event event htold =>
    refine ⟨{ kept[i] with events := kept[i].events ++ [event] }, ?_, hlt,
      ⟨hmade, halone, fun hmem => ?_⟩, hcontinues⟩
    · rw [keepAccounts, List.modify_eq_set_getElem?, haccount]
      rfl
    · rcases List.mem_append.1 hmem with hmem | hmem
      · exact hof.told hmem
      · exact htold (List.mem_singleton.1 hmem).symm

theorem step (h : Accounted env config s kept) (hstep : Step env s action t) :
    Accounted env config t (t.keepAccounts kept action) := by
  cases hstep with
  | joined i | drainedOne i => exact ⟨h.configured, forall₂_eraseIdx h.connections i⟩
  | accepted accepted localAddr _ hsetsUp =>
    have hlt : kept.length < (s.spawn accepted localAddr).connections.length := by
      simp [TcpServer.spawn, h.length]
    rw [keepAccounts, if_pos hlt]
    exact h.spawn hsetsUp
  | notSetUp accepted err =>
    have hnot : ¬kept.length < s.connections.length := Nat.not_lt.2 h.length.ge
    exact (congrArg (Accounted env config _) (if_neg hnot)).mpr (h.frame rfl (fun _ => rfl) rfl)
  | task i own task task' life htask htaskStep =>
    obtain ⟨account, hkeep, -, hof, -⟩ := h.keep htask htaskStep _
    exact ⟨h.configured, hkeep ▸ forall₂_set h.connections hof i⟩
  | breaking | notAccepted | changed | shutdown => exact h.frame rfl (fun _ => rfl) rfl
  | _ => exact h.frame rfl id rfl

theorem closesOwn (h : Accounted env config s kept) (hstep : Step env s action t) :
    ClosesOwn env s action t (t.keepAccounts kept action) := by
  cases hstep with
  | listening | started | notStarted | drained | stopped => exact ⟨_, rfl, by simp⟩
  | task i own task task' life htask htaskStep =>
    refine ⟨life, rfl, fun info reason hcall => ?_⟩
    obtain ⟨account, hkeep, hlt, -, hcontinues⟩ := h.keep htask htaskStep _
    obtain ⟨rfl, hends⟩ := hcontinues.ends info reason hcall
    have hi := (List.getElem?_eq_some_iff.1 htask).1
    refine ⟨i, own, task', account, rfl, List.getElem?_set_self hi, ?_, ?_, ?_⟩
    · exact congrArg StreamConnection.info hcontinues.connection
    · rw [hkeep]
      exact List.getElem?_set_self hlt
    · exact hcontinues.connection ▸ hends
  | _ => exact ⟨[], (List.append_nil _).symm, nofun⟩

theorem run (h : Accounted env config s kept)
    (hrun : (TcpServer.step env).run s actions = some t) :
    Accounted env config t (accountsFrom env s kept actions) := by
  induction actions generalizing s kept with
  | nil =>
    cases hrun
    exact h
  | cons action actions ih =>
    rw [Machine.run_cons, Option.bind_eq_some_iff] at hrun
    obtain ⟨u, hu, hrun⟩ := hrun
    rw [accountsFrom, hu]
    exact ih (h.step (step_cases hu)) hrun

end Accounted

theorem run_accounted (hrun : (TcpServer.step env).run (new config) actions = some s) :
    Accounted env config s (accounts env config actions) :=
  Accounted.run ⟨rfl, .nil⟩ hrun

/-- Every connection is where it is by itself behind the events of its own account, and with every
call of the closing hook its own loop is over, for the reason that the hook is told. -/
structure ConnectionsAlone (env : Surroundings) (config : TcpConnectionConfig)
    (actions : List (ServerAction P)) (s : TcpServer P) : Prop where
  accounted : Accounted env config s (accounts env config actions)
  accepted : ((accounts env config actions).map Account.accepted).Sublist
    (actions.filterMap accepted?)
  closed : ∀ before action after, actions = before ++ action :: after → ∀ u v,
    (TcpServer.step env).run (new config) before = some u → step env u action = some v →
    ClosesOwn env u action v (accounts env config (before ++ [action]))

/-- The connections of a server do not depend on each other, in no run. -/
theorem run_connectionsAlone (env : Surroundings) (config : TcpConnectionConfig)
    (actions : List (ServerAction P)) (s : TcpServer P)
    (hrun : (TcpServer.step env).run (new config) actions = some s) :
    ConnectionsAlone env config actions s where
  accounted := run_accounted hrun
  accepted := accountsFrom_accepted env (new config) [] actions
  closed before action _ _ u v hu hv := by
    rw [accounts, accountsFrom_concat hu hv]
    exact (run_accounted hu).closesOwn (step_cases hv)

/-- Two connections whose events take turns: the first is closed by its peer between two reads of
the second. -/
def neighbours : List (ServerAction FixedLengthFrameDecoder.echo) :=
  entry ⟨[], 80⟩ ⟨[], 80⟩ ++ [.head, .accept (.ok (echoSocket (.ok ⟨[], 80⟩))),
    .task 0 .start, .task 0 (.opened (.ok ())), .head, .accept (.ok (echoSocket (.ok ⟨[], 80⟩))),
    .task 1 .start, .task 1 (.opened (.ok ())), .task 0 (.event (.read (.ok [1, 2, 3, 4]))),
    .task 1 (.event (.read (.ok [5, 6]))), .task 0 (.event (.read (.ok []))),
    .task 1 (.event (.read (.ok [7, 8])))]

theorem run_connectionsAlone_neighbours : ∃ s : TcpServer FixedLengthFrameDecoder.echo,
    (TcpServer.step ⟨fun _ => "", 0⟩).run (new {}) neighbours = some s ∧
    s.connections.map (·.info.id) = [1, 2] ∧
    (accounts ⟨fun _ => "", 0⟩ {} neighbours).map (·.events.length) = [2, 2] ∧
    ConnectionsAlone ⟨fun _ => "", 0⟩ {} neighbours s := by
  have hids : ((TcpServer.step ⟨fun _ => "", 0⟩).run (new {}) neighbours).map
      (·.connections.map (·.info.id)) = some [1, 2] := by decide +kernel
  obtain ⟨s, hs, hids⟩ := Option.map_eq_some_iff.1 hids
  exact ⟨s, hs, hids, by decide +kernel, run_connectionsAlone _ _ _ _ hs⟩

end TcpServer

end RsNetty
