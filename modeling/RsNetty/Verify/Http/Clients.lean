import RsNetty.Verify.Http.Server
import RsNetty.Verify.Tcp.Connections

/-!
# The clients of an HTTP server

A server accepts connections from any number of clients. Each of them reads the responses to its own
requests (`run_clientsAnswered`), whatever the others send and however their connections end.
-/

namespace RsNetty
open StreamConnection

variable {P : StreamStages} {env : Surroundings}

/-! ## A connection of a server and its channel -/

/-- The action in which a task without commands finds the event. -/
def Event.action : Event P.Write → ChannelAction P
  | .read found => .read found
  | .command _ => .recv
  | .shutdown => .shutdown
  | .idle => .idle

/-- The task takes a command off its queue. -/
def Event.isCommand {W : Type} : Event W → Bool
  | .command (some _) => true
  | _ => false

/-- A loop that takes no commands is a task of its own with an empty queue. -/
theorem StreamConnectionRuntime.run_channel {events : List (Event P.Write)}
    {rt rt' : StreamConnectionRuntime P} (hquiet : events.any Event.isCommand = false)
    (h : (run env events).result rt = .ok none rt') :
    (StreamChannel.step env).run { rt } (events.map Event.action) =
      some ({ rt := rt' } : StreamChannel P) := by
  induction events generalizing rt with
  | nil =>
    cases h
    rfl
  | cons event events ih =>
    rw [run_cons] at h
    rw [List.any_cons, Bool.or_eq_false_iff] at hquiet
    obtain ⟨hevent, hquiet⟩ := hquiet
    have hstep : StreamChannel.step env { rt } event.action =
        some (StreamChannel.turn env event [] { rt }) := by
      cases event with
      | command command =>
        cases command with
        | none => rfl
        | some command => cases hevent
      | read | shutdown | idle => rfl
    rw [List.map_cons, Machine.run_cons, hstep, Option.bind_some, StreamChannel.turn]
    cases hresult : (select env event).result rt with
    | ok closed next =>
      rw [hresult] at h
      cases closed with
      | none => exact ih hquiet h
      | some reason => cases h
    | error e next =>
      rw [hresult] at h
      cases h

theorem readBytes_action (events : List (Event P.Write)) :
    readBytes (events.map Event.action : List (ChannelAction P)) = events.flatMap Event.bytes := by
  rw [readBytes, List.flatMap_map]
  refine List.flatMap_congr fun event _ => ?_
  cases event with
  | read read => cases read <;> rfl
  | command | shutdown | idle => rfl

/-- A task of a server that is in its loop and has taken no commands is the run of a connection that
has read what this task has read. -/
theorem Account.Of.channel {config : TcpConnectionConfig} {told : Bool} {account : Account P}
    {task : ConnectionTask P} {rt : StreamConnectionRuntime P}
    (h : account.Of env config told task) (hphase : task.phase = .running rt)
    (hquiet : account.events.any Event.isCommand = false) :
    (StreamChannel.step env).run (StreamChannel.new task.connection.stream
      task.connection.pipeline task.connection.config task.connection.config.trackConnectionStats)
      (account.events.map Event.action) = some ({ rt } : StreamChannel P) := by
  have halone := h.alone
  rw [hphase] at halone
  exact StreamConnectionRuntime.run_channel hquiet halone.of_running

namespace Http
open StreamChannel TcpServer

variable {stages : CodecStages HttpRequest HttpResponse}
  {f : stages.H → stages.CurrentIn → FnFuture stages.H stages.Write}
  {actions : List (ServerAction (stages.around HttpCodec.codec))}
  {s : TcpServer (stages.around HttpCodec.codec)}

/-! ## The server -/

/-- In every run of a server, the pipeline of a connection that is open, and was told nothing
through its channel, has been handed the first requests of its own client, and this client reads the
first responses to them. Once the task has read them all, it is all requests and all responses. -/
theorem run_clientsAnswered
    (hread : stages.read = fun handler msg => (f handler msg).respond) (env : Surroundings)
    (config : TcpConnectionConfig)
    (hrun : (TcpServer.step env).run (TcpServer.new config) actions = some s)
    (i : Nat) (task : ConnectionTask (stages.around HttpCodec.codec))
    (htask : s.connections[i]? = some task)
    (rt : StreamConnectionRuntime (stages.around HttpCodec.codec))
    (hphase : task.phase = .running rt)
    (account : Account (stages.around HttpCodec.codec))
    (haccount : (accounts env config actions)[i]? = some account)
    (hnew : account.accepted.stream.sent = [])
    (huntold : account.events.any Event.isCommand = false)
    (requests : List SentRequest)
    (hrequests : ∀ m ∈ requests, task.connection.pipeline.codec.Accepts m)
    (hbytes : account.events.flatMap Event.bytes <+: requests.flatMap SentRequest.wire) :
    let pipeline := task.connection.pipeline
    let meant := requests.map (SentRequest.request · pipeline.codec.preserveTrailers)
    let responses := (stages.around HttpCodec.codec).responses f pipeline meant
    (∀ response ∈ responses, SelfDelimiting response) →
    rt.io.history.handed <+: meant ∧
    HttpMessage.readResponses rt.io.stream.sent <+: responses.map sent ∧
    (account.events.flatMap Event.bytes = requests.flatMap SentRequest.wire →
      rt.io.history.handed = meant ∧
      HttpMessage.readResponses rt.io.stream.sent = responses.map sent) := by
  intro pipeline meant responses hdelimited
  obtain ⟨account', haccount', hof⟩ := forall₂_getElem? (run_accounted hrun).connections htask
  cases haccount.symm.trans haccount'
  have hchannel := hof.channel hphase huntold
  have hstream : task.connection.stream = { faults := task.connection.stream.faults } := by
    rw [hof.made.stream, ← hnew]
  rw [hstream] at hchannel
  have hbytesRead := readBytes_action (P := stages.around HttpCodec.codec) account.events
  obtain ⟨hhanded, hsent, hall⟩ := run_responses (HttpCodec.decodesAs stages pipeline.codec)
    (HttpCodec.encodesAs stages pipeline.codec) rfl rfl hread hrequests
    (fun m hm => (hrequests m hm).wire_ne_nil) hchannel (hbytesRead.symm ▸ hbytes) rfl
  refine ⟨hhanded, readResponses_prefix hdelimited hsent, fun hread => ?_⟩
  obtain ⟨hhanded, hsent⟩ := hall rfl (hbytesRead.trans hread)
  exact ⟨hhanded, (congrArg _ hsent).trans (readResponses_responseBytes hdelimited)⟩

/-- It sends back what it gets. -/
def echo (_ : Unit) (request : HttpRequest) : FnFuture Unit HttpResponse :=
  FnFuture.ready (.ok ((HttpResponse.new 200).withBody request.body)) ()

abbrev EchoStages : StreamStages :=
  (CodecStages.direct fun handler msg => (echo handler msg).respond).around HttpCodec.codec

def echoClient : Accepted EchoStages where
  stream := {}
  peerAddr := ⟨[10, 0, 0, 7], 40000⟩
  setNodelay _ := .ok ()
  localAddr := .ok ⟨[], 80⟩
  pipeline := HttpCodec.codec.pipeline .server (fun handler msg => (echo handler msg).respond) ()

/-- Two clients that send their requests in pieces; the connection of the first breaks. -/
def twoClients : List (ServerAction EchoStages) :=
  entry ⟨[], 80⟩ ⟨[], 80⟩ ++ [.head, .accept (.ok echoClient), .task 0 .start,
    .task 0 (.opened (.ok ())), .head, .accept (.ok echoClient), .task 1 .start,
    .task 1 (.opened (.ok ())), .task 0 (.event (.read (.ok (greeting.wire.take 9)))),
    .task 1 (.event (.read (.ok (greeting.wire.take 20)))),
    .task 0 (.event (.read (.error "connection reset by peer"))),
    .task 1 (.event (.read (.ok (greeting.wire.drop 20))))]

/-- The loop of the task is waiting for its next event. -/
def inLoop (task : ConnectionTask P) : Bool :=
  match task.phase with
  | .running _ => true
  | _ => false

theorem run_clientsAnswered_broken :
    ∃ s task rt, (TcpServer.step ⟨fun _ => "", 0⟩).run (TcpServer.new {}) twoClients = some s ∧
      s.connections[1]? = some task ∧ task.phase = .running rt ∧
      rt.io.history.handed = [greeting.request false] ∧
      HttpMessage.readResponses rt.io.stream.sent =
        [sent ((HttpResponse.new 200).withBody [0x41])] := by
  have hend : ((TcpServer.step ⟨fun _ => "", 0⟩).run (TcpServer.new {}) twoClients).map
      (·.connections[1]?.map inLoop) = some (some true) := by decide +kernel
  obtain ⟨s, hrun, hend⟩ := Option.map_eq_some_iff.1 hend
  obtain ⟨task, htask, hloop⟩ := Option.map_eq_some_iff.1 hend
  obtain ⟨rt, hphase⟩ : ∃ rt, task.phase = .running rt := by
    rw [inLoop] at hloop
    split at hloop
    next rt hphase => exact ⟨rt, hphase⟩
    next => cases hloop
  have haccount : (accounts ⟨fun _ => "", 0⟩ {} twoClients)[1]?.map (fun account =>
      (account.events.any Event.isCommand, account.events.flatMap Event.bytes)) =
        some (false, [greeting].flatMap SentRequest.wire) := by decide +kernel
  obtain ⟨account, haccount, hevents⟩ := Option.map_eq_some_iff.1 haccount
  obtain ⟨huntold, hbytes⟩ := Prod.mk.inj hevents
  have haccepted : account.accepted = echoClient := by
    have hmem := (accountsFrom_accepted _ _ _ _).mem (List.mem_map_of_mem
      (List.mem_of_getElem? haccount))
    refine Eq.symm ?_
    simpa [twoClients, entry, accepted?] using hmem
  have hpipeline : task.connection.pipeline = echoClient.pipeline := by
    obtain ⟨account', haccount', hof⟩ := forall₂_getElem? (run_accounted hrun).connections htask
    cases haccount.symm.trans haccount'
    rw [hof.made.pipeline, haccepted]
  have hanswered := run_clientsAnswered (f := echo) rfl ⟨fun _ => "", 0⟩ {} hrun 1 task htask rt
    hphase account haccount (haccepted ▸ rfl) huntold [greeting]
    (fun m hm => by rw [List.mem_singleton.1 hm, hpipeline]; exact accepts_greeting)
    (hbytes ▸ List.prefix_rfl)
  rw [hpipeline] at hanswered
  have hdelimited : ∀ response ∈ [(HttpResponse.new 200).withBody [0x41]],
      SelfDelimiting response := fun response hresponse =>
    List.mem_singleton.1 hresponse ▸ ((Plain.new 200).withBody _).selfDelimiting
  exact ⟨s, task, rt, hrun, htask, hphase, (hanswered hdelimited).2.2 hbytes⟩

end Http

end RsNetty
