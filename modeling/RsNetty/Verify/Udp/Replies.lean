import RsNetty.Codec.BytesDatagram
import RsNetty.Theory.Trace
import RsNetty.Verify.Udp.Network

/-!
# Replies and commands

A socket without stages has two sources of what it sends: its handler, which is told of one datagram
after the other, and its channel. Each of them is a transducer of its own (`replies` and `encoder`),
and what the socket sends is an interleaving of the outputs of the two.
-/

namespace RsNetty
open EStateM Traced Trace DatagramStages

/-! ## Commands -/

/-- The peer and the message of a command. -/
def DatagramCommand.message? {W : Type} : DatagramCommand W → Option (SocketAddr × W)
  | .writeTo peer msg => some (peer, msg)
  | .writeToAndFlush peer msg _ => some (peer, msg)
  | .close => none

def SocketEvent.message? {W : Type} (event : SocketEvent W) : Option (SocketAddr × W) :=
  event.command?.bind (·.message?)

def messagesOf {W : Type} (commands : List (DatagramCommand W)) : List (SocketAddr × W) :=
  commands.filterMap (·.message?)

theorem messagesOf_concat {W : Type} (events : List (SocketEvent W)) (event : SocketEvent W) :
    messagesOf (commandsOf (events ++ [event])) =
      messagesOf (commandsOf events) ++ event.message?.toList := by
  rw [commandsOf_concat, messagesOf, messagesOf, List.filterMap_append, SocketEvent.message?]
  refine congrArg (_ ++ ·) ?_
  cases event.command? with
  | none => rfl
  | some command =>
    change List.filterMap _ [command] = command.message?.toList
    cases hmessage : command.message? <;> simp [hmessage]

/-! ## Outputs -/

/-- What is sent, among what else is seen of a socket. -/
def SocketOutput.ofSent {Item : Type} (x : SocketAddr × Bytes) : SocketOutput Item := .sent x.1 x.2

section
variable {P : DatagramStages} {before : List (SocketOutput P.Item)}
  {sent : List (SocketAddr × Bytes)} {peer : SocketAddr} {item : P.Item}

theorem sentOf_append_sent : sentOf (before ++ sent.map .ofSent) = sentOf before ++ sent := by
  rw [sentOf, sentOf, List.filterMap_append, List.filterMap_map]
  exact congrArg (_ ++ ·) List.filterMap_some

theorem handedOf_append_sent : handedOf (before ++ sent.map .ofSent) = handedOf before := by
  rw [handedOf, handedOf, List.filterMap_append, List.filterMap_map]
  have hnil : sent.filterMap ((fun o : SocketOutput P.Item => o.handed?) ∘ .ofSent) = [] :=
    List.filterMap_eq_nil_iff.2 fun _ _ => rfl
  rw [hnil, List.append_nil]

theorem sentOf_append_handed :
    sentOf (before ++ .handed peer item :: sent.map .ofSent) = sentOf before ++ sent := by
  rw [List.append_cons, sentOf_append_sent, sentOf, List.filterMap_append]
  exact congrArg (· ++ sent) (List.append_nil _)

theorem handedOf_append_handed :
    handedOf (before ++ .handed peer item :: sent.map .ofSent) =
      handedOf before ++ [(peer, item)] := by
  rw [List.append_cons, handedOf_append_sent]
  exact List.filterMap_append ..

end

/-! ## Sockets without stages -/

namespace DatagramCodec

variable {H Item Out : Type}

/-- What is sent for a message, if it has an encoding. -/
def encoder (codec : DatagramCodec Item Out) :
    Transducer Unit (SocketAddr × Out) (SocketAddr × Bytes) := fun _ (peer, msg) =>
  match codec.encodeDatagram msg [] with
  | .error _ _ => ([], none)
  | .ok _ dst => (if dst = [] then [] else [(peer, dst)], some ())

/-- What a handler makes a socket send for the items that it is handed. -/
def replies (codec : DatagramCodec Item Out)
    (read : DatagramInfo → H → Item → HandlerFuture H (SocketAddr × Out)) (site : Site) :
    Transducer H (SocketAddr × Item) (SocketAddr × Bytes) := fun handler (peer, item) =>
  let course := (read (site.info peer) handler item).course 0
  match codec.encoder.run () course.writes with
  | (outs, none) => (outs, none)
  | (outs, some _) =>
    match course.ends with
    | some (.ok (), handler) => (outs, if course.closes then none else some handler)
    | some (.error _, _) => (outs, none)
    | none => (outs, none)

/-- The item that a socket gets from a datagram. -/
def received (codec : DatagramCodec Item Out) (config : UdpSocketConfig) (datagram : Bytes) :
    Option Item :=
  let read := datagram.take config.bufferSize
  if config.maxDatagramSize < read.length then none
  else
    match codec.decodeDatagram read with
    | .ok item => some item
    | .error _ => none

variable {codec : DatagramCodec Item Out}
  {read : DatagramInfo → H → Item → HandlerFuture H (SocketAddr × Out)} {site : Site}
  {pipeline next : DatagramPipeline (codec.stages read)} {peer : SocketAddr} {datagram : Bytes}
  {msg : Out}

theorem emit_eq {info : DatagramInfo} :
    (codec.stages read).emit (pipeline.outbound, pipeline.codec) (info, peer, msg) =
      ((codec.encoder () (peer, msg)).1.map .ofSent,
        (codec.encoder () (peer, msg)).2.map fun _ => (pipeline.outbound, pipeline.codec)) := by
  have houtbound : (codec.stages read).outboundDatagram info msg
      (pipeline.outbound, pipeline.codec, []) =
        EStateM.zoom Component.snd (EStateM.zoom Component.snd (codec.encodeDatagram msg))
          (pipeline.outbound, pipeline.codec, []) := rfl
  simp only [emit, encoder]
  rw [houtbound]
  cases hx : codec.encodeDatagram msg [] with
  | ok _ dst =>
    rw [zoom_of_ok (c := .snd) (zoom_of_ok (c := .snd) hx)]
    by_cases hdst : dst = [] <;> simp [hdst, SocketOutput.ofSent, Component.snd]
  | error e dst =>
    rw [zoom_of_error (c := .snd) (zoom_of_error (c := .snd) hx)]
    rfl

theorem emit_run {info : DatagramInfo} (writes : List (SocketAddr × Out)) :
    (codec.stages read).emit.run (pipeline.outbound, pipeline.codec) (writes.map (info, ·)) =
      ((codec.encoder.run () writes).1.map .ofSent,
        (codec.encoder.run () writes).2.map fun _ => (pipeline.outbound, pipeline.codec)) :=
  Transducer.run_map (f := fun _ => (pipeline.outbound, pipeline.codec)) fun _ _ _ => emit_eq

theorem handle_eq {item : Item} {course : HandlerFuture.Course H (SocketAddr × Out)}
    (hcourse : (read (site.info peer) pipeline.handler item).course 0 = course) :
    (codec.stages read).handle (site.info peer) pipeline item =
      match codec.encoder.run () course.writes with
      | (outs, none) => (outs.map .ofSent, none)
      | (outs, some _) =>
        match course.ends with
        | some (.ok (), handler) =>
          (outs.map .ofSent, some ({ pipeline with handler }, course.closes))
        | some (.error _, _) => (outs.map .ofSent, none)
        | none => (outs.map .ofSent, none) := by
  have hrun : (codec.stages read).emit.run (pipeline.outbound, pipeline.codec)
      (course.writes.map (site.info peer, ·)) = _ := emit_run course.writes
  have hread : ((codec.stages read).read (site.info peer) pipeline.handler item).course 0 =
    course := hcourse
  simp only [handle, hread]
  cases hwrites : codec.encoder.run () course.writes with
  | mk outs done =>
    rw [hwrites] at hrun
    cases done with
    | none =>
      split
      next sent hsent => exact congrArg (·, none) (congrArg (·.1) (hsent.symm.trans hrun))
      next sent outbound codec' hsent => cases hsent.symm.trans hrun
    | some done =>
      split
      next sent hsent => cases hsent.symm.trans hrun
      next sent outbound codec' hsent =>
        cases hsent.symm.trans hrun
        cases course.ends with
        | none => rfl
        | some ends =>
          obtain ⟨result, handler⟩ := ends
          cases result <;> rfl

theorem serve_received : (codec.stages read).serve site pipeline (.recv (.ok (datagram, peer))) =
    match codec.received site.config datagram with
    | none => ([], none)
    | some item =>
      (.handed peer item :: (codec.replies read site pipeline.handler (peer, item)).1.map .ofSent,
        (codec.replies read site pipeline.handler (peer, item)).2.map fun handler =>
          { pipeline with handler }) := by
  have hdecode : (codec.stages read).decodeDatagram (datagram.take site.config.bufferSize) =
      lifted (codec.decodeDatagram (datagram.take site.config.bufferSize)) := rfl
  simp only [serve, receive, received]
  rw [hdecode]
  split
  · rfl
  cases codec.decodeDatagram (datagram.take site.config.bufferSize) with
  | error e => rfl
  | ok item =>
    change (.handed peer item :: ((codec.stages read).handle (site.info peer) pipeline item).1,
      ((codec.stages read).handle (site.info peer) pipeline item).2.bind _) = _
    rw [handle_eq rfl]
    simp only [replies]
    split
    · rfl
    · split
      next handler _ =>
        cases ((read (site.info peer) pipeline.handler item).course 0).closes <;> rfl
      · rfl
      · rfl

theorem serve_cases (pipeline : DatagramPipeline (codec.stages read)) (event : SocketEvent Out) :
    (∃ msg, event.message? = some msg ∧ (codec.stages read).serve site pipeline event =
      ((codec.encoder () msg).1.map .ofSent, (codec.encoder () msg).2.map fun _ => pipeline)) ∨
    (∃ datagram peer item, event = .recv (.ok (datagram, peer)) ∧
      codec.received site.config datagram = some item ∧
      (codec.stages read).serve site pipeline event =
        (.handed peer item :: (codec.replies read site pipeline.handler (peer, item)).1.map .ofSent,
          (codec.replies read site pipeline.handler (peer, item)).2.map fun handler =>
            { pipeline with handler })) ∨
    event.message? = none ∧ (codec.stages read).serve site pipeline event = ([], none) := by
  have hwrite (peer : SocketAddr) (msg : Out) :
      (codec.stages read).write site pipeline peer msg =
        ((codec.encoder () (peer, msg)).1.map .ofSent,
          (codec.encoder () (peer, msg)).2.map fun _ => pipeline) := by
    unfold write
    rw [emit_eq]
    cases (codec.encoder () (peer, msg)).2 <;> rfl
  cases event with
  | shutdown => exact .inr (.inr ⟨rfl, rfl⟩)
  | recv read =>
    cases read with
    | error err => exact .inr (.inr ⟨rfl, rfl⟩)
    | ok read =>
      obtain ⟨datagram, peer⟩ := read
      cases hreceived : codec.received site.config datagram with
      | none => exact .inr (.inr ⟨rfl, serve_received.trans (by rw [hreceived])⟩)
      | some item =>
        exact .inr (.inl ⟨datagram, peer, item, rfl, hreceived,
          serve_received.trans (by rw [hreceived]; rfl)⟩)
  | command cmd =>
    cases cmd with
    | none => exact .inr (.inr ⟨rfl, rfl⟩)
    | some cmd =>
      cases cmd with
      | close => exact .inr (.inr ⟨rfl, rfl⟩)
      | writeTo peer msg => exact .inl ⟨(peer, msg), rfl, hwrite peer msg⟩
      | writeToAndFlush peer msg done => exact .inl ⟨(peer, msg), rfl, hwrite peer msg⟩

theorem commands_mono {events events' : List (SocketEvent Out)} (h : events <+: events') :
    codec.encoder.outputs () (messagesOf (commandsOf events)) <+:
      codec.encoder.outputs () (messagesOf (commandsOf events')) :=
  Transducer.outputs_mono ((h.filterMap _).filterMap _)

theorem commands_concat {events : List (SocketEvent Out)} {event : SocketEvent Out}
    {x : SocketAddr × Out} {told : List (SocketAddr × Bytes)} (hmsg : event.message? = some x)
    (h : codec.encoder.run () (messagesOf (commandsOf events)) = (told, some ())) :
    codec.encoder.run () (messagesOf (commandsOf (events ++ [event]))) =
      (told ++ (codec.encoder () x).1, (codec.encoder () x).2) := by
  rw [messagesOf_concat, hmsg, Option.toList_some, Transducer.run_concat_of_some h]

/-- A socket that goes on has sent the replies of its handler to all that it was handed, and its
commands, each of both in their order. -/
theorem serve_run {events : List (SocketEvent Out)} {outs : List (SocketOutput Item)}
    (h : ((codec.stages read).serve site).run pipeline events = (outs, some next)) :
    ∃ answers told, Interleaves answers told (sentOf (P := codec.stages read) outs) ∧
      (codec.replies read site).run pipeline.handler (handedOf (P := codec.stages read) outs) =
        (answers, some next.handler) ∧
      codec.encoder.run () (messagesOf (commandsOf events)) = (told, some ()) := by
  induction events using List.reverseRecOn generalizing outs next with
  | nil =>
    cases h
    exact ⟨[], [], .nil, rfl, rfl⟩
  | append_singleton events event ih =>
    obtain ⟨before, middle, hbefore, hgoes, rfl⟩ := Transducer.run_concat_eq_some h
    obtain ⟨answers, told, hsent, hreplies, hencoder⟩ := ih hbefore
    rcases serve_cases middle event with
      ⟨msg, hmsg, hserve⟩ | ⟨datagram, peer, item, rfl, -, hserve⟩ | ⟨-, hserve⟩
    · rw [hserve] at hgoes
      obtain ⟨done, hdone, rfl⟩ := Option.map_eq_some_iff.1 hgoes
      have houts := congrArg (fun x => before ++ x.1) hserve
      refine ⟨answers, told ++ (codec.encoder () msg).1, ?_, ?_, ?_⟩
      · exact (congrArg sentOf houts).trans sentOf_append_sent ▸ hsent.append_right _
      · exact (congrArg handedOf houts).trans handedOf_append_sent ▸ hreplies
      · exact (commands_concat hmsg hencoder).trans (congrArg (_, ·) hdone)
    · rw [hserve] at hgoes
      obtain ⟨handler, hhandler, rfl⟩ := Option.map_eq_some_iff.1 hgoes
      have houts := congrArg (fun x => before ++ x.1) hserve
      refine ⟨answers ++ (codec.replies read site middle.handler (peer, item)).1, told, ?_, ?_, ?_⟩
      · exact (congrArg sentOf houts).trans sentOf_append_handed ▸ hsent.append_left _
      · have hhanded := (congrArg handedOf houts).trans handedOf_append_handed
        refine (congrArg ((codec.replies read site).run pipeline.handler) hhanded).trans ?_
        exact (Transducer.run_concat_of_some hreplies).trans (congrArg (_, ·) hhandler)
      · rw [messagesOf_concat]
        exact (List.append_nil (messagesOf (commandsOf events))).symm ▸ hencoder
    · rw [hserve] at hgoes
      cases hgoes

/-- Of what a socket gives, each first part holds first parts of the replies to the items in it, and
of the commands. -/
theorem serve_part {events : List (SocketEvent Out)}
    {part : List (SocketOutput (codec.stages read).Item)}
    (h : part <+: ((codec.stages read).serve site).outputs pipeline events) :
    ∃ answers told, Interleaves answers told (sentOf part) ∧
      answers <+: (codec.replies read site).outputs pipeline.handler (handedOf part) ∧
      told <+: codec.encoder.outputs () (messagesOf (commandsOf events)) := by
  rcases Transducer.exists_of_prefix h with
    rfl | ⟨before, event, after, middle, more, rfl, hrun, rfl, hmore⟩
  · exact ⟨[], [], .nil, List.prefix_rfl, List.nil_prefix⟩
  obtain ⟨answers, told, hsent, hreplies, hencoder⟩ := serve_run hrun
  have hanswers : answers = (codec.replies read site).outputs pipeline.handler _ :=
    (congrArg (·.1) hreplies).symm
  have htold : told <+:
      codec.encoder.outputs () (messagesOf (commandsOf (before ++ event :: after))) :=
    (congrArg (·.1) hencoder : _ = told) ▸ commands_mono (List.prefix_append _ _)
  -- The event had not given anything yet.
  have hnothing : more = [] → ∃ answers told, Interleaves answers told
      (sentOf (((codec.stages read).serve site).outputs pipeline before ++ more)) ∧
      answers <+: (codec.replies read site).outputs pipeline.handler
        (handedOf (((codec.stages read).serve site).outputs pipeline before ++ more)) ∧
      told <+: codec.encoder.outputs () (messagesOf (commandsOf (before ++ event :: after))) := by
    rintro rfl
    rw [List.append_nil]
    exact ⟨answers, told, hsent, hanswers ▸ List.prefix_rfl, htold⟩
  rcases serve_cases middle event with
    ⟨msg, hmsg, hserve⟩ | ⟨datagram, peer, item, rfl, -, hserve⟩ | ⟨-, hserve⟩
  · rw [hserve] at hmore
    obtain ⟨sent, hmsgs, rfl⟩ := List.prefix_map_iff.1 hmore
    refine ⟨answers, told ++ sent, ?_, ?_, ?_⟩
    · exact sentOf_append_sent (P := codec.stages read) ▸ hsent.append_right sent
    · rw [handedOf_append_sent, hanswers]
    · have hnext : before ++ [event] <+: before ++ event :: after := ⟨after, by simp⟩
      have hmessage : codec.encoder.outputs () (messagesOf (commandsOf (before ++ [event]))) =
          told ++ (codec.encoder () msg).1 := congrArg (·.1) (commands_concat hmsg hencoder)
      exact ((List.prefix_append_right_inj told).2 hmsgs).trans
        (hmessage ▸ commands_mono hnext)
  · rw [hserve] at hmore
    rcases List.prefix_cons_iff.1 hmore with hnil | ⟨rest, rfl, hrest⟩
    · exact hnothing hnil
    · obtain ⟨sent, hreply, rfl⟩ := List.prefix_map_iff.1 hrest
      refine ⟨answers ++ sent, told, ?_, ?_, htold⟩
      · exact sentOf_append_handed (P := codec.stages read) ▸ hsent.append_left sent
      · have hhanded : handedOf (((codec.stages read).serve site).outputs pipeline before ++
            .handed peer item :: sent.map .ofSent) = _ := handedOf_append_handed
        rw [hhanded]
        have hnext : answers ++ (codec.replies read site middle.handler (peer, item)).1 = _ :=
          (congrArg (·.1) (Transducer.run_concat_of_some (i := (peer, item)) hreplies)).symm
        exact ((List.prefix_append_right_inj answers).2 hreply).trans (hnext ▸ List.prefix_rfl)
  · rw [hserve] at hmore
    exact hnothing (List.prefix_nil.1 hmore)

theorem replies_outputs (handler : H) (item : Item) :
    (codec.replies read site handler (peer, item)).1 =
      codec.encoder.outputs () ((read (site.info peer) handler item).course 0).writes := by
  simp only [replies, Transducer.outputs]
  split
  next outs hrun => rw [hrun]
  next outs _ hrun =>
    rw [hrun]
    split <;> rfl

theorem replies_next {handler next : H} {item : Item}
    (h : (codec.replies read site handler (peer, item)).2 = some next) :
    ((read (site.info peer) handler item).course 0).ends = some (.ok (), next) := by
  simp only [replies] at h
  split at h
  next => cases h
  next =>
    split at h
    next handler hends =>
      split at h
      · cases h
      · obtain rfl := Option.some.inj h
        exact hends
    next => cases h
    next => cases h

/-- What a socket was handed it has got from a datagram. -/
theorem serve_handed {events : List (SocketEvent Out)} {item : Item}
    {part : List (SocketOutput (codec.stages read).Item)}
    (h : part <+: ((codec.stages read).serve site).outputs pipeline events)
    (hitem : (peer, item) ∈ handedOf part) : ∃ datagram,
      .recv (.ok (datagram, peer)) ∈ events ∧ codec.received site.config datagram = some item := by
  obtain ⟨o, ho, hhanded⟩ := List.mem_filterMap.1 hitem
  obtain ⟨before, event, after, middle, rfl, -, hgiven⟩ :=
    Transducer.exists_of_mem_outputs (h.subset ho)
  rcases serve_cases middle event with
    ⟨msg, -, hserve⟩ | ⟨datagram, peer', item', rfl, hreceived, hserve⟩ | ⟨-, hserve⟩
  · rw [hserve] at hgiven
    obtain ⟨x, -, rfl⟩ := List.mem_map.1 hgiven
    cases hhanded
  · rw [hserve] at hgiven
    rcases List.mem_cons.1 hgiven with rfl | hgiven
    · cases hhanded
      exact ⟨datagram, List.mem_append_right _ (.head _), hreceived⟩
    · obtain ⟨x, -, rfl⟩ := List.mem_map.1 hgiven
      cases hhanded
  · rw [hserve] at hgiven
    cases hgiven

end DatagramCodec

namespace DatagramNode

def site (node : DatagramNode) : Site := ⟨node.id, node.localAddr, node.config⟩

variable {node : DatagramNode} {s : DatagramChannel node.stages}

/-- What a socket has sent are its replies to what it was handed, and what came through its channel,
each in its order. -/
theorem replied (h : s.Serving (node.codec.pipeline node.read node.handler) node.site) :
    ∃ answers told, Interleaves answers told s.sent ∧
      answers <+: (node.codec.replies node.read node.site).outputs node.handler s.handed ∧
      told <+: node.codec.encoder.outputs () (messagesOf s.queued) := by
  obtain ⟨part, hpart, (hsent : s.sent = sentOf part), (hhanded : s.handed = handedOf part)⟩ :=
    h.within
  obtain ⟨answers, told, hparts, hanswers, htold⟩ := DatagramCodec.serve_part hpart
  refine ⟨answers, told, hsent ▸ hparts, ?_, ?_⟩
  · rw [hhanded]
    exact hanswers
  · exact htold.trans (Transducer.outputs_mono (h.heard.filterMap _))

/-- In every run a socket sends its replies to what it is handed and what comes through its channel,
each in its order and as if there were nothing else. Nothing of either is missing while the socket
is open; when it stops, the last of each may be. -/
theorem run_replied {actions : List (DatagramAction node.CurrentOut)}
    (hrun : Machine.run DatagramChannel.step node.spawn actions = some s) :
    ∃ answers told, Interleaves answers told s.sent ∧
      answers <+: (node.codec.replies node.read node.site).outputs node.handler s.handed ∧
      told <+: node.codec.encoder.outputs () (messagesOf s.queued) ∧
      (s.phase.isOpen = true →
        (node.codec.replies node.read node.site).run node.handler s.handed =
          (answers, some s.rt.io.pipeline.handler) ∧
        node.codec.encoder.run () (messagesOf (commandsOf s.events)) = (told, some ()) ∧
        s.queued = commandsOf s.events ++ s.queue) := by
  have h := DatagramChannel.spawned_serving node.id node.localAddr node.faults
    (node.codec.pipeline node.read node.handler) node.config node.outboundQueueSize
    node.hasShutdown hrun
  by_cases hopen : s.phase.isOpen = true
  · obtain ⟨hserves, hat⟩ := h.serves hopen
    obtain ⟨answers, told, hparts, hanswers, htold⟩ := DatagramCodec.serve_run hserves
    have hwaiting := h.waiting (SocketPhase.isOver_of_isOpen hopen)
    have hsent : s.sent = sentOf _ := hat.sent
    have hhanded : s.handed = handedOf _ := hat.handed
    rw [hsent, hhanded, hwaiting]
    refine ⟨answers, told, hparts, ?_, ?_, fun _ => ⟨hanswers, htold, rfl⟩⟩
    · exact (congrArg (·.1) hanswers : _ = answers) ▸ List.prefix_rfl
    · refine (congrArg (·.1) htold : _ = told) ▸ Transducer.outputs_mono ?_
      exact (List.prefix_append _ _).filterMap _
  · obtain ⟨answers, told, hparts, hanswers, htold⟩ := replied h
    exact ⟨answers, told, hparts, hanswers, htold, fun hopen' => (hopen hopen').elim⟩

/-- A handler that counts what it is handed and tells another peer of it. -/
theorem run_replied_counting :
    let node : DatagramNode :=
      { H := UInt8, Item := Bytes, CurrentOut := Bytes
        codec := BytesDatagramCodec.codec
        read := fun info handler (msg : Bytes) => .reply info (handler :: msg) (.flush fun _ =>
          .write (⟨[127, 0, 0, 1], 9009⟩, [handler]) (.ready (.ok ()) (handler + 1)))
        handler := 0, id := 1, localAddr := ⟨[127, 0, 0, 1], 9000⟩, faults := [], config := {}
        outboundQueueSize := 1, hasShutdown := false }
    ∃ s, Machine.run DatagramChannel.step node.spawn
        [.start (.ok ()), .started (.ok ()), .recvFrom (.ok ([8], ⟨[127, 0, 0, 1], 9001⟩)),
          .writeToAndFlush ⟨[127, 0, 0, 1], 9002⟩ ([7] : Bytes), .recv,
          .recvFrom (.ok ([9], ⟨[127, 0, 0, 1], 9002⟩))] = some s ∧
      (∃ answers told, Interleaves answers told s.sent ∧
        (node.codec.replies node.read node.site).run node.handler s.handed =
          (answers, some s.rt.io.pipeline.handler) ∧
        node.codec.encoder.run () (messagesOf (commandsOf s.events)) = (told, some ())) ∧
      s.sent = [(⟨[127, 0, 0, 1], 9001⟩, [0, 8]), (⟨[127, 0, 0, 1], 9009⟩, [0]),
        (⟨[127, 0, 0, 1], 9002⟩, [7]), (⟨[127, 0, 0, 1], 9002⟩, [1, 9]),
        (⟨[127, 0, 0, 1], 9009⟩, [1])] := by
  intro node
  have hend : (Machine.run DatagramChannel.step node.spawn
      [.start (.ok ()), .started (.ok ()), .recvFrom (.ok ([8], ⟨[127, 0, 0, 1], 9001⟩)),
        .writeToAndFlush ⟨[127, 0, 0, 1], 9002⟩ ([7] : Bytes), .recv,
        .recvFrom (.ok ([9], ⟨[127, 0, 0, 1], 9002⟩))]).map
          (fun s => (s.phase.isOpen, s.sent)) =
      some (true, [(⟨[127, 0, 0, 1], 9001⟩, [0, 8]), (⟨[127, 0, 0, 1], 9009⟩, [0]),
        (⟨[127, 0, 0, 1], 9002⟩, [7]), (⟨[127, 0, 0, 1], 9002⟩, [1, 9]),
        (⟨[127, 0, 0, 1], 9009⟩, [1])]) := by
    decide +kernel
  obtain ⟨s, hrun, hs⟩ := Option.map_eq_some_iff.1 hend
  obtain ⟨hopen, hsent⟩ := Prod.mk.inj hs
  obtain ⟨answers, told, hparts, -, -, hall⟩ := run_replied hrun
  obtain ⟨hanswers, htold, -⟩ := hall hopen
  exact ⟨s, hrun, ⟨answers, told, hparts, hanswers, htold⟩, hsent⟩

end DatagramNode

end RsNetty
