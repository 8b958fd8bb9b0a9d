import RsNetty.Verify.Tcp.Channel
import RsNetty.Verify.Tcp.Reception

/-!
# From one end of a TCP connection to the other

What one end writes, the other end is handed: the same messages, in the same order, each of them
once. `Sender` is the account of an end that writes, `Receiver` that of an end that reads.
-/

namespace RsNetty
open EStateM Traced Segmentation StreamState StreamConnectionRuntime

variable {P Q : StreamStages}

namespace StreamConnectionRuntime

variable {S : P.C → Prop} {Able : P.CurrentOut → Prop} {word : P.CurrentOut → Bytes}
  {rt : StreamConnectionRuntime P}

/-- The task at its `select!`: all messages it accepted have been encoded and sent. -/
structure Settled (S : P.C → Prop) (Able : P.CurrentOut → Prop) (word : P.CurrentOut → Bytes)
    (rt : StreamConnectionRuntime P) : Prop where
  rests : rt.Rests
  writes : rt.io.Writes S Able word
  emptied : rt.io.Emptied

/-- What holds of a turn that began at `base` however it ends. -/
structure Sending (Able : P.CurrentOut → Prop) (word : P.CurrentOut → Bytes) (base : StreamState P)
    (rt : StreamConnectionRuntime P) : Prop where
  sends : rt.io.Sends Able word
  order : rt.io.history.processed.map (·.msg) <+: rt.io.history.accepted
  grows : Grows base rt.io

theorem select_settled (hcodec : P.EncodesAs S Able word) (env : Surroundings)
    (event : Event P.Write) (hrt : rt.Settled S Able word) :
    ((select env event).result rt).Holds
      (fun closed t => t.Sending Able word rt.io ∧ (closed = none → t.Settled S Able word))
      fun _ t => t.Sending Able word rt.io := by
  have hturn := (select_turns hcodec.appends env event hrt.rests rt rfl).2
  have hwrite := (select_writes hcodec env event rt ⟨hrt.writes, trivial⟩).2
  have hempty := (select_empties env event rt hrt.emptied).2
  cases hresult : (select env event).result rt with
  | ok closed t =>
    rw [hresult] at hturn hwrite hempty
    exact ⟨⟨hwrite.1.sends, hturn.1.acked.io.order, hturn.2.grows⟩,
      fun _ => ⟨hturn.1, hwrite.1, hempty⟩⟩
  | error e t =>
    rw [hresult] at hturn hwrite
    exact ⟨hwrite, hturn.1.io.order, hturn.2.grows⟩

end StreamConnectionRuntime

namespace StreamChannel

variable {S : P.C → Prop} {Able : P.CurrentOut → Prop} {word : P.CurrentOut → Bytes}
  {env : Surroundings}
  {s u : StreamChannel P} {action : ChannelAction P}

/-- The socket has words of encoded messages only, all of them while the task runs. -/
structure Sender (S : P.C → Prop) (Able : P.CurrentOut → Prop) (word : P.CurrentOut → Bytes)
    (s : StreamChannel P) : Prop where
  sends : s.rt.io.Sends Able word
  order : s.rt.io.history.processed.map (·.msg) <+: s.rt.io.history.accepted
  settled : s.status.isRunning = true → s.rt.Settled S Able word

theorem Sender.step (h : s.Sender S Able word) (hcodec : P.EncodesAs S Able word)
    (hstep : StreamChannel.step env s action = some u) :
    u.Sender S Able word ∧ Grows s.rt.io u.rt.io := by
  cases step_cases hstep with
  | sent hrt hstatus =>
    rw [hrt]
    exact ⟨⟨hrt ▸ h.sends, hrt ▸ h.order, fun hrunning => hrt ▸ h.settled (hstatus ▸ hrunning)⟩,
      Grows.refl _⟩
  | @turned event left hrunning =>
    have hturn := turn_holds left (select_settled hcodec env event (h.settled hrunning))
    exact ⟨⟨hturn.1.sends, hturn.1.order, hturn.2⟩, hturn.1.grows⟩

section
variable {M : Type} {T : Q.C → Prop} {Good : M → Prop} {word : M → Bytes} {item : M → Q.Item}
  {msgs : List M} {taken : Nat} {r u : StreamChannel Q} {action : ChannelAction Q}

/-- The task has been handed the first of these messages, all whose words are among the bytes taken
off the stream while it runs. -/
structure Receiver (T : Q.C → Prop) (word : M → Bytes) (item : M → Q.Item) (msgs : List M)
    (taken : Nat) (r : StreamChannel Q) : Prop where
  hears : r.rt.Hears (msgs.map item)
  reads : r.status.isRunning = true → ∃ done todo, done ++ todo = msgs ∧
    r.rt.Waiting T word item ((msgs.flatMap word).drop taken) done todo

theorem Receiver.step (h : r.Receiver T word item msgs taken)
    (hcodec : Q.DecodesAs T Good word item) (hgood : ∀ m ∈ msgs, Good m)
    (hbytes : action.bytes <+: (msgs.flatMap word).drop taken)
    (hstep : StreamChannel.step env r action = some u) :
    u.Receiver T word item msgs (taken + action.bytes.length) := by
  cases step_cases hstep with
  | sent hrt hstatus hnone =>
    rw [hnone]
    exact ⟨hrt ▸ h.hears, fun hrunning => hrt ▸ h.reads (hstatus ▸ hrunning)⟩
  | @turned event left hrunning hevent hsame =>
    obtain ⟨done, todo, hmsgs, hwaiting⟩ := h.reads hrunning
    obtain ⟨later, hlater⟩ := hbytes
    have hdrop : (msgs.flatMap word).drop (taken + action.bytes.length) = later := by
      rw [← List.drop_drop, ← hlater, List.drop_left]
    rw [← hlater, ← hsame] at hwaiting
    have hread := (select_reading hcodec env event
      (fun m hm => hgood m (hmsgs ▸ List.mem_append_right _ hm)) hmsgs r.rt hwaiting).2
    have hturn := turn_holds left hread
    refine ⟨hturn.1, fun hopen => ?_⟩
    rw [hdrop]
    exact hturn.2 hopen

/-- More messages are written. -/
theorem Receiver.extend (h : r.Receiver T word item msgs taken) {more : List M}
    (htaken : taken ≤ (msgs.flatMap word).length) (hword : ∀ m ∈ more, word m ≠ []) :
    r.Receiver T word item (msgs ++ more) taken := by
  constructor
  · rw [Hears, List.map_append]
    exact h.hears.trans (List.prefix_append _ _)
  · intro hrunning
    obtain ⟨done, todo, hmsgs, hwaiting⟩ := h.reads hrunning
    have hdrop : ((msgs ++ more).flatMap word).drop taken =
        (msgs.flatMap word).drop taken ++ more.flatMap word := by
      rw [List.flatMap_append, List.drop_append_of_le_length htaken]
    refine ⟨done, todo ++ more, by rw [← List.append_assoc, hmsgs], ⟨hwaiting.got, ?_⟩, ?_⟩
    · rw [hdrop, ← List.append_assoc, hwaiting.buffered, List.flatMap_append]
    · cases todo with
      | nil =>
        have hempty := (List.append_eq_nil_iff.1 hwaiting.buffered).1
        rw [hempty]
        cases more with
        | nil => trivial
        | cons m more => exact ⟨word m, rfl, hword m List.mem_cons_self⟩
      | cons m todo => exact hwaiting.pending

/-- All that was put on the stream has been read. -/
theorem Receiver.complete (h : r.Receiver T word item msgs taken)
    (hrunning : r.status.isRunning = true) (htaken : taken = (msgs.flatMap word).length) :
    r.rt.io.history.handed = msgs.map item := by
  obtain ⟨done, todo, hmsgs, hwaiting⟩ := h.reads hrunning
  have hbuf := hwaiting.buffered
  rw [htaken, List.drop_length, List.append_nil] at hbuf
  have htodo : todo = [] := by
    cases todo with
    | nil => rfl
    | cons m todo =>
      obtain ⟨r, hr, hne⟩ := hwaiting.pending
      have hlength := congrArg List.length hr
      have := List.length_pos_iff.2 hne
      rw [hbuf, List.flatMap_cons, List.length_append, List.length_append] at hlength
      omega
  subst htodo
  rw [List.append_nil] at hmsgs
  exact hmsgs ▸ hwaiting.got.handed

theorem receiver_new {stream : TcpStream} {pipeline : StreamPipeline Q}
    {config : TcpConnectionConfig} {tracked : Bool} (hT : T pipeline.codec)
    (hword : ∀ m ∈ msgs, word m ≠ []) :
    (new stream pipeline config tracked).Receiver T word item msgs 0 := by
  refine ⟨List.nil_prefix, fun _ => ⟨[], msgs, rfl, ⟨⟨hT, rfl⟩, rfl⟩, ?_⟩⟩
  cases msgs with
  | nil => trivial
  | cons m msgs => exact ⟨word m, rfl, hword m List.mem_cons_self⟩

end

theorem sender_new {faults : List (Option (Nat × String))} {pipeline : StreamPipeline P}
    {config : TcpConnectionConfig} {tracked : Bool} (hS : S pipeline.codec) :
    (new { faults } pipeline config tracked).Sender S Able word :=
  ⟨⟨nofun, List.prefix_rfl⟩, List.prefix_rfl,
    fun _ => ⟨new_rests _ _ _ _ rfl, ⟨hS, nofun, rfl⟩, rfl⟩⟩

/-- All that was encoded is on the socket. -/
theorem Sender.sent_eq (h : s.Sender S Able word) (hrunning : s.status.isRunning = true) :
    s.rt.io.stream.sent = s.rt.io.encoded.flatMap word := by
  have hsettled := h.settled hrunning
  have hbytes := hsettled.writes.bytes
  rw [show s.rt.io.writeBuf = [] from hsettled.emptied, List.append_nil] at hbytes
  exact hbytes

end StreamChannel

/-! ## Both ends -/

namespace TcpEnd

/-- The messages that this end has encoded. -/
def written (self : TcpEnd P) : List P.CurrentOut := self.channel.rt.io.encoded

/-- The messages that this end has handed to its pipeline. -/
def handed (self : TcpEnd P) : List P.Item := self.channel.rt.io.history.handed

def isRunning (self : TcpEnd P) : Bool := self.channel.status.isRunning

theorem bytes_of_canRead {sent : Bytes} {ended : Bool} {self : TcpEnd P} {action : ChannelAction P}
    (h : self.canRead sent ended action = true) : action.bytes <+: sent.drop self.taken := by
  cases action with
  | read read =>
    cases read with
    | ok bytes =>
      cases bytes with
      | nil => exact List.nil_prefix
      | cons b bytes => exact List.isPrefixOf_iff_prefix.1 h
    | error err => exact List.nil_prefix
  | write | writeAndFlush | close | recv | shutdown | idle => exact List.nil_prefix

theorem step_eq_some {env : Surroundings} {sent : Bytes} {ended : Bool} {self next : TcpEnd P}
    {action : ChannelAction P} (h : self.step env sent ended action = some next) :
    action.bytes <+: sent.drop self.taken ∧
      StreamChannel.step env self.channel action = some next.channel ∧
      next.taken = self.taken + action.bytes.length := by
  rw [step] at h
  split at h
  next hread =>
    obtain ⟨channel, hstep, rfl⟩ := Option.map_eq_some_iff.1 h
    exact ⟨bytes_of_canRead hread, hstep, rfl⟩
  next => cases h

end TcpEnd

section
variable {S : P.C → Prop} {T : Q.C → Prop} {Able Good : P.CurrentOut → Prop}
  {word : P.CurrentOut → Bytes} {item : P.CurrentOut → Q.Item} {left left' : TcpEnd P}
  {right right' : TcpEnd Q}

/-- One direction of a connection: what the left end has written, and what the right end has read
of it. -/
structure Linked (S : P.C → Prop) (T : Q.C → Prop) (Able Good : P.CurrentOut → Prop)
    (word : P.CurrentOut → Bytes) (item : P.CurrentOut → Q.Item) (left : TcpEnd P)
    (right : TcpEnd Q) : Prop where
  sender : left.channel.Sender S Able word
  receiver : (∀ m ∈ left.written, Good m) →
    right.channel.Receiver T word item left.written right.taken
  taken : right.taken ≤ left.sent.length

theorem Linked.left_step (h : Linked S T Able Good word item left right)
    (hcodec : P.EncodesAs S Able word) (hword : ∀ m, Able m → Good m → word m ≠ [])
    {env : Surroundings} {action : ChannelAction P}
    (hstep : StreamChannel.step env left.channel action = some left'.channel) :
    Linked S T Able Good word item left' right := by
  obtain ⟨hsender, -, hprocessed, hsent⟩ := h.sender.step hcodec hstep
  obtain ⟨more, hmore⟩ : left.written <+: left'.written := hprocessed.filterMap _
  refine ⟨hsender, fun hgood => ?_, h.taken.trans hsent.length_le⟩
  have hable : ∀ m ∈ left'.written, Able m := hsender.sends.able
  rw [← hmore] at hgood hable ⊢
  have hreceiver := h.receiver fun m hm => hgood m (List.mem_append_left _ hm)
  refine hreceiver.extend (h.taken.trans h.sender.sends.sent.length_le) fun m hm => ?_
  have hm := List.mem_append_right left.written hm
  exact hword m (hable m hm) (hgood m hm)

theorem Linked.right_step (h : Linked S T Able Good word item left right)
    (hcodec : Q.DecodesAs T (fun m => Able m ∧ Good m) word item) {env : Surroundings}
    {ended : Bool} {action : ChannelAction Q}
    (hstep : right.step env left.sent ended action = some right') :
    Linked S T Able Good word item left right' := by
  obtain ⟨hbytes, hstep, htaken⟩ := TcpEnd.step_eq_some hstep
  refine ⟨h.sender, fun hgood => ?_, ?_⟩
  · rw [htaken]
    have hboth := fun m hm => And.intro (h.sender.sends.able m hm) (hgood m hm)
    exact (h.receiver hgood).step hcodec hboth (hbytes.trans (h.sender.sends.sent.drop _)) hstep
  · have hlength := hbytes.length_le
    have := h.taken
    rw [List.length_drop] at hlength
    omega

/-- What the right end gets of the messages that the left end writes. -/
structure Conveyed (word : P.CurrentOut → Bytes) (item : P.CurrentOut → Q.Item) (left : TcpEnd P)
    (right : TcpEnd Q) : Prop where
  /-- It is handed the first of them, in order, each of them once. -/
  order : right.handed <+: left.written.map item
  /-- A message is handed on with the last byte of its word. -/
  prompt : right.isRunning = true → ∃ done todo part, left.written = done ++ todo ∧
    right.handed = done.map item ∧ left.sent.take right.taken = done.flatMap word ++ part ∧
    Pending part (todo.map word)
  /-- Nothing is lost: once all that was sent has been read, all that was accepted has been handed
  on, but for what a stage stopped. -/
  complete : left.isRunning = true → right.isRunning = true → right.taken = left.sent.length →
    right.handed = left.written.map item ∧
      left.channel.rt.io.history.processed.map (·.msg) = left.channel.rt.io.history.accepted

theorem Linked.conveyed (h : Linked S T Able Good word item left right)
    (hgood : ∀ m ∈ left.written, Good m) : Conveyed word item left right := by
  have hreceiver := h.receiver hgood
  refine ⟨hreceiver.hears, fun hright => ?_, fun hleft hright htaken => ?_⟩
  · obtain ⟨done, todo, hmsgs, hwaiting⟩ := hreceiver.reads hright
    refine ⟨done, todo, right.channel.rt.readBuf, hmsgs.symm, hwaiting.got.handed, ?_,
      hwaiting.pending⟩
    have hall : left.sent.take right.taken = (left.written.flatMap word).take right.taken := by
      obtain ⟨rest, hrest⟩ := h.sender.sends.sent
      rw [← TcpEnd.written] at hrest
      rw [← hrest]
      exact (List.take_append_of_le_length h.taken).symm
    have hsplit := List.take_append_drop right.taken (left.written.flatMap word)
    have hwords : left.written.flatMap word = done.flatMap word ++ todo.flatMap word := by
      rw [← hmsgs, List.flatMap_append]
    rw [hall]
    apply List.append_cancel_right
    rw [hsplit, List.append_assoc, hwaiting.buffered, hwords]
  · have hsent : left.sent = left.written.flatMap word := h.sender.sent_eq hleft
    refine ⟨hreceiver.complete hright (htaken.trans (congrArg List.length hsent)), ?_⟩
    have horder := (h.sender.settled hleft).rests.io.order
    rw [messages_nil, List.append_nil] at horder
    exact horder.symm

/-- What one end encodes, the other end decodes. -/
structure Link (P Q : StreamStages) (S : P.C → Prop) (T : Q.C → Prop)
    (Able Good : P.CurrentOut → Prop) (word : P.CurrentOut → Bytes)
    (item : P.CurrentOut → Q.Item) : Prop where
  encodes : P.EncodesAs S Able word
  decodes : Q.DecodesAs T (fun m => Able m ∧ Good m) word item
  nonempty : Able m → Good m → word m ≠ []

theorem Link.linked_new (_ : Link P Q S T Able Good word item)
    {faults faults' : List (Option (Nat × String))} {pipeline : StreamPipeline P}
    {pipeline' : StreamPipeline Q} {config config' : TcpConnectionConfig} {tracked tracked' : Bool}
    (hS : S pipeline.codec) (hT : T pipeline'.codec) :
    Linked S T Able Good word item { channel := .new { faults } pipeline config tracked }
      { channel := .new { faults := faults' } pipeline' config' tracked' } where
  sender := StreamChannel.sender_new hS
  receiver _ := StreamChannel.receiver_new hT nofun
  taken := Nat.le_refl _

end

namespace TcpPeers

variable {S : P.C → Prop} {T : Q.C → Prop} {env : Surroundings} {s t : TcpPeers P Q}
  {action : PeersAction P Q}

theorem linked_right {Able Good : P.CurrentOut → Prop} {word : P.CurrentOut → Bytes}
    {item : P.CurrentOut → Q.Item} (link : Link P Q S T Able Good word item)
    (h : Linked S T Able Good word item s.left s.right) (hstep : step env s action = some t) :
    Linked S T Able Good word item t.left t.right := by
  cases action with
  | left action =>
    obtain ⟨left, hleft, rfl⟩ := Option.map_eq_some_iff.1 hstep
    exact h.left_step link.encodes (fun _ => link.nonempty) (TcpEnd.step_eq_some hleft).2.1
  | right action =>
    obtain ⟨right, hright, rfl⟩ := Option.map_eq_some_iff.1 hstep
    exact h.right_step link.decodes hright

theorem linked_left {Able Good : Q.CurrentOut → Prop} {word : Q.CurrentOut → Bytes}
    {item : Q.CurrentOut → P.Item} (link : Link Q P T S Able Good word item)
    (h : Linked T S Able Good word item s.right s.left) (hstep : step env s action = some t) :
    Linked T S Able Good word item t.right t.left := by
  cases action with
  | left action =>
    obtain ⟨left, hleft, rfl⟩ := Option.map_eq_some_iff.1 hstep
    exact h.right_step link.decodes hleft
  | right action =>
    obtain ⟨right, hright, rfl⟩ := Option.map_eq_some_iff.1 hstep
    exact h.left_step link.encodes (fun _ => link.nonempty) (TcpEnd.step_eq_some hright).2.1

section
variable {Able Good : P.CurrentOut → Prop} {word : P.CurrentOut → Bytes}
  {item : P.CurrentOut → Q.Item} {Able' Good' : Q.CurrentOut → Prop}
  {word' : Q.CurrentOut → Bytes} {item' : Q.CurrentOut → P.Item}

theorem run_linked (link : Link P Q S T Able Good word item)
    (link' : Link Q P T S Able' Good' word' item') (env : Surroundings)
    (faults faults' : List (Option (Nat × String))) (pipeline : StreamPipeline P)
    (pipeline' : StreamPipeline Q) (config config' : TcpConnectionConfig) (tracked tracked' : Bool)
    (hS : S pipeline.codec) (hT : T pipeline'.codec) (actions : List (PeersAction P Q))
    (hrun : (step env).run (new (.new { faults } pipeline config tracked)
      (.new { faults := faults' } pipeline' config' tracked')) actions = some t) :
    Linked S T Able Good word item t.left t.right ∧
      Linked T S Able' Good' word' item' t.right t.left :=
  Machine.run_invariant (fun s => Linked S T Able Good word item s.left s.right ∧
      Linked T S Able' Good' word' item' s.right s.left)
    ⟨link.linked_new hS hT, link'.linked_new hT hS⟩
    (fun _ _ _ _ hs hstep => ⟨linked_right link hs.1 hstep, linked_left link' hs.2 hstep⟩) hrun

end

end TcpPeers

end RsNetty
