import OxiQuic.Connection.StreamLimits

/-!
# Where the state of streams comes from

A stream has a send half exactly if it was opened, or stream data arrived on it and it is
bidirectional, or early data was written to it.  It has a receive half exactly if it was opened and
is bidirectional, or stream data or a reset arrived on it (`Connection.Sourced`, which every call
keeps).  No half ever goes away.

Frames are not checked any further.  So the peer stays within the limits on its streams exactly as
long as its frames do (`peer_streams_limited_iff`), and the streams of this side are those that were
opened exactly as long as its frames name only such streams (`stream_state_rightful_iff`).
-/

namespace OxiQuic

open Lib Plain

variable {P : Platform} {id : StreamId} {e : Event P}

/-! ## Maps and histories -/

/-- The stream that has a send half once an event happened. -/
def Event.sendHalf : Event P → Option StreamId
  | .opened id => some id
  | .received _ (.stream id _ _ _) =>
    if StreamId.direction id = .bidirectional then some id else none
  | .replayed id => some id
  | _ => none

/-- The stream that has a receive half once an event happened. -/
def Event.recvHalf : Event P → Option StreamId
  | .opened id => if StreamId.direction id = .bidirectional then some id else none
  | .received _ (.stream id _ _ _) => some id
  | .received _ (.resetStream id _ _) => some id
  | _ => none

/-- The keys of a map are the streams that the events of a history stand for. -/
def Sourced {β : Type} (half : Event P → Option StreamId) (m : OrdMap Nat β)
    (trace : List (Event P)) : Prop :=
  ∀ id, m.get? id ≠ none ↔ ∃ e ∈ trace, half e = some id

namespace Sourced

variable {β : Type} {half : Event P → Option StreamId} {m m' : OrdMap Nat β}
  {trace : List (Event P)} {id : StreamId}

theorem append (h : Sourced half m trace)
    (hkeys : ∀ id, m'.get? id = none ↔ m.get? id = none) {new : List (Event P)}
    (hnew : ∀ e ∈ new, half e = none) : Sourced half m' (new ++ trace) := by
  intro id
  rw [ne_eq, hkeys id, ← ne_eq, h id]
  constructor
  · rintro ⟨e, he, hid⟩
    exact ⟨e, List.mem_append_right _ he, hid⟩
  rintro ⟨e, he, hid⟩
  rcases List.mem_append.mp he with hmem | hmem
  · rw [hnew e hmem] at hid
    cases hid
  · exact ⟨e, hmem, hid⟩

theorem of_keys (h : Sourced half m trace)
    (hkeys : ∀ id, m'.get? id = none ↔ m.get? id = none) : Sourced half m' trace :=
  h.append hkeys (List.forall_mem_nil _)

theorem quiet (h : Sourced half m trace) (he : half e = none) : Sourced half m (e :: trace) :=
  h.append (fun _ => Iff.rfl) fun _ hmem => List.mem_singleton.mp hmem ▸ he

theorem start : Sourced half (∅ : OrdMap Nat β) [] := by
  intro id
  constructor
  · intro hsome
    exact absurd rfl hsome
  · rintro ⟨e, hmem, -⟩
    cases hmem

theorem insert (h : Sourced half m trace) (he : half e = some id) (v : β) :
    Sourced half (m.insert id v) (e :: trace) := by
  intro id'
  rw [OrdMap.get?_insert]
  split
  · rename_i hid
    exact ⟨fun _ => ⟨e, List.mem_cons_self, hid ▸ he⟩, fun _ => Option.some_ne_none v⟩
  rename_i hne
  rw [h id']
  constructor
  · rintro ⟨e', hmem, hid'⟩
    exact ⟨e', List.mem_cons_of_mem _ hmem, hid'⟩
  rintro ⟨e', hmem, hid'⟩
  rcases List.mem_cons.mp hmem with rfl | hmem
  · cases he.symm.trans hid'
    exact absurd rfl hne
  · exact ⟨e', hmem, hid'⟩

theorem ensure (h : Sourced half m trace) (he : half e = some id) (v : β) :
    Sourced half (if m.contains id then m else m.insert id v) (e :: trace) := by
  split
  · rename_i hcontains
    obtain ⟨w, hw⟩ := OrdMap.contains_iff.mp hcontains
    rw [← OrdMap.insert_of_get?_eq_some hw]
    exact h.insert he w
  · exact h.insert he v

theorem contains_iff (h : Sourced half m trace) :
    m.contains id = true ↔ ∃ e ∈ trace, half e = some id := by
  rw [OrdMap.contains_iff, ← Option.ne_none_iff_exists']
  exact h id

theorem contains_append_iff {new : List (Event P)} (h : Sourced half m trace)
    (h' : Sourced half m' (new ++ trace)) :
    m'.contains id = true ↔ m.contains id = true ∨ ∃ e ∈ new, half e = some id := by
  rw [h'.contains_iff, h.contains_iff]
  constructor
  · rintro ⟨e, he, hid⟩
    rcases List.mem_append.mp he with hnew | hold
    · exact .inr ⟨e, hnew, hid⟩
    · exact .inl ⟨e, hold, hid⟩
  rintro (⟨e, he, hid⟩ | ⟨e, he, hid⟩)
  · exact ⟨e, List.mem_append_right _ he, hid⟩
  · exact ⟨e, List.mem_append_left _ he, hid⟩

end Sourced

/-! ## Send halves -/

namespace Outlay

variable {u v : Outlay P}

theorem sendHalf_of_backed {drawn : List (Nat × Segment)} (h : Backed drawn e) :
    e.sendHalf = none := by
  cases e with
  | received packetType frame => cases frame <;> first | rfl | exact h.elim
  | opened | replayed => exact h.elim
  | _ => rfl

theorem sourced_step {E : Prop} (h : Sourced Event.sendHalf u.streams u.trace)
    (hstep : u.Step E v) : Sourced Event.sendHalf v.streams v.trace := by
  cases hstep with
  | send hpays _ hnew =>
    exact h.append hpays.get?_eq_none_iff fun e he => sendHalf_of_backed (hnew e he)
  | requeue =>
    refine h.of_keys fun id' => ?_
    rw [OrdMap.get?_modify]
    split
    · exact Option.map_eq_none_iff
    · rfl
  | «open» dir => exact h.insert rfl {}
  | write data fin hs | reset hs => exact (h.of_keys (get?_insert_eq_none_iff hs _)).quiet rfl
  | grant | grantStream => exact h.quiet rfl
  | accept packetType id offset fin data =>
    simp only [Outlay.accept]
    split
    · rename_i hbidi
      have hhalf : (Event.received packetType (.stream id offset fin data) : Event P).sendHalf
          = some id := if_pos hbidi
      exact h.ensure hhalf {}
    · next hother => exact h.quiet (if_neg hother)
  | replay data => exact h.insert rfl _
  | early key pn dest frames => exact (h.quiet rfl).quiet rfl
  | _ => exact h

end Outlay

/-! ## Receive halves -/

namespace Uptake

variable {u v : Uptake P}

/-- The history accounts for the receive halves. -/
def HalvesSourced (u : Uptake P) : Prop := Sourced Event.recvHalf u.inbound.streams u.chronicle

theorem sourced_step (h : u.HalvesSourced) (hstep : u.Step v) : v.HalvesSourced := by
  cases hstep with
  | frame htakes =>
    cases htakes with
    | @hear packetType frame haside =>
      refine h.quiet ?_
      cases frame <;> first | rfl | cases haside
    | stream | reset => exact h.insert rfl _
    | announce packetType => exact h.quiet rfl
  | act hact =>
    cases hact with
    | openUni huni =>
      refine h.quiet (if_neg ?_)
      rw [huni]
      exact nofun
    | @openBidi id hid =>
      have hbidi : StreamId.direction id = .bidirectional := by
        rw [hid, StreamId.direction_new]
      have hhalf : (Event.opened id : Event P).recvHalf = some id := if_pos hbidi
      exact h.insert hhalf {}
    | read hs => exact h.of_keys (Outlay.get?_insert_eq_none_iff hs _)
    | notify | raise => exact h

end Uptake

/-! ## Streams that were opened -/

/-- The calls that open a stream. -/
def Op.opens : Op → Bool
  | .openBidi => true
  | .openUni => true
  | _ => false

namespace Outlay

variable {u v : Outlay P}

/-- The streams that were opened are those below the next index of their direction. -/
def Counted (u : Outlay P) : Prop :=
  ∀ id, wasOpened id u.trace = true ↔
    ∃ dir k, k < u.nextIndex dir ∧ id = StreamId.new u.role.initiator dir k

theorem Counted.of_same (h : u.Counted) (hrole : v.role = u.role) (hopened : v.opened = u.opened)
    (htrace : ∀ id, wasOpened id v.trace = wasOpened id u.trace) : v.Counted := by
  have hnext : v.nextIndex = u.nextIndex := by
    funext dir
    cases dir <;> simp [nextIndex, hopened]
  intro id
  rw [htrace id, hrole, hnext]
  exact h id

theorem Counted.openStream (h : u.Counted) (dir : Direction) : (u.openStream dir).Counted := by
  intro id
  refine wasOpened_cons.trans ((or_congr Iff.rfl (h id)).trans ?_)
  constructor
  · rintro (heq | ⟨dir', k, hk, rfl⟩)
    · cases heq
      refine ⟨dir, u.nextIndex dir, ?_, rfl⟩
      rw [nextIndex_openStream, if_pos rfl]
      exact Nat.lt_succ_self _
    refine ⟨dir', k, ?_, rfl⟩
    rw [nextIndex_openStream]
    split
    · next hdir => exact Nat.lt_succ_of_lt (hdir ▸ hk)
    · exact hk
  · rintro ⟨dir', k, hk, rfl⟩
    rw [nextIndex_openStream] at hk
    split at hk
    · rename_i hdir
      subst hdir
      rcases Nat.lt_succ_iff_lt_or_eq.mp hk with hlt | rfl
      · exact .inr ⟨dir', k, hlt, rfl⟩
      · exact .inl rfl
    · exact .inr ⟨dir', k, hk, rfl⟩

theorem counted_step {E : Prop} (h : u.Counted) (hstep : u.Step E v) : v.Counted := by
  cases hstep with
  | send hpays _ hnew =>
    obtain ⟨_, _, _, rfl⟩ := hpays.rest
    exact h.of_same rfl rfl fun id => wasOpened_backed id hnew
  | «open» dir => exact h.openStream dir
  | accept packetType id offset fin data =>
    simp only [Outlay.accept]
    split <;> exact h.of_same rfl rfl fun _ => rfl
  | _ => exact h.of_same rfl rfl fun _ => rfl

end Outlay

namespace Connection

/-- The history accounts for the streams that there are. -/
structure Documented (c : Connection P) : Prop where
  send : Sourced Event.sendHalf c.sendStreams c.trace
  recv : Sourced Event.recvHalf c.inbound.streams c.trace
  counted : c.outlay.Counted

variable (c : Connection P)

theorem sourced_chronicle_iff :
    Sourced Event.recvHalf c.inbound.streams c.chronicle ↔
      Sourced Event.recvHalf c.inbound.streams c.trace := by
  have hiff : ∀ id, (∃ e ∈ c.chronicle, e.recvHalf = some id) ↔
      ∃ e ∈ c.trace, e.recvHalf = some id := by
    intro id
    constructor
    · rintro ⟨e, he, hid⟩
      exact ⟨e, (List.mem_filter.mp he).1, hid⟩
    rintro ⟨e, he, hid⟩
    refine ⟨e, List.mem_filter.mpr ⟨he, ?_⟩, hid⟩
    cases e <;> first | rfl | cases hid
  exact forall_congr' fun id => iff_congr Iff.rfl (hiff id)

theorem Documented.update {op : Op} {c d : Connection P} (h : c.Documented)
    (hupdate : Update op c d) : d.Documented where
  send := (hupdate.outlay).invariant (I := fun u => Sourced Event.sendHalf u.streams u.trace)
    Outlay.sourced_step h.send
  recv := by
    rw [← sourced_chronicle_iff]
    have hbefore : c.uptake.HalvesSourced := (sourced_chronicle_iff c).mpr h.recv
    rcases hupdate.uptake with hsame | ⟨-, e, v, htakes, hframe⟩ | ⟨-, hact⟩
    · exact (congrArg Uptake.HalvesSourced hsame).mpr hbefore
    · exact (congrArg Uptake.HalvesSourced hframe).mpr (Uptake.sourced_step hbefore (.frame htakes))
    · exact Uptake.sourced_step hbefore (.act hact)
  counted := (hupdate.outlay).invariant Outlay.counted_step h.counted

theorem Documented.step {c : Connection P} (h : c.Documented) (op : Op) : (c.step op).Documented :=
  (c.step_updates op).invariant Documented.update h

theorem Fresh.documented {c : Connection P} (hfresh : c.Fresh) : c.Documented := by
  obtain ⟨hsend, hrecv, hopened, htrace⟩ : c.sendStreams = ∅ ∧ c.inbound.streams = ∅ ∧
      c.opened = {} ∧ c.trace = [] := by
    cases hfresh <;> exact ⟨rfl, rfl, rfl, rfl⟩
  refine ⟨?_, ?_, ?_⟩
  · rw [hsend, htrace]
    exact .start
  · rw [hrecv, htrace]
    exact .start
  intro id
  constructor
  · intro hid
    change wasOpened id c.trace = true at hid
    rw [htrace] at hid
    cases hid
  rintro ⟨dir, k, hk, -⟩
  have hnext : c.outlay.nextIndex dir = 0 := by
    cases dir <;> simp [Outlay.nextIndex, outlay, hopened]
  rw [hnext] at hk
  cases hk

/-! ## Calls -/

theorem step_history (op : Op) : (c.step op).role = c.role ∧ c.trace <:+ (c.step op).trace := by
  refine (c.step_updates op).invariant (I := fun d => d.role = c.role ∧ c.trace <:+ d.trace)
    (fun h hupdate => ?_) ⟨rfl, List.suffix_refl _⟩
  exact hupdate.outlay.invariant (I := fun u => u.role = c.role ∧ c.trace <:+ u.trace)
    (fun h hstep => ⟨hstep.opened.1.trans h.1, h.2.trans hstep.trace_suffix⟩) h

/-- The events of a call, newest first. -/
def news (c : Connection P) (op : Op) : List (Event P) :=
  (c.step op).trace.take ((c.step op).trace.length - c.trace.length)

theorem step_trace (op : Op) : (c.step op).trace = c.news op ++ c.trace := by
  obtain ⟨new, hnew⟩ := (step_history c op).2
  rw [news, ← hnew, List.length_append, Nat.add_sub_cancel, List.take_left]

/-- Whether there is state of a stream. -/
def hasStream (c : Connection P) (id : StreamId) : Bool :=
  c.sendStreams.contains id || c.inbound.streams.contains id

end Connection

/-- The stream of which an event brings state into being where it is missing. -/
def Event.streams (e : Event P) : List StreamId := e.sendHalf.toList ++ e.recvHalf.toList

theorem Event.mem_streams : id ∈ e.streams ↔ e.sendHalf = some id ∨ e.recvHalf = some id := by
  rw [streams, List.mem_append, Option.mem_toList, Option.mem_toList]

namespace Connection

variable {c : Connection P} {op : Op}

theorem Documented.send_step_iff (h : c.Documented) (op : Op) (id : StreamId) :
    (c.step op).sendStreams.contains id = true ↔
      c.sendStreams.contains id = true ∨ ∃ e ∈ c.news op, e.sendHalf = some id :=
  h.send.contains_append_iff (c.step_trace op ▸ (h.step op).send)

theorem Documented.recv_step_iff (h : c.Documented) (op : Op) (id : StreamId) :
    (c.step op).inbound.streams.contains id = true ↔
      c.inbound.streams.contains id = true ∨ ∃ e ∈ c.news op, e.recvHalf = some id :=
  h.recv.contains_append_iff (c.step_trace op ▸ (h.step op).recv)

/-- A stream that there is after a call was there before or an event of the call names it. -/
theorem Documented.hasStream_step_iff (h : c.Documented) (op : Op) (id : StreamId) :
    (c.step op).hasStream id = true ↔ c.hasStream id = true ∨ ∃ e ∈ c.news op, id ∈ e.streams := by
  simp only [hasStream, Bool.or_eq_true, h.send_step_iff op, h.recv_step_iff op, Event.mem_streams]
  constructor
  · rintro ((hsend | ⟨e, he, hid⟩) | (hrecv | ⟨e, he, hid⟩))
    · exact .inl (.inl hsend)
    · exact .inr ⟨e, he, .inl hid⟩
    · exact .inl (.inr hrecv)
    · exact .inr ⟨e, he, .inr hid⟩
  rintro ((hsend | hrecv) | ⟨e, he, hid | hid⟩)
  · exact .inl (.inl hsend)
  · exact .inr (.inl hrecv)
  · exact .inl (.inr ⟨e, he, hid⟩)
  · exact .inr (.inr ⟨e, he, hid⟩)

/-! ## The limits on the peer's streams -/

/-- The limit on the peer's streams of a direction that was last advertised. -/
def advertised (c : Connection P) (dir : Direction) : Nat := (c.limit dir).sentMaxStreams

/-- A stream is the peer's, and not within the limit. -/
def OverLimit (c : Connection P) (id : StreamId) : Prop :=
  c.isPeerInitiated id = true ∧ c.advertised (StreamId.direction id) ≤ StreamId.index id

instance (c : Connection P) (id : StreamId) : Decidable (c.OverLimit id) :=
  inferInstanceAs (Decidable (_ ∧ _))

/-- A call creates no state of a stream over the limit. -/
def Enforces (c : Connection P) (op : Op) : Prop :=
  ∀ id, (c.step op).hasStream id = true → c.hasStream id = false → ¬ c.OverLimit id

/-- The frames that a call takes in, and the early data that it writes, are on streams that are
there or within the limit. -/
def WithinLimit (c : Connection P) (op : Op) : Prop :=
  ∀ e ∈ c.news op, ∀ id ∈ e.streams, c.hasStream id = false → ¬ c.OverLimit id

instance (c : Connection P) (op : Op) : Decidable (c.WithinLimit op) :=
  inferInstanceAs (Decidable (∀ e ∈ _, _))

theorem Documented.enforces_iff (h : c.Documented) (op : Op) :
    c.Enforces op ↔ c.WithinLimit op := by
  constructor
  · intro henforces e he id hid
    exact henforces id ((h.hasStream_step_iff op id).mpr (.inr ⟨e, he, hid⟩))
  intro hwithin id hid hnone
  rcases (h.hasStream_step_iff op id).mp hid with hold | ⟨e, he, hnew⟩
  · cases hold.symm.trans hnone
  · exact hwithin e he id hnew hnone

end Connection

/-- The stream that a frame is about. -/
def Frame.streamId : Frame → Option StreamId
  | .resetStream id _ _ => some id
  | .stopSending id _ => some id
  | .stream id _ _ _ => some id
  | .maxStreamData id _ => some id
  | .streamDataBlocked id _ => some id
  | _ => none

/-- A frame has stream data that contradicts the final size of its stream. -/
def Connection.breaksFinalSize (c : Connection P) : Frame → Bool
  | .stream id offset fin data =>
    let s := (c.inbound.streams.get? id).getD {}
    !s.isReset && match (s.recv ⟨offset, data, fin⟩).2 with
      | .error .finalSize => true
      | _ => false
  | _ => false

namespace Connection

theorem handleFrame_stream_error (c : Connection P) (now : Time) (packetType : PacketType)
    {frame : Frame} (hid : frame.streamId = some id) :
    (∃ e, (c.handleFrame now packetType frame).2 = .error e) ↔ c.breaksFinalSize frame = true := by
  have hnone : ∀ d : Connection P, ¬ ∃ e, ((d, .ok ()) : Outcome P Unit).2 = .error e := by
    rintro d ⟨e, he⟩
    cases he
  cases frame with
  | stream id offset fin data =>
    have hstreams : (c.ensureStream id).inbound.streams = c.inbound.streams := by
      simp only [ensureStream_inbound, noteNewPeerStream]
      split <;> rfl
    simp only [handleFrame, recvStream, breaksFinalSize, hstreams]
    cases hreset : ((c.inbound.streams.get? id).getD {}).isReset with
    | true => simp
    | false =>
      cases hrecv : (((c.inbound.streams.get? id).getD {}).recv ⟨offset, data, fin⟩).2 with
      | ok readable => cases readable <;> simp
      | error e => cases e <;> simp
  | resetStream | stopSending | maxStreamData | streamDataBlocked =>
    exact iff_of_false (hnone _) Bool.false_ne_true
  | _ => cases hid

end Connection

/-- Along a run no state of a stream over the limit is created exactly if no frame that makes such
state is taken in, and no early data is written to such a stream.  A frame about a stream over the
limit fails exactly if it has stream data that contradicts the final size of the stream. -/
theorem peer_streams_limited_iff {c : Connection P} (hfresh : c.Fresh) (ops : List Op) :
    (Along Connection.step Connection.Enforces c ops ↔
      Along Connection.step Connection.WithinLimit c ops) ∧
    ∀ now packetType (frame : Frame) id, frame.streamId = some id → (c.run ops).OverLimit id →
      ((∃ e, ((c.run ops).handleFrame now packetType frame).2 = .error e) ↔
        (c.run ops).breaksFinalSize frame = true) := by
  constructor
  · exact Along.iff_of_invariant (C := fun _ _ => True) (I := Connection.Documented)
      (fun d op hd _ => hd.step op) (fun d op hd _ => hd.enforces_iff op) hfresh.documented
      (.of_forall fun _ _ => trivial)
  · intro now packetType frame id hid _
    exact (c.run ops).handleFrame_stream_error now packetType hid

namespace Plain

/-- A server that allows one stream. -/
def oneStream : Connection Plain := server (client []) [] { initialMaxStreamsBidi := 1 }

/-- The server gets to know a client, and stream data arrives. -/
def serves (id : StreamId) : List Op :=
  [.handleDatagram 0 ((client []).pollTransmit 0 []).2.1, .pollTransmit 0 [],
    .handleDatagram 3 (shortPacket oneStream 0 7 [.stream id 0 false [1, 2]])]

end Plain

theorem peer_streams_limited_first :
    (oneStream.run (serves 0)).hasStream 0 = true ∧
      Along Connection.step Connection.Enforces oneStream (serves 0) := by
  have hwithin : Along Connection.step Connection.WithinLimit oneStream (serves 0) := by
    decide +kernel
  refine ⟨by decide +kernel, ?_⟩
  generalize serves 0 = ops at hwithin
  exact (peer_streams_limited_iff (server_fresh ..) ops).1.mpr hwithin

/-- The second stream of the client is over the limit of one.  Its data is taken in. -/
theorem second_stream_accepted :
    let d := oneStream.run ((serves 4).take 2)
    d.OverLimit 4 ∧ d.hasStream 4 = false ∧
      (d.handleFrame 3 .short (.stream 4 0 false [1, 2])).2 = .ok () ∧
      (oneStream.run (serves 4)).sendStreams.contains 4 = true ∧
      (oneStream.run (serves 4)).inbound.streams.contains 4 = true := by
  decide +kernel

/-! ## The streams of this side -/

namespace Connection

/-- What is said of the streams of both sides. -/
structure Rightful (c : Connection P) : Prop where
  /-- The streams of this side were opened. -/
  opened : ∀ id, c.hasStream id = true → c.isPeerInitiated id = false →
    wasOpened id c.trace = true
  /-- Those that only send have no receive half. -/
  recv : ∀ id, c.inbound.streams.contains id = true → c.isPeerInitiated id = false →
    StreamId.direction id = .bidirectional
  /-- Those of the peer that only receive have no send half. -/
  send : ∀ id, c.sendStreams.contains id = true → c.isPeerInitiated id = true →
    StreamId.direction id = .bidirectional
  /-- What is opened next replaces nothing. -/
  nextBidi : c.hasStream c.nextBidi = false
  nextUni : c.hasStream c.nextUni = false

/-- A frame on a stream of this side is on one that was opened and that is bidirectional.  Early
data is on a stream of this side that was opened, or on a bidirectional one of the peer. -/
def entitled (c : Connection P) : Event P → Bool
  | .received _ (.stream id _ _ _) => c.isPeerInitiated id ||
      wasOpened id c.trace && StreamId.direction id == .bidirectional
  | .received _ (.resetStream id _ _) => c.isPeerInitiated id ||
      wasOpened id c.trace && StreamId.direction id == .bidirectional
  | .replayed id =>
    if c.isPeerInitiated id then StreamId.direction id == .bidirectional
    else wasOpened id c.trace
  | _ => true

/-- A call takes in and writes nothing but what it is entitled to, and identifiers do not run
out. -/
def Entitled (c : Connection P) (op : Op) : Prop :=
  (∀ e ∈ c.news op, c.entitled e = true) ∧
    (c.step op).opened.nextBidiIndex < 2 ^ 60 ∧ (c.step op).opened.nextUniIndex < 2 ^ 60

instance (c : Connection P) (op : Op) : Decidable (c.Entitled op) :=
  inferInstanceAs (Decidable (_ ∧ _))

/-! ### Which calls open streams -/

variable (c : Connection P) {op : Op}

theorem step_chronicle (hsimple : op.isSimple = true)
    (hop : op.opens = false) : (c.step op).chronicle = c.chronicle := by
  by_cases haside : op.isAside = true
  · exact (congrArg chronicle (step_aside c haside) :)
  cases op with
  | openBidi | openUni => cases hop
  | sendStream | readStream | pollReadable | pollNewPeerStream | resetStream | queueEarlyData
  | popCidEvent | close | initiateKeyUpdate =>
    simp only [step, sendStream, readStream, pollReadable, pollNewPeerStream, resetStream,
      queueEarlyData, popCidEvent, close, initiateKeyUpdate]
    repeat' split
    all_goals rfl
  | _ => first | exact absurd rfl haside | cases hsimple

theorem wasOpened_chronicle (id : StreamId) : wasOpened id c.chronicle = wasOpened id c.trace := by
  rw [wasOpened, wasOpened, chronicle, List.any_filter]
  refine congrArg (List.any c.trace) (funext fun e => ?_)
  cases e <;> rfl

theorem step_wasOpened (hop : op.opens = false) (id : StreamId) :
    wasOpened id (c.step op).trace = wasOpened id c.trace := by
  rw [← wasOpened_chronicle, ← wasOpened_chronicle]
  refine (c.step_updates op).invariant
    (I := fun d => wasOpened id d.chronicle = wasOpened id c.chronicle) (fun {b d} h hupdate => ?_)
    rfl
  rcases hupdate.uptake_cases with hsame | ⟨-, e, v, htakes, hframe⟩ | ⟨hsimple, rfl⟩ |
    ⟨now, out, -, rfl⟩
  · exact (congrArg (fun u => wasOpened id u.chronicle) hsame).trans h
  · refine (congrArg (fun u => wasOpened id u.chronicle) hframe).trans (Eq.trans ?_ h)
    cases htakes <;> rfl
  · rw [step_chronicle _ hsimple hop]
    exact h
  · have htrace := congrArg Ledger.trace b.advanceRecvFlow_ledger
    exact (congrArg (fun trace => wasOpened id (trace.filter Event.isInward)) htrace).trans h

theorem news_of_opens (hop : op.opens = true) : ∀ e ∈ c.news op, ∃ id, e = .opened id := by
  have hnews : ∀ {new}, (c.step op).trace = new ++ c.trace → c.news op = new := fun h =>
    List.append_cancel_right ((c.step_trace op).symm.trans h)
  have hcases : (c.step op).trace = [] ++ c.trace ∨
      ∃ id, (c.step op).trace = [.opened id] ++ c.trace := by
    cases op with
    | openBidi | openUni =>
      simp only [step, openBidi, openUni]
      split
      · exact .inl rfl
      · exact .inr ⟨_, rfl⟩
    | _ => cases hop
  rcases hcases with hnone | ⟨id, hone⟩
  · rw [hnews hnone]
    exact List.forall_mem_nil _
  · rw [hnews hone]
    exact fun e he => ⟨id, List.mem_singleton.mp he⟩

/-! ### One call -/

variable {c : Connection P} {op : Op}

theorem isPeerInitiated_step (c : Connection P) (op : Op) (id : StreamId) :
    (c.step op).isPeerInitiated id = c.isPeerInitiated id := by
  rw [isPeerInitiated, isPeerInitiated, (step_history c op).1]

theorem wasOpened_mono (c : Connection P) (op : Op)
    (h : wasOpened id c.trace = true) : wasOpened id (c.step op).trace = true := by
  rw [step_trace, wasOpened, List.any_append, Bool.or_eq_true]
  exact .inr h

theorem Documented.isPeerInitiated_of_opened (h : c.Documented)
    (hid : wasOpened id c.trace = true) : c.isPeerInitiated id = false := by
  obtain ⟨dir, k, -, rfl⟩ := (h.counted id).mp hid
  simp [isPeerInitiated, StreamId.initiator_new, outlay]

theorem Documented.hasStream_of_opened (h : c.Documented)
    (hid : wasOpened id c.trace = true) : c.hasStream id = true := by
  obtain ⟨e, he, hopened⟩ := List.any_eq_true.mp hid
  rw [hasStream, Bool.or_eq_true, h.send.contains_iff]
  refine .inl ⟨e, he, ?_⟩
  cases e with
  | opened id' => exact congrArg some (beq_iff_eq.mp hopened)
  | _ => cases hopened

theorem Documented.next_iff (h : c.Documented)
    (hopened : ∀ id, c.hasStream id = true → c.isPeerInitiated id = false →
      wasOpened id c.trace = true) (dir : Direction) :
    c.hasStream (c.outlay.nextId dir) = false ↔ c.outlay.nextIndex dir < 2 ^ 60 := by
  constructor
  · intro hnew
    by_contra hfull
    -- identifiers start over
    have hopened : wasOpened (c.outlay.nextId dir) c.trace = true := by
      refine (h.counted _).mpr ⟨dir, c.outlay.nextIndex dir % 2 ^ 60, ?_, ?_⟩
      · have := Nat.mod_lt (c.outlay.nextIndex dir) (Nat.two_pow_pos 60)
        omega
      · simp only [Outlay.nextId, StreamId.new, Nat.mod_mod]
    cases hnew.symm.trans (h.hasStream_of_opened hopened)
  · intro hroom
    by_contra hsome
    rw [Bool.not_eq_false] at hsome
    have hlocal : c.isPeerInitiated (c.outlay.nextId dir) = false := by
      simp [isPeerInitiated, Outlay.nextId, StreamId.initiator_new, outlay]
    obtain ⟨dir', k, hk, heq⟩ := (h.counted _).mp (hopened _ hsome hlocal)
    have hdir : dir = dir' := by
      have hdirection := congrArg StreamId.direction heq
      rwa [Outlay.nextId, StreamId.direction_new, StreamId.direction_new] at hdirection
    subst hdir
    have hindex := congrArg StreamId.index heq
    rw [Outlay.nextId, StreamId.index_new _ _ (by simp [StreamId.maxIndex]; omega),
      StreamId.index_new _ _ (by simp [StreamId.maxIndex]; omega)] at hindex
    omega

theorem entitled_of_rightful (h : (c.step op).Rightful) (hdoc : c.Documented)
    (he : e ∈ c.news op) : c.entitled e = true := by
  by_cases hop : op.opens = true
  · obtain ⟨id, rfl⟩ := c.news_of_opens hop e he
    rfl
  have hback : ∀ id, wasOpened id (c.step op).trace = wasOpened id c.trace :=
    c.step_wasOpened (Bool.eq_false_of_not_eq_true hop)
  have hframe : ∀ id, e.recvHalf = some id → (c.isPeerInitiated id ||
      wasOpened id c.trace && StreamId.direction id == .bidirectional) = true := by
    intro id hhalf
    have hrecv := (hdoc.recv_step_iff op id).mpr (.inr ⟨e, he, hhalf⟩)
    cases hpeer : c.isPeerInitiated id with
    | true => rfl
    | false =>
      rw [← isPeerInitiated_step c op] at hpeer
      have hopened := h.opened id (Bool.or_eq_true_iff.mpr (.inr hrecv)) hpeer
      rw [← hback, hopened, h.recv id hrecv hpeer]
      rfl
  cases e with
  | received packetType frame =>
    cases frame with
    | stream id | resetStream id => exact hframe id rfl
    | _ => rfl
  | replayed id =>
    have hsend := (hdoc.send_step_iff op id).mpr (.inr ⟨_, he, rfl⟩)
    simp only [entitled]
    split
    · rename_i hpeer
      rw [← isPeerInitiated_step c op] at hpeer
      exact beq_iff_eq.mpr (h.send id hsend hpeer)
    rename_i hpeer
    rw [← isPeerInitiated_step c op, Bool.not_eq_true] at hpeer
    rw [← hback]
    exact h.opened id (Bool.or_eq_true_iff.mpr (.inl hsend)) hpeer
  | _ => rfl

theorem entitled_recvHalf (h : c.entitled e = true)
    (hid : e.recvHalf = some id) (hlocal : c.isPeerInitiated id = false) :
    (e = .opened id ∨ wasOpened id c.trace = true) ∧ StreamId.direction id = .bidirectional := by
  cases e with
  | opened id' =>
    simp only [Event.recvHalf] at hid
    split at hid
    · rename_i hbidi
      cases hid
      exact ⟨.inl rfl, hbidi⟩
    · cases hid
  | received packetType frame =>
    have hframe : (c.isPeerInitiated id ||
        wasOpened id c.trace && StreamId.direction id == .bidirectional) = true →
        wasOpened id c.trace = true ∧ StreamId.direction id = .bidirectional := by
      rw [hlocal, Bool.false_or, Bool.and_eq_true, beq_iff_eq]
      exact fun h => h
    cases frame with
    | stream | resetStream =>
      cases hid
      exact (hframe h).imp_left .inr
    | _ => cases hid
  | _ => cases hid

theorem entitled_sendHalf (h : c.entitled e = true) (hid : e.sendHalf = some id) :
    e = .opened id ∨ (c.isPeerInitiated id = false → wasOpened id c.trace = true) ∧
      (c.isPeerInitiated id = true → StreamId.direction id = .bidirectional) := by
  cases e with
  | opened id' =>
    cases hid
    exact .inl rfl
  | received packetType frame =>
    cases frame with
    | stream id' offset fin data =>
      simp only [Event.sendHalf] at hid
      split at hid
      · rename_i hbidi
        cases hid
        refine .inr ⟨fun hlocal => ?_, fun _ => hbidi⟩
        rw [entitled, hlocal, Bool.false_or, Bool.and_eq_true] at h
        exact h.1
      · cases hid
    | _ => cases hid
  | replayed id' =>
    cases hid
    simp only [entitled] at h
    refine .inr ⟨fun hlocal => ?_, fun hpeer => ?_⟩
    · rw [if_neg (by simp [hlocal])] at h
      exact h
    · rw [if_pos hpeer] at h
      exact beq_iff_eq.mp h
  | _ => cases hid

theorem wasOpened_of_mem_news (h : .opened id ∈ c.news op) :
    wasOpened id (c.step op).trace = true := by
  rw [step_trace]
  exact List.any_eq_true.mpr ⟨_, List.mem_append_left _ h, beq_self_eq_true id⟩

theorem Rightful.opened_step (h : c.Rightful) (hdoc : c.Documented)
    (hentitled : ∀ e ∈ c.news op, c.entitled e = true) (id : StreamId)
    (hid : (c.step op).hasStream id = true) (hlocal : c.isPeerInitiated id = false) :
    wasOpened id (c.step op).trace = true := by
  rcases (hdoc.hasStream_step_iff op id).mp hid with hold | ⟨e, he, hnew⟩
  · exact c.wasOpened_mono op (h.opened id hold hlocal)
  have hcases : e = .opened id ∨ wasOpened id c.trace = true := by
    rcases Event.mem_streams.mp hnew with hsend | hrecv
    · exact (entitled_sendHalf (hentitled e he) hsend).imp_right fun h => h.1 hlocal
    · exact (entitled_recvHalf (hentitled e he) hrecv hlocal).1
  rcases hcases with rfl | hopened
  · exact wasOpened_of_mem_news he
  · exact c.wasOpened_mono op hopened

theorem Rightful.step_iff (h : c.Rightful) (hdoc : c.Documented) (op : Op) :
    (c.step op).Rightful ↔ c.Entitled op := by
  have hdoc' := hdoc.step op
  constructor
  · intro hnext
    exact ⟨fun e he => entitled_of_rightful hnext hdoc he,
      (hdoc'.next_iff hnext.opened .bidirectional).mp hnext.nextBidi,
      (hdoc'.next_iff hnext.opened .unidirectional).mp hnext.nextUni⟩
  rintro ⟨hentitled, hbidi, huni⟩
  have hopened : ∀ id, (c.step op).hasStream id = true → (c.step op).isPeerInitiated id = false →
      wasOpened id (c.step op).trace = true := by
    intro id hid hlocal
    exact h.opened_step hdoc hentitled id hid (isPeerInitiated_step c op id ▸ hlocal)
  refine ⟨hopened, fun id hid hlocal => ?_, fun id hid hpeer => ?_,
    (hdoc'.next_iff hopened .bidirectional).mpr hbidi,
    (hdoc'.next_iff hopened .unidirectional).mpr huni⟩
  · rw [isPeerInitiated_step] at hlocal
    rcases (hdoc.recv_step_iff op id).mp hid with hold | ⟨e, he, hnew⟩
    · exact h.recv id hold hlocal
    · exact (entitled_recvHalf (hentitled e he) hnew hlocal).2
  rcases (hdoc.send_step_iff op id).mp hid with hold | ⟨e, he, hnew⟩
  · rw [isPeerInitiated_step] at hpeer
    exact h.send id hold hpeer
  rcases entitled_sendHalf (hentitled e he) hnew with rfl | ⟨-, hbidi⟩
  · -- what is opened is of this side
    cases (hdoc'.isPeerInitiated_of_opened (wasOpened_of_mem_news he)).symm.trans hpeer
  · rw [isPeerInitiated_step] at hpeer
    exact hbidi hpeer

theorem Fresh.rightful (hfresh : c.Fresh) : c.Rightful := by
  cases hfresh <;> exact ⟨nofun, nofun, nofun, rfl, rfl⟩

end Connection

/-- At the start, and then after each call of a run, the streams of this side that have state were
opened, none that only sends has a receive half, none of the peer that only receives has a send
half, and the next streams have no state, exactly if each call is entitled to what it does. -/
theorem stream_state_rightful_iff {c : Connection P} (hfresh : c.Fresh) (ops : List Op) :
    c.Rightful ∧ (Along Connection.step (fun d op => (d.step op).Rightful) c ops ↔
      Along Connection.step Connection.Entitled c ops) := by
  refine ⟨hfresh.rightful, ?_⟩
  exact Along.stays_iff (C := fun _ _ => True) (I := Connection.Documented)
    (fun d op hd _ _ _ => hd.step op) (fun d op hd _ hd' => hd'.step_iff hd op) hfresh.documented
    hfresh.rightful (.of_forall fun _ _ => trivial)

namespace Plain

/-- Data of the server arrives on the first stream of a client. -/
def serverData : Op := .handleDatagram 2 (shortPacket (client []) 0 0 [.stream 0 0 false [1, 2]])

end Plain

theorem stream_state_rightful_opened :
    let ops := joins (client []) ++ [.openBidi, serverData]
    ((client []).run ops).hasStream 0 = true ∧
      Along Connection.step (fun d op => (d.step op).Rightful) (client []) ops := by
  intro ops
  have hentitled : Along Connection.step Connection.Entitled (client []) ops := by
    decide +kernel
  refine ⟨by decide +kernel, ?_⟩
  clear_value ops
  exact (stream_state_rightful_iff (client_fresh []) ops).2.mpr hentitled

/-- The server sends on a stream that the client has not opened.  When the client opens it, the
data is gone. -/
theorem open_replaces_stream :
    let d := (client []).run (joins (client []) ++ [serverData])
    wasOpened 0 d.trace = false ∧ d.isPeerInitiated 0 = false ∧ d.hasStream 0 = true ∧
      (d.readStream 0).2.toOption = some ([1, 2], false) ∧
      d.openBidi.2.toOption = some 0 ∧
      (d.openBidi.1.readStream 0).2.toOption = some ([], false) := by
  decide +kernel

end OxiQuic
