import OxiQuic.Connection.Accounting
import OxiQuic.Stream.Conservation

/-!
# No stream data is lost by the sender

What an application writes to a stream passes from the buffer of the stream into packets,
from lost packets into the resend queue and out again, until a packet that carries it is
acknowledged.  Nothing falls out of this circle (`stream_data_conserved`), given that sealing
succeeds, streams are not reset, no early data was replayed, and the peer does not speak on a
local stream before it is opened.

The last condition is needed.  A `STREAM` frame brings a send half into being, and opening the
stream later puts an empty one in its place.
-/

namespace OxiQuic

open Lib Plain

variable {P : Platform} {l l' : Ledger P} {kind : SpaceKind} {out : List SentPacket} {id : StreamId}
    {trace : List (Event P)} {s : SendStream} {store : SentPackets} {p : SentPacket} {seg : Segment}

/-! ## Streams of a connection -/

/-- Every stream conserves what was written to it. -/
def AllConserve (streams : OrdMap Nat SendStream) (W : Nat → Bytes) (finished : Nat → Bool)
    (held : Nat → Segment → Prop) : Prop :=
  ∀ id s, streams.get? id = some s → s.Conserves (W id) (finished id) (held id)

/-- A list of frames carries a segment of a stream. -/
def Carries (frames : List SentFrame) (id : Nat) (seg : Segment) : Prop :=
  .stream id seg.offset seg.fin seg.data ∈ frames

section AllConserve

variable {streams streams' : OrdMap Nat SendStream} {W : Nat → Bytes} {finished : Nat → Bool}
  {held held' : Nat → Segment → Prop} {frames : List SentFrame}

theorem AllConserve.mono (h : AllConserve streams W finished held)
    (hheld : ∀ id seg, held id seg → held' id seg) : AllConserve streams W finished held' :=
  fun id s hs => (h id s hs).mono (hheld id)

theorem AllConserve.insert (h : AllConserve streams W finished held) {id : Nat}
    (hs : s.Conserves (W id) (finished id) (held id)) :
    AllConserve (streams.insert id s) W finished held := OrdMap.forall_insert hs h

theorem Draws.conserve (hdraws : Draws streams streams' frames)
    (h : AllConserve streams W finished held) :
    AllConserve streams' W finished fun id seg => held id seg ∨ Carries frames id seg := by
  induction hdraws with
  | nil => exact h.mono fun _ _ => .inl
  | @take streams' frames id max s s' seg _ hs _ htakes ih =>
    intro id' t ht
    rw [OrdMap.get?_insert] at ht
    split at ht
    · rename_i hid
      cases ht
      subst hid
      refine ((ih id' s hs).take htakes).mono ?_
      rintro x ((hx | hx) | rfl)
      · exact .inl hx
      · exact .inr (List.mem_append_left _ hx)
      · exact .inr (List.mem_append_right _ (List.mem_singleton.mpr rfl))
    · exact (ih id' t ht).mono fun x => Or.imp_right (List.mem_append_left _)
  | other _ _ ih => exact ih.mono fun _ _ => Or.imp_right (List.mem_append_left _)

theorem Draws.get?_eq_none_iff (hdraws : Draws streams streams' frames) (id : Nat) :
    streams'.get? id = none ↔ streams.get? id = none := by
  induction hdraws with
  | nil => rfl
  | @take streams' frames id' max s s' seg _ hs _ _ ih =>
    rw [← ih, OrdMap.get?_insert]
    split
    · rename_i hid
      simp [hid, hs]
    · rfl
  | other _ _ ih => exact ih

theorem requeueInto_get?_eq_none_iff (frame : SentFrame) (id : Nat) :
    (requeueInto streams frame).get? id = none ↔ streams.get? id = none := by
  cases frame with
  | stream id' offset fin data =>
    rw [requeueInto, OrdMap.get?_modify]
    split
    · simp
    · rfl
  | _ => rfl

theorem requeueAll_get?_eq_none_iff (frames : List SentFrame)
    (streams : OrdMap Nat SendStream) (id : Nat) :
    (requeueAll streams frames).get? id = none ↔ streams.get? id = none := by
  induction frames generalizing streams with
  | nil => rfl
  | cons frame rest ih => exact (ih _).trans (requeueInto_get?_eq_none_iff frame id)

theorem AllConserve.requeueInto {frame : SentFrame}
    (h : AllConserve streams W finished fun id seg =>
      held id seg ∨ .stream id seg.offset seg.fin seg.data = frame) :
    AllConserve (requeueInto streams frame) W finished held := by
  intro id s hs
  cases frame with
  | stream id' offset fin data =>
    rw [OxiQuic.requeueInto, OrdMap.get?_modify] at hs
    split at hs
    · rename_i hid
      obtain ⟨t, ht, rfl⟩ := Option.map_eq_some_iff.mp hs
      subst hid
      refine (h id t ht).move ?_
      rintro x (hx | hx | hx)
      · exact .inl (List.mem_append_left _ hx)
      · exact .inr hx
      · cases hx
        exact .inl (List.mem_append_right _ (List.mem_singleton.mpr rfl))
    · rename_i hid
      refine (h id s hs).mono ?_
      rintro x (hx | hx)
      · exact hx
      · cases hx
        exact absurd rfl hid
  | _ =>
    refine (h id s hs).mono ?_
    rintro x (hx | hx)
    · exact hx
    · cases hx

theorem AllConserve.requeueAll
    (h : AllConserve streams W finished fun id seg => held id seg ∨ Carries frames id seg) :
    AllConserve (requeueAll streams frames) W finished held := by
  induction frames generalizing streams with
  | nil =>
    refine h.mono fun id seg hseg => ?_
    rcases hseg with hseg | hseg
    · exact hseg
    · cases hseg
  | cons frame rest ih =>
    refine ih (AllConserve.requeueInto (h.mono fun id seg hseg => ?_))
    rcases hseg with hseg | hseg
    · exact .inl (.inl hseg)
    rcases List.mem_cons.mp hseg with hseg | hseg
    · exact .inr hseg
    · exact .inl (.inr hseg)

end AllConserve

/-! ## The history of a stream -/

/-- What was written to a stream. -/
def written (id : StreamId) : List (Event P) → Bytes
  | [] => []
  | .wrote id' data _ :: rest => if id' = id then written id rest ++ data else written id rest
  | _ :: rest => written id rest

/-- Whether the end of a stream was requested. -/
def finished (id : StreamId) : List (Event P) → Bool
  | [] => false
  | .wrote id' _ fin :: rest => if id' = id then finished id rest || fin else finished id rest
  | _ :: rest => finished id rest

/-- Whether a stream of this side was opened. -/
def wasOpened (id : StreamId) (trace : List (Event P)) : Bool :=
  trace.any fun
    | .opened id' => id' == id
    | _ => false

theorem wasOpened_cons {e : Event P} :
    wasOpened id (e :: trace) = true ↔ e = .opened id ∨ wasOpened id trace = true := by
  rw [wasOpened, List.any_cons, Bool.or_eq_true]
  refine or_congr ?_ Iff.rfl
  cases e with
  | _ => simp

/-- The events that say something of streams. -/
def Event.onStreams : Event P → Bool
  | .wrote .. => true
  | .opened _ => true
  | _ => false

variable {new : List (Event P)}

theorem streams_append (h : ∀ e ∈ new, e.onStreams = false)
    (id : StreamId) (trace : List (Event P)) :
    written id (new ++ trace) = written id trace ∧ finished id (new ++ trace) = finished id trace ∧
      wasOpened id (new ++ trace) = wasOpened id trace := by
  induction new with
  | nil => exact ⟨rfl, rfl, rfl⟩
  | cons e rest ih =>
    have ih := ih fun e he => h e (List.mem_cons_of_mem _ he)
    have he := h e List.mem_cons_self
    cases e with
    | wrote | opened => cases he
    | _ => exact ih

/-- The events that conservation allows after a history: streams are not reset, no early data
is replayed, and the peer sends on streams of this side only if they were opened. -/
def Event.admissible (role : Role) (rest : List (Event P)) : Event P → Bool
  | .received _ (.stream id _ _ _) =>
    StreamId.initiator id != role.initiator || wasOpened id rest
  | .replayed _ => false
  | .reset _ => false
  | _ => true

/-- The histories that conservation is about. -/
def Clean (role : Role) : List (Event P) → Prop
  | [] => True
  | e :: rest => e.admissible role rest = true ∧ Clean role rest

instance Clean.decidable (role : Role) : (trace : List (Event P)) → Decidable (Clean role trace)
  | [] => isTrue trivial
  | e :: rest =>
    have := Clean.decidable role rest
    inferInstanceAs (Decidable (e.admissible role rest = true ∧ Clean role rest))

namespace Ledger

/-- Segments of a stream in packets that are tracked or acknowledged. -/
def Holds (l : Ledger P) (id : Nat) (seg : Segment) : Prop :=
  (∃ pn p, l.stores.application.sent.get? pn = some p ∧ Carries p.frames id seg) ∨
    ∃ p, .acked .application p ∈ l.trace ∧ Carries p.frames id seg

/-- Conservation, and what it needs to know of which streams there are. -/
structure Conserved (l : Ledger P) : Prop where
  streams : AllConserve l.streams (written · l.trace) (finished · l.trace) l.Holds
  /-- Nothing was written to a stream that does not exist. -/
  unknown : ∀ id, l.streams.get? id = none →
    written id l.trace = [] ∧ finished id l.trace = false
  opened : ∀ id, wasOpened id l.trace = true → l.streams.get? id ≠ none
  /-- The streams of this side are those that were opened. -/
  indexed : ∀ id s, l.streams.get? id = some s → StreamId.initiator id = l.role.initiator →
    StreamId.index id < l.nextIndex (StreamId.direction id)

theorem Holds.mono {id : Nat} (h : l.Holds id seg)
    (hstore : l'.stores.application = l.stores.application)
    (htrace : ∀ e ∈ l.trace, e ∈ l'.trace) : l'.Holds id seg := by
  rcases h with ⟨pn, p, hp, hseg⟩ | ⟨p, hp, hseg⟩
  · exact .inl ⟨pn, p, hstore ▸ hp, hseg⟩
  · exact .inr ⟨p, htrace _ hp, hseg⟩

theorem Conserved.of_streams (h : l.Conserved) (new : List (Event P))
    (htrace : l'.trace = new ++ l.trace) (hnew : ∀ e ∈ new, e.onStreams = false)
    (hrole : l'.role = l.role) (hopened : l'.opened = l.opened)
    (hkeys : ∀ id, l'.streams.get? id = none ↔ l.streams.get? id = none)
    (hstreams : AllConserve l'.streams (written · l.trace) (finished · l.trace) l'.Holds) :
    l'.Conserved where
  streams id s hs := by
    simp only [htrace, streams_append hnew id l.trace]
    exact hstreams id s hs
  unknown id hid := by
    simp only [htrace, streams_append hnew id l.trace]
    exact h.unknown id ((hkeys id).mp hid)
  opened id hid := by
    rw [htrace, (streams_append hnew id l.trace).2.2] at hid
    exact fun hnone => h.opened id hid ((hkeys id).mp hnone)
  indexed id s hs hlocal := by
    have hsome : l.streams.get? id ≠ none := fun hnone => by
      rw [(hkeys id).mpr hnone] at hs
      cases hs
    obtain ⟨t, ht⟩ := Option.ne_none_iff_exists'.mp hsome
    have hindex := h.indexed id t ht (hrole ▸ hlocal)
    rw [show l'.nextIndex = l.nextIndex by funext dir; cases dir <;> simp [nextIndex, hopened]]
    exact hindex

theorem Conserved.of_quiet (h : l.Conserved) (new : List (Event P))
    (htrace : l'.trace = new ++ l.trace) (hnew : ∀ e ∈ new, e.onStreams = false)
    (hrole : l'.role = l.role) (hopened : l'.opened = l.opened) (hstreams : l'.streams = l.streams)
    (hstore : l'.stores.application = l.stores.application) : l'.Conserved :=
  h.of_streams new htrace hnew hrole hopened (fun id => by rw [hstreams]) <| hstreams ▸
    h.streams.mono fun _ _ hseg =>
      hseg.mono hstore fun _ he => htrace ▸ List.mem_append_right _ he

/-- What the run is assumed to be like at each point. -/
structure Orderly (l : Ledger P) : Prop where
  clean : Clean l.role l.trace
  /-- Stream identifiers have room for this many streams. -/
  index_le : ∀ dir, l.nextIndex dir ≤ 2 ^ 60

/-! ## Packets -/

theorem Conserved.send (h : l.Conserved) (hnumbered : l.Numbered .application) (key : P.PacketKey)
    {streams : OrdMap Nat SendStream} (hdraws : Draws l.streams streams p.frames)
    (hother : kind ≠ .application → ∀ frame ∈ p.frames, frame.isStream = false)
    (hpn : p.packetNumber = l.next.get kind) :
    ({ l.sealWith kind key with streams := streams }.record kind p : Ledger P).Conserved := by
  have hnew : ∀ e ∈ [Event.sealed (l.label kind) key (l.next.get kind)], e.onStreams = false := by
    simp [Event.onStreams]
  by_cases hkind : kind = .application
  · subst hkind
    refine h.of_streams [_] rfl hnew rfl rfl hdraws.get?_eq_none_iff ?_
    refine (hdraws.conserve h.streams).mono ?_
    rintro id seg ((⟨pn, q, hq, hseg⟩ | ⟨q, hq, hseg⟩) | hseg)
    · -- the number is new, so no record is overwritten
      have hlt : pn < l.next.get .application := hnumbered pn q hq
      refine .inl ⟨pn, q, ?_, hseg⟩
      show (l.stores.application.sent.insert p.packetNumber p).get? pn = some q
      rw [OrdMap.get?_insert_of_ne _ _ (by omega)]
      exact hq
    · exact .inr ⟨q, List.mem_cons_of_mem _ hq, hseg⟩
    · refine .inl ⟨p.packetNumber, p, ?_, hseg⟩
      show (l.stores.application.sent.insert p.packetNumber p).get? p.packetNumber = some p
      exact OrdMap.get?_insert_self ..
  · refine h.of_quiet [_] rfl hnew rfl rfl (hdraws.eq_of_no_stream (hother hkind)) ?_
    show (l.stores.set kind _).application = l.stores.application
    cases kind with
    | application => exact absurd rfl hkind
    | _ => rfl

theorem Holds.release {id : Nat} (h : l.Holds id seg)
    (htakes : (l.stores.get kind).Takes store out) (event : SentPacket → Event P) :
    (l.release kind store out event).Holds id seg ∨
      kind = .application ∧ ∃ p ∈ out, Carries p.frames id seg := by
  rcases h with ⟨pn, p, hp, hseg⟩ | ⟨p, hp, hseg⟩
  · cases kind with
    | application =>
      rcases htakes.split hp with hp | hp
      · exact .inl (.inl ⟨pn, p, hp, hseg⟩)
      · exact .inr ⟨rfl, p, hp, hseg⟩
    | _ => exact .inl (.inl ⟨pn, p, hp, hseg⟩)
  · exact .inl (.inr ⟨p, List.mem_append_right _ hp, hseg⟩)

theorem onStreams_of_mem_events {event : SentPacket → Event P}
    (hevent : ∀ p, (event p).onStreams = false) :
    ∀ e ∈ (out.map event).reverse, e.onStreams = false := by
  intro e he
  obtain ⟨p, _, rfl⟩ := List.mem_map.mp (List.mem_reverse.mp he)
  exact hevent p

theorem Conserved.ack (h : l.Conserved) (htakes : (l.stores.get kind).Takes store out) :
    (l.release kind store out (.acked kind)).Conserved := by
  refine h.of_streams _ rfl (onStreams_of_mem_events fun _ => rfl) rfl rfl (fun _ => Iff.rfl) ?_
  refine h.streams.mono fun id seg hseg => ?_
  rcases hseg.release htakes (.acked kind) with hseg | ⟨rfl, p, hp, hseg⟩
  · exact hseg
  · refine .inr ⟨p, ?_, hseg⟩
    exact List.mem_append_left _ (List.mem_reverse.mpr (List.mem_map_of_mem hp))

theorem Conserved.lose (h : l.Conserved) (htakes : (l.stores.get kind).Takes store out) :
    ({ l.release kind store out (.lost kind) with
        streams := requeueAll l.streams (out.flatMap (·.frames)) } : Ledger P).Conserved := by
  refine h.of_streams _ rfl (onStreams_of_mem_events fun _ => rfl) rfl rfl
    (requeueAll_get?_eq_none_iff _ _) ?_
  refine AllConserve.requeueAll (h.streams.mono fun id seg hseg => ?_)
  rcases hseg.release htakes (.lost kind) with hseg | ⟨_, p, hp, hseg⟩
  · exact .inl hseg
  · exact .inr (List.mem_flatMap.mpr ⟨p, hp, hseg⟩)

/-! ## Streams -/

theorem Conserved.streams_insert_new (h : l.Conserved) {id : Nat}
    (hnone : l.streams.get? id = none) :
    AllConserve (l.streams.insert id {}) (written · l.trace) (finished · l.trace) l.Holds := by
  refine h.streams.insert ?_
  obtain ⟨hwritten, hfinished⟩ := h.unknown id hnone
  simp only [hwritten, hfinished]
  exact ⟨rfl, Nat.le_refl 0, rfl, rfl, fun hi => absurd hi (Nat.not_lt_zero _), nofun⟩

/-- The next identifier of a direction is not in use, as long as identifiers have room. -/
theorem Conserved.nextId_unused (h : l.Conserved) {dir : Direction}
    (hroom : l.nextIndex dir ≤ StreamId.maxIndex) : l.streams.get? (l.nextId dir) = none := by
  cases hs : l.streams.get? (l.nextId dir) with
  | none => rfl
  | some s =>
    have hlt := h.indexed _ s hs (StreamId.initiator_new ..)
    rw [nextId, StreamId.direction_new, StreamId.index_new _ _ hroom] at hlt
    exact absurd hlt (Nat.lt_irrefl _)

theorem Conserved.open (h : l.Conserved) (dir : Direction)
    (hroom : l.nextIndex dir ≤ StreamId.maxIndex) : (l.openStream dir).Conserved where
  streams := by
    refine (h.streams_insert_new (h.nextId_unused hroom)).mono fun id seg hseg => ?_
    exact hseg.mono rfl fun _ he => List.mem_cons_of_mem _ he
  unknown id hid := h.unknown id (OrdMap.of_get?_insert_eq_none hid).2
  opened id hid hnone := by
    obtain ⟨hne, hnone⟩ := OrdMap.of_get?_insert_eq_none hnone
    rcases Bool.or_eq_true_iff.mp hid with hid | hid
    · exact hne (beq_iff_eq.mp hid).symm
    · exact h.opened id hid hnone
  indexed id s hs hlocal := by
    rw [nextIndex_openStream]
    change (l.streams.insert (l.nextId dir) {}).get? id = some s at hs
    rw [OrdMap.get?_insert] at hs
    split at hs
    · rename_i hid
      rw [hid, nextId, StreamId.direction_new, StreamId.index_new _ _ hroom, if_pos rfl]
      exact Nat.lt_succ_self _
    have hlt := h.indexed id s hs hlocal
    split
    · rename_i hdir
      rw [hdir] at hlt
      omega
    · exact hlt

theorem Conserved.write (h : l.Conserved)
    (hs : l.streams.get? id = some s) (data : Bytes) (fin : Bool) :
    ({ l with streams := l.streams.insert id (s.write data fin) }.log (.wrote id data fin) :
      Ledger P).Conserved where
  streams id' t ht := by
    have hholds : ∀ seg, l.Holds id' seg → Holds ({ l with
        streams := l.streams.insert id (s.write data fin) }.log (.wrote id data fin)) id' seg :=
      fun seg hseg => hseg.mono rfl fun _ he => List.mem_cons_of_mem _ he
    change (l.streams.insert id (s.write data fin)).get? id' = some t at ht
    rw [OrdMap.get?_insert] at ht
    split at ht
    · rename_i hid
      cases ht
      subst hid
      refine SendStream.Conserves.mono ?_ hholds
      have hwrite := (h.streams id' s hs).write data fin
      simp only [log, written, finished, if_true]
      exact hwrite
    · rename_i hid
      simp only [log, written, finished, if_neg (Ne.symm hid)]
      exact (h.streams id' t ht).mono hholds
  unknown id' hid := by
    obtain ⟨hne, hnone⟩ := OrdMap.of_get?_insert_eq_none hid
    simp only [log, written, finished, if_neg (Ne.symm hne)]
    exact h.unknown id' hnone
  opened id' hid hnone := h.opened id' hid (OrdMap.of_get?_insert_eq_none hnone).2
  indexed := OrdMap.forall_insert (h.indexed id s hs) h.indexed

theorem Conserved.accept (h : l.Conserved) (hnone : l.streams.get? id = none)
    (hremote : StreamId.initiator id ≠ l.role.initiator) :
    ({ l with streams := l.streams.insert id {} } : Ledger P).Conserved where
  streams := h.streams_insert_new hnone
  unknown id' hid := h.unknown id' (OrdMap.of_get?_insert_eq_none hid).2
  opened id' hid hnone := h.opened id' hid (OrdMap.of_get?_insert_eq_none hnone).2
  indexed := OrdMap.forall_insert (fun hlocal => absurd hlocal hremote) h.indexed

/-! ## Runs -/

/-- 1-RTT packets are sent only once there are keys for them. -/
def Keyed (l : Ledger P) : Prop := l.ready = true → l.appKeys = true

theorem Acknowledged.mono {trace' : List (Event P)} {pn : Nat}
    (h : Acknowledged trace kind pn) (htrace : ∀ e ∈ trace, e ∈ trace') :
    Acknowledged trace' kind pn := by
  obtain ⟨packetType, largest, delay, firstRange, ranges, hmem, hkind, hcovers⟩ := h
  exact ⟨packetType, largest, delay, firstRange, ranges, htrace _ hmem, hkind, hcovers⟩

theorem Move.acked (hmove : Move l l')
    (h : .acked kind p ∈ l'.trace) : .acked kind p ∈ l.trace ∨
      ∃ pn, (l.stores.get kind).sent.get? pn = some p ∧ Acknowledged l.trace kind pn := by
  have hcons {e : Event P} (h : .acked kind p ∈ e :: l.trace) (he : e ≠ .acked kind p) :
      .acked kind p ∈ l.trace := (List.mem_cons.mp h).resolve_left (Ne.symm he)
  cases hmove with
  | @note e hnote => exact .inl (hcons h (by rintro rfl; exact hnote))
  | ack kind' htakes hcovers =>
    rcases List.mem_append.mp h with h | h
    · obtain ⟨q, hq, heq⟩ := List.mem_map.mp (List.mem_reverse.mp h)
      cases heq
      exact .inr (hcovers p hq)
    · exact .inl h
  | lose kind' htakes =>
    rcases List.mem_append.mp h with h | h
    · obtain ⟨q, hq, heq⟩ := List.mem_map.mp (List.mem_reverse.mp h)
      cases heq
    · exact .inl h
  | oneRtt | deliver | skip | requeue | accept => exact .inl h
  | _ => exact .inl (hcons h nofun)

/-- Packets that count as acknowledged are covered by an `ACK` that was received. -/
def AcksReceived (l : Ledger P) : Prop :=
  ∀ kind p, .acked kind p ∈ l.trace → Acknowledged l.trace kind p.packetNumber

/-- What holds of a connection whatever its peer does. -/
structure Sound (l : Ledger P) : Prop where
  numbered : l.Numbered .application
  filed : l.AllFiled
  covered : l.Covered
  keyed : l.Keyed
  acks : l.AcksReceived

theorem sound_start (role : Role) (dcid : ConnectionId) (addr : SocketAddr) :
    (start role dcid addr : Ledger P).Sound where
  numbered := numbered_start role dcid addr .application
  filed := allFiled_start role dcid addr
  covered := Nat.le_refl 0
  keyed := nofun
  acks := nofun

end Ledger

/-! ## Where stream data is -/

namespace Connection

/-- A packet that is still tracked carries a segment of a stream. -/
def Tracks (c : Connection P) (id : StreamId) (seg : Segment) : Prop :=
  ∃ pn p, c.sentPackets.application.sent.get? pn = some p ∧ Carries p.frames id seg

/-- A packet that a received `ACK` covers carried a segment of a stream. -/
def Acked (c : Connection P) (id : StreamId) (seg : Segment) : Prop :=
  ∃ p, .acked .application p ∈ c.trace ∧
    Ledger.Acknowledged c.trace .application p.packetNumber ∧ Carries p.frames id seg

/-- A part of a stream is still in the buffer, in the resend queue, in a tracked packet, or
acknowledged. -/
def Keeps (c : Connection P) (id : StreamId) (buffered : SendStream → Prop)
    (part : Segment → Prop) : Prop :=
  (∃ s, c.sendStreams.get? id = some s ∧ (buffered s ∨ ∃ seg ∈ s.resend, part seg)) ∨
    (∃ seg, c.Tracks id seg ∧ part seg) ∨ ∃ seg, c.Acked id seg ∧ part seg

variable {part : Segment → Prop} {c : Connection P}

end Connection

/-- A client whose server grants it two streams of fifty bytes. -/
def Plain.granted : Connection Plain := client [4, 1, 60, 6, 1, 50, 8, 1, 2]

end OxiQuic
