import OxiQuic.Connection.StreamCounts
import Mathlib.Data.List.Dedup

/-!
# The number of streams that a connection may open

The peer limits how many streams a connection may open, in its transport parameters and later with
`MAX_STREAMS` frames.  The limit is looked at when a stream is opened, where zero stands for no limit
and nothing is known before the handshake, and not when the stream is sent.  What is sent therefore
stays within the limit as long as the streams with something to send do (`opened_streams_granted`).
-/

namespace OxiQuic

open Lib Plain

variable {P : Platform} {c d : Connection P} {id : StreamId}

/-- The stream that a frame carries data of. -/
def Frame.carries : Frame → Option StreamId
  | .stream id _ _ _ => some id
  | _ => none

theorem SendStream.Takes.hasPending {s s' : SendStream} {max : Nat} {seg : Segment}
    (h : s.Takes max s' seg) (hopen : s.resetCode = none) : s.hasPending = true := by
  rw [SendStream.hasPending, hopen]
  cases h with
  | whole hresend | split hresend => simp [hresend]
  | pureFin hresend hbuf hfin hsent => simp [hresend, hbuf, hfin, hsent]
  | fresh hresend hpos hle =>
    have hne : s.buf ≠ [] := by
      rintro hnil
      rw [hnil] at hle
      exact absurd hle (Nat.not_le.mpr hpos)
    simp [hne]

namespace Connection

/-! ## What a poll writes -/

/-- A stream has something to send. -/
def Owes (c : Connection P) (id : StreamId) : Prop :=
  ∃ s, c.sendStreams.get? id = some s ∧ s.hasPending = true

/-- The packets of a poll are written one after the other, under the keys there are. -/
def Writing : Connection P → Connection P → Prop :=
  Relation.ReflTransGen fun c d => d.hs.oneRttReady = c.hs.oneRttReady ∧ Writes c d

theorem writeDatagram_writing (c : Connection P) (now : Time) (out : Bytes) :
    Writing c (c.writeDatagram now out).1 := by
  refine writeDatagram_invariant (I := Writing c) ?_ ?_ ?_ .refl out
  · exact fun cond d kind out hd =>
      hd.tail ⟨(writeIf_standing cond d now kind out).2, writeIf_writes cond d now kind out⟩
  · exact fun wroteInitial d out hd =>
      hd.tail ⟨(standing_of_receiver (writeEarly_receiver wroteInitial d out)).2.2.2,
        writeEarly_writes wroteInitial d out⟩
  · exact fun d hd => hd.tail ⟨rfl, .same rfl⟩

theorem pollTransmit_writing (c : Connection P) (now : Time) (out : Bytes) :
    Writing c.pumpWriteHs (c.pollTransmit now out).1 := by
  simp only [pollTransmit]
  generalize c.pumpWriteHs = d
  have hadvance : ∀ e : Connection P, Writing d e → Writing d e.advanceRecvFlow := fun e he =>
    he.tail ⟨congrArg Core.oneRttReady (advanceRecvFlow_core e), .same (advanceRecvFlow_dealings e)⟩
  split
  · exact .refl
  split
  · have hclose : Writing d (d.emitClose out).1 :=
      .single ⟨(standing_of_receiver (emitClose_receiver d out)).2.2.2, emitClose_writes d out⟩
    split
    · exact hclose.tail ⟨rfl, .same rfl⟩
    · exact (hadvance _ hclose).trans (writeDatagram_writing _ now _)
  · exact (hadvance d .refl).trans (writeDatagram_writing _ now out)

/-- A packet is filled with data of streams that have something to send. -/
structure FilledPending (c : Connection P) (f : Filling P) : Prop where
  pending : ∀ id, f.conn.Owes id → c.Owes id
  placed : ∀ frame ∈ f.dealt.1, ∀ id, frame.carries = some id → c.Owes id

theorem Says.filledPending {f f' : Filling P} (h : FilledPending c f)
    (htells : Says f f') : FilledPending c f' := by
  have hsame : ∀ {u : Dealings P}, f'.conn.dealings = u → u.streams = f.conn.sendStreams →
      ∀ id, f'.conn.Owes id → c.Owes id := by
    rintro u hdealings hstreams id ⟨s, hs, hpending⟩
    have hstreams' : f'.conn.sendStreams = f.conn.sendStreams :=
      (congrArg Dealings.streams hdealings).trans hstreams
    exact h.pending id ⟨s, hstreams' ▸ hs, hpending⟩
  have hother : ∀ {frame : Frame}, frame.carries = Option.none → f'.dealt.1 = f.dealt.1 ++ [frame] →
      ∀ frame ∈ f'.dealt.1, ∀ id, frame.carries = some id → c.Owes id := by
    intro frame hnone hplaced frame' hframe' id hid
    rw [hplaced] at hframe'
    rcases List.mem_append.mp hframe' with hold | hnew
    · exact h.placed frame' hold id hid
    · rw [List.mem_singleton.mp hnew, hnone] at hid
      cases hid
  cases htells with
  | none hdealings hdealt | streamsBlocked dir hdealings hdealt =>
    exact ⟨hsame hdealings rfl, hdealt ▸ h.placed⟩
  | reset id errorCode finalSize _ hdealings hdealt | maxStreams dir max _ hdealings hdealt =>
    exact ⟨hsame hdealings rfl, hother rfl (congrArg Prod.fst hdealt)⟩
  | @stream id s s' seg max hs hopen htakes hdealings hdealt =>
    have hpending : c.Owes id := h.pending id ⟨s, hs, htakes.hasPending hopen⟩
    constructor
    · rintro id' ⟨t, ht, hpending'⟩
      have hstreams : f'.conn.sendStreams = f.conn.sendStreams.insert id s' :=
        congrArg Dealings.streams hdealings
      rw [hstreams, OrdMap.get?_insert] at ht
      split at ht
      · rename_i hid
        exact hid ▸ hpending
      · exact h.pending id' ⟨t, ht, hpending'⟩
    · intro frame hframe id' hid'
      rw [hdealt] at hframe
      rcases List.mem_append.mp hframe with hold | hnew
      · exact h.placed frame hold id' hid'
      rw [List.mem_singleton.mp hnew] at hid'
      cases hid'
      exact hpending

theorem Fills.filledPending {kind : SpaceKind} {budget : Nat} {f : Filling P}
    (h : Fills kind budget { conn := c } f) : FilledPending c f :=
  Fills.tells (fun hg htells => htells.filledPending hg) h ⟨fun _ hid => hid, List.forall_mem_nil _⟩

theorem Sends.pending {kind : SpaceKind} {frames : List Frame}
    (h : Sends c kind frames) (hready : c.hs.oneRttReady = true) {frame : Frame}
    (hframe : frame ∈ frames) (hid : frame.carries = some id) : c.Owes id := by
  cases h with
  | close kind frame' hclose =>
    obtain ⟨_, _, _, _, rfl⟩ := takeClose_isClose hclose
    rw [List.mem_singleton.mp hframe] at hid
    cases hid
  | early hnot =>
    rw [hready] at hnot
    cases hnot
  | fill kind budget f hfills =>
    refine (Fills.filledPending hfills).placed frame (List.mem_filter.mpr ⟨hframe, ?_⟩) id hid
    cases frame <;> first | rfl | cases hid

theorem Writes.pending (h : Writes c d) (hid : d.Owes id) : c.Owes id := by
  have hsame : d.sendStreams = c.sendStreams → c.Owes id := by
    rintro hstreams
    obtain ⟨s, hs, hpending⟩ := hid
    exact ⟨s, hstreams ▸ hs, hpending⟩
  cases h with
  | same hd | close new hd | early new _ hd => exact hsame (congrArg Dealings.streams hd)
  | fill kind budget f hfills hseals =>
    obtain ⟨stores, new, hd, -⟩ := hseals
    obtain ⟨s, hs, hpending⟩ := hid
    have hstreams : d.sendStreams = f.conn.sendStreams := congrArg Dealings.streams hd
    exact (Fills.filledPending hfills).pending id ⟨s, hstreams ▸ hs, hpending⟩

theorem Writing.pending (h : Writing c d) (hready : c.hs.oneRttReady = true) :
    (d.hs.oneRttReady = true ∧ ∀ id, d.Owes id → c.Owes id) ∧
      ∃ new, d.trace = new ++ c.trace ∧ ∀ e ∈ new, ∀ p, e.packet = some p →
        ∀ frame ∈ p.2.2, ∀ id, frame.carries = some id → c.Owes id := by
  induction h with
  | refl => exact ⟨⟨hready, fun _ hid => hid⟩, [], rfl, List.forall_mem_nil _⟩
  | tail _ hstep ih =>
    obtain ⟨⟨hready', hpending⟩, new, htrace, hnew⟩ := ih
    obtain ⟨new', htrace', hnew'⟩ := hstep.2.sends
    refine ⟨⟨hstep.1.trans hready', fun id hid => hpending id (hstep.2.pending hid)⟩,
      new' ++ new, by rw [htrace', htrace, List.append_assoc], fun e he p hp frame hframe id hid => ?_⟩
    rcases List.mem_append.mp he with he | he
    · exact hpending id ((hnew' e he p hp).pending hready' hframe hid)
    · exact hnew e he p hp frame hframe id hid

end Connection

/-! ## What the peer grants -/

def TransportParams.initialMaxStreams (p : TransportParams) : Direction → Nat
  | .bidirectional => p.initialMaxStreamsBidi
  | .unidirectional => p.initialMaxStreamsUni

/-- The number of streams of a direction that an event grants. -/
def Event.grantsStreams (dir : Direction) : Event P → Nat
  | .received _ (.maxStreams dir' max) => if dir' = dir then max else 0
  | _ => 0

namespace Connection

/-- The largest number of streams of a direction that the peer has granted. -/
def grantedStreams (c : Connection P) (dir : Direction) : Nat :=
  max (c.hs.peerParams.elim 0 (·.initialMaxStreams dir))
    ((c.trace.map (Event.grantsStreams dir)).foldr max 0)

theorem grantedStreams_le (dir : Direction) (htrace : c.trace <:+ d.trace)
    (hparams : c.hs.peerParams = none ∨ d.hs.peerParams = c.hs.peerParams) :
    c.grantedStreams dir ≤ d.grantedStreams dir := by
  refine max_le_max ?_ ?_
  · rcases hparams with hnone | hsame
    · rw [hnone]
      exact Nat.zero_le _
    · rw [hsame]
  obtain ⟨new, hnew⟩ := htrace
  rw [← hnew]
  clear hnew
  induction new with
  | nil => exact Nat.le_refl _
  | cons e rest ih => exact Nat.le_trans ih (Nat.le_max_right _ _)

theorem step_peerParams (c : Connection P) (op : Op) :
    c.hs.peerParams = none ∨ (c.step op).hs.peerParams = c.hs.peerParams := by
  refine (c.step_updates op).tenure
    (I := fun t => c.hs.peerParams = none ∨ t.peerParams = c.hs.peerParams) ?_ (.inr rfl)
  intro t t' ht hstep
  cases hstep with
  | finish =>
    rcases ht with hnone | hsame
    · exact .inl hnone
    cases hparams : c.hs.peerParams with
    | none => exact .inl rfl
    | some p =>
      refine .inr ?_
      show t.peerParams.or (Tenure.learned t.tls) = some p
      rw [hsame, hparams]
      rfl
  | _ => exact ht

theorem step_grantedStreams_le (c : Connection P) (op : Op) (dir : Direction) :
    c.grantedStreams dir ≤ (c.step op).grantedStreams dir :=
  grantedStreams_le dir (step_history c op).2 (step_peerParams c op)

theorem Writes.peerParams (h : Writes c d) : d.hs.peerParams = c.hs.peerParams := by
  cases h with
  | same hd | close new hd | early new _ hd => exact congrArg Dealings.peerParams hd
  | fill kind budget f hfills hseals =>
    obtain ⟨stores, new, hd, -⟩ := hseals
    exact (congrArg Dealings.peerParams hd).trans (congrArg (fun b => b.2.1) (Fills.keeps hfills).2)

theorem Writing.grantedStreams_le (h : Writing c d) (dir : Direction) :
    c.grantedStreams dir ≤ d.grantedStreams dir := by
  induction h with
  | refl => exact Nat.le_refl _
  | tail _ hstep ih =>
    obtain ⟨new, htrace, -⟩ := hstep.2.sends
    exact Nat.le_trans ih
      (Connection.grantedStreams_le dir ⟨new, htrace.symm⟩ (.inr hstep.2.peerParams))

/-! ## What is sent -/

/-- The packets that a call sends. -/
def newPackets (c : Connection P) (op : Op) : List (SocketAddr × SpaceKind × List Frame) :=
  (c.news op).filterMap Event.packet

/-- The streams of a direction that were opened before a call and that the call sends data of in
1-RTT packets. -/
def emits (c : Connection P) (op : Op) (dir : Direction) : List StreamId :=
  if (c.step op).hs.oneRttReady then
    (((c.newPackets op).filter fun p => decide (p.2.1 = .application)).flatMap fun p =>
      p.2.2.filterMap Frame.carries).filter fun id =>
        wasOpened id c.trace && decide (StreamId.direction id = dir)
  else []

/-- The streams of a direction that were opened and that a poll finds with something to send. -/
def waiting (c : Connection P) (dir : Direction) : List StreamId :=
  c.pumpWriteHs.sendStreams.keys.filter fun id =>
    (c.pumpWriteHs.sendStreams.get? id).any SendStream.hasPending &&
      (wasOpened id c.trace && decide (StreamId.direction id = dir))

theorem step_packets (c : Connection P) (op : Op) :
    (c.step op).packets = c.newPackets op ++ c.packets := by
  rw [packets, step_trace, List.filterMap_append]
  rfl

theorem emits_of_other (c : Connection P) {op : Op} (hop : ∀ now out, op ≠ .pollTransmit now out)
    (dir : Direction) : c.emits op dir = [] := by
  have hpackets := (step_packets c op).symm.trans ((step_updates c op).packets hop)
  have hnone : c.newPackets op = [] := List.append_left_eq_self.mp hpackets
  rw [emits, hnone]
  split <;> rfl

theorem Writing.oneRttReady (h : Writing c d) : d.hs.oneRttReady = c.hs.oneRttReady := by
  induction h with
  | refl => rfl
  | tail _ hstep ih => exact hstep.1.trans ih

theorem newPackets_pending (c : Connection P) (now : Time) (out : Bytes)
    (hready : c.pumpWriteHs.hs.oneRttReady = true) {p : SocketAddr × SpaceKind × List Frame}
    (hp : p ∈ c.newPackets (.pollTransmit now out)) {frame : Frame} (hframe : frame ∈ p.2.2)
    (hid : frame.carries = some id) : c.pumpWriteHs.Owes id := by
  obtain ⟨-, new, htrace, hnew⟩ := (pollTransmit_writing c now out).pending hready
  have hpackets : c.newPackets (.pollTransmit now out) = new.filterMap Event.packet := by
    have hpoll : (c.pollTransmit now out).1.packets
        = new.filterMap Event.packet ++ c.pumpWriteHs.packets := by
      rw [packets, htrace, List.filterMap_append]
      rfl
    rw [pumpWriteHs_packets] at hpoll
    exact List.append_cancel_right ((step_packets c (.pollTransmit now out)).symm.trans hpoll)
  rw [hpackets] at hp
  obtain ⟨e, he, hpacket⟩ := List.mem_filterMap.mp hp
  exact hnew e he p hpacket frame hframe id hid

theorem emits_subset_waiting (c : Connection P) (now : Time) (out : Bytes) (dir : Direction) :
    c.emits (.pollTransmit now out) dir ⊆ c.waiting dir := by
  intro id hid
  simp only [emits] at hid
  split at hid
  · rename_i hready
    have hready' : c.pumpWriteHs.hs.oneRttReady = true :=
      (pollTransmit_writing c now out).oneRttReady.symm.trans hready
    obtain ⟨hid, hlocal⟩ := List.mem_filter.mp hid
    obtain ⟨p, hp, hid⟩ := List.mem_flatMap.mp hid
    obtain ⟨frame, hframe, hid⟩ := List.mem_filterMap.mp hid
    obtain ⟨s, hs, hpending⟩ :=
      newPackets_pending c now out hready' (List.mem_filter.mp hp).1 hframe hid
    refine List.mem_filter.mpr ⟨List.mem_map.mpr ⟨(id, s), OrdMap.mem_entries_iff.mpr hs, rfl⟩, ?_⟩
    rw [hs, hlocal, Bool.and_true]
    exact hpending
  · cases hid

/-! ## Runs -/

end Connection

/-- A connection and the streams that it has sent data of in 1-RTT packets. -/
structure Sender (P : Platform) where
  conn : Connection P
  emitted : Direction → List StreamId

namespace Sender

def start (c : Connection P) : Sender P := ⟨c, fun _ => []⟩

def step (s : Sender P) (op : Op) : Sender P :=
  ⟨s.conn.step op, fun dir => s.conn.emits op dir ++ s.emitted dir⟩

/-- No more streams were sent than the peer has granted. -/
def Granted (s : Sender P) : Prop :=
  ∀ dir, (s.emitted dir).dedup.length ≤ s.conn.grantedStreams dir

/-- A poll under 1-RTT keys finds the streams that were sent, with those that have something to
send, within what the peer has granted. -/
def Covered (s : Sender P) (op : Op) : Prop :=
  ∀ now out, op = .pollTransmit now out → s.conn.pumpWriteHs.hs.oneRttReady = true → ∀ dir,
    (s.conn.waiting dir ++ s.emitted dir).dedup.length ≤ s.conn.pumpWriteHs.grantedStreams dir

theorem step_granted {s : Sender P} (h : s.Granted) {op : Op} (hcovered : s.Covered op) :
    (s.step op).Granted := by
  intro dir
  have hquiet : s.conn.emits op dir = [] →
      ((s.step op).emitted dir).dedup.length ≤ (s.step op).conn.grantedStreams dir := by
    intro hnone
    show (s.conn.emits op dir ++ s.emitted dir).dedup.length ≤ _
    rw [hnone, List.nil_append]
    exact Nat.le_trans (h dir) (Connection.step_grantedStreams_le s.conn op dir)
  by_cases hpoll : ∃ now out, op = .pollTransmit now out
  · obtain ⟨now, out, rfl⟩ := hpoll
    have hwriting := Connection.pollTransmit_writing s.conn now out
    cases hready : s.conn.pumpWriteHs.hs.oneRttReady with
    | false =>
      refine hquiet (if_neg ?_)
      rw [show (s.conn.step (.pollTransmit now out)).hs.oneRttReady = false from
        hwriting.oneRttReady.trans hready]
      exact Bool.false_ne_true
    | true =>
      have hsubset : s.conn.emits (.pollTransmit now out) dir ++ s.emitted dir
          ⊆ s.conn.waiting dir ++ s.emitted dir := List.append_subset.mpr
          ⟨List.Subset.trans (Connection.emits_subset_waiting s.conn now out dir)
            (List.subset_append_left _ _), List.subset_append_right _ _⟩
      have hdedup := List.subperm_of_subset
        (List.nodup_dedup (s.conn.emits (.pollTransmit now out) dir ++ s.emitted dir))
        fun id hid => List.mem_dedup.mpr (hsubset (List.mem_dedup.mp hid))
      calc ((s.step (.pollTransmit now out)).emitted dir).dedup.length
          ≤ (s.conn.waiting dir ++ s.emitted dir).dedup.length := hdedup.length_le
        _ ≤ s.conn.pumpWriteHs.grantedStreams dir := hcovered now out rfl hready dir
        _ ≤ (s.step (.pollTransmit now out)).conn.grantedStreams dir :=
          hwriting.grantedStreams_le dir
  · exact hquiet (Connection.emits_of_other s.conn (fun now out hop => hpoll ⟨now, out, hop⟩) dir)

end Sender

/-- In a run in which every poll under 1-RTT keys finds the streams that were sent or have something
to send within what the peer has granted, no more streams are ever sent than were granted. -/
theorem opened_streams_granted (c : Connection P) (ops : List Op)
    (h : Along Sender.step Sender.Covered (Sender.start c) ops) :
    (Sender.start c).Granted ∧
      Along Sender.step (fun s op => (s.step op).Granted) (Sender.start c) ops := by
  have hstart : (Sender.start c).Granted := fun dir => Nat.zero_le _
  exact ⟨hstart, Along.imp_of_invariant (fun _ _ hs hop => Sender.step_granted hs hop)
    (fun _ _ hs hop => Sender.step_granted hs hop) hstart h⟩

namespace Plain

/-- Parameters of a server that takes data, and lets the client open no stream or one. -/
def params (streams : List UInt8) : Bytes := [4, 1, 63, 6, 1, 63] ++ streams

/-- A client connects, opens a stream and sends a byte on it. -/
def opensOne (c : Connection Plain) : List Op :=
  joins c ++ [.pollTransmit 2 [], .openBidi, .sendStream 0 [9] false, .pollTransmit 3 []]

/-- A client opens two streams before it connects, and sends a byte on each of them. -/
def opensTwo (c : Connection Plain) : List Op :=
  [.openBidi, .openBidi] ++ joins c ++ [.sendStream 0 [9] false, .sendStream 4 [9] false,
    .pollTransmit 2 [], .pollTransmit 3 []]

end Plain

/-- A client that may open one stream opens it, and sends data on it. -/
theorem opened_streams_granted_one :
    Along Sender.step (fun s op => (s.step op).Granted) (.start (client (params [8, 1, 1])))
      (opensOne (client (params [8, 1, 1]))) := by
  refine (opened_streams_granted _ _ ?_).2
  refine And.intro ?_ (And.intro ?_ (And.intro ?_ (And.intro ?_ (And.intro ?_
    (And.intro ?_ trivial)))))
  · exact fun _ _ _ hready => absurd hready (by decide +kernel)
  · exact fun _ _ hop => (by cases hop)
  · rintro _ _ _ _ (_ | _) <;> decide +kernel
  · exact fun _ _ hop => (by cases hop)
  · exact fun _ _ hop => (by cases hop)
  · rintro _ _ _ _ (_ | _) <;> decide +kernel

/-- A client that may open no stream sends data on one, and a client that may open one stream sends
data on two that it has opened before it knew the limit. -/
theorem opened_streams_not_granted :
    (((run Sender.step (.start (client (params [])))
        (opensOne (client (params [])))).emitted .bidirectional).dedup.length = 1 ∧
      (run Sender.step (.start (client (params [])))
        (opensOne (client (params [])))).conn.grantedStreams .bidirectional = 0) ∧
    ((run Sender.step (.start (client (params [8, 1, 1])))
        (opensTwo (client (params [8, 1, 1])))).emitted .bidirectional).dedup.length = 2 ∧
      (run Sender.step (.start (client (params [8, 1, 1])))
        (opensTwo (client (params [8, 1, 1])))).conn.grantedStreams .bidirectional = 1 := by
  decide +kernel

end OxiQuic
