import OxiQuic.Core
import OxiQuic.Lib.OrdMap

/-!
# Sent packets

The record of packets in flight of one packet-number space
(`oxiquic-transport/src/sent_packet.rs`): which retransmittable frames each packet
carried, and what acknowledgement and loss detection take out of the record.

`SentPackets.onAck` and `SentPackets.detectLost` both only remove records and return what
they removed.  `SentPackets.Takes` says this once, and the lemmas `onAck_takes` and
`detectLost_takes` are all the rest of the development needs to know of them.
-/

namespace OxiQuic

open Lib

/-- Delivery state at the time a packet was sent, kept with it for rate estimation
(`bbr.rs`). -/
structure RateSample where
  delivered : Nat
  deliveredTime : Time
  firstSentTime : Time
  isAppLimited : Bool
  sentTime : Time
  size : Nat
  deriving DecidableEq, Repr

/-- The sample for a packet that has none. -/
def RateSample.sentinel (sentTime : Time) (size : Nat) : RateSample :=
  { delivered := 0, deliveredTime := sentTime, firstSentTime := sentTime, isAppLimited := false
    sentTime := sentTime, size := size }

/-- The frames of a packet that loss detection knows of. -/
inductive SentFrame where
  | crypto (offset : Nat) (data : Bytes)
  | stream (id offset : Nat) (fin : Bool) (data : Bytes)
  | ping
  /-- A path MTU probe of the given size. -/
  | mtuProbe (size : Nat)
  | newConnectionId (seq retirePriorTo : Nat) (cid : ConnectionId) (statelessResetToken : Bytes)
  | retireConnectionId (seq : Nat)
  | maxStreams (dir : Direction) (max : Nat)
  | streamsBlocked (dir : Direction) (limit : Nat)
  | newToken (token : Bytes)
  deriving DecidableEq, Repr

/-- Whether a frame is a path MTU probe. -/
def SentFrame.isMtuProbe : SentFrame → Bool
  | .mtuProbe _ => true
  | _ => false

/-- A packet that was sent and is neither acknowledged nor lost. -/
structure SentPacket where
  packetNumber : Nat
  timeSent : Time
  ackEliciting : Bool
  /-- Whether its bytes count against the congestion window. -/
  inFlight : Bool
  sentBytes : Nat
  frames : List SentFrame
  rateSample : Option RateSample
  deriving DecidableEq, Repr

/-- What a packet weighs in the congestion window. -/
def SentPacket.weight (p : SentPacket) : Nat := if p.inFlight then p.sentBytes else 0

/-- The packets of one space. -/
structure SentPackets where
  sent : OrdMap Nat SentPacket := ∅
  largestAcked : Option Nat := none
  deriving DecidableEq

/-- What an `ACK` frame newly acknowledged. -/
structure AckOutcome where
  newlyAcked : List SentPacket
  ackedAckEliciting : Bool
  largestNewlyAcked : Option Nat

/-- The largest of a list of numbers. -/
def largestOf (l : List Nat) : Option Nat :=
  l.foldl (fun best n => some (match best with
    | some prev => max prev n
    | none => n)) none

/-- The smallest of a list of instants. -/
def earliestOf (l : List Time) : Option Time :=
  l.foldl (fun best t => some (match best with
    | some prev => min prev t
    | none => t)) none

/-- The inclusive ranges below `smallest` that gap and length pairs describe.  A gap that
reaches below zero ends the walk. -/
def ackRangesFrom (smallest : Nat) : List (Nat × Nat) → List (Nat × Nat)
  | [] => []
  | (gap, range) :: rest =>
    if smallest < gap + 2 then []
    else
      let nextLargest := smallest - (gap + 2)
      (nextLargest - range, nextLargest) :: ackRangesFrom (nextLargest - range) rest

/-- The inclusive ranges of packet numbers an `ACK` frame acknowledges. -/
def ackRanges (largest firstRange : Nat) (ranges : List (Nat × Nat)) : List (Nat × Nat) :=
  (largest - firstRange, largest) :: ackRangesFrom (largest - firstRange) ranges

/-- Whether an `ACK` frame acknowledges a packet number. -/
def AckCovers (largest firstRange : Nat) (ranges : List (Nat × Nat)) (pn : Nat) : Prop :=
  ∃ r ∈ ackRanges largest firstRange ranges, r.1 ≤ pn ∧ pn ≤ r.2

namespace SentPackets

def onPacketSent (s : SentPackets) (packet : SentPacket) : SentPackets :=
  { s with sent := s.sent.insert packet.packetNumber packet }

/-- Take the packets of each range out of the record. -/
def takeRanges (sent : OrdMap Nat SentPacket) :
    List (Nat × Nat) → OrdMap Nat SentPacket × List (Nat × SentPacket)
  | [] => (sent, [])
  | (low, high) :: rest =>
    let acked := sent.removeAll (sent.keysIn low high)
    let more := takeRanges acked.1 rest
    (more.1, acked.2 ++ more.2)

def onAck (s : SentPackets) (largest firstRange : Nat) (ranges : List (Nat × Nat)) :
    SentPackets × AckOutcome :=
  let taken := takeRanges s.sent (ackRanges largest firstRange ranges)
  let acked := taken.2
  ({ sent := taken.1
     largestAcked := some (match s.largestAcked with
       | some prev => max prev largest
       | none => largest) },
    { newlyAcked := acked.map (·.2)
      ackedAckEliciting := acked.any (·.2.ackEliciting)
      largestNewlyAcked := largestOf (acked.map (·.1)) })

/-- How many later packets must be acknowledged before a packet is lost. -/
def packetThreshold : Nat := 3

/-- Whether the packet `pn` is lost, by packet number or by time.  No packet is lost by
time before the clock has run for the loss delay. -/
def isLost (largestAcked : Nat) (now lossDelay : Time) (pn : Nat) (packet : SentPacket) : Bool :=
  decide (pn + packetThreshold ≤ largestAcked) ||
    (decide (lossDelay ≤ now) && decide (packet.timeSent ≤ now - lossDelay))

/-- Take the lost packets out of the record.  The second result is when the next one is
due. -/
def detectLost (s : SentPackets) (now lossDelay : Time) :
    SentPackets × List SentPacket × Option Time :=
  match s.largestAcked with
  | none => (s, [], none)
  | some largestAcked =>
    let candidates := s.sent.entries.filter (fun e => decide (e.1 ≤ largestAcked))
    let gone := candidates.filter (fun e => isLost largestAcked now lossDelay e.1 e.2)
    let kept := candidates.filter (fun e => !isLost largestAcked now lossDelay e.1 e.2)
    let removed := s.sent.removeAll (gone.map (·.1))
    ({ s with sent := removed.1 }, removed.2.map (·.2),
      earliestOf (kept.map (·.2.timeSent + lossDelay)))

def earliestAckElicitingTime (s : SentPackets) : Option Time :=
  earliestOf ((s.sent.values.filter (·.ackEliciting)).map (·.timeSent))

/-- The frames of the oldest ack-eliciting packet that has any. -/
def oldestAckElicitingFrames (s : SentPackets) : Option (List SentFrame) :=
  (s.sent.values.find? (fun p => p.ackEliciting && !p.frames.isEmpty)).map (·.frames)

/-! ## What leaves the record -/

end SentPackets

theorem foldl_some {α : Type} {g : Option α → α → α} {f : α → α → α}
    (h : ∀ a n, g (some a) n = f a n) (l : List α) (a : α) :
    l.foldl (fun best n => some (g best n)) (some a) = some (l.foldl f a) := by
  induction l generalizing a with
  | nil => rfl
  | cons n l ih =>
    rw [List.foldl_cons, h, ih]
    rfl

theorem earliestOf_eq_min? (l : List Time) : earliestOf l = l.min? := by
  cases l with
  | nil => rfl
  | cons t l => exact foldl_some (fun _ _ => rfl) l t

theorem largestOf_eq_max? (l : List Nat) : largestOf l = l.max? := by
  cases l with
  | nil => rfl
  | cons n l => exact foldl_some (fun _ _ => rfl) l n

theorem earliestOf_isSome_iff (times : List Time) :
    (earliestOf times).isSome = true ↔ times ≠ [] := by
  rw [earliestOf_eq_min?, Option.isSome_iff_ne_none, ne_eq, List.min?_eq_none_iff]

/-- `m'` is `m` without the entries that meet `gone`, which are listed in `out`. -/
structure Removes (m m' : OrdMap Nat SentPacket) (gone : Nat → SentPacket → Prop)
    (out : List (Nat × SentPacket)) : Prop where
  mem : ∀ {pn p}, (pn, p) ∈ out ↔ m.get? pn = some p ∧ gone pn p
  perm : m.entries.Perm (out ++ m'.entries)

section

variable {m m' m'' : OrdMap Nat SentPacket} {gone gone' : Nat → SentPacket → Prop}
  {out out' : List (Nat × SentPacket)}

theorem Removes.keys_nodup (h : Removes m m' gone out) :
    (out.map (·.1) ++ m'.entries.map (·.1)).Nodup := by
  rw [← List.map_append]
  exact (h.perm.map _).nodup_iff.mp m.keys_nodup

/-- No packet is removed twice. -/
theorem Removes.once (h : Removes m m' gone out) : (out.map (·.1)).Nodup :=
  (List.nodup_append.mp h.keys_nodup).1

theorem Removes.left (h : Removes m m' gone out) {pn : Nat} {p : SentPacket} :
    m'.get? pn = some p ↔ m.get? pn = some p ∧ ¬ gone pn p := by
  have hmem : (pn, p) ∈ m.entries ↔ (pn, p) ∈ out ∨ (pn, p) ∈ m'.entries := by
    rw [h.perm.mem_iff, List.mem_append]
  -- what is left is not among what was removed, since no key occurs twice
  have hnot : (pn, p) ∈ m'.entries → (pn, p) ∉ out := by
    intro hleft hout
    exact (List.nodup_append.mp h.keys_nodup).2.2 _ (List.mem_map_of_mem hout) _
      (List.mem_map_of_mem hleft) rfl
  rw [← OrdMap.mem_entries_iff, ← OrdMap.mem_entries_iff, hmem]
  constructor
  · exact fun hleft => ⟨.inr hleft, fun hgone => hnot hleft
      (h.mem.mpr ⟨OrdMap.mem_entries_iff.mp (hmem.mpr (.inr hleft)), hgone⟩)⟩
  rintro ⟨hout | hleft, hkept⟩
  · exact absurd (h.mem.mp hout).2 hkept
  · exact hleft

theorem removes_removeAll (m : OrdMap Nat SentPacket) {ks : List Nat}
    (h : ∀ {pn p}, m.get? pn = some p → (pn ∈ ks ↔ gone pn p)) :
    Removes m (m.removeAll ks).1 gone (m.removeAll ks).2 where
  mem := OrdMap.mem_removeAll.trans (and_comm.trans (and_congr_right_iff.mpr fun hget => h hget))
  perm := m.removeAll_entries_perm ks

theorem Removes.trans (h : Removes m m' gone out) (h' : Removes m' m'' gone' out') :
    Removes m m'' (fun pn p => gone pn p ∨ gone' pn p) (out ++ out') where
  mem {pn p} := by
    rw [List.mem_append, h.mem, h'.mem, h.left]
    tauto
  perm := by
    have := h.perm.trans (h'.perm.append_left out)
    rwa [← List.append_assoc] at this

end

namespace SentPackets

theorem removes_takeRanges (sent : OrdMap Nat SentPacket) (ranges : List (Nat × Nat)) :
    Removes sent (takeRanges sent ranges).1 (fun pn _ => ∃ r ∈ ranges, r.1 ≤ pn ∧ pn ≤ r.2)
      (takeRanges sent ranges).2 := by
  induction ranges generalizing sent with
  | nil => exact ⟨by simp [takeRanges], .refl _⟩
  | cons r rest ih =>
    have hfirst : Removes sent (sent.removeAll (sent.keysIn r.1 r.2)).1
        (fun pn _ => r.1 ≤ pn ∧ pn ≤ r.2) (sent.removeAll (sent.keysIn r.1 r.2)).2 :=
      removes_removeAll sent fun hget => ⟨OrdMap.bounds_of_mem_keysIn,
        OrdMap.mem_keysIn_of_get? hget⟩
    have hall := hfirst.trans (ih _)
    simp only [List.exists_mem_cons_iff]
    exact hall

/-- The packet is behind the largest acknowledged one by the threshold, or was sent the loss
delay ago. -/
def Overdue (s : SentPackets) (now lossDelay : Time) (pn : Nat) (p : SentPacket) : Prop :=
  ∃ acked ∈ s.largestAcked, pn ≤ acked ∧ (pn + 3 ≤ acked ∨ p.timeSent + lossDelay ≤ now)

theorem isLost_iff {acked pn : Nat} {now lossDelay : Time} {p : SentPacket} :
    isLost acked now lossDelay pn p = true ↔ pn + 3 ≤ acked ∨ p.timeSent + lossDelay ≤ now := by
  unfold isLost packetThreshold
  simp only [Bool.or_eq_true, Bool.and_eq_true, decide_eq_true_eq]
  refine or_congr_right ⟨fun h => (Nat.le_sub_iff_add_le h.1).mp h.2, fun h => ?_⟩
  have hdelay : lossDelay ≤ now := Nat.le_trans (Nat.le_add_left ..) h
  exact ⟨hdelay, (Nat.le_sub_iff_add_le hdelay).mpr h⟩

variable (s : SentPackets)

theorem removes_detectLost (now lossDelay : Time) :
    ∃ out, (s.detectLost now lossDelay).2.1 = out.map (·.2) ∧
      Removes s.sent (s.detectLost now lossDelay).1.sent (s.Overdue now lossDelay) out := by
  cases hacked : s.largestAcked with
  | none =>
    rw [detectLost, hacked]
    exact ⟨[], rfl, by simp [Overdue, hacked], .refl _⟩
  | some acked =>
    rw [detectLost, hacked]
    refine ⟨_, rfl, removes_removeAll s.sent fun {pn p} hget => ?_⟩
    simp only [Overdue, hacked, Option.mem_some_iff, exists_eq_left', List.mem_map, List.mem_filter,
      isLost_iff, decide_eq_true_eq]
    constructor
    · rintro ⟨⟨pn', p'⟩, ⟨⟨hmem, hle⟩, hlost⟩, rfl⟩
      cases hget.symm.trans (OrdMap.mem_entries_iff.mp hmem)
      exact ⟨hle, hlost⟩
    · exact fun h => ⟨(pn, p), ⟨⟨OrdMap.mem_entries_iff.mpr hget, h.1⟩, h.2⟩, rfl⟩

/-- `s'` is `s` without the packets in `out`. -/
structure Takes (s s' : SentPackets) (out : List SentPacket) : Prop where
  /-- What is left was there before. -/
  left : ∀ {pn p}, s'.sent.get? pn = some p → s.sent.get? pn = some p
  /-- What was there is left or taken. -/
  split : ∀ {pn p}, s.sent.get? pn = some p → s'.sent.get? pn = some p ∨ p ∈ out
  /-- What is taken was there. -/
  taken : ∀ {p}, p ∈ out → ∃ pn, s.sent.get? pn = some p
  /-- No weight appears or disappears. -/
  weight : ∀ f, s.sent.sumOf f = (out.map f).sum + s'.sent.sumOf f

theorem takes_of_removes {s : SentPackets} {m : OrdMap Nat SentPacket}
    {gone : Nat → SentPacket → Prop} {out : List (Nat × SentPacket)}
    (h : Removes s.sent m gone out) (largest : Option Nat) :
    s.Takes { sent := m, largestAcked := largest } (out.map (·.2)) where
  left hp := (h.left.mp hp).1
  split {pn p} hp := by
    by_cases hgone : gone pn p
    · exact .inr (List.mem_map_of_mem (h.mem.mpr ⟨hp, hgone⟩))
    · exact .inl (h.left.mpr ⟨hp, hgone⟩)
  taken hp := by
    obtain ⟨e, he, rfl⟩ := List.mem_map.mp hp
    exact ⟨e.1, (h.mem.mp he).1⟩
  weight f := by
    have hp := (h.perm.map (·.2)).map f
    simpa [OrdMap.sumOf, OrdMap.values] using hp.sum_nat

theorem onAck_takes (largest firstRange : Nat) (ranges : List (Nat × Nat)) :
    s.Takes (s.onAck largest firstRange ranges).1 (s.onAck largest firstRange ranges).2.newlyAcked :=
  takes_of_removes (removes_takeRanges ..) _

theorem onAck_covers {s : SentPackets} {largest firstRange : Nat} {ranges : List (Nat × Nat)}
    {p : SentPacket} (h : p ∈ (s.onAck largest firstRange ranges).2.newlyAcked) :
    ∃ pn, s.sent.get? pn = some p ∧ AckCovers largest firstRange ranges pn := by
  obtain ⟨e, he, rfl⟩ := List.mem_map.mp h
  exact ⟨e.1, (removes_takeRanges ..).mem.mp he⟩

theorem detectLost_largestAcked (now lossDelay : Time) :
    (s.detectLost now lossDelay).1.largestAcked = s.largestAcked := by
  unfold detectLost
  split <;> rfl

theorem detectLost_takes (now lossDelay : Time) :
    s.Takes (s.detectLost now lossDelay).1 (s.detectLost now lossDelay).2.1 := by
  obtain ⟨out, hout, hremoves⟩ := s.removes_detectLost now lossDelay
  rw [hout]
  exact takes_of_removes hremoves _

end SentPackets

end OxiQuic
