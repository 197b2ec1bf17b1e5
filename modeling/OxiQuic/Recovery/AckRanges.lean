import OxiQuic.Lib.RangeSet
import OxiQuic.PlainPlatform
import OxiQuic.Wire.RoundTrip

/-!
# From received packet numbers to removed packets

One side records the packet numbers it receives as ranges, writes them as an `ACK` frame,
and the other side decodes the frame and takes the acknowledged packets out of its record.

* The ranges are the normal form of the set of numbers received (`insert_separated`,
  `covers_insert`).  `insertScan` is the loop of the source over indices, and
  `insertScan_eq` says that the recursive `insert` computes the same.
* The gap and length pairs of the frame expand to the same ranges (`ackRanges_toAckFrame`).
* What is taken out of a record is what the ranges cover, each packet once
  (`onAck_exact`).

`ack_pipeline_exact` puts the three together.
-/

namespace OxiQuic

open Lib

/-! ## Recording a number -/

namespace ReceivedPackets

/-- Merge the range at `i` into the one before it if they touch. -/
def maybeMergePrev (ranges : ReceivedPackets) (i : Nat) : ReceivedPackets :=
  if i = 0 then ranges
  else
    match ranges[i - 1]?, ranges[i]? with
    | some prev, some cur =>
      if prev.2 + 1 ≥ cur.1 then (ranges.set (i - 1) (prev.1, max prev.2 cur.2)).eraseIdx i
      else ranges
    | _, _ => ranges

/-- Merge the range after `i` into the one at `i` if they touch. -/
def maybeMergeNext (ranges : ReceivedPackets) (i : Nat) : ReceivedPackets :=
  if i + 1 ≥ ranges.length then ranges
  else
    match ranges[i]?, ranges[i + 1]? with
    | some cur, some next =>
      if cur.2 + 1 ≥ next.1 then (ranges.set i (cur.1, max cur.2 next.2)).eraseIdx (i + 1)
      else ranges
    | _, _ => ranges

/-- The loop that records a number, from index `i` on with `n` ranges to look at. -/
def insertScan (pn : Nat) (ranges : ReceivedPackets) : (n i : Nat) → ReceivedPackets
  | 0, _ => ranges ++ [(pn, pn)]
  | n + 1, i =>
    match ranges[i]? with
    | none => ranges ++ [(pn, pn)]
    | some (low, high) =>
      if low ≤ pn ∧ pn ≤ high then ranges
      else if pn + 1 = low then maybeMergePrev (ranges.set i (pn, high)) i
      else if pn = high + 1 then maybeMergeNext (ranges.set i (low, pn)) i
      else if pn < low then ranges.insertIdx i (pn, pn)
      else insertScan pn ranges n (i + 1)

theorem getElem?_passed (r : Nat × Nat) (passed rest : ReceivedPackets) :
    (passed ++ r :: rest)[passed.length]? = some r := by simp

theorem maybeMergePrev_passed {pn high : Nat} {passed rest : ReceivedPackets}
    (h : ∀ r ∈ passed, r.2 + 1 < pn) :
    maybeMergePrev (passed ++ (pn, high) :: rest) passed.length = passed ++ (pn, high) :: rest := by
  unfold maybeMergePrev
  split
  · rfl
  rename_i hpos
  have hlast : passed.length - 1 < passed.length := by omega
  have hprev : (passed ++ (pn, high) :: rest)[passed.length - 1]? =
      some (passed.get ⟨_, hlast⟩) := by
    rw [List.getElem?_append_left hlast, List.getElem?_eq_getElem hlast]
    rfl
  have hfar := h _ (List.get_mem passed ⟨_, hlast⟩)
  simp only [hprev, getElem?_passed]
  rw [if_neg (by omega)]

theorem maybeMergeNext_passed (low pn : Nat) (passed rest : ReceivedPackets) :
    maybeMergeNext (passed ++ (low, pn) :: rest) passed.length =
      passed ++ (match rest with
        | (low', high') :: rest' =>
          if pn + 1 ≥ low' then (low, max pn high') :: rest' else (low, pn) :: rest
        | [] => [(low, pn)]) := by
  unfold maybeMergeNext
  cases rest with
  | nil => simp
  | cons next rest' =>
    have hnext : (passed ++ (low, pn) :: next :: rest')[passed.length + 1]? = some next := by
      rw [List.getElem?_append_right (by omega)]
      simp
    rw [if_neg (by simp)]
    simp only [getElem?_passed, hnext]
    split
    · rw [List.set_append_right _ _ (Nat.le_refl _), Nat.sub_self,
        List.eraseIdx_append_of_length_le (by omega)]
      simp
    · rfl

theorem insertIdx_passed (r : Nat × Nat) :
    ∀ passed rest :
    ReceivedPackets, (passed ++ rest).insertIdx passed.length r = passed ++ r :: rest
  | [], _ => rfl
  | _ :: passed, rest => congrArg (_ :: ·) (insertIdx_passed r passed rest)

theorem insertScan_passed (pn : Nat) :
    ∀ passed rest : ReceivedPackets, (∀ r ∈ passed, r.2 + 1 < pn) →
      insertScan pn (passed ++ rest) rest.length passed.length = passed ++ insert pn rest
  | passed, [], _ => by simp [insertScan, insert]
  | passed, (low, high) :: rest, h => by
      have hset : ∀ r, (passed ++ (low, high) :: rest).set passed.length r = passed ++ r :: rest := by
        intro r
        rw [List.set_append_right _ _ (Nat.le_refl _), Nat.sub_self, List.set_cons_zero]
      rw [List.length_cons, insertScan, insert.eq_def]
      simp only [getElem?_passed, hset]
      split
      · rfl
      split
      · exact maybeMergePrev_passed h
      split
      · exact maybeMergeNext_passed low pn passed rest
      split
      · exact insertIdx_passed _ passed _
      -- the range lies below the number and does not touch it, so it is passed as well
      have hpassed : ∀ r ∈ passed ++ [(low, high)], r.2 + 1 < pn := by
        intro r hr
        rcases List.mem_append.mp hr with hr | hr
        · exact h r hr
        rw [List.mem_singleton.mp hr]
        show high + 1 < pn
        omega
      have hmore := insertScan_passed pn (passed ++ [(low, high)]) rest hpassed
      simpa using hmore

theorem insertScan_eq (pn : Nat) (ranges : ReceivedPackets) :
    insertScan pn ranges ranges.length 0 = insert pn ranges :=
  insertScan_passed pn [] ranges (by simp)

theorem covers_insert {pn n : Nat} :
    ∀ {ranges : ReceivedPackets}, Separated ranges →
      (Covers (insert pn ranges) n ↔ n = pn ∨ Covers ranges n)
  | [], _ => by
      simp only [insert, covers_cons, covers_nil, or_false]
      omega
  | (low, high) :: rest, h => by
      obtain ⟨hle, hgap, hrest⟩ := separated_cons.mp h
      rw [insert.eq_def]
      simp only []
      split
      · simp only [covers_cons]
        grind
      split
      · simp only [covers_cons]
        grind
      split
      · cases rest with
        | nil =>
          simp only [covers_cons, covers_nil, or_false]
          omega
        | cons next rest' =>
          have hnext := hgap next List.mem_cons_self
          have hle' := hrest.head_le
          simp only []
          split
          · -- the number fills the gap between the two ranges
            simp only [covers_cons]
            grind
          · simp only [covers_cons]
            grind
      split
      · simp only [covers_cons]
        grind
      · rw [covers_cons, covers_cons, covers_insert hrest]
        tauto

theorem insert_separated {pn : Nat} :
    ∀ {ranges : ReceivedPackets}, Separated ranges → Separated (insert pn ranges)
  | [], _ => by simp [insert, separated_cons, separated_nil]
  | (low, high) :: rest, h => by
      obtain ⟨hle, hgap, hrest⟩ := separated_cons.mp h
      rw [insert.eq_def]
      simp only []
      split
      · exact h
      split
      · exact separated_cons.mpr ⟨by simp only; omega, hgap, hrest⟩
      split
      · cases rest with
        | nil => exact separated_cons.mpr ⟨by simp only; omega, by simp, separated_nil⟩
        | cons next rest' =>
          obtain ⟨hle', hgap', hrest'⟩ := separated_cons.mp hrest
          have hnext := hgap next List.mem_cons_self
          simp only []
          split
          · refine separated_cons.mpr ⟨by simp only; omega, fun r hr => ?_, hrest'⟩
            have := hgap' r hr
            simp only
            omega
          refine separated_cons.mpr ⟨by simp only; omega, fun r hr => ?_, hrest⟩
          rcases List.mem_cons.mp hr with rfl | hr
          · simp only
            omega
          have := hgap' r hr
          simp only
          omega
      split
      · refine separated_cons.mpr ⟨Nat.le_refl _, fun r hr => ?_, h⟩
        rcases List.mem_cons.mp hr with rfl | hr
        · simp only
          omega
        have := hgap r hr
        simp only at this ⊢
        omega
      · have hins : Separated (insert pn rest) := insert_separated hrest
        refine separated_cons.mpr ⟨hle, fun r hr => ?_, hins⟩
        -- the start of a range is in the set, so it is the new number or was there before
        have hstart : Covers (insert pn rest) r.1 := ⟨r, hr, Nat.le_refl _, hins.nonempty r hr⟩
        rcases (covers_insert hrest).mp hstart with heq | hcov
        · simp only
          omega
        · exact h.lt_of_covers hcov

/-! ## The frame -/

/-- The subtractions that give the gap and length pairs below a range that starts at
`prevLow` do not underflow. -/
def BelowFits (prevLow : Nat) : List (Nat × Nat) → Prop
  | [] => True
  | (low, high) :: rest => high + 2 ≤ prevLow ∧ low ≤ high ∧ BelowFits low rest

/-- No subtraction of `toAckFrame` underflows. -/
def AckFits (ranges : ReceivedPackets) : Prop :=
  match ranges.reverse with
  | [] => True
  | (low, high) :: rest => low ≤ high ∧ BelowFits low rest

theorem belowFits_of_apart :
    ∀ {prevLow : Nat} {ranges : List (Nat × Nat)}, (∀ r ∈ ranges, r.1 ≤ r.2) →
      (∀ r ∈ ranges, r.2 + 1 < prevLow) → ranges.Pairwise (fun r r' => r'.2 + 1 < r.1) →
        BelowFits prevLow ranges
  | _, [], _, _, _ => trivial
  | _, r :: rest, hnonempty, hbelow, hapart => by
      obtain ⟨hgap, hrest⟩ := List.pairwise_cons.mp hapart
      exact ⟨hbelow r List.mem_cons_self, hnonempty r List.mem_cons_self,
        belowFits_of_apart (fun r' hr' => hnonempty r' (List.mem_cons_of_mem _ hr')) hgap hrest⟩

theorem ackFits_of_separated {ranges : ReceivedPackets} (h : Separated ranges) :
    ranges.AckFits := by
  have hnonempty : ∀ r ∈ ranges.reverse, r.1 ≤ r.2 :=
    fun r hr => h.nonempty r (List.mem_reverse.mp hr)
  have hapart := List.pairwise_reverse.mpr h.apart
  unfold AckFits
  cases hrev : ranges.reverse with
  | nil => trivial
  | cons r rest =>
    rw [hrev] at hnonempty hapart
    obtain ⟨hgap, hrest⟩ := List.pairwise_cons.mp hapart
    exact ⟨hnonempty r List.mem_cons_self,
      belowFits_of_apart (fun r' hr' => hnonempty r' (List.mem_cons_of_mem _ hr')) hgap hrest⟩

theorem ackRangesFrom_ackRangesBelow :
    ∀ {prevLow : Nat} {ranges : List (Nat × Nat)}, BelowFits prevLow ranges →
      ackRangesFrom prevLow ((ackRangesBelow prevLow ranges).map fun r => (r.gap, r.range)) = ranges
  | _, [], _ => rfl
  | prevLow, (low, high) :: rest, ⟨hgap, hle, hrest⟩ => by
      have hhigh : prevLow - (prevLow - high - 2 + 2) = high := by omega
      have hlow : high - (high - low) = low := by omega
      simp only [ackRangesBelow, List.map_cons, ackRangesFrom]
      rw [if_neg (by omega), hhigh, hlow, ackRangesFrom_ackRangesBelow hrest]

theorem ackRangesBelow_le :
    ∀ {prevLow : Nat} {ranges : List (Nat × Nat)}, BelowFits prevLow ranges →
      ∀ r ∈ ackRangesBelow prevLow ranges, r.gap ≤ prevLow ∧ r.range ≤ prevLow
  | prevLow, (low, high) :: rest, ⟨hgap, hle, hrest⟩, r, hr => by
      rcases List.mem_cons.mp hr with rfl | hr
      · exact ⟨by simp only; omega, by simp only; omega⟩
      · have := ackRangesBelow_le hrest r hr
        omega

@[simp] theorem ackRangesBelow_length :
    ∀ (prevLow : Nat) (ranges : List (Nat × Nat)),
      (ackRangesBelow prevLow ranges).length = ranges.length
  | _, [] => rfl
  | _, (low, _) :: rest => congrArg (· + 1) (ackRangesBelow_length low rest)

/-- The frame for a normal form decodes to a frame that acknowledges the same numbers. -/
theorem decodeFrame_toAckFrame {ranges : ReceivedPackets} (h : Separated ranges)
    (hbound : ∀ r ∈ ranges, r.2 ≤ varintMax) {delay : Nat} {frame : Frame}
    (hframe : ranges.toAckFrame delay = some frame) (rest : Bytes) :
    ∃ largest firstRange pairs, decodeFrame (frame.encode ++ rest) =
        .ok (.ack largest (min delay varintMax) firstRange pairs, rest) ∧
      ackRanges largest firstRange (pairs.map fun r => (r.gap, r.range)) = ranges.reverse := by
  have hfits := ackFits_of_separated h
  have hcount := h.two_mul_length_le (fun r hr => Nat.lt_succ_of_le (hbound r hr))
  have hlen : ranges.reverse.length = ranges.length := List.length_reverse
  unfold toAckFrame at hframe
  unfold AckFits at hfits
  cases hrev : ranges.reverse with
  | nil =>
    rw [hrev] at hframe
    cases hframe
  | cons r below =>
    obtain ⟨low, high⟩ := r
    rw [hrev] at hframe hfits hlen
    obtain ⟨hle, hbelow⟩ := hfits
    cases hframe
    have hhigh : high ≤ varintMax := by
      have hmem : (low, high) ∈ ranges.reverse := hrev ▸ List.mem_cons_self
      exact hbound _ (List.mem_reverse.mp hmem)
    have hmax : varintMax = 2 ^ 62 - 1 := rfl
    refine ⟨high, high - low, ackRangesBelow low below, ?_, ?_⟩
    · apply decodeFrame_ack delay hhigh (by omega)
      · rw [ackRangesBelow_length]
        rw [List.length_cons] at hlen
        omega
      intro r hr
      have := ackRangesBelow_le hbelow r hr
      omega
    · have hlow : high - (high - low) = low := by omega
      rw [ackRanges, hlow, ackRangesFrom_ackRangesBelow hbelow]

end ReceivedPackets

/-! ## Taking packets out of a record -/

namespace SentPackets

theorem get?_takeRanges (pn : Nat) (ranges : List (Nat × Nat)) (sent : OrdMap Nat SentPacket) :
    (takeRanges sent ranges).1.get? pn = if Covers ranges pn then none else sent.get? pn := by
  refine Option.ext fun p => (removes_takeRanges sent ranges).left.trans ?_
  split
  · rename_i hcovers
    exact iff_of_false (fun h => h.2 hcovers) fun h => by cases h
  · rename_i hnone
    exact and_iff_left hnone

/-- `out` is the result of taking the packets with a number in `R` out of `s`. -/
structure TakesOut (s : SentPackets) (R : Nat → Prop) [DecidablePred R]
    (out : SentPackets × AckOutcome) : Prop where
  /-- The packets with a number in `R` are gone, and all others are as before. -/
  left : ∀ pn, out.1.sent.get? pn = if R pn then none else s.sent.get? pn
  /-- The packets with a number in `R` are returned, each as often as it was recorded. -/
  returned : out.2.newlyAcked.Perm ((s.sent.entries.filter fun e => R e.1).map (·.2))

theorem onAck_exact (s : SentPackets) (largest firstRange : Nat) (pairs : List (Nat × Nat)) :
    s.TakesOut (Covers (ackRanges largest firstRange pairs))
    (s.onAck largest firstRange pairs) where
  left pn := get?_takeRanges pn _ s.sent
  returned := by
    refine List.Perm.map _ ?_
    set ranges := ackRanges largest firstRange pairs
    have hperm := (removes_takeRanges s.sent ranges).perm.filter fun e => Covers ranges e.1
    have hout : (takeRanges s.sent ranges).2.filter (fun e => Covers ranges e.1) =
        (takeRanges s.sent ranges).2 := by
      refine List.filter_eq_self.mpr fun e he => ?_
      exact decide_eq_true ((removes_takeRanges ..).mem.mp he).2
    have hleft : (takeRanges s.sent ranges).1.entries.filter (fun e => Covers ranges e.1) = [] := by
      refine List.filter_eq_nil_iff.mpr fun e he hcov => ?_
      have hget := OrdMap.mem_entries_iff.mp he
      rw [get?_takeRanges, if_pos (of_decide_eq_true hcov)] at hget
      cases hget
    rw [List.filter_append, hout, hleft, List.append_nil] at hperm
    exact hperm.symm

end SentPackets

/-! ## The pipeline -/

/-- What happens to the acknowledgement state of a space. -/
inductive SpaceEvent where
  /-- A packet is recorded. -/
  | received (pn : Nat) (ackEliciting : Bool)
  /-- An `ACK` frame is built. -/
  | acknowledge (ackDelay : Nat)
  deriving DecidableEq, Repr

/-- The packet number an event records. -/
def SpaceEvent.number : SpaceEvent → Option Nat
  | .received pn _ => some pn
  | .acknowledge _ => none

variable {P : Platform}

namespace PacketSpace

def onEvent (s : PacketSpace P) : SpaceEvent → PacketSpace P
  | .received pn ackEliciting => s.onPacketReceived pn ackEliciting
  | .acknowledge ackDelay => (s.buildAck ackDelay).1

theorem buildAck_received (s : PacketSpace P) (ackDelay : Nat) :
    (s.buildAck ackDelay).1.received = s.received := by
  unfold buildAck
  split
  · split <;> rfl
  · rfl

theorem toAckFrame_of_buildAck {s : PacketSpace P} {ackDelay : Nat} {frame : Frame}
    (h : (s.buildAck ackDelay).2 = some frame) : s.received.toAckFrame ackDelay = some frame := by
  unfold buildAck at h
  split at h
  · split at h
    · next hframe => exact hframe.trans h
    · cases h
  · cases h

theorem onEvent_received {s : PacketSpace P} (h : Separated s.received) (event : SpaceEvent) :
    Separated (s.onEvent event).received ∧
      ∀ n, Covers (s.onEvent event).received n ↔ event.number = some n ∨ Covers s.received n := by
  cases event with
  | received pn ackEliciting =>
    refine ⟨ReceivedPackets.insert_separated h, fun n => ?_⟩
    rw [SpaceEvent.number, Option.some.injEq, eq_comm]
    exact ReceivedPackets.covers_insert h
  | acknowledge ackDelay =>
    rw [onEvent, buildAck_received]
    exact ⟨h, fun n => by simp [SpaceEvent.number]⟩

theorem run_received :
    ∀ {s : PacketSpace P} (events : List SpaceEvent), Separated s.received →
      Separated (run onEvent s events).received ∧ ∀ n, Covers (run onEvent s events).received n ↔
          n ∈ events.filterMap SpaceEvent.number ∨ Covers s.received n
  | _, [], h => ⟨h, fun n => by simp [run]⟩
  | s, event :: events, h => by
      obtain ⟨hsep, hcov⟩ := onEvent_received h event
      obtain ⟨hsep', hcov'⟩ := run_received events hsep
      refine ⟨hsep', fun n => ?_⟩
      rw [run, hcov', hcov, List.filterMap_cons]
      cases hnumber : event.number with
      | none => simp
      | some pn =>
        simp only [Option.some.injEq, List.mem_cons]
        grind

/-- However packets are recorded, in any order, with repetitions and with `ACK` frames built
in between, the ranges kept are the normal form of the set of numbers recorded and depend on
that set only, no subtraction underflows when a frame is built, and the frame, written and
read back, takes exactly the packets with those numbers out of any record and returns each
of them once. -/
theorem ack_pipeline_exact (s : PacketSpace P) (hstart : s.received = []) (events : List SpaceEvent)
    (hnumbers : ∀ pn ∈ events.filterMap SpaceEvent.number, pn < 2 ^ 62) :
    Separated (run onEvent s events).received ∧ (∀ pn, Covers (run onEvent s events).received pn ↔
      pn ∈ events.filterMap SpaceEvent.number) ∧ (∀ events' : List SpaceEvent,
      (∀ pn, pn ∈ events'.filterMap SpaceEvent.number ↔ pn ∈ events.filterMap SpaceEvent.number) →
      (run onEvent s events').received = (run onEvent s events).received) ∧
    (run onEvent s events).received.AckFits ∧ ∀ (ackDelay : Nat) (frame : Frame),
      ((run onEvent s events).buildAck ackDelay).2 = some frame →
      ∀ rest : Bytes, ∃ largest delay firstRange ranges,
        decodeFrame (frame.encode ++ rest) = .ok (.ack largest delay firstRange ranges, rest) ∧
        ∀ sent : SentPackets, sent.TakesOut (· ∈ events.filterMap SpaceEvent.number)
            (sent.onAck largest firstRange (ranges.map fun r => (r.gap, r.range))) := by
  have hsep : Separated s.received := hstart ▸ separated_nil
  have hnone : ∀ pn, ¬ Covers s.received pn := fun pn => hstart ▸ covers_nil
  obtain ⟨hafter, hcovers⟩ := run_received events hsep
  simp only [hnone, or_false] at hcovers
  refine ⟨hafter, hcovers, ?_, ReceivedPackets.ackFits_of_separated hafter, ?_⟩
  · intro events' hsame
    obtain ⟨hafter', hcovers'⟩ := run_received events' hsep
    refine hafter'.eq_of_covers hafter fun pn => ?_
    simp only [hcovers', hcovers, hnone, or_false, hsame]
  intro ackDelay frame hframe rest
  have hbound : ∀ r ∈ (run onEvent s events).received, r.2 ≤ varintMax := by
    intro r hr
    have hlast := (hcovers r.2).mp ⟨r, hr, hafter.nonempty r hr, Nat.le_refl _⟩
    exact Nat.le_pred_of_lt (hnumbers _ hlast)
  obtain ⟨largest, firstRange, pairs, hdecode, hranges⟩ :=
    ReceivedPackets.decodeFrame_toAckFrame hafter hbound (toAckFrame_of_buildAck hframe) rest
  refine ⟨largest, _, firstRange, pairs, hdecode, fun sent => ?_⟩
  have hexact := sent.onAck_exact largest firstRange (pairs.map fun r => (r.gap, r.range))
  have hset : ∀ pn, Covers (ackRanges largest firstRange
      (pairs.map fun r => (r.gap, r.range))) pn ↔ pn ∈ events.filterMap SpaceEvent.number := by
    intro pn
    rw [hranges, covers_reverse, hcovers]
  exact ⟨fun pn => by simpa only [hset] using hexact.left pn,
    by simpa only [hset] using hexact.returned⟩

/-- Packets out of order and twice, with an `ACK` frame built on the way. -/
def outOfOrder : List SpaceEvent :=
  [.received 5 true, .received 3 false, .received 4 true, .acknowledge 0, .received 9 true,
    .received 5 true, .received 1 false]

theorem ack_pipeline_exact_outOfOrder :
    (∀ pn ∈ outOfOrder.filterMap SpaceEvent.number, pn < 2 ^ 62) ∧
    (run onEvent ({} : PacketSpace Plain) outOfOrder).received = [(1, 1), (3, 5), (9, 9)] ∧
    ∃ frame, ((run onEvent ({} : PacketSpace Plain) outOfOrder).buildAck 7).2 = some frame ∧
      ∃ largest delay firstRange ranges,
        decodeFrame (frame.encode ++ []) = .ok (.ack largest delay firstRange ranges, []) ∧
        ∀ sent : SentPackets, sent.TakesOut (· ∈ outOfOrder.filterMap SpaceEvent.number)
            (sent.onAck largest firstRange (ranges.map fun r => (r.gap, r.range))) := by
  have hnumbers : ∀ pn ∈ outOfOrder.filterMap SpaceEvent.number, pn < 2 ^ 62 := by decide
  have hexact := ack_pipeline_exact ({} : PacketSpace Plain) rfl outOfOrder hnumbers
  exact ⟨hnumbers, rfl, _, rfl, hexact.2.2.2.2 7 _ rfl []⟩

end PacketSpace

end OxiQuic
