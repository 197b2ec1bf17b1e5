import OxiQuic.Recovery.SentPacket

/-!
# What exactly leaves the record of sent packets

`SentPackets.onAck` and `SentPackets.detectLost` remove the packets that meet a condition and
keep all others as they are (`Removes`).  For an `ACK` frame the condition is that one of
its ranges has the packet number.  The walk that expands the ranges is checked step by step as
well: whatever a peer encodes, it stays in bounds and does not wrap (`ackRanges?`).
-/

namespace OxiQuic

open Lib

/-! ## The ranges of an `ACK` frame -/

/-- `ackRangesFrom` with the addition of the source as it is checked: `none` where
`gap + 2` does not fit into 64 bits. -/
def ackRangesFrom? (smallest : Nat) : List (Nat × Nat) → Option (List (Nat × Nat))
  | [] => some []
  | (gap, range) :: rest =>
    if 2 ^ 64 ≤ gap + 2 then none
    else if smallest < gap + 2 then some []
    else
      let nextLargest := smallest - (gap + 2)
      (ackRangesFrom? (nextLargest - range) rest).map ((nextLargest - range, nextLargest) :: ·)

def ackRanges? (largest firstRange : Nat) (ranges : List (Nat × Nat)) : Option (List (Nat × Nat)) :=
  (ackRangesFrom? (largest - firstRange) ranges).map ((largest - firstRange, largest) :: ·)

variable {largest firstRange smallest : Nat} {ranges : List (Nat × Nat)}

theorem ackRangesFrom?_eq (h : ∀ r ∈ ranges, r.1 < 2 ^ 62) :
    ackRangesFrom? smallest ranges = some (ackRangesFrom smallest ranges) := by
  induction ranges generalizing smallest with
  | nil => rfl
  | cons r rest ih =>
    obtain ⟨gap, range⟩ := r
    obtain ⟨hgap, hrest⟩ := List.forall_mem_cons.mp h
    have hfits : ¬ 2 ^ 64 ≤ gap + 2 := by
      simp only at hgap
      omega
    simp only [ackRangesFrom?, ackRangesFrom, if_neg hfits]
    split
    · rfl
    · rw [ih hrest, Option.map_some]

/-- Below `smallest` the ranges are in bounds, and each lies below the one before. -/
theorem ackRangesFrom_descend :
    (∀ r ∈ ackRangesFrom smallest ranges, r.1 ≤ r.2 ∧ r.2 < smallest) ∧
      (ackRangesFrom smallest ranges).Pairwise (fun r r' => r'.2 < r.1) := by
  induction ranges generalizing smallest with
  | nil => exact ⟨List.forall_mem_nil _, .nil⟩
  | cons r rest ih =>
    obtain ⟨gap, range⟩ := r
    simp only [ackRangesFrom]
    split
    · exact ⟨List.forall_mem_nil _, .nil⟩
    obtain ⟨hbounds, hdescend⟩ := @ih (smallest - (gap + 2) - range)
    refine ⟨List.forall_mem_cons.mpr ⟨⟨Nat.sub_le .., ?_⟩, fun r hr => ?_⟩,
      List.pairwise_cons.mpr ⟨fun r hr => (hbounds r hr).2, hdescend⟩⟩
    · simp only
      omega
    · have := hbounds r hr
      omega

theorem ackRanges_descend :
    (∀ r ∈ ackRanges largest firstRange ranges, r.1 ≤ r.2 ∧ r.2 ≤ largest) ∧
      (ackRanges largest firstRange ranges).Pairwise (fun r r' => r'.2 < r.1) := by
  obtain ⟨hbounds, hdescend⟩ := @ackRangesFrom_descend (largest - firstRange) ranges
  refine ⟨List.forall_mem_cons.mpr ⟨⟨Nat.sub_le .., Nat.le_refl _⟩, fun r hr => ?_⟩,
    List.pairwise_cons.mpr ⟨fun r hr => (hbounds r hr).2, hdescend⟩⟩
  have := hbounds r hr
  omega

namespace SentPackets

/-- On every `ACK` frame a peer can encode, the ranges are expanded without a wrap, are in
bounds and descend, and exactly the tracked packets in one of them are removed, each once;
the largest of their numbers is reported. -/
theorem onAck_removes (s : SentPackets) {largest firstRange : Nat} {ranges : List (Nat × Nat)}
    (hgaps : ∀ r ∈ ranges, r.1 < 2 ^ 62) :
    ackRanges? largest firstRange ranges = some (ackRanges largest firstRange ranges) ∧
      (∀ r ∈ ackRanges largest firstRange ranges, r.1 ≤ r.2 ∧ r.2 ≤ largest) ∧
      (ackRanges largest firstRange ranges).Pairwise (fun r r' => r'.2 < r.1) ∧
      let acked := s.onAck largest firstRange ranges
      ∃ out : List (Nat × SentPacket), acked.2.newlyAcked = out.map (·.2) ∧
        (out.map (·.1)).Nodup ∧
        (∀ pn p, (pn, p) ∈ out ↔
          s.sent.get? pn = some p ∧ AckCovers largest firstRange ranges pn) ∧
        (∀ pn p, acked.1.sent.get? pn = some p ↔
          s.sent.get? pn = some p ∧ ¬ AckCovers largest firstRange ranges pn) ∧
        (∀ pn, acked.2.largestNewlyAcked = some pn ↔
          pn ∈ out.map (·.1) ∧ ∀ pn' ∈ out.map (·.1), pn' ≤ pn) ∧
        (acked.2.largestNewlyAcked = none ↔ out = []) := by
  have hremoves := removes_takeRanges s.sent (ackRanges largest firstRange ranges)
  refine ⟨?_, ackRanges_descend.1, ackRanges_descend.2, _, rfl, hremoves.once,
    fun _ _ => hremoves.mem, fun _ _ => hremoves.left, fun pn => ?_, ?_⟩
  · rw [ackRanges?, ackRangesFrom?_eq hgaps, Option.map_some]
    rfl
  · exact (congrArg (· = some pn) (largestOf_eq_max? _)).to_iff.trans List.max?_eq_some_iff
  · rw [onAck, largestOf_eq_max?, List.max?_eq_none_iff, List.map_eq_nil_iff]

/-- An `ACK` of 7 and of 0 to 3, whose third range would start below 0. -/
theorem onAck_removes_belowZero :
    let ranges := [(2, 9), (4, 1)]
    (∀ r ∈ ranges, r.1 < 2 ^ 62) ∧
      ackRanges? 7 0 ranges = some [(7, 7), (0, 3)] :=
  ⟨by decide, (({} : SentPackets).onAck_removes (by decide)).1⟩

/-! ## Loss detection -/

/-- A tracked packet below the largest acknowledged one. -/
def Awaited (s : SentPackets) (pn : Nat) (p : SentPacket) : Prop :=
  s.sent.get? pn = some p ∧ ∃ acked ∈ s.largestAcked, pn ≤ acked

/-- The deadlines that loss detection takes the least of are those of the packets it leaves
below the largest acknowledged one. -/
theorem detectLost_deadlines (s : SentPackets) (now lossDelay : Time) :
    ∃ times : List Time, (s.detectLost now lossDelay).2.2 = times.min? ∧
      ∀ t, t ∈ times ↔ ∃ pn p, (s.detectLost now lossDelay).1.Awaited pn p ∧
        t = p.timeSent + lossDelay := by
  obtain ⟨out, -, hremoves⟩ := s.removes_detectLost now lossDelay
  simp only [Awaited, hremoves.left]
  cases hacked : s.largestAcked with
  | none =>
    refine ⟨[], ?_, fun t => ?_⟩
    · rw [detectLost, hacked]
      rfl
    · simp [detectLost, hacked]
  | some acked =>
    simp only [detectLost, hacked]
    refine ⟨_, earliestOf_eq_min? _, fun t => ?_⟩
    simp only [Overdue, hacked, List.mem_map, List.mem_filter, Prod.exists, decide_eq_true_eq,
      Bool.not_eq_true', Option.mem_some_iff, exists_eq_left']
    refine exists_congr fun pn => exists_congr fun p => ?_
    rw [OrdMap.mem_entries_iff, ← Bool.not_eq_true, isLost_iff, eq_comm (a := t)]
    tauto

/-- Loss detection removes and returns exactly the overdue packets, each once, and keeps all
others; the time it returns is the least deadline of those that are left, and lies ahead. -/
theorem detectLost_exact (s : SentPackets) (now lossDelay : Time) :
    let detected := s.detectLost now lossDelay
    ∃ out : List (Nat × SentPacket), detected.2.1 = out.map (·.2) ∧ (out.map (·.1)).Nodup ∧
      (∀ pn p, (pn, p) ∈ out ↔ s.sent.get? pn = some p ∧ s.Overdue now lossDelay pn p) ∧
      (∀ pn p, detected.1.sent.get? pn = some p ↔
        s.sent.get? pn = some p ∧ ¬ s.Overdue now lossDelay pn p) ∧
      detected.1.largestAcked = s.largestAcked ∧
      (∀ t, detected.2.2 = some t ↔
        (∃ pn p, detected.1.Awaited pn p ∧ t = p.timeSent + lossDelay) ∧
          ∀ pn p, detected.1.Awaited pn p → t ≤ p.timeSent + lossDelay) ∧
      (detected.2.2 = none ↔ ∀ pn p, ¬ detected.1.Awaited pn p) ∧
      ∀ t ∈ detected.2.2, now < t := by
  intro detected
  obtain ⟨out, hout, hremoves⟩ := s.removes_detectLost now lossDelay
  obtain ⟨times, htimes, hmem⟩ := s.detectLost_deadlines now lossDelay
  have hacked := s.detectLost_largestAcked now lossDelay
  refine ⟨out, hout, hremoves.once, fun _ _ => hremoves.mem, fun _ _ => hremoves.left, hacked,
    fun t => ?_, ?_, fun t ht => ?_⟩
  · rw [htimes, List.min?_eq_some_iff, hmem]
    refine and_congr_right fun _ => ⟨fun h pn p hp => h _ ((hmem _).mpr ⟨pn, p, hp, rfl⟩), ?_⟩
    rintro h _ ht
    obtain ⟨pn, p, hp, rfl⟩ := (hmem _).mp ht
    exact h pn p hp
  · rw [htimes, List.min?_eq_none_iff, List.eq_nil_iff_forall_not_mem]
    refine ⟨fun h pn p hp => h _ ((hmem _).mpr ⟨pn, p, hp, rfl⟩), fun h t ht => ?_⟩
    obtain ⟨pn, p, hp, _⟩ := (hmem t).mp ht
    exact h pn p hp
  have hleast : times.min? = some t := htimes.symm.trans ht
  obtain ⟨pn, p, ⟨hget, acked, hlargest, hle⟩, rfl⟩ :=
    (hmem t).mp (List.min?_eq_some_iff.mp hleast).1
  -- a packet that is left is not overdue
  refine Nat.lt_of_not_le fun hpast => (hremoves.left.mp hget).2 ?_
  exact ⟨acked, hacked ▸ hlargest, hle, .inr hpast⟩

end SentPackets

end OxiQuic
