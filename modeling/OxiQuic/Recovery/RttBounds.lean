import OxiQuic.Recovery.LossDetection

/-!
# Bounds of the round-trip time estimator

Whatever delays the peer claims, the estimate lies between the smallest and the largest sample,
and no subtraction of `RttEstimator::update` runs below zero.
-/

namespace OxiQuic

/-- Subtraction of durations, which stops the program below zero. -/
def checkedSub (a b : Time) : Option Time := if b ≤ a then some (a - b) else none

/-- The difference of two durations, the smaller taken from the larger. -/
def absDiff? (a b : Time) : Option Time := if b ≤ a then checkedSub a b else checkedSub b a

/-- What one call of `update` is given: the sample, the delay the peer claims and its maximum. -/
structure RttSample where
  rtt : Time
  ackDelay : Time
  maxAckDelay : Time

namespace RttEstimator

/-- Take in one sample. -/
def take (r : RttEstimator) (s : RttSample) : RttEstimator :=
  r.update s.rtt s.ackDelay s.maxAckDelay

/-- `take` with every subtraction checked. -/
def take? (r : RttEstimator) (s : RttSample) : Option RttEstimator :=
  if r.haveSample then do
    let minRtt := min r.minRtt s.rtt
    let ackDelay := min s.ackDelay s.maxAckDelay
    let adjustedRtt ←
      if minRtt + ackDelay ≤ s.rtt then checkedSub s.rtt ackDelay else some s.rtt
    let rttvarSample ← absDiff? r.smoothedRtt adjustedRtt
    return { r with
      latestRtt := s.rtt
      minRtt := minRtt
      rttvar := (r.rttvar * 3 + rttvarSample) / 4
      smoothedRtt := (r.smoothedRtt * 7 + adjustedRtt) / 8 }
  else some (r.take s)

/-- The estimator has seen samples, the smallest of them `lo` and the largest `hi`. -/
structure Between (r : RttEstimator) (lo hi : Time) : Prop where
  sampled : r.haveSample = true
  minRtt_eq : r.minRtt = lo
  lo_le : lo ≤ r.smoothedRtt
  le_hi : r.smoothedRtt ≤ hi
  rttvar_le : r.rttvar ≤ hi

theorem absDiff?_eq (a b : Time) : absDiff? a b = some (if b ≤ a then a - b else b - a) := by
  unfold absDiff?
  split
  · exact if_pos ‹_›
  · exact if_pos (Nat.le_of_not_le ‹_›)

theorem take?_eq (r : RttEstimator) (s : RttSample) : r.take? s = some (r.take s) := by
  simp only [take?, take, update, absDiff?_eq]
  split
  · split
    · rename_i hdelay
      rw [checkedSub, if_pos (Nat.le_trans (Nat.le_add_left ..) hdelay)]
      rfl
    · rfl
  · rfl

theorem between_first {r : RttEstimator} (h : r.haveSample = false) (s : RttSample) :
    (r.take s).Between s.rtt s.rtt := by
  simp only [take, update, h]
  exact ⟨rfl, rfl, Nat.le_refl _, Nat.le_refl _, Nat.div_le_self ..⟩

/-- The sample, less the delay or not, is between the smallest sample and itself. -/
theorem adjustedRtt_bounds (lo delay rtt : Time) :
    min lo rtt ≤ (if min lo rtt + delay ≤ rtt then rtt - delay else rtt) ∧
      (if min lo rtt + delay ≤ rtt then rtt - delay else rtt) ≤ rtt := by
  simp only [Time] at *
  split <;> omega

theorem between_next {r : RttEstimator} {lo hi : Time} (h : r.Between lo hi) (s : RttSample) :
    (r.take s).Between (min lo s.rtt) (max hi s.rtt) := by
  obtain ⟨hsampled, rfl, hlo, hhi, hvar⟩ := h
  obtain ⟨hge, hle⟩ := adjustedRtt_bounds r.minRtt (min s.ackDelay s.maxAckDelay) s.rtt
  simp only [take, update, if_pos hsampled]
  generalize (if min r.minRtt s.rtt + min s.ackDelay s.maxAckDelay ≤ s.rtt then
    s.rtt - min s.ackDelay s.maxAckDelay else s.rtt) = adjusted at hge hle
  refine ⟨hsampled, rfl, ?_, ?_, ?_⟩ <;> simp only [Time] at *
  · omega
  · omega
  · split <;> omega

theorem between_foldl {r : RttEstimator} {lo hi : Time} (h : r.Between lo hi)
    (samples : List RttSample) :
    (samples.foldl take r).Between ((samples.map (·.rtt)).foldl min lo)
      ((samples.map (·.rtt)).foldl max hi) := by
  induction samples generalizing r lo hi with
  | nil => exact h
  | cons s rest ih => exact ih (between_next h s)

theorem foldlM_take? (samples : List RttSample) (r : RttEstimator) :
    samples.foldlM take? r = some (samples.foldl take r) := by
  induction samples generalizing r with
  | nil => rfl
  | cons s rest ih =>
    rw [List.foldlM_cons, take?_eq]
    exact ih _

/-- After any samples the estimate lies between the smallest and the largest of them, and no
subtraction on the way there went below zero. -/
theorem foldl_take_bounds (r : RttEstimator) (hnew : r.haveSample = false)
    (samples : List RttSample) (hne : samples ≠ []) :
    samples.foldlM take? r = some (samples.foldl take r) ∧
      ∃ lo hi, (samples.map (·.rtt)).min? = some lo ∧ (samples.map (·.rtt)).max? = some hi ∧
        (samples.foldl take r).minRtt = lo ∧ lo ≤ (samples.foldl take r).smoothedRtt ∧
          (samples.foldl take r).smoothedRtt ≤ hi ∧ (samples.foldl take r).rttvar ≤ hi := by
  refine ⟨foldlM_take? samples r, ?_⟩
  obtain ⟨s, rest, rfl⟩ := List.exists_cons_of_ne_nil hne
  have h := between_foldl (between_first hnew s) rest
  exact ⟨_, _, List.min?_cons', List.max?_cons', h.minRtt_eq, h.lo_le, h.le_hi, h.rttvar_le⟩

theorem foldl_take_bounds_three :
    let samples : List RttSample := [⟨100, 0, 25⟩, ⟨140, 60, 25⟩, ⟨80, 90, 25⟩]
    (samples.foldlM take? {} = some (samples.foldl take {}) ∧
      ∃ lo hi, (samples.map (·.rtt)).min? = some lo ∧ (samples.map (·.rtt)).max? = some hi ∧
        (samples.foldl take {}).minRtt = lo ∧ lo ≤ (samples.foldl take {}).smoothedRtt ∧
          (samples.foldl take {}).smoothedRtt ≤ hi ∧ (samples.foldl take {}).rttvar ≤ hi) ∧
      (samples.foldl take {}).minRtt = 80 :=
  ⟨foldl_take_bounds {} rfl _ (List.cons_ne_nil _ _), by decide⟩

end RttEstimator

end OxiQuic
