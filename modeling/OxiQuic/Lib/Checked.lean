import OxiQuic.Lib.Reassembly

/-!
# Indexing that can fail

Slicing as a program does it: an index beyond the end, or a range whose ends are the wrong way
round, stops the program.  `none` stands for that.  The total versions, which cut off what is
not there, agree wherever the ranges are sound.
-/

namespace Lib

universe u

variable {α : Type u}

/-- The elements from `start` up to `stop`. -/
def slice? (xs : List α) (start stop : Nat) : Option (List α) :=
  if start ≤ stop ∧ stop ≤ xs.length then some ((xs.take stop).drop start) else none

/-- The two parts of a list at `mid`. -/
def splitAt? (xs : List α) (mid : Nat) : Option (List α × List α) :=
  if mid ≤ xs.length then some (xs.take mid, xs.drop mid) else none

section

variable {xs : List α} {start stop : Nat}

theorem slice?_eq (hstart : start ≤ stop) (hstop : stop ≤ xs.length) :
    slice? xs start stop = some ((xs.take stop).drop start) := if_pos ⟨hstart, hstop⟩

theorem slice?_add {len : Nat} (hstop : start + len ≤ xs.length) :
    slice? xs start (start + len) = some ((xs.drop start).take len) := by
  rw [slice?_eq (Nat.le_add_right ..) hstop, List.drop_take, Nat.add_sub_cancel_left]

theorem slice?_length (hstart : start ≤ xs.length) :
    slice? xs start xs.length = some (xs.drop start) := by
  rw [slice?_eq hstart (Nat.le_refl _), List.take_length]

theorem splitAt?_eq {mid : Nat} (h : mid ≤ xs.length) :
    splitAt? xs mid = some (xs.take mid, xs.drop mid) := if_pos h

end

namespace Reassembler

/-- Cut a segment to what is not delivered, and stop where the cut is beyond its end. -/
def trim? (r : Reassembler α) (off : Nat) (data : List α) : Option (Nat × List α) :=
  if off < r.next then (slice? data (r.next - off) data.length).map (r.next, ·)
  else some (off, data)

def flushFuel? : Nat → Reassembler α → Option (Reassembler α × List α)
  | 0, r => some (r, [])
  | fuel + 1, r =>
    match r.pending.lastLe? r.next with
    | none => some (r, [])
    | some (start, segment) =>
      if start + segment.length ≤ r.next then
        flushFuel? fuel { r with pending := r.pending.erase start }
      else do
        let part ← slice? segment (r.next - start) segment.length
        let (r', rest) ← flushFuel? fuel
          { next := start + segment.length, pending := r.pending.erase start }
        return (r', part ++ rest)

def accept? (r : Reassembler α) (off : Nat) (data : List α) : Option (Reassembler α × List α) :=
  if off + data.length ≤ r.next then some (r, [])
  else do
    let (off, data) ← r.trim? off data
    flushFuel? (r.store off data).pending.size (r.store off data)

theorem trim?_eq {r : Reassembler α} {off : Nat} {data : List α} (h : r.next < off + data.length) :
    r.trim? off data = some (r.trim off data) := by
  simp only [trim?, trim]
  split
  · rw [slice?_length (by omega)]
    rfl
  · rfl

theorem flushFuel?_eq : ∀ (fuel : Nat) (r : Reassembler α),
    flushFuel? fuel r = some (flushFuel fuel r)
  | 0, _ => rfl
  | fuel + 1, r => by
      simp only [flushFuel?, flushFuel]
      cases r.pending.lastLe? r.next with
      | none => rfl
      | some entry =>
        obtain ⟨start, segment⟩ := entry
        by_cases hold : start + segment.length ≤ r.next
        · simp only [if_pos hold]
          exact flushFuel?_eq fuel _
        simp only [if_neg hold]
        rw [slice?_length (by omega), flushFuel?_eq fuel _]
        rfl

theorem accept?_eq (r : Reassembler α) (off : Nat) (data : List α) :
    r.accept? off data = some (r.accept off data) := by
  simp only [accept?, accept]
  split
  · rfl
  rename_i hnew
  rw [trim?_eq (Nat.lt_of_not_le hnew)]
  exact flushFuel?_eq _ _

end Reassembler

end Lib
