import Mathlib.Algebra.Order.Ring.Nat
import Mathlib.Data.List.Basic

/-!
# Sets of numbers as lists of ranges

A finite set of natural numbers kept as inclusive ranges in increasing order.  `Covers` is
the set a list stands for.  `Separated` is the normal form: no range is empty, and between
two neighbours at least one number is missing.  The normal form of a set is unique
(`Separated.eq_of_covers`), so whatever is computed from it depends on the set only.
-/

namespace Lib

/-- Whether a number lies in one of the ranges. -/
def Covers (ranges : List (Nat × Nat)) (n : Nat) : Prop := ∃ r ∈ ranges, r.1 ≤ n ∧ n ≤ r.2

instance (ranges : List (Nat × Nat)) (n : Nat) : Decidable (Covers ranges n) :=
  inferInstanceAs (Decidable (∃ r ∈ ranges, r.1 ≤ n ∧ n ≤ r.2))

/-- Nonempty ranges in increasing order that neither overlap nor touch. -/
structure Separated (ranges : List (Nat × Nat)) : Prop where
  /-- No range is empty. -/
  nonempty : ∀ r ∈ ranges, r.1 ≤ r.2
  /-- A number is missing between any two. -/
  apart : ranges.Pairwise (fun r r' => r.2 + 1 < r'.1)

variable {r : Nat × Nat} {ranges ranges' : List (Nat × Nat)} {n : Nat}

@[simp] theorem covers_nil : ¬ Covers [] n := by
  rintro ⟨r, hr, -⟩
  cases hr

@[simp] theorem covers_cons : Covers (r :: ranges) n ↔ (r.1 ≤ n ∧ n ≤ r.2) ∨ Covers ranges n := by
  simp [Covers]

theorem covers_reverse : Covers ranges.reverse n ↔ Covers ranges n := by
  simp [Covers]

theorem separated_nil : Separated [] := ⟨by simp, .nil⟩

theorem separated_cons :
    Separated (r :: ranges) ↔ r.1 ≤ r.2 ∧ (∀ r' ∈ ranges, r.2 + 1 < r'.1) ∧ Separated ranges := by
  constructor
  · intro h
    obtain ⟨hapart, hrest⟩ := List.pairwise_cons.mp h.apart
    exact ⟨h.nonempty r List.mem_cons_self, hapart,
      fun r' hr' => h.nonempty r' (List.mem_cons_of_mem _ hr'), hrest⟩
  rintro ⟨hr, hapart, hrest⟩
  refine ⟨?_, List.pairwise_cons.mpr ⟨hapart, hrest.apart⟩⟩
  intro r' hr'
  rcases List.mem_cons.mp hr' with rfl | hr'
  · exact hr
  · exact hrest.nonempty r' hr'

namespace Separated

theorem tail (h : Separated (r :: ranges)) : Separated ranges := (separated_cons.mp h).2.2

theorem head_le (h : Separated (r :: ranges)) : r.1 ≤ r.2 := (separated_cons.mp h).1

theorem lt_of_covers (h : Separated (r :: ranges)) (hn : Covers ranges n) : r.2 + 1 < n := by
  obtain ⟨r', hr', hlow, -⟩ := hn
  exact Nat.lt_of_lt_of_le ((separated_cons.mp h).2.1 r' hr') hlow

theorem le_of_covers (h : Separated (r :: ranges)) (hn : Covers (r :: ranges) n) : r.1 ≤ n := by
  have hle := h.head_le
  rcases covers_cons.mp hn with hn | hn
  · exact hn.1
  · have := h.lt_of_covers hn
    omega

theorem not_covers_succ (h : Separated (r :: ranges)) : ¬ Covers (r :: ranges) (r.2 + 1) := by
  intro hn
  rcases covers_cons.mp hn with hn | hn
  · omega
  · exact Nat.lt_irrefl _ (h.lt_of_covers hn)

theorem covers_tail_iff (h : Separated (r :: ranges)) :
    Covers ranges n ↔ r.2 < n ∧ Covers (r :: ranges) n := by
  constructor
  · intro hn
    have := h.lt_of_covers hn
    exact ⟨by omega, covers_cons.mpr (.inr hn)⟩
  rintro ⟨hlt, hn⟩
  rcases covers_cons.mp hn with hn | hn
  · omega
  · exact hn

/-- Of two lists that cover the same set, the first range of one ends no later than that of
the other if both start at the same number. -/
private theorem head_snd_le {r' : Nat × Nat} (h' : Separated (r' :: ranges')) (hstart : r.1 = r'.1)
    (hcovers : ∀ n, Covers (r :: ranges) n ↔ Covers (r' :: ranges') n) : r.2 ≤ r'.2 := by
  by_contra hlt
  have hle' := h'.head_le
  exact h'.not_covers_succ ((hcovers _).mp (covers_cons.mpr (.inl ⟨by omega, by omega⟩)))

theorem eq_of_covers (h : Separated ranges) (h' : Separated ranges')
    (hcovers : ∀ n, Covers ranges n ↔ Covers ranges' n) : ranges = ranges' := by
  induction ranges generalizing ranges' with
  | nil =>
    cases ranges' with
    | nil => rfl
    | cons r' rest' =>
      have hlow : Covers (r' :: rest') r'.1 := covers_cons.mpr (.inl ⟨Nat.le_refl _, h'.head_le⟩)
      exact absurd ((hcovers _).mpr hlow) covers_nil
  | cons r rest ih =>
    have hlow : Covers (r :: rest) r.1 := covers_cons.mpr (.inl ⟨Nat.le_refl _, h.head_le⟩)
    cases ranges' with
    | nil => exact absurd ((hcovers _).mp hlow) covers_nil
    | cons r' rest' =>
      have hlow' : Covers (r' :: rest') r'.1 := covers_cons.mpr (.inl ⟨Nat.le_refl _, h'.head_le⟩)
      -- both lists start at the least number of the set, and end their first range where
      -- the set first has a gap
      have hfst : r.1 = r'.1 := Nat.le_antisymm (h.le_of_covers ((hcovers _).mpr hlow'))
          (h'.le_of_covers ((hcovers _).mp hlow))
      have hsnd : r.2 = r'.2 := Nat.le_antisymm (head_snd_le h' hfst hcovers)
          (head_snd_le h hfst.symm fun n => (hcovers n).symm)
      have hrest : rest = rest' := by
        apply ih h.tail h'.tail
        intro n
        rw [h.covers_tail_iff, h'.covers_tail_iff, hsnd, hcovers]
      rw [hrest, Prod.ext hfst hsnd]

/-- Each range takes up two numbers at least, its own and the one missing after it. -/
private theorem start_add_length_le (bound : Nat) :
    ∀ (ranges : List (Nat × Nat)) (start : Nat), Separated ranges →
      (∀ r ∈ ranges, start ≤ r.1 ∧ r.2 < bound) → start ≤ bound + 1 →
        start + 2 * ranges.length ≤ bound + 1
  | [], _, _, _, hstart => hstart
  | r :: rest, start, h, hmem, _ => by
      obtain ⟨hle, hgap, hrest⟩ := separated_cons.mp h
      obtain ⟨hlow, hhigh⟩ := hmem r List.mem_cons_self
      have hbeyond : ∀ r' ∈ rest, start + 2 ≤ r'.1 ∧ r'.2 < bound := by
        intro r' hr'
        have hafter := hgap r' hr'
        exact ⟨by omega, (hmem r' (List.mem_cons_of_mem _ hr')).2⟩
      have := start_add_length_le bound rest (start + 2) hrest hbeyond (by omega)
      rw [List.length_cons]
      omega

theorem two_mul_length_le (h : Separated ranges) {bound : Nat}
    (hbound : ∀ r ∈ ranges, r.2 < bound) : 2 * ranges.length ≤ bound + 1 := by
  have := start_add_length_le bound ranges 0 h (fun r hr => ⟨Nat.zero_le _, hbound r hr⟩)
    (Nat.zero_le _)
  omega

end Separated

end Lib
