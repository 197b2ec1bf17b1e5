import OxiQuic.Lib.OrdMap
import Mathlib.Order.Bounds.Basic

/-!
# Slices and reassembly

A reassembler turns segments of one sequence `S`, given by offset and content, back into
`S`.  It holds the next offset to deliver and the segments that lie beyond it, keyed by
their start.  `accept` trims a segment to the undelivered part, stores it and delivers
whatever has become contiguous.

Two facts describe it.

*Safety.*  If every segment is a slice of `S` then so is every stored one, and what
`accept` delivers continues the delivered prefix of `S` (`Reassembler.accept_safe`).

*Completeness.*  The offsets below `next` or inside a stored segment are the covered ones.
Delivery never changes them (`Reassembler.flush_covers`) and stops only at an offset that
is not covered (`Reassembler.flush_flushed`).  Storing a segment adds its offsets, as long
as it does not replace a longer one of the same start (`Reassembler.accept_covers`).
-/

namespace Lib

universe u

variable {α : Type u}

/-! ## Slices -/

/-- `d` is what `S` holds at the offsets from `off` on. -/
def IsSlice (S : List α) (off : Nat) (d : List α) : Prop :=
  off + d.length ≤ S.length ∧ (S.drop off).take d.length = d

instance [DecidableEq α] (S : List α) (off : Nat) (d : List α) : Decidable (IsSlice S off d) :=
  inferInstanceAs (Decidable (_ ∧ _))

variable {S : List α} {off : Nat} {d : List α}

theorem IsSlice.nil (h : off ≤ S.length) : IsSlice S off [] :=
  ⟨by simpa using h, by simp⟩

theorem isSlice_drop (h : off ≤ S.length) : IsSlice S off (S.drop off) :=
  ⟨by simp; omega, List.take_length⟩

theorem IsSlice.append (h : IsSlice S off d) (T : List α) : IsSlice (S ++ T) off d := by
  obtain ⟨hle, heq⟩ := h
  refine ⟨by simp; omega, ?_⟩
  rw [List.drop_append_of_le_length (by omega), List.take_append_of_le_length (by simp; omega)]
  exact heq

theorem IsSlice.take (h : IsSlice S off d) (n : Nat) : IsSlice S off (d.take n) := by
  obtain ⟨hle, heq⟩ := h
  refine ⟨by simp; omega, ?_⟩
  rw [List.length_take]
  conv_rhs => rw [← heq]
  rw [List.take_take]

theorem IsSlice.drop (h : IsSlice S off d) {n : Nat}
    (hn : n ≤ d.length) : IsSlice S (off + n) (d.drop n) := by
  obtain ⟨hle, heq⟩ := h
  refine ⟨by simp; omega, ?_⟩
  rw [List.length_drop, ← List.drop_drop]
  conv_rhs => rw [← heq]
  rw [List.drop_take]

theorem IsSlice.take_append (h : IsSlice S off d) : S.take off ++ d = S.take (off + d.length) := by
  rw [List.take_add, h.2]

theorem IsSlice.end_le (h : IsSlice S off d) : off + d.length ≤ S.length := h.1

/-! ## The reassembler -/

/-- What a receiver knows of a sequence: the next offset to deliver and the stored
segments by start. -/
structure Reassembler (α : Type u) where
  /-- The next offset to deliver. -/
  next : Nat
  /-- Segments received ahead of `next`, keyed by their start. -/
  pending : OrdMap Nat (List α)

namespace Reassembler

/-- The delivery loop with a bound on its iterations.  One iteration takes the last
segment that starts at or below `next`, drops it if it ends there too, and otherwise
delivers its part from `next` on. -/
def flushFuel : Nat → Reassembler α → Reassembler α × List α
  | 0, r => (r, [])
  | fuel + 1, r =>
    match r.pending.lastLe? r.next with
    | none => (r, [])
    | some (start, segment) =>
      if start + segment.length ≤ r.next then
        flushFuel fuel { r with pending := r.pending.erase start }
      else
        let (r', rest) := flushFuel fuel
          { next := start + segment.length, pending := r.pending.erase start }
        (r', segment.drop (r.next - start) ++ rest)

/-- Deliver what is contiguous.  Every iteration removes a segment, so their number
bounds the loop. -/
def flush (r : Reassembler α) : Reassembler α × List α := flushFuel r.pending.size r

/-- Drop the part of a segment that lies below `next`. -/
def trim (r : Reassembler α) (off : Nat) (data : List α) : Nat × List α :=
  if off < r.next then (r.next, data.drop (r.next - off)) else (off, data)

/-- Store a segment, replacing one of the same start.  An empty one is not stored. -/
def store (r : Reassembler α) (off : Nat) (data : List α) : Reassembler α :=
  if data.isEmpty then r else { r with pending := r.pending.insert off data }

/-- Take in a segment and deliver what it makes contiguous. -/
def accept (r : Reassembler α) (off : Nat) (data : List α) : Reassembler α × List α :=
  if off + data.length ≤ r.next then (r, [])
  else (r.store (r.trim off data).1 (r.trim off data).2).flush

/-! ## Safety -/

/-- Everything the reassembler holds is a part of `S`. -/
structure Consistent (S : List α) (r : Reassembler α) : Prop where
  /-- What was delivered is a prefix of `S`. -/
  next_le : r.next ≤ S.length
  /-- What is stored is a slice of `S`. -/
  slice : ∀ {start segment}, r.pending.get? start = some segment → IsSlice S start segment

variable {r : Reassembler α} {data : List α} {off : Nat} {S : List α} (fuel : Nat) {n : Nat}

theorem Consistent.append (h : r.Consistent S) (T : List α) : r.Consistent (S ++ T) where
  next_le := by
    have := h.next_le
    simp; omega
  slice hs := (h.slice hs).append T

theorem Consistent.erase (h : r.Consistent S) (k next : Nat)
    (hn : next ≤ S.length) : Consistent S { next := next, pending := r.pending.erase k } where
  next_le := hn
  slice hs := by
    rw [OrdMap.get?_erase] at hs
    split at hs
    · cases hs
    · exact h.slice hs

theorem flushFuel_safe (h : r.Consistent S) :
    (flushFuel fuel r).1.Consistent S ∧ r.next ≤ (flushFuel fuel r).1.next ∧
      S.take r.next ++ (flushFuel fuel r).2 = S.take (flushFuel fuel r).1.next := by
  induction fuel generalizing r with
  | zero => simpa [flushFuel] using h
  | succ fuel ih =>
    unfold flushFuel
    split
    · simpa using h
    rename_i start segment hlast
    obtain ⟨hget, hstart⟩ := OrdMap.lastLe?_eq_some hlast
    have hslice := h.slice hget
    split
    · exact ih (h.erase start r.next h.next_le)
    rename_i hend
    obtain ⟨hcons, hle, htake⟩ := ih (h.erase start (start + segment.length) hslice.end_le)
    refine ⟨hcons, le_trans (by simp; omega) hle, ?_⟩
    -- the tail of the segment starts exactly at `next`
    have htail := hslice.drop (n := r.next - start) (by omega)
    rw [Nat.add_sub_cancel' hstart] at htail
    rw [← List.append_assoc, htail.take_append, List.length_drop]
    rw [← htake]
    congr 2
    simp; omega

theorem store_consistent (h : r.Consistent S)
    (hd : IsSlice S off data) : (r.store off data).Consistent S := by
  unfold store
  split
  · exact h
  · exact ⟨h.next_le, fun {start segment} hs => OrdMap.forall_insert hd (fun _ _ => h.slice) _ _ hs⟩

theorem trim_slice (hd : IsSlice S off data) (hend : r.next < off + data.length) :
    IsSlice S (r.trim off data).1 (r.trim off data).2 := by
  unfold trim
  split
  · have := hd.drop (n := r.next - off) (by omega)
    rwa [Nat.add_sub_cancel' (by omega)] at this
  · exact hd

@[simp] theorem store_next (r : Reassembler α) (off : Nat) (data : List α) :
    (r.store off data).next = r.next := by
  unfold store
  split <;> rfl

/-- Taking in a slice of `S` delivers the part of `S` between the old and the new
`next`. -/
theorem accept_safe (h : r.Consistent S) (hd : IsSlice S off data) :
    (r.accept off data).1.Consistent S ∧ r.next ≤ (r.accept off data).1.next ∧
      S.take r.next ++ (r.accept off data).2 = S.take (r.accept off data).1.next := by
  unfold accept
  split
  · exact ⟨h, le_refl _, by simp⟩
  rename_i hend
  have hstore := store_consistent h (trim_slice (r := r) hd (by omega))
  simpa [flush] using flushFuel_safe _ hstore

/-! ## Bounds -/

/-- Nothing was received at or above an offset. -/
structure Below (r : Reassembler α) (n : Nat) : Prop where
  next_le : r.next ≤ n
  end_le : ∀ {start segment}, r.pending.get? start = some segment → start + segment.length ≤ n

theorem Below.erase (h : r.Below n) (k : Nat) {next : Nat}
    (hn : next ≤ n) : Below { next := next, pending := r.pending.erase k } n where
  next_le := hn
  end_le hs := by
    rw [OrdMap.get?_erase] at hs
    split at hs
    · cases hs
    · exact h.end_le hs

theorem flushFuel_below (h : r.Below n) : (flushFuel fuel r).1.Below n := by
  induction fuel generalizing r with
  | zero => exact h
  | succ fuel ih =>
    unfold flushFuel
    split
    · exact h
    rename_i start segment hlast
    obtain ⟨hget, _⟩ := OrdMap.lastLe?_eq_some hlast
    split
    · exact ih (h.erase start h.next_le)
    · exact ih (h.erase start (h.end_le hget))

theorem accept_below (h : r.Below n)
    (hd : off + data.length ≤ n) : (r.accept off data).1.Below n := by
  unfold accept
  split
  · exact h
  rename_i hend
  have htrim : (r.trim off data).1 + (r.trim off data).2.length ≤ n := by
    unfold trim
    split
    · simp only [List.length_drop]
      omega
    · exact hd
  refine flushFuel_below _ ?_
  unfold store
  split
  · exact h
  · exact ⟨h.next_le, fun {start segment} hs => OrdMap.forall_insert
      (Q := fun start segment => start + segment.length ≤ n) htrim (fun _ _ => h.end_le) _ _ hs⟩

theorem flushFuel_length (r : Reassembler α) :
    r.next + (flushFuel fuel r).2.length = (flushFuel fuel r).1.next := by
  induction fuel generalizing r with
  | zero => rfl
  | succ fuel ih =>
    unfold flushFuel
    split
    · rfl
    rename_i start segment hlast
    obtain ⟨_, hstart⟩ := OrdMap.lastLe?_eq_some hlast
    split
    · exact ih { r with pending := r.pending.erase start }
    have hrest := ih { next := start + segment.length, pending := r.pending.erase start }
    simp only [List.length_append, List.length_drop] at hrest ⊢
    omega

theorem accept_length (r : Reassembler α) (off : Nat) (data : List α) :
    r.next + (r.accept off data).2.length = (r.accept off data).1.next := by
  unfold accept
  split
  · rfl
  have hflush := flushFuel_length (r.store (r.trim off data).1 (r.trim off data).2).pending.size
    (r.store (r.trim off data).1 (r.trim off data).2)
  rw [store_next] at hflush
  exact hflush

theorem accept_next_le (r : Reassembler α) (off : Nat) (data : List α) :
    r.next ≤ (r.accept off data).1.next := by
  rw [← accept_length]
  exact Nat.le_add_right ..

/-! ## Completeness -/

/-- The offset `i` has been received: it was delivered or lies in a stored segment. -/
def Covers (r : Reassembler α) (i : Nat) : Prop :=
  i < r.next ∨ ∃ start segment,
    r.pending.get? start = some segment ∧ start ≤ i ∧ i < start + segment.length

/-- Nothing that is stored can be delivered. -/
def Flushed (r : Reassembler α) : Prop :=
  ∀ start segment, r.pending.get? start = some segment → r.next < start

theorem Flushed.not_covers_next (h : r.Flushed) : ¬ r.Covers r.next := by
  rintro (hlt | ⟨start, segment, hget, hle, -⟩)
  · exact lt_irrefl _ hlt
  · exact absurd (h start segment hget) (not_lt.mpr hle)

/-- Moving `next` to the end of a segment that starts at or below it, and dropping the
segment, changes no covered offset. -/
theorem covers_erase {start next : Nat} {segment : List α}
    (hget : r.pending.get? start = some segment) (hstart : start ≤ r.next)
    (hnext : next = max r.next (start + segment.length)) (i : Nat) :
    Covers { next := next, pending := r.pending.erase start } i ↔ r.Covers i := by
  constructor
  · rintro (hlt | ⟨start', segment', hget', hle, hlt⟩)
    · rcases lt_or_ge i r.next with h | h
      · exact .inl h
      · exact .inr ⟨start, segment, hget, by omega, by simp at hlt; omega⟩
    rw [OrdMap.get?_erase] at hget'
    split at hget'
    · cases hget'
    · exact .inr ⟨start', segment', hget', hle, hlt⟩
  · rintro (hlt | ⟨start', segment', hget', hle, hlt⟩)
    · exact .inl (by simp; omega)
    by_cases heq : start' = start
    · subst heq
      rw [hget] at hget'
      cases hget'
      exact .inl (by simp; omega)
    · exact .inr ⟨start', segment', by simpa [OrdMap.get?_erase, heq] using hget', hle, hlt⟩

theorem flushFuel_covers (r : Reassembler α) (i : Nat) :
    (flushFuel fuel r).1.Covers i ↔ r.Covers i := by
  induction fuel generalizing r with
  | zero => rfl
  | succ fuel ih =>
    unfold flushFuel
    split
    · rfl
    rename_i start segment hlast
    obtain ⟨hget, hstart⟩ := OrdMap.lastLe?_eq_some hlast
    split
    · rw [ih]
      exact covers_erase hget hstart (by omega) i
    simp only []
    rw [ih]
    exact covers_erase hget hstart (by omega) i

theorem flush_covers (r : Reassembler α) (i : Nat) : r.flush.1.Covers i ↔ r.Covers i :=
  flushFuel_covers _ r i

/-- With one iteration per stored segment the loop ends because nothing is left to
deliver. -/
theorem flushFuel_flushed (hf : r.pending.size ≤ fuel) : (flushFuel fuel r).1.Flushed := by
  induction fuel generalizing r with
  | zero =>
    intro start segment hget
    have := OrdMap.size_erase (m := r.pending) hget
    omega
  | succ fuel ih =>
    unfold flushFuel
    split
    · rename_i hlast
      exact fun start segment hget => OrdMap.lastLe?_eq_none hlast hget
    rename_i start segment hlast
    obtain ⟨hget, -⟩ := OrdMap.lastLe?_eq_some hlast
    have hsize := OrdMap.size_erase (m := r.pending) hget
    split
    · exact ih (by simp; omega)
    · exact ih (by simp; omega)

theorem flush_flushed (r : Reassembler α) : r.flush.1.Flushed := flushFuel_flushed _ (le_refl _)

theorem store_covers
    (hkeep : ∀ old, r.pending.get? off = some old → old.length ≤ data.length) (i : Nat) :
    (r.store off data).Covers i ↔ r.Covers i ∨ (off ≤ i ∧ i < off + data.length) := by
  unfold store
  split
  · rename_i hempty
    have hlen : data.length = 0 := by simpa using hempty
    constructor
    · exact .inl
    rintro (h | ⟨h1, h2⟩)
    · exact h
    · omega
  · constructor
    · rintro (hlt | ⟨start, segment, hget, hle, hlt⟩)
      · exact .inl (.inl hlt)
      rw [OrdMap.get?_insert] at hget
      split at hget
      · rename_i heq
        cases hget
        exact .inr ⟨heq ▸ hle, heq ▸ hlt⟩
      · exact .inl (.inr ⟨start, segment, hget, hle, hlt⟩)
    · rintro ((hlt | ⟨start, segment, hget, hle, hlt⟩) | ⟨hle, hlt⟩)
      · exact .inl hlt
      · by_cases heq : start = off
        · subst heq
          have := hkeep segment hget
          exact .inr ⟨start, data, by simp, hle, by omega⟩
        · exact .inr ⟨start, segment, by simpa [OrdMap.get?_insert, heq] using hget, hle, hlt⟩
      · exact .inr ⟨off, data, by simp, hle, hlt⟩

theorem accept_flushed (h : r.Flushed) (off : Nat) (data : List α) :
    (r.accept off data).1.Flushed := by
  unfold accept
  split
  · exact h
  · exact flush_flushed _

/-- The covered offsets after a segment was taken in, when it does not replace a longer
one of the same start. -/
theorem accept_covers (h : r.Flushed)
    (hkeep : ∀ old, r.pending.get? off = some old → old.length ≤ data.length) (i : Nat) :
    (r.accept off data).1.Covers i ↔ r.Covers i ∨ (off ≤ i ∧ i < off + data.length) := by
  unfold accept
  split
  · rename_i hend
    constructor
    · exact .inl
    rintro (hc | ⟨-, hlt⟩)
    · exact hc
    · exact .inl (hlt.trans_le hend)
  · rename_i hend
    rw [flush_covers]
    unfold trim
    split
    · rename_i hoff
      -- nothing is stored at `next`, so the trimmed segment replaces none
      rw [store_covers (fun old hold => absurd (h _ old hold) (lt_irrefl _))]
      simp only [List.length_drop]
      constructor
      · rintro (hc | ⟨h1, h2⟩)
        · exact .inl hc
        · exact .inr ⟨by omega, by omega⟩
      rintro (hc | ⟨h1, h2⟩)
      · exact .inl hc
      rcases lt_or_ge i r.next with hi | hi
      · exact .inl (.inl hi)
      · exact .inr ⟨hi, by omega⟩
    · exact store_covers hkeep i

theorem flush_of_flushed (h : r.Flushed) : r.flush = (r, []) := by
  have hnone : r.pending.lastLe? r.next = none := by
    cases hlast : r.pending.lastLe? r.next with
    | none => rfl
    | some entry =>
      obtain ⟨hget, hle⟩ := OrdMap.lastLe?_eq_some hlast
      exact absurd (h _ _ hget) (not_lt.mpr hle)
  unfold flush
  cases r.pending.size with
  | zero => rfl
  | succ fuel =>
    unfold flushFuel
    rw [hnone]

theorem accept_of_next_lt (h : r.Flushed) (hoff : r.next < off)
    (data : List α) : r.accept off data = (r.store off data, []) := by
  have hend : ¬ off + data.length ≤ r.next := by omega
  have htrim : r.trim off data = (off, data) := if_neg (by omega)
  have hflushed : (r.store off data).Flushed := by
    unfold store
    split
    · exact h
    · exact OrdMap.forall_insert hoff h
  rw [accept, if_neg hend, htrim]
  exact flush_of_flushed hflushed

theorem next_lt_accept (h : r.Flushed) (hoff : off ≤ r.next) (hend : r.next < off + data.length) :
    r.next < (r.accept off data).1.next := by
  have hcovers : (r.accept off data).1.Covers r.next :=
    (accept_covers h (fun old hold => absurd (h _ old hold) (not_lt.mpr hoff)) r.next).mpr
      (.inr ⟨hoff, hend⟩)
  refine lt_of_le_of_ne (accept_next_le r off data) fun heq => ?_
  rw [heq] at hcovers
  exact (accept_flushed h off data).not_covers_next hcovers

/-- What a segment delivers is nothing exactly if it does not contain the next offset. -/
theorem accept_snd_eq_nil_iff (h : r.Flushed) (off : Nat) (data : List α) :
    (r.accept off data).2 = [] ↔ ¬ (off ≤ r.next ∧ r.next < off + data.length) := by
  constructor
  · rintro hnil ⟨hoff, hend⟩
    have hmoved := next_lt_accept h hoff hend
    rw [← accept_length, hnil] at hmoved
    exact lt_irrefl _ hmoved
  intro hout
  by_cases hend : off + data.length ≤ r.next
  · rw [accept, if_pos hend]
  · rw [accept_of_next_lt h (by omega)]

/-- A segment leaves the reassembler as it is exactly if it was delivered before or is stored
already. -/
theorem accept_fst_eq_self_iff (h : r.Flushed) (off : Nat) (data : List α) :
    (r.accept off data).1 = r ↔ off + data.length ≤ r.next ∨
      (r.next < off ∧ (data = [] ∨ r.pending.get? off = some data)) := by
  by_cases hend : off + data.length ≤ r.next
  · rw [accept, if_pos hend]
    exact iff_of_true rfl (.inl hend)
  by_cases hoff : off ≤ r.next
  · refine iff_of_false (fun hsame => ?_) ?_
    · have hmoved := next_lt_accept h hoff (not_le.mp hend)
      rw [hsame] at hmoved
      exact lt_irrefl _ hmoved
    rintro (hdelivered | ⟨hbeyond, _⟩)
    · exact hend hdelivered
    · exact absurd hoff (not_le.mpr hbeyond)
  · have hbeyond : r.next < off := not_le.mp hoff
    rw [accept_of_next_lt h hbeyond, store]
    split
    · rename_i hempty
      exact iff_of_true rfl (.inr ⟨hbeyond, .inl (List.isEmpty_iff.mp hempty)⟩)
    rename_i hfull
    constructor
    · intro hsame
      refine .inr ⟨hbeyond, .inr ?_⟩
      have hpending : r.pending.insert off data = r.pending := congrArg pending hsame
      rw [← hpending, OrdMap.get?_insert_self]
    rintro (hdelivered | ⟨_, hnil | hstored⟩)
    · exact absurd hdelivered hend
    · exact absurd (List.isEmpty_iff.mpr hnil) hfull
    · rw [OrdMap.insert_of_get?_eq_some hstored]

/-- The reassembler has kept exactly the offsets in `R` and delivered all it can. -/
structure Complete (R : Nat → Prop) (r : Reassembler α) : Prop where
  flushed : r.Flushed
  covers : ∀ i, r.Covers i ↔ R i

theorem Complete.accept {R : Nat → Prop} (h : r.Complete R)
    (hkeep : ∀ old, r.pending.get? off = some old → old.length ≤ data.length) :
    (r.accept off data).1.Complete (fun i => R i ∨ (off ≤ i ∧ i < off + data.length)) where
  flushed := accept_flushed h.flushed off data
  covers i := by rw [accept_covers h.flushed hkeep, h.covers]

theorem Complete.isGreatest {R : Nat → Prop} (h : r.Complete R) :
    IsGreatest {n | ∀ i < n, R i} r.next := by
  constructor
  · intro i hi
    exact (h.covers i).mp (.inl hi)
  intro n hn
  by_contra hlt
  exact h.flushed.not_covers_next ((h.covers _).mpr (hn _ (not_le.mp hlt)))

end Reassembler

end Lib
