import Mathlib.Algebra.Order.Ring.Nat
import Mathlib.Data.List.Perm.Basic
import Mathlib.Order.Basic
import Mathlib.Order.Lattice

/-!
# Ordered maps

A finite map from a linearly ordered key type, kept as the list of its entries in
increasing order of the keys.  The order is a field of the structure, so a map with a
repeated key cannot be built.  The operations are those of a search tree seen from the
outside: lookup, insertion (which replaces the entry of a present key), removal,
iteration in key order and the last entry at or below a key.

Two permutation lemmas say what insertion at a fresh key and removal do to the entries
(`OrdMap.insert_entries_perm`, `OrdMap.erase_entries_perm`).  Every sum over the values of
a map is computed from them.
-/

namespace Lib

universe u v w

/-- A finite map with its entries in increasing order of the keys. -/
@[ext] structure OrdMap (κ : Type u) (β : Type v) [LinearOrder κ] where
  /-- The entries, smallest key first. -/
  entries : List (κ × β)
  /-- No key occurs twice, and the keys increase. -/
  sorted : entries.Pairwise (fun a b => a.1 < b.1)

namespace OrdMap

variable {κ : Type u} {β : Type v} {γ : Type w} [LinearOrder κ]

instance [DecidableEq β] : DecidableEq (OrdMap κ β) := fun a b =>
  decidable_of_iff (a.entries = b.entries) OrdMap.ext_iff.symm

/-! ## Operations on entry lists -/

/-- Put `v` at `k` in an ordered entry list, replacing an entry of the same key. -/
def insertEntries (k : κ) (v : β) : List (κ × β) → List (κ × β)
  | [] => [(k, v)]
  | e :: rest =>
    if k < e.1 then (k, v) :: e :: rest
    else if k = e.1 then (k, v) :: rest
    else e :: insertEntries k v rest

theorem mem_insertEntries {k : κ} {v : β} {e : κ × β} :
    ∀ {l : List (κ × β)}, e ∈ insertEntries k v l → e = (k, v) ∨ e ∈ l
  | [], h => by simpa [insertEntries] using h
  | e' :: rest, h => by
      unfold insertEntries at h
      split at h
      · simpa using h
      split at h
      · rcases List.mem_cons.mp h with h | h
        · exact .inl h
        · exact .inr (List.mem_cons_of_mem _ h)
      rcases List.mem_cons.mp h with h | h
      · exact .inr (h ▸ List.mem_cons_self)
      · exact (mem_insertEntries h).imp id (List.mem_cons_of_mem _)

theorem insertEntries_sorted (k : κ) (v : β) :
    ∀ {l : List (κ × β)}, l.Pairwise (fun a b => a.1 < b.1) →
      (insertEntries k v l).Pairwise (fun a b => a.1 < b.1)
  | [], _ => by simp [insertEntries]
  | e :: rest, h => by
      obtain ⟨hhd, htl⟩ := List.pairwise_cons.mp h
      unfold insertEntries
      split
      · rename_i hlt
        refine List.pairwise_cons.mpr ⟨?_, h⟩
        intro e' he'
        rcases List.mem_cons.mp he' with rfl | he'
        · exact hlt
        · exact hlt.trans (hhd e' he')
      · split
        · rename_i heq
          exact List.pairwise_cons.mpr ⟨fun e' he' => heq ▸ hhd e' he', htl⟩
        rename_i hnlt hne
        refine List.pairwise_cons.mpr ⟨?_, insertEntries_sorted k v htl⟩
        intro e' he'
        rcases mem_insertEntries he' with rfl | he'
        · exact lt_of_le_of_ne (not_lt.mp hnlt) (Ne.symm hne)
        · exact hhd e' he'

/-! ## The operations -/

/-- The map with no entry. -/
def empty : OrdMap κ β := ⟨[], .nil⟩

instance : EmptyCollection (OrdMap κ β) := ⟨empty⟩

instance : Inhabited (OrdMap κ β) := ⟨empty⟩

/-- The value at a key. -/
def get? (m : OrdMap κ β) (k : κ) : Option β :=
  (m.entries.find? (fun e => decide (e.1 = k))).map (·.2)

/-- Whether a key has an entry. -/
def contains (m : OrdMap κ β) (k : κ) : Bool := (m.get? k).isSome

/-- Put `v` at `k`, replacing what was there. -/
def insert (m : OrdMap κ β) (k : κ) (v : β) : OrdMap κ β :=
  ⟨insertEntries k v m.entries, insertEntries_sorted k v m.sorted⟩

/-- Remove the entry of `k`. -/
def erase (m : OrdMap κ β) (k : κ) : OrdMap κ β :=
  ⟨m.entries.filter (fun e => decide (e.1 ≠ k)), m.sorted.filter _⟩

/-- Keep the entries that satisfy `p`. -/
def filter (m : OrdMap κ β) (p : κ × β → Bool) : OrdMap κ β :=
  ⟨m.entries.filter p, m.sorted.filter _⟩

/-- Apply `f` to every value. -/
def mapValues (m : OrdMap κ β) (f : κ → β → γ) : OrdMap κ γ :=
  ⟨m.entries.map (fun e => (e.1, f e.1 e.2)), List.pairwise_map.mpr m.sorted⟩

/-- Apply `f` to the value at `k`, if there is one. -/
def modify (m : OrdMap κ β) (k : κ) (f : β → β) : OrdMap κ β :=
  m.mapValues (fun k' v => if k' = k then f v else v)

/-- The keys, smallest first. -/
def keys (m : OrdMap κ β) : List κ := m.entries.map (·.1)

/-- The values, in the order of their keys. -/
def values (m : OrdMap κ β) : List β := m.entries.map (·.2)

/-- The number of entries. -/
def size (m : OrdMap κ β) : Nat := m.entries.length

/-- Whether there is no entry. -/
def isEmpty (m : OrdMap κ β) : Bool := m.entries.isEmpty

/-- The entry with the largest key that is at most `k`. -/
def lastLe? (m : OrdMap κ β) (k : κ) : Option (κ × β) :=
  (m.entries.filter (fun e => decide (e.1 ≤ k))).getLast?

/-- The keys from `lo` to `hi`, both included. -/
def keysIn (m : OrdMap κ β) (lo hi : κ) : List κ :=
  m.keys.filter (fun k => decide (lo ≤ k ∧ k ≤ hi))

/-! ## Lookup -/

variable {m : OrdMap κ β} {k : κ} {v : β} {e : κ × β} {es : List (κ × β)} {k' : κ} (f : β → Nat)

theorem mem_entries_iff : (k, v) ∈ m.entries ↔ m.get? k = some v := by
  obtain ⟨l, hl⟩ := m
  induction l with
  | nil => simp [get?]
  | cons e rest ih =>
    obtain ⟨hhd, htl⟩ := List.pairwise_cons.mp hl
    have ih := ih htl
    simp only [get?] at ih ⊢
    by_cases hk : e.1 = k
    · have hnot : (k, v) ∉ rest := fun hmem => (hhd _ hmem).ne hk
      simp only [List.mem_cons, hnot, or_false, List.find?_cons, hk, decide_true,
        Option.map_some, Option.some.injEq]
      constructor
      · rintro rfl; rfl
      · rintro rfl; rw [← hk]
    · rw [List.mem_cons, List.find?_cons]
      simp only [hk, decide_false]
      rw [← ih]
      constructor
      · rintro (rfl | h)
        · exact absurd rfl hk
        · exact h
      · exact .inr

theorem get?_eq_none_iff : m.get? k = none ↔ ∀ v, (k, v) ∉ m.entries := by
  constructor
  · intro h v hv
    rw [mem_entries_iff, h] at hv
    cases hv
  intro h
  cases hg : m.get? k with
  | none => rfl
  | some v => exact absurd (mem_entries_iff.mpr hg) (h v)

theorem contains_iff : m.contains k = true ↔ ∃ v, m.get? k = some v := by
  simp [contains, Option.isSome_iff_exists]

theorem ext_get? {m' : OrdMap κ β} (h : ∀ k, m.get? k = m'.get? k) : m = m' := by
  have hmem : ∀ e, e ∈ m.entries ↔ e ∈ m'.entries := by
    rintro ⟨k, v⟩
    rw [mem_entries_iff, mem_entries_iff, h]
  have hnd (n : OrdMap κ β) : n.entries.Nodup :=
    n.sorted.imp (fun hlt heq => hlt.ne (congrArg Prod.fst heq))
  have hperm : m.entries.Perm m'.entries := (List.perm_ext_iff_of_nodup (hnd m) (hnd m')).mpr hmem
  exact OrdMap.ext (hperm.eq_of_pairwise
    (fun a b _ _ hab hba => absurd hab (lt_asymm hba)) m.sorted m'.sorted)

@[simp] theorem get?_empty (k : κ) : (∅ : OrdMap κ β).get? k = none := rfl

theorem mem_insert_entries :
    e ∈ (m.insert k v).entries ↔ e = (k, v) ∨ (e.1 ≠ k ∧ e ∈ m.entries) := by
  obtain ⟨l, hl⟩ := m
  simp only [insert]
  induction l with
  | nil => simp [insertEntries]
  | cons e' rest ih =>
    obtain ⟨hhd, htl⟩ := List.pairwise_cons.mp hl
    have ih := ih htl
    have hrest : k ≤ e'.1 → e ∈ rest → e.1 ≠ k := fun hle hmem => (hle.trans_lt (hhd _ hmem)).ne'
    unfold insertEntries
    split
    · rename_i hlt
      simp only [List.mem_cons]
      constructor
      · rintro (h | rfl | h)
        · exact .inl h
        · exact .inr ⟨hlt.ne', .inl rfl⟩
        · exact .inr ⟨hrest hlt.le h, .inr h⟩
      rintro (h | ⟨-, h⟩)
      · exact .inl h
      · exact .inr h
    · split
      · rename_i heq
        simp only [List.mem_cons]
        constructor
        · rintro (h | h)
          · exact .inl h
          · exact .inr ⟨hrest heq.le h, .inr h⟩
        rintro (h | ⟨hne, rfl | h⟩)
        · exact .inl h
        · exact absurd heq.symm hne
        · exact .inr h
      · rename_i hnlt hne
        rw [List.mem_cons, ih, List.mem_cons]
        constructor
        · rintro (rfl | h | ⟨h1, h2⟩)
          · exact .inr ⟨Ne.symm hne, .inl rfl⟩
          · exact .inl h
          · exact .inr ⟨h1, .inr h2⟩
        rintro (h | ⟨h1, h | h2⟩)
        · exact .inr (.inl h)
        · exact .inl h
        · exact .inr (.inr ⟨h1, h2⟩)

variable (m)

theorem get?_insert (k : κ) (v : β) (k' : κ) :
    (m.insert k v).get? k' = if k' = k then some v else m.get? k' := by
  refine Option.ext fun v' => ?_
  rw [← mem_entries_iff, mem_insert_entries]
  by_cases hk : k' = k
  · subst hk
    simp [eq_comm]
  · simp [hk, mem_entries_iff]

@[simp] theorem get?_insert_self (k : κ) (v : β) : (m.insert k v).get? k = some v := by
  rw [get?_insert, if_pos rfl]

theorem get?_insert_of_ne (v : β) (h : k' ≠ k) : (m.insert k v).get? k' = m.get? k' := by
  rw [get?_insert, if_neg h]

variable {m}

/-- What holds of a new entry and of every old one holds of every entry. -/
theorem forall_insert {Q : κ → β → Prop} (hk : Q k v)
    (h : ∀ k' v', m.get? k' = some v' → Q k' v') (k' : κ) (v' : β)
    (hget : (m.insert k v).get? k' = some v') : Q k' v' := by
  rw [get?_insert] at hget
  split at hget
  · rename_i hkey
    cases hget
    exact hkey ▸ hk
  · exact h k' v' hget

theorem of_get?_insert_eq_none (h : (m.insert k v).get? k' = none) : k' ≠ k ∧ m.get? k' = none := by
  rw [get?_insert] at h
  split at h
  · cases h
  · exact ⟨‹_›, h⟩

theorem get?_of_size_eq_zero (h : m.size = 0) (k : κ) : m.get? k = none := by
  rw [get?, List.eq_nil_of_length_eq_zero h]
  rfl

theorem insert_of_get?_eq_some (h : m.get? k = some v) : m.insert k v = m := by
  apply ext_get?
  intro k'
  rw [get?_insert]
  split
  · rename_i hk
    rw [hk, h]
  · rfl

theorem insert_eq_self_iff : m.insert k v = m ↔ m.get? k = some v := by
  constructor
  · intro h
    rw [← h, get?_insert_self]
  · exact insert_of_get?_eq_some

theorem ite_contains_insert_eq_iff :
    (if m.contains k then m else m.insert k v) = m ↔ m.contains k = true := by
  constructor
  · intro h
    by_contra hnone
    rw [if_neg hnone] at h
    exact hnone (contains_iff.mpr ⟨v, by rw [← h, get?_insert_self]⟩)
  · exact fun h => if_pos h

theorem mem_erase_entries : e ∈ (m.erase k).entries ↔ e.1 ≠ k ∧ e ∈ m.entries := by
  simp [erase, and_comm]

variable (m)

theorem get?_erase (k k' : κ) : (m.erase k).get? k' = if k' = k then none else m.get? k' := by
  refine Option.ext fun v' => ?_
  rw [← mem_entries_iff, mem_erase_entries]
  by_cases hk : k' = k
  · simp [hk]
  · simp [hk, mem_entries_iff]

@[simp] theorem get?_erase_self (k : κ) : (m.erase k).get? k = none := by
  rw [get?_erase, if_pos rfl]

theorem get?_mapValues (f : κ → β → γ) (k : κ) : (m.mapValues f).get? k = (m.get? k).map (f k) := by
  simp only [get?, mapValues, List.find?_map, Option.map_map]
  cases hf : m.entries.find? ((fun e : κ × γ => decide (e.1 = k)) ∘ fun e => (e.1, f e.1 e.2)) with
  | none =>
    have : m.entries.find? (fun e => decide (e.1 = k)) = none := hf
    rw [this]; rfl
  | some e =>
    have hfe : m.entries.find? (fun e => decide (e.1 = k)) = some e := hf
    have hk : e.1 = k := by simpa using List.find?_some hfe
    rw [hfe]
    simp [hk]

theorem get?_modify (k : κ) (f : β → β) (k' : κ) :
    (m.modify k f).get? k' = if k' = k then (m.get? k').map f else m.get? k' := by
  rw [modify, get?_mapValues]
  by_cases h : k' = k
  · simp [h]
  · simp [h]

variable {m}

/-! ## Iteration -/

theorem mem_values : v ∈ m.values ↔ ∃ k, m.get? k = some v := by
  simp only [values, List.mem_map, Prod.exists, exists_eq_right]
  simp only [mem_entries_iff]

theorem keys_nodup (m : OrdMap κ β) : m.keys.Nodup :=
  (List.pairwise_map.mpr m.sorted).imp fun hlt => ne_of_lt hlt

theorem bounds_of_mem_keysIn {lo hi : κ} (h : k ∈ m.keysIn lo hi) : lo ≤ k ∧ k ≤ hi := by
  simpa using (List.mem_filter.mp h).2

theorem mem_keysIn_of_get? {lo hi : κ} (h : m.get? k = some v)
    (hbounds : lo ≤ k ∧ k ≤ hi) : k ∈ m.keysIn lo hi := by
  refine List.mem_filter.mpr ⟨List.mem_map.mpr ⟨(k, v), mem_entries_iff.mpr h, rfl⟩, ?_⟩
  simpa using hbounds

theorem lastLe?_eq_some (h : m.lastLe? k = some (k', v)) : m.get? k' = some v ∧ k' ≤ k := by
  have hmem := List.mem_of_getLast? h
  rw [List.mem_filter, mem_entries_iff] at hmem
  exact ⟨hmem.1, by simpa using hmem.2⟩

theorem lastLe?_eq_none (h : m.lastLe? k = none) (hv : m.get? k' = some v) : k < k' := by
  rw [lastLe?, List.getLast?_eq_none_iff, List.filter_eq_nil_iff] at h
  simpa using h _ (mem_entries_iff.mpr hv)

/-! ## Sums and sizes -/

theorem insertEntries_perm {k : κ} {v : β} :
    ∀ {l : List (κ × β)}, (∀ v', (k, v') ∉ l) → (insertEntries k v l).Perm ((k, v) :: l)
  | [], _ => by simp [insertEntries]
  | e :: rest, h => by
      have hne : k ≠ e.1 := fun heq => h e.2 (by simp [heq])
      have hrest : ∀ v', (k, v') ∉ rest := fun v' hv' => h v' (List.mem_cons_of_mem _ hv')
      unfold insertEntries
      split
      · exact .refl _
      · exact ((insertEntries_perm hrest).cons e).trans (.swap _ _ _)

theorem insert_entries_perm (v : β) (h : m.get? k = none) :
    (m.insert k v).entries.Perm ((k, v) :: m.entries) := insertEntries_perm (get?_eq_none_iff.mp h)

theorem erase_entries_perm (h : m.get? k = some v) :
    m.entries.Perm ((k, v) :: (m.erase k).entries) := by
  have hins : (m.erase k).insert k v = m := by
    refine ext_get? fun k' => ?_
    rw [get?_insert, get?_erase]
    by_cases hk : k' = k
    · simp [hk, h]
    · simp [hk]
  have := insert_entries_perm (m := m.erase k) v (get?_erase_self m k)
  rwa [hins] at this

theorem erase_of_get?_eq_none (h : m.get? k = none) : m.erase k = m := by
  refine ext_get? fun k' => ?_
  rw [get?_erase]
  by_cases hk : k' = k
  · simp [hk, h]
  · simp [hk]

theorem insert_erase (m : OrdMap κ β) (k : κ) (v : β) : (m.erase k).insert k v = m.insert k v := by
  refine ext_get? fun k' => ?_
  rw [get?_insert, get?_insert, get?_erase]
  by_cases hk : k' = k <;> simp [hk]

/-- The sum of a weight over the values. -/
def sumOf (m : OrdMap κ β) (f : β → Nat) : Nat := (m.values.map f).sum

theorem sumOf_insert (v : β) (f : β → Nat) (h : m.get? k = none) :
    (m.insert k v).sumOf f = f v + m.sumOf f := by
  have hp := ((insert_entries_perm v h).map (·.2)).map f
  simpa [sumOf, values] using hp.sum_nat

/-- The sum of a weight over the entries. -/
def sumOver (m : OrdMap κ β) (f : κ → β → Nat) : Nat := (m.entries.map fun e => f e.1 e.2).sum

theorem sumOver_insert (v : β) (f : κ → β → Nat) (h : m.get? k = none) :
    (m.insert k v).sumOver f = f k v + m.sumOver f := by
  have hp := (insert_entries_perm v h).map fun e => f e.1 e.2
  simpa [sumOver] using hp.sum_nat

theorem sumOver_erase (f : κ → β → Nat) (h : m.get? k = some v) :
    m.sumOver f = f k v + (m.erase k).sumOver f := by
  have hp := (erase_entries_perm h).map fun e => f e.1 e.2
  simpa [sumOver] using hp.sum_nat

theorem sumOver_insert_of_get? {w : β} (v : β) (f : κ → β → Nat)
    (h : m.get? k = some w) : (m.insert k v).sumOver f + f k w = m.sumOver f + f k v := by
  rw [← insert_erase, sumOver_insert v f (get?_erase_self m k), sumOver_erase f h]
  omega

theorem sumOver_congr {f g : κ → β → Nat}
    (h : ∀ k v, m.get? k = some v → f k v = g k v) : m.sumOver f = m.sumOver g := by
  refine congrArg List.sum (List.map_congr_left fun e he => ?_)
  exact h e.1 e.2 (mem_entries_iff.mp he)

theorem sumOver_add {f g : κ → β → Nat} {n : Nat}
    (h : m.get? k = some v) (hk : g k v = f k v + n)
    (hother : ∀ k' v', k' ≠ k → g k' v' = f k' v') : m.sumOver g = m.sumOver f + n := by
  have hrest : (m.erase k).sumOver g = (m.erase k).sumOver f := by
    refine sumOver_congr fun k' v' hv' => hother k' v' ?_
    rintro rfl
    rw [get?_erase_self] at hv'
    cases hv'
  rw [sumOver_erase f h, sumOver_erase g h, hk, hrest]
  omega

theorem get?_filter {p : κ × β → Bool} :
    (m.filter p).get? k = some v ↔ m.get? k = some v ∧ p (k, v) = true := by
  rw [← mem_entries_iff, ← mem_entries_iff]
  exact List.mem_filter

theorem size_erase (h : m.get? k = some v) : m.size = (m.erase k).size + 1 := by
  simpa [size] using (erase_entries_perm h).length_eq

theorem size_insert_le (m : OrdMap κ β) (k : κ) (v : β) : (m.insert k v).size ≤ m.size + 1 := by
  have hins : ((m.erase k).insert k v).size = (m.erase k).size + 1 := by
    simpa [size] using (insert_entries_perm v (get?_erase_self m k)).length_eq
  rw [← insert_erase, hins]
  cases h : m.get? k with
  | none => rw [erase_of_get?_eq_none h]
  | some w => rw [size_erase h]; omega

theorem sumOver_mapValues (m : OrdMap κ β) (g : κ → β → γ) (f : κ → γ → Nat) :
    (m.mapValues g).sumOver f = m.sumOver fun k v => f k (g k v) := by
  simp [sumOver, mapValues, Function.comp_def]

theorem sumOver_le_sumOver {m' : OrdMap κ γ} {f : κ → β → Nat} {g : κ → γ → Nat}
    (h : ∀ k v, m.get? k = some v → ∃ v', m'.get? k = some v' ∧ f k v ≤ g k v') :
    m.sumOver f ≤ m'.sumOver g := by
  induction hsize : m.size generalizing m m' with
  | zero =>
    have hnil : m.entries = [] := List.length_eq_zero_iff.mp hsize
    rw [sumOver, hnil]
    exact Nat.zero_le _
  | succ n ih =>
    obtain ⟨e, he⟩ := List.exists_mem_of_length_eq_add_one hsize
    have hv := mem_entries_iff.mp he
    obtain ⟨v', hv', hle⟩ := h e.1 e.2 hv
    have hrest : (m.erase e.1).sumOver f ≤ (m'.erase e.1).sumOver g := by
      refine ih (fun k v hget => ?_) ?_
      · rw [get?_erase] at hget ⊢
        split at hget
        · cases hget
        rename_i hne
        rw [if_neg hne]
        exact h k v hget
      · have := size_erase hv
        omega
    rw [sumOver_erase f hv, sumOver_erase g hv']
    omega

theorem sumOver_filter (m : OrdMap κ β) (p : κ × β → Bool) (f : κ → β → Nat) :
    m.sumOver f = (m.filter p).sumOver f + (m.filter fun e => !p e).sumOver f := by
  have hp := (List.filter_append_perm p m.entries).map fun e => f e.1 e.2
  have hsum := hp.sum_nat
  rw [List.map_append, List.sum_append_nat] at hsum
  exact hsum.symm

/-! ## Removing several keys -/

/-- Remove the entries of a list of keys and return them in that order. -/
def removeAll (m : OrdMap κ β) : List κ → OrdMap κ β × List (κ × β)
  | [] => (m, [])
  | k :: ks =>
    match m.get? k with
    | none => removeAll m ks
    | some v => ((removeAll (m.erase k) ks).1, (k, v) :: (removeAll (m.erase k) ks).2)

theorem mem_removeAll {ks : List κ} :
    e ∈ (m.removeAll ks).2 ↔ e.1 ∈ ks ∧ m.get? e.1 = some e.2 := by
  induction ks generalizing m with
  | nil => simp [removeAll]
  | cons k' ks ih =>
    unfold removeAll
    cases hk : m.get? k' with
    | none =>
      rw [ih, List.mem_cons]
      constructor
      · rintro ⟨hmem, hget⟩
        exact ⟨.inr hmem, hget⟩
      rintro ⟨heq | hmem, hget⟩
      · rw [heq, hk] at hget
        cases hget
      · exact ⟨hmem, hget⟩
    | some v =>
      rw [List.mem_cons, ih, List.mem_cons, get?_erase]
      by_cases h : e.1 = k'
      · constructor
        · rintro (rfl | ⟨-, hget⟩)
          · exact ⟨.inl rfl, hk⟩
          · simp [h] at hget
        rintro ⟨-, hget⟩
        rw [h, hk] at hget
        cases hget
        exact .inl (Prod.ext h rfl)
      · have hne : e ≠ (k', v) := fun heq => h (by rw [heq])
        simp [h, hne]

theorem removeAll_entries_perm (m : OrdMap κ β) (ks : List κ) :
    m.entries.Perm ((m.removeAll ks).2 ++ (m.removeAll ks).1.entries) := by
  induction ks generalizing m with
  | nil => exact .refl _
  | cons k' ks ih =>
    unfold removeAll
    cases hk : m.get? k' with
    | none => exact ih m
    | some v => exact (erase_entries_perm hk).trans ((ih (m.erase k')).cons _)

/-! ## Going through the entries -/

/-- A map has the entries of a list, in which no key occurs twice.  A loop over the entries
of a map that removes those it is done with keeps this of the entries to come. -/
structure Holds (m : OrdMap κ β) (es : List (κ × β)) : Prop where
  distinct : es.Pairwise (fun a b => a.1 ≠ b.1)
  get? : ∀ e ∈ es, m.get? e.1 = some e.2

theorem holds_entries (m : OrdMap κ β) : m.Holds m.entries :=
  ⟨m.sorted.imp fun h => h.ne, fun _ he => mem_entries_iff.mp he⟩

theorem Holds.head (h : m.Holds (e :: es)) : m.get? e.1 = some e.2 := h.get? e List.mem_cons_self

theorem Holds.tail (h : m.Holds (e :: es)) : m.Holds es :=
  ⟨(List.pairwise_cons.mp h.distinct).2, fun e' he => h.get? e' (List.mem_cons_of_mem _ he)⟩

theorem Holds.erase (h : m.Holds (e :: es)) : (m.erase e.1).Holds es := by
  refine ⟨h.tail.distinct, fun e' he => ?_⟩
  have hne : e'.1 ≠ e.1 := ((List.pairwise_cons.mp h.distinct).1 e' he).symm
  rw [get?_erase, if_neg hne]
  exact h.tail.get? e' he

end OrdMap

end Lib
