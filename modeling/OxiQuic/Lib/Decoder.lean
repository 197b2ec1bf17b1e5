/-!
# Decoders

A decoder takes the symbols not yet read and gives a value with what it left, or an error.
`Reads` is the half of correctness that encoders need: the decoder reads exactly these
symbols as this value, whatever follows.  `Consumes` is the half that loops need: whatever
the input, what is left is a suffix of it, shorter by a given amount.  `Extends` says that the
decoder does not look beyond what it reads.
-/

namespace Lib

universe u v

variable {σ : Type u} {ε : Type v} {α β : Type u}

/-- The decoder reads `used` as `a` and leaves what follows. -/
def Reads (d : StateT (List σ) (Except ε) α) (used : List σ) (a : α) : Prop :=
  ∀ rest, d (used ++ rest) = .ok (a, rest)

/-- What the decoder leaves is a suffix, and at least `n` symbols stand before it. -/
def Consumes (n : Nat) (d : StateT (List σ) (Except ε) α) : Prop :=
  ∀ (buf : List σ) (a : α) (rest : List σ), d buf = .ok (a, rest) →
    ∃ used, buf = used ++ rest ∧ n ≤ used.length

/-- More input behind does not change what the decoder reads. -/
def Extends (d : StateT (List σ) (Except ε) α) : Prop :=
  ∀ (buf : List σ) (a : α) (rest more : List σ), d buf = .ok (a, rest) →
    d (buf ++ more) = .ok (a, rest ++ more)

/-! ## Composition -/

variable {d : StateT (List σ) (Except ε) α} {next : α → StateT (List σ) (Except ε) β} (a : α)
  {n : Nat}

theorem Reads.pure : Reads (ε := ε) (Pure.pure a) ([] : List σ) a := fun _ => rfl

theorem Reads.run_bind {used : List σ} {a : α} (hd : Reads d used a) (rest : List σ) :
    (d >>= next) (used ++ rest) = next a rest := by
  show (d (used ++ rest) >>= fun r => next r.1 r.2) = _
  rw [hd]
  rfl

theorem Reads.bind
    {used used' : List σ} {a : α} {b : β} (hd : Reads d used a) (hnext : Reads (next a) used' b) :
    Reads (d >>= next) (used ++ used') b := by
  intro rest
  rw [List.append_assoc, hd.run_bind]
  exact hnext rest

theorem Reads.map {used : List σ} {a : α} (f : α → β)
    (hd : Reads d used a) : Reads (f <$> d) used (f a) := by
  intro rest
  show (d (used ++ rest) >>= fun r => Pure.pure (f r.1, r.2)) = _
  rw [hd]
  rfl

theorem Consumes.pure : Consumes (σ := σ) (ε := ε) 0 (Pure.pure a) := by
  intro buf b rest h
  cases h
  exact ⟨[], rfl, Nat.le_refl 0⟩

theorem bind_eq_ok {buf rest : List σ} {b : β} (h : (d >>= next) buf = .ok (b, rest)) :
    ∃ a mid, d buf = .ok (a, mid) ∧ next a mid = .ok (b, rest) := by
  have hbind : (d buf >>= fun r => next r.1 r.2) = .ok (b, rest) := h
  cases hfirst : d buf with
  | error e => rw [hfirst] at hbind; cases hbind
  | ok r =>
    rw [hfirst] at hbind
    exact ⟨r.1, r.2, rfl, hbind⟩

theorem Consumes.bind {m : Nat} (hd : Consumes m d)
    (hnext : ∀ a, Consumes n (next a)) : Consumes (m + n) (d >>= next) := by
  intro buf b rest h
  obtain ⟨a, mid, hfirst, hsecond⟩ := bind_eq_ok h
  obtain ⟨used, rfl, hused⟩ := hd _ _ _ hfirst
  obtain ⟨used', rfl, hused'⟩ := hnext a _ _ _ hsecond
  refine ⟨used ++ used', (List.append_assoc ..).symm, ?_⟩
  rw [List.length_append]
  exact Nat.add_le_add hused hused'

theorem Consumes.map (f : α → β) (hd : Consumes n d) : Consumes n (f <$> d) := by
  intro buf b rest h
  have hmap : (d buf >>= fun r => Pure.pure (f r.1, r.2)) = .ok (b, rest) := h
  cases hfirst : d buf with
  | error e => rw [hfirst] at hmap; cases hmap
  | ok r =>
    rw [hfirst] at hmap
    cases hmap
    exact hd _ _ _ hfirst

theorem Consumes.mono {m : Nat} (h : Consumes n d)
    (hle : m ≤ n) : Consumes m d := fun buf a rest hrun =>
  let ⟨used, hsplit, hused⟩ := h buf a rest hrun
  ⟨used, hsplit, Nat.le_trans hle hused⟩

theorem Consumes.length (h : Consumes n d)
    {buf rest : List σ} {a : α} (hrun : d buf = .ok (a, rest)) : n + rest.length ≤ buf.length := by
  obtain ⟨used, rfl, hused⟩ := h _ _ _ hrun
  rw [List.length_append]
  exact Nat.add_le_add_right hused _

theorem Extends.pure : Extends (σ := σ) (ε := ε) (Pure.pure a) := by
  intro buf b rest more h
  cases h
  rfl

theorem Extends.bind (hd : Extends d) (hnext : ∀ a, Extends (next a)) : Extends (d >>= next) := by
  intro buf b rest more h
  obtain ⟨a, mid, hfirst, hsecond⟩ := bind_eq_ok h
  show (d (buf ++ more) >>= fun r => next r.1 r.2) = _
  rw [hd _ _ _ more hfirst]
  exact hnext a _ _ _ more hsecond

end Lib
