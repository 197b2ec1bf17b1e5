import OxiQuic.Connection.Cid
import OxiQuic.Lib.Run
import Mathlib.Data.List.Nodup

/-!
# The connection IDs of the peer

A pool of the peer's connection IDs under any sequence of `NEW_CONNECTION_ID` frames, with the
history of what it was told: which sequence numbers it knows, which it has put up for
retirement, and the largest `retire_prior_to` it accepted.

Two kinds of frames are treated wrongly.  A sequence number that is below the threshold when it
arrives becomes active all the same, and a frame for a sequence number that is active already is
passed over together with its `retire_prior_to`.  The pool does what it should exactly if no such
frame comes (`peer_pool_orderly`).
-/

namespace OxiQuic

open Lib

/-- A call into the pool. -/
inductive PoolCall where
  | receiveNewCid (seq retirePriorTo : Nat) (cid : ConnectionId) (statelessResetToken : Bytes)
  | popPendingRetire

namespace PeerCidPool

/-- A sequence number is active. -/
def Has (p : PeerCidPool) (seq : Nat) : Prop := ∃ c ∈ p.active, c.seq = seq

instance (p : PeerCidPool) (seq : Nat) : Decidable (p.Has seq) :=
  inferInstanceAs (Decidable (∃ c ∈ p.active, c.seq = seq))

variable (p : PeerCidPool)

theorem any_iff_has (seq : Nat) : p.active.any (·.seq == seq) = true ↔ p.Has seq := by
  simp [Has]

/-- How many active entries a `retire_prior_to` leaves. -/
def remaining (p : PeerCidPool) (retirePriorTo : Nat) : Nat :=
  (p.active.filter fun c => decide (retirePriorTo ≤ c.seq)).length

/-- What a `NEW_CONNECTION_ID` frame does. -/
inductive Receives (p : PeerCidPool) (issued : IssuedCid) (retirePriorTo : Nat) :
    PeerCidPool × Except OxiQuicError Unit → Prop where
  | reject (e : OxiQuicError) : issued.seq < retirePriorTo ∨
      ¬ p.Has issued.seq ∧ p.limit ≤ p.remaining retirePriorTo →
      Receives p issued retirePriorTo (p, .error e)
  | repeated : retirePriorTo ≤ issued.seq → p.Has issued.seq →
      Receives p issued retirePriorTo (p, .ok ())
  | accept : retirePriorTo ≤ issued.seq → ¬ p.Has issued.seq →
      p.remaining retirePriorTo < p.limit →
      Receives p issued retirePriorTo
        ({ p.retirePriorTo retirePriorTo with
            active := (p.retirePriorTo retirePriorTo).active ++ [issued] }, .ok ())

theorem receiveNewCid_receives (issued : IssuedCid) (retirePriorTo : Nat) :
    p.Receives issued retirePriorTo
      (p.receiveNewCid issued.seq retirePriorTo issued.cid issued.statelessResetToken) := by
  simp only [receiveNewCid]
  split
  · next hprior => exact .reject _ (.inl hprior)
  rename_i hprior
  split
  · next hhas => exact .repeated (Nat.le_of_not_lt hprior) ((p.any_iff_has _).mp hhas)
  rename_i hhas
  have hnew : ¬ p.Has issued.seq := fun h => hhas ((p.any_iff_has _).mpr h)
  split
  · next hfull => exact .reject _ (.inr ⟨hnew, Nat.le_of_lt_succ hfull⟩)
  next hroom => exact .accept (Nat.le_of_not_lt hprior) hnew (by
    simp only [remaining]
    omega)

theorem retirePriorTo_active {p : PeerCidPool} (h : ∀ c ∈ p.active, p.retireThreshold ≤ c.seq)
    (prior : Nat) :
    (p.retirePriorTo prior).active = p.active.filter (fun c => decide (prior ≤ c.seq)) ∧
      (p.retirePriorTo prior).pendingRetire = p.pendingRetire ++
        (p.active.filter fun c => decide (c.seq < prior)).map (·.seq) := by
  simp only [retirePriorTo]
  split
  · exact ⟨rfl, rfl⟩
  rename_i hle
  have hall : p.active.filter (fun c => decide (prior ≤ c.seq)) = p.active := by
    refine List.filter_eq_self.mpr fun c hc => decide_eq_true ?_
    have := h c hc
    omega
  have hnone : p.active.filter (fun c => decide (c.seq < prior)) = [] := by
    refine List.filter_eq_nil_iff.mpr fun c hc => ?_
    have := h c hc
    simp only [decide_eq_true_eq]
    omega
  rw [hall, hnone]
  exact ⟨rfl, (List.append_nil _).symm⟩

theorem retirePriorTo_threshold_le (prior : Nat) :
    (p.retirePriorTo prior).retireThreshold ≤ max p.retireThreshold prior := by
  simp only [retirePriorTo]
  split
  · exact Nat.le_max_right ..
  · exact Nat.le_max_left ..

@[simp] theorem retirePriorTo_limit (prior : Nat) : (p.retirePriorTo prior).limit = p.limit := by
  simp only [retirePriorTo]
  split <;> rfl

end PeerCidPool

/-- A pool with its history. -/
structure PoolHistory where
  pool : PeerCidPool
  /-- The sequence numbers the pool was told of. -/
  known : List Nat
  /-- The sequence numbers that were put into `pendingRetire`. -/
  retired : List Nat
  /-- The largest `retire_prior_to` that was accepted. -/
  priorTo : Nat
  deriving DecidableEq

namespace PoolHistory

def start (initialCid : ConnectionId) (limit : Nat) : PoolHistory :=
  ⟨.new initialCid limit, [0], [], 0⟩

/-- The history after a frame that is not rejected. -/
def after (h : PoolHistory) (pool : PeerCidPool) (seq retirePriorTo : Nat) : PoolHistory where
  pool := pool
  known := seq :: h.known
  -- what the call has put at the end of the queue
  retired := h.retired ++ pool.pendingRetire.drop h.pool.pendingRetire.length
  priorTo := max h.priorTo retirePriorTo

def step (h : PoolHistory) : PoolCall → PoolHistory
  | .receiveNewCid seq retirePriorTo cid token =>
    let r := h.pool.receiveNewCid seq retirePriorTo cid token
    match r.2 with
    | .error _ => { h with pool := r.1 }
    | .ok () => h.after r.1 seq retirePriorTo
  | .popPendingRetire => { h with pool := h.pool.popPendingRetire.1 }

/-- What the pool should keep up. -/
structure Good (h : PoolHistory) : Prop where
  distinct : (h.pool.active.map (·.seq)).Nodup
  current : ∀ c ∈ h.pool.active, h.priorTo ≤ c.seq
  bounded : h.pool.active.length ≤ max h.pool.limit 1
  retiredOnce : ∀ seq ∈ h.known, seq < h.priorTo → h.retired.count seq = 1
  staysRetired : ∀ seq ∈ h.retired, ¬ h.pool.Has seq

/-- What else holds as long as it does. -/
structure Kept (h : PoolHistory) : Prop where
  threshold : h.pool.retireThreshold ≤ h.priorTo
  remembered : ∀ seq ∈ h.known, h.priorTo ≤ seq → h.pool.Has seq
  past : ∀ seq ∈ h.retired, seq < h.priorTo

/-- A frame that is accepted is about a sequence number that is not retired, or repeats one
without retiring anything that is active. -/
def Orderly (h : PoolHistory) : PoolCall → Prop
  | .receiveNewCid seq retirePriorTo _ _ => retirePriorTo ≤ seq →
      (h.pool.Has seq → ∀ c ∈ h.pool.active, retirePriorTo ≤ c.seq) ∧
      (¬ h.pool.Has seq → h.pool.remaining retirePriorTo < h.pool.limit → h.priorTo ≤ seq)
  | .popPendingRetire => True

instance (h : PoolHistory) : (call : PoolCall) → Decidable (h.Orderly call)
  | .receiveNewCid _ _ _ _ => inferInstanceAs (Decidable (_ → _ ∧ _))
  | .popPendingRetire => .isTrue trivial

theorem start_good (initialCid : ConnectionId) (limit : Nat) : (start initialCid limit).Good where
  distinct := List.nodup_singleton 0
  current _ _ := Nat.zero_le _
  bounded := Nat.le_max_right ..
  retiredOnce _ _ h := absurd h (Nat.not_lt_zero _)
  staysRetired := nofun

theorem start_kept (initialCid : ConnectionId) (limit : Nat) : (start initialCid limit).Kept where
  threshold := Nat.le_refl 0
  remembered seq hseq _ := by
    rw [List.mem_singleton.mp hseq]
    exact ⟨_, List.mem_singleton.mpr rfl, rfl⟩
  past := nofun

/-! ## One call -/

variable {h : PoolHistory}

/-! ### A frame that repeats a sequence number -/

section Repeated

variable {seq prior : Nat}

theorem after_self_retired (h : PoolHistory) (seq prior : Nat) :
    (h.after h.pool seq prior).retired = h.retired := by
  simp [after]

theorem Good.repeated (hgood : h.Good) (hkept : h.Kept)
    (hhas : h.pool.Has seq) (horder : ∀ c ∈ h.pool.active, prior ≤ c.seq) :
    (h.after h.pool seq prior).Good where
  distinct := hgood.distinct
  current c hc := Nat.max_le.mpr ⟨hgood.current c hc, horder c hc⟩
  bounded := hgood.bounded
  retiredOnce s hs hlt := by
    rw [after_self_retired]
    have hactive : ∀ s, h.pool.Has s → h.priorTo ≤ s ∧ prior ≤ s := by
      rintro s ⟨c, hc, rfl⟩
      exact ⟨hgood.current c hc, horder c hc⟩
    have hknown : s ∈ h.known ∧ s < h.priorTo := by
      have hlt' : s < max h.priorTo prior := hlt
      rcases List.mem_cons.mp hs with rfl | hs
      · have := hactive s hhas
        omega
      refine ⟨hs, Nat.lt_of_not_le fun hle => ?_⟩
      have := hactive s (hkept.remembered s hs hle)
      omega
    exact hgood.retiredOnce s hknown.1 hknown.2
  staysRetired s hs := by
    rw [after_self_retired] at hs
    exact hgood.staysRetired s hs

theorem Kept.repeated (hkept : h.Kept) (hhas : h.pool.Has seq) :
    (h.after h.pool seq prior).Kept where
  threshold := Nat.le_trans hkept.threshold (Nat.le_max_left ..)
  remembered s hs hle := by
    rcases List.mem_cons.mp hs with rfl | hs
    · exact hhas
    · exact hkept.remembered s hs (Nat.le_trans (Nat.le_max_left ..) hle)
  past s hs := by
    rw [after_self_retired] at hs
    exact Nat.lt_of_lt_of_le (hkept.past s hs) (Nat.le_max_left ..)

end Repeated

/-! ### A new sequence number -/

section Accepted

variable {issued : IssuedCid} {prior : Nat}

/-- The pool with one more connection ID. -/
def accepted (h : PoolHistory) (issued : IssuedCid) (prior : Nat) : PoolHistory :=
  h.after { h.pool.retirePriorTo prior with
    active := (h.pool.retirePriorTo prior).active ++ [issued] } issued.seq prior

theorem Good.live (hgood : h.Good) (hkept : h.Kept) :
    ∀ c ∈ h.pool.active, h.pool.retireThreshold ≤ c.seq :=
  fun c hc => Nat.le_trans hkept.threshold (hgood.current c hc)

theorem mem_accepted (hgood : h.Good) (hkept : h.Kept) {c : IssuedCid} :
    c ∈ (h.accepted issued prior).pool.active ↔ c ∈ h.pool.active ∧ prior ≤ c.seq ∨ c = issued := by
  have hactive := (PeerCidPool.retirePriorTo_active (hgood.live hkept) prior).1
  simp [accepted, after, hactive]

/-- The sequence numbers that a frame retires. -/
def retiring (h : PoolHistory) (prior : Nat) : List Nat :=
  (h.pool.active.filter fun c => decide (c.seq < prior)).map (·.seq)

theorem mem_retiring {seq : Nat} : seq ∈ h.retiring prior ↔ h.pool.Has seq ∧ seq < prior := by
  simp only [retiring, List.mem_map, List.mem_filter, decide_eq_true_eq, PeerCidPool.Has]
  constructor
  · rintro ⟨c, ⟨hc, hlt⟩, rfl⟩
    exact ⟨⟨c, hc, rfl⟩, hlt⟩
  · rintro ⟨⟨c, hc, rfl⟩, hlt⟩
    exact ⟨c, ⟨hc, hlt⟩, rfl⟩

theorem accepted_retired (hgood : h.Good) (hkept : h.Kept) :
    (h.accepted issued prior).retired = h.retired ++ h.retiring prior := by
  have hpending := (PeerCidPool.retirePriorTo_active (hgood.live hkept) prior).2
  simp [accepted, after, hpending, retiring]

/-- What is known and falls below the threshold was retired before, or is active and retired by
this frame. -/
theorem Good.accepted_retiredOnce (hgood : h.Good) (hkept : h.Kept) {seq : Nat}
    (hknown : seq ∈ h.known) (hlt : seq < max h.priorTo prior) :
    (h.retired ++ h.retiring prior).count seq = 1 := by
  rw [List.count_append]
  rcases Nat.lt_or_ge seq h.priorTo with hold | hnew
  · have hnot : seq ∉ h.retiring prior := by
      intro hmem
      obtain ⟨⟨c, hc, rfl⟩, -⟩ := mem_retiring.mp hmem
      exact Nat.not_lt.mpr (hgood.current c hc) hold
    rw [hgood.retiredOnce seq hknown hold, List.count_eq_zero.mpr hnot]
  have hnot : seq ∉ h.retired := fun hmem => Nat.not_lt.mpr hnew (hkept.past seq hmem)
  have hmem : seq ∈ h.retiring prior :=
    mem_retiring.mpr ⟨hkept.remembered seq hknown hnew, by omega⟩
  have hnodup : (h.retiring prior).Nodup := hgood.distinct.sublist (List.filter_sublist.map _)
  rw [List.count_eq_zero.mpr hnot, List.count_eq_one_of_mem hnodup hmem]

theorem Good.accepted (hgood : h.Good) (hkept : h.Kept) (hprior : prior ≤ issued.seq)
    (hnew : ¬ h.pool.Has issued.seq) (hroom : h.pool.remaining prior < h.pool.limit)
    (horder : h.priorTo ≤ issued.seq) : (h.accepted issued prior).Good where
  distinct := by
    have hactive := (PeerCidPool.retirePriorTo_active (hgood.live hkept) prior).1
    have hrest := hgood.distinct.sublist
      ((List.filter_sublist (p := fun c : IssuedCid => decide (prior ≤ c.seq))).map (·.seq))
    simp only [PoolHistory.accepted, after, hactive, List.map_append, List.map_cons, List.map_nil]
    refine List.nodup_append.mpr ⟨hrest, List.nodup_singleton _, ?_⟩
    rintro seq hseq _ hissued rfl
    obtain ⟨c, hc, hcseq⟩ := List.mem_map.mp hseq
    exact hnew ⟨c, (List.mem_filter.mp hc).1, hcseq.trans (List.mem_singleton.mp hissued)⟩
  current c hc := by
    rcases (mem_accepted hgood hkept).mp hc with ⟨hc, hle⟩ | rfl
    · exact Nat.max_le.mpr ⟨hgood.current c hc, hle⟩
    · exact Nat.max_le.mpr ⟨horder, hprior⟩
  bounded := by
    have hactive := (PeerCidPool.retirePriorTo_active (hgood.live hkept) prior).1
    simp only [PeerCidPool.remaining] at hroom
    simp only [PoolHistory.accepted, after, hactive, PeerCidPool.retirePriorTo_limit,
      List.length_append, List.length_singleton]
    omega
  retiredOnce seq hseq hlt := by
    rw [accepted_retired hgood hkept]
    rcases List.mem_cons.mp hseq with rfl | hknown
    · exact absurd hlt (Nat.not_lt.mpr (Nat.max_le.mpr ⟨horder, hprior⟩))
    · exact hgood.accepted_retiredOnce hkept hknown hlt
  staysRetired seq hseq := by
    rw [accepted_retired hgood hkept] at hseq
    rintro ⟨c, hc, rfl⟩
    rcases List.mem_append.mp hseq with hold | hretiring
    · rcases (mem_accepted hgood hkept).mp hc with ⟨hc, -⟩ | rfl
      · exact hgood.staysRetired _ hold ⟨c, hc, rfl⟩
      · exact Nat.not_lt.mpr horder (hkept.past _ hold)
    have hlt := (mem_retiring.mp hretiring).2
    rcases (mem_accepted hgood hkept).mp hc with ⟨-, hle⟩ | rfl
    · exact Nat.not_lt.mpr hle hlt
    · exact Nat.not_lt.mpr hprior hlt

theorem Kept.accepted (hkept : h.Kept) (hgood : h.Good) : (h.accepted issued prior).Kept where
  threshold := by
    have hle := h.pool.retirePriorTo_threshold_le prior
    have hthreshold := hkept.threshold
    simp only [PoolHistory.accepted, after]
    omega
  remembered seq hseq hle := by
    rcases List.mem_cons.mp hseq with rfl | hknown
    · exact ⟨issued, (mem_accepted hgood hkept).mpr (.inr rfl), rfl⟩
    have hle' : h.priorTo ≤ seq ∧ prior ≤ seq := Nat.max_le.mp hle
    obtain ⟨c, hc, rfl⟩ := hkept.remembered seq hknown hle'.1
    exact ⟨c, (mem_accepted hgood hkept).mpr (.inl ⟨hc, hle'.2⟩), rfl⟩
  past seq hseq := by
    rw [accepted_retired hgood hkept] at hseq
    rcases List.mem_append.mp hseq with hold | hretiring
    · exact Nat.lt_of_lt_of_le (hkept.past seq hold) (Nat.le_max_left ..)
    · exact Nat.lt_of_lt_of_le (mem_retiring.mp hretiring).2 (Nat.le_max_right ..)

end Accepted

/-! ### Any call -/

/-- What a call leads to. -/
inductive Leads (h : PoolHistory) : PoolCall → PoolHistory → Prop where
  | rejected (issued : IssuedCid) (prior : Nat) : issued.seq < prior ∨
      ¬ h.pool.Has issued.seq ∧ h.pool.limit ≤ h.pool.remaining prior →
      Leads h (.receiveNewCid issued.seq prior issued.cid issued.statelessResetToken) h
  | repeated (issued : IssuedCid) (prior : Nat) : prior ≤ issued.seq → h.pool.Has issued.seq →
      Leads h (.receiveNewCid issued.seq prior issued.cid issued.statelessResetToken)
        (h.after h.pool issued.seq prior)
  | accepted (issued : IssuedCid) (prior : Nat) : prior ≤ issued.seq → ¬ h.pool.Has issued.seq →
      h.pool.remaining prior < h.pool.limit →
      Leads h (.receiveNewCid issued.seq prior issued.cid issued.statelessResetToken)
        (h.accepted issued prior)
  | popped : Leads h .popPendingRetire { h with pool := h.pool.popPendingRetire.1 }

theorem step_leads (h : PoolHistory) (call : PoolCall) : h.Leads call (h.step call) := by
  cases call with
  | popPendingRetire => exact .popped
  | receiveNewCid seq prior cid token =>
    have hr := h.pool.receiveNewCid_receives ⟨seq, cid, token⟩ prior
    simp only [step]
    generalize h.pool.receiveNewCid seq prior cid token = r at hr ⊢
    cases hr with
    | reject e hwhy => exact .rejected ⟨seq, cid, token⟩ prior hwhy
    | repeated hprior hhas => exact .repeated ⟨seq, cid, token⟩ prior hprior hhas
    | accept hprior hnew hroom =>
      exact .accepted ⟨seq, cid, token⟩ prior hprior hnew hroom

theorem Good.popped (hgood : h.Good) :
    ({ h with pool := h.pool.popPendingRetire.1 } : PoolHistory).Good :=
  ⟨hgood.distinct, hgood.current, hgood.bounded, hgood.retiredOnce, hgood.staysRetired⟩

theorem Kept.step (hkept : h.Kept) (hgood : h.Good) (call : PoolCall) : (h.step call).Kept := by
  have hleads := h.step_leads call
  generalize h.step call = h' at hleads ⊢
  cases hleads with
  | rejected => exact hkept
  | repeated _ _ _ hhas => exact hkept.repeated hhas
  | accepted => exact hkept.accepted hgood
  | popped => exact ⟨hkept.threshold, hkept.remembered, hkept.past⟩

theorem Good.step_iff (hgood : h.Good) (hkept : h.Kept) (call : PoolCall) :
    (h.step call).Good ↔ h.Orderly call := by
  have hleads := h.step_leads call
  generalize h.step call = h' at hleads ⊢
  cases hleads with
  | rejected _ _ hwhy =>
    refine iff_of_true hgood fun hprior => ?_
    rcases hwhy with hlt | ⟨hnew, hfull⟩
    · exact absurd hprior (Nat.not_le.mpr hlt)
    · exact ⟨fun hhas => absurd hhas hnew, fun _ hroom => absurd hroom (Nat.not_lt.mpr hfull)⟩
  | repeated _ _ hprior hhas =>
    constructor
    · intro hnext _
      exact ⟨fun _ c hc => (Nat.max_le.mp (hnext.current c hc)).2, fun hnew => absurd hhas hnew⟩
    · exact fun horder => hgood.repeated hkept hhas ((horder hprior).1 hhas)
  | accepted issued prior hprior hnew hroom =>
    constructor
    · intro hnext _
      have hissued := hnext.current issued ((mem_accepted hgood hkept).mpr (.inr rfl))
      exact ⟨fun hhas => absurd hhas hnew, fun _ _ => (Nat.max_le.mp hissued).1⟩
    · exact fun horder => hgood.accepted hkept hprior hnew hroom ((horder hprior).2 hnew hroom)
  | popped => exact iff_of_true hgood.popped trivial

/-! ## Any sequence of calls -/

/-- A new pool is as it should be, and stays so after each call exactly if each call is orderly. -/
theorem peer_pool_orderly (initialCid : ConnectionId) (limit : Nat) (calls : List PoolCall) :
    (start initialCid limit).Good ∧
      (Along step (fun h call => (h.step call).Good) (start initialCid limit) calls ↔
        Along step Orderly (start initialCid limit) calls) := by
  refine ⟨start_good initialCid limit, ?_⟩
  have hall : Along step (fun _ _ => True) (start initialCid limit) calls :=
    Along.of_forall fun _ _ => trivial
  exact Along.stays_iff (C := fun _ _ => True) (I := Kept) (W := Good)
    (fun _ call hkept _ hgood _ => hkept.step hgood call)
    (fun _ call hkept _ hgood => hgood.step_iff hkept call)
    (start_kept initialCid limit) (start_good initialCid limit) hall

/-- A frame that arrives late makes a sequence number active that was to be retired, and one that
repeats an active sequence number leaves active what it retires. -/
theorem peer_pool_late_frame :
    ¬ (run step (start [1] 3) [.receiveNewCid 3 2 [2] [], .receiveNewCid 1 0 [3] []]).Good ∧
    ¬ (run step (start [1] 3) [.receiveNewCid 3 0 [2] [], .receiveNewCid 3 2 [2] []]).Good := by
  constructor
  · intro hgood
    have hlate : (2 : Nat) ≤ 1 := hgood.current ⟨1, [3], []⟩ (by decide)
    omega
  intro hgood
  have hold : (2 : Nat) ≤ 0 := hgood.current ⟨0, [1], List.replicate 16 0⟩ (by decide)
  omega

end PoolHistory

end OxiQuic
