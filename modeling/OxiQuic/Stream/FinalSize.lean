import OxiQuic.Stream.Completeness
import OxiQuic.Stream.Finish

/-!
# The final size of a stream, as it is received

Once a segment with FIN was accepted the stream ends where that segment does.  The receive half
holds later segments to it, but does not look back: it takes a FIN that lies below bytes it has
accepted before (`recv_fin_below_data`).  Where no such FIN arrives, the final size is kept in
both directions of time, and only there (`final_size_law_iff`).
-/

namespace OxiQuic

open Lib

/-- A receive half, the segments it has accepted, newest first, and all bytes read from it. -/
structure Inflow where
  rcv : RecvStream := {}
  accepted : List Segment := []
  output : Bytes := []

namespace Inflow

def step (t : Inflow) : IntakeOp → Inflow
  | .recv seg =>
    match t.rcv.recv seg with
    | (rcv, .ok _) => { t with rcv := rcv, accepted := seg :: t.accepted }
    | (rcv, .error _) => { t with rcv := rcv }
  | .read => { t with rcv := t.rcv.read.1, output := t.output ++ t.rcv.read.2.1 }

/-- A segment with FIN that ends at `size` was accepted. -/
def EndsAt (t : Inflow) (size : Nat) : Prop :=
  ∃ seg ∈ t.accepted, seg.fin = true ∧ seg.stop = size

/-- No accepted byte lies at an offset or beyond it. -/
def Within (t : Inflow) (size : Nat) : Prop :=
  ∀ seg ∈ t.accepted, seg.data ≠ [] → seg.stop ≤ size

/-- No byte at the final size or beyond was accepted or handed out. -/
def Final (t : Inflow) : Prop :=
  ∀ size, t.EndsAt size → t.Within size ∧ (t.output ++ t.rcv.ready).length ≤ size

/-- A segment that goes beyond the final size, a second FIN at another offset and a FIN below
accepted bytes are refused and change nothing. -/
def Refuses (t : Inflow) : IntakeOp → Prop
  | .recv seg =>
    (∃ size, t.EndsAt size ∧ (size < seg.stop ∨ seg.fin = true ∧ seg.stop ≠ size)) ∨
      (seg.fin = true ∧ ¬ t.Within seg.stop) →
    t.rcv.recv seg = (t.rcv, .error .finalSize)
  | .read => True

/-- The first FIN does not lie below accepted bytes. -/
def Fits (t : Inflow) : IntakeOp → Prop
  | .recv seg => seg.fin = true → t.rcv.finalSize = none → t.Within seg.stop
  | .read => True

/-- What the receive half knows of what it has accepted. -/
structure Tallies (t : Inflow) : Prop where
  size : ∀ size, t.rcv.finalSize = some size ↔ t.EndsAt size
  length : (t.output ++ t.rcv.ready).length = t.rcv.readOffset
  below : ∀ size, t.Within size → t.rcv.reassembler.Below size

theorem tallies_init : Tallies {} where
  size _ := by simp [EndsAt]
  length := rfl
  below _ _ := ⟨Nat.zero_le _, fun h => by cases h⟩

variable {t : Inflow} {seg : Segment}

theorem within_cons {size : Nat} (r : RecvStream) :
    Within { t with rcv := r, accepted := seg :: t.accepted } size ↔
      (seg.data ≠ [] → seg.stop ≤ size) ∧ t.Within size := List.forall_mem_cons

/-- A segment is refused and changes nothing, or accepted and nothing in it contradicts the known
final size. -/
theorem step_recv (t : Inflow) (seg : Segment) :
    (t.step (.recv seg) = t ∧ t.rcv.recv seg = (t.rcv, .error .finalSize)) ∨
      ∃ rcv, t.step (.recv seg) = { t with rcv := rcv, accepted := seg :: t.accepted } ∧
        t.rcv.violatesFinalSize seg.stop seg.fin = false ∧
        (rcv.reassembler, rcv.ready) = ((t.rcv.reassembler.accept seg.offset seg.data).1,
          t.rcv.ready ++ (t.rcv.reassembler.accept seg.offset seg.data).2) ∧
        rcv.finalSize = if seg.fin then some seg.stop else t.rcv.finalSize := by
  cases hviolates : t.rcv.violatesFinalSize seg.stop seg.fin with
  | true =>
    have hrecv : t.rcv.recv seg = (t.rcv, .error .finalSize) := if_pos hviolates
    exact .inl ⟨by rw [step, hrecv], hrecv⟩
  | false =>
    obtain ⟨news, hrecv⟩ := RecvStream.recv_ok hviolates
    exact .inr ⟨_, by rw [step, hrecv], rfl, rfl, rfl⟩

theorem accept_nil_below {r : Reassembler UInt8} {n : Nat} (h : r.Below n) (off : Nat) :
    (r.accept off []).1.Below n := by
  unfold Reassembler.accept
  split
  · exact h
  refine Reassembler.flushFuel_below _ ?_
  have htrim : (r.trim off []).2 = [] := by
    unfold Reassembler.trim
    split
    · exact List.drop_nil
    · rfl
  rw [htrim]
  exact h

theorem tallies_step (h : t.Tallies) (op : IntakeOp) : (t.step op).Tallies := by
  cases op with
  | read => exact ⟨h.size, by simpa [step, RecvStream.read] using h.length, h.below⟩
  | recv seg =>
    rcases t.step_recv seg with ⟨hsame, -⟩ | ⟨rcv, hstep, hviolates, hasm, hsize⟩
    · exact hsame.symm ▸ h
    rw [hstep]
    obtain ⟨hreassembler, hready⟩ := Prod.mk.inj hasm
    refine ⟨fun size => ?_, ?_, fun size hwithin => ?_⟩
    · have hends : EndsAt { t with rcv := rcv, accepted := seg :: t.accepted } size ↔
          (seg.fin = true ∧ seg.stop = size) ∨ t.EndsAt size := by
        simp only [EndsAt, List.mem_cons, exists_eq_or_imp]
      rw [hends, ← h.size, hsize]
      cases hfin : seg.fin with
      | false => simp
      | true =>
        simp only [if_true, Option.some.injEq, true_and]
        refine ⟨.inl, fun hor => hor.elim id fun hold => ?_⟩
        have hkept := (RecvStream.finalSize_of_not_violates hviolates hold).1
        rw [if_pos hfin] at hkept
        exact Option.some.inj hkept
    · have hnext := t.rcv.reassembler.accept_length seg.offset seg.data
      have hlength := h.length
      have hoffset : rcv.readOffset = (t.rcv.reassembler.accept seg.offset seg.data).1.next :=
        congrArg (·.next) hreassembler
      have hold : t.rcv.reassembler.next = t.rcv.readOffset := rfl
      simp only [List.length_append] at hlength ⊢
      rw [hready, List.length_append, hoffset]
      omega
    · obtain ⟨hseg, hold⟩ := (within_cons rcv).mp hwithin
      show rcv.reassembler.Below size
      rw [hreassembler]
      by_cases hdata : seg.data = []
      · rw [hdata]
        exact accept_nil_below (h.below size hold) seg.offset
      · exact Reassembler.accept_below (h.below size hold) (hseg hdata)

/-- A step whose FIN fits keeps the final size, and refuses what goes against it. -/
theorem final_step (h : t.Tallies) (hfinal : t.Final) {op : IntakeOp} (hfits : t.Fits op) :
    t.Refuses op ∧ (t.step op).Final := by
  have htallies := tallies_step h op
  cases op with
  | read =>
    refine ⟨trivial, fun size hends => ⟨(hfinal size hends).1, ?_⟩⟩
    have := (hfinal size hends).2
    simpa [step, RecvStream.read] using this
  | recv seg =>
    rcases t.step_recv seg with ⟨hsame, hrecv⟩ | ⟨rcv, hstep, hviolates, -, hsize⟩
    · exact ⟨fun _ => hrecv, hsame.symm ▸ hfinal⟩
    -- an accepted segment is within the final size, be it known before or set now
    have hwithin : ∀ size, (if seg.fin then some seg.stop else t.rcv.finalSize) = some size →
        seg.stop ≤ size ∧ t.Within size := by
      intro size hset
      cases hknown : t.rcv.finalSize with
      | some old =>
        obtain ⟨hkept, hle⟩ := RecvStream.finalSize_of_not_violates hviolates hknown
        cases hkept.symm.trans hset
        exact ⟨hle, (hfinal _ ((h.size _).mp hknown)).1⟩
      | none =>
        rw [hknown] at hset
        split at hset
        · rename_i hfin
          cases hset
          exact ⟨Nat.le_refl _, hfits hfin hknown⟩
        · cases hset
    constructor
    · rintro (⟨size, hends, hbad⟩ | ⟨hfin, hbad⟩)
      · obtain ⟨hkept, hle⟩ :=
          RecvStream.finalSize_of_not_violates hviolates ((h.size size).mpr hends)
        rcases hbad with hbad | ⟨hfin, hbad⟩
        · exact absurd hle (Nat.not_le.mpr hbad)
        · rw [if_pos hfin] at hkept
          exact absurd (Option.some.inj hkept) hbad
      · exact absurd (hwithin seg.stop (if_pos hfin)).2 hbad
    · intro size hends
      have hset := (htallies.size size).mpr hends
      have hlength := htallies.length
      have hbelow := htallies.below size
      rw [hstep] at hset hlength hbelow ⊢
      obtain ⟨hle, hold⟩ := hwithin size (hsize ▸ hset)
      have hall := (within_cons rcv).mpr ⟨fun _ => hle, hold⟩
      exact ⟨hall, hlength ▸ (hbelow hall).next_le⟩

end Inflow

/-- In a run of `recv` and `read` the final size is kept and what goes against it is refused, in
every state and at every step, exactly if the first FIN never lies below accepted bytes. -/
theorem final_size_law_iff (ops : List IntakeOp) :
    Along Inflow.step (fun t op => t.Refuses op ∧ (t.step op).Final) {} ops ↔
      Along Inflow.step Inflow.Fits {} ops := by
  constructor
  · refine Along.imp_of_invariant (I := Inflow.Tallies)
      (fun _ op h _ => Inflow.tallies_step h op) (fun t op h hlaw => ?_) Inflow.tallies_init
    cases op with
    | read => trivial
    | recv seg =>
      intro hfin hnone
      by_contra hbelow
      -- such a FIN would have to be refused, but no final size is known
      have hrefused := hlaw.1 (.inr ⟨hfin, hbelow⟩)
      have hviolates : t.rcv.violatesFinalSize seg.stop seg.fin = false := by
        rw [RecvStream.violatesFinalSize, hnone]
      obtain ⟨news, hrecv⟩ := RecvStream.recv_ok hviolates
      rw [hrefused] at hrecv
      cases (Prod.mk.inj hrecv).2
  · refine Along.imp_of_invariant (I := fun t => t.Tallies ∧ t.Final)
      (fun _ op h hfits => ⟨Inflow.tallies_step h.1 op, (Inflow.final_step h.1 h.2 hfits).2⟩)
      (fun _ _ h hfits => Inflow.final_step h.1 h.2 hfits) ⟨Inflow.tallies_init, ?_⟩
    rintro size ⟨seg, hseg, -⟩
    cases hseg

/-- Three bytes are received, then a FIN at offset 1 is accepted, and all three bytes are read. -/
theorem recv_fin_below_data :
    let received := (({} : RecvStream).recv ⟨0, [1, 2, 3], false⟩).1
    let finished := received.recv ⟨1, [], true⟩
    finished.2 = .ok true ∧ finished.1.finalSize = some 1 ∧ finished.1.read.2 = ([1, 2, 3], true) := by
  decide +kernel

end OxiQuic
