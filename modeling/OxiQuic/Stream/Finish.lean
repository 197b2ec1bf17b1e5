import OxiQuic.Stream.Basic

/-!
# The end of a receive half

What can happen to a receive half, and that nothing comes after its end: once a read has
reported the end of the stream, every later read returns no bytes and reports it again.
-/

namespace OxiQuic

/-- What the reads of a receive half have returned so far, and whether they reported its
end. -/
structure Given where
  bytes : Bytes := []
  fin : Bool := false
  deriving DecidableEq

namespace RecvStream

/-- What can happen to a receive half. -/
inductive Turns (s : RecvStream) : RecvStream → Prop where
  | same : Turns s s
  | recv (seg : Segment) : s.isReset = false → Turns s (s.recv seg).1
  | reset (errorCode : Nat) : Turns s (s.applyReset errorCode)
  | read : Turns s s.readChecked.1

/-- The end was reached only with all bytes up to the final size. -/
def Ending (s : RecvStream) : Prop :=
  s.finDelivered = true → ∃ fsize, s.finalSize = some fsize ∧ fsize ≤ s.readOffset

/-- The end was reported. -/
structure Over (s : RecvStream) : Prop where
  ready : s.ready = []
  pending : s.pending.isEmpty = true
  finDelivered : s.finDelivered = true

instance (s : RecvStream) : Decidable s.Over :=
  decidable_of_iff (s.ready = [] ∧ s.pending.isEmpty = true ∧ s.finDelivered = true)
    ⟨fun h => ⟨h.1, h.2.1, h.2.2⟩, fun h => ⟨h.ready, h.pending, h.finDelivered⟩⟩

theorem ending_new : Ending {} := nofun

variable {s : RecvStream}

theorem recv_of_violates {seg : Segment}
    (h : s.violatesFinalSize seg.stop seg.fin = true) : (s.recv seg).1 = s := by
  rw [recv, if_pos h]

theorem finalSize_of_not_violates {seg : Segment} {fsize : Nat}
    (h : s.violatesFinalSize seg.stop seg.fin = false) (hfsize : s.finalSize = some fsize) :
    (if seg.fin then some seg.stop else s.finalSize) = some fsize ∧ seg.stop ≤ fsize := by
  simp only [violatesFinalSize, hfsize, Bool.or_eq_false_iff, decide_eq_false_iff_not,
    Bool.and_eq_false_iff, Nat.not_lt] at h
  obtain ⟨hle, hfin⟩ := h
  refine ⟨?_, hle⟩
  cases hseg : seg.fin with
  | false => exact hfsize
  | true =>
    rcases hfin with hfin | hfin
    · rw [hseg] at hfin
      cases hfin
    · have hstop : seg.stop = fsize := by simpa using hfin
      rw [if_pos rfl, hstop]

theorem ending_recv (h : s.Ending) (seg : Segment) : (s.recv seg).1.Ending := by
  cases hviolates : s.violatesFinalSize seg.stop seg.fin with
  | true => rwa [recv_of_violates hviolates]
  | false =>
    obtain ⟨news, hrecv⟩ := recv_ok hviolates
    have hnext := s.reassembler.accept_next_le seg.offset seg.data
    rw [hrecv]
    intro hfin
    rcases Bool.or_eq_true_iff.mp hfin with hold | hnew
    · obtain ⟨fsize, hfsize, hle⟩ := h hold
      exact ⟨fsize, (finalSize_of_not_violates hviolates hfsize).1, Nat.le_trans hle hnext⟩
    cases hsize : (if seg.fin then some seg.stop else s.finalSize) with
    | none => simp [hsize] at hnew
    | some fsize =>
      rw [hsize] at hnew
      exact ⟨fsize, rfl, of_decide_eq_true hnew⟩

theorem Turns.ending {s' : RecvStream} (hturn : s.Turns s') (h : s.Ending) : s'.Ending := by
  cases hturn with
  | same | reset => exact h
  | recv seg => exact ending_recv h seg
  | read =>
    simp only [readChecked]
    split <;> exact h

theorem over_recv (h : s.Over) (hending : s.Ending) (seg : Segment) : (s.recv seg).1.Over := by
  cases hviolates : s.violatesFinalSize seg.stop seg.fin with
  | true => rwa [recv_of_violates hviolates]
  | false =>
    obtain ⟨fsize, hfsize, hle⟩ := hending h.finDelivered
    have hstop := (finalSize_of_not_violates hviolates hfsize).2
    have hold : s.reassembler.accept seg.offset seg.data = (s.reassembler, []) :=
      if_pos (Nat.le_trans hstop hle)
    obtain ⟨news, hrecv⟩ := recv_ok hviolates
    rw [hrecv, hold]
    exact ⟨by rw [h.ready]; rfl, h.pending, by rw [h.finDelivered]; rfl⟩

theorem Turns.over {s' : RecvStream} (hturn : s.Turns s') (h : s.Over) (hending : s.Ending) :
    s'.Over := by
  cases hturn with
  | same => exact h
  | recv seg => exact over_recv h hending seg
  | reset errorCode => exact ⟨rfl, rfl, h.finDelivered⟩
  | read =>
    simp only [readChecked]
    split
    · exact h
    · exact ⟨rfl, h.pending, h.finDelivered⟩

theorem over_of_readChecked {bytes : Bytes}
    (h : s.readChecked.2 = .ok (bytes, true)) : s.readChecked.1.Over := by
  simp only [readChecked] at h ⊢
  split at h
  · cases h
  · simp only [read, Except.ok.injEq, Prod.mk.injEq, Bool.and_eq_true] at h
    exact ⟨rfl, h.2.2, h.2.1⟩

theorem Over.readChecked (h : s.Over) {result : Bytes × Bool}
    (hread : s.readChecked.2 = .ok result) : result = ([], true) := by
  simp only [RecvStream.readChecked] at hread
  split at hread
  · cases hread
  simp only [read, Except.ok.injEq] at hread
  rw [← hread, h.ready, h.finDelivered, h.pending]
  rfl

end RecvStream

end OxiQuic
