import OxiQuic.Stream.Finish

/-!
# Data that came before

A receive half that delivers whatever it can is settled, and every half of a connection is.  On
such a half a segment has no effect exactly if the half has it (`recv_fst_eq_self_iff`), and no
bytes become readable exactly if it does not hold the next offset (`ready_recv_eq_iff`).
-/

namespace OxiQuic

open Lib

namespace RecvStream

/-- What can be delivered is delivered, and the end with it. -/
structure Settled (s : RecvStream) : Prop where
  flushed : s.reassembler.Flushed
  ended : ∀ fsize, s.finalSize = some fsize → fsize ≤ s.readOffset → s.finDelivered = true

theorem settled_new : Settled {} where
  flushed := nofun
  ended := nofun

variable {s : RecvStream}

theorem Settled.recv (h : s.Settled) (seg : Segment) : (s.recv seg).1.Settled := by
  cases hviolates : s.violatesFinalSize seg.stop seg.fin with
  | true => rwa [recv_of_violates hviolates]
  | false =>
    obtain ⟨news, hrecv⟩ := recv_ok hviolates
    rw [hrecv]
    refine ⟨Reassembler.accept_flushed h.flushed seg.offset seg.data, fun fsize hfsize hle => ?_⟩
    simp only at hfsize hle
    rw [hfsize]
    exact Bool.or_eq_true_iff.mpr (.inr (decide_eq_true hle))

theorem Turns.settled {s' : RecvStream} (hturn : s.Turns s') (h : s.Settled) : s'.Settled := by
  cases hturn with
  | same => exact h
  | recv seg => exact h.recv seg
  | reset errorCode => exact ⟨nofun, h.ended⟩
  | read =>
    simp only [readChecked]
    split
    · exact h
    · exact ⟨h.flushed, h.ended⟩

/-- A half has what a segment says: the end and the bytes, delivered or stored. -/
def Has (s : RecvStream) (seg : Segment) : Prop :=
  (seg.fin = true → s.finalSize = some seg.stop) ∧
    (seg.stop ≤ s.readOffset ∨ (s.readOffset < seg.offset ∧
      (seg.data = [] ∨ s.pending.get? seg.offset = some seg.data)))

theorem recv_fst_eq_self_iff (h : s.Settled) (seg : Segment)
    (hok : s.violatesFinalSize seg.stop seg.fin = false) : (s.recv seg).1 = s ↔ s.Has seg := by
  obtain ⟨news, hrecv⟩ := recv_ok hok
  have hsame := Reassembler.accept_fst_eq_self_iff h.flushed seg.offset seg.data
  have hlength := s.reassembler.accept_length seg.offset seg.data
  rw [hrecv]
  constructor
  · intro heq
    refine ⟨fun hfin => ?_, hsame.mp ?_⟩
    · have hsize := congrArg finalSize heq
      simp only [hfin, if_true] at hsize
      exact hsize.symm
    · exact congrArg reassembler heq
  · rintro ⟨hfin, hheld⟩
    have hreassembler := hsame.mpr hheld
    have hnil : (s.reassembler.accept seg.offset seg.data).2 = [] := by
      rw [hreassembler] at hlength
      exact List.eq_nil_of_length_eq_zero (by omega)
    have hsize : (if seg.fin then some seg.stop else s.finalSize) = s.finalSize := by
      split
      · rename_i hend
        exact (hfin hend).symm
      · rfl
    simp only [hreassembler, hnil, hsize, List.append_nil]
    refine congrArg (fun ended => ({ s with finDelivered := ended } : RecvStream)) ?_
    cases hfinal : s.finalSize with
    | none => simp
    | some fsize =>
      change (s.finDelivered || decide (fsize ≤ s.readOffset)) = s.finDelivered
      by_cases hle : fsize ≤ s.readOffset
      · simp [h.ended fsize hfinal hle]
      · simp [hle]

theorem recv_snd_of_has (h : s.Settled) (seg : Segment)
    (hok : s.violatesFinalSize seg.stop seg.fin = false) (hhas : s.Has seg) :
    (s.recv seg).2 = .ok false := by
  have hsame := (recv_fst_eq_self_iff h seg hok).mpr hhas
  have hnext : (s.reassembler.accept seg.offset seg.data).1 = s.reassembler :=
    (Reassembler.accept_fst_eq_self_iff h.flushed seg.offset seg.data).mpr hhas.2
  have hlength := s.reassembler.accept_length seg.offset seg.data
  have hnil : (s.reassembler.accept seg.offset seg.data).2 = [] := by
    rw [hnext] at hlength
    exact List.eq_nil_of_length_eq_zero (by omega)
  have hended := congrArg finDelivered hsame
  simp only [recv, hok, Bool.false_eq_true, if_false] at hended ⊢
  rw [hnil, hended]
  simp

/-- The readable bytes stay the same exactly if a segment does not hold the next offset. -/
theorem ready_recv_eq_iff (h : s.Settled) (seg : Segment)
    (hok : s.violatesFinalSize seg.stop seg.fin = false) :
    (s.recv seg).1.ready = s.ready ↔ ¬ (seg.offset ≤ s.readOffset ∧ s.readOffset < seg.stop) := by
  obtain ⟨news, hrecv⟩ := recv_ok hok
  rw [hrecv]
  show s.ready ++ _ = s.ready ↔ _
  rw [List.append_right_eq_self]
  exact Reassembler.accept_snd_eq_nil_iff h.flushed seg.offset seg.data

end RecvStream

end OxiQuic
