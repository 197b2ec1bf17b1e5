import OxiQuic.Stream.Basic

/-!
# Conservation of stream data

Whatever was written to a send half and has left its buffer is somewhere else: in the resend
queue, or in a segment that someone holds for the stream.  `SendStream.Conserves` says so for
one stream and any notion of holding; the operations of the send half keep it, given that
what is taken is held and what is given up is queued again.
-/

namespace OxiQuic

/-- A segment carries the byte `b` of the stream at offset `i`. -/
def Segment.Has (seg : Segment) (i : Nat) (b : UInt8) : Prop :=
  seg.offset ≤ i ∧ seg.data[i - seg.offset]? = some b

theorem Segment.Has.split {seg : Segment} {i : Nat} {b : UInt8} (h : seg.Has i b) (n : Nat) :
    Segment.Has { offset := seg.offset, data := seg.data.take n, fin := false } i b ∨
      Segment.Has { seg with offset := seg.offset + n, data := seg.data.drop n } i b := by
  obtain ⟨hle, hget⟩ := h
  by_cases hi : i - seg.offset < n
  · refine .inl ⟨hle, ?_⟩
    show (seg.data.take n)[i - seg.offset]? = some b
    rw [List.getElem?_take_of_lt hi, hget]
  refine .inr ⟨?_, ?_⟩
  · show seg.offset + n ≤ i
    omega
  show (seg.data.drop n)[i - (seg.offset + n)]? = some b
  rw [List.getElem?_drop, ← hget]
  congr 1
  omega

/-- Waiting for retransmission, or held elsewhere. -/
def SendStream.Kept (held : Segment → Prop) (s : SendStream) (seg : Segment) : Prop :=
  seg ∈ s.resend ∨ held seg

/-- All of `W`, and the FIN if the stream is `finished`, is in the buffer, in the resend queue
or in a held segment. -/
structure SendStream.Conserves (W : Bytes) (finished : Bool) (held : Segment → Prop)
    (s : SendStream) : Prop where
  resetCode : s.resetCode = none
  base_le : s.base ≤ W.length
  buf_eq : s.buf = W.drop s.base
  fin_eq : s.fin = finished
  bytes : ∀ {i b}, i < s.base → W[i]? = some b → ∃ seg, s.Kept held seg ∧ seg.Has i b
  finSent : s.finSent = true → ∃ seg, s.Kept held seg ∧ seg.fin = true

namespace SendStream

variable {finished : Bool} {s : SendStream} {W : Bytes}

theorem Conserves.write {held : Segment → Prop}
    (h : s.Conserves W finished held) (data : Bytes) (fin : Bool) :
    (s.write data fin).Conserves (W ++ data) (finished || fin) held where
  resetCode := h.resetCode
  base_le := by
    have := h.base_le
    show s.base ≤ (W ++ data).length
    rw [List.length_append]
    omega
  buf_eq := by
    show s.buf ++ data = (W ++ data).drop s.base
    rw [List.drop_append_of_le_length h.base_le, h.buf_eq]
  fin_eq := by
    show (s.fin || fin) = (finished || fin)
    rw [h.fin_eq]
  bytes {i b} hi hb := by
    have hlt : i < W.length := Nat.lt_of_lt_of_le hi h.base_le
    rw [List.getElem?_append_left hlt] at hb
    exact h.bytes hi hb
  finSent := h.finSent

theorem Conserves.keep {held held' : Segment → Prop}
    {resend : List Segment} (h : s.Conserves W finished held)
    (hbytes : ∀ seg, s.Kept held seg → ∀ i b, seg.Has i b →
      ∃ seg', Kept held' { s with resend := resend } seg' ∧ seg'.Has i b)
    (hfin : ∀ seg, s.Kept held seg → seg.fin = true →
      ∃ seg', Kept held' { s with resend := resend } seg' ∧ seg'.fin = true) :
    Conserves W finished held' { s with resend := resend } where
  resetCode := h.resetCode
  base_le := h.base_le
  buf_eq := h.buf_eq
  fin_eq := h.fin_eq
  bytes {i b} hi hb := by
    obtain ⟨seg, hseg, hhas⟩ := h.bytes hi hb
    exact hbytes seg hseg i b hhas
  finSent hsent := by
    obtain ⟨seg, hseg, hlast⟩ := h.finSent hsent
    exact hfin seg hseg hlast

theorem Conserves.move {held held' : Segment → Prop}
    {resend : List Segment} (h : s.Conserves W finished held)
    (hkept : ∀ seg, s.Kept held seg → Kept held' { s with resend := resend } seg) :
    Conserves W finished held' { s with resend := resend } :=
  h.keep (fun seg hseg _ _ hhas => ⟨seg, hkept seg hseg, hhas⟩)
    fun seg hseg hlast => ⟨seg, hkept seg hseg, hlast⟩

theorem Conserves.mono {held held' : Segment → Prop}
    (h : s.Conserves W finished held) (hheld : ∀ seg, held seg → held' seg) :
    s.Conserves W finished held' := h.move fun seg => Or.imp_right (hheld seg)

theorem Conserves.take {held : Segment → Prop}
    {s' : SendStream} {max : Nat} {seg : Segment} (h : s.Conserves W finished held)
    (ht : s.Takes max s' seg) : s'.Conserves W finished fun x => held x ∨ x = seg := by
  cases ht with
  | @whole _ rest hq _ _ =>
    refine h.move fun x hx => ?_
    rcases hx with hx | hx
    · rw [hq] at hx
      rcases List.mem_cons.mp hx with rfl | hx
      · exact .inr (.inr rfl)
      · exact .inl hx
    · exact .inr (.inl hx)
  | @split front rest hq _ _ =>
    refine h.keep (fun x hx i b hhas => ?_) fun x hx hlast => ?_
    · rcases hx with hx | hx
      · rw [hq] at hx
        rcases List.mem_cons.mp hx with rfl | hx
        · rcases hhas.split max with hhas | hhas
          · exact ⟨_, .inr (.inr rfl), hhas⟩
          · exact ⟨_, .inl List.mem_cons_self, hhas⟩
        · exact ⟨x, .inl (List.mem_cons_of_mem _ hx), hhas⟩
      · exact ⟨x, .inr (.inl hx), hhas⟩
    · rcases hx with hx | hx
      · rw [hq] at hx
        rcases List.mem_cons.mp hx with rfl | hx
        · -- the FIN stays with the tail
          exact ⟨_, .inl List.mem_cons_self, hlast⟩
        · exact ⟨x, .inl (List.mem_cons_of_mem _ hx), hlast⟩
      · exact ⟨x, .inr (.inl hx), hlast⟩
  | pureFin hq hempty hf hns =>
    have hmono : s.Conserves W finished fun x => held x ∨ x = ⟨s.base, [], true⟩ :=
      h.mono fun _ => .inl
    exact {
      resetCode := h.resetCode, base_le := h.base_le, buf_eq := h.buf_eq, fin_eq := h.fin_eq
      bytes := hmono.bytes
      finSent := fun _ => ⟨⟨s.base, [], true⟩, .inr (.inr rfl), rfl⟩ }
  | @fresh n hq hpos hle hmax =>
    have hlength : n + s.base ≤ W.length := by
      rw [h.buf_eq, List.length_drop] at hle
      omega
    let seg : Segment := ⟨s.base, s.buf.take n, s.fin && (s.buf.drop n).isEmpty⟩
    have hmono : s.Conserves W finished fun x => held x ∨ x = seg := h.mono fun _ => .inl
    exact {
      resetCode := h.resetCode
      base_le := by
        show s.base + n ≤ W.length
        omega
      buf_eq := by
        show s.buf.drop n = W.drop (s.base + n)
        rw [h.buf_eq, List.drop_drop]
      fin_eq := h.fin_eq
      bytes := by
        intro i b hi hb
        change i < s.base + n at hi
        by_cases hold : i < s.base
        · exact hmono.bytes hold hb
        -- a byte that has just left the buffer
        refine ⟨seg, .inr (.inr rfl), Nat.le_of_not_lt hold, ?_⟩
        show (s.buf.take n)[i - s.base]? = some b
        rw [List.getElem?_take_of_lt (by omega), h.buf_eq, List.getElem?_drop, ← hb]
        congr 1
        omega
      finSent := by
        intro hsent
        rcases Bool.or_eq_true_iff.mp hsent with hsent | hlast
        · exact hmono.finSent hsent
        · exact ⟨seg, .inr (.inr rfl), hlast⟩ }

theorem Conserves.byte {held : Segment → Prop}
    (h : s.Conserves W finished held) {i : Nat} {b : UInt8} (hb : W[i]? = some b) :
    (s.base ≤ i ∧ s.buf[i - s.base]? = some b) ∨ (∃ seg ∈ s.resend, seg.Has i b) ∨
      ∃ seg, held seg ∧ seg.Has i b := by
  by_cases hi : i < s.base
  · obtain ⟨seg, hseg | hseg, hhas⟩ := h.bytes hi hb
    · exact .inr (.inl ⟨seg, hseg, hhas⟩)
    · exact .inr (.inr ⟨seg, hseg, hhas⟩)
  refine .inl ⟨Nat.le_of_not_lt hi, ?_⟩
  rw [h.buf_eq, List.getElem?_drop, ← hb]
  congr 1
  omega

theorem Conserves.last {held : Segment → Prop}
    (h : s.Conserves W finished held) (hfin : finished = true) :
    (s.fin = true ∧ s.finSent = false) ∨ (∃ seg ∈ s.resend, seg.fin = true) ∨
      ∃ seg, held seg ∧ seg.fin = true := by
  cases hsent : s.finSent with
  | false => exact .inl ⟨h.fin_eq.trans hfin, rfl⟩
  | true =>
    obtain ⟨seg, hseg | hseg, hlast⟩ := h.finSent hsent
    · exact .inr (.inl ⟨seg, hseg, hlast⟩)
    · exact .inr (.inr ⟨seg, hseg, hlast⟩)

end SendStream

end OxiQuic
