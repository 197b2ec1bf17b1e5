import OxiQuic.Stream.Basic
import Mathlib.Logic.Relation

/-!
# A stream over a lossy link

The two halves of a stream joined by a network that may lose, duplicate, delay and
reorder what the sender emits.  A state of the link records, next to the two halves, the
bytes written so far, whether the FIN was written, every segment the sender has emitted
and the bytes the reader has obtained.  Any emitted segment may be handed to the receiver
at any later time and any number of times.

Everything in the link is a part of the written bytes: `SendStream.Holds` says so of the
sender and `RecvStream.Holds` of the receiver.  Each step keeps both (`Link.Step.sound`),
hence so does every run, and the guarantees of the stream follow (`link_safe`).
-/

namespace OxiQuic

open Lib

/-- A segment of the stream whose bytes so far are `W`.  A FIN is only on a segment that
ends where the finished stream ends. -/
structure Segment.Of (W : Bytes) (finished : Bool) (seg : Segment) : Prop where
  /-- The bytes are those of the stream. -/
  slice : IsSlice W seg.offset seg.data
  /-- The FIN is at the end. -/
  fin : seg.fin = true → finished = true ∧ seg.stop = W.length

instance (W : Bytes) (finished : Bool) (seg : Segment) : Decidable (seg.Of W finished) :=
  decidable_of_iff
    (IsSlice W seg.offset seg.data ∧
      (seg.fin = true → finished = true ∧ seg.stop = W.length))
    ⟨fun h => ⟨h.1, h.2⟩, fun h => ⟨h.slice, h.fin⟩⟩

variable {seg : Segment} {finished : Bool} {W output : Bytes} {r : RecvStream} {s : SendStream}

/-- A segment stays one of the stream when more is written to a stream not finished
yet. -/
theorem Segment.Of.append (h : seg.Of W false) (data : Bytes)
    (finished : Bool) : seg.Of (W ++ data) finished where
  slice := h.slice.append data
  fin hfin := by cases (h.fin hfin).1

/-! ## The sender -/

/-- The send half holds exactly what was written and not emitted, and its resend queue
holds segments of the stream. -/
structure SendStream.Holds (W : Bytes) (finished : Bool) (s : SendStream) : Prop where
  base_le : s.base ≤ W.length
  buf_eq : s.buf = W.drop s.base
  fin_eq : s.fin = finished
  resend : ∀ seg ∈ s.resend, seg.Of W finished

theorem SendStream.Holds.write (h : s.Holds W false)
    (data : Bytes) (fin : Bool) : (s.write data fin).Holds (W ++ data) fin where
  base_le := by
    have := h.base_le
    simp [SendStream.write]; omega
  buf_eq := by simp [SendStream.write, List.drop_append_of_le_length h.base_le, h.buf_eq]
  fin_eq := by simp [SendStream.write, h.fin_eq]
  resend seg hseg := (h.resend seg hseg).append data fin

theorem SendStream.Holds.requeue (h : s.Holds W finished) (hseg : seg.Of W finished) :
    (s.requeue seg).Holds W finished where
  base_le := h.base_le
  buf_eq := h.buf_eq
  fin_eq := h.fin_eq
  resend seg' hseg' := by
    rcases List.mem_append.mp hseg' with hseg' | hseg'
    · exact h.resend seg' hseg'
    · rw [List.mem_singleton.mp hseg']
      exact hseg

/-- Splitting a segment gives two segments of the stream, the FIN on the second. -/
theorem Segment.Of.split (h : seg.Of W finished) {n : Nat} (hn : n ≤ seg.data.length) :
    Segment.Of W finished { offset := seg.offset, data := seg.data.take n, fin := false } ∧
      Segment.Of W finished { seg with offset := seg.offset + n, data := seg.data.drop n } := by
  refine ⟨⟨h.slice.take n, fun hfin => by cases hfin⟩, ⟨h.slice.drop hn, fun hfin => ?_⟩⟩
  obtain ⟨hfinished, hstop⟩ := h.fin hfin
  refine ⟨hfinished, ?_⟩
  simp only [Segment.stop, List.length_drop] at hstop ⊢
  omega

theorem SendStream.Holds.take {s' : SendStream} {max : Nat}
    (h : s.Holds W finished) (ht : s.Takes max s' seg) :
    s'.Holds W finished ∧ seg.Of W finished := by
  obtain ⟨hbase, hbuf, hfin, hresend⟩ := h
  cases ht with
  | whole hq =>
    have hmem : seg ∈ s.resend := hq ▸ List.mem_cons_self
    refine ⟨⟨hbase, hbuf, hfin, fun seg' hseg' => ?_⟩, hresend _ hmem⟩
    exact hresend seg' (hq ▸ List.mem_cons_of_mem _ hseg')
  | @split front rest hq _ hlt =>
    have hmem : front ∈ s.resend := hq ▸ List.mem_cons_self
    obtain ⟨hhead, htail⟩ := (hresend front hmem).split (n := max) (by omega)
    refine ⟨⟨hbase, hbuf, hfin, fun seg' hseg' => ?_⟩, hhead⟩
    rcases List.mem_cons.mp hseg' with rfl | hseg'
    · exact htail
    · exact hresend seg' (hq ▸ List.mem_cons_of_mem _ hseg')
  | pureFin hq hempty hf hns =>
    -- the buffer is empty, so the next offset is the end of the stream
    have hend : s.base = W.length := by
      rw [hempty] at hbuf
      have := List.drop_eq_nil_iff.mp hbuf.symm
      omega
    refine ⟨⟨hbase, hbuf, hfin, hresend⟩, ⟨IsSlice.nil hbase, fun _ => ⟨hfin ▸ hf, ?_⟩⟩⟩
    simpa [Segment.stop] using hend
  | @fresh n hq hpos hle hmax =>
    have hlen : n + s.base ≤ W.length := by
      rw [hbuf, List.length_drop] at hle
      omega
    have hslice : IsSlice W s.base s.buf := hbuf ▸ isSlice_drop hbase
    refine ⟨⟨by simp; omega, ?_, hfin, hresend⟩, ⟨hslice.take n, fun hf => ?_⟩⟩
    · simp [hbuf, List.drop_drop]
    simp only [Bool.and_eq_true, List.isEmpty_iff, List.drop_eq_nil_iff] at hf
    refine ⟨hfin ▸ hf.1, ?_⟩
    simp only [Segment.stop, List.length_take, hbuf, List.length_drop] at hf ⊢
    omega

/-! ## The receiver -/

/-- What the receive half holds and what was read from it make up a prefix of the
stream. -/
structure RecvStream.Holds (W : Bytes) (finished : Bool) (output : Bytes) (r : RecvStream) :
    Prop where
  consistent : r.reassembler.Consistent W
  delivered : output ++ r.ready = W.take r.readOffset
  finalSize : ∀ {fsize}, r.finalSize = some fsize → finished = true ∧ fsize = W.length
  finDelivered : r.finDelivered = true → finished = true ∧ r.readOffset = W.length

theorem RecvStream.Holds.append (h : r.Holds W false output) (data : Bytes) (finished : Bool) :
    r.Holds (W ++ data) finished output where
  consistent := h.consistent.append data
  delivered := by
    have hle : r.readOffset ≤ W.length := h.consistent.next_le
    rw [h.delivered, List.take_append_of_le_length hle]
  finalSize hf := by cases (h.finalSize hf).1
  finDelivered hf := by cases (h.finDelivered hf).1

theorem RecvStream.Holds.not_violates (h : r.Holds W finished output) (hseg : seg.Of W finished) :
    r.violatesFinalSize seg.stop seg.fin = false := by
  unfold RecvStream.violatesFinalSize
  cases hsize : r.finalSize with
  | none => rfl
  | some fsize =>
    have hle : seg.stop ≤ W.length := hseg.slice.end_le
    have heq := (h.finalSize hsize).2
    cases hfin : seg.fin with
    | false => simp; omega
    | true =>
      have := (hseg.fin hfin).2
      simp; omega

theorem RecvStream.Holds.recv (h : r.Holds W finished output) (hseg : seg.Of W finished) :
    (r.recv seg).1.Holds W finished output ∧ ∃ news, (r.recv seg).2 = .ok news := by
  obtain ⟨news, hrecv⟩ := RecvStream.recv_ok (h.not_violates hseg)
  rw [hrecv]
  obtain ⟨hcons, hle, htake⟩ := Reassembler.accept_safe h.consistent hseg.slice
  have hsize : ∀ {fsize}, (if seg.fin then some seg.stop else r.finalSize) = some fsize →
      finished = true ∧ fsize = W.length := by
    intro fsize hf
    split at hf
    · rename_i hfin
      cases hf
      exact hseg.fin hfin
    · exact h.finalSize hf
  refine ⟨⟨hcons, ?_, hsize, ?_⟩, news, rfl⟩
  · simp only []
    rw [← List.append_assoc, h.delivered]
    exact htake
  intro hdel
  simp only [Bool.or_eq_true] at hdel
  rcases hdel with hdel | hdel
  · -- the FIN had been reached, so nothing is left to deliver
    obtain ⟨hfinished, hoff⟩ := h.finDelivered hdel
    have hnext := hcons.next_le
    have hoff' : r.reassembler.next = W.length := hoff
    exact ⟨hfinished, le_antisymm hnext (hoff' ▸ hle)⟩
  split at hdel
  · rename_i fsize hf
    obtain ⟨hfinished, heq⟩ := hsize hf
    have hreached : fsize ≤ _ := of_decide_eq_true hdel
    exact ⟨hfinished, le_antisymm hcons.next_le (heq ▸ hreached)⟩
  · cases hdel

/-! ## The link -/

/-- A stream between two endpoints and the history of what happened on it. -/
structure Link where
  snd : SendStream := {}
  rcv : RecvStream := {}
  /-- All bytes written so far. -/
  written : Bytes := []
  /-- Whether a write carried the FIN. -/
  finWritten : Bool := false
  /-- Every segment the sender has emitted. -/
  taken : List Segment := []
  /-- All bytes the reader has obtained. -/
  output : Bytes := []

/-- One action of the application, the sender or the network. -/
inductive Link.Step : Link → Link → Prop where
  /-- The application writes, unless it has finished the stream. -/
  | write {l : Link} (data : Bytes) (fin : Bool) : l.finWritten = false →
      Step l { l with
        snd := l.snd.write data fin, written := l.written ++ data, finWritten := fin }
  /-- The sender emits a segment of at most `max` bytes. -/
  | take {l : Link} {max : Nat} {snd : SendStream} {seg : Segment} :
      l.snd.take max = (snd, some seg) →
      Step l { l with snd := snd, taken := seg :: l.taken }
  /-- The sender has nothing to emit in `max` bytes. -/
  | idle {l : Link} {max : Nat} {snd : SendStream} :
      l.snd.take max = (snd, none) → Step l { l with snd := snd }
  /-- An emitted segment is declared lost. -/
  | requeue {l : Link} {seg : Segment} : seg ∈ l.taken →
      Step l { l with snd := l.snd.requeue seg }
  /-- An emitted segment reaches the receiver. -/
  | deliver {l : Link} {seg : Segment} : seg ∈ l.taken →
      Step l { l with rcv := (l.rcv.recv seg).1 }
  /-- The reader takes what is readable. -/
  | read {l : Link} :
      Step l { l with rcv := l.rcv.read.1, output := l.output ++ l.rcv.read.2.1 }

/-- The states of a link that starts empty. -/
def Link.Reachable (l : Link) : Prop := Relation.ReflTransGen Link.Step {} l

/-- Both halves and every emitted segment agree with the written bytes. -/
structure Link.Sound (l : Link) : Prop where
  snd : l.snd.Holds l.written l.finWritten
  taken : ∀ seg ∈ l.taken, seg.Of l.written l.finWritten
  rcv : l.rcv.Holds l.written l.finWritten l.output

theorem Link.sound_init : Link.Sound {} where
  snd := ⟨by simp, by simp, rfl, by simp⟩
  taken := by simp
  rcv := {
    consistent := ⟨by simp [RecvStream.reassembler], by simp [RecvStream.reassembler]⟩
    delivered := by simp
    finalSize := by simp
    finDelivered := by simp }

theorem Link.Step.sound {l l' : Link} (hstep : l.Step l') (h : l.Sound) : l'.Sound := by
  cases hstep with
  | write data fin hopen =>
    obtain ⟨hsnd, htaken, hrcv⟩ := h
    rw [hopen] at hsnd htaken hrcv
    exact ⟨hsnd.write data fin, fun seg hseg => (htaken seg hseg).append data fin,
      hrcv.append data fin⟩
  | take htake =>
    obtain ⟨hsnd, hseg⟩ := h.snd.take (SendStream.take_takes htake).2
    refine ⟨hsnd, fun seg' hseg' => ?_, h.rcv⟩
    rcases List.mem_cons.mp hseg' with rfl | hseg'
    · exact hseg
    · exact h.taken seg' hseg'
  | idle htake =>
    rw [SendStream.take_none htake]
    exact h
  | requeue hmem => exact ⟨h.snd.requeue (h.taken _ hmem), h.taken, h.rcv⟩
  | deliver hmem => exact ⟨h.snd, h.taken, (h.rcv.recv (h.taken _ hmem)).1⟩
  | read =>
    refine ⟨h.snd, h.taken, ⟨h.rcv.consistent, ?_, h.rcv.finalSize, h.rcv.finDelivered⟩⟩
    simpa [RecvStream.read] using h.rcv.delivered

theorem Link.Reachable.sound {l : Link} (h : l.Reachable) : l.Sound := by
  induction h with
  | refl => exact Link.sound_init
  | tail _ hstep ih => exact hstep.sound ih

/-- In every state of the link the receiver accepts every emitted segment, every emitted
segment holds the written bytes at its offset, the reader has a prefix of the written
bytes, and a read reports the end only when the FIN was written and everything has been
returned. -/
theorem link_safe {l : Link} (h : l.Reachable) :
    (∀ seg ∈ l.taken, ∃ news, (l.rcv.recv seg).2 = .ok news) ∧
      (∀ seg ∈ l.taken, IsSlice l.written seg.offset seg.data) ∧ l.output <+: l.written ∧
      (l.rcv.read.2.2 = true → l.finWritten = true ∧ l.output ++ l.rcv.read.2.1 = l.written) := by
  have hs := h.sound
  refine ⟨fun seg hseg => (hs.rcv.recv (hs.taken seg hseg)).2,
    fun seg hseg => (hs.taken seg hseg).slice, ?_, fun hfin => ?_⟩
  · have hpre : l.output <+: l.output ++ l.rcv.ready := List.prefix_append _ _
    rw [hs.rcv.delivered] at hpre
    exact hpre.trans (List.take_prefix _ _)
  simp only [RecvStream.read, Bool.and_eq_true] at hfin
  obtain ⟨hfinished, hoff⟩ := hs.rcv.finDelivered hfin.1
  refine ⟨hfinished, ?_⟩
  simpa [RecvStream.read, hoff] using hs.rcv.delivered

/-- A link on which two bytes and the FIN were written, emitted in one segment and
delivered twice. -/
def deliveredTwice : Link :=
  let seg : Segment := { offset := 0, data := [7, 8], fin := true }
  { snd := ((({} : SendStream).write [7, 8] true).take 10).1
    rcv := ((({} : RecvStream).recv seg).1.recv seg).1
    written := [7, 8], finWritten := true, taken := [seg] }

theorem deliveredTwice_reachable : deliveredTwice.Reachable := by
  have hwrite := Relation.ReflTransGen.single (Link.Step.write (l := {}) [7, 8] true rfl)
  have htake := hwrite.tail (@Link.Step.take _ 10 _ _ rfl)
  have hfirst := htake.tail (.deliver List.mem_cons_self)
  exact hfirst.tail (.deliver List.mem_cons_self)

theorem link_safe_deliveredTwice :
    deliveredTwice.rcv.read.2.2 = true ∧ deliveredTwice.finWritten = true ∧
        deliveredTwice.output ++ deliveredTwice.rcv.read.2.1 = deliveredTwice.written := by
  have hfin : deliveredTwice.rcv.read.2.2 = true := by decide +kernel
  exact ⟨hfin, (link_safe deliveredTwice_reachable).2.2.2 hfin⟩

end OxiQuic
