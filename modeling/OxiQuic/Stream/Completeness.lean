import OxiQuic.Stream.Link
import OxiQuic.CryptoStream
import OxiQuic.Lib.Run

/-!
# Completeness of reassembly

A receiver that is fed slices of one byte string `S` should make available the longest
prefix of `S` that the received slices cover.  Both receivers buffer out-of-order segments
in a map from start offset to bytes and *replace* the entry when a segment with the same
start arrives.  A shorter segment that replaces a longer one takes bytes away that the
receiver had accepted: `recv_forgets` is such a run for both receivers.

As long as no segment arrives at the start of a longer buffered one, nothing is forgotten
and the law holds in every state (`reassembly_complete`).
-/

namespace OxiQuic

open Lib

/-- The offset `i` lies in one of the intervals, given by start and end. -/
def InSome (intervals : List (Nat × Nat)) (i : Nat) : Prop :=
  ∃ iv ∈ intervals, iv.1 ≤ i ∧ i < iv.2

instance (intervals : List (Nat × Nat)) (i : Nat) : Decidable (InSome intervals i) :=
  inferInstanceAs (Decidable (∃ iv ∈ intervals, iv.1 ≤ i ∧ i < iv.2))

theorem inSome_cons {start stop i : Nat} {intervals : List (Nat × Nat)} :
    InSome ((start, stop) :: intervals) i ↔ InSome intervals i ∨ (start ≤ i ∧ i < stop) := by
  simp only [InSome, List.mem_cons, exists_eq_or_imp]
  exact or_comm

theorem reassembler_init_complete : (⟨0, ∅⟩ : Reassembler UInt8).Complete (InSome []) where
  flushed := by intro start segment h; cases h
  covers i := by simp [Reassembler.Covers, InSome]

/-! ## Feeding a receive half -/

/-- An action on a receive half. -/
inductive IntakeOp where
  /-- A segment arrives. -/
  | recv (seg : Segment)
  /-- The application reads. -/
  | read
  deriving DecidableEq

/-- What arrives is a segment of the finished stream `S`. -/
def IntakeOp.Of (S : Bytes) : IntakeOp → Prop
  | .recv seg => seg.Of S true
  | .read => True

instance (S : Bytes) : ∀ op : IntakeOp, Decidable (op.Of S)
  | .recv seg => inferInstanceAs (Decidable (seg.Of S true))
  | .read => .isTrue trivial

/-- A receive half and all bytes read from it. -/
structure Intake where
  rcv : RecvStream := {}
  output : Bytes := []
  /-- The start and the end of every segment that has arrived, newest first. -/
  received : List (Nat × Nat) := []

def Intake.step (t : Intake) : IntakeOp → Intake
  | .recv seg => { t with rcv := (t.rcv.recv seg).1, received := (seg.offset, seg.stop) :: t.received }
  | .read => { t with rcv := t.rcv.read.1, output := t.output ++ t.rcv.read.2.1 }

/-- All bytes the receiver has made available, read or ready to be read. -/
def Intake.available (t : Intake) : Bytes := t.output ++ t.rcv.ready

/-- The segment does not arrive at the start of a longer buffered one. -/
def Intake.KeepsLonger (t : Intake) : IntakeOp → Prop
  | .recv seg => ∀ old ∈ t.rcv.pending.get? seg.offset, old.length ≤ seg.data.length
  | .read => True

instance (t : Intake) : ∀ op : IntakeOp, Decidable (t.KeepsLonger op)
  | .recv seg =>
    inferInstanceAs (Decidable (∀ old ∈ t.rcv.pending.get? seg.offset, old.length ≤ seg.data.length))
  | .read => .isTrue trivial

/-- The receiver holds a prefix of `S` and has kept every offset that arrived. -/
structure Intake.Complete (S : Bytes) (t : Intake) : Prop where
  holds : t.rcv.Holds S true t.output
  complete : t.rcv.reassembler.Complete (InSome t.received)

theorem Intake.complete_init (S : Bytes) : Intake.Complete S {} where
  holds := {
    consistent := ⟨by simp [RecvStream.reassembler], by simp [RecvStream.reassembler]⟩
    delivered := by simp
    finalSize := by simp
    finDelivered := by simp }
  complete := reassembler_init_complete

theorem Intake.Complete.step {S : Bytes} {t : Intake} (h : t.Complete S) {op : IntakeOp}
    (hop : op.Of S) (hkeep : t.KeepsLonger op) : (t.step op).Complete S := by
  cases op with
  | recv seg =>
    have hseg : seg.Of S true := hop
    refine ⟨(h.holds.recv hseg).1, ?_⟩
    obtain ⟨news, hrecv⟩ := RecvStream.recv_ok (h.holds.not_violates hseg)
    have hacc : (t.rcv.reassembler.accept seg.offset seg.data).1.Complete _ :=
      h.complete.accept hkeep
    have heq : (t.step (.recv seg)).rcv.reassembler =
        (t.rcv.reassembler.accept seg.offset seg.data).1 := by
      simp only [Intake.step, hrecv]
      rfl
    rw [heq]
    exact ⟨hacc.flushed, fun i => (hacc.covers i).trans inSome_cons.symm⟩
  | read =>
    refine ⟨⟨h.holds.consistent, ?_, h.holds.finalSize, h.holds.finDelivered⟩, h.complete⟩
    simpa [Intake.step, RecvStream.read] using h.holds.delivered

/-! ## Feeding a CRYPTO stream -/

/-- A CRYPTO stream and all bytes it has handed to TLS. -/
structure CryptoIntake where
  stream : CryptoStream := {}
  output : Bytes := []
  /-- The start and the end of every segment that has arrived, newest first. -/
  received : List (Nat × Nat) := []

def CryptoIntake.step (t : CryptoIntake) (seg : CryptoSegment) : CryptoIntake :=
  { stream := (t.stream.recv seg.offset seg.data).1
    output := t.output ++ (t.stream.recv seg.offset seg.data).2.getD []
    received := (seg.offset, seg.offset + seg.data.length) :: t.received }

/-- The segment does not arrive at the start of a longer buffered one. -/
def CryptoIntake.KeepsLonger (t : CryptoIntake) (seg : CryptoSegment) : Prop :=
  ∀ old ∈ t.stream.recvPending.get? seg.offset, old.length ≤ seg.data.length

/-- The receiver has handed over a prefix of `S`. -/
structure CryptoStream.Received (S output : Bytes) (s : CryptoStream) : Prop where
  consistent : s.reassembler.Consistent S
  delivered : output = S.take s.recvOffset

theorem CryptoStream.Received.recv {S output : Bytes} {s : CryptoStream}
    (h : s.Received S output) {seg : CryptoSegment} (hseg : IsSlice S seg.offset seg.data) :
    (s.recv seg.offset seg.data).1.Received S
      (output ++ (s.recv seg.offset seg.data).2.getD []) := by
  obtain ⟨hcons, -, htake⟩ := Reassembler.accept_safe h.consistent hseg
  refine ⟨hcons, ?_⟩
  rw [CryptoStream.recv_snd, h.delivered]
  exact htake

/-- The receiver holds a prefix of `S` and has kept every offset that arrived. -/
structure CryptoIntake.Complete (S : Bytes) (t : CryptoIntake) : Prop where
  received : t.stream.Received S t.output
  complete : t.stream.reassembler.Complete (InSome t.received)

theorem CryptoIntake.Complete.step {S : Bytes} {t : CryptoIntake} (h : t.Complete S)
    {seg : CryptoSegment} (hseg : IsSlice S seg.offset seg.data) (hkeep : t.KeepsLonger seg) :
    (t.step seg).Complete S := by
  refine ⟨h.received.recv hseg, ?_⟩
  have hacc : (t.stream.reassembler.accept seg.offset seg.data).1.Complete _ :=
    h.complete.accept hkeep
  exact ⟨hacc.flushed, fun i => (hacc.covers i).trans inSome_cons.symm⟩

/-! ## The law and its failure -/

/-- In a run that is fed slices of `S`, and in which no segment arrives at the start of a
longer buffered one, each receiver has made available exactly the longest prefix of `S`
that the received segments cover. -/
theorem reassembly_complete (S : Bytes) :
    (∀ ops : List IntakeOp, (∀ op ∈ ops, op.Of S) → Along Intake.step Intake.KeepsLonger {} ops →
      ∃ n, IsGreatest {n | ∀ i < n, InSome (run Intake.step {} ops).received i} n ∧
        (run Intake.step {} ops).available = S.take n) ∧
    (∀ segs : List CryptoSegment, (∀ seg ∈ segs, IsSlice S seg.offset seg.data) →
      Along CryptoIntake.step CryptoIntake.KeepsLonger {} segs →
      ∃ n, IsGreatest {n | ∀ i < n, InSome (run CryptoIntake.step {} segs).received i} n ∧
        (run CryptoIntake.step {} segs).output = S.take n) := by
  constructor
  · intro ops hslices hkeep
    have hinv : (run Intake.step {} ops).Complete S := by
      refine hkeep.invariant (I := Intake.Complete S) ?_ (Intake.complete_init S)
      intro t op hop ht hk
      exact ht.step (hslices op hop) hk
    exact ⟨_, hinv.complete.isGreatest, hinv.holds.delivered⟩
  · intro segs hslices hkeep
    have hinv : (run CryptoIntake.step {} segs).Complete S := by
      refine hkeep.invariant (I := CryptoIntake.Complete S) ?_
        ⟨⟨⟨by simp [CryptoStream.reassembler], by simp [CryptoStream.reassembler]⟩, by simp⟩,
          reassembler_init_complete⟩
      intro t seg hseg ht hk
      exact ht.step (hslices seg hseg) hk
    exact ⟨_, hinv.complete.isGreatest, hinv.received.delivered⟩

/-- Three slices of `[1, 2, 3, 4]` that arrive in a bad order: a buffered segment is
replaced by its own first byte before the gap is filled. -/
def shrinking : List CryptoSegment :=
  [{ offset := 2, data := [3, 4] }, { offset := 2, data := [3] }, { offset := 0, data := [1, 2] }]

/-- The same slices as stream segments. -/
def shrinkingOps : List IntakeOp :=
  shrinking.map (fun seg => .recv { offset := seg.offset, data := seg.data, fin := false })

/-- All four bytes arrive, and neither receiver ever makes the last one available. -/
theorem recv_forgets :
    ((∀ op ∈ shrinkingOps, op.Of [1, 2, 3, 4]) ∧
      (∀ i < 4, InSome (run Intake.step {} shrinkingOps).received i) ∧
      (run Intake.step {} shrinkingOps).available = [1, 2, 3]) ∧
    ((∀ seg ∈ shrinking, IsSlice [1, 2, 3, 4] seg.offset seg.data) ∧
      (∀ i < 4, InSome (run CryptoIntake.step {} shrinking).received i) ∧
      (run CryptoIntake.step {} shrinking).output = [1, 2, 3]) := by
  refine ⟨⟨?_, ?_, ?_⟩, ⟨?_, ?_, ?_⟩⟩
  all_goals decide +kernel

/-- The law at work on overlapping segments: the longer copy arrives last. -/
theorem reassembly_complete_overlap :
    (run Intake.step {} [.recv ⟨2, [3], false⟩, .recv ⟨1, [2, 3, 4], true⟩, .read,
        .recv ⟨0, [1], false⟩]).available = [1, 2, 3, 4] ∧
      ∃ n, IsGreatest {n | ∀ i < n, InSome [(0, 1), (1, 4), (2, 3)] i} n ∧
        [1, 2, 3, 4] = List.take n ([1, 2, 3, 4] : Bytes) := by
  refine ⟨by decide +kernel, ?_⟩
  exact (reassembly_complete [1, 2, 3, 4]).1
    [.recv ⟨2, [3], false⟩, .recv ⟨1, [2, 3, 4], true⟩, .read, .recv ⟨0, [1], false⟩]
    (by decide +kernel) (by decide +kernel)

end OxiQuic
