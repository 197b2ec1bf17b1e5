import OxiQuic.Core
import OxiQuic.Lib.Reassembly

/-!
# Stream halves

The send and receive state machines of one stream direction
(`oxiquic-transport/src/stream.rs`).

`SendStream` buffers what the application writes and hands it out as segments at
increasing offsets.  Segments of lost packets come back through `requeue` and go out again
before fresh data, at their old offsets, split if they do not fit.  `RecvStream`
reassembles segments in any order and enforces the final size of the stream.

The lemmas of this module are what the rest of the development uses of the two types:
`SendStream.take_takes` lists the four ways a segment leaves the sender, and
`RecvStream.recv_ok` says when a segment is accepted.
-/

namespace OxiQuic

open Lib

/-- Why stream input is refused. -/
inductive StreamError where
  /-- The peer changed or violated the stream's final size. -/
  | finalSize
  /-- The peer reset the stream with an application error code. -/
  | reset (code : Nat)
  deriving DecidableEq, Repr

/-- Stream data at an offset, as a `STREAM` frame carries it and as the resend queue
keeps it.  `fin` marks the end of the stream. -/
structure Segment where
  offset : Nat
  data : Bytes
  fin : Bool
  deriving DecidableEq, Repr

/-- The offset after the last byte of a segment. -/
def Segment.stop (seg : Segment) : Nat := seg.offset + seg.data.length

/-! ## The send half -/

/-- Outbound half of a stream. -/
structure SendStream where
  /-- Bytes queued but not yet emitted. -/
  buf : Bytes := []
  /-- Absolute offset of the first byte of `buf`. -/
  base : Nat := 0
  /-- Whether the application has signalled FIN. -/
  fin : Bool := false
  /-- Whether a segment carrying the FIN has been emitted. -/
  finSent : Bool := false
  /-- Segments awaiting retransmission, drained before `buf`. -/
  resend : List Segment := []
  /-- Set once the stream is reset.  No segment is emitted afterwards. -/
  resetCode : Option Nat := none
  deriving DecidableEq, Repr

/-- Queue `data` for sending.  `fin` marks the end of the stream. -/
def SendStream.write (s : SendStream) (data : Bytes) (fin : Bool) : SendStream :=
  { s with buf := s.buf ++ data, fin := s.fin || fin }

/-- Whether data or a FIN is still to be transmitted. -/
def SendStream.hasPending (s : SendStream) : Bool :=
  if s.resetCode.isSome then false
  else !s.resend.isEmpty || !s.buf.isEmpty || (s.fin && !s.finSent)

/-- Reset the stream.  What was buffered or waiting for retransmission is dropped. -/
def SendStream.reset (s : SendStream) (errorCode : Nat) : SendStream :=
  { s with resetCode := some errorCode, buf := [], resend := [] }

/-- Whether the stream has been reset. -/
def SendStream.isReset (s : SendStream) : Bool := s.resetCode.isSome

/-- The highest offset committed to the send side. -/
def SendStream.finalSize (s : SendStream) : Nat := s.base + s.buf.length

/-- Queue a lost segment for retransmission at its offset. -/
def SendStream.requeue (s : SendStream) (seg : Segment) : SendStream :=
  { s with resend := s.resend ++ [seg] }

/-- Whether the next segment is a retransmission. -/
def SendStream.hasResend (s : SendStream) : Bool := !s.resend.isEmpty

/-- Take at most `max` bytes as the next segment. -/
def SendStream.take (s : SendStream) (max : Nat) : SendStream × Option Segment :=
  if s.resetCode.isSome then (s, none)
  else
    match s.resend with
    | front :: rest =>
      if max = 0 then (s, none)
      else if front.data.length ≤ max then ({ s with resend := rest }, some front)
      else
        -- a prefix goes out; the FIN stays with the tail
        ({ s with
            resend := { front with
              offset := front.offset + max, data := front.data.drop max } :: rest },
          some { offset := front.offset, data := front.data.take max, fin := false })
    | [] =>
      if s.buf.isEmpty then
        if s.fin && !s.finSent then
          ({ s with finSent := true }, some { offset := s.base, data := [], fin := true })
        else (s, none)
      else
        let n := min max s.buf.length
        if n = 0 then (s, none)
        else
          let fin := s.fin && (s.buf.drop n).isEmpty
          ({ s with
              buf := s.buf.drop n, base := s.base + n, finSent := s.finSent || fin },
            some { offset := s.base, data := s.buf.take n, fin := fin })

/-- The ways a segment leaves the send half. -/
inductive SendStream.Takes (s : SendStream) (max : Nat) : SendStream → Segment → Prop where
  /-- The first segment of the resend queue fits. -/
  | whole {seg : Segment} {rest : List Segment} :
      s.resend = seg :: rest → 0 < max → seg.data.length ≤ max →
      s.Takes max { s with resend := rest } seg
  /-- The first segment of the resend queue is split. -/
  | split {front : Segment} {rest : List Segment} :
      s.resend = front :: rest → 0 < max → max < front.data.length →
      s.Takes max
        { s with
          resend := { front with
            offset := front.offset + max, data := front.data.drop max } :: rest }
        { offset := front.offset, data := front.data.take max, fin := false }
  /-- All bytes are out and the FIN follows alone. -/
  | pureFin :
      s.resend = [] → s.buf = [] → s.fin = true → s.finSent = false →
      s.Takes max { s with finSent := true } { offset := s.base, data := [], fin := true }
  /-- Fresh bytes from the buffer, with the FIN if they are the last. -/
  | fresh {n : Nat} :
      s.resend = [] → 0 < n → n ≤ s.buf.length → n ≤ max →
      s.Takes max
        { s with
          buf := s.buf.drop n, base := s.base + n,
          finSent := s.finSent || (s.fin && (s.buf.drop n).isEmpty) }
        { offset := s.base, data := s.buf.take n, fin := s.fin && (s.buf.drop n).isEmpty }

/-- A segment leaves in one of the four ways, and only if the stream is not reset. -/
theorem SendStream.take_takes {s s' : SendStream} {max : Nat} {seg : Segment}
    (h : s.take max = (s', some seg)) : s.resetCode = none ∧ s.Takes max s' seg := by
  unfold SendStream.take at h
  cases hreset : s.resetCode with
  | some code => simp [hreset] at h
  | none =>
    refine ⟨rfl, ?_⟩
    rw [if_neg (by simp [hreset])] at h
    split at h
    · rename_i front rest hresend
      split at h
      · cases h
      rename_i hmax
      split at h
      · rename_i hfit
        cases h
        exact .whole hresend (by omega) hfit
      rename_i hfit
      cases h
      exact .split hresend (by omega) (by omega)
    · rename_i hresend
      split at h
      · rename_i hbuf
        split at h
        · rename_i hfin
          cases h
          simp only [Bool.and_eq_true, Bool.not_eq_true'] at hfin
          exact .pureFin hresend (List.isEmpty_iff.mp hbuf) hfin.1 hfin.2
        · cases h
      · simp only [] at h
        split at h
        · cases h
        rename_i hn
        cases h
        exact .fresh hresend (by omega) (by omega) (by omega)

theorem SendStream.take_none {s s' : SendStream} {max : Nat} (h : s.take max = (s', none)) :
    s' = s := by
  unfold SendStream.take at h
  simp only [] at h
  repeat' split at h
  all_goals cases h
  all_goals rfl

/-! ## The receive half -/

/-- Inbound half of a stream. -/
structure RecvStream where
  /-- Next contiguous offset not yet delivered. -/
  readOffset : Nat := 0
  /-- Buffered out-of-order segments by start offset. -/
  pending : OrdMap Nat Bytes := ∅
  /-- Contiguous bytes ready for the application. -/
  ready : Bytes := []
  /-- The final size, once known from a FIN. -/
  finalSize : Option Nat := none
  /-- Whether the FIN has been reached. -/
  finDelivered : Bool := false
  /-- Set when the peer resets the stream. -/
  resetCode : Option Nat := none

/-- The reassembly state inside a receive half. -/
def RecvStream.reassembler (r : RecvStream) : Reassembler UInt8 := ⟨r.readOffset, r.pending⟩

/-- Record a reset by the peer and drop what is buffered. -/
def RecvStream.applyReset (r : RecvStream) (errorCode : Nat) : RecvStream :=
  { r with resetCode := some errorCode, ready := [], pending := ∅ }

/-- Whether the peer has reset the stream. -/
def RecvStream.isReset (r : RecvStream) : Bool := r.resetCode.isSome

/-- Whether a segment that ends at `stop` contradicts the known final size. -/
def RecvStream.violatesFinalSize (r : RecvStream) (stop : Nat) (fin : Bool) : Bool :=
  match r.finalSize with
  | some fsize => decide (fsize < stop) || (fin && decide (stop ≠ fsize))
  | none => false

/-- Accept a segment.  The result says whether data or the FIN became available. -/
def RecvStream.recv (r : RecvStream) (seg : Segment) : RecvStream × Except StreamError Bool :=
  if r.violatesFinalSize seg.stop seg.fin then (r, .error .finalSize)
  else
    let finalSize := if seg.fin then some seg.stop else r.finalSize
    -- trimming, buffering and `flush_contiguous`
    let (asm, delivered) := r.reassembler.accept seg.offset seg.data
    let finDelivered := r.finDelivered ||
      (match finalSize with
        | some fsize => decide (fsize ≤ asm.next)
        | none => false)
    ({ r with
        readOffset := asm.next, pending := asm.pending, ready := r.ready ++ delivered,
        finalSize := finalSize, finDelivered := finDelivered },
      .ok (!delivered.isEmpty || (finDelivered && !r.finDelivered)))

/-- Take the readable bytes.  The flag says whether the end was reached. -/
def RecvStream.read (r : RecvStream) : RecvStream × Bytes × Bool :=
  ({ r with ready := [] }, r.ready, r.finDelivered && r.pending.isEmpty)

/-- Take the readable bytes, unless the peer reset the stream. -/
def RecvStream.readChecked (r : RecvStream) : RecvStream × Except StreamError (Bytes × Bool) :=
  match r.resetCode with
  | some code => (r, .error (.reset code))
  | none => (r.read.1, .ok r.read.2)

/-- A segment that respects the known final size is accepted, and this is the state
then. -/
theorem RecvStream.recv_ok {r : RecvStream} {seg : Segment}
    (h : r.violatesFinalSize seg.stop seg.fin = false) : ∃ news, r.recv seg = ({ r with
      readOffset := (r.reassembler.accept seg.offset seg.data).1.next
      pending := (r.reassembler.accept seg.offset seg.data).1.pending
      ready := r.ready ++ (r.reassembler.accept seg.offset seg.data).2
      finalSize := if seg.fin then some seg.stop else r.finalSize
      finDelivered := r.finDelivered ||
        (match (if seg.fin then some seg.stop else r.finalSize) with
          | some fsize => decide (fsize ≤ (r.reassembler.accept seg.offset seg.data).1.next)
          | none => false) }, .ok news) := by
  rw [RecvStream.recv, h]
  exact ⟨_, rfl⟩

end OxiQuic
