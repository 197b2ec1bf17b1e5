import OxiQuic.Stream.Basic

/-!
# CRYPTO streams

Ordered reassembly and send buffering of the handshake bytes of one encryption level
(`oxiquic-transport/src/crypto_stream.rs`).  It is a stream without FIN, final size or
reset; `CryptoStream.takeSend_takes` lists the three ways a segment leaves it.
-/

namespace OxiQuic

open Lib

/-- CRYPTO data at an offset. -/
structure CryptoSegment where
  offset : Nat
  data : Bytes
  deriving DecidableEq, Repr

/-- Reassembly and send buffering of one level's CRYPTO stream. -/
structure CryptoStream where
  /-- Next contiguous offset not yet delivered to TLS. -/
  recvOffset : Nat := 0
  /-- Buffered out-of-order segments by start offset. -/
  recvPending : OrdMap Nat Bytes := ∅
  /-- Handshake bytes not yet sent. -/
  sendBuf : Bytes := []
  /-- Absolute offset of the first byte of `sendBuf`. -/
  sendBase : Nat := 0
  /-- Lost segments to retransmit ahead of fresh data. -/
  resend : List CryptoSegment := []

/-- The reassembly state inside a CRYPTO stream. -/
def CryptoStream.reassembler (s : CryptoStream) : Reassembler UInt8 := ⟨s.recvOffset, s.recvPending⟩

/-- Accept CRYPTO data.  The result is what has become contiguous, if anything. -/
def CryptoStream.recv (s : CryptoStream) (offset : Nat) (data : Bytes) :
    CryptoStream × Option Bytes :=
  let (asm, delivered) := s.reassembler.accept offset data
  ({ s with recvOffset := asm.next, recvPending := asm.pending },
    if delivered.isEmpty then none else some delivered)

/-- Queue outbound handshake bytes. -/
def CryptoStream.enqueueSend (s : CryptoStream) (data : Bytes) : CryptoStream :=
  { s with sendBuf := s.sendBuf ++ data }

/-- Whether outbound bytes await transmission or retransmission. -/
def CryptoStream.hasSendData (s : CryptoStream) : Bool := !s.resend.isEmpty || !s.sendBuf.isEmpty

/-- Queue a lost segment for retransmission at its offset. -/
def CryptoStream.requeue (s : CryptoStream) (seg : CryptoSegment) : CryptoStream :=
  { s with resend := s.resend ++ [seg] }

/-- Take at most `max` bytes as the next CRYPTO frame body. -/
def CryptoStream.takeSend (s : CryptoStream) (max : Nat) : CryptoStream × Option CryptoSegment :=
  if max = 0 then (s, none)
  else
    match s.resend with
    | front :: rest =>
      if front.data.length ≤ max then ({ s with resend := rest }, some front)
      else
        ({ s with
            resend := { offset := front.offset + max, data := front.data.drop max } :: rest },
          some { offset := front.offset, data := front.data.take max })
    | [] =>
      if s.sendBuf.isEmpty then (s, none)
      else
        let n := min max s.sendBuf.length
        ({ s with sendBuf := s.sendBuf.drop n, sendBase := s.sendBase + n },
          some { offset := s.sendBase, data := s.sendBuf.take n })

/-- The ways a segment leaves a CRYPTO stream. -/
inductive CryptoStream.Takes (s : CryptoStream) (max : Nat) :
    CryptoStream → CryptoSegment → Prop where
  /-- The first segment of the resend queue fits. -/
  | whole {seg : CryptoSegment} {rest : List CryptoSegment} :
      s.resend = seg :: rest → seg.data.length ≤ max → s.Takes max { s with resend := rest } seg
  /-- The first segment of the resend queue is split. -/
  | split {front : CryptoSegment} {rest : List CryptoSegment} :
      s.resend = front :: rest → 0 < max → max < front.data.length →
      s.Takes max
        { s with resend := { offset := front.offset + max, data := front.data.drop max } :: rest }
        { offset := front.offset, data := front.data.take max }
  /-- Fresh bytes from the buffer. -/
  | fresh {n : Nat} :
      s.resend = [] → 0 < n → n ≤ s.sendBuf.length → n ≤ max →
      s.Takes max { s with sendBuf := s.sendBuf.drop n, sendBase := s.sendBase + n }
        { offset := s.sendBase, data := s.sendBuf.take n }

theorem CryptoStream.takeSend_takes {s s' : CryptoStream} {max : Nat} {seg : CryptoSegment}
    (h : s.takeSend max = (s', some seg)) : s.Takes max s' seg := by
  unfold CryptoStream.takeSend at h
  split at h
  · cases h
  rename_i hmax
  split at h
  · rename_i front rest hresend
    split at h
    · rename_i hfit
      cases h
      exact .whole hresend hfit
    rename_i hfit
    cases h
    exact .split hresend (by omega) (by omega)
  · rename_i hresend
    split at h
    · cases h
    rename_i hbuf
    cases h
    have hpos : 0 < s.sendBuf.length := List.length_pos_iff.mpr (by simpa using hbuf)
    exact .fresh hresend (by omega) (by omega) (by omega)

theorem CryptoStream.takeSend_none {s s' : CryptoStream} {max : Nat}
    (h : s.takeSend max = (s', none)) : s' = s := by
  unfold CryptoStream.takeSend at h
  simp only [] at h
  repeat' split at h
  all_goals cases h
  all_goals rfl

theorem CryptoStream.recv_snd (s : CryptoStream) (offset : Nat) (data : Bytes) :
    ((s.recv offset data).2).getD [] = (s.reassembler.accept offset data).2 := by
  show (if (s.reassembler.accept offset data).2.isEmpty then none
    else some (s.reassembler.accept offset data).2).getD [] = _
  cases (s.reassembler.accept offset data).2 with
  | nil | cons => rfl

end OxiQuic
