import OxiQuic.Lib.Decoder
import OxiQuic.Wire.Frame

/-!
# Decoding makes progress

Whatever the bytes, a decoder leaves a suffix of them, and a frame that decodes has taken at
least the byte of its type.  A buffer of frames is therefore decoded to its end in finitely
many steps (`decodeFrames`).
-/

namespace OxiQuic

open Lib (Consumes)

/-! ## Integers and byte strings -/

theorem getU8_consumes : Consumes 1 Buf.getU8 := by
  intro buf b rest h
  cases buf with
  | nil => cases h
  | cons first tail =>
    cases h
    exact ⟨[b], rfl, Nat.le_refl 1⟩

theorem getBytes_consumes (len : Nat) : Consumes len (Buf.getBytes len) := by
  intro buf bytes rest h
  simp only [Buf.getBytes] at h
  split at h
  · rename_i hlen
    cases h
    exact ⟨buf.take len, (List.take_append_drop len buf).symm,
      Nat.le_of_eq (List.length_take_of_le hlen).symm⟩
  · cases h

theorem remaining_consumes : Consumes 0 Buf.remaining := by
  intro buf n rest h
  cases h
  exact ⟨[], rfl, Nat.le_refl 0⟩

theorem getMore_consumes : ∀ n value, Consumes n (Buf.getMore n value)
  | 0, value => .pure value
  | n + 1, value => by
      have hmore := getU8_consumes.bind fun b => getMore_consumes n (value * 2 ^ 8 + b.toNat)
      exact hmore.mono (Nat.le_of_eq (Nat.add_comm n 1))

theorem getVarint_consumes : Consumes 1 Buf.getVarint :=
  getU8_consumes.bind fun _ => (getMore_consumes _ _).mono (Nat.zero_le _)

theorem getLengthPrefixed_consumes : Consumes 1 getLengthPrefixed :=
  getVarint_consumes.bind fun len => (getBytes_consumes len).mono (Nat.zero_le _)

/-! ## Frames -/

theorem lift_consumes {α : Type} {d : Decoder α} {n : Nat} (h : Consumes n d) :
    Consumes n (FrameDecoder.lift d) := by
  intro buf a rest hrun
  simp only [FrameDecoder.lift] at hrun
  split at hrun
  · rename_i hd
    cases hrun
    exact h _ _ _ hd
  · cases hrun

theorem refuse_consumes {α : Type} (detail : String) (n : Nat) :
    Consumes n (FrameDecoder.refuse (α := α) detail) := nofun

/-- The count of ranges is the peer's to choose, but every range takes two bytes. -/
theorem getAckRanges_consumes : ∀ n, Consumes (2 * n) (getAckRanges n)
  | 0 => .pure []
  | n + 1 => by
      have hrange := getVarint_consumes.bind fun gap => getVarint_consumes.bind fun range =>
        (getAckRanges_consumes n).bind fun rest =>
          Consumes.pure ({ gap := gap, range := range } :: rest)
      exact hrange.mono (by omega)

variable (typ : Nat)

theorem getAck_consumes : Consumes 4 (getAck typ) := by
  refine (getVarint_consumes.bind fun _ => getVarint_consumes.bind fun _ =>
    getVarint_consumes.bind fun count => getVarint_consumes.bind fun _ =>
    (getAckRanges_consumes count).mono (Nat.zero_le _) |>.bind fun _ => (?_ : Consumes 0 _))
  split
  · exact (getVarint_consumes.bind fun _ => getVarint_consumes.bind fun _ =>
      getVarint_consumes.bind fun _ => .pure _).mono (Nat.zero_le _)
  · exact .pure _

theorem getStream_consumes : Consumes 1 (getStream typ) := by
  have hvarint := getVarint_consumes.mono (Nat.zero_le 1)
  have hdata (id offset len : Nat) : Consumes 0 (do
      let data ← Buf.getBytes len
      return Frame.stream id offset (typ % 2 = 1) data) :=
    ((getBytes_consumes len).mono (Nat.zero_le _)).bind fun data => .pure _
  refine getVarint_consumes.bind (n := 0) fun id => ?_
  dsimp only
  -- each of the two bits decides whether its field is there
  split
  · refine hvarint.bind (n := 0) fun offset => ?_
    split
    · exact hvarint.bind (hdata id offset)
    · exact remaining_consumes.bind (hdata id offset)
  refine (Consumes.pure 0).bind (n := 0) fun offset => ?_
  split
  · exact hvarint.bind (hdata id offset)
  · exact remaining_consumes.bind (hdata id offset)

theorem getNewConnectionId_consumes : Consumes 2 getNewConnectionId := by
  have hvarint := lift_consumes getVarint_consumes
  refine hvarint.bind fun seq => hvarint.bind fun retirePriorTo => (?_ : Consumes 0 _)
  split
  · exact refuse_consumes _ _
  refine ((lift_consumes getU8_consumes).mono (Nat.zero_le _)).bind
    fun cidLen => (?_ : Consumes 0 _)
  split
  · exact refuse_consumes _ _
  · exact ((lift_consumes (getBytes_consumes _)).mono (Nat.zero_le _)).bind fun _ =>
      ((lift_consumes (getBytes_consumes 16)).mono (Nat.zero_le _)).bind fun _ => .pure _

theorem getConnectionClose_consumes : Consumes 2 (getConnectionClose typ) := by
  have hreason (errorCode : Nat) (frameType : Option Nat) : Consumes 1 (do
      let reason ← getLengthPrefixed
      return Frame.connectionClose errorCode frameType (typ = 0x1d) reason) :=
    getLengthPrefixed_consumes.bind fun reason => .pure _
  refine getVarint_consumes.bind (n := 1) fun errorCode => ?_
  dsimp only
  split
  · exact ((getVarint_consumes.map some).bind (hreason errorCode)).mono (by decide)
  · exact (Consumes.pure none).bind (hreason errorCode)

theorem zeroRun_split : ∀ buf : Bytes, buf = List.replicate (zeroRun buf).1 0 ++ (zeroRun buf).2
  | [] => rfl
  | b :: rest => by
      simp only [zeroRun]
      split
      · rename_i hb
        rw [hb, List.replicate_succ, List.cons_append]
        exact congrArg (0 :: ·) (zeroRun_split rest)
      · rfl

theorem decodeFrameBody_consumes : Consumes 0 (decodeFrameBody typ) := by
  have hvarint := getVarint_consumes.mono (Nat.zero_le 1)
  have hprefixed := getLengthPrefixed_consumes.mono (Nat.zero_le 1)
  have htwo {f : Nat → Nat → Frame} : Consumes 0 (do return f (← Buf.getVarint) (← Buf.getVarint)) :=
    hvarint.bind fun _ => hvarint.bind fun _ => .pure _
  unfold decodeFrameBody
  split
  · -- a run of padding
    intro buf frame rest h
    cases h
    exact ⟨_, zeroRun_split buf, Nat.zero_le _⟩
  · exact .pure _
  · exact lift_consumes ((getAck_consumes _).mono (Nat.zero_le _))
  · exact lift_consumes ((getAck_consumes _).mono (Nat.zero_le _))
  · exact lift_consumes (hvarint.bind fun _ => hvarint.bind fun _ => hvarint.bind fun _ => .pure _)
  · exact lift_consumes htwo
  · exact lift_consumes (hvarint.bind fun _ => hprefixed.bind fun _ => .pure _)
  · refine (lift_consumes hvarint).bind fun len => (?_ : Consumes 0 _)
    split
    · exact refuse_consumes _ _
    · exact lift_consumes (((getBytes_consumes len).mono (Nat.zero_le _)).map _)
  iterate 8 exact lift_consumes ((getStream_consumes _).mono (Nat.zero_le _))
  · exact lift_consumes (hvarint.map _)
  · exact lift_consumes htwo
  iterate 2
    refine (lift_consumes hvarint).bind fun max => (?_ : Consumes 0 _)
    split
    · exact refuse_consumes _ _
    · exact .pure _
  · exact lift_consumes (hvarint.map _)
  · exact lift_consumes htwo
  iterate 2 exact (lift_consumes hvarint).bind fun _ => .pure _
  · exact getNewConnectionId_consumes.mono (Nat.zero_le _)
  · exact lift_consumes (hvarint.map _)
  iterate 2 exact lift_consumes (((getBytes_consumes 8).mono (Nat.zero_le _)).map _)
  iterate 2 exact lift_consumes ((getConnectionClose_consumes _).mono (Nat.zero_le _))
  · exact .pure _
  · exact lift_consumes (remaining_consumes.bind fun _ =>
      ((getBytes_consumes _).mono (Nat.zero_le _)).bind fun _ => .pure _)
  · exact lift_consumes (hprefixed.map _)
  · exact refuse_consumes _ _

/-- A frame that decodes has taken at least one byte, and what is left is a suffix. -/
theorem decodeFrame_consumes : Consumes 1 decodeFrame :=
  (lift_consumes getVarint_consumes).bind decodeFrameBody_consumes

/-- Decode frames until the buffer is empty. -/
def decodeFrames (buf : Bytes) : Except FrameError (List Frame) :=
  if buf = [] then .ok []
  else
    match _h : decodeFrame buf with
    | .error e => .error e
    | .ok (frame, rest) => (frame :: ·) <$> decodeFrames rest
termination_by buf.length
decreasing_by 
  have hlength := decodeFrame_consumes.length _h
  omega

end OxiQuic
