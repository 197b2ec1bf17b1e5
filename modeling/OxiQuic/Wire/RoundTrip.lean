import Mathlib.Data.List.Chain
import OxiQuic.Wire.Progress

/-!
# Reading back what was written

The decoders read what the encoders wrote, whatever follows it: `getVarint_putVarint` for
variable-length integers and `decodeFrame_encode` for frames.  Only a run of padding reads
on into what follows, as far as that is zero.  So a list of frames is read back when no two
runs of padding meet (`decodeFrames_encode`).
-/

namespace OxiQuic

open Lib (Reads)

/-! ## Variable-length integers -/

variable {frame : Frame} (value : Nat)

theorem byteAt_toNat (shift : Nat) : (byteAt value shift).toNat = value / 2 ^ shift % 2 ^ 8 := by
  simp [byteAt, Nat.shiftRight_eq_div_pow]

variable {ranges : List AckRange} {frames : List Frame} {bytes used rest : Bytes} (tag : Fin 4)

/-- The first byte of a varint holds the logarithm of its length and its six top bits. -/
theorem getVarint_cons (top : Fin 64) (rest : Bytes) :
    Buf.getVarint ((UInt8.ofNat (64 * tag.val) ||| UInt8.ofNat top.val) :: rest) =
      Buf.getMore (2 ^ tag.val - 1) top.val rest := by
  have hbits : ∀ (tag : Fin 4) (top : Fin 64),
      ((UInt8.ofNat (64 * tag.val) ||| UInt8.ofNat top.val) >>> 6).toNat = tag.val ∧
      ((UInt8.ofNat (64 * tag.val) ||| UInt8.ofNat top.val) &&& 0x3f).toNat = top.val := by
    decide +kernel
  obtain ⟨htag, htop⟩ := hbits tag top
  show Buf.getMore (2 ^ ((UInt8.ofNat (64 * tag.val) ||| UInt8.ofNat top.val) >>> 6).toNat - 1)
    ((UInt8.ofNat (64 * tag.val) ||| UInt8.ofNat top.val) &&& 0x3f).toNat rest = _
  rw [htag, htop]

/-- The low `n` bytes of a value, highest first. -/
def lowBytes (value n : Nat) : Bytes := (List.range n).reverse.map (fun i => byteAt value (8 * i))

theorem lowBytes_succ (n : Nat) :
    lowBytes value (n + 1) = byteAt value (8 * n) :: lowBytes value n := by
  simp [lowBytes, List.range_succ]

theorem getMore_lowBytes (rest : Bytes) (n : Nat) :
    Buf.getMore n (value / 2 ^ (8 * n)) (lowBytes value n ++ rest) = .ok (value, rest) := by
  induction n with
  | zero =>
    rw [Nat.mul_zero, Nat.pow_zero, Nat.div_one]
    rfl
  | succ n ih =>
    have hbyte : value / 2 ^ (8 * (n + 1)) * 2 ^ 8 + (byteAt value (8 * n)).toNat =
        value / 2 ^ (8 * n) := by
      have hpow : 2 ^ (8 * (n + 1)) = 2 ^ (8 * n) * 2 ^ 8 := by rw [← Nat.pow_add]; rfl
      rw [byteAt_toNat, hpow, ← Nat.div_div_eq_div_mul, Nat.div_add_mod']
    rw [lowBytes_succ]
    show Buf.getMore n (value / 2 ^ (8 * (n + 1)) * 2 ^ 8 + (byteAt value (8 * n)).toNat)
      (lowBytes value n ++ rest) = _
    rw [hbyte, ih]

theorem getVarint_tagged {value : Nat} (rest : Bytes)
    (h : value / 2 ^ (8 * (2 ^ tag.val - 1)) < 64) :
    Buf.getVarint ((UInt8.ofNat (64 * tag.val) ||| byteAt value (8 * (2 ^ tag.val - 1))) ::
      (lowBytes value (2 ^ tag.val - 1) ++ rest)) = .ok (value, rest) := by
  have hbyte : byteAt value (8 * (2 ^ tag.val - 1)) =
      UInt8.ofNat (value / 2 ^ (8 * (2 ^ tag.val - 1))) := by
    rw [byteAt, Nat.shiftRight_eq_div_pow]
  rw [hbyte]
  exact (getVarint_cons tag ⟨_, h⟩ _).trans (getMore_lowBytes value rest _)

theorem getVarint_putVarint {value : Nat} (h : value ≤ varintMax) :
    Reads Buf.getVarint (putVarint value) value := by
  intro rest
  have hmax : varintMax = 2 ^ 62 - 1 := rfl
  simp only [putVarint, Nat.min_eq_left h]
  by_cases h1 : value < 2 ^ 6
  · have hsize : varintSize value = 1 := if_pos h1
    rw [hsize]
    have hzero : UInt8.ofNat (64 * 0) ||| byteAt value 0 = byteAt value 0 := UInt8.zero_or
    exact (congrArg (fun b => Buf.getVarint (b :: rest)) hzero).symm.trans
      (getVarint_tagged 0 rest (show value / 2 ^ 0 < 64 by omega))
  by_cases h2 : value < 2 ^ 14
  · have hsize : varintSize value = 2 := by simp only [varintSize, if_neg h1, if_pos h2]
    rw [hsize]
    exact getVarint_tagged 1 rest (show value / 2 ^ 8 < 64 by omega)
  by_cases h4 : value < 2 ^ 30
  · have hsize : varintSize value = 4 := by
      simp only [varintSize, if_neg h1, if_neg h2, if_pos h4]
    rw [hsize]
    exact getVarint_tagged 2 rest (show value / 2 ^ 24 < 64 by omega)
  have hsize : varintSize value = 8 := by
    simp only [varintSize, if_neg h1, if_neg h2, if_neg h4]
  rw [hsize]
  exact getVarint_tagged 3 rest (show value / 2 ^ 56 < 64 by omega)

theorem putVarint_min : putVarint (min value varintMax) = putVarint value := by
  simp only [putVarint, Nat.min_assoc, Nat.min_self]

theorem getBytes_reads (bytes : Bytes) : Reads (Buf.getBytes bytes.length) bytes bytes := by
  intro rest
  simp [Buf.getBytes]

theorem getBytes_reads_of_length {len : Nat} (h : bytes.length = len) :
    Reads (Buf.getBytes len) bytes bytes := h ▸ getBytes_reads bytes

theorem getU8_reads (b : UInt8) : Reads Buf.getU8 [b] b := fun _ => rfl

theorem getLengthPrefixed_reads (h : bytes.length ≤ varintMax) :
    Reads getLengthPrefixed (putVarint bytes.length ++ bytes) bytes :=
  (getVarint_putVarint h).bind (getBytes_reads bytes)

/-! ## The fields of frames -/

theorem lift_reads {α : Type} {d : Decoder α} {a : α} (h : Reads d used a) :
    Reads (FrameDecoder.lift d) used a := by
  intro rest
  simp only [FrameDecoder.lift, h rest]

/-- The further ranges of an `ACK` frame as they are written. -/
def putAckRanges (ranges : List AckRange) : Bytes :=
  ranges.flatMap (fun r => putVarint r.gap ++ putVarint r.range)

theorem getAckRanges_putAckRanges : ∀ ranges : List AckRange,
    (∀ r ∈ ranges, r.gap ≤ varintMax ∧ r.range ≤ varintMax) →
      Reads (getAckRanges ranges.length) (putAckRanges ranges) ranges
  | [], _ => .pure []
  | r :: ranges, h => by
      obtain ⟨hgap, hrange⟩ := h r List.mem_cons_self
      have hmore := getAckRanges_putAckRanges ranges fun r' hr' => h r' (List.mem_cons_of_mem _ hr')
      have hsplit : putAckRanges (r :: ranges) =
          putVarint r.gap ++ (putVarint r.range ++ (putAckRanges ranges ++ [])) := by
        simp [putAckRanges]
      rw [hsplit]
      exact (getVarint_putVarint hgap).bind ((getVarint_putVarint hrange).bind
        (hmore.bind (.pure _)))

theorem getAck_reads {largest delay firstRange : Nat}
    (hlargest : largest ≤ varintMax) (hdelay : delay ≤ varintMax)
    (hfirst : firstRange ≤ varintMax) (hcount : ranges.length ≤ varintMax)
    (hranges : ∀ r ∈ ranges, r.gap ≤ varintMax ∧ r.range ≤ varintMax) :
    Reads (getAck 0x02) (putVarint largest ++ (putVarint delay ++ (putVarint ranges.length ++
      (putVarint firstRange ++ (putAckRanges ranges ++ [])))))
      (.ack largest delay firstRange ranges) :=
  (getVarint_putVarint hlargest).bind <| (getVarint_putVarint hdelay).bind <|
    (getVarint_putVarint hcount).bind <| (getVarint_putVarint hfirst).bind <|
    (getAckRanges_putAckRanges ranges hranges).bind (.pure _)

theorem decodeFrame_reads (typ : Nat) {written : Frame}
    (hbody : Reads (decodeFrameBody typ) used frame)
    (hencoded : written.encode = putVarint typ ++ used := by simp [Frame.encode])
    (htyp : typ ≤ varintMax := by decide) : Reads decodeFrame written.encode frame :=
  hencoded ▸ (lift_reads (getVarint_putVarint htyp)).bind hbody

/-- An `ACK` frame is read back as it was written.  The delay alone can be beyond what a
varint holds, and is then clamped. -/
theorem decodeFrame_ack {largest firstRange : Nat} (delay : Nat)
    (hlargest : largest ≤ varintMax) (hfirst : firstRange ≤ varintMax)
    (hcount : ranges.length ≤ varintMax)
    (hranges : ∀ r ∈ ranges, r.gap ≤ varintMax ∧ r.range ≤ varintMax) :
    Reads decodeFrame (Frame.ack largest delay firstRange ranges).encode
      (.ack largest (min delay varintMax) firstRange ranges) := by
  have hencoded : (Frame.ack largest delay firstRange ranges).encode =
      putVarint 0x02 ++ (putVarint largest ++ (putVarint (min delay varintMax) ++
        (putVarint ranges.length ++ (putVarint firstRange ++ (putAckRanges ranges ++ []))))) := by
    rw [putVarint_min]
    simp only [Frame.encode, putAckRanges, List.append_assoc, List.append_nil]
  exact decodeFrame_reads 0x02
    (lift_reads (getAck_reads hlargest (Nat.min_le_right ..) hfirst hcount hranges)) hencoded

/-! ## Frames -/

/-- What the encoding of a frame can carry: varints within their range, lengths that the
decoder accepts, and a frame type in the closes that have one. -/
def Frame.WellFormed : Frame → Prop
  | .padding count => 0 < count
  | .ping => True
  | .ack largest delay firstRange ranges =>
    largest ≤ varintMax ∧ delay ≤ varintMax ∧ firstRange ≤ varintMax ∧
      ranges.length ≤ varintMax ∧ ∀ r ∈ ranges, r.gap ≤ varintMax ∧ r.range ≤ varintMax
  | .resetStream streamId errorCode finalSize =>
    streamId ≤ varintMax ∧ errorCode ≤ varintMax ∧ finalSize ≤ varintMax
  | .stopSending streamId errorCode => streamId ≤ varintMax ∧ errorCode ≤ varintMax
  | .crypto offset data => offset ≤ varintMax ∧ data.length ≤ varintMax
  | .stream id offset _ data => id ≤ varintMax ∧ offset ≤ varintMax ∧ data.length ≤ varintMax
  | .maxData max => max ≤ varintMax
  | .maxStreamData id max => id ≤ varintMax ∧ max ≤ varintMax
  | .dataBlocked limit => limit ≤ varintMax
  | .streamDataBlocked id limit => id ≤ varintMax ∧ limit ≤ varintMax
  | .pathChallenge data => data.length = 8
  | .pathResponse data => data.length = 8
  | .connectionClose errorCode frameType application reason =>
    errorCode ≤ varintMax ∧ frameType.isSome = !application ∧ frameType.getD 0 ≤ varintMax ∧
      reason.length ≤ varintMax
  | .handshakeDone => True
  | .newConnectionId seq retirePriorTo cid statelessResetToken =>
    seq ≤ varintMax ∧ retirePriorTo ≤ seq ∧ 0 < cid.length ∧ cid.length ≤ 20 ∧
      statelessResetToken.length = 16
  | .retireConnectionId seq => seq ≤ varintMax
  | .maxStreams _ max => max ≤ 2 ^ 60
  | .streamsBlocked _ limit => limit ≤ varintMax
  | .newToken token => 0 < token.length ∧ token.length ≤ varintMax
  | .datagram data => data.length ≤ varintMax

def Frame.isPadding : Frame → Bool
  | .padding _ => true
  | _ => false

theorem getStream_reads {typ id offset : Nat} {data : Bytes} (hbits : typ / 2 % 4 = 3)
    (hid : id ≤ varintMax) (hoffset : offset ≤ varintMax) (hdata : data.length ≤ varintMax) :
    Reads (getStream typ)
      (putVarint id ++ (putVarint offset ++ (putVarint data.length ++ (data ++ []))))
      (.stream id offset (typ % 2 = 1) data) := by
  refine (getVarint_putVarint hid).bind ?_
  dsimp only
  rw [if_pos (by omega)]
  refine (getVarint_putVarint hoffset).bind ?_
  rw [if_pos (by omega)]
  exact (getVarint_putVarint hdata).bind ((getBytes_reads data).bind (.pure _))

theorem getNewConnectionId_reads {seq retirePriorTo : Nat} {cid token : Bytes}
    (hseq : seq ≤ varintMax) (hretire : retirePriorTo ≤ seq)
    (hcid : 0 < cid.length ∧ cid.length ≤ 20) (htoken : token.length = 16) :
    Reads getNewConnectionId (putVarint seq ++ (putVarint retirePriorTo ++
      ([UInt8.ofNat cid.length] ++ (cid ++ (token ++ [])))))
      (.newConnectionId seq retirePriorTo cid token) := by
  have hlen : (UInt8.ofNat cid.length).toNat = cid.length := by
    rw [UInt8.toNat_ofNat']
    omega
  refine (lift_reads (getVarint_putVarint hseq)).bind
    ((lift_reads (getVarint_putVarint (by omega))).bind ?_)
  rw [if_neg (by omega)]
  refine (lift_reads (getU8_reads _)).bind ?_
  have haccepted : ¬ (UInt8.ofNat cid.length = 0 ∨ UInt8.ofNat cid.length > 20) := by
    rw [not_or]
    constructor
    · intro h
      rw [h] at hlen
      exact absurd hlen (by simp; omega)
    intro h
    have hlt := UInt8.lt_iff_toNat_lt.mp h
    rw [hlen] at hlt
    exact absurd hlt (by simp; omega)
  rw [if_neg haccepted]
  exact (lift_reads (getBytes_reads_of_length hlen.symm)).bind
    ((lift_reads (getBytes_reads_of_length htoken)).bind (.pure _))

/-- Every frame but padding is read back as it was written, whatever follows it. -/
theorem decodeFrame_encode (hform : frame.WellFormed)
    (hpadding : frame.isPadding = false) : Reads decodeFrame frame.encode frame := by
  cases frame with
  | padding count => cases hpadding
  | ping => exact decodeFrame_reads 0x01 (.pure _)
  | ack largest delay firstRange ranges =>
    obtain ⟨hlargest, hdelay, hfirst, hcount, hranges⟩ := hform
    have hack := decodeFrame_ack delay hlargest hfirst hcount hranges
    rwa [Nat.min_eq_left hdelay] at hack
  | resetStream streamId errorCode finalSize =>
    obtain ⟨hid, hcode, hsize⟩ := hform
    exact decodeFrame_reads 0x04
      (lift_reads ((getVarint_putVarint hid).bind ((getVarint_putVarint hcode).bind
        ((getVarint_putVarint hsize).bind (.pure _)))))
  | stopSending streamId errorCode =>
    obtain ⟨hid, hcode⟩ := hform
    exact decodeFrame_reads 0x05
      (lift_reads ((getVarint_putVarint hid).bind ((getVarint_putVarint hcode).bind (.pure _))))
  | crypto offset data =>
    obtain ⟨hoffset, hdata⟩ := hform
    exact decodeFrame_reads 0x06 (lift_reads ((getVarint_putVarint hoffset).bind
        ((getLengthPrefixed_reads hdata).bind (.pure _))))
  | stream id offset fin data =>
    obtain ⟨hid, hoffset, hdata⟩ := hform
    cases fin with
    | false =>
      exact decodeFrame_reads 0x0e
        (lift_reads (getStream_reads (by decide) hid hoffset hdata))
    | true =>
      exact decodeFrame_reads 0x0f
        (lift_reads (getStream_reads (by decide) hid hoffset hdata))
  | maxData max =>
    exact decodeFrame_reads 0x10 (lift_reads ((getVarint_putVarint hform).map _))
  | maxStreamData id max =>
    obtain ⟨hid, hmax⟩ := hform
    exact decodeFrame_reads 0x11
      (lift_reads ((getVarint_putVarint hid).bind ((getVarint_putVarint hmax).bind (.pure _))))
  | dataBlocked limit =>
    exact decodeFrame_reads 0x14 (lift_reads ((getVarint_putVarint hform).map _))
  | streamDataBlocked id limit =>
    obtain ⟨hid, hlimit⟩ := hform
    exact decodeFrame_reads 0x15
      (lift_reads ((getVarint_putVarint hid).bind ((getVarint_putVarint hlimit).bind (.pure _))))
  | pathChallenge data =>
    exact decodeFrame_reads 0x1a (lift_reads ((getBytes_reads_of_length hform).map _))
  | pathResponse data =>
    exact decodeFrame_reads 0x1b (lift_reads ((getBytes_reads_of_length hform).map _))
  | connectionClose errorCode frameType application reason =>
    obtain ⟨hcode, hkind, htype, hreason⟩ := hform
    match frameType, application, hkind with
    | some typ, false, _ =>
      exact decodeFrame_reads 0x1c (lift_reads ((getVarint_putVarint hcode).bind
          (((getVarint_putVarint htype).map some).bind
            ((getLengthPrefixed_reads hreason).bind (.pure _)))))
    | none, true, _ =>
      exact decodeFrame_reads 0x1d
        (lift_reads ((getVarint_putVarint hcode).bind ((Reads.pure none).bind
          ((getLengthPrefixed_reads hreason).bind (.pure _)))))
  | handshakeDone => exact decodeFrame_reads 0x1e (.pure _)
  | newConnectionId seq retirePriorTo cid token =>
    obtain ⟨hseq, hretire, hpos, hlen, htoken⟩ := hform
    exact decodeFrame_reads 0x18 (getNewConnectionId_reads hseq hretire ⟨hpos, hlen⟩ htoken)
  | retireConnectionId seq =>
    exact decodeFrame_reads 0x19 (lift_reads ((getVarint_putVarint hform).map _))
  | maxStreams dir max =>
    have hvarint : max ≤ varintMax := Nat.le_trans hform (by decide)
    have hmax (dir : Direction) : Reads (if max > 2 ^ 60 then
        FrameDecoder.refuse "MAX_STREAMS exceeds 2^60" else return Frame.maxStreams dir max) []
        (.maxStreams dir max) := by
      rw [if_neg (Nat.not_lt.mpr hform)]
      exact .pure _
    cases dir with
    | bidirectional =>
      exact decodeFrame_reads 0x12 ((lift_reads (getVarint_putVarint hvarint)).bind (hmax _))
    | unidirectional =>
      exact decodeFrame_reads 0x13 ((lift_reads (getVarint_putVarint hvarint)).bind (hmax _))
  | streamsBlocked dir limit =>
    cases dir with
    | bidirectional =>
      exact decodeFrame_reads 0x16 ((lift_reads (getVarint_putVarint hform)).bind (.pure _))
    | unidirectional =>
      exact decodeFrame_reads 0x17 ((lift_reads (getVarint_putVarint hform)).bind (.pure _))
  | newToken token =>
    obtain ⟨hpos, hlen⟩ := hform
    refine decodeFrame_reads 0x07 ((lift_reads (getVarint_putVarint hlen)).bind ?_)
      (List.append_assoc ..)
    rw [if_neg (Nat.ne_of_gt hpos)]
    exact lift_reads ((getBytes_reads token).map _)
  | datagram data =>
    exact decodeFrame_reads 0x31 (lift_reads ((getLengthPrefixed_reads hform).map _))

/-! ## Sequences of frames -/

theorem zeroRun_replicate {rest : Bytes} (hrest : rest.head? ≠ some 0) :
    ∀ count, zeroRun (List.replicate count 0 ++ rest) = (count, rest)
  | 0 => by
      cases rest with
      | nil => rfl
      | cons b rest => exact if_neg fun hb => hrest (congrArg some hb)
  | count + 1 => by
      have hrun := zeroRun_replicate hrest count
      show ((zeroRun (List.replicate count 0 ++ rest)).1 + 1,
        (zeroRun (List.replicate count 0 ++ rest)).2) = _
      rw [hrun]

theorem decodeFrame_padding {count : Nat} (hcount : 0 < count) (hrest : rest.head? ≠ some 0) :
    decodeFrame ((Frame.padding count).encode ++ rest) = .ok (.padding count, rest) := by
  obtain ⟨count, rfl⟩ := Nat.exists_eq_succ_of_ne_zero (Nat.ne_of_gt hcount)
  show Except.ok (Frame.padding ((zeroRun (List.replicate count 0 ++ rest)).1 + 1),
    (zeroRun (List.replicate count 0 ++ rest)).2) = _
  rw [zeroRun_replicate hrest]

theorem encode_head (hpadding : frame.isPadding = false) (rest : Bytes) :
    (frame.encode ++ rest).head? ≠ some 0 := by
  cases frame with
  | padding count => cases hpadding
  | stream id offset fin data => cases fin <;> exact nofun
  | connectionClose errorCode frameType application reason => cases application <;> exact nofun
  | maxStreams dir | streamsBlocked dir => cases dir <;> exact nofun
  | _ => exact nofun

theorem decodeFrames_cons {buf : Bytes} (h : decodeFrame buf = .ok (frame, rest))
    (hrest : decodeFrames rest = .ok frames) : decodeFrames buf = .ok (frame :: frames) := by
  have hne : buf ≠ [] := by
    rintro rfl
    cases h
  rw [decodeFrames, if_neg hne]
  split
  · next herror => rw [h] at herror; cases herror
  rename_i hok
  rw [h] at hok
  cases hok
  rw [hrest]
  rfl

theorem encode_head_of_isChain
    (hpadding : (frame :: frames).IsChain fun frame next => ¬ (frame.isPadding ∧ next.isPadding))
    (hframe : frame.isPadding = true) : (frames.flatMap Frame.encode).head? ≠ some 0 := by
  cases frames with
  | nil => exact nofun
  | cons next frames =>
    have hnext : next.isPadding = false :=
      Bool.eq_false_iff.mpr fun h => (List.isChain_cons_cons.mp hpadding).1 ⟨hframe, h⟩
    exact encode_head hnext _

/-- Frames that are written one after another are read back as they were. -/
theorem decodeFrames_encode {frames : List Frame} (hform : ∀ frame ∈ frames, frame.WellFormed)
    (hpadding : frames.IsChain fun frame next => ¬ (frame.isPadding ∧ next.isPadding)) :
    decodeFrames (frames.flatMap Frame.encode) = .ok frames := by
  induction frames with
  | nil => rw [List.flatMap_nil, decodeFrames, if_pos rfl]
  | cons frame frames ih =>
    have hrest := ih (fun next hnext => hform next (List.mem_cons_of_mem _ hnext)) hpadding.tail
    have hframe := hform frame List.mem_cons_self
    rw [List.flatMap_cons]
    cases hpad : frame.isPadding with
    | false => exact decodeFrames_cons (decodeFrame_encode hframe hpad _) hrest
    | true =>
      have hhead := encode_head_of_isChain hpadding hpad
      cases frame with
      | padding count => exact decodeFrames_cons (decodeFrame_padding hframe hhead) hrest
      | _ => cases hpad

/-- Padding between a stream frame and a close, and at the end. -/
theorem decodeFrames_encode_padded : decodeFrames ([Frame.stream 4 70 true [7, 0], .padding 3,
      .connectionClose 2 (some 8) false [0], .padding 1].flatMap Frame.encode) =
        .ok [.stream 4 70 true [7, 0], .padding 3, .connectionClose 2 (some 8) false [0],
          .padding 1] :=
  decodeFrames_encode (by simp [Frame.WellFormed, varintMax]) (by simp [Frame.isPadding])

end OxiQuic
