import OxiQuic.Wire.Packet
import OxiQuic.Wire.RoundTrip

/-!
# Packet numbers on the wire

A packet number is written as its low bytes and recovered from the largest number received.
The sender picks so many bytes that the receiver's window has the number in it
(`decodePacketNumber_encodePacketNumber`).  Next to the code's decoder stands the one of RFC
9000, Appendix A.3, from which it differs at ties and in the topmost window
(`decodePacketNumber_eq_rfc_iff`).
-/

namespace OxiQuic

theorem beValue_cons (b : UInt8) (bytes : Bytes) :
    beValue (b :: bytes) = b.toNat * 2 ^ (8 * bytes.length) + beValue bytes := by
  -- the fold is generalised to any start value
  have hfold : ∀ (bytes : Bytes) (acc : Nat),
      bytes.foldl (fun acc b => acc * 2 ^ 8 + b.toNat) acc =
        acc * 2 ^ (8 * bytes.length) + beValue bytes := by
    intro bytes
    induction bytes with
    | nil => simp [beValue]
    | cons b bytes ih =>
      intro acc
      have hlen : 8 * (b :: bytes).length = 8 + 8 * bytes.length := by simp; omega
      rw [beValue, List.foldl_cons, List.foldl_cons, ih, ih, hlen, Nat.pow_add, Nat.zero_mul,
        Nat.zero_add, Nat.add_mul, Nat.mul_assoc, Nat.add_assoc]
  have h := hfold bytes b.toNat
  rw [beValue, List.foldl_cons, Nat.zero_mul, Nat.zero_add, h]

theorem beValue_lowBytes (value n : Nat) : beValue (lowBytes value n) = value % 2 ^ (8 * n) := by
  induction n with
  | zero => simp [lowBytes, beValue, Nat.mod_one]
  | succ n ih =>
    have hlen : (lowBytes value n).length = n := by simp [lowBytes]
    have hpow : 2 ^ (8 * (n + 1)) = 2 ^ (8 * n) * 2 ^ 8 := by rw [← Nat.pow_add]; rfl
    rw [lowBytes_succ, beValue_cons, byteAt_toNat, hlen, ih, hpow, Nat.mod_mul,
      Nat.mul_comm, Nat.add_comm]

theorem beValue_encodePacketNumber (pn : Nat) {len : Nat} (hpos : 0 < len) (hle : len ≤ 4) :
    beValue (encodePacketNumber pn len) = pn % 2 ^ (8 * len) := by
  have hlen : max 1 (min len 4) = len := by omega
  have hlow : encodePacketNumber pn len = lowBytes pn len := by
    simp only [encodePacketNumber, lowBytes, hlen, Nat.mul_comm]
  rw [hlow, beValue_lowBytes]

/-- The number the receiver expects next. -/
def expectedPacketNumber (largestPn : Option Nat) : Nat :=
  match largestPn with
  | some largest => largest + 1
  | none => 0

/-- A number less than half a window away from the expected one is recovered from its
truncation. -/
theorem decodePacketNumber_near {largestPn : Option Nat} {pn len : Nat} (hpos : 0 < len)
    (hle : len ≤ 4) (hpn : pn < 2 ^ 62)
    (hbelow : expectedPacketNumber largestPn < pn + 2 ^ (8 * len - 1))
    (habove : pn < expectedPacketNumber largestPn + 2 ^ (8 * len - 1)) :
    decodePacketNumber largestPn (pn % 2 ^ (8 * len)) len = pn := by
  have hlen : len = 1 ∨ len = 2 ∨ len = 3 ∨ len = 4 := by omega
  -- one window size for each length
  cases largestPn <;> obtain rfl | rfl | rfl | rfl := hlen
  all_goals
    simp only [decodePacketNumber, expectedPacketNumber, Nat.reduceMul, Nat.reducePow,
      Nat.reduceSub, Nat.reduceDiv] at *
    repeat' split
  all_goals omega

/-- The length leaves the number less than half a window above the largest acknowledged
one. -/
theorem lt_half_of_packetNumberLen (pn : Nat) {acked : Option Nat}
    (hrange : pn + 1 < expectedPacketNumber acked + 2 ^ 31) :
    pn + 1 < expectedPacketNumber acked + 2 ^ (8 * packetNumberLen pn acked - 1) := by
  cases acked
  all_goals
    simp only [packetNumberLen, expectedPacketNumber, Nat.reducePow] at hrange ⊢
    repeat' split
  all_goals
    simp only [Nat.reduceMul, Nat.reducePow, Nat.reduceSub]
    omega

/-- A packet number is recovered from the bytes written for it when the receiver has got
what the sender knows to be received, and is less than half a window ahead. -/
theorem decodePacketNumber_encodePacketNumber {pn : Nat} {acked largest : Option Nat}
    (hpn : pn < 2 ^ 62) (hacked : ∀ a ∈ acked, a < pn ∧ pn - a < 2 ^ 31)
    (hnone : acked = none → pn + 1 < 2 ^ 31) (hreceived : ∀ a ∈ acked, ∃ l ∈ largest, a ≤ l)
    (hahead : ∀ l ∈ largest, l + 1 < pn + 2 ^ (8 * packetNumberLen pn acked - 1)) :
    decodePacketNumber largest (beValue (encodePacketNumber pn (packetNumberLen pn acked)))
      (packetNumberLen pn acked) = pn := by
  obtain ⟨hpos, hle⟩ := packetNumberLen_pos pn acked
  rw [beValue_encodePacketNumber pn hpos hle]
  have hrange : pn + 1 < expectedPacketNumber acked + 2 ^ 31 := by
    cases acked with
    | none => simpa [expectedPacketNumber] using hnone rfl
    | some a =>
      have := hacked a rfl
      simp only [expectedPacketNumber]
      omega
  have hmono : expectedPacketNumber acked ≤ expectedPacketNumber largest := by
    cases acked with
    | none => exact Nat.zero_le _
    | some a =>
      obtain ⟨l, hl, hle⟩ := hreceived a rfl
      rw [Option.mem_def.mp hl]
      exact Nat.succ_le_succ hle
  have hhalf := lt_half_of_packetNumberLen pn hrange
  refine decodePacketNumber_near hpos hle hpn ?_ (by omega)
  cases largest with
  | none => exact Nat.add_pos_right _ (Nat.two_pow_pos _)
  | some l => exact hahead l rfl

theorem decodePacketNumber_encodePacketNumber_late :
    (255 + 1 < 200 + 2 ^ (8 * packetNumberLen 200 (some 100) - 1)) ∧
      decodePacketNumber (some 255)
        (beValue (encodePacketNumber 200 (packetNumberLen 200 (some 100))))
        (packetNumberLen 200 (some 100)) = 200 :=
  ⟨by decide, decodePacketNumber_encodePacketNumber (by decide) (by simp) (by simp) (by simp)
    (by simp [packetNumberLen])⟩

/-! ## The decoder of the RFC -/

/-- `DecodePacketNumber` of RFC 9000, Appendix A.3, over the integers. -/
def rfcDecodePacketNumber (largestPn : Option Nat) (truncated pnLen : Nat) : Nat :=
  let expected := expectedPacketNumber largestPn
  let window := 2 ^ (8 * pnLen)
  let half := window / 2
  let candidate := expected / window * window + truncated
  if candidate + half ≤ expected ∧ candidate < 2 ^ 62 - window then candidate + window
  else if expected + half < candidate ∧ window ≤ candidate then candidate - window
  else candidate

/-- The two decoders agree unless the candidate lies exactly half a window below the
expected number, where only the RFC goes up, or more than half a window below it in the
topmost window, where only the code does. -/
theorem decodePacketNumber_eq_rfc_iff {largestPn : Option Nat} {truncated pnLen : Nat}
    (hlargest : ∀ l ∈ largestPn, l < 2 ^ 62) (hpos : 0 < pnLen) (hle : pnLen ≤ 4)
    (htruncated : truncated < 2 ^ (8 * pnLen)) :
    decodePacketNumber largestPn truncated pnLen =
        rfcDecodePacketNumber largestPn truncated pnLen ↔
      let expected := expectedPacketNumber largestPn
      let window := 2 ^ (8 * pnLen)
      if expected < 2 ^ 62 - window then expected % window ≠ truncated + window / 2
      else expected % window ≤ truncated + window / 2 := by
  have hexpected : expectedPacketNumber largestPn ≤ 2 ^ 62 := by
    cases largestPn with
    | none => simp [expectedPacketNumber]
    | some l => exact hlargest l rfl
  have hlen : pnLen = 1 ∨ pnLen = 2 ∨ pnLen = 3 ∨ pnLen = 4 := by omega
  cases largestPn <;> obtain rfl | rfl | rfl | rfl := hlen
  all_goals
    simp only [Nat.reduceMul, Nat.reducePow, expectedPacketNumber] at hexpected htruncated
    unfold decodePacketNumber rfcDecodePacketNumber expectedPacketNumber
    simp only [Nat.reduceMul, Nat.reducePow, Nat.reduceSub, Nat.reduceDiv]
    repeat' split
  all_goals omega

theorem decodePacketNumber_eq_rfc_inOrder :
    decodePacketNumber (some 300) 45 1 = rfcDecodePacketNumber (some 300) 45 1 :=
  (decodePacketNumber_eq_rfc_iff (by simp) (by decide) (by decide) (by decide)).mpr (by decide)

/-- At a tie the code stays at 0 where the RFC has 256, and above `2 ^ 62 - 256` the code
leaves the range of packet numbers. -/
theorem decodePacketNumber_ne_rfc :
    (decodePacketNumber (some 127) 0 1 = 0 ∧ rfcDecodePacketNumber (some 127) 0 1 = 256) ∧
      (decodePacketNumber (some (2 ^ 62 - 2)) 0 1 = 2 ^ 62 ∧
        rfcDecodePacketNumber (some (2 ^ 62 - 2)) 0 1 = 2 ^ 62 - 256) := by
  decide

end OxiQuic
