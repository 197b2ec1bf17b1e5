import OxiQuic.Core

/-!
# Integers on the wire

Variable-length integers and truncated packet numbers
(`oxiquic-transport/src/coding.rs`).  A `Buf` cursor over a slice is the list of bytes not
yet read; a decoder returns its value together with what remains.
-/

namespace OxiQuic

/-- Why a wire structure does not decode. -/
inductive CodecError where
  /-- The buffer ended before the structure was read. -/
  | unexpectedEnd
  deriving DecidableEq, Repr

/-- A decoder reads from the front of the remaining bytes. -/
abbrev Decoder := StateT Bytes (Except CodecError)

/-- The largest variable-length integer. -/
def varintMax : Nat := 2 ^ 62 - 1

/-- How many bytes a variable-length integer takes. -/
def varintSize (value : Nat) : Nat :=
  if value < 2 ^ 6 then 1
  else if value < 2 ^ 14 then 2
  else if value < 2 ^ 30 then 4
  else 8

namespace Buf

def getU8 : Decoder UInt8 := fun buf =>
  match buf with
  | [] => .error .unexpectedEnd
  | b :: rest => .ok (b, rest)

def getU16 : Decoder Nat := do
  let hi ← getU8
  let lo ← getU8
  return hi.toNat * 2 ^ 8 + lo.toNat

def getU32 : Decoder Nat := do
  let hi ← getU16
  let lo ← getU16
  return hi * 2 ^ 16 + lo

/-- The next `len` bytes. -/
def getBytes (len : Nat) : Decoder Bytes := fun buf =>
  if len ≤ buf.length then .ok (buf.take len, buf.drop len) else .error .unexpectedEnd

/-- Append `n` more bytes to a big-endian value. -/
def getMore : Nat → Nat → Decoder Nat
  | 0, value => pure value
  | n + 1, value => do
      let b ← getU8
      getMore n (value * 2 ^ 8 + b.toNat)

/-- A variable-length integer: the two top bits of the first byte give its length. -/
def getVarint : Decoder Nat := do
  let first ← getU8
  getMore (2 ^ (first >>> 6).toNat - 1) (first &&& 0x3f).toNat

/-- The number of bytes not yet read. -/
def remaining : Decoder Nat := fun buf => .ok (buf.length, buf)

end Buf

/-- The byte of `value` at bit position `shift`. -/
def byteAt (value shift : Nat) : UInt8 := UInt8.ofNat (value >>> shift)

/-- The encoding of a variable-length integer.  A value above `varintMax` is clamped. -/
def putVarint (value : Nat) : Bytes :=
  let value := min value varintMax
  match varintSize value with
  | 1 => [byteAt value 0]
  | 2 => [0x40 ||| byteAt value 8, byteAt value 0]
  | 4 => [0x80 ||| byteAt value 24, byteAt value 16, byteAt value 8, byteAt value 0]
  | _ => [0xc0 ||| byteAt value 56, byteAt value 48, byteAt value 40, byteAt value 32,
      byteAt value 24, byteAt value 16, byteAt value 8, byteAt value 0]

/-- A big-endian `u32`. -/
def putU32 (value : Nat) : Bytes :=
  [byteAt value 24, byteAt value 16, byteAt value 8, byteAt value 0]

/-- The number of bytes a packet number is truncated to, given the largest acknowledged
one. -/
def packetNumberLen (pn : Nat) (largestAcked : Option Nat) : Nat :=
  let range := match largestAcked with
    | some acked => (pn - acked) * 2
    | none => (pn + 1) * 2
  if range < 2 ^ 8 then 1
  else if range < 2 ^ 16 then 2
  else if range < 2 ^ 24 then 3
  else 4

/-- The low `len` bytes of a packet number, for `len` from 1 to 4. -/
def encodePacketNumber (pn len : Nat) : Bytes :=
  (List.range (max 1 (min len 4))).reverse.map (fun shift => byteAt pn (shift * 8))

/-- Recover a packet number from its truncation, given the largest one received.
`candidate + pnHwin` wraps at 64 bits. -/
def decodePacketNumber (largestPn : Option Nat) (truncated pnLen : Nat) : Nat :=
  let expected := match largestPn with
    | some largest => largest + 1
    | none => 0
  let pnWin := 2 ^ (pnLen * 8)
  let pnHwin := pnWin / 2
  let candidate := expected / pnWin * pnWin + truncated
  if (candidate + pnHwin) % 2 ^ 64 ≤ expected ∧ candidate < 2 ^ 64 - 1 - pnWin ∧
      pnHwin < expected - candidate then
    candidate + pnWin
  else if expected + pnHwin < candidate ∧ pnWin ≤ candidate then candidate - pnWin
  else candidate

theorem packetNumberLen_pos (pn : Nat) (largestAcked : Option Nat) :
    0 < packetNumberLen pn largestAcked ∧ packetNumberLen pn largestAcked ≤ 4 := by
  unfold packetNumberLen
  simp only []
  repeat' split
  all_goals omega

@[simp] theorem encodePacketNumber_length (pn len : Nat) :
    (encodePacketNumber pn len).length = max 1 (min len 4) := by
  simp [encodePacketNumber]

theorem varintSize_cases (value : Nat) :
    varintSize value = 1 ∨ varintSize value = 2 ∨ varintSize value = 4 ∨ varintSize value = 8 := by
  simp only [varintSize]
  split
  · exact .inl rfl
  split
  · exact .inr (.inl rfl)
  split
  · exact .inr (.inr (.inl rfl))
  · exact .inr (.inr (.inr rfl))

theorem putVarint_length (value : Nat) :
    (putVarint value).length = varintSize (min value varintMax) := by
  simp only [putVarint]
  rcases varintSize_cases (min value varintMax) with h | h | h | h <;> rw [h] <;> rfl

end OxiQuic
