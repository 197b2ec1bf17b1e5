import OxiQuic.Core

/-!
# The platform under the transport

What the transport calls and does not implement: the TLS session of rustls, packet and
header protection, key derivation, the random number generator and the clock.  They are
parameters of the model.  A result that needs something of them names it as a hypothesis.

Fallible calls return an `Option`.  Decryption checks the tag before it touches the buffer, so
a failed call leaves nothing behind.
-/

namespace OxiQuic

/-- Which side of a connection an endpoint is. -/
inductive Role where
  | client
  | server
  deriving DecidableEq, Repr

/-- The keys of one direction. -/
structure DirectionalKeys (PacketKey HeaderKey : Type) where
  header : HeaderKey
  packet : PacketKey

/-- The keys of one encryption level. -/
structure Keys (PacketKey HeaderKey : Type) where
  sending : DirectionalKeys PacketKey HeaderKey
  receiving : DirectionalKeys PacketKey HeaderKey

/-- The packet keys of one key-update epoch.  Header keys stay as they are. -/
structure PacketKeySet (PacketKey : Type) where
  sending : PacketKey
  receiving : PacketKey

/-- Keys that become available while the handshake is written. -/
inductive KeyChange (PacketKey HeaderKey Secrets : Type) where
  | handshake (keys : Keys PacketKey HeaderKey)
  | oneRtt (keys : Keys PacketKey HeaderKey) (next : Secrets)

/-- The `f64` arithmetic the congestion controllers use. -/
class F64 (F : Type) where
  /-- The number `n / d`. -/
  lit : Nat → Nat → F
  add : F → F → F
  sub : F → F → F
  mul : F → F → F
  div : F → F → F
  cbrt : F → F
  max : F → F → F
  min : F → F → F
  lt : F → F → Bool
  le : F → F → Bool
  infinity : F
  /-- The cast to `u64`, which saturates. -/
  toU64 : F → Nat

instance : F64 Float where
  lit n d := Float.ofNat n / Float.ofNat d
  add := (· + ·)
  sub := (· - ·)
  mul := (· * ·)
  div := (· / ·)
  cbrt := Float.cbrt
  max := Max.max
  min := Min.min
  lt a b := a < b
  le a b := a ≤ b
  infinity := 1.0 / 0.0
  toU64 f := f.toUInt64.toNat

/-- The parts of the stack below the transport. -/
structure Platform where
  /-- The state of a TLS session. -/
  Session : Type
  /-- An AEAD packet key. -/
  PacketKey : Type
  /-- A header protection key. -/
  HeaderKey : Type
  /-- The secret that key updates are derived from. -/
  Secrets : Type
  /-- The state of the random number generator and of the clock. -/
  Os : Type
  /-- The type `f64`. -/
  Real : Type
  /-- Its arithmetic. -/
  real : F64 Real
  /-- `Keys::initial`: the Initial keys of a connection ID. -/
  initialKeys : ConnectionId → Role → Keys PacketKey HeaderKey
  /-- `PacketKey::encrypt_in_place` at a packet number, over header and payload: the sealed
  payload and the tag. -/
  packetEncrypt : PacketKey → Nat → Bytes → Bytes → Option (Bytes × Bytes)
  /-- `PacketKey::decrypt_in_place` at a packet number, over header and sealed payload. -/
  packetDecrypt : PacketKey → Nat → Bytes → Bytes → Option Bytes
  tagLen : PacketKey → Nat
  /-- `HeaderProtectionKey::encrypt_in_place` on a sample, a first byte and a packet
  number. -/
  headerEncrypt : HeaderKey → Bytes → UInt8 → Bytes → Option (UInt8 × Bytes)
  /-- `HeaderProtectionKey::decrypt_in_place`. -/
  headerDecrypt : HeaderKey → Bytes → UInt8 → Bytes → Option (UInt8 × Bytes)
  sampleLen : HeaderKey → Nat
  /-- `Secrets::next_packet_keys`. -/
  nextPacketKeys : Secrets → PacketKeySet PacketKey × Secrets
  /-- AES-128-GCM under a key and a nonce, over associated data and a message. -/
  aes128GcmSeal : Bytes → Bytes → Bytes → Bytes → Option Bytes
  /-- HMAC-SHA256 under a key. -/
  hmacSha256 : Bytes → Bytes → Bytes
  /-- `String::from_utf8_lossy`. -/
  utf8Lossy : Bytes → String
  /-- `write_hs`: handshake bytes to send and perhaps new keys. -/
  writeHs : Session → Session × Bytes × Option (KeyChange PacketKey HeaderKey Secrets)
  /-- `read_hs`: handshake bytes received. -/
  readHs : Session → Bytes → Session × Except String Unit
  isHandshaking : Session → Bool
  quicTransportParameters : Session → Option Bytes
  zeroRttKeys : Session → Option (DirectionalKeys PacketKey HeaderKey)
  isEarlyDataAccepted : Session → Bool
  /-- A bound on the key changes a session still has to hand out. -/
  keyChangesLeft : Session → Nat
  /-- A session hands out finitely many key changes without further input. -/
  writeHs_keyChangesLeft : ∀ s, (writeHs s).2.2.isSome = true →
    keyChangesLeft (writeHs s).1 < keyChangesLeft s
  /-- `SecureRandom::fill` of a buffer of the given length. -/
  fill : Os → Nat → Os × Option Bytes
  /-- `Instant::now`. -/
  now : Os → Os × Time

instance (P : Platform) : F64 P.Real := P.real

namespace Platform

/-- Sealing and header protection never fail, and tags have the 16 bytes the packet
builders assume. -/
structure SealsAlways (P : Platform) : Prop where
  packetEncrypt : ∀ key pn header payload, ∃ sealed tag,
    P.packetEncrypt key pn header payload = some (sealed, tag) ∧
      sealed.length = payload.length ∧ tag.length = 16
  headerEncrypt : ∀ key sample first pn, ∃ first' pn',
    P.headerEncrypt key sample first pn = some (first', pn') ∧ pn'.length = pn.length

/-- Header protection works in place, on a sample of at least 16 bytes. -/
structure UnmasksInPlace (P : Platform) : Prop where
  headerDecrypt : ∀ {key sample first pn first' pn'},
    P.headerDecrypt key sample first pn = some (first', pn') → pn'.length = pn.length
  sampleLen : ∀ key, 16 ≤ P.sampleLen key

end Platform

end OxiQuic
