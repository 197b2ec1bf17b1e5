import Mathlib.Algebra.Order.Ring.Nat

/-!
# Core types

The types of `oxiquic-core` the transport is written with: stream identifiers, packet
types, transport error codes, transport parameters and the error type of the stack.
A `u64` of the source is a `Nat`; where the source relies on its width, the model says so.
-/

namespace OxiQuic

/-- A string of bytes. -/
abbrev Bytes := List UInt8

/-- A connection ID, at most 20 bytes on the wire. -/
abbrev ConnectionId := Bytes

/-- An instant or a duration, in nanoseconds. -/
abbrev Time := Nat

/-- `n` milliseconds. -/
def millis (n : Nat) : Time := n * 1000000

/-- The remote address of a UDP datagram. -/
abbrev SocketAddr := Nat

/-! ## Stream identifiers -/

/-- Which endpoint opened a stream. -/
inductive Initiator where
  | client
  | server
  deriving DecidableEq, Repr

/-- Whether both endpoints send on a stream. -/
inductive Direction where
  | bidirectional
  | unidirectional
  deriving DecidableEq, Repr

/-- A stream identifier: the index above two bits for direction and initiator. -/
abbrev StreamId := Nat

def StreamId.maxIndex : Nat := 2 ^ 60 - 1

def StreamId.new (initiator : Initiator) (direction : Direction) (index : Nat) : StreamId :=
  let initiatorBit := match initiator with
    | .client => 0
    | .server => 1
  let directionBit := match direction with
    | .bidirectional => 0
    | .unidirectional => 1
  -- the index is masked to 60 bits
  (index % 2 ^ 60) * 4 + directionBit * 2 + initiatorBit

def StreamId.initiator (id : StreamId) : Initiator := if id % 2 = 0 then .client else .server

def StreamId.direction (id : StreamId) : Direction :=
  if id / 2 % 2 = 0 then .bidirectional else .unidirectional

def StreamId.index (id : StreamId) : Nat := id / 4

def Initiator.display : Initiator → String
  | .client => "client"
  | .server => "server"

def Direction.display : Direction → String
  | .bidirectional => "bidirectional"
  | .unidirectional => "unidirectional"

/-- How error messages name a stream. -/
def StreamId.display (id : StreamId) : String :=
  let initiator := (StreamId.initiator id).display
  let direction := (StreamId.direction id).display
  let index := StreamId.index id
  s!"{initiator} {direction} stream {index}"

variable (i : Initiator) (d : Direction)

theorem StreamId.initiator_new (n : Nat) : (StreamId.new i d n).initiator = i := by
  cases i <;> cases d <;> simp [StreamId.new, StreamId.initiator] <;> omega

theorem StreamId.direction_new (n : Nat) : (StreamId.new i d n).direction = d := by
  cases i <;> cases d <;> simp [StreamId.new, StreamId.direction] <;> omega

theorem StreamId.index_new {n : Nat} (h : n ≤ StreamId.maxIndex) :
    (StreamId.new i d n).index = n := by
  have hlt : n % 2 ^ 60 = n := Nat.mod_eq_of_lt (by simp [StreamId.maxIndex] at h; omega)
  cases i <;> cases d <;> simp only [StreamId.new, StreamId.index, hlt] <;> omega

/-! ## Packet types -/

/-- The kinds of packets. -/
inductive PacketType where
  | initial
  | zeroRtt
  | handshake
  | retry
  | versionNegotiation
  | short
  deriving DecidableEq, Repr

/-- The header form bit selects short headers, the two type bits the long ones. -/
def PacketType.fromFirstByte (first : UInt8) : PacketType :=
  if first &&& 0x80 = 0 then .short
  else
    match ((first &&& 0x30) >>> 4).toNat with
    | 0 => .initial
    | 1 => .zeroRtt
    | 2 => .handshake
    | _ => .retry

/-- A long header of version zero is a Version Negotiation packet. -/
def PacketType.fromFirstByteAndVersion (first : UInt8) (version : Nat) : PacketType :=
  if first &&& 0x80 ≠ 0 ∧ version = 0 then .versionNegotiation else .fromFirstByte first

/-! ## Errors -/

/-- Transport error codes of a `CONNECTION_CLOSE` frame. -/
inductive TransportErrorCode where
  | noError
  | internalError
  | connectionRefused
  | flowControlError
  | streamLimitError
  | streamStateError
  | finalSizeError
  | frameEncodingError
  | transportParameterError
  | connectionIdLimitError
  | protocolViolation
  | invalidToken
  | applicationError
  | cryptoBufferExceeded
  | keyUpdateError
  | aeadLimitReached
  | noViablePath
  /-- A TLS alert. -/
  | cryptoError (alert : UInt8)
  /-- Any other code. -/
  | unknown (value : Nat)
  deriving DecidableEq, Repr

def TransportErrorCode.fromU64 (value : Nat) : TransportErrorCode :=
  match value with
  | 0x00 => .noError
  | 0x01 => .internalError
  | 0x02 => .connectionRefused
  | 0x03 => .flowControlError
  | 0x04 => .streamLimitError
  | 0x05 => .streamStateError
  | 0x06 => .finalSizeError
  | 0x07 => .frameEncodingError
  | 0x08 => .transportParameterError
  | 0x09 => .connectionIdLimitError
  | 0x0a => .protocolViolation
  | 0x0b => .invalidToken
  | 0x0c => .applicationError
  | 0x0d => .cryptoBufferExceeded
  | 0x0e => .keyUpdateError
  | 0x0f => .aeadLimitReached
  | 0x10 => .noViablePath
  | other =>
    if 0x0100 ≤ other ∧ other ≤ 0x01ff then .cryptoError (UInt8.ofNat other) else .unknown other

def TransportErrorCode.toU64 : TransportErrorCode → Nat
  | .noError => 0x00
  | .internalError => 0x01
  | .connectionRefused => 0x02
  | .flowControlError => 0x03
  | .streamLimitError => 0x04
  | .streamStateError => 0x05
  | .finalSizeError => 0x06
  | .frameEncodingError => 0x07
  | .transportParameterError => 0x08
  | .connectionIdLimitError => 0x09
  | .protocolViolation => 0x0a
  | .invalidToken => 0x0b
  | .applicationError => 0x0c
  | .cryptoBufferExceeded => 0x0d
  | .keyUpdateError => 0x0e
  | .aeadLimitReached => 0x0f
  | .noViablePath => 0x10
  | .cryptoError alert => 0x0100 + alert.toNat
  | .unknown value => value

/-- Frame types an error can name. -/
inductive FrameType where
  | newToken
  | newConnectionId
  | retireConnectionId
  deriving DecidableEq, Repr

/-- The error type of the stack. -/
inductive OxiQuicError where
  /-- TLS configuration or handshake failure. -/
  | tls (reason : String)
  /-- Connection-level failure. -/
  | connection (reason : String)
  /-- Stream-level failure. -/
  | stream (reason : String)
  /-- A transport error with its code. -/
  | transportError (code : TransportErrorCode) (frameType : Option FrameType) (reason : String)
  /-- A protocol rule was violated. -/
  | protocol (reason : String)
  /-- The idle timer expired. -/
  | idleTimeout
  /-- The server supports none of our versions. -/
  | versionNegotiation (supported : List Nat)
  /-- The peer sent a stateless reset. -/
  | statelessReset
  /-- The application closed the connection. -/
  | applicationClose (code : Nat) (reason : String)
  deriving DecidableEq, Repr

/-! ## Transport parameters -/

/-- The transport parameters of an endpoint.  The defaults are those of the protocol. -/
structure TransportParams where
  /-- Idle timeout in milliseconds, zero for none. -/
  maxIdleTimeoutMs : Nat := 0
  maxUdpPayloadSize : Nat := 65527
  initialMaxData : Nat := 0
  initialMaxStreamDataBidiLocal : Nat := 0
  initialMaxStreamDataBidiRemote : Nat := 0
  initialMaxStreamDataUni : Nat := 0
  initialMaxStreamsBidi : Nat := 0
  initialMaxStreamsUni : Nat := 0
  ackDelayExponent : Nat := 3
  maxAckDelayMs : Nat := 25
  activeConnectionIdLimit : Nat := 2
  disableActiveMigration : Bool := false
  /-- Largest DATAGRAM frame the endpoint accepts, zero for none. -/
  maxDatagramFrameSize : Nat := 0
  deriving DecidableEq, Repr

/-- Refuse parameters outside the ranges the protocol permits. -/
def TransportParams.validate (p : TransportParams) : Except OxiQuicError Unit :=
  let reject (reason : String) : Except OxiQuicError Unit :=
    .error (.transportError .transportParameterError none reason)
  if p.ackDelayExponent > 20 then
    reject s!"ack_delay_exponent {p.ackDelayExponent} exceeds maximum of 20"
  else if p.maxAckDelayMs ≥ 2 ^ 14 then
    reject s!"max_ack_delay {p.maxAckDelayMs}ms must be less than 16384ms"
  else if p.maxUdpPayloadSize < 1200 then
    reject s!"max_udp_payload_size {p.maxUdpPayloadSize} is below the minimum of 1200"
  else if p.activeConnectionIdLimit < 2 then
    reject s!"active_connection_id_limit {p.activeConnectionIdLimit} is below the minimum of 2"
  else .ok ()

end OxiQuic
