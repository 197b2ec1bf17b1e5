import OxiQuic.Wire.Coding

/-!
# Frames

Frame encoding and decoding (`oxiquic-transport/src/frame.rs`).
-/

namespace OxiQuic

/-- A further range of an `ACK` frame: the gap below the previous range and the length of
this one. -/
structure AckRange where
  gap : Nat
  range : Nat
  deriving DecidableEq, Repr

/-- The frames the transport understands. -/
inductive Frame where
  /-- A run of `PADDING` bytes. -/
  | padding (count : Nat)
  | ping
  /-- Acknowledgement: the range that ends at `largest`, then further ones downwards. -/
  | ack (largest delay firstRange : Nat) (ranges : List AckRange)
  | resetStream (streamId errorCode finalSize : Nat)
  | stopSending (streamId errorCode : Nat)
  | crypto (offset : Nat) (data : Bytes)
  | stream (id offset : Nat) (fin : Bool) (data : Bytes)
  | maxData (max : Nat)
  | maxStreamData (id max : Nat)
  | dataBlocked (limit : Nat)
  | streamDataBlocked (id limit : Nat)
  /-- A path validation probe with eight random bytes. -/
  | pathChallenge (data : Bytes)
  /-- The echo of a path validation probe. -/
  | pathResponse (data : Bytes)
  /-- A close, of the transport or of the application. -/
  | connectionClose (errorCode : Nat) (frameType : Option Nat) (application : Bool)
      (reason : Bytes)
  | handshakeDone
  | newConnectionId (seq retirePriorTo : Nat) (cid : ConnectionId) (statelessResetToken : Bytes)
  | retireConnectionId (seq : Nat)
  | maxStreams (dir : Direction) (max : Nat)
  | streamsBlocked (dir : Direction) (limit : Nat)
  | newToken (token : Bytes)
  | datagram (data : Bytes)
  deriving DecidableEq, Repr

/-- Whether the receipt of a frame obliges the peer to acknowledge. -/
def Frame.isAckEliciting : Frame → Bool
  | .padding _ => false
  | .ack .. => false
  | .connectionClose .. => false
  | _ => true

/-- The wire form of a frame. -/
def Frame.encode : Frame → Bytes
  | .padding n => List.replicate n 0
  | .ping => putVarint 0x01
  | .ack largest delay firstRange ranges =>
    putVarint 0x02 ++ putVarint largest ++ putVarint delay ++ putVarint ranges.length ++
      putVarint firstRange ++ ranges.flatMap (fun r => putVarint r.gap ++ putVarint r.range)
  | .resetStream streamId errorCode finalSize =>
    putVarint 0x04 ++ putVarint streamId ++ putVarint errorCode ++ putVarint finalSize
  | .stopSending streamId errorCode => putVarint 0x05 ++ putVarint streamId ++ putVarint errorCode
  | .crypto offset data => putVarint 0x06 ++ putVarint offset ++ putVarint data.length ++ data
  | .newToken token => putVarint 0x07 ++ putVarint token.length ++ token
  | .stream id offset fin data =>
    -- the offset and length bits are always set
    putVarint (if fin then 0x0f else 0x0e) ++ putVarint id ++ putVarint offset ++
      putVarint data.length ++ data
  | .maxData max => putVarint 0x10 ++ putVarint max
  | .maxStreamData id max => putVarint 0x11 ++ putVarint id ++ putVarint max
  | .dataBlocked limit => putVarint 0x14 ++ putVarint limit
  | .streamDataBlocked id limit => putVarint 0x15 ++ putVarint id ++ putVarint limit
  | .connectionClose errorCode frameType application reason =>
    putVarint (if application then 0x1d else 0x1c) ++ putVarint errorCode ++
      (if application then [] else putVarint (frameType.getD 0)) ++
      putVarint reason.length ++ reason
  | .pathChallenge data => putVarint 0x1a ++ data
  | .pathResponse data => putVarint 0x1b ++ data
  | .handshakeDone => putVarint 0x1e
  | .newConnectionId seq retirePriorTo cid statelessResetToken =>
    putVarint 0x18 ++ putVarint seq ++ putVarint retirePriorTo ++
      [UInt8.ofNat cid.length] ++ cid ++ statelessResetToken
  | .retireConnectionId seq => putVarint 0x19 ++ putVarint seq
  | .maxStreams dir max =>
    putVarint (if dir = .unidirectional then 0x13 else 0x12) ++ putVarint max
  | .streamsBlocked dir limit =>
    putVarint (if dir = .unidirectional then 0x17 else 0x16) ++ putVarint limit
  | .datagram data => putVarint 0x31 ++ putVarint data.length ++ data

/-- Why a frame does not decode.  The code is always `FRAME_ENCODING_ERROR`. -/
structure FrameError where
  code : TransportErrorCode
  detail : String
  deriving DecidableEq, Repr

/-- A frame decoder over the remaining bytes. -/
abbrev FrameDecoder := StateT Bytes (Except FrameError)

/-- A codec error inside a frame. -/
def FrameError.fromCodec (_ : CodecError) : FrameError :=
  { code := .frameEncodingError, detail := "truncated frame" }

/-- Run a decoder of the codec inside a frame. -/
def FrameDecoder.lift {α : Type} (d : Decoder α) : FrameDecoder α := fun buf =>
  match d buf with
  | .ok r => .ok r
  | .error e => .error (.fromCodec e)

/-- Refuse a frame. -/
def FrameDecoder.refuse {α : Type} (detail : String) : FrameDecoder α := fun _ =>
  .error { code := .frameEncodingError, detail := detail }

/-- The length of the run of zero bytes at the front and what follows it. -/
def zeroRun : Bytes → Nat × Bytes
  | [] => (0, [])
  | b :: rest => if b = 0 then ((zeroRun rest).1 + 1, (zeroRun rest).2) else (0, b :: rest)

/-- The further ranges of an `ACK` frame. -/
def getAckRanges : Nat → Decoder (List AckRange)
  | 0 => pure []
  | n + 1 => do
      let gap ← Buf.getVarint
      let range ← Buf.getVarint
      let rest ← getAckRanges n
      return { gap := gap, range := range } :: rest

/-- The fields of an `ACK` frame.  ECN counts, of type `0x03`, are read and dropped. -/
def getAck (typ : Nat) : Decoder Frame := do
  let largest ← Buf.getVarint
  let delay ← Buf.getVarint
  let rangeCount ← Buf.getVarint
  let firstRange ← Buf.getVarint
  let ranges ← getAckRanges rangeCount
  if typ = 0x03 then
    let _ ← Buf.getVarint
    let _ ← Buf.getVarint
    let _ ← Buf.getVarint
  return .ack largest delay firstRange ranges

/-- The fields of a `STREAM` frame.  The type bits say which are present. -/
def getStream (typ : Nat) : Decoder Frame := do
  let id ← Buf.getVarint
  let offset ← if typ / 4 % 2 = 1 then Buf.getVarint else pure 0
  let len ← if typ / 2 % 2 = 1 then Buf.getVarint else Buf.remaining
  let data ← Buf.getBytes len
  return .stream id offset (typ % 2 = 1) data

/-- A length and that many bytes. -/
def getLengthPrefixed : Decoder Bytes := do
  let len ← Buf.getVarint
  Buf.getBytes len

def getNewConnectionId : FrameDecoder Frame := do
  let seq ← FrameDecoder.lift Buf.getVarint
  let retirePriorTo ← FrameDecoder.lift Buf.getVarint
  if retirePriorTo > seq then FrameDecoder.refuse "NEW_CONNECTION_ID: retire_prior_to > seq"
  else
    let cidLen ← FrameDecoder.lift Buf.getU8
    if cidLen = 0 ∨ cidLen > 20 then
      FrameDecoder.refuse "NEW_CONNECTION_ID: invalid CID length (must be 1–20)"
    else
      let cid ← FrameDecoder.lift (Buf.getBytes cidLen.toNat)
      let token ← FrameDecoder.lift (Buf.getBytes 16)
      return .newConnectionId seq retirePriorTo cid token

def getConnectionClose (typ : Nat) : Decoder Frame := do
  let errorCode ← Buf.getVarint
  let frameType ← if typ = 0x1c then some <$> Buf.getVarint else pure none
  let reason ← getLengthPrefixed
  return .connectionClose errorCode frameType (typ = 0x1d) reason

/-- The fields of a frame of type `typ`. -/
def decodeFrameBody (typ : Nat) : FrameDecoder Frame :=
  match typ with
  | 0x00 => fun buf => .ok (.padding ((zeroRun buf).1 + 1), (zeroRun buf).2)
  | 0x01 => pure .ping
  | 0x02 | 0x03 => .lift (getAck typ)
  | 0x04 => .lift do
      return .resetStream (← Buf.getVarint) (← Buf.getVarint) (← Buf.getVarint)
  | 0x05 => .lift do return .stopSending (← Buf.getVarint) (← Buf.getVarint)
  | 0x06 => .lift do return .crypto (← Buf.getVarint) (← getLengthPrefixed)
  | 0x07 => do
      let len ← .lift Buf.getVarint
      if len = 0 then .refuse "NEW_TOKEN empty"
      else .lift (.newToken <$> Buf.getBytes len)
  | 0x08 | 0x09 | 0x0a | 0x0b | 0x0c | 0x0d | 0x0e | 0x0f => .lift (getStream typ)
  | 0x10 => .lift (.maxData <$> Buf.getVarint)
  | 0x11 => .lift do return .maxStreamData (← Buf.getVarint) (← Buf.getVarint)
  | 0x12 | 0x13 => do
      let max ← .lift Buf.getVarint
      if max > 2 ^ 60 then .refuse "MAX_STREAMS exceeds 2^60"
      else return .maxStreams (if typ = 0x13 then .unidirectional else .bidirectional) max
  | 0x14 => .lift (.dataBlocked <$> Buf.getVarint)
  | 0x15 => .lift do return .streamDataBlocked (← Buf.getVarint) (← Buf.getVarint)
  | 0x16 | 0x17 => do
      let limit ← .lift Buf.getVarint
      return .streamsBlocked (if typ = 0x17 then .unidirectional else .bidirectional) limit
  | 0x18 => getNewConnectionId
  | 0x19 => .lift (.retireConnectionId <$> Buf.getVarint)
  | 0x1a => .lift (.pathChallenge <$> Buf.getBytes 8)
  | 0x1b => .lift (.pathResponse <$> Buf.getBytes 8)
  | 0x1c | 0x1d => .lift (getConnectionClose typ)
  | 0x1e => pure .handshakeDone
  | 0x30 => .lift do return .datagram (← Buf.getBytes (← Buf.remaining))
  | 0x31 => .lift (.datagram <$> getLengthPrefixed)
  | _ => .refuse "unknown frame type"

/-- Decode one frame and leave the rest. -/
def decodeFrame : FrameDecoder Frame := do
  let typ ← .lift Buf.getVarint
  decodeFrameBody typ

end OxiQuic
