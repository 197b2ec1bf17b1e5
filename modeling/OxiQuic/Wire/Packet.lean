import OxiQuic.Platform
import OxiQuic.Wire.Coding

/-!
# Packets

Building, protecting and parsing packets (`oxiquic-transport/src/packet.rs`).

A builder appends to the datagram it is given.  A call that fails after the header was
written leaves that header in the datagram, so the datagram is part of the result.  A
parser removes header protection in place; only bytes of the packet itself change, and the
caller reads none of them again except through the result, so parsers return no buffer,
save for the short-header pair that strips and opens in two calls.
-/

namespace OxiQuic

/-- Why a packet is not built or not parsed. -/
inductive PacketError where
  | truncated
  | malformed (field : String)
  | crypto
  | version (v : Nat)
  deriving DecidableEq, Repr

/-- The sample for header protection starts this far after the packet number does. -/
def hpSampleOffset : Nat := 4

/-- The version the transport speaks. -/
def quicV1 : Nat := 1

/-! ## Building -/

/-- The long-header packets with a packet number. -/
inductive LongType where
  | initial
  | zeroRtt
  | handshake
  deriving DecidableEq, Repr

def LongType.typeBits : LongType → UInt8
  | .initial => 0
  | .zeroRtt => 1
  | .handshake => 2

/-- What a long header says. -/
structure BuildLong where
  longType : LongType
  version : Nat
  dcid : Bytes
  scid : Bytes
  /-- The token of an Initial packet. -/
  token : Bytes
  packetNumber : Nat
  largestAcked : Option Nat

/-- What a short header says. -/
structure BuildShort where
  dcid : Bytes
  packetNumber : Nat
  largestAcked : Option Nat
  keyPhase : Bool

/-- Where the packet number lies in the datagram. -/
structure PnLayout where
  start : Nat
  pnOffset : Nat
  pnLen : Nat
  packetNumber : Nat

variable (P : Platform)

/-- The payload, padded so that the header protection sample fits behind it. -/
def paddedPayload (headerKey : P.HeaderKey) (pnLen : Nat) (payload : Bytes) : Bytes :=
  let minPlaintext := (hpSampleOffset + P.sampleLen headerKey) - (pnLen + 16)
  payload ++ List.replicate (minPlaintext - payload.length) 0

/-- Seal the payload and protect the header of the packet that starts at `layout.start`. -/
def finishPacket (datagram : Bytes) (layout : PnLayout) (payload : Bytes)
    (packetKey : P.PacketKey) (headerKey : P.HeaderKey) : Bytes × Except PacketError Unit :=
  let effective := paddedPayload P headerKey layout.pnLen payload
  let header := datagram.drop layout.start
  match P.packetEncrypt packetKey layout.packetNumber header effective with
  | none => (datagram, .error .crypto)
  | some (sealed, tag) =>
    let datagram := datagram ++ sealed ++ tag
    let sampleStart := layout.pnOffset + hpSampleOffset
    let sampleLen := P.sampleLen headerKey
    if datagram.length < sampleStart + sampleLen then (datagram, .error .crypto)
    else
      let sample := (datagram.drop sampleStart).take sampleLen
      let first := datagram.getD layout.start 0
      let pn := (datagram.drop layout.pnOffset).take layout.pnLen
      match P.headerEncrypt headerKey sample first pn with
      | none => (datagram, .error .crypto)
      | some (first', pn') =>
        (datagram.take layout.start ++ [first'] ++
            (datagram.drop (layout.start + 1)).take (layout.pnOffset - layout.start - 1) ++
            pn' ++ datagram.drop (layout.pnOffset + layout.pnLen),
          .ok ())

/-- The cleartext long header up to the packet number. -/
def longHeader (params : BuildLong) (pnLen length : Nat) : Bytes :=
  [(0xc0 : UInt8) ||| (params.longType.typeBits <<< 4) ||| UInt8.ofNat (pnLen - 1)] ++
    putU32 params.version ++
    [UInt8.ofNat params.dcid.length] ++ params.dcid ++
    [UInt8.ofNat params.scid.length] ++ params.scid ++
    (if params.longType = .initial then putVarint params.token.length ++ params.token else []) ++
    putVarint length

/-- Append a protected long-header packet.  The length field counts the payload before
`paddedPayload` extends it. -/
def buildLongPacket (datagram : Bytes) (params : BuildLong) (payload : Bytes)
    (packetKey : P.PacketKey) (headerKey : P.HeaderKey) : Bytes × Except PacketError Unit :=
  let pnLen := packetNumberLen params.packetNumber params.largestAcked
  let header := longHeader params pnLen (pnLen + payload.length + P.tagLen packetKey)
  finishPacket P (datagram ++ header ++ encodePacketNumber params.packetNumber pnLen)
    { start := datagram.length, pnOffset := datagram.length + header.length, pnLen := pnLen,
      packetNumber := params.packetNumber }
    payload packetKey headerKey

/-- The cleartext short header up to the packet number. -/
def shortHeader (params : BuildShort) (pnLen : Nat) : Bytes :=
  [(0x40 : UInt8) ||| (if params.keyPhase then 0x04 else 0x00) ||| UInt8.ofNat (pnLen - 1)] ++ params.dcid

/-- Append a protected short-header packet. -/
def buildShortPacket (datagram : Bytes) (params : BuildShort) (payload : Bytes)
    (packetKey : P.PacketKey) (headerKey : P.HeaderKey) : Bytes × Except PacketError Unit :=
  let pnLen := packetNumberLen params.packetNumber params.largestAcked
  let header := shortHeader params pnLen
  finishPacket P (datagram ++ header ++ encodePacketNumber params.packetNumber pnLen)
    { start := datagram.length, pnOffset := datagram.length + header.length, pnLen := pnLen,
      packetNumber := params.packetNumber }
    payload packetKey headerKey

variable {packetKey : P.PacketKey} {datagram payload out : Bytes}

theorem finishPacket_grows {layout : PnLayout} {headerKey : P.HeaderKey}
    (hstart : layout.start ≤ datagram.length)
    (h : finishPacket P datagram layout payload packetKey headerKey = (out, .ok ())) :
    layout.start < out.length := by
  simp only [finishPacket] at h
  split at h
  · cases h
  split at h
  · cases h
  split at h
  · cases h
  cases h
  simp only [List.length_append, List.length_take, List.length_singleton]
  omega

/-- If sealing always succeeds, so does building: the padding leaves room for the sample. -/
theorem finishPacket_ok (hseals : P.SealsAlways) (prelude : Bytes) (start pn : Nat)
    {pnLen : Nat} (hpn : pnLen ≤ 4) (payload : Bytes) (packetKey : P.PacketKey)
    (headerKey : P.HeaderKey) : (finishPacket P (prelude ++ encodePacketNumber pn pnLen)
      { start := start, pnOffset := prelude.length, pnLen := pnLen, packetNumber := pn }
      payload packetKey headerKey).2 = .ok () := by
  simp only [finishPacket]
  obtain ⟨sealed, tag, hencrypt, hsealed, htag⟩ := hseals.packetEncrypt packetKey pn
    ((prelude ++ encodePacketNumber pn pnLen).drop start) (paddedPayload P headerKey pnLen payload)
  rw [hencrypt]
  have hpadded : hpSampleOffset + P.sampleLen headerKey ≤ pnLen + sealed.length + 16 := by
    rw [hsealed]
    simp only [paddedPayload, List.length_append, List.length_replicate]
    omega
  simp only [List.length_append, htag, encodePacketNumber_length]
  rw [if_neg (by omega)]
  obtain ⟨first, pn', hprotect, _⟩ := hseals.headerEncrypt headerKey _ _ _
  rw [hprotect]

theorem buildLongPacket_grows {params : BuildLong} {headerKey : P.HeaderKey}
    (h : buildLongPacket P datagram params payload packetKey headerKey = (out, .ok ())) :
    datagram.length < out.length :=
  finishPacket_grows P (by simp only [List.length_append]; omega) h

theorem buildShortPacket_grows {params : BuildShort} {headerKey : P.HeaderKey}
    (h : buildShortPacket P datagram params payload packetKey headerKey = (out, .ok ())) :
    datagram.length < out.length :=
  finishPacket_grows P (by simp only [List.length_append]; omega) h

theorem buildLongPacket_ok (hseals : P.SealsAlways) (datagram : Bytes) (params : BuildLong)
    (payload : Bytes) (packetKey : P.PacketKey) (headerKey : P.HeaderKey) :
    (buildLongPacket P datagram params payload packetKey headerKey).2 = .ok () := by
  simp only [buildLongPacket, ← List.length_append]
  exact finishPacket_ok P hseals _ _ _ (packetNumberLen_pos _ _).2 _ _ _

theorem buildShortPacket_ok (hseals : P.SealsAlways) (datagram : Bytes) (params : BuildShort)
    (payload : Bytes) (packetKey : P.PacketKey) (headerKey : P.HeaderKey) :
    (buildShortPacket P datagram params payload packetKey headerKey).2 = .ok () := by
  simp only [buildShortPacket, ← List.length_append]
  exact finishPacket_ok P hseals _ _ _ (packetNumberLen_pos _ _).2 _ _ _

/-! ## Parsing -/

/-- A packet after decryption. -/
structure ParsedPacket where
  packetType : PacketType
  scid : Bytes
  dcid : Bytes
  packetNumber : Nat
  payload : Bytes
  /-- Where the next coalesced packet starts. -/
  consumed : Nat
  keyPhase : Bool

/-- The fields of a long header and where the packet number and the packet end. -/
structure LongHeaderLayout where
  packetType : PacketType
  version : Nat
  scid : Bytes
  dcid : Bytes
  pnOffset : Nat
  packetEnd : Nat

/-- Run a decoder; a codec error is a truncated packet. -/
def runDecoder {α : Type} (d : Decoder α) (buf : Bytes) : Except PacketError (α × Bytes) :=
  match d buf with
  | .ok r => .ok r
  | .error _ => .error .truncated

/-- A connection ID with its length, at most 20. -/
def getCid (field : String) (buf : Bytes) : Except PacketError (Bytes × Bytes) := do
  let (len, buf) ← runDecoder Buf.getU8 buf
  if len.toNat > 20 then .error (.malformed field)
  else runDecoder (Buf.getBytes len.toNat) buf

/-- Locate the fields of the long header at `offset`. -/
def parseLongHeader (datagram : Bytes) (offset : Nat) (first : UInt8) :
    Except PacketError LongHeaderLayout := do
  let buf := datagram.drop offset
  let (_, buf) ← runDecoder Buf.getU8 buf
  let (version, buf) ← runDecoder Buf.getU32 buf
  let (dcid, buf) ← getCid "dcid too long" buf
  let (scid, buf) ← getCid "scid too long" buf
  let packetType := PacketType.fromFirstByteAndVersion first version
  let buf ← if packetType = .initial then do
      let (tokenLen, buf) ← runDecoder Buf.getVarint buf
      let (_, buf) ← runDecoder (Buf.getBytes tokenLen) buf
      pure buf
    else pure buf
  let (length, buf) ← runDecoder Buf.getVarint buf
  let pnOffset := datagram.length - buf.length
  let packetEnd := pnOffset + length
  if packetEnd > datagram.length then .error .truncated
  else
    return { packetType := packetType, version := version, scid := scid, dcid := dcid,
             pnOffset := pnOffset, packetEnd := packetEnd }

/-- The big-endian value of a few bytes. -/
def beValue (bytes : Bytes) : Nat := bytes.foldl (fun acc b => acc * 2 ^ 8 + b.toNat) 0

/-- Replace the first byte and the packet number field, after header protection was
removed from them. -/
def replaceHeader (datagram : Bytes) (packetStart pnOffset : Nat) (first : UInt8)
    (pnField : Bytes) : Bytes :=
  datagram.take packetStart ++ [first] ++
    (datagram.drop (packetStart + 1)).take (pnOffset - packetStart - 1) ++ pnField ++
    datagram.drop (pnOffset + pnField.length)

/-- Remove header protection from the packet at `packetStart`: the datagram with the
cleartext header and the cleartext first byte. -/
def removeProtection (datagram : Bytes) (packetStart pnOffset packetEnd : Nat)
    (headerKey : P.HeaderKey) : Except PacketError (Bytes × UInt8) :=
  let sampleStart := pnOffset + hpSampleOffset
  let sampleLen := P.sampleLen headerKey
  if sampleStart + sampleLen > packetEnd then .error .truncated
  else
    let sample := (datagram.drop sampleStart).take sampleLen
    let pnField := (datagram.drop pnOffset).take 4
    match P.headerDecrypt headerKey sample (datagram.getD packetStart 0) pnField with
    | none => .error .crypto
    | some (first, pnField) => .ok (replaceHeader datagram packetStart pnOffset first pnField, first)

/-- Recover the packet number and open the payload of a packet whose header is in the
clear. -/
def openPacket (datagram : Bytes) (packetStart pnOffset packetEnd : Nat) (first : UInt8)
    (largestPn : Option Nat) (packetKey : P.PacketKey) : Except PacketError (Nat × Bytes) :=
  let pnLen := (first &&& 0x03).toNat + 1
  let truncated := beValue ((datagram.drop pnOffset).take pnLen)
  let packetNumber := decodePacketNumber largestPn truncated pnLen
  let header := (datagram.take (pnOffset + pnLen)).drop packetStart
  let payload := (datagram.take packetEnd).drop (pnOffset + pnLen)
  match P.packetDecrypt packetKey packetNumber header payload with
  | none => .error .crypto
  | some plaintext => .ok (packetNumber, plaintext)

/-- Parse the long-header packet at `offset`. -/
def parseLongPacket (datagram : Bytes) (offset expectedVersion : Nat) (largestPn : Option Nat)
    (packetKey : P.PacketKey) (headerKey : P.HeaderKey) : Except PacketError ParsedPacket := do
  match datagram[offset]? with
  | none => .error .truncated
  | some first =>
    let layout ← parseLongHeader datagram offset first
    if layout.version ≠ expectedVersion then .error (.version layout.version)
    else
      let (datagram, first) ←
        removeProtection P datagram offset layout.pnOffset layout.packetEnd headerKey
      let (packetNumber, payload) ←
        openPacket P datagram offset layout.pnOffset layout.packetEnd first largestPn packetKey
      return { packetType := layout.packetType, scid := layout.scid, dcid := layout.dcid,
               packetNumber := packetNumber, payload := payload,
               consumed := layout.packetEnd, keyPhase := false }

/-- Remove header protection from the short-header packet at `offset`: the datagram then
and the key phase bit. -/
def stripShortHeaderProtection (datagram : Bytes) (offset dcidLen : Nat)
    (headerKey : P.HeaderKey) : Except PacketError (Bytes × Bool) := do
  if offset ≥ datagram.length then .error .truncated
  else
    let (datagram, first) ←
      removeProtection P datagram offset (offset + 1 + dcidLen) datagram.length headerKey
    return (datagram, first &&& 0x04 ≠ 0)

/-- Open the short-header packet at `offset` after its header protection was removed. -/
def decryptShortPacketBody (datagram : Bytes) (offset dcidLen : Nat) (largestPn : Option Nat)
    (packetKey : P.PacketKey) : Except PacketError ParsedPacket := do
  if offset ≥ datagram.length ∨ datagram.length < offset + 1 + dcidLen then .error .truncated
  else
    let first := datagram.getD offset 0
    let pnOffset := offset + 1 + dcidLen
    if pnOffset + ((first &&& 0x03).toNat + 1) > datagram.length then .error .truncated
    else
      let (packetNumber, payload) ←
        openPacket P datagram offset pnOffset datagram.length first largestPn packetKey
      return { packetType := .short, scid := [], dcid := (datagram.drop (offset + 1)).take dcidLen,
               packetNumber := packetNumber, payload := payload, consumed := datagram.length,
               keyPhase := first &&& 0x04 ≠ 0 }

/-- The type of the packet at the front and its destination CID, without decryption. -/
def peekDcid (datagram : Bytes) (shortDcidLen : Nat) : Except PacketError (PacketType × Bytes) :=
  match datagram with
  | [] => .error .truncated
  | first :: rest =>
    if first &&& 0x80 = 0 then
      if rest.length < shortDcidLen then .error .truncated
      else .ok (.short, rest.take shortDcidLen)
    else do
      let (version, buf) ← runDecoder Buf.getU32 rest
      let (dcidLen, buf) ← runDecoder Buf.getU8 buf
      let (dcid, _) ← runDecoder (Buf.getBytes dcidLen.toNat) buf
      return (PacketType.fromFirstByteAndVersion first version, dcid)

/-! ## Unprotected packets -/

/-- The versions a Version Negotiation packet lists. -/
def getVersions : Nat → Decoder (List Nat)
  | 0 => pure []
  | n + 1 => do
      let v ← Buf.getU32
      let rest ← getVersions n
      return v :: rest

/-- The supported versions of a well-formed Version Negotiation packet. -/
def decodeVersionNegotiation (datagram : Bytes) : Option (List Nat) :=
  let decoder : Decoder (Option (List Nat)) := do
    let first ← Buf.getU8
    let version ← Buf.getU32
    if first &&& 0x80 = 0 ∨ version ≠ 0 then return none
    else
      let dcidLen ← Buf.getU8
      let _ ← Buf.getBytes dcidLen.toNat
      let scidLen ← Buf.getU8
      let _ ← Buf.getBytes scidLen.toNat
      let remaining ← Buf.remaining
      if remaining % 4 ≠ 0 then return none
      else return some (← getVersions (remaining / 4))
  match decoder datagram with
  | .ok (versions, _) => versions
  | .error _ => none

/-- The fixed key of the Retry integrity tag. -/
def retryKey : Bytes :=
  [0xbe, 0x0c, 0x69, 0x0b, 0x9f, 0x66, 0x57, 0x5a, 0x1d, 0x76, 0x6b, 0x54, 0xe3, 0x68, 0xc8, 0x4e]

/-- The fixed nonce of the Retry integrity tag. -/
def retryNonce : Bytes :=
  [0x46, 0x15, 0x99, 0xd3, 0x5d, 0x63, 0x2b, 0xf2, 0x23, 0x98, 0x25, 0xbb]

/-- The integrity tag of a Retry packet, over the original destination CID. -/
def computeRetryIntegrityTag (odcid retryPacketWithoutTag : Bytes) : Option Bytes :=
  let pseudo := [UInt8.ofNat odcid.length] ++ odcid ++ retryPacketWithoutTag
  match P.aes128GcmSeal retryKey retryNonce pseudo [] with
  | none => none
  | some sealed => if sealed.length ≠ 16 then none else some sealed

/-- Whether a Retry packet ends in the right tag. -/
def verifyRetryIntegrityTag (odcid retryPacket : Bytes) : Bool :=
  if retryPacket.length < 16 then false
  else
    match computeRetryIntegrityTag P odcid (retryPacket.take (retryPacket.length - 16)) with
    | some computed => computed == retryPacket.drop (retryPacket.length - 16)
    | none => false

/-- A Retry packet for a client that asked for `odcid`. -/
def encodeRetryPacket (scid dcid odcid token : Bytes) : Option Bytes :=
  let body := [0xf1, 0, 0, 0, 1] ++ [UInt8.ofNat dcid.length] ++ dcid
    ++ [UInt8.ofNat scid.length] ++ scid ++ token
  match computeRetryIntegrityTag P odcid body with
  | none => none
  | some tag => some (body ++ tag)

/-- The source CID, destination CID and token of a Retry packet. -/
def parseRetryPacket (datagram : Bytes) : Option (Bytes × Bytes × Bytes) :=
  if datagram.length < 23 then none
  else
    let decoder : Decoder (Option (Bytes × Bytes)) := do
      let first ← Buf.getU8
      let version ← Buf.getU32
      if first &&& 0x80 = 0 ∨ first &&& 0x30 ≠ 0x30 ∨ version ≠ quicV1 then return none
      else
        let dcidLen ← Buf.getU8
        let dcid ← Buf.getBytes dcidLen.toNat
        let scidLen ← Buf.getU8
        let scid ← Buf.getBytes scidLen.toNat
        return some (scid, dcid)
    match decoder datagram with
    | .ok (some (scid, dcid), rest) =>
      if rest.length < 16 then none else some (scid, dcid, rest.take (rest.length - 16))
    | _ => none

end OxiQuic
