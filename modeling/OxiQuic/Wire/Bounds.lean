import OxiQuic.Lib.Checked
import OxiQuic.Wire.Packet
import OxiQuic.Wire.Progress

/-!
# Parsing stays inside the datagram

The parsers of `Wire.Packet` take parts of a datagram with `take` and `drop`, which cut off
what is not there.  The source indexes, and an index out of range would stop it.  `Checked`
has the same parsers with the indexing of the source, a failed access as `none`, and no access
fails.

A packet with a long header that parses ends behind its first byte and inside the datagram
(`parseLongPacket_bounds`), and is parsed alike whatever follows it
(`parseLongPacket_append`).
-/

namespace OxiQuic

open Lib

variable (P : Platform)

/-! ## The fields of a long header -/

theorem getU8_extends : Extends Buf.getU8 := by
  intro buf b rest more h
  cases buf with
  | nil => cases h
  | cons first tail =>
    cases h
    rfl

theorem getBytes_extends (len : Nat) : Extends (Buf.getBytes len) := by
  intro buf bytes rest more h
  simp only [Buf.getBytes] at h ⊢
  split at h
  · rename_i hlen
    cases h
    rw [if_pos (by rw [List.length_append]; omega), List.take_append_of_le_length hlen,
      List.drop_append_of_le_length hlen]
  · cases h

theorem getMore_extends : ∀ n value, Extends (Buf.getMore n value)
  | 0, value => .pure value
  | n + 1, _ => getU8_extends.bind fun _ => getMore_extends n _

theorem getVarint_extends : Extends Buf.getVarint := getU8_extends.bind fun _ => getMore_extends _ _

theorem getU16_extends : Extends Buf.getU16 :=
  getU8_extends.bind fun _ => getU8_extends.bind fun _ => .pure _

theorem getU32_extends : Extends Buf.getU32 :=
  getU16_extends.bind fun _ => getU16_extends.bind fun _ => .pure _

theorem getU32_consumes : Consumes 4 Buf.getU32 := by
  have hu16 : Consumes 2 Buf.getU16 :=
    getU8_consumes.bind (n := 1) fun hi => getU8_consumes.bind (n := 0) fun lo =>
      Consumes.pure (hi.toNat * 2 ^ 8 + lo.toNat)
  exact hu16.bind (n := 2) fun hi => hu16.bind (n := 0) fun lo => Consumes.pure (hi * 2 ^ 16 + lo)

theorem runDecoder_consumes {α : Type} {d : Decoder α} {n : Nat} (h : Consumes n d) :
    Consumes n (runDecoder d : StateT Bytes (Except PacketError) α) := by
  intro buf a rest hrun
  simp only [runDecoder] at hrun
  split at hrun
  · rename_i hd
    cases hrun
    exact h _ _ _ hd
  · cases hrun

theorem runDecoder_extends {α : Type} {d : Decoder α} (h : Extends d) :
    Extends (runDecoder d : StateT Bytes (Except PacketError) α) := by
  intro buf a rest more hrun
  simp only [runDecoder] at hrun ⊢
  split at hrun
  · rename_i hd
    cases hrun
    rw [h _ _ _ more hd]
  · cases hrun

variable (field : String)

theorem getCid_eq : (getCid field : StateT Bytes (Except PacketError) Bytes) =
    (runDecoder Buf.getU8 >>= fun len => if len.toNat > 20 then fun _ => .error (.malformed field)
      else runDecoder (Buf.getBytes len.toNat) : StateT Bytes (Except PacketError) Bytes) := by
  funext buf
  show (runDecoder Buf.getU8 buf >>= _) = (runDecoder Buf.getU8 buf >>= _)
  congr 1
  funext r
  obtain ⟨len, rest⟩ := r
  show (if len.toNat > 20 then _ else _) = (if len.toNat > 20 then _ else _ : StateT _ _ _) rest
  split <;> rfl

theorem getCid_consumes : Consumes 1 (getCid field : StateT Bytes (Except PacketError) Bytes) := by
  rw [getCid_eq]
  refine (runDecoder_consumes getU8_consumes).bind (n := 0) fun len => ?_
  split
  · exact nofun
  · exact (runDecoder_consumes (getBytes_consumes _)).mono (Nat.zero_le _)

theorem getCid_extends : Extends (getCid field : StateT Bytes (Except PacketError) Bytes) := by
  rw [getCid_eq]
  refine (runDecoder_extends getU8_extends).bind fun len => ?_
  split
  · exact nofun
  · exact runDecoder_extends (getBytes_extends _)

/-- The fields of a long header up to its length. -/
structure LongHeaderFields where
  packetType : PacketType
  version : Nat
  dcid : Bytes
  scid : Bytes
  length : Nat

/-- The token of an Initial is skipped. -/
def skipToken (packetType : PacketType) : StateT Bytes (Except PacketError) Unit :=
  if packetType = .initial then do
    let tokenLen ← (runDecoder Buf.getVarint : StateT Bytes (Except PacketError) Nat)
    let _ ← (runDecoder (Buf.getBytes tokenLen) : StateT Bytes (Except PacketError) Bytes)
    return ()
  else return ()

def longHeaderFields (first : UInt8) : StateT Bytes (Except PacketError) LongHeaderFields := do
  let _ ← (runDecoder Buf.getU8 : StateT Bytes (Except PacketError) UInt8)
  let version ← (runDecoder Buf.getU32 : StateT Bytes (Except PacketError) Nat)
  let dcid ← (getCid "dcid too long" : StateT Bytes (Except PacketError) Bytes)
  let scid ← (getCid "scid too long" : StateT Bytes (Except PacketError) Bytes)
  let packetType := PacketType.fromFirstByteAndVersion first version
  skipToken packetType
  let length ← (runDecoder Buf.getVarint : StateT Bytes (Except PacketError) Nat)
  return ⟨packetType, version, dcid, scid, length⟩

theorem parseLongHeader_eq (datagram : Bytes) (offset : Nat) (first : UInt8) :
    parseLongHeader datagram offset first = (do
      let (fields, buf) ← longHeaderFields first (datagram.drop offset)
      let pnOffset := datagram.length - buf.length
      if pnOffset + fields.length > datagram.length then .error .truncated
      else
        return { packetType := fields.packetType, version := fields.version, scid := fields.scid,
                 dcid := fields.dcid, pnOffset := pnOffset,
                 packetEnd := pnOffset + fields.length }) := by
  have hbind {α β : Type} (m : StateT Bytes (Except PacketError) α)
      (next : α → StateT Bytes (Except PacketError) β) (buf : Bytes) :
      (m >>= next) buf = m buf >>= fun r => next r.1 r.2 := rfl
  have hpure {α : Type} (a : α) (buf : Bytes) :
      (pure a : StateT Bytes (Except PacketError) α) buf = .ok (a, buf) := rfl
  simp only [parseLongHeader, longHeaderFields, skipToken, hbind, bind_assoc]
  refine bind_congr fun _ => bind_congr fun _ => bind_congr fun _ => bind_congr fun _ => ?_
  split
  · simp only [hbind, bind_assoc]
    rfl
  · rfl

theorem skipToken_consumes (packetType : PacketType) : Consumes 0 (skipToken packetType) := by
  simp only [skipToken]
  split
  · exact ((runDecoder_consumes getVarint_consumes).mono (Nat.zero_le _)).bind (n := 0) fun _ =>
      ((runDecoder_consumes (getBytes_consumes _)).mono (Nat.zero_le _)).bind fun _ => .pure ()
  · exact .pure ()

theorem skipToken_extends (packetType : PacketType) : Extends (skipToken packetType) := by
  simp only [skipToken]
  split
  · exact (runDecoder_extends getVarint_extends).bind fun _ =>
      (runDecoder_extends (getBytes_extends _)).bind fun _ => .pure ()
  · exact .pure ()

theorem longHeaderFields_consumes (first : UInt8) : Consumes 1 (longHeaderFields first) := by
  have hrest : Consumes 0 (runDecoder Buf.getVarint : StateT Bytes (Except PacketError) Nat) :=
    (runDecoder_consumes getVarint_consumes).mono (Nat.zero_le _)
  exact (runDecoder_consumes getU8_consumes).bind (n := 0) fun _ =>
    ((runDecoder_consumes getU32_consumes).mono (Nat.zero_le _)).bind (n := 0) fun _ =>
    ((getCid_consumes _).mono (Nat.zero_le _)).bind (n := 0) fun _ =>
    ((getCid_consumes _).mono (Nat.zero_le _)).bind (n := 0) fun _ =>
    (skipToken_consumes _).bind (n := 0) fun _ => hrest.bind (n := 0) fun _ => .pure _

theorem longHeaderFields_extends (first : UInt8) : Extends (longHeaderFields first) :=
  (runDecoder_extends getU8_extends).bind fun _ => (runDecoder_extends getU32_extends).bind fun _ =>
    (getCid_extends _).bind fun _ => (getCid_extends _).bind fun _ =>
    (skipToken_extends _).bind fun _ => (runDecoder_extends getVarint_extends).bind fun _ => .pure _

/-! ## The place of a packet -/

section Header

variable {datagram : Bytes} {offset : Nat} {first : UInt8} {layout : LongHeaderLayout}

/-- A header that parses has fields, and the packet that they describe is there. -/
theorem parseLongHeader_ok (h : parseLongHeader datagram offset first = .ok layout) :
    ∃ fields buf, longHeaderFields first (datagram.drop offset) = .ok (fields, buf) ∧
      datagram.length - buf.length + fields.length ≤ datagram.length ∧
      layout = { packetType := fields.packetType, version := fields.version, scid := fields.scid,
                 dcid := fields.dcid, pnOffset := datagram.length - buf.length,
                 packetEnd := datagram.length - buf.length + fields.length } := by
  rw [parseLongHeader_eq] at h
  cases hfields : longHeaderFields first (datagram.drop offset) with
  | error e => rw [hfields] at h; cases h
  | ok r =>
    obtain ⟨fields, buf⟩ := r
    rw [hfields] at h
    change (if _ then _ else _) = _ at h
    split at h
    · cases h
    rename_i hlength
    cases h
    exact ⟨fields, buf, rfl, Nat.le_of_not_lt hlength, rfl⟩

/-- The number of a packet lies behind its first byte, and the packet ends in the datagram. -/
theorem parseLongHeader_bounds (h : parseLongHeader datagram offset first = .ok layout) :
    offset < layout.pnOffset ∧ layout.pnOffset ≤ layout.packetEnd ∧
      layout.packetEnd ≤ datagram.length := by
  obtain ⟨fields, buf, hfields, hlength, rfl⟩ := parseLongHeader_ok h
  have hbuf := (longHeaderFields_consumes first).length hfields
  rw [List.length_drop] at hbuf
  refine ⟨?_, Nat.le_add_right .., hlength⟩
  show offset < datagram.length - buf.length
  omega

theorem parseLongHeader_append (h : parseLongHeader datagram 0 first = .ok layout) (more : Bytes) :
    parseLongHeader (datagram ++ more) 0 first = .ok layout := by
  obtain ⟨fields, buf, hfields, hlength, rfl⟩ := parseLongHeader_ok h
  have hbuf := (longHeaderFields_consumes first).length hfields
  have hmore := longHeaderFields_extends first _ _ _ more hfields
  have hoffset : (datagram ++ more).length - (buf ++ more).length
      = datagram.length - buf.length := by
    simp only [List.length_append]
    omega
  rw [parseLongHeader_eq]
  simp only [List.drop_zero] at hmore ⊢
  rw [hmore]
  show (if (datagram ++ more).length - (buf ++ more).length + fields.length
    > (datagram ++ more).length then _ else _) = _
  rw [hoffset, if_neg (by rw [List.length_append]; omega)]
  rfl

theorem peekDcid_of_header (hfirst : datagram[0]? = some first) (hlong : first &&& 0x80 ≠ 0)
    (h : parseLongHeader datagram 0 first = .ok layout) (shortDcidLen : Nat) :
    peekDcid datagram shortDcidLen = .ok (layout.packetType, layout.dcid) := by
  obtain ⟨fields, buf, hfields, -, rfl⟩ := parseLongHeader_ok h
  cases datagram with
  | nil => cases hfirst
  | cons byte rest =>
    cases hfirst
    rw [List.drop_zero, longHeaderFields] at hfields
    obtain ⟨_, _, hbyte, hfields⟩ := bind_eq_ok hfields
    cases hbyte
    obtain ⟨version, afterVersion, hversion, hfields⟩ := bind_eq_ok hfields
    obtain ⟨dcid, afterDcid, hdcid, hfields⟩ := bind_eq_ok hfields
    obtain ⟨scid, afterScid, -, hfields⟩ := bind_eq_ok hfields
    obtain ⟨_, afterToken, -, hfields⟩ := bind_eq_ok hfields
    obtain ⟨length, afterLength, -, hfields⟩ := bind_eq_ok hfields
    cases hfields
    rw [getCid_eq] at hdcid
    obtain ⟨dcidLen, afterLen, hlen, hdcid⟩ := bind_eq_ok hdcid
    split at hdcid
    · cases hdcid
    · simp only [peekDcid, if_neg hlong, hversion, hlen, hdcid, bind, Except.bind]
      rfl

/-- The type of a packet with a long header, of our version and whole. -/
def wholeLongPacket (packet : Bytes) : Option PacketType :=
  match packet[0]? with
  | none => none
  | some first =>
    if first &&& 0x80 = 0 then none
    else
      match parseLongHeader packet 0 first with
      | .error _ => none
      | .ok layout =>
        if layout.version = quicV1 ∧ layout.packetEnd = packet.length then
          some layout.packetType
        else none

theorem wholeLongPacket_eq_some {packet : Bytes} {packetType : PacketType}
    (h : wholeLongPacket packet = some packetType) :
    ∃ first layout, packet[0]? = some first ∧ first &&& 0x80 ≠ 0 ∧
      parseLongHeader packet 0 first = .ok layout ∧ layout.packetType = packetType := by
  simp only [wholeLongPacket] at h
  split at h
  · cases h
  rename_i first hfirst
  split at h
  · cases h
  rename_i hlong
  split at h
  · cases h
  rename_i layout hheader
  split at h
  · cases h
    exact ⟨first, layout, hfirst, hlong, hheader, rfl⟩
  · cases h

end Header

section Protection

theorem pnLen_le (first : UInt8) : (first &&& 0x03).toNat + 1 ≤ 4 := by
  have hmask : (first &&& 0x03).toNat ≤ (0x03 : UInt8).toNat := by
    rw [UInt8.toNat_and]
    exact Nat.and_le_right
  exact Nat.succ_le_succ hmask

variable {P} {datagram stripped pnField : Bytes} {packetStart pnOffset packetEnd : Nat}
  {headerKey : P.HeaderKey} {first : UInt8}

theorem length_replaceHeader_front (first : UInt8) (hstart : packetStart < pnOffset)
    (hend : pnOffset + pnField.length ≤ datagram.length) :
    (datagram.take packetStart ++ [first] ++
      (datagram.drop (packetStart + 1)).take (pnOffset - packetStart - 1) ++ pnField).length
        = pnOffset + pnField.length := by
  simp only [List.length_append, List.length_take, List.length_drop, List.length_singleton]
  omega

theorem length_replaceHeader (first : UInt8) (hstart : packetStart < pnOffset)
    (hend : pnOffset + pnField.length ≤ datagram.length) :
    (replaceHeader datagram packetStart pnOffset first pnField).length = datagram.length := by
  rw [replaceHeader, List.length_append, length_replaceHeader_front first hstart hend,
    List.length_drop]
  omega

theorem replaceHeader_append (first : UInt8) (hstart : packetStart < pnOffset)
    (hend : pnOffset + pnField.length ≤ datagram.length) (more : Bytes) :
    replaceHeader (datagram ++ more) packetStart pnOffset first pnField
      = replaceHeader datagram packetStart pnOffset first pnField ++ more := by
  have hmiddle : pnOffset - packetStart - 1 ≤ (datagram.drop (packetStart + 1)).length := by
    rw [List.length_drop]
    omega
  simp only [replaceHeader]
  rw [List.take_append_of_le_length (by omega), List.drop_append_of_le_length (by omega),
    List.take_append_of_le_length hmiddle, List.drop_append_of_le_length hend,
    List.append_assoc _ _ more]

theorem removeProtection_ok
    (h : removeProtection P datagram packetStart pnOffset packetEnd headerKey
      = .ok (stripped, first)) :
    pnOffset + 4 + P.sampleLen headerKey ≤ packetEnd ∧
      ∃ pnField, P.headerDecrypt headerKey ((datagram.drop (pnOffset + 4)).take
          (P.sampleLen headerKey)) (datagram.getD packetStart 0) ((datagram.drop pnOffset).take 4)
            = some (first, pnField) ∧
        stripped = replaceHeader datagram packetStart pnOffset first pnField := by
  simp only [removeProtection] at h
  split at h
  · cases h
  rename_i hsample
  split at h
  · cases h
  rename_i hdecrypt
  cases h
  exact ⟨Nat.le_of_not_lt hsample, _, hdecrypt, rfl⟩

theorem removeProtection_length (hmask : P.UnmasksInPlace) (hstart : packetStart < pnOffset)
    (hend : packetEnd ≤ datagram.length)
    (h : removeProtection P datagram packetStart pnOffset packetEnd headerKey
      = .ok (stripped, first)) : stripped.length = datagram.length := by
  obtain ⟨hsample, pnField, hdecrypt, rfl⟩ := removeProtection_ok h
  have hfield := hmask.headerDecrypt hdecrypt
  refine length_replaceHeader first hstart ?_
  rw [hfield, List.length_take, List.length_drop]
  omega

theorem removeProtection_append (hmask : P.UnmasksInPlace) (hstart : packetStart < pnOffset)
    (hend : packetEnd ≤ datagram.length) (more : Bytes) :
    removeProtection P (datagram ++ more) packetStart pnOffset packetEnd headerKey
      = (removeProtection P datagram packetStart pnOffset packetEnd headerKey).map
          fun r => (r.1 ++ more, r.2) := by
  simp only [removeProtection]
  split
  · rfl
  rename_i hsample
  simp only [hpSampleOffset] at hsample ⊢
  have hpart : ∀ {start len}, start + len ≤ datagram.length →
      ((datagram ++ more).drop start).take len = (datagram.drop start).take len := by
    intro start len hle
    rw [List.drop_append_of_le_length (by omega),
      List.take_append_of_le_length (by rw [List.length_drop]; omega)]
  have hfirst : (datagram ++ more).getD packetStart 0 = datagram.getD packetStart 0 := by
    rw [List.getD_eq_getElem?_getD, List.getElem?_append_left (by omega),
      List.getD_eq_getElem?_getD]
  rw [hpart (by omega), hpart (by omega), hfirst]
  split
  · rfl
  rename_i hdecrypt
  have hfield := hmask.headerDecrypt hdecrypt
  rw [replaceHeader_append _ hstart (by
    rw [hfield, List.length_take, List.length_drop]; omega)]
  rfl

theorem openPacket_append {largestPn : Option Nat} {packetKey : P.PacketKey}
    (hpn : pnOffset + 4 ≤ packetEnd) (hend : packetEnd ≤ datagram.length) (more : Bytes) :
    openPacket P (datagram ++ more) packetStart pnOffset packetEnd first largestPn packetKey
      = openPacket P datagram packetStart pnOffset packetEnd first largestPn packetKey := by
  have hlen : (first &&& 0x03).toNat + 1 ≤ 4 := pnLen_le first
  simp only [openPacket]
  rw [List.drop_append_of_le_length (by omega),
    List.take_append_of_le_length (by rw [List.length_drop]; omega),
    List.take_append_of_le_length (by omega), List.take_append_of_le_length hend]

end Protection

section Packet

variable {P} {datagram : Bytes} {offset version : Nat} {largestPn : Option Nat}
  {packetKey : P.PacketKey} {headerKey : P.HeaderKey} {packet : ParsedPacket}

theorem parseLongPacket_ok
    (h : parseLongPacket P datagram offset version largestPn packetKey headerKey = .ok packet) :
    ∃ first layout, datagram[offset]? = some first ∧
      parseLongHeader datagram offset first = .ok layout ∧ layout.version = version ∧
      packet.consumed = layout.packetEnd := by
  simp only [parseLongPacket] at h
  split at h
  · cases h
  rename_i first hfirst
  cases hheader : parseLongHeader datagram offset first with
  | error e => rw [hheader] at h; cases h
  | ok layout =>
    rw [hheader] at h
    change (if _ then _ else _) = _ at h
    split at h
    · cases h
    rename_i hversion
    refine ⟨first, layout, hfirst, hheader, Decidable.not_not.mp hversion, ?_⟩
    cases hstrip : removeProtection P datagram offset layout.pnOffset layout.packetEnd
        headerKey with
    | error e => rw [hstrip] at h; cases h
    | ok r =>
      rw [hstrip] at h
      change (openPacket P r.1 offset layout.pnOffset layout.packetEnd r.2 largestPn
        packetKey >>= _) = _ at h
      cases hopen : openPacket P r.1 offset layout.pnOffset layout.packetEnd r.2
          largestPn packetKey with
      | error e => rw [hopen] at h; cases h
      | ok opened =>
        rw [hopen] at h
        cases h
        rfl

/-- A packet with a long header that parses ends behind its first byte and inside the
datagram. -/
theorem parseLongPacket_bounds
    (h : parseLongPacket P datagram offset version largestPn packetKey headerKey = .ok packet) :
    offset < packet.consumed ∧ packet.consumed ≤ datagram.length := by
  obtain ⟨first, layout, _, hheader, _, hconsumed⟩ := parseLongPacket_ok h
  obtain ⟨hstart, hle, hend⟩ := parseLongHeader_bounds hheader
  rw [hconsumed]
  exact ⟨Nat.lt_of_lt_of_le hstart hle, hend⟩

theorem parseLongPacket_append (hmask : P.UnmasksInPlace) {first : UInt8}
    {layout : LongHeaderLayout} (hfirst : datagram[0]? = some first)
    (hheader : parseLongHeader datagram 0 first = .ok layout) (more : Bytes) :
    parseLongPacket P (datagram ++ more) 0 version largestPn packetKey headerKey
      = parseLongPacket P datagram 0 version largestPn packetKey headerKey := by
  obtain ⟨hstart, hle, hend⟩ := parseLongHeader_bounds hheader
  have hfirst' : (datagram ++ more)[0]? = some first := by
    rw [List.getElem?_append_left (by omega)]
    exact hfirst
  simp only [parseLongPacket, hfirst, hfirst', hheader, parseLongHeader_append hheader more,
    removeProtection_append hmask hstart hend more, bind, Except.bind]
  split
  · rfl
  cases hstrip : removeProtection P datagram 0 layout.pnOffset layout.packetEnd headerKey with
  | error e => rfl
  | ok r =>
    have hlength := removeProtection_length hmask hstart hend hstrip
    have hsample := (removeProtection_ok hstrip).1
    simp only [Except.map]
    rw [openPacket_append (by omega) (hlength ▸ hend) more]

end Packet

/-! ## The accesses of the source -/

/-- The connection IDs of a Retry packet, if it is one. -/
def retryFields : Decoder (Option (Bytes × Bytes)) := do
  let first ← Buf.getU8
  let version ← Buf.getU32
  if first &&& 0x80 = 0 ∨ first &&& 0x30 ≠ 0x30 ∨ version ≠ quicV1 then return none
  else
    let dcidLen ← Buf.getU8
    let dcid ← Buf.getBytes dcidLen.toNat
    let scidLen ← Buf.getU8
    let scid ← Buf.getBytes scidLen.toNat
    return some (scid, dcid)

theorem retryFields_consumes : Consumes 0 retryFields := by
  have hbyte := getU8_consumes.mono (Nat.zero_le 1)
  have hbytes (len : Nat) := (getBytes_consumes len).mono (Nat.zero_le len)
  refine hbyte.bind (n := 0) fun first =>
    (getU32_consumes.mono (Nat.zero_le _)).bind (n := 0) fun version => ?_
  split
  · exact .pure none
  · exact hbyte.bind fun _ => (hbytes _).bind fun _ => hbyte.bind fun _ => (hbytes _).bind fun _ =>
      .pure _

namespace Checked

/-- A parser that can also stop at an access out of range, with `none`. -/
abbrev Access := ExceptT PacketError Option

def parseLongHeader (datagram : Bytes) (offset : Nat) (first : UInt8) : Access LongHeaderLayout :=
  (slice? datagram offset datagram.length).map fun _ =>
    OxiQuic.parseLongHeader datagram offset first

/-- `unprotect_and_decrypt` up to the header in the clear. -/
def removeProtection (datagram : Bytes) (packetStart pnOffset packetEnd : Nat)
    (headerKey : P.HeaderKey) : Access (Bytes × UInt8) :=
  let sampleStart := pnOffset + hpSampleOffset
  let sampleLen := P.sampleLen headerKey
  if sampleStart + sampleLen > packetEnd then throw .truncated
  else do
    let sample ← slice? datagram sampleStart (sampleStart + sampleLen)
    let (head, pnTail) ← splitAt? datagram pnOffset
    match head[packetStart]? with
    | none => throw (.malformed "missing first byte")
    | some firstByte =>
      match P.headerDecrypt headerKey sample firstByte (pnTail.take 4) with
      | none => throw .crypto
      | some (first, pnField) =>
        return (replaceHeader datagram packetStart pnOffset first pnField, first)

/-- `unprotect_and_decrypt` from there on. -/
def openPacket (datagram : Bytes) (packetStart pnOffset packetEnd : Nat) (first : UInt8)
    (largestPn : Option Nat) (packetKey : P.PacketKey) : Access (Nat × Bytes) := do
  let pnLen := (first &&& 0x03).toNat + 1
  let pnBytes ← slice? datagram pnOffset (pnOffset + pnLen)
  let packetNumber := decodePacketNumber largestPn (beValue pnBytes) pnLen
  let header ← slice? datagram packetStart (pnOffset + pnLen)
  -- this range alone is tested before it is taken
  match slice? datagram (pnOffset + pnLen) packetEnd with
  | none => throw .truncated
  | some payload =>
    match P.packetDecrypt packetKey packetNumber header payload with
    | none => throw .crypto
    | some plaintext => return (packetNumber, plaintext)

def parseLongPacket (datagram : Bytes) (offset expectedVersion : Nat) (largestPn : Option Nat)
    (packetKey : P.PacketKey) (headerKey : P.HeaderKey) : Access ParsedPacket :=
  match datagram[offset]? with
  | none => throw .truncated
  | some first => do
      let layout ← parseLongHeader datagram offset first
      if layout.version ≠ expectedVersion then throw (.version layout.version)
      else
        let (datagram, first) ←
          removeProtection P datagram offset layout.pnOffset layout.packetEnd headerKey
        let (packetNumber, payload) ←
          openPacket P datagram offset layout.pnOffset layout.packetEnd first largestPn packetKey
        return { packetType := layout.packetType, scid := layout.scid, dcid := layout.dcid,
                 packetNumber := packetNumber, payload := payload,
                 consumed := layout.packetEnd, keyPhase := false }

def stripShortHeaderProtection (datagram : Bytes) (offset dcidLen : Nat)
    (headerKey : P.HeaderKey) : Access (Bytes × Bool) :=
  if offset ≥ datagram.length then throw .truncated
  else do
    let (datagram, first) ←
      removeProtection P datagram offset (offset + 1 + dcidLen) datagram.length headerKey
    return (datagram, first &&& 0x04 ≠ 0)

def decryptShortPacketBody (datagram : Bytes) (offset dcidLen : Nat) (largestPn : Option Nat)
    (packetKey : P.PacketKey) : Access ParsedPacket :=
  if offset ≥ datagram.length then throw .truncated
  else
    match slice? datagram (offset + 1) (offset + 1 + dcidLen) with
    | none => throw .truncated
    | some dcid => do
        let first ← (datagram[offset]? : Option UInt8)
        let pnOffset := offset + 1 + dcidLen
        if pnOffset + ((first &&& 0x03).toNat + 1) > datagram.length then throw .truncated
        else
          let (packetNumber, payload) ←
            openPacket P datagram offset pnOffset datagram.length first largestPn packetKey
          return { packetType := .short, scid := [], dcid := dcid, packetNumber := packetNumber,
                   payload := payload, consumed := datagram.length,
                   keyPhase := first &&& 0x04 ≠ 0 }

/-- The bytes a packet is compared with the reset tokens by. -/
def resetToken (datagram : Bytes) (offset packetLen : Nat) : Option Bytes :=
  slice? datagram (offset + packetLen - 16) (offset + packetLen)

def verifyRetryIntegrityTag (odcid retryPacket : Bytes) : Option Bool :=
  if retryPacket.length < 16 then some false
  else do
    let (withoutTag, receivedTag) ← splitAt? retryPacket (retryPacket.length - 16)
    match computeRetryIntegrityTag P odcid withoutTag with
    | some computed => return computed == receivedTag
    | none => return false

def parseRetryPacket (datagram : Bytes) : Option (Option (Bytes × Bytes × Bytes)) :=
  if datagram.length < 23 then some none
  else
    match retryFields datagram with
    | .ok (some (scid, dcid), rest) =>
      let consumed := datagram.length - rest.length
      if datagram.length < consumed + 16 then some none
      else (slice? datagram consumed (datagram.length - 16)).map fun token =>
        some (scid, dcid, token)
    | _ => some none

section

variable {P} {datagram : Bytes} {packetStart pnOffset packetEnd offset : Nat}

theorem parseLongHeader_eq (first : UInt8) (h : offset < datagram.length) :
    (Checked.parseLongHeader datagram offset first).run
      = some (OxiQuic.parseLongHeader datagram offset first) := by
  show (slice? datagram offset datagram.length).map _ = _
  rw [slice?_length (Nat.le_of_lt h)]
  rfl

theorem removeProtection_eq (headerKey : P.HeaderKey) (hstart : packetStart < pnOffset)
    (hend : packetEnd ≤ datagram.length) :
    (Checked.removeProtection P datagram packetStart pnOffset packetEnd headerKey).run
      = some (OxiQuic.removeProtection P datagram packetStart pnOffset packetEnd headerKey) := by
  simp only [Checked.removeProtection, OxiQuic.removeProtection]
  split
  · rfl
  rename_i hsample
  simp only [hpSampleOffset] at hsample ⊢
  have hfirst : (datagram.take pnOffset)[packetStart]? = some (datagram.getD packetStart 0) := by
    rw [List.getElem?_take_of_lt hstart, List.getD_eq_getElem?_getD,
      List.getElem?_eq_getElem (by omega)]
    rfl
  rw [slice?_add (by omega), splitAt?_eq (by omega)]
  show ExceptT.run (match (datagram.take pnOffset)[packetStart]? with
    | none => _
    | some firstByte => _) = _
  rw [hfirst]
  simp only []
  cases P.headerDecrypt headerKey ((datagram.drop (pnOffset + 4)).take (P.sampleLen headerKey))
      (datagram.getD packetStart 0) ((datagram.drop pnOffset).take 4) with
  | none => rfl
  | some r => rfl

theorem openPacket_eq (first : UInt8) (largestPn : Option Nat) (packetKey : P.PacketKey)
    (hstart : packetStart ≤ pnOffset) (hpn : pnOffset + ((first &&& 0x03).toNat + 1) ≤ packetEnd)
    (hend : packetEnd ≤ datagram.length) :
    (Checked.openPacket P datagram packetStart pnOffset packetEnd first largestPn packetKey).run
      = some (OxiQuic.openPacket P datagram packetStart pnOffset packetEnd first largestPn
          packetKey) := by
  simp only [Checked.openPacket, OxiQuic.openPacket]
  rw [slice?_add (by omega), slice?_eq (by omega) (by omega), slice?_eq hpn hend]
  generalize (datagram.take (pnOffset + ((first &&& 0x03).toNat + 1))).drop packetStart = header
  generalize (datagram.take packetEnd).drop (pnOffset + ((first &&& 0x03).toNat + 1)) = payload
  show ExceptT.run (match P.packetDecrypt packetKey _ header payload with
    | none => _
    | some plaintext => _) = _
  cases P.packetDecrypt packetKey _ header payload with
  | none | some => rfl

theorem parseLongPacket_eq (hmask : P.UnmasksInPlace) (datagram : Bytes)
    (offset version : Nat) (largestPn : Option Nat) (packetKey : P.PacketKey)
    (headerKey : P.HeaderKey) :
    (Checked.parseLongPacket P datagram offset version largestPn packetKey headerKey).run
      = some (OxiQuic.parseLongPacket P datagram offset version largestPn packetKey headerKey) := by
  simp only [Checked.parseLongPacket, OxiQuic.parseLongPacket]
  cases hfirst : datagram[offset]? with
  | none => rfl
  | some first =>
    have hoffset : offset < datagram.length := (List.getElem?_eq_some_iff.mp hfirst).1
    simp only []
    rw [ExceptT.run_bind, parseLongHeader_eq first hoffset]
    cases hheader : OxiQuic.parseLongHeader datagram offset first with
    | error e => rfl
    | ok layout =>
      obtain ⟨hstart, hle, hend⟩ := parseLongHeader_bounds hheader
      show ExceptT.run (if layout.version ≠ version then _ else _)
        = some (if layout.version ≠ version then _ else _)
      split
      · rfl
      rw [ExceptT.run_bind, removeProtection_eq headerKey hstart hend]
      cases hstrip : OxiQuic.removeProtection P datagram offset layout.pnOffset
          layout.packetEnd headerKey with
      | error e => rfl
      | ok r =>
        have hlength := removeProtection_length hmask hstart hend hstrip
        have hsample := (removeProtection_ok hstrip).1
        have hpn := pnLen_le r.2
        show ExceptT.run (Checked.openPacket P r.1 offset layout.pnOffset layout.packetEnd
          r.2 largestPn packetKey >>= _) = some (OxiQuic.openPacket P r.1 offset
            layout.pnOffset layout.packetEnd r.2 largestPn packetKey >>= _)
        rw [ExceptT.run_bind, openPacket_eq r.2 largestPn packetKey (Nat.le_of_lt hstart)
          (by omega) (hlength ▸ hend)]
        cases OxiQuic.openPacket P r.1 offset layout.pnOffset layout.packetEnd r.2
            largestPn packetKey with
        | error e => rfl
        | ok opened => rfl

theorem stripShortHeaderProtection_eq (datagram : Bytes) (offset dcidLen : Nat)
    (headerKey : P.HeaderKey) :
    (Checked.stripShortHeaderProtection P datagram offset dcidLen headerKey).run
      = some (OxiQuic.stripShortHeaderProtection P datagram offset dcidLen headerKey) := by
  simp only [Checked.stripShortHeaderProtection, OxiQuic.stripShortHeaderProtection]
  split
  · rfl
  rw [ExceptT.run_bind, removeProtection_eq headerKey (by omega) (Nat.le_refl _)]
  cases OxiQuic.removeProtection P datagram offset (offset + 1 + dcidLen) datagram.length
      headerKey with
  | error e => rfl
  | ok r => rfl

theorem decryptShortPacketBody_eq (datagram : Bytes) (offset dcidLen : Nat)
    (largestPn : Option Nat) (packetKey : P.PacketKey) :
    (Checked.decryptShortPacketBody P datagram offset dcidLen largestPn packetKey).run
      = some (OxiQuic.decryptShortPacketBody P datagram offset dcidLen largestPn packetKey) := by
  simp only [Checked.decryptShortPacketBody, OxiQuic.decryptShortPacketBody]
  by_cases hoffset : offset ≥ datagram.length
  · rw [if_pos hoffset, if_pos (.inl hoffset)]
    rfl
  rw [if_neg hoffset]
  by_cases hdcid : datagram.length < offset + 1 + dcidLen
  · have hnone : slice? datagram (offset + 1) (offset + 1 + dcidLen) = none :=
      if_neg fun h => absurd h.2 (Nat.not_le.mpr hdcid)
    rw [hnone, if_pos (.inr hdcid)]
    rfl
  have hfirst : datagram[offset]? = some (datagram.getD offset 0) := by
    rw [List.getD_eq_getElem?_getD, List.getElem?_eq_getElem (by omega)]
    rfl
  rw [slice?_add (Nat.le_of_not_lt hdcid), if_neg (by omega), hfirst]
  show ExceptT.run (if offset + 1 + dcidLen + ((datagram.getD offset 0 &&& 0x03).toNat + 1)
    > datagram.length then _ else _) = _
  split
  · rfl
  rename_i hpn
  rw [ExceptT.run_bind, openPacket_eq _ largestPn packetKey (by omega)
    (Nat.le_of_not_lt hpn) (Nat.le_refl _)]
  cases OxiQuic.openPacket P datagram offset (offset + 1 + dcidLen) datagram.length
      (datagram.getD offset 0) largestPn packetKey with
  | error e => rfl
  | ok opened => rfl

theorem resetToken_eq (h : 21 ≤ datagram.length - offset) :
    Checked.resetToken datagram offset (datagram.length - offset)
      = some (datagram.drop (datagram.length - 16)) := by
  have hend : offset + (datagram.length - offset) = datagram.length := by omega
  rw [resetToken, hend, slice?_length (by omega)]

theorem verifyRetryIntegrityTag_eq (odcid retryPacket : Bytes) :
    Checked.verifyRetryIntegrityTag P odcid retryPacket
      = some (OxiQuic.verifyRetryIntegrityTag P odcid retryPacket) := by
  simp only [Checked.verifyRetryIntegrityTag, OxiQuic.verifyRetryIntegrityTag]
  split
  · rfl
  rw [splitAt?_eq (Nat.sub_le ..)]
  show (match computeRetryIntegrityTag P odcid _ with
    | some computed => _
    | none => _) = _
  cases computeRetryIntegrityTag P odcid (retryPacket.take (retryPacket.length - 16)) with
  | none | some => rfl

theorem parseRetryPacket_eq (datagram : Bytes) :
    Checked.parseRetryPacket datagram = some (OxiQuic.parseRetryPacket datagram) := by
  have hmodel : OxiQuic.parseRetryPacket datagram = if datagram.length < 23 then none else
      match retryFields datagram with
      | .ok (some (scid, dcid), rest) =>
        if rest.length < 16 then none else some (scid, dcid, rest.take (rest.length - 16))
      | _ => none := rfl
  rw [hmodel, Checked.parseRetryPacket]
  split
  · rfl
  cases hfields : retryFields datagram with
  | error e => rfl
  | ok r =>
    obtain ⟨cids, rest⟩ := r
    cases cids with
    | none => rfl
    | some cids =>
      obtain ⟨used, hsplit, -⟩ := retryFields_consumes _ _ _ hfields
      have hlength : datagram.length = used.length + rest.length := by
        rw [hsplit, List.length_append]
      simp only []
      by_cases hrest : rest.length < 16
      · rw [if_pos (by omega), if_pos hrest]
      rw [if_neg (by omega), if_neg hrest, slice?_eq (by omega) (by omega)]
      have htoken : (datagram.take (datagram.length - 16)).drop
          (datagram.length - rest.length) = rest.take (rest.length - 16) := by
        rw [List.drop_take, hlength, Nat.add_sub_cancel, hsplit, List.drop_left]
        congr 1
        omega
      rw [htoken]
      rfl

end

end Checked

end OxiQuic
