import OxiQuic.Connection.Inert
import OxiQuic.Connection.Opening

/-!
# The receive loops

`FramesRun` and `PacketsRun` are the loops of the source over the frames of a payload and the
packets of a datagram, without a bound on their iterations: a derivation is a run that ends.
The bounded loops of the model are such runs, since every frame and every packet takes at least
one byte, so the loops of the source end for all bytes and in all states.

The second part is about a datagram whose first packet cannot be decrypted.  The loop stops
there, whatever follows.
-/

namespace OxiQuic

open Lib Plain

variable {P : Platform} {parsed : ParsedPacket}

namespace Connection

/-! ## Frames -/

/-- A run of the loop over the frames of a payload, from the bytes that are left. -/
inductive FramesRun (now : Time) (packetType : PacketType) :
    Bytes → Bool → Connection P → Outcome P Bool → Prop
  | done {ackEliciting : Bool} {c : Connection P} :
      FramesRun now packetType [] ackEliciting c (c, .ok ackEliciting)
  | malformed {buf : Bytes} {ackEliciting : Bool} {c : Connection P} {e : FrameError} :
      buf ≠ [] → decodeFrame buf = .error e →
      FramesRun now packetType buf ackEliciting c (c, .error (.transportError e.code none e.detail))
  | failed {buf rest : Bytes} {ackEliciting : Bool} {c d : Connection P} {frame : Frame}
      {e : OxiQuicError} :
      decodeFrame buf = .ok (frame, rest) → c.takeFrame now packetType frame = (d, .error e) →
      FramesRun now packetType buf ackEliciting c (d, .error e)
  | next {buf rest : Bytes} {ackEliciting : Bool} {c d : Connection P} {frame : Frame}
      {r : Outcome P Bool} :
      decodeFrame buf = .ok (frame, rest) → c.takeFrame now packetType frame = (d, .ok ()) →
      FramesRun now packetType rest (ackEliciting || frame.isAckEliciting) d r →
      FramesRun now packetType buf ackEliciting c r

theorem processFramesFuel_run (now : Time) (packetType : PacketType) (fuel : Nat) {buf : Bytes}
    (hfuel : buf.length ≤ fuel) (ackEliciting : Bool) (c : Connection P) :
    FramesRun now packetType buf ackEliciting c
      (processFramesFuel now packetType fuel buf ackEliciting c) := by
  induction fuel generalizing buf ackEliciting c with
  | zero =>
    rw [List.eq_nil_of_length_eq_zero (Nat.le_zero.mp hfuel)]
    exact .done
  | succ fuel ih =>
    simp only [processFramesFuel]
    split
    · rename_i hempty
      rw [List.isEmpty_iff.mp hempty]
      exact .done
    rename_i hempty
    split
    · next hdecode => exact .malformed (fun h => hempty (List.isEmpty_iff.mpr h)) hdecode
    rename_i frame rest hdecode
    have hrest := decodeFrame_consumes.length hdecode
    show FramesRun now packetType buf ackEliciting c
      ((c.takeFrame now packetType frame).andThen _)
    cases htake : c.takeFrame now packetType frame with
    | mk d result =>
      cases result with
      | error e => exact .failed hdecode htake
      | ok u => exact .next hdecode htake (ih (by omega) _ d)

/-! ## Packets -/

/-- A run of the loop over the packets of a datagram, from an offset on. -/
inductive PacketsRun (now : Time) (datagram : Bytes) :
    Nat → Connection P → Outcome P Unit → Prop
  | stopped {offset : Nat} {c d : Connection P} :
      c.recvPacket now datagram offset = (d, .ok none) →
      PacketsRun now datagram offset c (d, .ok ())
  | failed {offset : Nat} {c d : Connection P} {e : OxiQuicError} :
      c.recvPacket now datagram offset = (d, .error e) →
      PacketsRun now datagram offset c (d, .error e)
  | next {offset stop : Nat} {c d : Connection P} {r : Outcome P Unit} :
      c.recvPacket now datagram offset = (d, .ok (some stop)) → offset < stop →
      PacketsRun now datagram stop d.afterPacket r →
      PacketsRun now datagram offset c r

section Progress

variable {c d : Connection P} {now : Time} {datagram : Bytes} {offset stop : Nat}

theorem acceptPacket_stop {space : SpaceKind} {packetType : PacketType}
    (h : c.acceptPacket now space packetType parsed = (d, .ok (some stop))) :
    stop = parsed.consumed := by
  simp only [acceptPacket, Outcome.andThen] at h
  split at h
  · cases h
    rfl
  · cases h

theorem recvLongPacket_stop (h : c.recvLongPacket now datagram offset = (d, .ok (some stop))) :
    offset < stop ∧ stop ≤ datagram.length := by
  have hhandshake : ∀ space, c.recvHandshakePacket now space datagram offset
      = (d, .ok (some stop)) → offset < stop ∧ stop ≤ datagram.length := by
    intro space h
    simp only [recvHandshakePacket] at h
    split at h
    · cases h
    split at h
    · cases h
    rename_i hparsed
    have hbounds := parseLongPacket_bounds hparsed
    split at h
    · cases h
      exact hbounds
    · rw [acceptPacket_stop h]
      exact hbounds
  simp only [recvLongPacket] at h
  split at h
  · cases h
  · split at h <;> cases h
  · simp only [recvRetryPacket] at h
    split at h <;> cases h
  · simp only [recvZeroRttPacket] at h
    split at h
    · cases h
    split at h
    · cases h
    split at h
    · cases h
    rename_i hparsed
    rw [acceptPacket_stop h]
    exact parseLongPacket_bounds hparsed
  · exact hhandshake _ h
  · exact hhandshake _ h
  · cases h

theorem decryptShortPacketBody_consumed {dcidLen : Nat} {largestPn : Option Nat}
    {packetKey : P.PacketKey}
    (h : decryptShortPacketBody P datagram offset dcidLen largestPn packetKey = .ok parsed) :
    parsed.consumed = datagram.length ∧ offset < datagram.length := by
  simp only [decryptShortPacketBody] at h
  split at h
  · cases h
  rename_i hoffset
  split at h
  · cases h
  cases hopen : OxiQuic.openPacket P datagram offset (offset + 1 + dcidLen) datagram.length
      (datagram.getD offset 0) largestPn packetKey with
  | error e => rw [hopen] at h; cases h
  | ok opened =>
    rw [hopen] at h
    cases h
    exact ⟨rfl, by omega⟩

theorem openCurrentPhase_consumed {packetKey : P.PacketKey}
    (h : c.openCurrentPhase now datagram offset packetKey = some parsed) :
    parsed.consumed = datagram.length ∧ offset < datagram.length := by
  simp only [openCurrentPhase] at h
  split at h
  · rename_i hbody
    cases h
    exact decryptShortPacketBody_consumed hbody
  split at h
  · rename_i prevKey retireAfter _
    split at h
    · cases hbody : decryptShortPacketBody P datagram offset localCidLen
          c.spaces.application.largestReceived prevKey with
      | error e => rw [hbody] at h; cases h
      | ok parsed' =>
        rw [hbody] at h
        cases h
        exact decryptShortPacketBody_consumed hbody
    · cases h
  · cases h

theorem checkStatelessReset_stop :
    c.checkStatelessReset datagram offset ≠ (d, .ok (some stop)) := by
  intro h
  simp only [checkStatelessReset] at h
  split at h <;> cases h

theorem recvShortPacket_stop (h : c.recvShortPacket now datagram offset = (d, .ok (some stop))) :
    offset < stop := by
  have haccepted : ∀ {e : Connection P} {stripped : Bytes} {parsed : ParsedPacket},
      parsed.consumed = stripped.length ∧ offset < stripped.length →
      e.acceptPacket now .application .short parsed = (d, .ok (some stop)) → offset < stop := by
    intro e stripped parsed hconsumed h
    rw [acceptPacket_stop h, hconsumed.1]
    exact hconsumed.2
  simp only [recvShortPacket] at h
  split at h
  · exact absurd h checkStatelessReset_stop
  split at h
  · exact absurd h checkStatelessReset_stop
  split at h
  · split at h
    · exact absurd h checkStatelessReset_stop
    · next hopen => exact haccepted (openCurrentPhase_consumed hopen) h
  split at h
  · exact absurd h checkStatelessReset_stop
  split at h
  · exact absurd h checkStatelessReset_stop
  · next hbody => exact haccepted (decryptShortPacketBody_consumed hbody) h

theorem recvPacket_stop (h : c.recvPacket now datagram offset = (d, .ok (some stop))) :
    offset < stop := by
  simp only [recvPacket] at h
  split at h
  · cases h
  split at h
  · cases h
  split at h
  · exact (recvLongPacket_stop h).1
  · exact recvShortPacket_stop h

end Progress

/-- A bound that is no smaller than what is left of the datagram is never reached. -/
theorem recvPackets_run (now : Time) (datagram : Bytes) (fuel offset : Nat)
    (hfuel : datagram.length - offset ≤ fuel) (c : Connection P) :
    PacketsRun now datagram offset c (recvPackets now datagram fuel offset c) := by
  induction fuel generalizing offset c with
  | zero =>
    have hnone : datagram[offset]? = none := List.getElem?_eq_none (by omega)
    refine .stopped ?_
    simp only [recvPacket, hnone]
  | succ fuel ih =>
    rw [recvPackets_succ]
    cases hrecv : c.recvPacket now datagram offset with
    | mk d result =>
      cases result with
      | error e => exact .failed hrecv
      | ok consumed =>
        cases consumed with
        | none => exact .stopped hrecv
        | some stop =>
          have hstop := recvPacket_stop hrecv
          exact .next hrecv hstop (ih stop (by omega) d.afterPacket)

/-! ## Both loops -/

/-- Every access by index on the way of a datagram finds what it looks for. -/
structure AccessesInRange (P : Platform) : Prop where
  /-- The first byte of a packet and the datagram from there on. -/
  packetStart : ∀ (datagram : Bytes) {offset : Nat}, offset < datagram.length →
    (∃ first, datagram[offset]? = some first) ∧
      slice? datagram offset datagram.length = some (datagram.drop offset)
  parseLongPacket : ∀ (datagram : Bytes) (offset version : Nat) (largestPn : Option Nat)
    (packetKey : P.PacketKey) (headerKey : P.HeaderKey),
    (Checked.parseLongPacket P datagram offset version largestPn packetKey headerKey).run
      = some (parseLongPacket P datagram offset version largestPn packetKey headerKey)
  stripShortHeaderProtection : ∀ (datagram : Bytes) (offset dcidLen : Nat)
    (headerKey : P.HeaderKey),
    (Checked.stripShortHeaderProtection P datagram offset dcidLen headerKey).run
      = some (stripShortHeaderProtection P datagram offset dcidLen headerKey)
  decryptShortPacketBody : ∀ (datagram : Bytes) (offset dcidLen : Nat) (largestPn : Option Nat)
    (packetKey : P.PacketKey),
    (Checked.decryptShortPacketBody P datagram offset dcidLen largestPn packetKey).run
      = some (decryptShortPacketBody P datagram offset dcidLen largestPn packetKey)
  resetToken : ∀ (datagram : Bytes) {offset : Nat}, 21 ≤ datagram.length - offset →
    Checked.resetToken datagram offset (datagram.length - offset)
      = some (datagram.drop (datagram.length - 16))
  verifyRetryIntegrityTag : ∀ odcid retryPacket : Bytes,
    Checked.verifyRetryIntegrityTag P odcid retryPacket
      = some (verifyRetryIntegrityTag P odcid retryPacket)
  parseRetryPacket : ∀ datagram : Bytes,
    Checked.parseRetryPacket datagram = some (parseRetryPacket datagram)
  /-- The cuts of CRYPTO and STREAM data to what is new. -/
  reassembly : ∀ (r : Reassembler UInt8) (offset : Nat) (data : Bytes),
    r.accept? offset data = some (r.accept offset data)

theorem accessesInRange (hmask : P.UnmasksInPlace) : AccessesInRange P where
  packetStart _ _ h := ⟨⟨_, List.getElem?_eq_getElem h⟩, slice?_length (Nat.le_of_lt h)⟩
  parseLongPacket := Checked.parseLongPacket_eq hmask
  stripShortHeaderProtection := Checked.stripShortHeaderProtection_eq
  decryptShortPacketBody := Checked.decryptShortPacketBody_eq
  resetToken _ _ := Checked.resetToken_eq
  verifyRetryIntegrityTag := Checked.verifyRetryIntegrityTag_eq
  parseRetryPacket := Checked.parseRetryPacket_eq
  reassembly := Reassembler.accept?_eq

/-- Whatever the bytes and the state, decoding a frame takes at least one byte and leaves a
suffix, a packet with a long header that is accepted ends behind its start and inside the
datagram, both loops end, and no access on the way is out of range. -/
theorem receive_progress (hmask : P.UnmasksInPlace) (c : Connection P) (now : Time) :
    (∀ (buf : Bytes) (frame : Frame) (rest : Bytes), decodeFrame buf = .ok (frame, rest) →
      ∃ used, buf = used ++ rest ∧ 1 ≤ used.length) ∧
    (∀ (datagram : Bytes) (offset stop : Nat) (d : Connection P),
      c.recvLongPacket now datagram offset = (d, .ok (some stop)) →
        offset < stop ∧ stop ≤ datagram.length) ∧ (∀ (packetType : PacketType) (payload : Bytes),
      FramesRun now packetType payload false c.beginPacket
        (c.processFrames now packetType payload)) ∧ (∀ datagram : Bytes,
      PacketsRun now datagram 0 (c.arrive now datagram) (c.handleDatagram now datagram)) ∧
    AccessesInRange P := by
  refine ⟨decodeFrame_consumes, fun _ _ _ _ => recvLongPacket_stop, ?_, ?_, accessesInRange hmask⟩
  · intro packetType payload
    exact processFramesFuel_run now packetType _ (Nat.le_refl _) false c.beginPacket
  · intro datagram
    exact recvPackets_run now datagram _ 0 (Nat.sub_le ..) (c.arrive now datagram)

/-! ## Coalesced packets -/

/-- What a datagram does to a connection, but for the counters of what was received. -/
def withoutCounters (c : Connection P) : Connection P :=
  { c with stats := { c.stats with packetsRecv := 0, bytesRecv := 0 } }

/-- Two calls have the same effect, but for the counters of what was received. -/
def SameEffect (r r' : Outcome P Unit) : Prop :=
  r.1.withoutCounters = r'.1.withoutCounters ∧ r.2 = r'.2

/-- The connection has no key for a packet, or the packet does not authenticate. -/
def undecryptable (c : Connection P) (packetType : PacketType) (packet : Bytes) : Bool :=
  match packetType with
  | .initial => !c.opensLong .initial c.spaces.initial.remoteKeys packet 0
  | .handshake => !c.opensLong .handshake c.spaces.handshake.remoteKeys packet 0
  | .zeroRtt => c.role == .client || !c.opensLong .application c.zeroRtt.keys packet 0
  | _ => false

section Coalesced

variable {c : Connection P} {now : Time} {packetType : PacketType} {packet : Bytes}

theorem opensLong_append (hmask : P.UnmasksInPlace) {first : UInt8} {layout : LongHeaderLayout}
    (hfirst : packet[0]? = some first) (hheader : parseLongHeader packet 0 first = .ok layout)
    (space : SpaceKind) (keys : Option (DirectionalKeys P.PacketKey P.HeaderKey)) (more : Bytes) :
    c.opensLong space keys (packet ++ more) 0 = c.opensLong space keys packet 0 := by
  cases keys with
  | none => rfl
  | some keys => simp only [opensLong, parseLongPacket_append hmask hfirst hheader more]

theorem recvLongPacket_of_undecryptable (hmask : P.UnmasksInPlace)
    (hwhole : wholeLongPacket packet = some packetType)
    (hclosed : c.undecryptable packetType packet = true) (more : Bytes) :
    c.recvLongPacket now (packet ++ more) 0 = (c, .ok none) := by
  obtain ⟨first, layout, hfirst, hlong, hheader, rfl⟩ := wholeLongPacket_eq_some hwhole
  have hpos := (parseLongHeader_bounds hheader).1
  have hfirst' : (packet ++ more)[0]? = some first := by
    rw [List.getElem?_append_left (List.getElem?_eq_some_iff.mp hfirst).1]
    exact hfirst
  have hpeek := peekDcid_of_header hfirst' hlong (parseLongHeader_append hheader more) localCidLen
  have hopens := opensLong_append (c := c) hmask hfirst hheader
  simp only [recvLongPacket, List.drop_zero, hpeek]
  cases htype : layout.packetType with
  | initial =>
    refine recvHandshakePacket_of_closed c now .initial _ 0 ?_
    rw [hopens]
    simp only [undecryptable, htype, Bool.not_eq_true'] at hclosed
    exact hclosed
  | handshake =>
    refine recvHandshakePacket_of_closed c now .handshake _ 0 ?_
    rw [hopens]
    simp only [undecryptable, htype, Bool.not_eq_true'] at hclosed
    exact hclosed
  | zeroRtt =>
    simp only [undecryptable, htype, Bool.or_eq_true, beq_iff_eq, Bool.not_eq_true'] at hclosed
    refine recvZeroRttPacket_of_closed c now _ 0 ?_
    rwa [hopens]
  | _ => simp only [undecryptable, htype, Bool.false_eq_true] at hclosed

theorem handleDatagram_of_undecryptable (hmask : P.UnmasksInPlace)
    (hwhole : wholeLongPacket packet = some packetType)
    (hclosed : c.undecryptable packetType packet = true) (more : Bytes) :
    c.handleDatagram now (packet ++ more) = (c.arrive now (packet ++ more), .ok ()) := by
  obtain ⟨first, layout, hfirst, hlong, hheader, -⟩ := wholeLongPacket_eq_some hwhole
  have hlen : 0 < packet.length := (List.getElem?_eq_some_iff.mp hfirst).1
  have hfirst' : (packet ++ more)[0]? = some first := by
    rw [List.getElem?_append_left hlen]
    exact hfirst
  obtain ⟨fuel, hfuel⟩ : ∃ fuel, (packet ++ more).length = fuel + 1 :=
    Nat.exists_eq_succ_of_ne_zero (by rw [List.length_append]; omega)
  have hclosed' : (c.arrive now (packet ++ more)).undecryptable packetType packet = true := hclosed
  have hrecv : (c.arrive now (packet ++ more)).recvPacket now (packet ++ more) 0
      = (c.arrive now (packet ++ more), .ok none) := by
    have hzero : first ≠ 0 := by
      rintro rfl
      exact hlong rfl
    simp only [recvPacket, hfirst', if_neg hzero, if_pos hlong]
    exact recvLongPacket_of_undecryptable hmask hwhole hclosed' more
  show recvPackets now (packet ++ more) (packet ++ more).length 0 (c.arrive now (packet ++ more)) = _
  rw [hfuel, recvPackets_succ, hrecv]
  rfl

theorem handleDatagram_of_padding {datagram : Bytes} (h : datagram.head?.getD 0 = 0) :
    c.handleDatagram now datagram = (c.arrive now datagram, .ok ()) := by
  show recvPackets now datagram datagram.length 0 (c.arrive now datagram) = _
  cases datagram with
  | nil => rfl
  | cons first rest =>
    cases (show first = 0 from h)
    rfl

/-- A datagram whose first packet cannot be decrypted has the effect of what follows that
packet just if that alone has none, as when nothing follows, or padding. -/
theorem coalesced_after_undecryptable (hmask : P.UnmasksInPlace)
    (hwhole : wholeLongPacket packet = some packetType)
    (hclosed : c.undecryptable packetType packet = true) (more : Bytes) :
    (SameEffect (c.handleDatagram now (packet ++ more)) (c.handleDatagram now more) ↔
      SameEffect (c.handleDatagram now more) (c.armIdleTimer now, .ok ())) ∧
    (more.head?.getD 0 = 0 →
      SameEffect (c.handleDatagram now (packet ++ more)) (c.handleDatagram now more)) := by
  rw [handleDatagram_of_undecryptable hmask hwhole hclosed]
  constructor
  · exact ⟨fun h => ⟨h.1.symm, h.2.symm⟩, fun h => ⟨h.1.symm, h.2.symm⟩⟩
  intro hpadding
  rw [handleDatagram_of_padding hpadding]
  exact ⟨rfl, rfl⟩

end Coalesced

end Connection

/-- A client at its start. -/
theorem receive_progress_client :
    (∀ datagram : Bytes, Connection.PacketsRun 1 datagram 0 ((client []).arrive 1 datagram)
      ((client []).handleDatagram 1 datagram)) ∧ Connection.AccessesInRange Plain :=
  (Connection.receive_progress unmasksInPlace (client []) 1).2.2.2

namespace Plain

/-- A Handshake packet of the server to a client. -/
def handshakePacket (c : Connection Plain) : Bytes :=
  (buildLongPacket Plain []
    { longType := .handshake, version := quicV1, dcid := c.localCid, scid := [], token := []
      packetNumber := 0, largestAcked := none }
    [1, 0, 0, 0, 0] (PlainKey.handshake .server) ()).1

/-- What the server answers a client that has said hello. -/
def firstAnswer : Bytes := (answer (client []) []).2

/-- A client that has said hello. -/
def flightSent : Connection Plain := ((client []).pollTransmit 0 []).1

end Plain

/-- A client without Handshake keys gets a Handshake packet with padding behind it. -/
theorem coalesced_after_undecryptable_padded :
    wholeLongPacket (handshakePacket flightSent) = some .handshake ∧
      flightSent.undecryptable .handshake (handshakePacket flightSent) = true ∧
      Connection.SameEffect (flightSent.handleDatagram 1 (handshakePacket flightSent ++ [0, 0]))
        (flightSent.handleDatagram 1 [0, 0]) := by
  have hwhole : wholeLongPacket (handshakePacket flightSent) = some .handshake := by
    decide +kernel
  have hclosed : flightSent.undecryptable .handshake (handshakePacket flightSent) = true := by
    decide +kernel
  exact ⟨hwhole, hclosed,
    (Connection.coalesced_after_undecryptable unmasksInPlace hwhole hclosed [0, 0]).2 rfl⟩

/-- With the server's answer behind it, the packet keeps the answer from the client.  Alone the
answer gives the client its Handshake keys. -/
theorem coalesced_answer_lost :
    wholeLongPacket (handshakePacket flightSent) = some .handshake ∧
      flightSent.undecryptable .handshake (handshakePacket flightSent) = true ∧
      ¬ Connection.SameEffect
        (flightSent.handleDatagram 1 (handshakePacket flightSent ++ firstAnswer))
        (flightSent.handleDatagram 1 firstAnswer) := by
  have hkeys : (flightSent.handleDatagram 1
        (handshakePacket flightSent ++ firstAnswer)).1.spaces.handshake.hasKeys = false ∧
      (flightSent.handleDatagram 1 firstAnswer).1.spaces.handshake.hasKeys = true := by
    decide +kernel
  have hdiffer : ∀ {r r' : Outcome Plain Unit}, r.1.spaces.handshake.hasKeys = false ∧
      r'.1.spaces.handshake.hasKeys = true → ¬ Connection.SameEffect r r' := by
    intro r r' h hsame
    have hhas := congrArg (fun c => c.spaces.handshake.hasKeys) hsame.1
    exact Bool.noConfusion (h.1.symm.trans (hhas.trans h.2))
  exact ⟨by decide +kernel, by decide +kernel, hdiffer hkeys⟩

end OxiQuic
