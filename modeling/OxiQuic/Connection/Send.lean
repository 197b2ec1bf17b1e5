import OxiQuic.Connection.Fill
import OxiQuic.Connection.Recovery
import OxiQuic.Wire.Packet

/-!
# Sending

Building packets and datagrams (`oxiquic-transport/src/connection/send.rs`): the packets
of the three spaces, the 0-RTT packet, the closing packet, and `poll_transmit`, which puts
them together.
-/

namespace OxiQuic

variable {P : Platform}

namespace Connection

/-! ## What there is to send -/

/-- Whether the application space has something to send besides stream data. -/
def hasControlOutput (c : Connection P) : Bool :=
  c.spaces.application.ackPending
    || c.handshakeDoneToSend
    || decide (0 < c.recovery.probesOwed)
    || c.timers.pendingKeepAlivePing
    || c.mtu.pendingMtuProbe
    || c.flow.pendingMaxData.isSome
    || !c.flow.pendingMaxStreamData.isEmpty
    || c.flow.pendingDataBlocked.isSome
    || !c.flow.pendingStreamDataBlocked.isEmpty
    || !c.resets.pendingResetStreams.isEmpty
    || !c.resets.pendingStopSending.isEmpty
    || c.keyUpdate.keyUpdatePending
    || c.path.pendingPathResponse.isSome
    || c.path.pendingPathChallengeSend
    || !c.cids.localCidPool.pendingNew.isEmpty
    || !c.cids.peerCidPool.pendingRetire.isEmpty
    || c.limits.bidi.pendingMaxStreams.isSome
    || c.limits.uni.pendingMaxStreams.isSome
    || c.limits.bidi.pendingStreamsBlocked.isSome
    || c.limits.uni.pendingStreamsBlocked.isSome
    || c.tokens.pendingNew.isSome
    || !c.datagrams.sendQueue.isEmpty

def spaceHasOutput (c : Connection P) : SpaceKind → Bool
  | .initial => c.initialCrypto.hasSendData || c.spaces.initial.ackPending
  | .handshake => c.handshakeCrypto.hasSendData || c.spaces.handshake.ackPending
  | .application => c.hasControlOutput || c.hasPendingStreamData

/-- Stream data alone waits for the congestion window; everything else does not. -/
def appSpaceMaySend (c : Connection P) : Bool :=
  if !c.spaceHasOutput .application then false
  else if c.hasControlOutput then true
  else c.congestion.canSend maxDatagramSize

/-! ## One packet -/

/-- The largest datagram a packet of a space may make. -/
def datagramBudget (c : Connection P) (kind : SpaceKind) : Nat :=
  if kind = .application then
    if c.mtu.pendingMtuProbe then c.mtu.probeMtu.getD c.mtu.currentMtu else c.mtu.currentMtu
  else maxDatagram

/-- What the sealing keys of a space are derived for. -/
def keyLabel (c : Connection P) : SpaceKind → KeyLabel
  | .initial => .initial c.initialDcid
  | .handshake => .handshake
  | .application => .application

/-- A short-header packet may switch to the next key epoch. -/
def beforeSeal (c : Connection P) (kind : SpaceKind) (now : Time) : Connection P :=
  if kind = .application then
    let c := if c.keyUpdate.keyUpdatePending then c.initiateKeyUpdateNow now else c
    { c with keyUpdate := { c.keyUpdate with keyUpdateReceived := false } }
  else c

/-- Use up a packet number. -/
def allocate (c : Connection P) (kind : SpaceKind) : Connection P :=
  { c with spaces := c.spaces.set kind (c.spaces.get kind).nextPn }

/-- Append the packet to the datagram.  Application packets have short headers. -/
def buildPacket (c : Connection P) (kind : SpaceKind) (token : Bytes)
    (keys : DirectionalKeys P.PacketKey P.HeaderKey) (pn : Nat) (out payload : Bytes) :
    Bytes × Except PacketError Unit :=
  let largestAcked := (c.spaces.get kind).largestAcked
  match kind with
  | .application =>
    buildShortPacket P out
      { dcid := c.peerCid, packetNumber := pn, largestAcked := largestAcked
        keyPhase := c.keyUpdate.keyPhase }
      payload keys.packet keys.header
  | .initial =>
    buildLongPacket P out
      { longType := .initial, version := quicV1, dcid := c.peerCid, scid := c.localCid
        token := token, packetNumber := pn, largestAcked := largestAcked }
      payload keys.packet keys.header
  | .handshake =>
    buildLongPacket P out
      { longType := .handshake, version := quicV1, dcid := c.peerCid, scid := c.localCid
        token := [], packetNumber := pn, largestAcked := largestAcked }
      payload keys.packet keys.header

/-- Whether a packet counts against the congestion window: path MTU probes do not. -/
def countsInFlight (frames : List SentFrame) (ackEliciting : Bool) : Bool :=
  if frames.any (·.isMtuProbe) then false else ackEliciting

/-- Charge congestion control for a packet that counts. -/
def charge (cc : CongestionController P.Real) (inFlight : Bool) (sentBytes : Nat) (now : Time) :
    CongestionController P.Real × Option RateSample :=
  if inFlight then cc.onPacketSent sentBytes now else (cc, none)

/-- Count a packet that was built, charge congestion control and remember the packet. -/
def recordSent (c : Connection P) (kind : SpaceKind) (now : Time) (pn sentBytes : Nat)
    (frames : List SentFrame) (ackEliciting : Bool) : Connection P :=
  let inFlight := countsInFlight frames ackEliciting
  let charged := charge c.congestion inFlight sentBytes now
  let c := { c with
    stats := { c.stats with
      packetsSent := c.stats.packetsSent + 1, bytesSent := c.stats.bytesSent + sentBytes }
    congestion := charged.1 }
  if ackEliciting || !frames.isEmpty then
    { c with
      sentPackets := c.sentPackets.set kind ((c.sentPackets.get kind).onPacketSent
        { packetNumber := pn, timeSent := now, ackEliciting := ackEliciting, inFlight := inFlight
          sentBytes := sentBytes, frames := frames, rateSample := charged.2 }) }
  else c

/-- Seal a filled packet under the next number of its space and record it. -/
def sealFilled (f : Filling P) (now : Time) (kind : SpaceKind) (out : Bytes) :
    Connection P × Bytes × Bool :=
  let c := f.conn.beforeSeal kind now
  let pn := (c.spaces.get kind).nextPacketNumber
  match (c.spaces.get kind).localKeys with
  | none => (c.allocate kind, out, false)
  | some keys =>
    let c := (c.allocate kind).log (.sealed (c.keyLabel kind) keys.packet pn)
    let built := c.buildPacket kind (c.retry.retryToken.getD []) keys pn out f.payload
    match built.2 with
    | .error _ => (c, built.1, false)
    | .ok () =>
      ((c.recordSent kind now pn (built.1.length - out.length) f.frames f.ackEliciting).log
        (.sent c.path.peerAddr kind f.placed), built.1, true)

/-- Write a packet of a space, if there is room and something to say. -/
def writeSpacePacket (c : Connection P) (now : Time) (kind : SpaceKind) (out : Bytes) :
    Connection P × Bytes × Bool :=
  let remaining := c.datagramBudget kind - out.length
  if remaining < 64 then (c, out, false)
  else
    let f := c.fillPayload kind remaining
    if f.payload.isEmpty then (f.conn, out, false) else sealFilled f now kind out

/-! ## 0-RTT and closing -/

/-- The frames of the 0-RTT packet: all early data, each piece at offset zero. -/
def earlyFrames (c : Connection P) : List Frame :=
  c.zeroRtt.earlyDataBuf.map fun e => .stream e.1 0 e.2.2 e.2.1

def writeZeroRttPacket (c : Connection P) (out : Bytes) : Connection P × Bytes × Bool :=
  if c.role ≠ .client || c.hs.oneRttReady || c.zeroRtt.earlyDataBuf.isEmpty || c.zeroRtt.sent then
    (c, out, false)
  else
    match c.zeroRtt.keys with
    | none => (c, out, false)
    | some keys =>
      let payload := c.earlyFrames.flatMap Frame.encode
      if payload.isEmpty then (c, out, false)
      else
        let pn := c.spaces.application.nextPacketNumber
        let c := (c.allocate .application).log (.sealed .application keys.packet pn)
        let built := buildLongPacket P out
          { longType := .zeroRtt, version := quicV1, dcid := c.peerCid, scid := c.localCid
            token := [], packetNumber := pn
            largestAcked := c.spaces.application.largestAcked }
          payload keys.packet keys.header
        match built.2 with
        | .error _ => (c, built.1, false)
        | .ok () =>
          ({ c with
              stats := { c.stats with
                packetsSent := c.stats.packetsSent + 1
                bytesSent := c.stats.bytesSent + (built.1.length - out.length) }
              zeroRtt := { c.zeroRtt with sent := true } }.log
            (.sent c.path.peerAddr .application c.earlyFrames), built.1, true)

/-- The space that carries the closing packet. -/
def closeSpace (c : Connection P) : SpaceKind :=
  if c.hs.oneRttReady then .application
  else if c.hs.handshakeKeysReady then .handshake
  else .initial

/-- Take the pending close, a transport error before an application's. -/
def takeClose (c : Connection P) : Connection P × Option Frame :=
  match c.closing.pendingTransportClose with
  | some (code, reason) =>
    ({ c with closing := { c.closing with pendingTransportClose := none } },
      some (.connectionClose code.toU64 (some 0) false reason))
  | none =>
    match c.closing.pendingClose with
    | some (code, reason) =>
      ({ c with closing := { c.closing with pendingClose := none } },
        some (.connectionClose code none true reason))
    | none => (c, none)

/-- Write a packet with the pending close. -/
def emitClose (c : Connection P) (out : Bytes) : Connection P × Bytes × Option SocketAddr :=
  let kind := c.closeSpace
  let taken := c.takeClose
  let c := taken.1
  match taken.2 with
  | none => (c, out, none)
  | some frame =>
    let pn := (c.spaces.get kind).nextPacketNumber
    match (c.spaces.get kind).localKeys with
    | none => (c.allocate kind, out, none)
    | some keys =>
      let c := (c.allocate kind).log (.sealed (c.keyLabel kind) keys.packet pn)
      let built := c.buildPacket kind [] keys pn out frame.encode
      match built.2 with
      | .error _ => (c, built.1, none)
      | .ok () => (c.log (.sent c.path.peerAddr kind [frame]), built.1, some c.path.peerAddr)

/-! ## A datagram -/

/-- Raise a stream's receive limit if enough of its window was consumed. -/
def advanceStreamRecvFlow (c : Connection P) (id : Nat) : Connection P :=
  match c.flow.streamRecvFlow.get? id with
  | none => c
  | some flow =>
    let updated := flow.maybeUpdate
    { c with flow := { c.flow with
        streamRecvFlow := c.flow.streamRecvFlow.insert id updated.1
        pendingMaxStreamData := match updated.2 with
          | some max => c.flow.pendingMaxStreamData.insert id max
          | none => c.flow.pendingMaxStreamData } }

def advanceRecvFlow (c : Connection P) : Connection P :=
  let updated := c.flow.recvFlow.maybeUpdate
  let c := { c with flow := { c.flow with
    recvFlow := updated.1
    pendingMaxData := match updated.2 with
      | some max => some max
      | none => c.flow.pendingMaxData } }
  c.flow.streamRecvFlow.keys.foldl advanceStreamRecvFlow c

/-- Write a packet of a space if a condition holds. -/
def writeIf (cond : Bool) (c : Connection P) (now : Time) (kind : SpaceKind) (out : Bytes) :
    Connection P × Bytes × Bool :=
  if cond then c.writeSpacePacket now kind out else (c, out, false)

def writeInitial (c : Connection P) (now : Time) (out : Bytes) : Connection P × Bytes × Bool :=
  writeIf (c.spaces.initial.hasKeys && c.spaceHasOutput .initial) c now .initial out

def writeHandshake (c : Connection P) (now : Time) (out : Bytes) : Connection P × Bytes × Bool :=
  writeIf (c.hs.handshakeKeysReady && c.spaceHasOutput .handshake) c now .handshake out

/-- Early data goes out with an Initial packet. -/
def writeEarly (wroteInitial : Bool) (c : Connection P) (out : Bytes) :
    Connection P × Bytes × Bool :=
  if wroteInitial && !c.hs.oneRttReady then c.writeZeroRttPacket out else (c, out, false)

/-- A 1-RTT packet does not share a datagram with an Initial one. -/
def writeApplication (wroteInitial : Bool) (c : Connection P) (now : Time) (out : Bytes) :
    Connection P × Bytes × Bool :=
  writeIf (!wroteInitial && c.hs.oneRttReady && c.appSpaceMaySend) c now .application out

/-- Pad a client's Initial datagram. -/
def padInitial (start : Nat) (out : Bytes) : Bytes :=
  if out.length - start < minInitialDatagram then
    out ++ List.replicate (start + minInitialDatagram - out.length) 0
  else out

/-- Write the packets of the next datagram. -/
def writeDatagram (c : Connection P) (now : Time) (out : Bytes) :
    Connection P × Bytes × Option SocketAddr :=
  let start := out.length
  let ini := c.writeInitial now out
  let hs := ini.1.writeHandshake now ini.2.1
  let early := writeEarly ini.2.2 hs.1 hs.2.1
  let app := writeApplication ini.2.2 early.1 now early.2.1
  let c := app.1
  if ini.2.2 || hs.2.2 || early.2.2 || app.2.2 then
    let out := if c.role = .client && ini.2.2 then padInitial start app.2.1 else app.2.1
    ((c.armIdleTimer now).setLossDetectionTimer, out, some c.path.peerAddr)
  else (c, app.2.1.take start, none)

/-- Write the next datagram, if any, and say where it goes. -/
def pollTransmit (c : Connection P) (now : Time) (out : Bytes) :
    Connection P × Bytes × Option SocketAddr :=
  let c := c.pumpWriteHs
  if c.state = .closed then (c, out, none)
  else if c.closing.pendingTransportClose.isSome || c.closing.pendingClose.isSome then
    let closed := c.emitClose out
    match closed.2.2 with
    | some addr => ({ closed.1 with state := .closed }, closed.2.1, some addr)
    | none => closed.1.advanceRecvFlow.writeDatagram now closed.2.1
  else c.advanceRecvFlow.writeDatagram now out

/-! ## What writing a packet leaves -/

theorem writeIf_cases {I : Connection P × Bytes × Bool → Prop} {cond : Bool} {c : Connection P}
    {now : Time} {kind : SpaceKind} {out : Bytes} (hnone : I (c, out, false))
    (hfill : ∀ budget, cond = true → I (if (c.fillPayload kind budget).payload.isEmpty then
      ((c.fillPayload kind budget).conn, out, false)
      else sealFilled (c.fillPayload kind budget) now kind out)) :
    I (writeIf cond c now kind out) := by
  simp only [writeIf, writeSpacePacket]
  split
  · split
    · exact hnone
    · exact hfill _ ‹_›
  · exact hnone

/-- When a client writes its early data. -/
structure WritesEarly (c : Connection P) (keys : DirectionalKeys P.PacketKey P.HeaderKey) :
    Prop where
  role : c.role = .client
  oneRttReady : c.hs.oneRttReady = false
  buffered : c.zeroRtt.earlyDataBuf ≠ []
  unsent : c.zeroRtt.sent = false
  keys : c.zeroRtt.keys = some keys

/-- A 0-RTT packet takes a number, whether or not it can be built. -/
theorem writeEarly_cases {I : Connection P × Bytes × Bool → Prop} {wroteInitial : Bool}
    {c : Connection P} {out : Bytes} (hnone : I (c, out, false))
    (hfailed : ∀ {keys} buf, wroteInitial = true → c.WritesEarly keys →
      I ((c.allocate .application).log (.sealed .application keys.packet
        c.spaces.application.nextPacketNumber), buf, false))
    (hsent : ∀ {keys} stats buf, wroteInitial = true → c.WritesEarly keys →
      I (({ (c.allocate .application).log (.sealed .application keys.packet
          c.spaces.application.nextPacketNumber) with
          stats := stats, zeroRtt := { c.zeroRtt with sent := true } } : Connection P).log
        (.sent c.path.peerAddr .application c.earlyFrames), buf, true)) :
    I (writeEarly wroteInitial c out) := by
  cases wroteInitial with
  | false => exact hnone
  | true =>
    simp only [writeEarly, writeZeroRttPacket]
    split
    · split
      · exact hnone
      rename_i hguard
      simp only [Bool.or_eq_true, not_or, Bool.not_eq_true, decide_eq_false_iff_not, ne_eq, not_not,
        List.isEmpty_eq_false_iff] at hguard
      obtain ⟨⟨⟨hrole, hready⟩, hbuffered⟩, hunsent⟩ := hguard
      split
      · exact hnone
      rename_i keys hkeys
      split
      · exact hnone
      have hearly : c.WritesEarly keys := ⟨hrole, hready, hbuffered, hunsent, hkeys⟩
      split
      · exact hfailed _ rfl hearly
      · exact hsent _ _ rfl hearly
    · exact hnone

theorem takeClose_conn (c : Connection P) :
    ∃ closing, c.takeClose.1 = { c with closing := closing } := by
  simp only [takeClose]
  split
  · exact ⟨_, rfl⟩
  split
  · exact ⟨_, rfl⟩
  · exact ⟨c.closing, rfl⟩

theorem emitClose_conn (c : Connection P) (out : Bytes) :
    ∃ spaces new, (c.emitClose out).1 = { c with
        closing := c.takeClose.1.closing, spaces := spaces, trace := new ++ c.trace } ∧
      (spaces = c.spaces ∨ spaces = (c.allocate c.closeSpace).spaces) ∧
      ∀ e ∈ new, (∃ label key pn, e = .sealed label key pn) ∨
        ∃ dest kind frame, c.takeClose.2 = some frame ∧ e = .sent dest kind [frame] := by
  obtain ⟨closing, htaken⟩ := takeClose_conn c
  simp only [emitClose, htaken]
  split
  · exact ⟨_, [], rfl, .inl rfl, List.forall_mem_nil _⟩
  rename_i hframe
  split
  · exact ⟨_, [], rfl, .inr rfl, List.forall_mem_nil _⟩
  split
  · exact ⟨_, [_], rfl, .inr rfl, List.forall_mem_singleton.mpr (.inl ⟨_, _, _, rfl⟩)⟩
  · exact ⟨_, [_, _], rfl, .inr rfl, List.forall_mem_cons.mpr ⟨.inr ⟨_, _, _, hframe, rfl⟩,
      List.forall_mem_singleton.mpr (.inl ⟨_, _, _, rfl⟩)⟩⟩

end Connection

end OxiQuic
