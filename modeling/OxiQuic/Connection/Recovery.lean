import OxiQuic.Connection.Handshake

/-!
# Acknowledgements and loss

How acknowledgements, loss detection and probe timeouts act on a connection
(`oxiquic-transport/src/connection/recovery.rs`), and what the timers do.
-/

namespace OxiQuic

variable {P : Platform}

/-- The space that packets of a type belong to. -/
def spaceIndex (packetType : PacketType) : SpaceKind :=
  match packetType with
  | .initial => .initial
  | .handshake => .handshake
  | _ => .application

/-- Queue a lost `MAX_STREAMS`, unless one as large is pending. -/
def StreamLimit.requeueMaxStreams (l : StreamLimit) (max : Nat) : StreamLimit :=
  let raise := match l.pendingMaxStreams with
    | some existing => decide (max > existing)
    | none => true
  if raise then { l with pendingMaxStreams := some max } else l

def StreamLimits.modify (l : StreamLimits) (dir : Direction) (f : StreamLimit → StreamLimit) :
    StreamLimits :=
  match dir with
  | .bidirectional => { l with bidi := f l.bidi }
  | .unidirectional => { l with uni := f l.uni }

/-- Taking packets out of one space leaves only packets that were tracked before. -/
theorem get?_of_takes {stores : PerSpace SentPackets} {idx : SpaceKind} {store : SentPackets}
    {out : List SentPacket} (h : (stores.get idx).Takes store out) (kind : SpaceKind) (pn : Nat)
    (p : SentPacket) (hp : ((stores.set idx store).get kind).sent.get? pn = some p) :
    (stores.get kind).sent.get? pn = some p := by
  by_cases hkind : kind = idx
  · subst hkind
    rw [PerSpace.get_set_self] at hp
    exact h.left hp
  · rwa [PerSpace.get_set_of_ne _ _ hkind] at hp

namespace Connection

/-- Queue what a lost or probed packet carried once more. -/
def requeueFrame (c : Connection P) (idx : SpaceKind) (frame : SentFrame) : Connection P :=
  match frame with
  | .crypto offset data =>
    if idx = .handshake then
      { c with handshakeCrypto := c.handshakeCrypto.requeue ⟨offset, data⟩ }
    else { c with initialCrypto := c.initialCrypto.requeue ⟨offset, data⟩ }
  | .stream id offset fin data =>
    { c with sendStreams := c.sendStreams.modify id (·.requeue ⟨offset, data, fin⟩) }
  | .ping => c
  | .mtuProbe _ => c
  | .newConnectionId seq _ cid statelessResetToken =>
    let pool := c.cids.localCidPool
    { c with cids := { c.cids with localCidPool := { pool with
        pendingNew := pool.pendingNew ++ [⟨seq, cid, statelessResetToken⟩] } } }
  | .retireConnectionId seq =>
    let pool := c.cids.peerCidPool
    { c with cids := { c.cids with peerCidPool := { pool with
        pendingRetire := pool.pendingRetire ++ [seq] } } }
  | .maxStreams dir max =>
    { c with limits := c.limits.modify dir (·.requeueMaxStreams max) }
  | .streamsBlocked dir limit =>
    { c with limits := c.limits.modify dir ({ · with pendingStreamsBlocked := some limit }) }
  | .newToken token =>
    if c.tokens.pendingNew.isNone then
      { c with tokens := { c.tokens with pendingNew := some token } }
    else c

/-- What becomes of one frame of a lost packet. -/
def onFrameLost (c : Connection P) (idx : SpaceKind) (frame : SentFrame) : Connection P :=
  match frame with
  | .mtuProbe _ => { c with mtu := c.mtu.onMtuProbeLost }
  | frame => c.requeueFrame idx frame

def earliestAckElicitingAcrossSpaces (c : Connection P) : Option Time :=
  earliestOf ([c.sentPackets.initial, c.sentPackets.handshake,
    c.sentPackets.application].filterMap (·.earliestAckElicitingTime))

def setLossDetectionTimer (c : Connection P) : Connection P :=
  let timer := match c.recovery.loss.earliestLossTime with
    | some (lossTime, _) => some lossTime
    | none =>
      match c.earliestAckElicitingAcrossSpaces with
      | some sentTime =>
        some (c.recovery.loss.ptoDeadline sentTime
          (c.recovery.rtt.ptoBase c.recovery.peerMaxAckDelay))
      | none => none
  { c with recovery := { c.recovery with lossTimer := timer } }

/-- Tell congestion control of lost packets. -/
def onPacketsLost (c : Connection P) (lost : List SentPacket) (now : Time) : Connection P :=
  let inFlight := lost.filter (·.inFlight)
  let lostBytes := (inFlight.map (·.sentBytes)).sum
  match largestOf (inFlight.map (·.timeSent)), earliestOf (inFlight.map (·.timeSent)) with
  | some newest, some oldest =>
    let congestion := c.congestion.onPacketsLost lostBytes newest now
    let ptoBase := c.recovery.rtt.ptoBase c.recovery.peerMaxAckDelay
    { c with
      congestion :=
        if isPersistentCongestion oldest newest ptoBase then congestion.onPersistentCongestion
        else congestion }
  | _, _ => c

/-- Detect losses in a space, queue what was lost and tell congestion control. -/
def detectAndHandleLoss (c : Connection P) (idx : SpaceKind) (now : Time) : Connection P :=
  let detected := (c.sentPackets.get idx).detectLost now c.recovery.rtt.lossDelay
  let lost := detected.2.1
  let c := { c with
    sentPackets := c.sentPackets.set idx detected.1
    recovery := { c.recovery with loss := c.recovery.loss.setLossTime idx detected.2.2 } }
  if lost.isEmpty then c
  else
    let c := { c with
      stats := { c.stats with packetsLost := c.stats.packetsLost + lost.length } }
    let c := (lost.flatMap (·.frames)).foldl (fun c frame => c.onFrameLost idx frame) c
    (c.onPacketsLost lost now).logAll (lost.map (.lost idx))

/-- The acknowledgement delay in an `ACK`, scaled as the peer announced. -/
def decodeAckDelay (c : Connection P) (delay : Nat) : Time :=
  let exponent := match c.hs.peerParams with
    | some p => p.ackDelayExponent
    | none => 3
  min (delay * 2 ^ min exponent 20) u64Max * 1000

/-- Take an RTT sample from the largest packet if it is newly acknowledged. -/
def sampleRtt (c : Connection P) (idx : SpaceKind) (outcome : AckOutcome) (largest delay : Nat)
    (now : Time) : Connection P :=
  if outcome.largestNewlyAcked = some largest then
    match outcome.newlyAcked.find? (·.packetNumber == largest) with
    | none => c
    | some sent =>
      let maxAckDelay :=
        if idx = .application && c.hs.handshakeDone then c.recovery.peerMaxAckDelay else 0
      { c with recovery := { c.recovery with
          rtt := c.recovery.rtt.update (now - sent.timeSent) (c.decodeAckDelay delay)
            maxAckDelay } }
  else c

/-- Tell congestion control of acknowledged packets. -/
def onPacketsAcked (c : Connection P) (newlyAcked : List SentPacket) (now : Time) :
    Connection P :=
  let acked := (newlyAcked.filter (·.inFlight)).map fun p =>
    ({ bytes := p.sentBytes, sentTime := p.timeSent, rateSample := p.rateSample } : AckedPacket)
  if acked.isEmpty then c else { c with congestion := c.congestion.onPacketsAcked acked now }

/-- A path MTU probe in an acknowledged packet succeeded. -/
def onFrameAcked (now : Time) (c : Connection P) (frame : SentFrame) : Connection P :=
  match frame with
  | .mtuProbe size => { c with mtu := c.mtu.onMtuProbeAcked size now }
  | _ => c

/-- The peer is there: stop probing. -/
def resetProbes (c : Connection P) : Connection P :=
  { c with recovery := { c.recovery with
      loss := c.recovery.loss.resetPtoCount, probesOwed := 0 } }

/-- Process an `ACK` frame. -/
def processAck (c : Connection P) (now : Time) (packetType : PacketType)
    (largest delay firstRange : Nat) (ranges : List AckRange) : Connection P :=
  let idx := spaceIndex packetType
  let acked := (c.sentPackets.get idx).onAck largest firstRange
    (ranges.map fun r => (r.gap, r.range))
  let outcome := acked.2
  let c := { c with
    spaces := c.spaces.set idx ((c.spaces.get idx).onAckReceived largest)
    sentPackets := c.sentPackets.set idx acked.1 }
  if outcome.newlyAcked.isEmpty then c
  else
    let c := (c.sampleRtt idx outcome largest delay now).onPacketsAcked outcome.newlyAcked now
    let c := c.logAll (outcome.newlyAcked.map (.acked idx))
    let c := if outcome.ackedAckEliciting then c.resetProbes else c
    let c := (outcome.newlyAcked.flatMap (·.frames)).foldl (onFrameAcked now) c
    (c.detectAndHandleLoss idx now).setLossDetectionTimer

/-- Queue the frames of the oldest packet of a space for a probe. -/
def requeueOldest (c : Connection P) (idx : SpaceKind) : Connection P :=
  match (c.sentPackets.get idx).oldestAckElicitingFrames with
  | none => c
  | some frames => frames.foldl (fun c frame => c.requeueFrame idx frame) c

def requeueForProbe (c : Connection P) : Connection P :=
  ((c.requeueOldest .initial).requeueOldest .handshake).requeueOldest .application

/-- The probe timeout expired. -/
def onProbeTimeout (c : Connection P) : Connection P :=
  if c.earliestAckElicitingAcrossSpaces.isSome then
    { c with recovery := { c.recovery with
        loss := c.recovery.loss.increasePtoCount
        probesOwed := min (c.recovery.probesOwed + 2) 4 } }.requeueForProbe
  else c

/-- The loss timer expired: detect losses by time, or probe. -/
def onLossTimeout (c : Connection P) (now : Time) : Connection P :=
  match c.recovery.loss.earliestLossTime with
  | some (lossTime, space) =>
    if lossTime ≤ now then (c.detectAndHandleLoss space now).setLossDetectionTimer
    else c.onProbeTimeout.setLossDetectionTimer
  | none => c.onProbeTimeout.setLossDetectionTimer

/-! ## Timers -/

/-- Whether a deadline has passed. -/
def expired (deadline : Option Time) (now : Time) : Bool :=
  match deadline with
  | some d => decide (d ≤ now)
  | none => false

def keepAliveDue (c : Connection P) (now : Time) : Connection P :=
  if expired c.timers.nextKeepAlive now then
    { c with timers := { c.timers with
        pendingKeepAlivePing := true
        nextKeepAlive := match c.timers.keepAliveInterval with
          | some interval => some (now + interval)
          | none => c.timers.nextKeepAlive } }
  else c

def lossTimerDue (c : Connection P) (now : Time) : Connection P :=
  if expired c.recovery.lossTimer now then c.onLossTimeout now else c

def mtuProbeDue (c : Connection P) (now : Time) : Connection P :=
  if expired c.mtu.nextMtuProbe now && c.state = .established then
    { c with mtu := c.mtu.scheduleMtuProbe c.state }
  else c

/-- Act on the timers that have expired.  An idle connection closes and does nothing
else. -/
def handleTimeout (c : Connection P) (now : Time) : Connection P :=
  if expired c.timers.idleDeadline now then
    { c with
      state := .closed
      closing := { c.closing with peerClosed := some (c.closing.peerClosed.getD .idleTimeout) } }
  else ((c.keepAliveDue now).lossTimerDue now).mtuProbeDue now

end Connection

end OxiQuic
