import OxiQuic.Connection.Handshake

/-!
# The application's interface

Opening, writing, reading and resetting streams, datagrams, closing, key updates and paths
(`oxiquic-transport/src/connection/streams.rs`, `keys_path.rs`, `mod.rs`).
-/

namespace OxiQuic

variable {P : Platform}

/-- The initiator bit of the streams a role opens. -/
def Role.initiator : Role → Initiator
  | .client => .client
  | .server => .server

namespace Connection

/-! ## Streams -/

/-- The identifier of the next bidirectional stream. -/
def nextBidi (c : Connection P) : StreamId :=
  StreamId.new c.role.initiator .bidirectional c.opened.nextBidiIndex

/-- The identifier of the next unidirectional stream. -/
def nextUni (c : Connection P) : StreamId :=
  StreamId.new c.role.initiator .unidirectional c.opened.nextUniIndex

/-- Open a bidirectional stream.  A limit of zero is no limit. -/
def openBidi (c : Connection P) : Connection P × Except OxiQuicError StreamId :=
  let limit := c.limits.bidi.peerMaxStreams
  if 0 < limit ∧ limit ≤ c.opened.nextBidiIndex then
    ({ c with limits := { c.limits with
        bidi := { c.limits.bidi with pendingStreamsBlocked := some limit } } },
      .error (.stream s!"bidirectional stream limit reached ({limit})"))
  else
    let id := c.nextBidi
    ({ c with
        opened := { c.opened with nextBidiIndex := c.opened.nextBidiIndex + 1 }
        sendStreams := c.sendStreams.insert id {}
        inbound := { c.inbound with streams := c.inbound.streams.insert id {} }
        flow := { c.flow with
          streamSendFlow := c.flow.streamSendFlow.insert id (.new c.peerInitialStreamLimit)
          streamRecvFlow := c.flow.streamRecvFlow.insert id
            (.new c.flow.localInitialMaxStreamData) } }.log (.opened id), .ok id)

/-- Open a unidirectional stream, which has no receive half. -/
def openUni (c : Connection P) : Connection P × Except OxiQuicError StreamId :=
  let limit := c.limits.uni.peerMaxStreams
  if 0 < limit ∧ limit ≤ c.opened.nextUniIndex then
    ({ c with limits := { c.limits with
        uni := { c.limits.uni with pendingStreamsBlocked := some limit } } },
      .error (.stream s!"unidirectional stream limit reached ({limit})"))
  else
    let id := c.nextUni
    ({ c with
        opened := { c.opened with nextUniIndex := c.opened.nextUniIndex + 1 }
        sendStreams := c.sendStreams.insert id {}
        flow := { c.flow with
          streamSendFlow := c.flow.streamSendFlow.insert id (.new c.peerInitialStreamLimit) } }.log
        (.opened id), .ok id)

def unknownStream (stream : StreamId) : OxiQuicError :=
  let name := StreamId.display stream
  .stream s!"unknown stream {name}"

/-- Write to a stream. -/
def sendStream (c : Connection P) (stream : StreamId) (data : Bytes) (fin : Bool) :
    Connection P × Except OxiQuicError Unit :=
  match c.sendStreams.get? stream with
  | none => (c, .error (unknownStream stream))
  | some s =>
    ({ c with sendStreams := c.sendStreams.insert stream (s.write data fin) }.log
      (.wrote stream data fin), .ok ())

/-- Why a stream cannot be read. -/
def readError (stream : StreamId) (e : StreamError) : OxiQuicError :=
  let name := StreamId.display stream
  match e with
  | .reset code => .stream s!"stream {name} was reset by peer: error_code={code}"
  | .finalSize => .stream s!"stream {name} final-size violation"

/-- Read what is readable of a stream, and whether its end was reached. -/
def readStream (c : Connection P) (stream : StreamId) :
    Connection P × Except OxiQuicError (Bytes × Bool) :=
  match c.inbound.streams.get? stream with
  | none => (c, .error (unknownStream stream))
  | some s =>
    let checked := s.readChecked
    let c := { c with inbound := { c.inbound with
      streams := c.inbound.streams.insert stream checked.1 } }
    match checked.2 with
    | .error e => (c, .error (readError stream e))
    | .ok (bytes, fin) =>
      if bytes.isEmpty then (c, .ok (bytes, fin))
      else
        ({ c with flow := { c.flow with
            recvFlow := c.flow.recvFlow.onDataConsumed bytes.length
            streamRecvFlow := c.flow.streamRecvFlow.modify stream
              (·.onDataConsumed bytes.length) } }, .ok (bytes, fin))

def pollReadable (c : Connection P) : Connection P × Option StreamId :=
  match c.inbound.readable with
  | [] => (c, none)
  | id :: rest => ({ c with inbound := { c.inbound with readable := rest } }, some id)

def pollNewPeerStream (c : Connection P) : Connection P × Option StreamId :=
  match c.inbound.newPeerStreams with
  | [] => (c, none)
  | id :: rest => ({ c with inbound := { c.inbound with newPeerStreams := rest } }, some id)

/-- Abandon the send half of a stream. -/
def resetStream (c : Connection P) (stream : StreamId) (errorCode : Nat) :
    Connection P × Except OxiQuicError Unit :=
  match c.sendStreams.get? stream with
  | none => (c, .error (unknownStream stream))
  | some s =>
    ({ c with
        sendStreams := c.sendStreams.insert stream (s.reset errorCode)
        resets := { c.resets with
          pendingResetStreams :=
            c.resets.pendingResetStreams.insert stream (errorCode, s.finalSize) } }.log
        (.reset stream), .ok ())

/-- Ask the peer to stop sending on a stream. -/
def stopSending (c : Connection P) (stream : StreamId) (errorCode : Nat) :
    Connection P × Except OxiQuicError Unit :=
  match c.inbound.streams.get? stream with
  | none => (c, .error (unknownStream stream))
  | some _ =>
    ({ c with resets := { c.resets with
        pendingStopSending := c.resets.pendingStopSending.insert stream errorCode } }, .ok ())

def hasPendingStreamData (c : Connection P) : Bool := c.sendStreams.values.any (·.hasPending)

def bytesInFlight (c : Connection P) : Nat := c.congestion.bytesInFlight

/-! ## Datagrams, early data and closing -/

def sendDatagram (c : Connection P) (data : Bytes) : Connection P × Except OxiQuicError Unit :=
  let limit := c.datagrams.peerMaxDatagramFrameSize
  if limit = 0 then (c, .error (.connection "peer does not support datagrams"))
  else if data.length > limit then
    (c, .error (.connection s!"datagram {data.length} bytes exceeds peer max {limit}"))
  else
    ({ c with datagrams := { c.datagrams with sendQueue := c.datagrams.sendQueue ++ [data] } },
      .ok ())

def recvDatagram (c : Connection P) : Connection P × Option Bytes :=
  match c.datagrams.recvQueue with
  | [] => (c, none)
  | data :: rest => ({ c with datagrams := { c.datagrams with recvQueue := rest } }, some data)

/-- Take the token of a `NEW_TOKEN` frame. -/
def takeReceivedToken (c : Connection P) : Connection P × Option Bytes :=
  ({ c with tokens := { c.tokens with received := none } }, c.tokens.received)

def popCidEvent (c : Connection P) : Connection P × Option CidEvent :=
  match c.cids.pendingCidEvents with
  | [] => (c, none)
  | event :: rest => ({ c with cids := { c.cids with pendingCidEvents := rest } }, some event)

/-- Queue data for 0-RTT, or write it if the handshake is over. -/
def queueEarlyData (c : Connection P) (stream : StreamId) (data : Bytes) (fin : Bool) :
    Connection P :=
  if c.hs.handshakeComplete then c.replayEarlyData (stream, data, fin)
  else
    { c with zeroRtt := { c.zeroRtt with
        earlyDataBuf := c.zeroRtt.earlyDataBuf ++ [(stream, data, fin)] } }

/-- The timer is armed when something arrives or is sent. -/
def setKeepAliveInterval (c : Connection P) (interval : Option Time) : Connection P :=
  { c with timers := { c.timers with keepAliveInterval := interval } }

def close (c : Connection P) (errorCode : Nat) (reason : Bytes) : Connection P :=
  if c.state = .closed then c
  else
    { c with
      closing := { c.closing with pendingClose := some (errorCode, reason) }
      state := .closing }

/-! ## Key updates -/

/-- Move the application space to the next epoch, if its keys are there. -/
def rotateKeys (c : Connection P) (retireAfter : Time) : Connection P :=
  match c.keyUpdate.oneRttSecrets with
  | none => c
  | some secrets =>
    let newNext := P.nextPacketKeys secrets
    let c := { c with keyUpdate := { c.keyUpdate with oneRttSecrets := some newNext.2 } }
    match c.keyUpdate.nextOneRttKeys with
    | none => c
    | some nextEpoch =>
      let rotated := c.spaces.application.rotateToNextEpoch nextEpoch
      { c with
        spaces := { c.spaces with application := rotated.1 }
        keyUpdate := { c.keyUpdate with
          prevOneRttKeys := match rotated.2 with
            | some oldRemote => some (oldRemote, retireAfter)
            | none => c.keyUpdate.prevOneRttKeys
          nextOneRttKeys := some newNext.1 } }

/-- Rotating the keys replaces those there are. -/
theorem rotateKeys_conn (c : Connection P) (retireAfter : Time) :
    ∃ keyUpdate keys, keys.isSome = c.spaces.application.keys.isSome ∧
      c.rotateKeys retireAfter = { c with
        keyUpdate := keyUpdate
        spaces := { c.spaces with application := { c.spaces.application with keys := keys } } } := by
  simp only [rotateKeys]
  split
  · exact ⟨c.keyUpdate, _, rfl, rfl⟩
  split
  · exact ⟨_, c.spaces.application.keys, rfl, rfl⟩
  · simp only [PacketSpace.rotateToNextEpoch]
    split <;> exact ⟨_, _, by simp only [*, Option.isSome], rfl⟩

/-- Follow a key update of the peer. -/
def performKeyUpdate (c : Connection P) (now : Time) : Connection P :=
  let retireAfter := now + c.recovery.rtt.ptoBase c.recovery.peerMaxAckDelay * 3
  let c := c.rotateKeys retireAfter
  { c with keyUpdate := { c.keyUpdate with
      keyPhase := !c.keyUpdate.keyPhase
      keyUpdateReceived := true
      keyUpdateCount := c.keyUpdate.keyUpdateCount + 1
      keyUpdateCooldown := some retireAfter } }

/-- Ask for a key update with the next packet. -/
def initiateKeyUpdate (c : Connection P) (now : Time) : Connection P × Bool :=
  let cooling := match c.keyUpdate.keyUpdateCooldown with
    | some cooldown => decide (now < cooldown)
    | none => false
  if cooling || !c.hs.oneRttReady || c.keyUpdate.nextOneRttKeys.isNone then (c, false)
  else ({ c with keyUpdate := { c.keyUpdate with keyUpdatePending := true } }, true)

/-- Carry out a key update of our own. -/
def initiateKeyUpdateNow (c : Connection P) (now : Time) : Connection P :=
  let retireAfter := now + c.recovery.rtt.ptoBase c.recovery.peerMaxAckDelay * 3
  let c := { c with keyUpdate := { c.keyUpdate with keyUpdatePending := false } }.rotateKeys
    retireAfter
  { c with keyUpdate := { c.keyUpdate with
      keyPhase := !c.keyUpdate.keyPhase
      keyUpdateCount := c.keyUpdate.keyUpdateCount + 1
      keyUpdateCooldown := some retireAfter } }

/-! ## Paths -/

/-- Send a fresh nonce and wait for its echo. -/
def initiatePathChallenge (c : Connection P) : Connection P × Except OxiQuicError Unit :=
  if !c.hs.oneRttReady then
    (c, .error (.connection "cannot send PATH_CHALLENGE before 1-RTT keys are ready"))
  else
    let filled := P.fill c.os 8
    let c := { c with os := filled.1 }
    match filled.2 with
    | none => (c, .error (.connection "secure RNG failed"))
    | some nonce =>
      ({ c with path := { c.path with
          pendingPathChallenge := some nonce
          pendingPathChallengeSend := true
          pathValidated := false } }, .ok ())

/-- Note where the peer seems to have moved, and drop any challenge under way. -/
def setCandidatePeerAddr (c : Connection P) (addr : SocketAddr) : Connection P :=
  { c with path := { c.path with
      candidatePeerAddr := some addr
      pendingPathChallenge := none
      pendingPathChallengeSend := false
      pathValidated := false } }

def addPath (c : Connection P) (remoteAddr : SocketAddr) (cid : Option ConnectionId) :
    Connection P × Except OxiQuicError Nat :=
  let added := c.multipath.addPath remoteAddr cid
  ({ c with multipath := added.1 }, added.2)

def setPreferredPath (c : Connection P) (index : Nat) : Connection P × Except OxiQuicError Unit :=
  let preferred := c.multipath.setPreferredPath index
  let c := { c with multipath := preferred.1 }
  match preferred.2 with
  | .error e => (c, .error e)
  | .ok addr => ({ c with path := { c.path with peerAddr := addr } }, .ok ())

end Connection

end OxiQuic
