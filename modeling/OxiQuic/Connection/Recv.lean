import OxiQuic.Connection.Recovery
import OxiQuic.Connection.Streams
import OxiQuic.Wire.Packet

/-!
# Receiving

From datagrams to packets to frames (`oxiquic-transport/src/connection/recv.rs`).

Each function returns the connection together with its result, since an error in the
middle of a packet keeps what the frames before it did.
-/

namespace OxiQuic

variable {P : Platform}

/-- The result of a call that changes a connection and can fail. -/
abbrev Outcome (P : Platform) (α : Type) := Connection P × Except OxiQuicError α

/-- Go on with a successful call; an error ends the computation where it is. -/
def Outcome.andThen {α β : Type} (r : Outcome P α) (k : Connection P → α → Outcome P β) :
    Outcome P β :=
  match r.2 with
  | .ok a => k r.1 a
  | .error e => (r.1, .error e)

/-- Whether a frame only concerns connection IDs, tokens, datagrams or the end of the
handshake. -/
def Frame.isMinor : Frame → Bool
  | .handshakeDone | .newConnectionId .. | .retireConnectionId _ | .newToken _ | .datagram _ => true
  | _ => false

namespace Connection

/-! ## Frames -/

/-- Put CRYPTO data into the stream of its level.  Other packets carry none. -/
def takeCrypto (c : Connection P) (packetType : PacketType) (offset : Nat) (data : Bytes) :
    Connection P × Option Bytes :=
  match packetType with
  | .initial =>
    let r := c.initialCrypto.recv offset data
    ({ c with initialCrypto := r.1 }, r.2)
  | .handshake =>
    let r := c.handshakeCrypto.recv offset data
    ({ c with handshakeCrypto := r.1 }, r.2)
  | _ => (c, none)

/-- Hand contiguous handshake bytes to TLS. -/
def readHs (c : Connection P) (bytes : Bytes) : Outcome P Unit :=
  let read := P.readHs c.tls bytes
  ({ c with tls := read.1 }, match read.2 with
    | .ok () => .ok ()
    | .error e => .error (.tls e))

def recvCrypto (c : Connection P) (packetType : PacketType) (offset : Nat) (data : Bytes) :
    Outcome P Unit :=
  let taken := c.takeCrypto packetType offset data
  match taken.2 with
  | none => (taken.1, .ok ())
  | some bytes => taken.1.readHs bytes

/-- Whether the peer opened a stream. -/
def isPeerInitiated (c : Connection P) (id : StreamId) : Bool :=
  StreamId.initiator id ≠ c.role.initiator

/-- Tell the application of a stream that the peer opens. -/
def noteNewPeerStream (c : Connection P) (id : StreamId) : Connection P :=
  if !c.inbound.streams.contains id && c.isPeerInitiated id then
    { c with inbound := { c.inbound with newPeerStreams := c.inbound.newPeerStreams ++ [id] } }
  else c

/-- A bidirectional stream has a send half from the first data received on it. -/
def ensureSendHalf (c : Connection P) (id : StreamId) : Connection P :=
  if StreamId.direction id = .bidirectional then
    { c with
      sendStreams :=
        if c.sendStreams.contains id then c.sendStreams else c.sendStreams.insert id {}
      flow := { c.flow with
        streamSendFlow :=
          if c.flow.streamSendFlow.contains id then c.flow.streamSendFlow
          else c.flow.streamSendFlow.insert id (.new c.peerInitialStreamLimit) } }
  else c

def ensureRecvFlow (c : Connection P) (id : StreamId) : Connection P :=
  { c with flow := { c.flow with
      streamRecvFlow :=
        if c.flow.streamRecvFlow.contains id then c.flow.streamRecvFlow
        else c.flow.streamRecvFlow.insert id (.new c.flow.localInitialMaxStreamData) } }

/-- Bring the state of a stream into being where it is missing. -/
def ensureStream (c : Connection P) (id : StreamId) : Connection P :=
  ((c.noteNewPeerStream id).ensureSendHalf id).ensureRecvFlow id

/-- Stream data.  What arrives on a stream the peer reset is dropped. -/
def recvStream (c : Connection P) (id offset : Nat) (fin : Bool) (data : Bytes) :
    Outcome P Unit :=
  let c := c.ensureStream id
  let s := (c.inbound.streams.get? id).getD {}
  if s.isReset then
    ({ c with inbound := { c.inbound with streams := c.inbound.streams.insert id s } }, .ok ())
  else
    let received := s.recv ⟨offset, data, fin⟩
    let c := { c with inbound := { c.inbound with
      streams := c.inbound.streams.insert id received.1 } }
    match received.2 with
    | .ok true =>
      ({ c with inbound := { c.inbound with readable := c.inbound.readable ++ [id] } }, .ok ())
    | .ok false => (c, .ok ())
    | .error .finalSize =>
      (c, .error (.transportError .finalSizeError none "stream final size violation"))
    | .error (.reset _) => (c, .ok ())

def recvResetStream (c : Connection P) (streamId errorCode : Nat) : Connection P :=
  let s := (c.inbound.streams.get? streamId).getD {}
  { c with inbound := { c.inbound with
      streams := c.inbound.streams.insert streamId (s.applyReset errorCode)
      readable := c.inbound.readable ++ [streamId] } }

/-- The peer wants no more data: reset the stream, under the code of an earlier reset if
there was one. -/
def recvStopSending (c : Connection P) (streamId errorCode : Nat) : Connection P :=
  match c.sendStreams.get? streamId with
  | none => c
  | some s =>
    let effectiveCode := s.resetCode.getD errorCode
    { c with
      sendStreams :=
        if s.isReset then c.sendStreams else c.sendStreams.insert streamId (s.reset effectiveCode)
      resets := { c.resets with
        pendingResetStreams :=
          c.resets.pendingResetStreams.insert streamId (effectiveCode, s.finalSize) } }.log
      (.reset streamId)

def recvMaxStreamData (c : Connection P) (id max : Nat) : Connection P :=
  let credit := (c.flow.streamSendFlow.get? id).getD (.new c.peerInitialStreamLimit)
  { c with flow := { c.flow with
      streamSendFlow := c.flow.streamSendFlow.insert id (credit.onMaxData max) } }

/-- The echo of the outstanding nonce validates the candidate address. -/
def recvPathResponse (c : Connection P) (data : Bytes) : Connection P :=
  if c.path.pendingPathChallenge = some data then
    { c with path := { c.path with
        pathValidated := true
        pendingPathChallenge := none
        peerAddr := c.path.candidatePeerAddr.getD c.path.peerAddr
        candidatePeerAddr := none } }
  else c

/-- A frame that the packet it came in may not carry. -/
def violation (frameType : Option FrameType) (reason : String) : OxiQuicError :=
  .transportError .protocolViolation frameType reason

def recvNewConnectionId (c : Connection P) (packetType : PacketType) (seq retirePriorTo : Nat)
    (cid : ConnectionId) (statelessResetToken : Bytes) : Outcome P Unit :=
  if packetType ≠ .short then
    (c, .error (violation (some .newConnectionId)
      "NEW_CONNECTION_ID received in non-1-RTT packet"))
  else
    let received := c.cids.peerCidPool.receiveNewCid seq retirePriorTo cid statelessResetToken
    let c := { c with cids := { c.cids with peerCidPool := received.1 } }
    match received.2 with
    | .error e => (c, .error e)
    | .ok () =>
      ({ c with cids := { c.cids with
          cidsIssuedThisPacket := seq :: c.cids.cidsIssuedThisPacket } }, .ok ())

def recvRetireConnectionId (c : Connection P) (packetType : PacketType) (seq : Nat) :
    Outcome P Unit :=
  if packetType ≠ .short then
    (c, .error (violation (some .retireConnectionId)
      "RETIRE_CONNECTION_ID received in non-1-RTT packet"))
  else if c.cids.cidsIssuedThisPacket.contains seq then
    (c, .error (violation (some .retireConnectionId)
      "RETIRE_CONNECTION_ID for CID issued in same packet"))
  else
    let retired := c.cids.localCidPool.handlePeerRetirement seq
    match retired.2 with
    | none => (c, .ok ())
    | some cid =>
      let c := { c with cids := { c.cids with
        localCidPool := retired.1
        pendingCidEvents := c.cids.pendingCidEvents ++ [CidEvent.unregister cid] } }
      (c.maybeIssueNewCid.1, .ok ())

def recvClose (c : Connection P) (errorCode : Nat) (application : Bool) (reason : Bytes) :
    Connection P :=
  let reason := P.utf8Lossy reason
  { c with
    closing := { c.closing with
      peerClosed := some
        (if application then .applicationClose errorCode reason
         else .transportError (.fromU64 errorCode) none reason) }
    state := .closed }

def raisePeerMaxStreams (max : Nat) (l : StreamLimit) : StreamLimit :=
  if max > l.peerMaxStreams then { l with peerMaxStreams := max } else l

/-- Offer more streams if some were closed since the last offer. -/
def raiseMaxStreams (l : StreamLimit) : StreamLimit :=
  let newMax := l.localMaxStreams + l.closedPeer
  if newMax > l.sentMaxStreams then { l with pendingMaxStreams := some newMax } else l

def recvNewToken (c : Connection P) (packetType : PacketType) (token : Bytes) : Outcome P Unit :=
  if c.role = .server then
    (c, .error (violation (some .newToken) "server received NEW_TOKEN"))
  else if packetType ≠ .short then
    (c, .error (violation (some .newToken) "NEW_TOKEN in non-1-RTT packet"))
  else ({ c with tokens := { c.tokens with received := some token } }, .ok ())

/-- Queue a datagram for the application.  When the buffer overflows the oldest one goes. -/
def recvDatagramFrame (c : Connection P) (data : Bytes) : Outcome P Unit :=
  let limit := c.datagrams.localMaxDatagramFrameSize
  if limit = 0 then
    (c, .error (violation none "received DATAGRAM but local max_datagram_frame_size is 0"))
  else if data.length > limit then
    (c, .error (violation none s!"DATAGRAM {data.length} bytes exceeds local max {limit}"))
  else
    let queue := c.datagrams.recvQueue
    let total := (queue.map List.length).sum + data.length
    let queue := if total > c.datagrams.recvBufferLimit then queue.tail else queue
    ({ c with datagrams := { c.datagrams with recvQueue := queue ++ [data] } }, .ok ())

/-- Act on one frame. -/
def handleFrame (c : Connection P) (now : Time) (packetType : PacketType) (frame : Frame) :
    Outcome P Unit :=
  match frame with
  | .padding _ => (c, .ok ())
  | .ping => (c, .ok ())
  | .ack largest delay firstRange ranges =>
    (c.processAck now packetType largest delay firstRange ranges, .ok ())
  | .resetStream streamId errorCode _ => (c.recvResetStream streamId errorCode, .ok ())
  | .stopSending streamId errorCode => (c.recvStopSending streamId errorCode, .ok ())
  | .crypto offset data => c.recvCrypto packetType offset data
  | .stream id offset fin data => c.recvStream id offset fin data
  | .maxData max =>
    ({ c with flow := { c.flow with sendFlow := c.flow.sendFlow.onMaxData max } }, .ok ())
  | .maxStreamData id max => (c.recvMaxStreamData id max, .ok ())
  | .dataBlocked _ => (c, .ok ())
  | .streamDataBlocked _ _ => (c, .ok ())
  | .pathChallenge data =>
    ({ c with path := { c.path with pendingPathResponse := some data } }, .ok ())
  | .pathResponse data => (c.recvPathResponse data, .ok ())
  | .handshakeDone =>
    (if c.role = .client then { c with hs := { c.hs with handshakeDone := true } } else c, .ok ())
  | .newConnectionId seq retirePriorTo cid token =>
    c.recvNewConnectionId packetType seq retirePriorTo cid token
  | .retireConnectionId seq => c.recvRetireConnectionId packetType seq
  | .connectionClose errorCode _ application reason =>
    (c.recvClose errorCode application reason, .ok ())
  | .maxStreams dir max =>
    ({ c with limits := c.limits.modify dir (raisePeerMaxStreams max) }, .ok ())
  | .streamsBlocked dir _ => ({ c with limits := c.limits.modify dir raiseMaxStreams }, .ok ())
  | .newToken token => c.recvNewToken packetType token
  | .datagram data => c.recvDatagramFrame data

theorem handleFrame_minor {α : Type} {f : Connection P → α}
    (hf : ∀ (c : Connection P) os done cids tokens datagrams, f { c with
      os := os, hs := { c.hs with handshakeDone := done }, cids := cids, tokens := tokens
      datagrams := datagrams } = f c)
    (c : Connection P) (now : Time) (packetType : PacketType) {frame : Frame}
    (h : frame.isMinor = true) : f (c.handleFrame now packetType frame).1 = f c := by
  cases frame with
  | handshakeDone =>
    simp only [handleFrame]
    split <;> exact hf c _ _ _ _ _
  | newConnectionId | newToken | datagram =>
    simp only [handleFrame, recvNewConnectionId, recvNewToken, recvDatagramFrame]
    split
    · rfl
    · split <;> exact hf c _ _ _ _ _
  | retireConnectionId seq =>
    simp only [handleFrame, recvRetireConnectionId]
    split
    · rfl
    split
    · rfl
    split
    · rfl
    · exact (maybeIssueNewCid_kept (fun d _ _ _ => hf d _ _ _ _ _) _).trans (hf c _ _ _ _ _)
  | _ => cases h

theorem recvCrypto_kept {α : Type} {f : Connection P → α}
    (hf : ∀ (c : Connection P) initial handshake tls, f { c with
      initialCrypto := initial, handshakeCrypto := handshake, tls := tls } = f c)
    (c : Connection P) (packetType : PacketType) (offset : Nat) (data : Bytes) :
    f (c.recvCrypto packetType offset data).1 = f c := by
  have htaken : f (c.takeCrypto packetType offset data).1 = f c := by
    cases packetType <;> exact hf c _ _ _
  simp only [recvCrypto]
  split
  · exact htaken
  · exact (hf _ _ _ _).trans htaken

theorem recvStream_kept {α : Type} {f : Connection P → α}
    (hf : ∀ (c : Connection P) inbound streams flow, f { c with
      inbound := inbound, sendStreams := streams, flow := flow } = f c)
    (c : Connection P) (id offset : Nat) (fin : Bool) (data : Bytes) :
    f (c.recvStream id offset fin data).1 = f c := by
  have hensured : f (c.ensureStream id) = f c := by
    simp only [ensureStream, ensureRecvFlow, ensureSendHalf, noteNewPeerStream]
    split <;> split <;> exact hf c _ _ _
  simp only [recvStream]
  split
  · exact (hf _ _ _ _).trans hensured
  · split <;> exact (hf _ _ _ _).trans hensured

/-- Act on the frames of a payload.  Every frame takes at least one byte, so the length of
the payload bounds the loop. -/
def processFramesFuel (now : Time) (packetType : PacketType) :
    Nat → Bytes → Bool → Connection P → Outcome P Bool
  | 0, _, ackEliciting, c => (c, .ok ackEliciting)
  | fuel + 1, buf, ackEliciting, c =>
    if buf.isEmpty then (c, .ok ackEliciting)
    else
      match decodeFrame buf with
      | .error e => (c, .error (.transportError e.code none e.detail))
      | .ok (frame, rest) =>
        ((c.log (.received packetType frame)).handleFrame now packetType frame).andThen
          fun c _ => processFramesFuel now packetType fuel rest
            (ackEliciting || frame.isAckEliciting) c

def processFrames (c : Connection P) (now : Time) (packetType : PacketType) (payload : Bytes) :
    Outcome P Bool :=
  processFramesFuel now packetType payload.length payload false
    { c with cids := { c.cids with cidsIssuedThisPacket := [] } }

/-! ## Packets -/

/-- Note a processed packet and go on at `consumed`. -/
def acceptPacket (c : Connection P) (now : Time) (space : SpaceKind) (packetType : PacketType)
    (parsed : ParsedPacket) : Outcome P (Option Nat) :=
  (c.processFrames now packetType parsed.payload).andThen fun c ackEliciting =>
    ({ c with
        spaces := c.spaces.set space
          ((c.spaces.get space).onPacketReceived parsed.packetNumber ackEliciting) },
      .ok (some parsed.consumed))

/-- Whether a Retry packet is acceptable.  The result is its source CID and token. -/
def acceptableRetry (c : Connection P) (packet : Bytes) : Option (Bytes × Bytes) :=
  if c.role ≠ .client || c.state ≠ .handshaking || c.retry.retryDone then none
  else if c.spaces.initial.largestReceived.isSome then none
  else if !verifyRetryIntegrityTag P c.initialDcid packet then none
  else
    match parseRetryPacket packet with
    | none => none
    | some (scid, _, token) => some (scid, token)

/-- Follow a Retry with the server's connection ID and token. -/
def recvRetryPacket (c : Connection P) (datagram : Bytes) (offset : Nat) :
    Outcome P (Option Nat) :=
  match c.acceptableRetry (datagram.drop offset) with
  | none => (c, .ok none)
  | some (scid, token) =>
    (({ c with
          peerCid := scid
          retry := { c.retry with retryDone := true } }.rekeyInitialForRetry scid token).log
        (.retried c.initialDcid scid c.sentPackets.initial.sent.size), .ok none)

def recvZeroRttPacket (c : Connection P) (now : Time) (datagram : Bytes) (offset : Nat) :
    Outcome P (Option Nat) :=
  if c.role ≠ .server then (c, .ok none)
  else
    match c.zeroRtt.keys with
    | none => (c, .ok none)
    | some keys =>
      match parseLongPacket P datagram offset quicV1 c.spaces.application.largestReceived
          keys.packet keys.header with
      | .error _ => (c, .ok none)
      | .ok parsed => c.acceptPacket now .application .zeroRtt parsed

/-- A client adopts the connection ID the server chose. -/
def adoptPeerCid (c : Connection P) (parsed : ParsedPacket) : Connection P :=
  if c.role = .client && parsed.packetType = .initial && !parsed.scid.isEmpty then
    { c with peerCid := parsed.scid }
  else c

/-- Initial and Handshake packets. -/
def recvHandshakePacket (c : Connection P) (now : Time) (space : SpaceKind) (datagram : Bytes)
    (offset : Nat) : Outcome P (Option Nat) :=
  match (c.spaces.get space).remoteKeys with
  | none => (c, .ok none)
  | some keys =>
    match parseLongPacket P datagram offset quicV1 (c.spaces.get space).largestReceived
        keys.packet keys.header with
    | .error _ => (c, .ok none)
    | .ok parsed =>
      if !parsed.dcid.isEmpty && parsed.dcid ≠ c.localCid && parsed.dcid ≠ c.initialDcid then
        (c, .ok (some parsed.consumed))
      else
        (c.adoptPeerCid parsed).acceptPacket now space parsed.packetType parsed

def recvLongPacket (c : Connection P) (now : Time) (datagram : Bytes) (offset : Nat) :
    Outcome P (Option Nat) :=
  match peekDcid (datagram.drop offset) localCidLen with
  | .error _ => (c, .ok none)
  | .ok (.versionNegotiation, _) =>
    if c.role = .client && c.state = .handshaking && c.spaces.initial.largestReceived.isNone then
      (c, .error (.versionNegotiation
        ((decodeVersionNegotiation (datagram.drop offset)).getD [])))
    else (c, .ok none)
  | .ok (.retry, _) => c.recvRetryPacket datagram offset
  | .ok (.zeroRtt, _) => c.recvZeroRttPacket now datagram offset
  | .ok (.initial, _) => c.recvHandshakePacket now .initial datagram offset
  | .ok (.handshake, _) => c.recvHandshakePacket now .handshake datagram offset
  | .ok _ => (c, .ok none)

/-- A packet that does not decrypt may be a stateless reset. -/
def checkStatelessReset (c : Connection P) (datagram : Bytes) (offset : Nat) :
    Outcome P (Option Nat) :=
  if 21 ≤ datagram.length - offset &&
      c.cids.peerCidPool.matchesStatelessReset (datagram.drop (datagram.length - 16)) then
    (c, .error .statelessReset)
  else (c, .ok none)

/-- Open a 1-RTT packet of the current key phase, or of the one before while its key is
kept. -/
def openCurrentPhase (c : Connection P) (now : Time) (datagram : Bytes) (offset : Nat)
    (packetKey : P.PacketKey) : Option ParsedPacket :=
  let largest := c.spaces.application.largestReceived
  match decryptShortPacketBody P datagram offset localCidLen largest packetKey with
  | .ok parsed => some parsed
  | .error _ =>
    match c.keyUpdate.prevOneRttKeys with
    | some (prevKey, retireAfter) =>
      if now ≤ retireAfter then
        (decryptShortPacketBody P datagram offset localCidLen largest prevKey).toOption
      else none
    | none => none

/-- 1-RTT packets.  One of the other key phase that opens under the next keys is a key
update. -/
def recvShortPacket (c : Connection P) (now : Time) (datagram : Bytes) (offset : Nat) :
    Outcome P (Option Nat) :=
  match c.spaces.application.remoteKeys with
  | none => c.checkStatelessReset datagram offset
  | some keys =>
    match stripShortHeaderProtection P datagram offset localCidLen keys.header with
    | .error _ => c.checkStatelessReset datagram offset
    | .ok (datagram, incomingKeyPhase) =>
      if incomingKeyPhase = c.keyUpdate.keyPhase then
        match c.openCurrentPhase now datagram offset keys.packet with
        | none => c.checkStatelessReset datagram offset
        | some parsed => c.acceptPacket now .application .short parsed
      else
        match c.keyUpdate.nextOneRttKeys with
        | none => c.checkStatelessReset datagram offset
        | some nextKeys =>
          match decryptShortPacketBody P datagram offset localCidLen
              c.spaces.application.largestReceived nextKeys.receiving with
          | .error _ => c.checkStatelessReset datagram offset
          | .ok parsed =>
            (c.performKeyUpdate now).acceptPacket now .application .short parsed

/-! ## Datagrams -/

/-- After each packet, let TLS write and look for early keys. -/
def afterPacket (c : Connection P) : Connection P :=
  let c := c.pumpWriteHs
  if !c.hs.handshakeComplete then c.tryInstallZeroRttKeys else c

/-- The packets of a datagram from `offset` on.  Each takes at least one byte. -/
def recvPackets (now : Time) (datagram : Bytes) : Nat → Nat → Connection P → Outcome P Unit
  | 0, _, c => (c, .ok ())
  | fuel + 1, offset, c =>
    match datagram[offset]? with
    | none => (c, .ok ())
    | some first =>
      if first = 0 then (c, .ok ())
      else
        (if first &&& 0x80 ≠ 0 then c.recvLongPacket now datagram offset
          else c.recvShortPacket now datagram offset).andThen fun c consumed =>
          match consumed with
          | some stop => recvPackets now datagram fuel stop c.afterPacket
          | none => (c, .ok ())

/-- Process a datagram. -/
def handleDatagram (c : Connection P) (now : Time) (datagram : Bytes) : Outcome P Unit :=
  let c := c.armIdleTimer now
  recvPackets now datagram datagram.length 0
    { c with stats := { c.stats with
        packetsRecv := c.stats.packetsRecv + 1
        bytesRecv := c.stats.bytesRecv + datagram.length } }

end Connection

end OxiQuic
