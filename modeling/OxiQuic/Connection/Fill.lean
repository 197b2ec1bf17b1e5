import OxiQuic.Connection.Streams

/-!
# Filling a packet

What goes into the next packet of a space (`fill_payload` and its helpers in
`oxiquic-transport/src/connection/send.rs`).

A `Filling` is the state of `fill_payload`: the connection, the frames placed so far and
the record of those that loss detection will know of.  Each block of the source function
is one function here; `fillPayload` runs them in the order of the source.
-/

namespace OxiQuic

variable {P : Platform}

/-- A packet being filled. -/
structure Filling (P : Platform) where
  conn : Connection P
  /-- The frames of the payload. -/
  placed : List Frame := []
  /-- What loss detection will know of. -/
  frames : List SentFrame := []
  ackEliciting : Bool := false

namespace Filling

/-- The encoded payload. -/
def payload (f : Filling P) : Bytes := f.placed.flatMap Frame.encode

/-- What is left of the budget. -/
def room (f : Filling P) (budget : Nat) : Nat := budget - f.payload.length

/-- Place an ack-eliciting frame. -/
def place (f : Filling P) (frame : Frame) : Filling P :=
  { f with placed := f.placed ++ [frame], ackEliciting := true }

/-- Place an ack-eliciting frame and record it. -/
def placeRecorded (f : Filling P) (frame : Frame) (sent : SentFrame) : Filling P :=
  { f.place frame with frames := f.frames ++ [sent] }

end Filling

namespace Connection

/-- An `ACK` that is owed comes first. -/
def fillAck (f : Filling P) (kind : SpaceKind) : Filling P :=
  let built := (f.conn.spaces.get kind).buildAck 0
  let f := { f with conn := { f.conn with spaces := f.conn.spaces.set kind built.1 } }
  match built.2 with
  | some frame => { f with placed := f.placed ++ [frame] }
  | none => f

/-- The CRYPTO stream of a space. -/
def cryptoStream (c : Connection P) : SpaceKind → Option CryptoStream
  | .initial => some c.initialCrypto
  | .handshake => some c.handshakeCrypto
  | .application => none

def setCryptoStream (c : Connection P) (kind : SpaceKind) (s : CryptoStream) : Connection P :=
  match kind with
  | .initial => { c with initialCrypto := s }
  | .handshake => { c with handshakeCrypto := s }
  | .application => c

def fillCrypto (f : Filling P) (kind : SpaceKind) (budget : Nat) : Filling P :=
  match f.conn.cryptoStream kind with
  | none => f
  | some stream =>
    let taken := stream.takeSend (f.room budget - 16)
    let f := { f with conn := f.conn.setCryptoStream kind taken.1 }
    match taken.2 with
    | some seg => f.placeRecorded (.crypto seg.offset seg.data) (.crypto seg.offset seg.data)
    | none => f

/-! ## Control frames of the application space -/

/-- Bytes of a short-header packet that are not payload: flags, CID, packet number, tag. -/
def shortHdrOverhead : Nat := 1 + localCidLen + 4 + 16

/-- Clear the request for a path MTU probe. -/
def clearMtuProbe (c : Connection P) : Connection P :=
  { c with mtu := { c.mtu with pendingMtuProbe := false } }

/-- A packet that probes the path MTU carries a `PING` and padding, and nothing else. -/
def fillMtuProbe (f : Filling P) (probeSize : Nat) : Filling P :=
  let f := { f with conn := f.conn.clearMtuProbe }.placeRecorded .ping (.mtuProbe probeSize)
  let target := probeSize - shortHdrOverhead
  if f.payload.length < target then
    { f with placed := f.placed ++ [.padding (target - f.payload.length)] }
  else f

def fillPathResponse (f : Filling P) (budget : Nat) : Filling P :=
  match f.conn.path.pendingPathResponse with
  | none => f
  | some data =>
    if 9 ≤ f.room budget then
      { f with conn := { f.conn with
          path := { f.conn.path with pendingPathResponse := none } } }.place (.pathResponse data)
    else f

def fillPathChallenge (f : Filling P) (budget : Nat) : Filling P :=
  if f.conn.path.pendingPathChallengeSend then
    match f.conn.path.pendingPathChallenge with
    | none => f
    | some data =>
      if 9 ≤ f.room budget then
        { f with conn := { f.conn with
            path := { f.conn.path with pendingPathChallengeSend := false } } }.place
          (.pathChallenge data)
      else f
  else f

def handshakeDoneToSend (c : Connection P) : Bool :=
  c.role = .server && c.hs.handshakeComplete && !c.hs.handshakeDone

def fillHandshakeDone (f : Filling P) : Filling P :=
  if f.conn.handshakeDoneToSend then
    { f with conn := { f.conn with hs := { f.conn.hs with handshakeDone := true } } }.place
      .handshakeDone
  else f

/-! ### Flow control -/

def fillMaxData (f : Filling P) (budget : Nat) : Filling P :=
  match f.conn.flow.pendingMaxData with
  | none => f
  | some max =>
    if 16 < f.room budget then
      { f with conn := { f.conn with
          flow := { f.conn.flow with pendingMaxData := none } } }.place (.maxData max)
    else f

def fillMaxStreamData (budget : Nat) (f : Filling P) (update : Nat × Nat) : Filling P :=
  if 16 < f.room budget then
    { f with conn := { f.conn with flow := { f.conn.flow with
        pendingMaxStreamData := f.conn.flow.pendingMaxStreamData.erase update.1 } } }.place
      (.maxStreamData update.1 update.2)
  else f

/-- An announcement that does not fit is dropped, unlike the other frames. -/
def fillDataBlocked (f : Filling P) (budget : Nat) : Filling P :=
  match f.conn.flow.pendingDataBlocked with
  | none => f
  | some limit =>
    let f := { f with conn := { f.conn with
      flow := { f.conn.flow with pendingDataBlocked := none } } }
    if 16 < f.room budget then f.place (.dataBlocked limit) else f

def fillStreamDataBlocked (budget : Nat) (f : Filling P) (blocked : Nat × Nat) : Filling P :=
  if 16 < f.room budget then
    { f with conn := { f.conn with flow := { f.conn.flow with
        pendingStreamDataBlocked := f.conn.flow.pendingStreamDataBlocked.erase blocked.1 } } }.place
      (.streamDataBlocked blocked.1 blocked.2)
  else f

def fillFlowControlFrames (f : Filling P) (budget : Nat) : Filling P :=
  let f := fillMaxData f budget
  let f := f.conn.flow.pendingMaxStreamData.entries.foldl (fillMaxStreamData budget) f
  let f := fillDataBlocked f budget
  f.conn.flow.pendingStreamDataBlocked.entries.foldl (fillStreamDataBlocked budget) f

/-! ### Resets -/

/-- Place the pending resets in order until one does not fit. -/
def fillResetStreams (budget : Nat) : List (Nat × Nat × Nat) → Filling P → Filling P
  | [], f => f
  | (id, errorCode, finalSize) :: rest, f =>
    if 24 < f.room budget then
      fillResetStreams budget rest ({ f with conn := { f.conn with resets := { f.conn.resets with
        pendingResetStreams := f.conn.resets.pendingResetStreams.erase id } } }.place
        (.resetStream id errorCode finalSize))
    else f

def fillResetStreamFrames (f : Filling P) (budget : Nat) : Filling P :=
  fillResetStreams budget f.conn.resets.pendingResetStreams.entries f

def fillStopSendings (budget : Nat) : List (Nat × Nat) → Filling P → Filling P
  | [], f => f
  | (id, errorCode) :: rest, f =>
    if 16 < f.room budget then
      fillStopSendings budget rest ({ f with conn := { f.conn with resets := { f.conn.resets with
        pendingStopSending := f.conn.resets.pendingStopSending.erase id } } }.place
        (.stopSending id errorCode))
    else f

def fillStopSendingFrames (f : Filling P) (budget : Nat) : Filling P :=
  fillStopSendings budget f.conn.resets.pendingStopSending.entries f

/-! ### Connection IDs, stream limits and tokens -/

def setPendingNew (c : Connection P) (pendingNew : List IssuedCid) : Connection P :=
  { c with cids := { c.cids with
      localCidPool := { c.cids.localCidPool with pendingNew := pendingNew } } }

/-- Announce issued connection IDs until one does not fit. -/
def fillNewConnectionIds (budget : Nat) : List IssuedCid → Filling P → Filling P
  | [], f => { f with conn := f.conn.setPendingNew [] }
  | issued :: rest, f =>
    if f.room budget < 1 + 8 + 8 + 1 + issued.cid.length + 16 then
      { f with conn := f.conn.setPendingNew (issued :: rest) }
    else
      fillNewConnectionIds budget rest (f.placeRecorded
        (.newConnectionId issued.seq 0 issued.cid issued.statelessResetToken)
        (.newConnectionId issued.seq 0 issued.cid issued.statelessResetToken))

def setPendingRetire (c : Connection P) (pendingRetire : List Nat) : Connection P :=
  { c with cids := { c.cids with
      peerCidPool := { c.cids.peerCidPool with pendingRetire := pendingRetire } } }

def fillRetireConnectionIds (budget : Nat) : List Nat → Filling P → Filling P
  | [], f => { f with conn := f.conn.setPendingRetire [] }
  | seq :: rest, f =>
    if f.room budget < 9 then { f with conn := f.conn.setPendingRetire (seq :: rest) }
    else
      fillRetireConnectionIds budget rest
        (f.placeRecorded (.retireConnectionId seq) (.retireConnectionId seq))

def setLimit (c : Connection P) (dir : Direction) (l : StreamLimit) : Connection P :=
  { c with limits := match dir with
      | .bidirectional => { c.limits with bidi := l }
      | .unidirectional => { c.limits with uni := l } }

def limit (c : Connection P) : Direction → StreamLimit
  | .bidirectional => c.limits.bidi
  | .unidirectional => c.limits.uni

def fillMaxStreams (f : Filling P) (budget : Nat) (dir : Direction) : Filling P :=
  match (f.conn.limit dir).pendingMaxStreams with
  | none => f
  | some max =>
    if 16 ≤ f.room budget then
      { f with conn := f.conn.setLimit dir { f.conn.limit dir with
          pendingMaxStreams := none, sentMaxStreams := max } }.placeRecorded
        (.maxStreams dir max) (.maxStreams dir max)
    else f

def fillStreamsBlocked (f : Filling P) (budget : Nat) (dir : Direction) : Filling P :=
  match (f.conn.limit dir).pendingStreamsBlocked with
  | none => f
  | some limit =>
    if 16 ≤ f.room budget then
      { f with conn := f.conn.setLimit dir { f.conn.limit dir with
          pendingStreamsBlocked := none } }.placeRecorded
        (.streamsBlocked dir limit) (.streamsBlocked dir limit)
    else f

def fillNewToken (f : Filling P) (budget : Nat) : Filling P :=
  if f.conn.role = .server then
    match f.conn.tokens.pendingNew with
    | none => f
    | some token =>
      if 1 + varintSize token.length + token.length ≤ f.room budget then
        { f with conn := { f.conn with tokens := { f.conn.tokens with
            pendingNew := none } } }.placeRecorded (.newToken token) (.newToken token)
      else f
  else f

def setSendQueue (c : Connection P) (queue : List Bytes) : Connection P :=
  { c with datagrams := { c.datagrams with sendQueue := queue } }

/-- Place queued datagrams until one does not fit. -/
def fillDatagrams (budget : Nat) : List Bytes → Filling P → Filling P
  | [], f => { f with conn := f.conn.setSendQueue [] }
  | data :: rest, f =>
    if f.room budget < 1 + varintSize data.length + data.length then
      { f with conn := f.conn.setSendQueue (data :: rest) }
    else fillDatagrams budget rest (f.place (.datagram data))

/-! ## Stream data -/

/-- Announce that pending data is blocked by flow control, once for each limit. -/
def noteBlockedStream (c : Connection P) (id : Nat) : Connection P :=
  match c.sendStreams.get? id with
  | none => c
  | some s =>
    if s.hasPending then
      match c.flow.streamSendFlow.get? id with
      | none => c
      | some flow =>
        let taken := flow.takeBlocked
        { c with flow := { c.flow with
            streamSendFlow := c.flow.streamSendFlow.insert id taken.1
            pendingStreamDataBlocked := match taken.2 with
              | some limit => c.flow.pendingStreamDataBlocked.insert id limit
              | none => c.flow.pendingStreamDataBlocked } }
    else c

def noteBlockedConnection (c : Connection P) : Connection P :=
  if c.hasPendingStreamData then
    let taken := c.flow.sendFlow.takeBlocked
    { c with flow := { c.flow with
        sendFlow := taken.1
        pendingDataBlocked := match taken.2 with
          | some limit => some limit
          | none => c.flow.pendingDataBlocked } }
  else c

def noteBlockedStreams (c : Connection P) : Connection P :=
  c.sendStreams.keys.foldl noteBlockedStream c.noteBlockedConnection

/-- The stream's flow control entry, made if it is missing. -/
def ensureStreamSendFlow (c : Connection P) (id : Nat) : Connection P :=
  match c.flow.streamSendFlow.get? id with
  | some _ => c
  | none =>
    { c with flow := { c.flow with
        streamSendFlow := c.flow.streamSendFlow.insert id (.new c.peerInitialStreamLimit) } }

/-- How much a stream may put into a packet: retransmissions need no credit. -/
def streamAllowance (c : Connection P) (id : Nat) (s : SendStream) (avail : Nat) : Nat :=
  if s.hasResend then avail
  else
    let streamCredit := match c.flow.streamSendFlow.get? id with
      | some f => f.available
      | none => 0
    min avail (min c.flow.sendFlow.available streamCredit)

/-- Charge flow control for a segment, by what of it is new. -/
def chargeFlow (c : Connection P) (id highOffset : Nat) : Connection P :=
  match c.flow.streamSendFlow.get? id with
  | none => { c with flow := { c.flow with sendFlow := c.flow.sendFlow.onDataSent 0 } }
  | some f =>
    let recorded := f.recordHighOffset highOffset
    { c with flow := { c.flow with
        streamSendFlow := c.flow.streamSendFlow.insert id recorded.1
        sendFlow := c.flow.sendFlow.onDataSent recorded.2 } }

/-- Take a segment of one stream. -/
def fillStream (f : Filling P) (id : Nat) (s : SendStream) (avail : Nat) : Filling P :=
  let c := f.conn.ensureStreamSendFlow id
  let allowance := c.streamAllowance id s avail
  if allowance = 0 then { f with conn := c }
  else
    let taken := s.take allowance
    let c := { c with sendStreams := c.sendStreams.insert id taken.1 }
    match taken.2 with
    | none => { f with conn := c }
    | some seg =>
      { f with conn := c.chargeFlow id (seg.offset + seg.data.length) }.placeRecorded
        (.stream id seg.offset seg.fin seg.data) (.stream id seg.offset seg.fin seg.data)

/-- Go through the streams in order until the packet is full. -/
def fillStreams (budget : Nat) : List Nat → Filling P → Filling P
  | [], f => f
  | id :: rest, f =>
    let avail := f.room budget - 24
    if avail = 0 then f
    else
      match f.conn.sendStreams.get? id with
      | none => fillStreams budget rest f
      | some s =>
        if s.isReset || !s.hasPending then fillStreams budget rest f
        else fillStreams budget rest (fillStream f id s avail)

def fillStreamFrames (f : Filling P) (budget : Nat) : Filling P :=
  let f := fillStreams budget f.conn.sendStreams.keys f
  { f with conn := f.conn.noteBlockedStreams }

/-! ## Probes -/

/-- A probe that is owed becomes a `PING` if nothing else elicits an acknowledgement. -/
def fillProbe (f : Filling P) : Filling P :=
  if 0 < f.conn.recovery.probesOwed then
    let f := if f.ackEliciting then f else f.placeRecorded .ping .ping
    { f with conn := { f.conn with recovery := { f.conn.recovery with
        probesOwed := f.conn.recovery.probesOwed - 1 } } }
  else f

def fillKeepAlive (f : Filling P) : Filling P :=
  if f.conn.timers.pendingKeepAlivePing then
    { f with conn := { f.conn with timers := { f.conn.timers with
        pendingKeepAlivePing := false } } }.placeRecorded .ping .ping
  else f

/-- A key update needs a packet that elicits an acknowledgement. -/
def fillKeyUpdatePing (f : Filling P) : Filling P :=
  if f.conn.keyUpdate.keyUpdatePending && !f.ackEliciting then f.placeRecorded .ping .ping else f

/-! ## The whole payload -/

/-- The frames that only the application space carries. -/
def fillApplication (f : Filling P) (budget : Nat) : Filling P :=
  let f := fillPathResponse f budget
  let f := fillPathChallenge f budget
  let f := fillHandshakeDone f
  let f := fillFlowControlFrames f budget
  let f := fillResetStreamFrames f budget
  let f := fillStopSendingFrames f budget
  let f := fillNewConnectionIds budget f.conn.cids.localCidPool.pendingNew f
  let f := fillRetireConnectionIds budget f.conn.cids.peerCidPool.pendingRetire f
  let f := fillMaxStreams f budget .bidirectional
  let f := fillMaxStreams f budget .unidirectional
  let f := fillStreamsBlocked f budget .bidirectional
  let f := fillStreamsBlocked f budget .unidirectional
  let f := fillNewToken f budget
  let f := fillDatagrams budget f.conn.datagrams.sendQueue f
  fillStreamFrames f budget

/-- Whether the next application packet is a path MTU probe, and of which size. -/
def mtuProbeSize (c : Connection P) (kind : SpaceKind) : Option Nat :=
  if kind = .application && c.mtu.pendingMtuProbe then c.mtu.probeMtu else none

/-- The frames after the handshake bytes, if the packet is no path MTU probe. -/
def fillRest (f : Filling P) (kind : SpaceKind) (budget : Nat) : Filling P :=
  if kind = .application then
    -- a probe that was asked for without a size to probe is forgotten
    let f := { f with conn := f.conn.clearMtuProbe }
    fillKeyUpdatePing (fillKeepAlive (fillProbe (fillApplication f budget)))
  else fillProbe f

/-- Fill the next packet of a space. -/
def fillPayload (c : Connection P) (kind : SpaceKind) (budget : Nat) : Filling P :=
  let f := fillCrypto (fillAck { conn := c } kind) kind budget
  match f.conn.mtuProbeSize kind with
  | some probeSize => fillMtuProbe f probeSize
  | none => fillRest f kind budget

end Connection

end OxiQuic
