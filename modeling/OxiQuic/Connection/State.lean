import OxiQuic.Congestion.Controller
import OxiQuic.Connection.Cid
import OxiQuic.Connection.Multipath
import OxiQuic.CryptoStream
import OxiQuic.FlowControl
import OxiQuic.Recovery.LossDetection

/-!
# Connection state

The state of a connection (`oxiquic-transport/src/connection/mod.rs`).  The source keeps
it in one flat struct; here its fields are grouped as the comments of the struct group
them, one record a concern.

The last field is not in the source.  `trace` is the history of what the connection did,
newest event first: no function reads it, and statements about whole runs are made about
it.
-/

namespace OxiQuic

open Lib

/-- The length of the connection IDs the transport issues. -/
def localCidLen : Nat := 8

/-- The smallest datagram that may carry a client's Initial packet. -/
def minInitialDatagram : Nat := 1200

/-- The largest datagram before path MTU discovery. -/
def maxDatagram : Nat := 1200

inductive ConnectionState where
  | handshaking
  | established
  | closing
  | closed
  deriving DecidableEq, Repr

/-- The level that handshake bytes belong to. -/
inductive HandshakeLevel where
  | initial
  | handshake
  deriving DecidableEq, Repr

/-- Progress of the handshake. -/
structure HandshakeProgress where
  /-- The level of the next bytes TLS writes. -/
  writeLevel : HandshakeLevel := .initial
  handshakeKeysReady : Bool := false
  oneRttReady : Bool := false
  /-- Whether `HANDSHAKE_DONE` was sent, by a server, or received, by a client. -/
  handshakeDone : Bool := false
  handshakeComplete : Bool := false
  peerParams : Option TransportParams := none
  deriving DecidableEq

/-- The receive halves and what the application has to be told of them. -/
structure Inbound where
  streams : OrdMap Nat RecvStream := ∅
  /-- Streams with data the application has not drained. -/
  readable : List StreamId := []
  newPeerStreams : List StreamId := []

/-- The indices of the next streams to open. -/
structure Opened where
  nextBidiIndex : Nat := 0
  nextUniIndex : Nat := 0
  deriving DecidableEq

structure Timers where
  idleTimeout : Option Time
  idleDeadline : Option Time := none
  keepAliveInterval : Option Time := none
  nextKeepAlive : Option Time := none
  pendingKeepAlivePing : Bool := false
  deriving DecidableEq

structure Closing where
  pendingClose : Option (Nat × Bytes) := none
  pendingTransportClose : Option (TransportErrorCode × Bytes) := none
  peerClosed : Option OxiQuicError := none
  deriving DecidableEq

structure Recovery where
  rtt : RttEstimator := {}
  loss : LossDetection := {}
  lossTimer : Option Time := none
  probesOwed : Nat := 0
  peerMaxAckDelay : Time := 0
  deriving DecidableEq

structure Flow where
  sendFlow : SendCredit := .new 0
  recvFlow : RecvWindow
  streamSendFlow : OrdMap Nat SendCredit := ∅
  streamRecvFlow : OrdMap Nat RecvWindow := ∅
  localInitialMaxStreamData : Nat
  pendingMaxData : Option Nat := none
  pendingMaxStreamData : OrdMap Nat Nat := ∅
  pendingDataBlocked : Option Nat := none
  pendingStreamDataBlocked : OrdMap Nat Nat := ∅

structure Stats where
  bytesSent : Nat := 0
  bytesRecv : Nat := 0
  packetsSent : Nat := 0
  packetsRecv : Nat := 0
  packetsLost : Nat := 0
  deriving DecidableEq

structure Resets where
  /-- `RESET_STREAM` frames to send: error code and final size by stream. -/
  pendingResetStreams : OrdMap Nat (Nat × Nat) := ∅
  /-- `STOP_SENDING` frames to send: error code by stream. -/
  pendingStopSending : OrdMap Nat Nat := ∅

structure Retry where
  retryToken : Option Bytes := none
  /-- All Initial handshake bytes so far, to be sent again after a Retry. -/
  cachedInitialHsBytes : Bytes := []
  retryDone : Bool := false
  retryCount : Nat := 0
  deriving DecidableEq

/-- Where packets go and how a new address is validated. -/
structure Path where
  peerAddr : SocketAddr
  pendingPathResponse : Option Bytes := none
  /-- The nonce that awaits its echo. -/
  pendingPathChallenge : Option Bytes := none
  /-- Whether the nonce still has to be sent. -/
  pendingPathChallengeSend : Bool := false
  candidatePeerAddr : Option SocketAddr := none
  pathValidated : Bool := false
  deriving DecidableEq

/-- Path MTU discovery. -/
structure Mtu where
  currentMtu : Nat := minInitialDatagram
  probeMtu : Option Nat := none
  probeCount : Nat := 0
  maxMtu : Nat
  mtuDiscoveryEnabled : Bool
  pendingMtuProbe : Bool := false
  nextMtuProbe : Option Time := none
  deriving DecidableEq

structure KeyUpdate (P : Platform) where
  keyPhase : Bool := false
  oneRttSecrets : Option P.Secrets := none
  nextOneRttKeys : Option (PacketKeySet P.PacketKey) := none
  /-- The receiving key of the previous epoch and when it is dropped. -/
  prevOneRttKeys : Option (P.PacketKey × Time) := none
  keyUpdateReceived : Bool := false
  keyUpdatePending : Bool := false
  keyUpdateCooldown : Option Time := none
  keyUpdateCount : Nat := 0

/-- Stream count limits of one direction. -/
structure StreamLimit where
  peerMaxStreams : Nat := 0
  localMaxStreams : Nat
  sentMaxStreams : Nat
  closedPeer : Nat := 0
  pendingMaxStreams : Option Nat := none
  pendingStreamsBlocked : Option Nat := none
  deriving DecidableEq

structure StreamLimits where
  bidi : StreamLimit
  uni : StreamLimit
  deriving DecidableEq

structure Datagrams where
  peerMaxDatagramFrameSize : Nat := 0
  localMaxDatagramFrameSize : Nat
  recvQueue : List Bytes := []
  sendQueue : List Bytes := []
  recvBufferLimit : Nat
  deriving DecidableEq

structure ZeroRtt (P : Platform) where
  keys : Option (DirectionalKeys P.PacketKey P.HeaderKey) := none
  earlyDataBuf : List (StreamId × Bytes × Bool) := []
  sent : Bool := false
  accepted : Option Bool := none

structure Tokens where
  received : Option Bytes := none
  pendingNew : Option Bytes := none
  deriving DecidableEq

structure Cids where
  localCidPool : LocalCidPool
  peerCidPool : PeerCidPool
  pendingCidEvents : List CidEvent := []
  /-- Sequence numbers the packet in hand has announced. -/
  cidsIssuedThisPacket : List Nat := []
  deriving DecidableEq

/-! ## History -/

/-- What a sealing key was derived for.  The 0-RTT and 1-RTT keys of all epochs share the
numbers of the application space, and so one label. -/
inductive KeyLabel where
  | initial (dcid : ConnectionId)
  | handshake
  | application
  deriving DecidableEq, Repr

/-- Something a connection did. -/
inductive Event (P : Platform) where
  /-- Tried to seal a packet under a key and a packet number. -/
  | sealed (label : KeyLabel) (key : P.PacketKey) (pn : Nat)
  /-- Sent a packet with the given frames to an address. -/
  | sent (dest : SocketAddr) (space : SpaceKind) (frames : List Frame)
  /-- Took in an authenticated frame. -/
  | received (packetType : PacketType) (frame : Frame)
  | acked (space : SpaceKind) (packet : SentPacket)
  | lost (space : SpaceKind) (packet : SentPacket)
  | opened (id : StreamId)
  | wrote (id : StreamId) (data : Bytes) (fin : Bool)
  /-- Wrote rejected early data to a stream. -/
  | replayed (id : StreamId)
  | reset (id : StreamId)
  /-- Accepted a Retry: the CID the Initial keys were derived from and the one they are
  derived from now, and how many Initial packets were still tracked. -/
  | retried (oldDcid newDcid : ConnectionId) (outstanding : Nat)

/-! ## The connection -/

/-- A connection. -/
structure Connection (P : Platform) where
  role : Role
  tls : P.Session
  state : ConnectionState := .handshaking
  localCid : ConnectionId
  peerCid : ConnectionId
  /-- The CID the Initial keys are derived from. -/
  initialDcid : ConnectionId
  spaces : PerSpace (PacketSpace P) := .const {}
  initialCrypto : CryptoStream := {}
  handshakeCrypto : CryptoStream := {}
  hs : HandshakeProgress := {}
  sendStreams : OrdMap Nat SendStream := ∅
  inbound : Inbound := {}
  opened : Opened := {}
  timers : Timers
  closing : Closing := {}
  sentPackets : PerSpace SentPackets := .const {}
  recovery : Recovery := {}
  congestion : CongestionController P.Real
  flow : Flow
  stats : Stats := {}
  resets : Resets := {}
  retry : Retry := {}
  path : Path
  mtu : Mtu
  keyUpdate : KeyUpdate P := {}
  limits : StreamLimits
  datagrams : Datagrams
  zeroRtt : ZeroRtt P := {}
  tokens : Tokens := {}
  cids : Cids
  multipath : MultipathState
  /-- The random number generator and the clock. -/
  os : P.Os
  trace : List (Event P) := []

/-- Path MTU discovery settings. -/
structure MtuConfig where
  maxMtu : Nat := 1452
  discoveryEnabled : Bool := true
  deriving DecidableEq, Repr

/-- The arguments of `newInner` that identify and configure a connection. -/
structure ConnectionParams where
  localCid : ConnectionId
  peerCid : ConnectionId
  initialDcid : ConnectionId
  peerAddr : SocketAddr
  localParams : TransportParams
  mtuConfig : MtuConfig
  datagramRecvBufferSize : Nat := 65536

variable {P : Platform}

namespace Connection

/-- Note an event in the history. -/
def log (c : Connection P) (e : Event P) : Connection P := { c with trace := e :: c.trace }

/-- Note several events, the first of the list first. -/
def logAll (c : Connection P) (es : List (Event P)) : Connection P :=
  { c with trace := es.reverse ++ c.trace }

/-- A fresh connection, without keys. -/
def newInner (role : Role) (tls : P.Session) (params : ConnectionParams) (os : P.Os)
    (congestionAlgo : CongestionAlgorithm) : Connection P :=
  -- a failed fill leaves the zeros the buffer started with
  let filled := P.fill os 32
  let secret := filled.2.getD (List.replicate 32 0)
  let clock := P.now filled.1
  let localParams := params.localParams
  let activeCidLimit := max localParams.activeConnectionIdLimit 2
  { role := role
    tls := tls
    localCid := params.localCid
    peerCid := params.peerCid
    initialDcid := params.initialDcid
    timers := {
      idleTimeout :=
        if localParams.maxIdleTimeoutMs = 0 then none
        else some (millis localParams.maxIdleTimeoutMs) }
    congestion := .fromConfig congestionAlgo clock.2
    flow := {
      recvFlow := .new localParams.initialMaxData
      localInitialMaxStreamData := localParams.initialMaxStreamDataBidiRemote }
    path := { peerAddr := params.peerAddr }
    mtu := {
      maxMtu := max params.mtuConfig.maxMtu minInitialDatagram
      mtuDiscoveryEnabled := params.mtuConfig.discoveryEnabled }
    limits := {
      bidi := {
        localMaxStreams := localParams.initialMaxStreamsBidi
        sentMaxStreams := localParams.initialMaxStreamsBidi }
      uni := {
        localMaxStreams := localParams.initialMaxStreamsUni
        sentMaxStreams := localParams.initialMaxStreamsUni } }
    datagrams := {
      localMaxDatagramFrameSize := localParams.maxDatagramFrameSize
      recvBufferLimit := params.datagramRecvBufferSize }
    cids := {
      localCidPool := .new P params.localCid secret activeCidLimit
      peerCidPool := .new params.peerCid activeCidLimit }
    multipath := .new params.peerAddr
    os := clock.1 }

def installInitialKeys (c : Connection P) : Connection P :=
  { c with
    spaces := { c.spaces with
      initial := c.spaces.initial.setKeys (P.initialKeys c.initialDcid c.role) } }

end Connection

/-- A random connection ID, empty if there is no randomness. -/
def randomCid (P : Platform) (os : P.Os) : P.Os × ConnectionId :=
  ((P.fill os localCidLen).1, (P.fill os localCidLen).2.getD [])

namespace Connection

/-- A client connection.  The TLS session is what rustls makes of the client's
configuration. -/
def newClient (tls : P.Session) (peerAddr : SocketAddr) (localParams : TransportParams)
    (mtuConfig : MtuConfig) (congestionAlgo : CongestionAlgorithm) (os : P.Os) :
    Connection P :=
  let initialDcid := randomCid P os
  let localCid := randomCid P initialDcid.1
  (newInner .client tls
    { localCid := localCid.2, peerCid := initialDcid.2, initialDcid := initialDcid.2
      peerAddr := peerAddr, localParams := localParams, mtuConfig := mtuConfig }
    localCid.1 congestionAlgo).installInitialKeys

/-- A server connection, made for a client's first Initial packet. -/
def newServer (tls : P.Session) (clientDcid clientScid : ConnectionId) (peerAddr : SocketAddr)
    (localParams : TransportParams) (mtuConfig : MtuConfig)
    (congestionAlgo : CongestionAlgorithm) (os : P.Os) : Connection P :=
  let localCid := randomCid P os
  (newInner .server tls
    { localCid := localCid.2, peerCid := clientScid, initialDcid := clientDcid
      peerAddr := peerAddr, localParams := localParams, mtuConfig := mtuConfig }
    localCid.1 congestionAlgo).installInitialKeys

/-- A connection as one of the constructors makes it. -/
inductive Fresh : Connection P → Prop where
  | client (tls : P.Session) (peerAddr : SocketAddr) (localParams : TransportParams)
      (mtuConfig : MtuConfig) (congestionAlgo : CongestionAlgorithm) (os : P.Os) :
      Fresh (newClient tls peerAddr localParams mtuConfig congestionAlgo os)
  | server (tls : P.Session) (clientDcid clientScid : ConnectionId) (peerAddr : SocketAddr)
      (localParams : TransportParams) (mtuConfig : MtuConfig)
      (congestionAlgo : CongestionAlgorithm) (os : P.Os) :
      Fresh (newServer tls clientDcid clientScid peerAddr localParams mtuConfig congestionAlgo os)

end Connection

end OxiQuic
