import OxiQuic.Connection.Step

/-!
# A platform in plain text

A platform to run connections on.  Keys are names, sealing appends a tag that tells the key,
and a handshake message is one byte.  It protects nothing; it has the properties that
results assume of a platform (`Plain.sealsAlways`, `Plain.initialKeys_injective`), so that these
can be had together, and a behaviour is shown by a run on it.
-/

namespace OxiQuic

/-- A packet key, by what it is for and by who seals with it. -/
inductive PlainKey where
  | initial (cid : ConnectionId) (sealer : Role)
  | handshake (sealer : Role)
  | oneRtt (sealer : Role) (epoch : Nat)
  deriving DecidableEq, Repr

/-- How far a handshake has come. -/
inductive PlainStage where
  | writeHello
  | waitHello
  | giveKeys
  | waitFinished
  | writeFinished
  | done
  deriving DecidableEq, Repr

/-- A TLS session: whose it is, its stage, and the parameters the peer will send. -/
structure PlainSession where
  role : Role
  stage : PlainStage
  peerParams : Bytes
  deriving DecidableEq, Repr

namespace Plain

def peer : Role → Role
  | .client => .server
  | .server => .client

/-- The keys of one side, given what each side seals with. -/
def keysFor (role : Role) (key : Role → PlainKey) : Keys PlainKey Unit where
  sending := ⟨(), key role⟩
  receiving := ⟨(), key (peer role)⟩

def initialKeys (cid : ConnectionId) (role : Role) : Keys PlainKey Unit :=
  keysFor role (.initial cid)

def packetKeySet (role : Role) (epoch : Nat) : PacketKeySet PlainKey where
  sending := .oneRtt role epoch
  receiving := .oneRtt (peer role) epoch

/-- A byte that tells the key. -/
def mark : PlainKey → UInt8
  | .initial cid .client => cid.foldl (· + ·) 1
  | .initial cid .server => cid.foldl (· + ·) 2
  | .handshake .client => 3
  | .handshake .server => 4
  | .oneRtt .client epoch => 5 + 2 * UInt8.ofNat epoch
  | .oneRtt .server epoch => 6 + 2 * UInt8.ofNat epoch

def tag (key : PlainKey) : Bytes := List.replicate 16 (mark key)

def packetEncrypt (key : PlainKey) (_pn : Nat) (_header payload : Bytes) :
    Option (Bytes × Bytes) :=
  some (payload, tag key)

def packetDecrypt (key : PlainKey) (_pn : Nat) (_header body : Bytes) : Option Bytes :=
  if body.drop (body.length - 16) = tag key then some (body.take (body.length - 16)) else none

/-- Sixteen, or thirty-two, bytes that depend on a message. -/
def digest (n : Nat) (message : Bytes) : Bytes :=
  List.replicate n (message.foldl (· + ·) 1)

/-- What a session has to write.  A client says hello, is given handshake keys once it has
heard from the server, and finishes; a server answers with both messages at once. -/
def writeHs (s : PlainSession) : PlainSession × Bytes × Option (KeyChange PlainKey Unit (Role × Nat)) :=
  match s.role, s.stage with
  | .client, .writeHello => ({ s with stage := .waitHello }, [1], none)
  | .client, .giveKeys =>
    ({ s with stage := .waitFinished }, [], some (.handshake (keysFor .client .handshake)))
  | .client, .writeFinished =>
    ({ s with stage := .done }, [2],
      some (.oneRtt (keysFor .client fun r => .oneRtt r 0) (.client, 1)))
  | .server, .writeHello =>
    ({ s with stage := .writeFinished }, [1],
      some (.handshake (keysFor .server .handshake)))
  | .server, .writeFinished =>
    ({ s with stage := .waitFinished }, [2],
      some (.oneRtt (keysFor .server fun r => .oneRtt r 0) (.server, 1)))
  | _, _ => (s, [], none)

def readHs (s : PlainSession) (_message : Bytes) : PlainSession × Except String Unit :=
  match s.role, s.stage with
  | .client, .waitHello => ({ s with stage := .giveKeys }, .ok ())
  | .client, .waitFinished => ({ s with stage := .writeFinished }, .ok ())
  | .server, .waitHello => ({ s with stage := .writeHello }, .ok ())
  | .server, .waitFinished => ({ s with stage := .done }, .ok ())
  | _, _ => (s, .error "unexpected message")

def quicTransportParameters (s : PlainSession) : Option Bytes :=
  match s.role, s.stage with
  | .client, .writeHello => none
  | _, .waitHello => none
  | _, _ => some s.peerParams

def keyChangesLeft (s : PlainSession) : Nat :=
  match s.role, s.stage with
  | .client, .waitFinished => 1
  | .server, .waitFinished => 0
  | _, .writeFinished => 1
  | _, .done => 0
  | _, _ => 2

theorem writeHs_keyChangesLeft (s : PlainSession) (h : (writeHs s).2.2.isSome = true) :
    keyChangesLeft (writeHs s).1 < keyChangesLeft s := by
  obtain ⟨role, stage, params⟩ := s
  cases role <;> cases stage <;> first | exact Nat.lt_succ_self _ | cases h

end Plain

/-- Congestion windows are integers in NewReno; the platform has no other numbers. -/
instance : F64 Unit where
  lit _ _ := ()
  add _ _ := ()
  sub _ _ := ()
  mul _ _ := ()
  div _ _ := ()
  cbrt _ := ()
  max _ _ := ()
  min _ _ := ()
  lt _ _ := false
  le _ _ := true
  infinity := ()
  toU64 _ := 0

/-- The platform.  Random bytes are a counter. -/
def Plain : Platform where
  Session := PlainSession
  PacketKey := PlainKey
  HeaderKey := Unit
  Secrets := Role × Nat
  Os := Nat
  Real := Unit
  real := inferInstance
  initialKeys := Plain.initialKeys
  packetEncrypt := Plain.packetEncrypt
  packetDecrypt := Plain.packetDecrypt
  tagLen _ := 16
  headerEncrypt _ _ first pn := some (first, pn)
  headerDecrypt _ _ first pn := some (first, pn)
  sampleLen _ := 16
  nextPacketKeys s := (Plain.packetKeySet s.1 s.2, (s.1, s.2 + 1))
  aes128GcmSeal _ _ aad _ := some (Plain.digest 16 aad)
  hmacSha256 _ message := Plain.digest 32 message
  utf8Lossy _ := ""
  writeHs := Plain.writeHs
  readHs := Plain.readHs
  isHandshaking s := s.stage != .done
  quicTransportParameters := Plain.quicTransportParameters
  zeroRttKeys _ := none
  isEarlyDataAccepted _ := false
  keyChangesLeft := Plain.keyChangesLeft
  writeHs_keyChangesLeft := Plain.writeHs_keyChangesLeft
  fill os n := (os + 1, some (List.replicate n (UInt8.ofNat (os + 1))))
  now os := (os + 1, os)

namespace Plain

instance : DecidableEq Plain.PacketKey := inferInstanceAs (DecidableEq PlainKey)

theorem tag_length (key : PlainKey) : (tag key).length = 16 := List.length_replicate

theorem unmasksInPlace : Plain.UnmasksInPlace where
  headerDecrypt h := by cases h; rfl
  sampleLen _ := Nat.le_refl 16

theorem initialKeys_injective {cid cid' : ConnectionId} {role role' : Role}
    (h : (Plain.initialKeys cid role).sending.packet
      = (Plain.initialKeys cid' role').sending.packet) : cid = cid' ∧ role = role' := by
  change PlainKey.initial cid role = PlainKey.initial cid' role' at h
  cases h
  exact ⟨rfl, rfl⟩

/-- A client that has not sent anything.  The server's parameters are `peerParams`. -/
def client (peerParams : Bytes) : Connection Plain :=
  .newClient (⟨.client, .writeHello, peerParams⟩ : PlainSession) 1 {} {} .newReno (0 : Nat)

theorem client_fresh (peerParams : Bytes) : (client peerParams).Fresh := .client ..

/-- The server that a client reaches first.  The client's parameters are `peerParams`. -/
def server (c : Connection Plain) (peerParams : Bytes) (localParams : TransportParams := {}) :
    Connection Plain :=
  .newServer (⟨.server, .waitHello, peerParams⟩ : PlainSession) c.initialDcid c.localCid 2
    localParams {} .newReno (100 : Nat)

theorem server_fresh (c : Connection Plain) (peerParams : Bytes)
    (localParams : TransportParams) : (server c peerParams localParams).Fresh := .server ..

/-- The server once it has answered the client's first packet, and its answer. -/
def answer (c : Connection Plain) (peerParams : Bytes) : Connection Plain × Bytes :=
  let reached := ((server c peerParams).handleDatagram 0 (c.pollTransmit 0 []).2.1).1
  let sent := reached.pollTransmit 0 []
  (sent.1, sent.2.1)

/-- The calls by which a client connects. -/
def joins (c : Connection Plain) : List Op :=
  [.pollTransmit 0 [], .handleDatagram 1 (answer c []).2]

/-- An Initial packet to a connection, from its peer or from anybody who has seen it start. -/
def initialPacket (c : Connection Plain) (pn : Nat) (frames : List Frame) : Bytes :=
  (buildLongPacket Plain []
    { longType := .initial, version := quicV1, dcid := c.localCid, scid := [], token := []
      packetNumber := pn, largestAcked := none }
    (frames.flatMap Frame.encode)
    (Plain.initialKeys c.initialDcid (peer c.role)).sending.packet ()).1

/-- A 1-RTT packet of the peer, of a key epoch and with a number and frames. -/
def shortPacket (c : Connection Plain) (epoch pn : Nat) (frames : List Frame) : Bytes :=
  (buildShortPacket Plain []
    { dcid := c.localCid, packetNumber := pn, largestAcked := none, keyPhase := epoch % 2 == 1 }
    (frames.flatMap Frame.encode) (PlainKey.oneRtt (peer c.role) epoch) ()).1

/-- The Retry packet that sends a connection to `scid`. -/
def retry (c : Connection Plain) (scid token : Bytes) : Bytes :=
  (encodeRetryPacket Plain scid c.localCid c.initialDcid token).getD []

end Plain

end OxiQuic
