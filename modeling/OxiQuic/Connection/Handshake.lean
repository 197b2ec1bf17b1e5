import OxiQuic.Connection.State
import OxiQuic.Wire.ParamsCodec

/-!
# Handshake

Moving handshake bytes and keys from TLS into the connection, and what happens once when
the handshake completes (`oxiquic-transport/src/connection/mod.rs`).
-/

namespace OxiQuic

variable {P : Platform}

/-! ## Path MTU discovery -/

namespace Mtu

/-- The next size to probe: half way to the ceiling. -/
def nextProbeSize (m : Mtu) : Option Nat :=
  if m.maxMtu ≤ m.currentMtu then none
  else
    let mid := m.currentMtu + (m.maxMtu - m.currentMtu) / 2
    if mid ≤ m.currentMtu then none else some mid

/-- Start a probe.  A probe already under way or disabled discovery only clear the timer. -/
def scheduleMtuProbe (m : Mtu) (state : ConnectionState) : Mtu :=
  if !m.mtuDiscoveryEnabled || state ≠ .established || m.probeMtu.isSome then
    { m with nextMtuProbe := none }
  else
    match m.nextProbeSize with
    | some size =>
      { m with
        probeMtu := some size, probeCount := 0, pendingMtuProbe := true, nextMtuProbe := none }
    | none => { m with nextMtuProbe := none }

def onMtuProbeAcked (m : Mtu) (size : Nat) (now : Time) : Mtu :=
  let m := { m with
    currentMtu := max size m.currentMtu, probeMtu := none, probeCount := 0
    pendingMtuProbe := false }
  if m.nextProbeSize.isSome then { m with nextMtuProbe := some (now + millis 100) } else m

def maxProbeRetries : Nat := 2

/-- A probe was lost: try again, or give up discovery for good. -/
def onMtuProbeLost (m : Mtu) : Mtu :=
  let count := min (m.probeCount + 1) 255
  if count < maxProbeRetries then { m with probeCount := count, pendingMtuProbe := true }
  else
    { m with
      probeMtu := none, probeCount := 0, pendingMtuProbe := false, mtuDiscoveryEnabled := false }

def scheduleInitialMtuProbe (m : Mtu) (now : Time) : Mtu :=
  if m.mtuDiscoveryEnabled && m.currentMtu < m.maxMtu then
    { m with nextMtuProbe := some (now + millis 200) }
  else m

end Mtu

/-! ## Timers -/

/-- Push the idle deadline out, and the keep-alive with it. -/
def Timers.armIdleTimer (t : Timers) (now : Time) : Timers :=
  let t := match t.idleTimeout with
    | some timeout => { t with idleDeadline := some (now + timeout) }
    | none => t
  match t.keepAliveInterval with
  | some interval => { t with nextKeepAlive := some (now + interval) }
  | none => t

namespace Connection

def armIdleTimer (c : Connection P) (now : Time) : Connection P :=
  { c with timers := c.timers.armIdleTimer now }

/-- The earliest instant at which `handleTimeout` has something to do. -/
def nextTimeout (c : Connection P) : Option Time :=
  earliestOf ([c.timers.idleDeadline, c.recovery.lossTimer, c.timers.nextKeepAlive,
    c.mtu.nextMtuProbe].filterMap id)

/-! ## Completion -/

/-- Issue one more connection ID if the limit allows it. -/
def maybeIssueNewCid (c : Connection P) : Connection P × Except OxiQuicError Unit :=
  if !c.cids.localCidPool.canIssue then (c, .ok ())
  else
    let filled := P.fill c.os 8
    let c := { c with os := filled.1 }
    match filled.2 with
    | none => (c, .error (.protocol "secure_random fill failed"))
    | some raw =>
      let issued := c.cids.localCidPool.issueNewCid P raw
      let c := { c with cids := { c.cids with localCidPool := issued.1 } }
      match issued.2 with
      | .error e => (c, .error e)
      | .ok (_, cid) =>
        ({ c with cids := { c.cids with
            pendingCidEvents := c.cids.pendingCidEvents ++ [.register cid] } }, .ok ())

/-- Issue up to `n` connection IDs, stopping at the first failure. -/
def issueCids : Nat → Connection P → Connection P
  | 0, c => c
  | n + 1, c =>
    let r := c.maybeIssueNewCid
    match r.2 with
    | .ok () => issueCids n r.1
    | .error _ => r.1

/-- Issuing a connection ID changes the pool and the source of randomness. -/
theorem maybeIssueNewCid_kept {α : Type} {f : Connection P → α}
    (hf : ∀ (c : Connection P) os pool events, f { c with os := os, cids := { c.cids with
      localCidPool := pool, pendingCidEvents := events } } = f c)
    (c : Connection P) : f c.maybeIssueNewCid.1 = f c := by
  simp only [maybeIssueNewCid]
  split
  · rfl
  split
  · exact hf c _ _ _
  · split <;> exact hf c _ _ _

theorem issueCids_kept {α : Type} {f : Connection P → α}
    (hf : ∀ (c : Connection P) os pool events, f { c with os := os, cids := { c.cids with
      localCidPool := pool, pendingCidEvents := events } } = f c)
    (n : Nat) (c : Connection P) : f (issueCids n c) = f c := by
  induction n generalizing c with
  | zero => rfl
  | succ n ih =>
    simp only [issueCids]
    split
    · exact (ih _).trans (maybeIssueNewCid_kept hf c)
    · exact maybeIssueNewCid_kept hf c

/-- Adopt the peer's limits. -/
def applyPeerParams (c : Connection P) (params : TransportParams) : Connection P :=
  { c with
    flow := { c.flow with
      sendFlow := c.flow.sendFlow.onMaxData params.initialMaxData
      streamSendFlow := c.flow.streamSendFlow.mapValues fun _ f =>
        f.onMaxData params.initialMaxStreamDataBidiRemote }
    recovery := { c.recovery with peerMaxAckDelay := millis params.maxAckDelayMs }
    limits := {
      bidi := { c.limits.bidi with peerMaxStreams := params.initialMaxStreamsBidi }
      uni := { c.limits.uni with peerMaxStreams := params.initialMaxStreamsUni } }
    datagrams := { c.datagrams with peerMaxDatagramFrameSize := params.maxDatagramFrameSize } }

def peerInitialStreamLimit (c : Connection P) : Nat :=
  match c.hs.peerParams with
  | some p => p.initialMaxStreamDataBidiRemote
  | none => 0

/-- Decode the peer's transport parameters the first time TLS has them. -/
def learnPeerParams (c : Connection P) : Connection P :=
  if c.hs.peerParams.isSome then c
  else
    match P.quicTransportParameters c.tls with
    | none => c
    | some raw =>
      match decodeTransportParams raw with
      | .error _ => c
      | .ok p =>
        let c := c.applyPeerParams p
        { c with hs := { c.hs with peerParams := some p } }

/-- Write early data that the server rejected to its stream, which comes into being if it
was not there. -/
def replayEarlyData (c : Connection P) (early : StreamId × Bytes × Bool) : Connection P :=
  { c with
    sendStreams := c.sendStreams.insert early.1
      (((c.sendStreams.get? early.1).getD {}).write early.2.1 early.2.2) }.log
    (.replayed early.1)

/-- Learn whether the server took the early data. -/
def settleEarlyData (c : Connection P) : Connection P :=
  let attemptedZeroRtt :=
    c.zeroRtt.sent || !c.zeroRtt.earlyDataBuf.isEmpty || c.zeroRtt.keys.isSome
  if c.role = .client && c.zeroRtt.accepted.isNone && attemptedZeroRtt then
    let accepted := P.isEarlyDataAccepted c.tls
    let buf := c.zeroRtt.earlyDataBuf
    let c := { c with zeroRtt := { c.zeroRtt with accepted := some accepted, earlyDataBuf := [] } }
    if !accepted then buf.foldl replayEarlyData c else c
  else c

/-- The address validation token a server hands out, a mix of its connection ID. -/
def newTokenBytes (cid : ConnectionId) : Bytes :=
  (List.range 16).map fun i =>
    cid.getD i 0 ^^^ cid.getD (i + 4) 0 ^^^ (UInt8.ofNat i * 0x9e)

def queueNewToken (c : Connection P) : Connection P :=
  if c.role = .server && c.tokens.pendingNew.isNone then
    { c with tokens := { c.tokens with pendingNew := some (newTokenBytes c.localCid) } }
  else c

/-- Become established: schedule a path MTU probe and issue connection IDs. -/
def enterEstablished (c : Connection P) (now : Time) : Connection P :=
  if c.state = .handshaking then
    let c := { c with state := .established, mtu := c.mtu.scheduleInitialMtuProbe now }
    issueCids (c.cids.localCidPool.limit - 1) c
  else c

/-- Notice that TLS has finished. -/
def refreshHandshakeComplete (c : Connection P) : Connection P :=
  if !c.hs.handshakeComplete && !P.isHandshaking c.tls then
    let clock := P.now c.os
    let c := { c with os := clock.1, hs := { c.hs with handshakeComplete := true } }
    ((c.enterEstablished clock.2).learnPeerParams.settleEarlyData).queueNewToken
  else c

/-- Learning the peer's parameters changes what `applyPeerParams` does. -/
theorem learnPeerParams_kept {α : Type} {f : Connection P → α}
    (hf : ∀ (c : Connection P) p,
      f { c.applyPeerParams p with hs := { c.hs with peerParams := some p } } = f c)
    (c : Connection P) : f c.learnPeerParams = f c := by
  simp only [learnPeerParams]
  split
  · rfl
  split
  · rfl
  split
  · rfl
  · exact hf c _

/-- The steps in which the handshake completes. -/
inductive Completes : Connection P → Connection P → Prop
  | finish (c : Connection P) : Completes c
      { c with os := (P.now c.os).1, hs := { c.hs with handshakeComplete := true } }
  | enter (c : Connection P) (now : Time) : Completes c
      { c with state := .established, mtu := c.mtu.scheduleInitialMtuProbe now }
  | issue (c : Connection P) : Completes c c.maybeIssueNewCid.1
  | learn (c : Connection P) : Completes c c.learnPeerParams
  | settle (c : Connection P) (accepted : Bool) : Completes c
      { c with zeroRtt := { c.zeroRtt with accepted := some accepted, earlyDataBuf := [] } }
  | replay (c : Connection P) (early : StreamId × Bytes × Bool) :
      Completes c (c.replayEarlyData early)
  | token (c : Connection P) (token : Bytes) : Completes c
      { c with tokens := { c.tokens with pendingNew := some token } }

section Completion

variable {R : Connection P → Connection P → Prop} (hrefl : ∀ c, R c c)
  (htrans : ∀ {c d e}, R c d → R d e → R c e) (hstep : ∀ {c d}, Completes c d → R c d)
include hrefl htrans hstep

theorem enterEstablished_completes (c : Connection P) (now : Time) :
    R c (c.enterEstablished now) := by
  have hissue (n : Nat) (c : Connection P) : R c (issueCids n c) := by
    induction n generalizing c with
    | zero => exact hrefl c
    | succ n ih =>
      simp only [issueCids]
      split
      · exact htrans (hstep (.issue c)) (ih _)
      · exact hstep (.issue c)
  simp only [enterEstablished]
  split
  · exact htrans (hstep (.enter c now)) (hissue _ _)
  · exact hrefl c

theorem settleEarlyData_completes (c : Connection P) : R c c.settleEarlyData := by
  have hreplay (buf : List (StreamId × Bytes × Bool)) (c : Connection P) :
      R c (buf.foldl replayEarlyData c) := by
    induction buf generalizing c with
    | nil => exact hrefl c
    | cons early rest ih => exact htrans (hstep (.replay c early)) (ih _)
  simp only [settleEarlyData]
  split
  · refine htrans (hstep (.settle c (P.isEarlyDataAccepted c.tls))) ?_
    split
    · exact hreplay _ _
    · exact hrefl _
  · exact hrefl c

/-- What every step keeps, the completion of the handshake keeps. -/
theorem refreshHandshakeComplete_completes (c : Connection P) :
    R c c.refreshHandshakeComplete := by
  have htoken (c : Connection P) : R c c.queueNewToken := by
    simp only [queueNewToken]
    split
    · exact hstep (.token c _)
    · exact hrefl c
  simp only [refreshHandshakeComplete]
  split
  · refine htrans (hstep (.finish c)) ?_
    refine htrans (enterEstablished_completes hrefl htrans hstep _ (P.now c.os).2) ?_
    refine htrans (hstep (.learn _)) ?_
    exact htrans (settleEarlyData_completes hrefl htrans hstep _) (htoken _)
  · exact hrefl c

end Completion

theorem refreshHandshakeComplete_kept {α : Type} {f : Connection P → α}
    (hf : ∀ {c d}, Completes c d → f d = f c) (c : Connection P) :
    f c.refreshHandshakeComplete = f c :=
  refreshHandshakeComplete_completes (R := fun c d => f d = f c) (fun _ => rfl)
    (fun hcd hde => hde.trans hcd) hf c

/-! ## Writing the handshake -/

def tryInstallZeroRttKeys (c : Connection P) : Connection P :=
  match c.zeroRtt.keys with
  | some _ => c
  | none => { c with zeroRtt := { c.zeroRtt with keys := P.zeroRttKeys c.tls } }

theorem tryInstallZeroRttKeys_eq (c : Connection P) : c.tryInstallZeroRttKeys = { c with
    zeroRtt := { c.zeroRtt with keys := c.zeroRtt.keys.or (P.zeroRttKeys c.tls) } } := by
  simp only [tryInstallZeroRttKeys]
  split
  · rename_i keys hkeys
    rw [hkeys, Option.some_or, ← hkeys]
  · rename_i hkeys
    rw [hkeys, Option.none_or]

/-- Queue handshake bytes at the current level.  A client keeps a copy of its Initial
bytes in case of a Retry. -/
def queueHandshakeBytes (c : Connection P) (buf : Bytes) : Connection P :=
  if buf.isEmpty then c
  else
    match c.hs.writeLevel with
    | .initial =>
      let c := if c.role = .client then
          { c with retry := { c.retry with
              cachedInitialHsBytes := c.retry.cachedInitialHsBytes ++ buf } }
        else c
      let c := { c with initialCrypto := c.initialCrypto.enqueueSend buf }
      if c.role = .client then c.tryInstallZeroRttKeys else c
    | .handshake => { c with handshakeCrypto := c.handshakeCrypto.enqueueSend buf }

/-- Install new keys. -/
def installKeys (c : Connection P) (change : KeyChange P.PacketKey P.HeaderKey P.Secrets) :
    Connection P :=
  match change with
  | .handshake keys =>
    { c with
      spaces := { c.spaces with handshake := c.spaces.handshake.setKeys keys }
      hs := { c.hs with handshakeKeysReady := true, writeLevel := .handshake } }
  | .oneRtt keys next =>
    let secrets := P.nextPacketKeys next
    let c := { c with
      keyUpdate := { c.keyUpdate with
        oneRttSecrets := some secrets.2, nextOneRttKeys := some secrets.1 }
      spaces := { c.spaces with application := c.spaces.application.setKeys keys }
      hs := { c.hs with oneRttReady := true } }
    if c.role = .server then c.tryInstallZeroRttKeys else c

/-- Drain TLS until it hands out no more keys.  `keyChangesLeft` bounds the loop. -/
def pumpFuel : Nat → Connection P → Connection P
  | 0, c => c
  | fuel + 1, c =>
    let written := P.writeHs c.tls
    let c := { c with tls := written.1 }.queueHandshakeBytes written.2.1
    match written.2.2 with
    | some change => pumpFuel fuel (c.installKeys change)
    | none => c

def pumpWriteHs (c : Connection P) : Connection P :=
  (pumpFuel (P.keyChangesLeft c.tls + 1) c).refreshHandshakeComplete

/-- Start over in the Initial space with the server's connection ID and token. -/
def rekeyInitialForRetry (c : Connection P) (newDcid retryToken : Bytes) : Connection P :=
  let c := { c with
    initialDcid := newDcid
    spaces := { c.spaces with initial := {} } }.installInitialKeys
  { c with
    initialCrypto := CryptoStream.enqueueSend {} c.retry.cachedInitialHsBytes
    retry := { c.retry with
      retryToken := some retryToken, retryCount := c.retry.retryCount + 1 } }

end Connection

end OxiQuic
