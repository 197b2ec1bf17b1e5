import OxiQuic.Connection.Traffic

/-!
# What streams and the application leave alone

TLS, the packet-number spaces with their keys, and what recovery knows of packets and of the
path: `Connection.core`.  The calls of the application, all frames but `ACK` and CRYPTO, and the
end of the handshake leave it as it is.
-/

namespace OxiQuic

variable {P : Platform} (c : Connection P) (now : Time)

/-- What a connection has to do with packets. -/
structure Core (P : Platform) where
  role : Role
  tls : P.Session
  initialDcid : ConnectionId
  spaces : PerSpace (PacketSpace P)
  initialCrypto : CryptoStream
  handshakeCrypto : CryptoStream
  writeLevel : HandshakeLevel
  handshakeKeysReady : Bool
  oneRttReady : Bool
  sentPackets : PerSpace SentPackets
  rtt : RttEstimator
  loss : LossDetection
  lossTimer : Option Time
  probesOwed : Nat
  congestion : CongestionController P.Real
  retry : Retry
  keyUpdate : KeyUpdate P
  /-- Path MTU discovery without its timer. -/
  mtu : Mtu
  /-- The space and the largest number of each `ACK` frame taken in, newest first. -/
  heard : List (SpaceKind × Nat)

/-- The space and the largest number of an `ACK` frame that was taken in. -/
def Event.heard : Event P → Option (SpaceKind × Nat)
  | .received packetType (.ack largest _ _ _) => some (spaceIndex packetType, largest)
  | _ => none

/-- Whether a frame concerns packets or TLS. -/
def Frame.isCore : Frame → Bool
  | .ack .. => true
  | .crypto .. => true
  | _ => false

namespace Connection

def core (c : Connection P) : Core P where
  role := c.role
  tls := c.tls
  initialDcid := c.initialDcid
  spaces := c.spaces
  initialCrypto := c.initialCrypto
  handshakeCrypto := c.handshakeCrypto
  writeLevel := c.hs.writeLevel
  handshakeKeysReady := c.hs.handshakeKeysReady
  oneRttReady := c.hs.oneRttReady
  sentPackets := c.sentPackets
  rtt := c.recovery.rtt
  loss := c.recovery.loss
  lossTimer := c.recovery.lossTimer
  probesOwed := c.recovery.probesOwed
  congestion := c.congestion
  retry := c.retry
  keyUpdate := c.keyUpdate
  mtu := { c.mtu with nextMtuProbe := none }
  heard := c.trace.filterMap Event.heard

/-! ## The end of the handshake -/

theorem refreshHandshakeComplete_core : c.refreshHandshakeComplete.core = c.core := by
  refine refreshHandshakeComplete_kept (fun h => ?_) c
  cases h with
  | enter =>
    simp only [Mtu.scheduleInitialMtuProbe]
    split <;> rfl
  | issue => exact maybeIssueNewCid_kept (fun _ _ _ _ => rfl) _
  | learn => exact learnPeerParams_kept (fun _ _ => rfl) _
  | finish | settle | replay | token => rfl

theorem tryInstallZeroRttKeys_core : c.tryInstallZeroRttKeys.core = c.core := by
  rw [tryInstallZeroRttKeys_eq]
  rfl

/-! ## Receive windows -/

theorem advanceRecvFlow_core : c.advanceRecvFlow.core = c.core :=
  advanceRecvFlow_kept (fun _ _ _ _ _ => rfl) c

/-! ## Calls -/

/-- Of the calls of the application only the request for a key update concerns packets. -/
theorem step_core {op : Op} (hsimple : op.isSimple = true)
    (hkeep : ∀ now, op ≠ .initiateKeyUpdate now) : (c.step op).core = c.core := by
  by_cases haside : op.isAside = true
  · exact (congrArg core (step_aside c haside) :)
  cases op with
  | openBidi | openUni | sendStream | readStream | pollReadable | pollNewPeerStream | resetStream
  | queueEarlyData | popCidEvent | close =>
    simp only [step, openBidi, openUni, sendStream, readStream, pollReadable, pollNewPeerStream,
      resetStream, queueEarlyData, popCidEvent, close]
    repeat' split
    all_goals rfl
  | initiateKeyUpdate now => exact absurd rfl (hkeep now)
  | _ => first | exact absurd rfl haside | cases hsimple

/-! ## Frames -/

theorem handleFrame_core (packetType : PacketType) {frame : Frame}
    (h : Frame.isCore frame = false) : (c.handleFrame now packetType frame).1.core = c.core := by
  cases frame with
  | ack | crypto => cases h
  | stopSending | pathResponse =>
    simp only [handleFrame, recvStopSending, recvPathResponse]
    split <;> rfl
  | stream id offset fin data => exact recvStream_kept (fun _ _ _ _ => rfl) c id offset fin data
  | handshakeDone | newConnectionId | retireConnectionId | newToken | datagram =>
    exact handleFrame_minor (fun _ _ _ _ _ _ => rfl) c now packetType rfl
  | _ => rfl

theorem takeFrame_core (packetType : PacketType) {frame : Frame}
    (h : Frame.isCore frame = false) : (c.takeFrame now packetType frame).1.core = c.core := by
  have hlog : (c.log (.received packetType frame)).core = c.core := by
    cases frame with
    | ack largest delay firstRange ranges => cases h
    | _ => rfl
  exact (handleFrame_core (c.log (.received packetType frame)) now packetType h).trans hlog

end Connection

end OxiQuic
