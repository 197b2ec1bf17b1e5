import OxiQuic.Connection.FillSteps
import OxiQuic.Connection.LossView

/-!
# What sending, recovery and timers leave alone

`quiet` forgets what a connection has to say and `receiver` all that sending, acknowledgements
and timers change.  A function that changes nothing else leaves the forgetful view of the
connection as it is, and with it everything that can be read off that view.
-/

namespace OxiQuic

variable {P : Platform}

/-- A packet-number space without what sending and acknowledgements change. -/
def PacketSpace.receiver (s : PacketSpace P) : PacketSpace P :=
  { s with nextPacketNumber := 0, largestAcked := none, ackPending := false }

/-- Whether an event is that of a frame taken in or of a stream opened. -/
def Event.isInward : Event P → Bool
  | .received _ _ => true
  | .opened _ => true
  | _ => false

/-- Whether a frame changes nothing but what sending, acknowledgements and timers change, too. -/
def Frame.isOutward : Frame → Bool
  | .resetStream .. => false
  | .stream .. => false
  | .crypto .. => false
  | .pathResponse .. => false
  | .newConnectionId .. => false
  | .retireConnectionId .. => false
  | .maxStreams .. => false
  | .newToken .. => false
  | .datagram .. => false
  | _ => true

namespace Connection

/-- The frames taken in and the streams opened, newest first. -/
def chronicle (c : Connection P) : List (Event P) := c.trace.filter Event.isInward

/-- A connection that has nothing to say. -/
def still (c : Connection P) : Connection P :=
  { c.quiet with
    sendStreams := ∅
    flow := { c.quiet.flow with sendFlow := .new 0, streamSendFlow := ∅ } }

/-- A connection without what sending, acknowledgements and timers change. -/
def receiver (c : Connection P) : Connection P :=
  { c.still with
    state := .handshaking
    spaces := c.still.spaces.map PacketSpace.receiver
    timers := { idleTimeout := none }
    closing := {}
    sentPackets := .const {}
    recovery := {}
    congestion := .fromConfig .newReno 0
    stats := {}
    mtu := { maxMtu := 0, mtuDiscoveryEnabled := false }
    zeroRtt := { c.zeroRtt with sent := false }
    trace := c.chronicle }

theorem still_of_quiet {c d : Connection P} (h : d.quiet = c.quiet) : d.still = c.still := by
  rw [still, still, h]

theorem receiver_of_still {c d : Connection P} (h : d.still = c.still) :
    d.receiver = c.receiver := by
  have hearly : d.zeroRtt = c.zeroRtt := congrArg (·.zeroRtt) h
  have hchronicle : d.chronicle = c.chronicle := congrArg (·.chronicle) h
  rw [receiver, receiver, h, hearly, hchronicle]

/-! ## Filling a packet -/

section Fill

variable (f : Filling P) (budget : Nat)

theorem buildAck_quiet (s : PacketSpace P) (delay : Nat) :
    ({ (s.buildAck delay).1 with ackPending := false } : PacketSpace P)
      = { s with ackPending := false } := by
  simp only [PacketSpace.buildAck]
  split
  · split <;> rfl
  · rfl

variable (c : Connection P) (kind : SpaceKind)

theorem buildAck_conn_quiet : ({ c with
    spaces := c.spaces.set kind ((c.spaces.get kind).buildAck 0).1 } : Connection P).quiet
      = c.quiet := by
  have hspaces : (c.spaces.set kind ((c.spaces.get kind).buildAck 0).1).map
      (fun s => ({ s with ackPending := false } : PacketSpace P))
        = c.spaces.map fun s => { s with ackPending := false } :=
    PerSpace.map_set_of_eq (buildAck_quiet _ 0)
  simp only [quiet, hspaces]

theorem fillAck_quiet : (fillAck f kind).conn.quiet = f.conn.quiet := by
  simp only [fillAck]
  split <;> exact buildAck_conn_quiet f.conn kind

theorem setCryptoStream_quiet (s : CryptoStream) : (c.setCryptoStream kind s).quiet = c.quiet := by
  cases kind <;> rfl

theorem fillCrypto_quiet : (fillCrypto f kind budget).conn.quiet = f.conn.quiet := by
  simp only [fillCrypto]
  split
  · rfl
  · split <;> exact setCryptoStream_quiet _ _ _

theorem fillProbe_quiet : (fillProbe f).conn.quiet = f.conn.quiet := by
  simp only [fillProbe]
  split
  · split <;> rfl
  · rfl

theorem fillKeepAlive_quiet : (fillKeepAlive f).conn.quiet = f.conn.quiet := by
  simp only [fillKeepAlive]
  split <;> rfl

theorem fillKeyUpdatePing_quiet : (fillKeyUpdatePing f).conn.quiet = f.conn.quiet := by
  simp only [fillKeyUpdatePing]
  split <;> rfl

theorem fillMtuProbe_quiet (size : Nat) : (fillMtuProbe f size).conn.quiet = f.conn.quiet := by
  simp only [fillMtuProbe]
  split <;> rfl

theorem fillControl_quiet : (fillControl f budget).conn.quiet = f.conn.quiet :=
  (fillControl_controls .application f budget).quiet

theorem FillStep.still {f f' : Filling P} (h : FillStep kind budget f f') :
    f'.conn.still = f.conn.still := by
  cases h with
  | ack hack =>
    obtain rfl := congrArg Prod.fst hack
    exact still_of_quiet (buildAck_conn_quiet f.conn kind)
  | crypto => exact still_of_quiet (setCryptoStream_quiet _ _ _)
  | mtuProbe => exact still_of_quiet (fillMtuProbe_quiet f _)
  | @maxStreams dir | @streamsBlocked dir => cases dir <;> rfl
  | streamFlow | stream | connectionBlocked | streamBlocked =>
    simp only [ensureStreamSendFlow, chargeFlow, noteBlockedConnection, noteBlockedStream]
    repeat' split
    all_goals rfl
  | _ => rfl

theorem fillPayload_still : (c.fillPayload kind budget).conn.still = c.still :=
  (fillPayload_fills c kind budget).invariant (I := fun g => g.conn.still = c.still)
    (fun _ _ hstep hg => (hstep.still budget kind).trans hg) rfl

end Fill

/-! ## Sealing -/

variable (c : Connection P) (now : Time) (kind : SpaceKind) (out : Bytes)

theorem allocate_receiver : (c.allocate kind).receiver = c.receiver := by
  cases kind <;> rfl

theorem recordSent_receiver (now : Time)
    (pn sentBytes : Nat) (frames : List SentFrame) (ackEliciting : Bool) :
    (c.recordSent kind now pn sentBytes frames ackEliciting).receiver = c.receiver := by
  simp only [recordSent]
  split <;> rfl

theorem rotateToNextEpoch_ackPending (s : PacketSpace P) (next : PacketKeySet P.PacketKey) :
    PacketSpace.rotateToNextEpoch { s with ackPending := false } next =
      ({ (s.rotateToNextEpoch next).1 with ackPending := false }, (s.rotateToNextEpoch next).2) := by
  obtain ⟨keys, _, _, _, _⟩ := s
  cases keys <;> rfl

theorem rotateKeys_still (retireAfter : Time) :
    (c.rotateKeys retireAfter).still = c.still.rotateKeys retireAfter := by
  have hupdate : c.still.keyUpdate = c.keyUpdate := rfl
  have hspace : c.still.spaces.application
      = { c.spaces.application with ackPending := false } := rfl
  simp only [rotateKeys, hupdate, hspace]
  split
  · rfl
  split
  · rfl
  · rw [rotateToNextEpoch_ackPending]
    rfl

theorem initiateKeyUpdateNow_still :
    (c.initiateKeyUpdateNow now).still = c.still.initiateKeyUpdateNow now := by
  have hrotate := rotateKeys_still
    { c with keyUpdate := { c.keyUpdate with keyUpdatePending := false } }
    (now + c.recovery.rtt.ptoBase c.recovery.peerMaxAckDelay * 3)
  simp only [initiateKeyUpdateNow]
  exact congrArg (fun d : Connection P => { d with keyUpdate := { d.keyUpdate with
    keyPhase := !d.keyUpdate.keyPhase
    keyUpdateCount := d.keyUpdate.keyUpdateCount + 1
    keyUpdateCooldown := some
      (now + c.recovery.rtt.ptoBase c.recovery.peerMaxAckDelay * 3) } }) hrotate

theorem beforeSeal_still (now : Time) :
    (c.beforeSeal kind now).still = c.still.beforeSeal kind now := by
  have hupdate : c.still.keyUpdate = c.keyUpdate := rfl
  simp only [beforeSeal, hupdate]
  split
  · split
    · exact congrArg (fun d : Connection P => { d with keyUpdate := { d.keyUpdate with
        keyUpdateReceived := false } }) (initiateKeyUpdateNow_still c now)
    · rfl
  · rfl

/-- Sealing a filled packet changes the keys, if they are to be changed, and otherwise only
what sending changes. -/
theorem sealFilled_receiver {c : Connection P} {f : Filling P} (h : f.conn.still = c.still)
    (now : Time) (kind : SpaceKind) (out : Bytes) :
    (sealFilled f now kind out).1.receiver = (c.beforeSeal kind now).receiver := by
  have hbefore : (f.conn.beforeSeal kind now).receiver = (c.beforeSeal kind now).receiver := by
    apply receiver_of_still
    rw [beforeSeal_still, h, beforeSeal_still]
  simp only [sealFilled]
  generalize f.conn.beforeSeal kind now = d at hbefore
  split
  · exact (allocate_receiver d kind).trans hbefore
  split
  · exact (allocate_receiver d kind).trans hbefore
  · refine (recordSent_receiver _ _ _ _ _ _ _).trans ?_
    exact (allocate_receiver d kind).trans hbefore

theorem writeIf_receiver (cond : Bool) :
    (writeIf cond c now kind out).1.receiver = c.receiver ∨
      (writeIf cond c now kind out).1.receiver = (c.beforeSeal kind now).receiver := by
  refine writeIf_cases (I := fun r => r.1.receiver = c.receiver ∨
    r.1.receiver = (c.beforeSeal kind now).receiver) (.inl rfl) fun budget _ => ?_
  have hfill := fillPayload_still budget c kind
  split
  · exact .inl (receiver_of_still hfill)
  · exact .inr (sealFilled_receiver hfill now kind out)

theorem writeEarly_receiver (wroteInitial : Bool) (c : Connection P) (out : Bytes) :
    (writeEarly wroteInitial c out).1.receiver = c.receiver := by
  exact writeEarly_cases (I := fun r => r.1.receiver = c.receiver) rfl (fun _ _ _ => rfl)
    fun _ _ _ _ => rfl

theorem emitClose_receiver : (c.emitClose out).1.receiver = c.receiver := by
  have htaken : c.takeClose.1.receiver = c.receiver := by
    obtain ⟨_, htaken⟩ := takeClose_conn c
    rw [htaken]
    rfl
  simp only [emitClose]
  generalize c.takeClose = taken at htaken
  generalize c.closeSpace = kind
  split
  · exact htaken
  split
  · exact (allocate_receiver _ kind).trans htaken
  · split <;> exact (allocate_receiver _ kind).trans htaken

/-! ## Acknowledgements, loss and timers -/

theorem requeueFrame_receiver (idx : SpaceKind) (frame : SentFrame) :
    (c.requeueFrame idx frame).receiver = c.receiver := by
  cases frame with
  | crypto | newToken =>
    simp only [requeueFrame]
    split <;> rfl
  | maxStreams dir max =>
    have hlimit : ∀ l : StreamLimit, (l.requeueMaxStreams max).quiet = l.quiet := by
      intro l
      simp only [StreamLimit.requeueMaxStreams]
      split
      · split <;> rfl
      · rfl
    cases dir with
    | bidirectional =>
      exact congrArg (fun l => ({ c.receiver with limits := ⟨l, c.limits.uni.quiet⟩ } :
        Connection P)) (hlimit c.limits.bidi)
    | unidirectional =>
      exact congrArg (fun l => ({ c.receiver with limits := ⟨c.limits.bidi.quiet, l⟩ } :
        Connection P)) (hlimit c.limits.uni)
  | streamsBlocked dir limit => cases dir <;> rfl
  | _ => rfl

theorem mends_receiver : Mends c (fun _ => True) fun d => d.receiver = c.receiver where
  untimed _ _ _ _ h := h
  probed _ _ _ h := h
  unprobed _ h := h
  forget _ _ _ _ _ h := h
  acked _ _ _ h := h
  lost _ _ _ h := h
  requeue d idx frame _ _ h := (requeueFrame_receiver d idx frame).trans h

theorem processAck_receiver (packetType : PacketType)
    (largest delay firstRange : Nat) (ranges : List AckRange) :
    (c.processAck now packetType largest delay firstRange ranges).receiver = c.receiver := by
  refine (mends_receiver c).processAck trivial now largest delay firstRange ranges ?_
  cases packetType <;> rfl

/-! ## Frames -/

theorem raiseMaxStreams_quiet (l : StreamLimit) : (raiseMaxStreams l).quiet = l.quiet := by
  simp only [raiseMaxStreams]
  split <;> rfl

theorem handleFrame_receiver (packetType : PacketType)
    {frame : Frame} (h : Frame.isOutward frame = true) :
    (c.handleFrame now packetType frame).1.receiver = c.receiver := by
  cases frame with
  | padding | ping | maxData | maxStreamData | dataBlocked | streamDataBlocked | pathChallenge
  | connectionClose => rfl
  | ack largest delay firstRange ranges => exact processAck_receiver _ now packetType _ _ _ _
  | stopSending | handshakeDone =>
    simp only [handleFrame, recvStopSending]
    split <;> rfl
  | streamsBlocked dir limit =>
    cases dir with
    | bidirectional =>
      exact congrArg (fun l => ({ c.receiver with limits := ⟨l, c.limits.uni.quiet⟩ } :
        Connection P)) (raiseMaxStreams_quiet c.limits.bidi)
    | unidirectional =>
      exact congrArg (fun l => ({ c.receiver with limits := ⟨c.limits.bidi.quiet, l⟩ } :
        Connection P)) (raiseMaxStreams_quiet c.limits.uni)
  | _ => cases h

/-! ## Updates -/

/-- What an update can do to the receiving side. -/
inductive Receives (c d : Connection P) : Op → Prop where
  | same {op : Op} : d.receiver = c.receiver → Receives c d op
  /-- A frame is heard and does not concern the receiving side. -/
  | hear (now : Time) (datagram : Bytes) (packetType : PacketType) (frame : Frame) :
      Frame.isOutward frame = true →
      d.receiver = (c.log (.received packetType frame)).receiver →
      Receives c d (.handleDatagram now datagram)
  /-- A packet is sealed, perhaps under new keys. -/
  | rekey (now : Time) (out : Bytes) :
      d.receiver = (c.beforeSeal .application now).receiver → Receives c d (.pollTransmit now out)
  | call {op : Op} : op.isSimple = true → d = c.step op → Receives c d op
  | pump {op : Op} : d = c.pumpOnce → Receives c d op
  | refresh {op : Op} : d = c.refreshHandshakeComplete → Receives c d op
  | earlyKeys {op : Op} : d = c.tryInstallZeroRttKeys → Receives c d op
  | retry (now : Time) (datagram : Bytes) (offset : Nat) :
      d = (c.recvRetryPacket datagram offset).1 → Receives c d (.handleDatagram now datagram)
  | adopt (now : Time) (datagram : Bytes) (parsed : ParsedPacket) :
      d = c.adoptPeerCid parsed → Receives c d (.handleDatagram now datagram)
  | follow (now : Time) (datagram : Bytes) : c.OpensNext datagram →
      d = c.performKeyUpdate now → Receives c d (.handleDatagram now datagram)
  | packet (now : Time) (datagram : Bytes) : d = c.beginPacket →
      Receives c d (.handleDatagram now datagram)
  | frame (now : Time) (datagram : Bytes) (packetType : PacketType) (frame : Frame) :
      Frame.isOutward frame = false → d = (c.takeFrame now packetType frame).1 →
      Receives c d (.handleDatagram now datagram)
  | note (now : Time) (datagram : Bytes) (space : SpaceKind) (pn : Nat) (ackEliciting : Bool) :
      d = c.notePacket space pn ackEliciting → Receives c d (.handleDatagram now datagram)
  | advance (now : Time) (out : Bytes) : d = c.advanceRecvFlow →
      Receives c d (.pollTransmit now out)

theorem Update.receives {op : Op} {c d : Connection P} (h : Update op c d) : Receives c d op := by
  cases h with
  | call c hsimple => exact .call hsimple rfl
  | pump op c => exact .pump rfl
  | refresh op c => exact .refresh rfl
  | earlyKeys op c => exact .earlyKeys rfl
  | retry c now datagram offset => exact .retry now datagram offset rfl
  | adopt c now datagram parsed => exact .adopt now datagram parsed rfl
  | follow c now datagram hopens => exact .follow now datagram hopens rfl
  | packet c now datagram => exact .packet now datagram rfl
  | frame c now datagram packetType frame =>
    cases houtward : Frame.isOutward frame with
    | true =>
      exact .hear now datagram packetType frame houtward
        (handleFrame_receiver (c.log (.received packetType frame)) now packetType houtward)
    | false => exact .frame now datagram packetType frame houtward rfl
  | note c now datagram space pn ackEliciting => exact .note now datagram space pn ackEliciting rfl
  | close c now out => exact .same (emitClose_receiver c out)
  | advance c now out => exact .advance now out rfl
  | initial c now out buf | handshake c now out buf =>
    exact .same ((writeIf_receiver c now _ buf _).elim id id)
  | early c now out buf wroteInitial => exact .same (writeEarly_receiver wroteInitial c buf)
  | application c now out buf wroteInitial =>
    rcases writeIf_receiver c now .application buf _ with hsame | hseal
    · exact .same hsame
    · exact .rekey now out hseal
  | keepAlive | mtu =>
    refine .same ?_
    simp only [keepAliveDue, mtuProbeDue]
    split <;> rfl
  | loss c now => exact .same ((mends_receiver c).lossTimerDue (fun _ => trivial) rfl now)
  | _ => exact .same rfl

end Connection

end OxiQuic
