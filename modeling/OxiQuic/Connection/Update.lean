import OxiQuic.Connection.Step

/-!
# Elementary updates

Every call into a connection is a sequence of elementary updates, each of them one function
of the model.  What holds of a connection and is kept by each update holds throughout every
run (`Connection.invariant_run`), also in the middle of a call.
-/

namespace OxiQuic

open Lib

variable {P : Platform} {I : Connection P → Prop}

/-- The calls that are one update by themselves. -/
def Op.isSimple : Op → Bool
  | .pollTransmit _ _ => false
  | .handleDatagram _ _ => false
  | .handleTimeout _ => false
  | _ => true

/-- The calls about datagrams, tokens, paths and the keep-alive interval, and the request that the
peer stop sending. -/
def Op.isAside : Op → Bool
  | .stopSending _ _ | .sendDatagram _ | .recvDatagram | .takeReceivedToken
  | .setKeepAliveInterval _ | .initiatePathChallenge | .setCandidatePeerAddr _ | .addPath _ _
  | .setPreferredPath _ => true
  | _ => false

/-- The calls about streams. -/
def Op.isStreaming : Op → Bool
  | .openBidi | .openUni | .sendStream _ _ _ | .readStream _ | .pollReadable | .pollNewPeerStream
  | .resetStream _ _ | .queueEarlyData _ _ _ => true
  | _ => false

namespace Connection

/-- One round of `pumpFuel`. -/
def pumpOnce (c : Connection P) : Connection P :=
  let written := P.writeHs c.tls
  let c := { c with tls := written.1 }.queueHandshakeBytes written.2.1
  match written.2.2 with
  | some change => c.installKeys change
  | none => c

theorem queueHandshakeBytes_conn (c : Connection P) (buf : Bytes) :
    ∃ cached initial handshake keys, c.queueHandshakeBytes buf = { c with
        retry := { c.retry with cachedInitialHsBytes := cached }
        initialCrypto := initial, handshakeCrypto := handshake
        zeroRtt := { c.zeroRtt with keys := keys } } ∧
      initial.reassembler = c.initialCrypto.reassembler ∧
      handshake.reassembler = c.handshakeCrypto.reassembler := by
  simp only [queueHandshakeBytes, tryInstallZeroRttKeys_eq]
  split
  · exact ⟨_, _, _, _, rfl, rfl, rfl⟩
  split
  · by_cases hclient : c.role = .client
    · rw [if_pos hclient, if_pos hclient]
      exact ⟨_, _, _, _, rfl, rfl, rfl⟩
    · rw [if_neg hclient, if_neg hclient]
      exact ⟨_, _, _, _, rfl, rfl, rfl⟩
  · exact ⟨_, _, _, _, rfl, rfl, rfl⟩

/-- A round queues what TLS writes and then may install keys. -/
theorem pumpOnce_cases {I : Connection P → Prop} {c : Connection P}
    (h : ∀ cached initial handshake early,
      initial.reassembler = c.initialCrypto.reassembler →
      handshake.reassembler = c.handshakeCrypto.reassembler →
      let d := { c with
        tls := (P.writeHs c.tls).1
        retry := { c.retry with cachedInitialHsBytes := cached }
        initialCrypto := initial, handshakeCrypto := handshake
        zeroRtt := { c.zeroRtt with keys := early } }
      ((∀ keys next, (P.writeHs c.tls).2.2 ≠ some (.oneRtt keys next)) →
        I d ∧ ∀ keys, I (d.installKeys (.handshake keys))) ∧
      ∀ keys next, (P.writeHs c.tls).2.2 = some (.oneRtt keys next) → I { d with
        keyUpdate := { c.keyUpdate with
          oneRttSecrets := some (P.nextPacketKeys next).2
          nextOneRttKeys := some (P.nextPacketKeys next).1 }
        spaces := { c.spaces with application := c.spaces.application.setKeys keys }
        hs := { c.hs with oneRttReady := true } }) : I c.pumpOnce := by
  obtain ⟨cached, initial, handshake, early, hqueue, hinitial, hhandshake⟩ :=
    queueHandshakeBytes_conn { c with tls := (P.writeHs c.tls).1 } (P.writeHs c.tls).2.1
  have hround := fun early => h cached initial handshake early hinitial hhandshake
  simp only [pumpOnce, hqueue]
  split
  · rename_i change hchange
    cases change with
    | handshake keys =>
      exact ((hround early).1 fun _ _ hsome => by cases hchange.symm.trans hsome).2 keys
    | oneRtt keys next =>
      simp only [installKeys, tryInstallZeroRttKeys_eq]
      split
      · exact (hround _).2 keys next hchange
      · exact (hround _).2 keys next hchange
  · rename_i hnone
    exact ((hround early).1 fun _ _ hsome => by cases hnone.symm.trans hsome).1

/-- A view that sees nothing of keys and of the bytes of the handshake. -/
structure Unkeyed {α : Type} (f : Connection P → α) : Prop where
  crypto : ∀ (c : Connection P) cached initial handshake keys, f { c with
    retry := { c.retry with cachedInitialHsBytes := cached }
    initialCrypto := initial, handshakeCrypto := handshake
    zeroRtt := { c.zeroRtt with keys := keys } } = f c
  handshake : ∀ (c : Connection P) keys, f (c.installKeys (.handshake keys)) = f c
  oneRtt : ∀ (c : Connection P) keys secrets next, f { c with
    keyUpdate := { c.keyUpdate with oneRttSecrets := secrets, nextOneRttKeys := next }
    spaces := { c.spaces with application := c.spaces.application.setKeys keys }
    hs := { c.hs with oneRttReady := true } } = f c

section Unkeyed

variable {α : Type} {f : Connection P → α} (hf : Unkeyed f) (c : Connection P)
include hf

theorem Unkeyed.tryInstallZeroRttKeys : f c.tryInstallZeroRttKeys = f c := by
  rw [tryInstallZeroRttKeys_eq]
  exact hf.crypto c _ _ _ _

theorem Unkeyed.pumpOnce : f c.pumpOnce = f { c with tls := (P.writeHs c.tls).1 } := by
  refine pumpOnce_cases (I := fun d => f d = _) fun cached initial handshake early _ _ => ?_
  have hqueue := hf.crypto { c with tls := (P.writeHs c.tls).1 } cached initial handshake early
  exact ⟨fun _ => ⟨hqueue, fun keys => (hf.handshake _ keys).trans hqueue⟩,
    fun keys next _ => (hf.oneRtt _ keys _ _).trans hqueue⟩

end Unkeyed

theorem advanceRecvFlow_kept {α : Type} {f : Connection P → α}
    (hf : ∀ (c : Connection P) window windows max maxes, f { c with flow := { c.flow with
      recvFlow := window, streamRecvFlow := windows, pendingMaxData := max
      pendingMaxStreamData := maxes } } = f c) (c : Connection P) :
    f c.advanceRecvFlow = f c := by
  refine (foldl_kept (fun d id => ?_) _ _).trans (hf c _ c.flow.streamRecvFlow _ _)
  simp only [advanceStreamRecvFlow]
  split
  · rfl
  · exact hf d d.flow.recvFlow _ d.flow.pendingMaxData _

theorem performKeyUpdate_conn (c : Connection P) (now : Time) :
    ∃ keyUpdate keys, keys.isSome = c.spaces.application.keys.isSome ∧
      c.performKeyUpdate now = { c with
        keyUpdate := keyUpdate
        spaces := { c.spaces with application := { c.spaces.application with keys := keys } } } := by
  obtain ⟨keyUpdate, keys, hkeys, hrotated⟩ :=
    c.rotateKeys_conn (now + c.recovery.rtt.ptoBase c.recovery.peerMaxAckDelay * 3)
  simp only [performKeyUpdate, hrotated]
  exact ⟨_, _, hkeys, rfl⟩

theorem beforeSeal_conn (c : Connection P) (kind : SpaceKind) (now : Time) :
    ∃ keyUpdate keys, keys.isSome = c.spaces.application.keys.isSome ∧
      c.beforeSeal kind now = { c with
        keyUpdate := keyUpdate
        spaces := { c.spaces with application := { c.spaces.application with keys := keys } } } := by
  simp only [beforeSeal]
  split
  · split
    · obtain ⟨keyUpdate, keys, hkeys, hrotated⟩ := rotateKeys_conn
        { c with keyUpdate := { c.keyUpdate with keyUpdatePending := false } }
        (now + c.recovery.rtt.ptoBase c.recovery.peerMaxAckDelay * 3)
      simp only [initiateKeyUpdateNow, hrotated]
      exact ⟨_, _, hkeys, rfl⟩
    · exact ⟨_, _, rfl, rfl⟩
  · exact ⟨_, _, rfl, rfl⟩

/-- What is tracked when a packet is recorded was tracked before, or is the packet. -/
theorem recordSent_conn (c : Connection P) (kind : SpaceKind) (now : Time) (pn sentBytes : Nat)
    (frames : List SentFrame) (ackEliciting : Bool) :
    ∃ stats congestion stores, c.recordSent kind now pn sentBytes frames ackEliciting =
        { c with stats := stats, congestion := congestion, sentPackets := stores } ∧
      ∀ kind pn p, (stores.get kind).sent.get? pn = some p →
        (c.sentPackets.get kind).sent.get? pn = some p ∨ p.frames = frames := by
  refine ⟨_, _, (c.recordSent kind now pn sentBytes frames ackEliciting).sentPackets,
    by simp only [recordSent]; split <;> rfl, fun kind' pn' p hp => ?_⟩
  simp only [recordSent] at hp
  split at hp
  · by_cases hkind : kind' = kind
    · subst hkind
      rw [PerSpace.get_set_self, SentPackets.onPacketSent, OrdMap.get?_insert] at hp
      split at hp
      · cases hp
        exact .inr rfl
      · exact .inl hp
    · rw [PerSpace.get_set_of_ne _ _ hkind] at hp
      exact .inl hp
  · exact .inl hp

/-- Sealing a packet touches the keys, the packet numbers, what is tracked and the history.  What is
tracked after it was tracked before, or is the packet, and then the packet was sent. -/
theorem sealFilled_conn (f : Filling P) (now : Time) (kind : SpaceKind) (out : Bytes) :
    ∃ keyUpdate spaces stats congestion stores new,
      (sealFilled f now kind out).1 = { f.conn with
        keyUpdate := keyUpdate, spaces := spaces, stats := stats, congestion := congestion
        sentPackets := stores, trace := new ++ f.conn.trace } ∧
      (∀ e ∈ new, (∃ label key pn, e = .sealed label key pn) ∨
        ∃ dest, e = .sent dest kind f.placed) ∧
      ∀ kind' pn p, (stores.get kind').sent.get? pn = some p →
        (f.conn.sentPackets.get kind').sent.get? pn = some p ∨
          p.frames = f.frames ∧ ∃ dest, .sent dest kind f.placed ∈ new := by
  obtain ⟨keyUpdate, _, -, hbefore⟩ := beforeSeal_conn f.conn kind now
  simp only [sealFilled, hbefore]
  split
  · exact ⟨_, _, _, _, _, [], rfl, List.forall_mem_nil _, fun _ _ _ hp => .inl hp⟩
  split
  · exact ⟨_, _, _, _, _, [_], rfl, List.forall_mem_singleton.mpr (.inl ⟨_, _, _, rfl⟩),
      fun _ _ _ hp => .inl hp⟩
  obtain ⟨stats, congestion, stores, hrecord, hrecorded⟩ := recordSent_conn _ kind now _ _ f.frames
    f.ackEliciting
  rw [hrecord]
  refine ⟨_, _, stats, congestion, stores, [_, _], rfl, ?_, fun kind' pn p hp => ?_⟩
  · exact List.forall_mem_cons.mpr
      ⟨.inr ⟨_, rfl⟩, List.forall_mem_singleton.mpr (.inl ⟨_, _, _, rfl⟩)⟩
  · exact (hrecorded kind' pn p hp).imp_right fun hframes => ⟨hframes, _, List.mem_cons_self⟩

/-- What `handleDatagram` does before it looks at the datagram. -/
def arrive (c : Connection P) (now : Time) (datagram : Bytes) : Connection P :=
  let c := c.armIdleTimer now
  { c with stats := { c.stats with
      packetsRecv := c.stats.packetsRecv + 1
      bytesRecv := c.stats.bytesRecv + datagram.length } }

/-- What `processFrames` does before it looks at the frames. -/
def beginPacket (c : Connection P) : Connection P :=
  { c with cids := { c.cids with cidsIssuedThisPacket := [] } }

/-- Take in one frame. -/
def takeFrame (c : Connection P) (now : Time) (packetType : PacketType) (frame : Frame) :
    Outcome P Unit :=
  (c.log (.received packetType frame)).handleFrame now packetType frame

/-- Note the number of a processed packet. -/
def notePacket (c : Connection P) (space : SpaceKind) (pn : Nat) (ackEliciting : Bool) :
    Connection P :=
  { c with spaces := c.spaces.set space ((c.spaces.get space).onPacketReceived pn ackEliciting) }

/-- An idle connection closes. -/
def idleOut (c : Connection P) : Connection P :=
  { c with
    state := .closed
    closing := { c.closing with peerClosed := some (c.closing.peerClosed.getD .idleTimeout) } }

/-- A packet of a datagram opens under the keys of the next epoch. -/
def OpensNext (c : Connection P) (datagram : Bytes) : Prop :=
  ∃ offset keys stripped phase nextKeys parsed,
    c.spaces.application.remoteKeys = some keys ∧
      stripShortHeaderProtection P datagram offset localCidLen keys.header
        = .ok (stripped, phase) ∧
      phase ≠ c.keyUpdate.keyPhase ∧
      c.keyUpdate.nextOneRttKeys = some nextKeys ∧
      decryptShortPacketBody P stripped offset localCidLen c.spaces.application.largestReceived
        nextKeys.receiving = .ok parsed

/-- The elementary updates of a connection during a call. -/
inductive Update : Op → Connection P → Connection P → Prop where
  | call (c : Connection P) {op : Op} : op.isSimple = true → Update op c (c.step op)
  -- the handshake
  | pump (op : Op) (c : Connection P) : Update op c c.pumpOnce
  | refresh (op : Op) (c : Connection P) : Update op c c.refreshHandshakeComplete
  | earlyKeys (op : Op) (c : Connection P) : Update op c c.tryInstallZeroRttKeys
  -- receiving
  | arrive (c : Connection P) (now : Time) (datagram : Bytes) :
      Update (.handleDatagram now datagram) c (c.arrive now datagram)
  | retry (c : Connection P) (now : Time) (datagram : Bytes) (offset : Nat) :
      Update (.handleDatagram now datagram) c (c.recvRetryPacket datagram offset).1
  | adopt (c : Connection P) (now : Time) (datagram : Bytes) (parsed : ParsedPacket) :
      Update (.handleDatagram now datagram) c (c.adoptPeerCid parsed)
  /-- The peer's key update is followed. -/
  | follow (c : Connection P) (now : Time) (datagram : Bytes) : c.OpensNext datagram →
      Update (.handleDatagram now datagram) c (c.performKeyUpdate now)
  | packet (c : Connection P) (now : Time) (datagram : Bytes) :
      Update (.handleDatagram now datagram) c c.beginPacket
  | frame (c : Connection P) (now : Time) (datagram : Bytes) (packetType : PacketType)
      (frame : Frame) :
      Update (.handleDatagram now datagram) c (c.takeFrame now packetType frame).1
  | note (c : Connection P) (now : Time) (datagram : Bytes) (space : SpaceKind) (pn : Nat)
      (ackEliciting : Bool) :
      Update (.handleDatagram now datagram) c (c.notePacket space pn ackEliciting)
  -- sending
  | close (c : Connection P) (now : Time) (out : Bytes) :
      Update (.pollTransmit now out) c (c.emitClose out).1
  | closed (c : Connection P) (now : Time) (out : Bytes) :
      Update (.pollTransmit now out) c { c with state := .closed }
  | advance (c : Connection P) (now : Time) (out : Bytes) :
      Update (.pollTransmit now out) c c.advanceRecvFlow
  | initial (c : Connection P) (now : Time) (out buf : Bytes) :
      Update (.pollTransmit now out) c (c.writeInitial now buf).1
  | handshake (c : Connection P) (now : Time) (out buf : Bytes) :
      Update (.pollTransmit now out) c (c.writeHandshake now buf).1
  | early (c : Connection P) (now : Time) (out buf : Bytes) (wroteInitial : Bool) :
      Update (.pollTransmit now out) c (writeEarly wroteInitial c buf).1
  | application (c : Connection P) (now : Time) (out buf : Bytes) (wroteInitial : Bool) :
      Update (.pollTransmit now out) c (writeApplication wroteInitial c now buf).1
  | wrote (c : Connection P) (now : Time) (out : Bytes) :
      Update (.pollTransmit now out) c (c.armIdleTimer now).setLossDetectionTimer
  -- timers
  | idle (c : Connection P) (now : Time) : expired c.timers.idleDeadline now = true →
      Update (.handleTimeout now) c c.idleOut
  | keepAlive (c : Connection P) (now : Time) : Update (.handleTimeout now) c (c.keepAliveDue now)
  | loss (c : Connection P) (now : Time) : Update (.handleTimeout now) c (c.lossTimerDue now)
  | mtu (c : Connection P) (now : Time) : Update (.handleTimeout now) c (c.mtuProbeDue now)

/-- The updates of a call. -/
def Updates (op : Op) : Connection P → Connection P → Prop := Relation.ReflTransGen (Update op)

namespace Updates

variable {op : Op} {c d : Connection P}

theorem refl (c : Connection P) : Updates op c c := Relation.ReflTransGen.refl

theorem single (h : Update op c d) : Updates op c d := Relation.ReflTransGen.single h

theorem invariant
    (step : ∀ {c d : Connection P}, I c → Update op c d → I d) (h : I c) (hd : Updates op c d) :
    I d := by
  induction hd with
  | refl => exact h
  | tail _ hstep ih => exact step ih hstep

end Updates

/-! ## The handshake -/

theorem pumpFuel_invariant
    (hpump : ∀ d : Connection P, I d → I d.pumpOnce) (fuel : Nat) {c : Connection P} (h : I c) :
    I (pumpFuel fuel c) := by
  induction fuel generalizing c with
  | zero => exact h
  | succ fuel ih =>
    have honce := hpump c h
    simp only [pumpFuel]
    simp only [pumpOnce] at honce
    split
    · rename_i change hchange
      rw [hchange] at honce
      exact ih honce
    rename_i hchange
    rw [hchange] at honce
    exact honce

theorem pumpFuel_updates (op : Op) (fuel : Nat) (c : Connection P) :
    Updates op c (pumpFuel fuel c) :=
  pumpFuel_invariant (fun d hd => hd.tail (.pump op d)) fuel (.refl c)

theorem pumpWriteHs_updates (op : Op) (c : Connection P) : Updates op c c.pumpWriteHs :=
  (pumpFuel_updates op _ c).tail (.refresh op _)

theorem afterPacket_updates (op : Op) (c : Connection P) : Updates op c c.afterPacket := by
  have hpump := pumpWriteHs_updates op c
  simp only [afterPacket]
  split
  · exact hpump.tail (.earlyKeys op _)
  · exact hpump

/-! ## Receiving -/

section Receiving

variable (now : Time) (datagram : Bytes)

theorem andThen_updates {α β : Type} {op : Op} {c : Connection P} {r : Outcome P α}
    {k : Connection P → α → Outcome P β} (h : Updates op c r.1)
    (hk : ∀ d a, Updates op d (k d a).1) : Updates op c (r.andThen k).1 := by
  simp only [Outcome.andThen]
  split
  · exact h.trans (hk _ _)
  · exact h

theorem processFramesFuel_updates (packetType : PacketType) (fuel : Nat) (buf : Bytes)
    (ackEliciting : Bool) (c : Connection P) :
    Updates (.handleDatagram now datagram) c
      (processFramesFuel now packetType fuel buf ackEliciting c).1 := by
  induction fuel generalizing buf ackEliciting c with
  | zero => exact .refl c
  | succ fuel ih =>
    simp only [processFramesFuel]
    split
    · exact .refl c
    split
    · exact .refl c
    · exact andThen_updates (.single (.frame c now datagram packetType _)) fun d _ => ih _ _ d

variable (c : Connection P) (offset : Nat)

theorem acceptPacket_updates (space : SpaceKind) (packetType : PacketType) (parsed : ParsedPacket) :
    Updates (.handleDatagram now datagram) c (c.acceptPacket now space packetType parsed).1 :=
  andThen_updates
    (.trans (.single (.packet c now datagram)) (processFramesFuel_updates now datagram _ _ _ _ _))
    fun d ackEliciting => .single (.note d now datagram space parsed.packetNumber ackEliciting)

theorem recvHandshakePacket_updates (space : SpaceKind) (offset : Nat) :
    Updates (.handleDatagram now datagram) c (c.recvHandshakePacket now space datagram offset).1 := by
  simp only [recvHandshakePacket]
  split
  · exact .refl c
  split
  · exact .refl c
  split
  · exact .refl c
  · exact .trans (.single (.adopt c now datagram _)) (acceptPacket_updates now datagram _ _ _ _)

theorem recvZeroRttPacket_updates :
    Updates (.handleDatagram now datagram) c (c.recvZeroRttPacket now datagram offset).1 := by
  simp only [recvZeroRttPacket]
  split
  · exact .refl c
  split
  · exact .refl c
  split
  · exact .refl c
  · exact acceptPacket_updates now datagram c _ _ _

theorem recvLongPacket_updates :
    Updates (.handleDatagram now datagram) c (c.recvLongPacket now datagram offset).1 := by
  simp only [recvLongPacket]
  split
  · exact .refl c
  · split <;> exact .refl c
  · exact .single (.retry c now datagram offset)
  · exact recvZeroRttPacket_updates now datagram c offset
  · exact recvHandshakePacket_updates now datagram c _ offset
  · exact recvHandshakePacket_updates now datagram c _ offset
  · exact .refl c

theorem checkStatelessReset_conn (datagram : Bytes) (offset : Nat) :
    (c.checkStatelessReset datagram offset).1 = c := by
  simp only [checkStatelessReset]
  split <;> rfl

theorem recvShortPacket_updates :
    Updates (.handleDatagram now datagram) c (c.recvShortPacket now datagram offset).1 := by
  have hreset : ∀ buf, Updates (.handleDatagram now datagram) c
      (c.checkStatelessReset buf offset).1 := fun buf => by
    rw [checkStatelessReset_conn]
    exact .refl c
  simp only [recvShortPacket]
  split
  · exact hreset _
  rename_i keys hkeys
  split
  · exact hreset _
  rename_i stripped phase hstripped
  split
  · split
    · exact hreset _
    · exact acceptPacket_updates now datagram c _ _ _
  rename_i hphase
  split
  · exact hreset _
  rename_i nextKeys hnext
  split
  · exact hreset _
  rename_i parsed hparsed
  have hopens : c.OpensNext datagram :=
    ⟨offset, keys, stripped, phase, nextKeys, parsed, hkeys, hstripped, hphase, hnext, hparsed⟩
  exact .trans (.single (.follow c now datagram hopens))
    (acceptPacket_updates now datagram _ _ _ _)

theorem recvPackets_updates (fuel offset : Nat) (c : Connection P) :
    Updates (.handleDatagram now datagram) c (recvPackets now datagram fuel offset c).1 := by
  induction fuel generalizing offset c with
  | zero => exact .refl c
  | succ fuel ih =>
    simp only [recvPackets]
    split
    · exact .refl c
    split
    · exact .refl c
    refine andThen_updates ?_ fun d consumed => ?_
    · split
      · exact recvLongPacket_updates now datagram c offset
      · exact recvShortPacket_updates now datagram c offset
    cases consumed with
    | none => exact .refl d
    | some stop => exact (afterPacket_updates _ d).trans (ih stop _)

theorem handleDatagram_updates :
    Updates (.handleDatagram now datagram) c (c.handleDatagram now datagram).1 :=
  .trans (.single (.arrive c now datagram)) (recvPackets_updates now datagram _ _ _)

end Receiving

/-! ## Sending -/

variable (c : Connection P) (now : Time)

theorem writeDatagram_updates (out buf : Bytes) :
    Updates (.pollTransmit now out) c (c.writeDatagram now buf).1 := by
  simp only [writeDatagram]
  refine .trans (.single (.initial c now out buf)) ?_
  generalize c.writeInitial now buf = ini
  refine .trans (.single (.handshake ini.1 now out ini.2.1)) ?_
  generalize ini.1.writeHandshake now ini.2.1 = hs
  refine .trans (.single (.early hs.1 now out hs.2.1 ini.2.2)) ?_
  generalize writeEarly ini.2.2 hs.1 hs.2.1 = early
  refine .trans (.single (.application early.1 now out early.2.1 ini.2.2)) ?_
  generalize writeApplication ini.2.2 early.1 now early.2.1 = app
  split
  · exact .single (.wrote app.1 now out)
  · exact .refl

theorem pollTransmit_updates (out : Bytes) :
    Updates (.pollTransmit now out) c (c.pollTransmit now out).1 := by
  refine .trans (pumpWriteHs_updates _ c) ?_
  simp only [pollTransmit]
  generalize c.pumpWriteHs = d
  split
  · exact .refl
  split
  · refine .trans (.single (.close d now out)) ?_
    generalize d.emitClose out = closed
    split
    · exact .single (.closed closed.1 now out)
    · exact .trans (.single (.advance closed.1 now out)) (writeDatagram_updates _ now out _)
  · exact .trans (.single (.advance d now out)) (writeDatagram_updates _ now out out)

/-! ## Calls and runs -/

theorem handleTimeout_updates : Updates (.handleTimeout now) c (c.handleTimeout now) := by
  simp only [handleTimeout]
  split
  · rename_i hidle
    exact .single (.idle c now hidle)
  · exact .trans (.single (.keepAlive c now)) (.trans (.single (.loss _ now)) (.single (.mtu _ now)))

theorem step_updates (op : Op) : Updates op c (c.step op) := by
  cases op with
  | pollTransmit now out => exact pollTransmit_updates c now out
  | handleDatagram now datagram => exact handleDatagram_updates now datagram c
  | handleTimeout now => exact handleTimeout_updates c now
  | _ => exact .single (.call c rfl)

/-- What each update keeps holds after a run.  The calls of the run may be restricted. -/
theorem invariant_run {Q : Op → Prop}
    (step : ∀ {op : Op} {c d : Connection P}, Q op → I c → Update op c d → I d) {ops : List Op}
    {c : Connection P} (h : I c) (hops : ∀ op ∈ ops, Q op) : I (c.run ops) := by
  induction ops generalizing c with
  | nil => exact h
  | cons op rest ih =>
    have hop : Q op := hops op List.mem_cons_self
    refine ih (c := c.step op) ?_ fun op' hop' => hops op' (List.mem_cons_of_mem _ hop')
    exact (c.step_updates op).invariant (fun hc hd => step hop hc hd) h

theorem step_aside {op : Op} (h : op.isAside = true) : c.step op = { c with
      timers := { c.timers with keepAliveInterval := (c.step op).timers.keepAliveInterval }
      resets := { c.resets with pendingStopSending := (c.step op).resets.pendingStopSending }
      path := (c.step op).path
      datagrams := (c.step op).datagrams
      tokens := { c.tokens with received := (c.step op).tokens.received }
      multipath := (c.step op).multipath
      os := (c.step op).os } := by
  cases op with
  | stopSending | sendDatagram | recvDatagram | initiatePathChallenge | setPreferredPath =>
    simp only [step, stopSending, sendDatagram, recvDatagram, initiatePathChallenge,
      setPreferredPath]
    repeat' split
    all_goals rfl
  | takeReceivedToken | setKeepAliveInterval | setCandidatePeerAddr | addPath => rfl
  | _ => cases h

theorem step_streaming {op : Op} (h : op.isStreaming = true) : c.step op = { c with
      sendStreams := (c.step op).sendStreams
      inbound := (c.step op).inbound
      opened := (c.step op).opened
      flow := (c.step op).flow
      limits := (c.step op).limits
      resets := (c.step op).resets
      zeroRtt := { c.zeroRtt with earlyDataBuf := (c.step op).zeroRtt.earlyDataBuf }
      trace := (c.step op).trace } := by
  cases op with
  | openBidi | openUni | sendStream | readStream | pollReadable | pollNewPeerStream | resetStream
  | queueEarlyData =>
    simp only [step, openBidi, openUni, sendStream, readStream, pollReadable, pollNewPeerStream,
      resetStream, queueEarlyData, replayEarlyData]
    repeat' split
    all_goals rfl
  | _ => cases h

theorem takeClose_isClose {c : Connection P} {frame : Frame} (h : c.takeClose.2 = some frame) :
    ∃ errorCode frameType application reason,
      frame = .connectionClose errorCode frameType application reason := by
  revert h
  simp only [takeClose]
  split
  · exact fun h => (by cases h; exact ⟨_, _, _, _, rfl⟩)
  split
  · exact fun h => (by cases h; exact ⟨_, _, _, _, rfl⟩)
  · exact fun h => (by cases h)

end Connection

end OxiQuic
