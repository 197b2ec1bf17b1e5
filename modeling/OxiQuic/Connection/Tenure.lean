import OxiQuic.Connection.Footprint

/-!
# The tenure of a connection

TLS, the state of the connection with what ends it, what was learned of the peer when the
handshake was complete, and the idle timer: `Connection.tenure`.  What packets carry and what
becomes of them does not touch it.  `Tenure.Step` lists all that does, and
`Connection.Update.tenure` says that nothing else happens.
-/

namespace OxiQuic

open Lib

variable {P : Platform} (c : Connection P) {d : Connection P} {op : Op} (now : Time)
    (packetType : PacketType)

/-- How a connection stands with TLS, with the peer and with time. -/
structure Tenure (P : Platform) where
  tls : P.Session
  state : ConnectionState
  /-- Whether TLS was seen to have finished. -/
  complete : Bool
  peerParams : Option TransportParams
  closing : Closing
  idleTimeout : Option Time
  idleDeadline : Option Time

namespace Tenure

/-- The parameters that TLS has of the peer, if they can be decoded. -/
def learned (s : P.Session) : Option TransportParams :=
  match P.quicTransportParameters s with
  | none => none
  | some raw => (decodeTransportParams raw).toOption

/-- TLS has finished. -/
def finished (t : Tenure P) : Tenure P :=
  { t with
    state := if t.state = .handshaking then .established else t.state
    complete := true
    peerParams := t.peerParams.or (learned t.tls) }

/-- Something happens on the connection, and the idle timer starts again. -/
def arm (t : Tenure P) (now : Time) : Tenure P :=
  { t with idleDeadline := match t.idleTimeout with
      | some timeout => some (now + timeout)
      | none => t.idleDeadline }

/-- The peer closes the connection. -/
def leave (t : Tenure P) (error : OxiQuicError) : Tenure P :=
  { t with state := .closed, closing := { t.closing with peerClosed := some error } }

/-- What can happen to the tenure of a connection during a call. -/
inductive Step : Op → Tenure P → Tenure P → Prop where
  /-- TLS is asked for handshake bytes. -/
  | write (op : Op) (t : Tenure P) : Step op t { t with tls := (P.writeHs t.tls).1 }
  /-- TLS is given handshake bytes. -/
  | read (now : Time) (datagram : Bytes) (t : Tenure P) (bytes : Bytes) :
      Step (.handleDatagram now datagram) t { t with tls := (P.readHs t.tls bytes).1 }
  | finish (op : Op) (t : Tenure P) : t.complete = false → P.isHandshaking t.tls = false →
      Step op t t.finished
  | close (t : Tenure P) (errorCode : Nat) (reason : Bytes) : t.state ≠ .closed →
      Step (.close errorCode reason) t { t with
        state := .closing
        closing := { t.closing with pendingClose := some (errorCode, reason) } }
  /-- The close that waits is put into a packet, that of the transport first. -/
  | sentTransport (now : Time) (out : Bytes) (t : Tenure P) :
      t.closing.pendingTransportClose.isSome = true →
      Step (.pollTransmit now out) t
        { t with closing := { t.closing with pendingTransportClose := none } }
  | sent (now : Time) (out : Bytes) (t : Tenure P) :
      t.closing.pendingTransportClose = none → t.closing.pendingClose.isSome = true →
      Step (.pollTransmit now out) t { t with closing := { t.closing with pendingClose := none } }
  | closed (now : Time) (out : Bytes) (t : Tenure P) :
      Step (.pollTransmit now out) t { t with state := .closed }
  | peerClosed (now : Time) (datagram : Bytes) (t : Tenure P) (error : OxiQuicError) :
      Step (.handleDatagram now datagram) t (t.leave error)
  | idle (now : Time) (t : Tenure P) : Connection.expired t.idleDeadline now = true →
      Step (.handleTimeout now) t (t.leave (t.closing.peerClosed.getD .idleTimeout))
  | arrive (now : Time) (datagram : Bytes) (t : Tenure P) :
      Step (.handleDatagram now datagram) t (t.arm now)
  | wrote (now : Time) (out : Bytes) (t : Tenure P) :
      Step (.pollTransmit now out) t (t.arm now)

end Tenure

theorem Timers.armIdleTimer_eq (t : Timers) (now : Time) : t.armIdleTimer now = { t with
      idleDeadline := match t.idleTimeout with
        | some timeout => some (now + timeout)
        | none => t.idleDeadline
      nextKeepAlive := match t.keepAliveInterval with
        | some interval => some (now + interval)
        | none => t.nextKeepAlive } := by
  obtain ⟨timeout, deadline, interval, next, ping⟩ := t
  cases timeout <;> cases interval <;> rfl

namespace Connection

def tenure (c : Connection P) : Tenure P where
  tls := c.tls
  state := c.state
  complete := c.hs.handshakeComplete
  peerParams := c.hs.peerParams
  closing := c.closing
  idleTimeout := c.timers.idleTimeout
  idleDeadline := c.timers.idleDeadline

theorem armIdleTimer_tenure : (c.armIdleTimer now).tenure = c.tenure.arm now := by
  simp only [armIdleTimer, Timers.armIdleTimer_eq]
  rfl

/-! ## The handshake -/

theorem unkeyed_tenure : Unkeyed (tenure : Connection P → Tenure P) :=
  ⟨fun _ _ _ _ _ => rfl, fun _ _ => rfl, fun _ _ _ _ => rfl⟩

theorem pumpOnce_tenure : c.pumpOnce.tenure = { c.tenure with tls := (P.writeHs c.tls).1 } :=
  unkeyed_tenure.pumpOnce c

theorem learnPeerParams_tenure : c.learnPeerParams.tenure = { c.tenure with
      peerParams := c.hs.peerParams.or (Tenure.learned c.tls) } := by
  simp only [learnPeerParams, Tenure.learned]
  split
  · rename_i hknown
    obtain ⟨p, hp⟩ := Option.isSome_iff_exists.mp hknown
    simp only [tenure, hp, Option.some_or]
  rename_i hunknown
  have hnone := Option.not_isSome_iff_eq_none.mp hunknown
  split
  · rename_i hraw
    simp only [tenure, hnone, Option.none_or, hraw]
  rename_i raw hraw
  split
  · rename_i herror
    simp only [tenure, hnone, Option.none_or, hraw, herror, Except.toOption]
  · rename_i p hdecode
    simp only [tenure, applyPeerParams, hnone, Option.none_or, hraw, hdecode, Except.toOption]

theorem settleEarlyData_tenure : c.settleEarlyData.tenure = c.tenure := by
  simp only [settleEarlyData]
  split
  · split
    · exact foldl_kept (g := replayEarlyData) (fun _ _ => rfl) _ _
    · rfl
  · rfl

theorem queueNewToken_tenure : c.queueNewToken.tenure = c.tenure := by
  simp only [queueNewToken]
  split <;> rfl

theorem enterEstablished_tenure : (c.enterEstablished now).tenure = { c.tenure with
      state := if c.state = .handshaking then .established else c.state } := by
  simp only [enterEstablished]
  split
  · exact issueCids_kept (fun _ _ _ _ => rfl) _ _
  · rfl

theorem refreshHandshakeComplete_tenure :
    c.refreshHandshakeComplete = c ∨ c.tenure.complete = false ∧ P.isHandshaking c.tls = false ∧
        c.refreshHandshakeComplete.tenure = c.tenure.finished := by
  rw [refreshHandshakeComplete]
  split
  · rename_i hdone
    obtain ⟨hopen, hfinished⟩ := Bool.and_eq_true_iff.mp hdone
    refine .inr ⟨Bool.not_eq_true' _ ▸ hopen, Bool.not_eq_true' _ ▸ hfinished, ?_⟩
    rw [queueNewToken_tenure, settleEarlyData_tenure, learnPeerParams_tenure]
    have hentered := enterEstablished_tenure
      { c with os := (P.now c.os).1, hs := { c.hs with handshakeComplete := true } } (P.now c.os).2
    have hparams := congrArg Tenure.peerParams hentered
    have htls := congrArg Tenure.tls hentered
    rw [hentered]
    simp only [tenure] at hparams htls
    rw [hparams, htls]
    rfl
  · exact .inl rfl

/-! ## Sending -/

variable (kind : SpaceKind)

theorem writeIf_tenure (cond : Bool)
    (out : Bytes) : (c.writeIf cond now kind out).1.tenure = c.tenure := by
  refine writeIf_cases (I := fun r => r.1.tenure = c.tenure) rfl fun budget _ => ?_
  have hfill : (c.fillPayload kind budget).conn.tenure = c.tenure :=
    (congrArg tenure (fillPayload_still budget c kind) :)
  split
  · exact hfill
  · obtain ⟨_, _, _, _, _, _, hsealed, -⟩ := sealFilled_conn (c.fillPayload kind budget) now kind out
    rw [hsealed]
    exact hfill

theorem writeEarly_tenure (wroteInitial : Bool) (c : Connection P) (out : Bytes) :
    (writeEarly wroteInitial c out).1.tenure = c.tenure := by
  exact writeEarly_cases (I := fun r => r.1.tenure = c.tenure) rfl (fun _ _ _ => rfl)
    fun _ _ _ _ => rfl

theorem takeClose_tenure (out : Bytes) :
    { c.tenure with closing := c.takeClose.1.closing } = c.tenure ∨
      Tenure.Step (.pollTransmit now out) c.tenure
        { c.tenure with closing := c.takeClose.1.closing } := by
  simp only [takeClose]
  split
  · rename_i hclose
    exact .inr (.sentTransport now out c.tenure (Option.isSome_iff_exists.mpr ⟨_, hclose⟩))
  rename_i hnone
  split
  · rename_i hclose
    exact .inr (.sent now out c.tenure hnone (Option.isSome_iff_exists.mpr ⟨_, hclose⟩))
  · exact .inl rfl

theorem emitClose_tenure (out : Bytes) :
    (c.emitClose out).1.tenure = { c.tenure with closing := c.takeClose.1.closing } := by
  obtain ⟨_, _, hclosed, -⟩ := emitClose_conn c out
  rw [hclosed]
  rfl

theorem advanceRecvFlow_tenure : c.advanceRecvFlow.tenure = c.tenure :=
  advanceRecvFlow_kept (fun _ _ _ _ _ => rfl) c

/-! ## Acknowledgements, loss and timers -/

theorem recovers_tenure : Recovers c fun d => d.tenure = c.tenure where
  untimed _ _ _ _ _ h := h
  spaces _ _ h := h
  forget _ _ _ _ _ h := h
  acked _ _ _ h := h
  lost _ _ _ h := h
  requeue _ _ frame _ h := by
    cases frame with
    | crypto | newToken =>
      simp only [requeueFrame]
      split <;> exact h
    | maxStreams dir | streamsBlocked dir => cases dir <;> exact h
    | _ => exact h

theorem lossTimerDue_tenure : (c.lossTimerDue now).tenure = c.tenure :=
  (recovers_tenure c).lossTimerDue rfl now

/-! ## Frames -/

theorem recvCrypto_tenure (offset : Nat) (data : Bytes) :
    (c.recvCrypto packetType offset data).1.tenure = c.tenure ∨
      ∃ bytes, (c.recvCrypto packetType offset data).1.tenure
        = { c.tenure with tls := (P.readHs c.tls bytes).1 } := by
  have htaken : (c.takeCrypto packetType offset data).1.tenure = c.tenure := by
    cases packetType <;> rfl
  simp only [recvCrypto]
  generalize c.takeCrypto packetType offset data = taken at htaken
  split
  · exact .inl htaken
  rename_i bytes _
  have htls : taken.1.tls = c.tls := congrArg Tenure.tls htaken
  refine .inr ⟨bytes, ?_⟩
  rw [← htaken, ← htls]
  rfl

theorem takeFrame_tenure (frame : Frame) :
    (c.takeFrame now packetType frame).1.tenure = c.tenure ∨
      (∃ bytes, (c.takeFrame now packetType frame).1.tenure
        = { c.tenure with tls := (P.readHs c.tls bytes).1 }) ∨
      ∃ error, (c.takeFrame now packetType frame).1.tenure = c.tenure.leave error := by
  cases frame with
  | connectionClose errorCode frameType application reason => exact .inr (.inr ⟨_, rfl⟩)
  | ack largest delay firstRange ranges =>
    exact .inl ((recovers_tenure (c.log _)).processAck rfl now packetType _ _ _ _)
  | stopSending | pathResponse =>
    refine .inl ?_
    simp only [takeFrame, handleFrame, recvStopSending, recvPathResponse]
    split <;> rfl
  | crypto offset data =>
    exact (recvCrypto_tenure (c.log _) packetType offset data).imp_right .inl
  | stream id offset fin data => exact .inl (recvStream_kept (fun _ _ _ _ => rfl) (c.log _) _ _ _ _)
  | handshakeDone | newConnectionId | retireConnectionId | newToken | datagram =>
    exact .inl (handleFrame_minor (fun _ _ _ _ _ _ => rfl) (c.log _) now packetType rfl)
  | _ => exact .inl rfl

/-! ## Updates -/

theorem step_tenure (hsimple : op.isSimple = true) :
    (c.step op).tenure = c.tenure ∨ Tenure.Step op c.tenure (c.step op).tenure := by
  by_cases haside : op.isAside = true
  · exact .inl (congrArg tenure (step_aside c haside) :)
  by_cases hstreaming : op.isStreaming = true
  · exact .inl (congrArg tenure (step_streaming c hstreaming) :)
  cases op with
  | popCidEvent =>
    simp only [step, popCidEvent]
    split <;> exact .inl rfl
  | close errorCode reason =>
    simp only [step, close]
    split
    · exact .inl rfl
    · rename_i hopen
      exact .inr (.close c.tenure errorCode reason hopen)
  | initiateKeyUpdate now =>
    simp only [step, initiateKeyUpdate]
    split <;> split <;> exact .inl rfl
  | _ => first | exact absurd rfl haside | exact absurd rfl hstreaming | cases hsimple

theorem Update.tenure {c : Connection P} (h : Update op c d) :
    d.tenure = c.tenure ∨ Tenure.Step op c.tenure d.tenure := by
  cases h with
  | call c hsimple => exact step_tenure c hsimple
  | pump op c => exact .inr (pumpOnce_tenure c ▸ .write op c.tenure)
  | refresh op c =>
    rcases refreshHandshakeComplete_tenure c with hsame | ⟨hopen, hdone, hfinished⟩
    · exact .inl (congrArg Connection.tenure hsame)
    · exact .inr (hfinished ▸ .finish op c.tenure hopen hdone)
  | arrive c now datagram =>
    exact .inr (armIdleTimer_tenure c now ▸ .arrive now datagram c.tenure)
  | earlyKeys | retry | adopt | keepAlive | mtu =>
    simp only [tryInstallZeroRttKeys, recvRetryPacket, adoptPeerCid, keepAliveDue, mtuProbeDue]
    split <;> exact .inl rfl
  | follow c now =>
    obtain ⟨_, _, -, hfollow⟩ := performKeyUpdate_conn c now
    exact .inl (hfollow ▸ rfl)
  | packet | note => exact .inl rfl
  | frame c now datagram packetType frame =>
    rcases takeFrame_tenure c now packetType frame with hsame | ⟨bytes, hread⟩ | ⟨error, hclosed⟩
    · exact .inl hsame
    · exact .inr (hread ▸ .read now datagram c.tenure bytes)
    · exact .inr (hclosed ▸ .peerClosed now datagram c.tenure error)
  | close c now out => exact emitClose_tenure c out ▸ takeClose_tenure c now out
  | closed c now out => exact .inr (.closed now out c.tenure)
  | advance c now out => exact .inl (advanceRecvFlow_tenure c)
  | initial c now out buf | handshake c now out buf | application c now out buf =>
    exact .inl (writeIf_tenure c now _ _ buf)
  | early c now out buf wroteInitial => exact .inl (writeEarly_tenure wroteInitial c buf)
  | wrote c now out => exact .inr (armIdleTimer_tenure c now ▸ .wrote now out c.tenure)
  | idle c now hidle => exact .inr (.idle now c.tenure hidle)
  | loss c now => exact .inl (lossTimerDue_tenure c now)

theorem Updates.tenure {c : Connection P} {I : Tenure P → Prop}
    (step : ∀ {t t'}, I t → Tenure.Step op t t' → I t') (hd : Updates op c d)
    (h : I c.tenure) : I d.tenure :=
  hd.invariant (I := fun e => I e.tenure) (fun he hupdate => by
    rcases hupdate.tenure with hsame | hstep
    · exact hsame ▸ he
    · exact step he hstep) h

end Connection

end OxiQuic
