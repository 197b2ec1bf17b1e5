import OxiQuic.Connection.LedgerSend

/-!
# Receiving moves the ledger

With the lemmas for the receive path every operation is covered: a run of a connection is
a sequence of moves of its ledger.
-/

namespace OxiQuic

open Lib Ledger

variable {P : Platform} (c : Connection P) {packetType : PacketType} {rest : List (Event P)}
    {offset : Nat} {data : Bytes} {fin : Bool} (now : Time) (id : StreamId)

namespace Connection

/-! ## Frames -/

theorem noteNewPeerStream_eq : c.noteNewPeerStream id = { c with inbound := { c.inbound with
      newPeerStreams := c.inbound.newPeerStreams ++
        if !c.inbound.streams.contains id && c.isPeerInitiated id then [id] else [] } } := by
  simp only [noteNewPeerStream]
  split
  · rfl
  · simp

theorem noteNewPeerStream_step {id : StreamId} {s : RecvStream}
    (h : ((c.inbound.streams.get? id).getD {}).Turns s) : c.inbound.Step c.role { c.inbound with
      streams := c.inbound.streams.insert id s
      newPeerStreams := (c.noteNewPeerStream id).inbound.newPeerStreams } := by
  rw [noteNewPeerStream_eq]
  cases hs : c.inbound.streams.get? id with
  | none =>
    rw [hs] at h
    have hnew : (!c.inbound.streams.contains id && c.isPeerInitiated id) =
        c.isPeerInitiated id := by
      simp [OrdMap.contains, hs]
    rw [hnew]
    exact .create (c.isPeerInitiated id) hs h (by simp [isPeerInitiated])
  | some s₀ =>
    rw [hs] at h
    have hold : (!c.inbound.streams.contains id && c.isPeerInitiated id) = false := by
      simp [OrdMap.contains, hs]
    rw [hold]
    simpa using Inbound.Step.turn hs h

theorem recvResetStream_step (streamId errorCode : Nat) : c.inbound.Step c.role { c.inbound with
      streams := c.inbound.streams.insert streamId
        (((c.inbound.streams.get? streamId).getD {}).applyReset errorCode) } := by
  cases hs : c.inbound.streams.get? streamId with
  | none =>
    have hcreate : c.inbound.Step c.role _ := .create false hs (.reset errorCode) nofun
    simpa using hcreate
  | some s => exact .turn hs (.reset errorCode)

theorem ensureSendHalf_moves {id : StreamId}
    (h : c.ledger.trace = .received packetType (.stream id offset fin data) :: rest) :
    Moves c.ledger (c.ensureSendHalf id).ledger := by
  simp only [ensureSendHalf]
  split
  · cases hs : c.sendStreams.contains id with
    | true => exact .of_eq rfl
    | false =>
      have hnone : c.sendStreams.get? id = none := by
        simpa [OrdMap.contains] using hs
      exact .single (.accept c.ledger hnone h)
  · exact .refl _

theorem ensureSendHalf_inbound : (c.ensureSendHalf id).inbound = c.inbound := by
  simp only [ensureSendHalf]
  split <;> rfl

theorem ensureSendHalf_role : (c.ensureSendHalf id).role = c.role := by
  simp only [ensureSendHalf]
  split <;> rfl

theorem ensureStream_ledger : (c.ensureStream id).ledger = { (c.ensureSendHalf id).ledger with
      inbound := (c.noteNewPeerStream id).inbound } := by
  rw [ensureStream, noteNewPeerStream_eq]
  by_cases h : StreamId.direction id = .bidirectional
  · simp only [ensureSendHalf, if_pos h]
    rfl
  · simp only [ensureSendHalf, if_neg h]
    rfl

theorem ensureStream_inbound : (c.ensureStream id).inbound = (c.noteNewPeerStream id).inbound :=
  congrArg Ledger.inbound (ensureStream_ledger c id)

/-- Stream data acts on the send half, on the receive half and on the queue of readable
streams. -/
theorem turn_moves {id : Nat}
    (h : c.trace = .received packetType (.stream id offset fin data) :: rest) {s : RecvStream}
    (hs : ((c.inbound.streams.get? id).getD {}).Turns s) (readable : List StreamId) :
    Moves c.ledger { (c.ensureStream id).ledger with inbound :=
      { (c.ensureStream id).inbound with
        streams := (c.ensureStream id).inbound.streams.insert id s
        readable := readable } } := by
  have hsend := ensureSendHalf_moves c h
  have hinbound := ensureStream_inbound c id
  have hstep := noteNewPeerStream_step c hs
  rw [← ensureSendHalf_inbound c id, ← ensureSendHalf_role c id] at hstep
  refine hsend.trans (.trans (.single (.deliver _ hstep)) (.trans
    (.single (.deliver _ (.notify readable))) (.of_eq ?_)))
  rw [ensureStream_ledger, hinbound, noteNewPeerStream_eq, ensureSendHalf_inbound]

theorem recvStream_moves {id : Nat}
    (h : c.trace = .received packetType (.stream id offset fin data) :: rest) :
    Moves c.ledger (c.recvStream id offset fin data).1.ledger := by
  have hs : (c.ensureStream id).inbound.streams.get? id = c.inbound.streams.get? id := by
    rw [ensureStream_inbound, noteNewPeerStream_eq]
  simp only [recvStream]
  rw [hs]
  split
  · exact turn_moves c h .same _
  rename_i hreset
  have hturn := turn_moves c h (.recv ⟨offset, data, fin⟩ (by simpa using hreset))
  split <;> exact hturn _

theorem recvPathResponse_ledger (data : Bytes) :
    (c.recvPathResponse data).ledger = { c.ledger with route := c.ledger.route.respond data } := by
  by_cases h : c.path.pendingPathChallenge = some data
  · have hroute : c.ledger.route.respond data = _ := if_pos h
    rw [recvPathResponse, if_pos h, hroute]
    rfl
  · have hroute : c.ledger.route.respond data = c.ledger.route := if_neg h
    rw [recvPathResponse, if_neg h, hroute]

theorem handleFrame_moves {frame : Frame} (h : c.trace = .received packetType frame :: rest)
    (hframe : ∀ data, frame ≠ .pathResponse data) :
    Moves c.ledger (c.handleFrame now packetType frame).1.ledger := by
  cases frame with
  | ack largest delay firstRange ranges => exact processAck_moves c now (h ▸ List.mem_cons_self)
  | resetStream streamId errorCode finalSize =>
    exact .trans (.single (.deliver c.ledger (recvResetStream_step c streamId errorCode)))
      (.single (.deliver _ (.notify _)))
  | stopSending streamId errorCode =>
    simp only [handleFrame, recvStopSending]
    split
    · exact .refl _
    · exact .single (.reset c.ledger streamId _)
  | crypto offset data =>
    exact .of_eq (recvCrypto_kept (fun _ _ _ _ => rfl) c packetType offset data)
  | stream id offset fin data => exact recvStream_moves c h
  | pathResponse data => exact absurd rfl (hframe data)
  | handshakeDone | newConnectionId | retireConnectionId | newToken | datagram =>
    exact .of_eq (handleFrame_minor (fun _ _ _ _ _ _ => rfl) c now packetType rfl)
  | _ => exact .of_eq rfl

theorem receiveFrame_moves (packetType : PacketType)
    (frame : Frame) : Moves c.ledger
      ((c.log (.received packetType frame)).handleFrame now packetType frame).1.ledger := by
  by_cases hframe : ∃ data, frame = .pathResponse data
  · obtain ⟨data, rfl⟩ := hframe
    refine .trans (.single (Move.respond c.ledger packetType data)) (.of_eq ?_)
    exact recvPathResponse_ledger (c.log (.received packetType (.pathResponse data))) data
  have hother : ∀ data, frame ≠ .pathResponse data := fun data h => hframe ⟨data, h⟩
  have hnote : Move c.ledger (c.ledger.log (.received packetType frame)) := by
    refine .note c.ledger ?_
    cases frame with
    | pathResponse data => exact absurd rfl (hother data)
    | _ => trivial
  exact .trans (.single hnote)
    (handleFrame_moves (c.log (.received packetType frame)) now rfl hother)

/-! ## Packets -/

theorem acceptableRetry_guard {c : Connection P} {packet scid token : Bytes}
    (h : c.acceptableRetry packet = some (scid, token)) :
    c.role = .client ∧ c.retry.retryDone = false := by
  simp only [acceptableRetry] at h
  split at h
  · cases h
  rename_i hguard
  simp only [Bool.or_eq_true, not_or, decide_eq_true_eq, not_not, Bool.not_eq_true] at hguard
  exact ⟨hguard.1.1, hguard.2⟩

/-! ## Runs -/

theorem pumpOnce_moves : Moves c.ledger c.pumpOnce.ledger :=
  pumpOnce_cases (I := fun d => Moves c.ledger d.ledger) fun _ _ _ _ _ _ =>
    ⟨fun _ => ⟨.refl _, fun _ => .of_eq rfl⟩, fun _ _ _ => .single (.oneRtt c.ledger)⟩

theorem call_moves {op : Op} (hsimple : op.isSimple = true) (h : op.reroutes = false) :
    Moves c.ledger (c.step op).ledger := by
  cases op with
  | openBidi => exact openBidi_moves c
  | openUni => exact openUni_moves c
  | sendStream stream data fin => exact sendStream_moves c stream data fin
  | readStream stream => exact readStream_moves c stream
  | pollReadable => exact pollReadable_moves c
  | pollNewPeerStream => exact pollNewPeerStream_moves c
  | resetStream stream errorCode => exact resetStream_moves c stream errorCode
  | stopSending stream errorCode => exact .of_eq (stopSending_ledger c stream errorCode)
  | queueEarlyData =>
    simp only [step, queueEarlyData]
    split
    · exact replayEarlyData_moves c _
    · exact .of_eq rfl
  | close errorCode reason => exact .of_eq (close_ledger c errorCode reason)
  | recvDatagram | popCidEvent =>
    refine .of_eq ?_
    simp only [step, recvDatagram, popCidEvent]
    split <;> rfl
  | sendDatagram | initiateKeyUpdate =>
    refine .of_eq ?_
    simp only [step, sendDatagram, initiateKeyUpdate]
    split <;> first | rfl | (split <;> rfl)
  | pollTransmit | handleDatagram | handleTimeout => cases hsimple
  | initiatePathChallenge | setCandidatePeerAddr | setPreferredPath => cases h
  | _ => exact .of_eq rfl

variable {c} {d : Connection P} {op : Op}

theorem Update.moves (h : Update op c d) :
    Moves c.ledger d.ledger ∨ op.reroutes = true ∧ d = c.step op := by
  cases h with
  | call c hsimple =>
    cases hroutes : op.reroutes with
    | true => exact .inr ⟨rfl, rfl⟩
    | false => exact .inl (call_moves c hsimple hroutes)
  | pump op c => exact .inl (pumpOnce_moves c)
  | refresh op c => exact .inl (refreshHandshakeComplete_moves c)
  | retry c now datagram offset =>
    simp only [recvRetryPacket]
    split
    · exact .inl (.refl _)
    · rename_i scid token hretry
      exact .inl (.single (.retry c.ledger scid (acceptableRetry_guard hretry).2))
  | earlyKeys | adopt | keepAlive | mtu =>
    refine .inl (.of_eq ?_)
    simp only [tryInstallZeroRttKeys, adoptPeerCid, keepAliveDue, mtuProbeDue]
    split <;> rfl
  | follow c now =>
    obtain ⟨_, keys, hkeys, hfollow⟩ := performKeyUpdate_conn c now
    rw [hfollow]
    exact .inl (.of_eq (setSpace_ledger c .application
      { c.spaces.application with keys := keys } rfl hkeys fun h => by cases h))
  | frame c now datagram packetType frame => exact .inl (receiveFrame_moves c now packetType frame)
  | note c now datagram space pn ackEliciting =>
    exact .inl (.of_eq (setSpace_ledger c space _ rfl rfl fun _ => rfl))
  | close c now out => exact .inl (emitClose_moves c out)
  | advance c now out => exact .inl (.of_eq (advanceRecvFlow_ledger c))
  | initial c now out buf =>
    exact .inl (writeIf_moves _ c now .initial buf fun _ h => by cases h)
  | handshake c now out buf => exact .inl (writeHandshake_moves c now buf)
  | early c now out buf wroteInitial => exact .inl (writeEarly_moves wroteInitial c buf)
  | application c now out buf wroteInitial =>
    exact .inl (writeApplication_moves wroteInitial c now buf)
  | loss c now =>
    simp only [lossTimerDue]
    split
    · exact .inl (onLossTimeout_moves c now)
    · exact .inl (.refl _)
  | _ => exact .inl (.of_eq rfl)

variable (c)

theorem step_moves (h : op.reroutes = false) : Moves c.ledger (c.step op).ledger := by
  refine (step_updates c op).invariant (I := fun d => Moves c.ledger d.ledger) ?_ (.refl _)
  intro d e hmoves hupdate
  rcases hupdate.moves with hnext | ⟨hroutes, _⟩
  · exact hmoves.trans hnext
  · cases h.symm.trans hroutes

theorem pollTransmit_moves (out : Bytes) : Moves c.ledger (c.pollTransmit now out).1.ledger :=
  @step_moves P c (.pollTransmit now out) rfl

theorem handleDatagram_moves (datagram : Bytes) :
    Moves c.ledger (c.handleDatagram now datagram).1.ledger :=
  @step_moves P c (.handleDatagram now datagram) rfl

theorem handleTimeout_moves : Moves c.ledger (c.handleTimeout now).ledger :=
  @step_moves P c (.handleTimeout now) rfl

theorem step_acts (op : Op) : Acts c.ledger (c.step op).ledger := by
  cases op with
  | initiatePathChallenge =>
    refine acts_of_route ?_
    simp only [step, initiatePathChallenge]
    split
    · rfl
    · split <;> rfl
  | setCandidatePeerAddr => exact acts_of_route rfl
  | setPreferredPath =>
    refine acts_of_route ?_
    simp only [step, setPreferredPath]
    split <;> rfl
  | _ => exact .of_moves (step_moves c rfl)

theorem run_acts (ops : List Op) : Acts c.ledger (c.run ops).ledger := by
  induction ops generalizing c with
  | nil => exact .refl
  | cons op rest ih => exact (step_acts c op).trans (ih (c.step op))

theorem Fresh.run_acts {c : Connection P} (hfresh : c.Fresh) (ops : List Op) :
    ∃ role dcid, Acts (Ledger.start role dcid c.path.peerAddr) (c.run ops).ledger := by
  obtain ⟨role, dcid, hstart⟩ := hfresh.ledger
  exact ⟨role, dcid, hstart ▸ c.run_acts ops⟩

end Connection

end OxiQuic
