import OxiQuic.Connection.FillSteps
import OxiQuic.Connection.Send

/-!
# What is left to send

`Connection.backlog` counts what a connection has to send: bytes of streams and of the
handshake, frames that wait, probes that are owed, and announcements that sending may still give
rise to.  Filling a packet never adds to it, and a packet that is not empty takes from it
(`Connection.fillPayload_backlog`).
-/

namespace OxiQuic

open Lib

variable {P : Platform} (c : Connection P) {kind : SpaceKind} (id : Nat)

/-! ## Streams and credit -/

/-- The bytes and segments to send. -/
def CryptoStream.backlog (s : CryptoStream) : Nat :=
  s.sendBuf.length + (s.resend.map fun seg => seg.data.length + 1).sum

theorem CryptoStream.Takes.backlog {s s' : CryptoStream} {max : Nat} {seg : CryptoSegment}
    (h : s.Takes max s' seg) : s'.backlog < s.backlog := by
  cases h with
  | whole hresend => simp [CryptoStream.backlog, hresend]
  | split hresend | fresh hresend =>
    simp only [CryptoStream.backlog, hresend, List.map_cons, List.sum_cons, List.length_drop]
    omega

/-- The bytes and segments to send, and the FIN. -/
def SendStream.backlog (s : SendStream) : Nat :=
  s.buf.length + (s.resend.map fun seg => seg.data.length + 1).sum + (s.fin && !s.finSent).toNat

theorem SendStream.Takes.backlog {s s' : SendStream} {max : Nat} {seg : Segment}
    (h : s.Takes max s' seg) : s'.backlog < s.backlog := by
  cases h with
  | whole hresend => simp [SendStream.backlog, hresend]
  | split hresend hpos hlt =>
    simp only [SendStream.backlog, hresend, List.map_cons, List.sum_cons, List.length_drop]
    omega
  | pureFin hresend hbuf hfin hsent => simp [SendStream.backlog, hfin, hsent]
  | @fresh n hresend hpos hlength _ =>
    have hfin : (s.fin && !(s.finSent || (s.fin && (s.buf.drop n).isEmpty))).toNat
        ≤ (s.fin && !s.finSent).toNat := by
      cases s.fin <;> cases s.finSent <;> cases (s.buf.drop n).isEmpty <;> decide
    simp only [SendStream.backlog, List.length_drop]
    omega

/-- Being blocked at the present limit was not announced yet. -/
def SendCredit.unannounced (f : SendCredit) : Bool := decide (f.blockedAt ≠ some f.maxData)

theorem SendCredit.recordHighOffset_unannounced (f : SendCredit) (highOffset : Nat) :
    (f.recordHighOffset highOffset).1.unannounced = f.unannounced := by
  simp only [SendCredit.recordHighOffset]
  split <;> rfl

theorem SendCredit.takeBlocked_unannounced (f : SendCredit) :
    f.takeBlocked = (f, none) ∨ f.unannounced = true ∧ ∃ limit, f.takeBlocked.2 = some limit ∧
        f.takeBlocked.1.unannounced = false := by
  simp only [SendCredit.takeBlocked]
  split
  · rename_i hblocked
    exact .inr ⟨decide_eq_true hblocked.2, _, rfl, by simp [SendCredit.unannounced]⟩
  · exact .inl rfl

/-- The limit is to be raised. -/
def RecvWindow.raisable (f : RecvWindow) : Bool := f.maybeUpdate.2.isSome

/-- The spaces that owe an acknowledgement. -/
def PerSpace.acksOwed (spaces : PerSpace (PacketSpace P)) : Nat :=
  spaces.initial.ackPending.toNat + spaces.handshake.ackPending.toNat
    + spaces.application.ackPending.toNat

/-- Whether being blocked may still be announced for a stream. -/
def Flow.unannounced (flow : Flow) (id : Nat) : Bool :=
  match flow.streamSendFlow.get? id with
  | none => true
  | some f => f.unannounced

theorem Flow.unannounced_insert {flow flow' : Flow} {id : Nat} {f : SendCredit}
    (hflow : flow'.streamSendFlow = flow.streamSendFlow.insert id f)
    (hf : f.unannounced = flow.unannounced id) (id' : Nat) :
    flow'.unannounced id' = flow.unannounced id' := by
  simp only [Flow.unannounced, hflow, OrdMap.get?_insert] at hf ⊢
  by_cases hid : id' = id
  · subst hid
    rw [if_pos rfl]
    exact hf
  · rw [if_neg hid]

/-- Flow control frames that wait or will. -/
def Flow.backlog (flow : Flow) : Nat :=
  flow.pendingMaxData.isSome.toNat + flow.pendingMaxStreamData.size
    + flow.pendingDataBlocked.isSome.toNat + flow.pendingStreamDataBlocked.size
    + flow.recvFlow.raisable.toNat + flow.streamRecvFlow.sumOver (fun _ f => f.raisable.toNat)
    + flow.sendFlow.unannounced.toNat

def StreamLimit.backlog (l : StreamLimit) : Nat :=
  l.pendingMaxStreams.isSome.toNat + l.pendingStreamsBlocked.isSome.toNat

/-- Whether `HANDSHAKE_DONE` is still to be sent. -/
def HandshakeProgress.doneOwed (hs : HandshakeProgress) (role : Role) : Nat :=
  (decide (role = .server) && hs.handshakeComplete && !hs.handshakeDone).toNat

namespace Connection

/-- Stream data to send, and streams whose being blocked may still be announced. -/
def streamBacklog (c : Connection P) : Nat :=
  c.sendStreams.sumOver fun id s => s.backlog + (c.flow.unannounced id).toNat

/-- The other frames of the application space. -/
def controlBacklog (c : Connection P) : Nat :=
  c.mtu.pendingMtuProbe.toNat + c.path.pendingPathResponse.isSome.toNat
    + c.path.pendingPathChallengeSend.toNat + c.hs.doneOwed c.role
    + c.resets.pendingResetStreams.size + c.resets.pendingStopSending.size
    + c.cids.localCidPool.pendingNew.length + c.cids.peerCidPool.pendingRetire.length
    + c.limits.bidi.backlog + c.limits.uni.backlog + c.tokens.pendingNew.isSome.toNat
    + c.datagrams.sendQueue.length + c.recovery.probesOwed + c.timers.pendingKeepAlivePing.toNat

/-- What a connection has to send. -/
def backlog (c : Connection P) : Nat :=
  c.spaces.acksOwed + c.initialCrypto.backlog + c.handshakeCrypto.backlog + c.streamBacklog
    + c.flow.backlog + c.controlBacklog + c.keyUpdate.keyUpdatePending.toNat
    + (!c.zeroRtt.sent).toNat

theorem streamBacklog_congr {c d : Connection P} (hstreams : d.sendStreams = c.sendStreams)
    (hflow : ∀ id, d.flow.unannounced id = c.flow.unannounced id) :
    d.streamBacklog = c.streamBacklog := by
  rw [streamBacklog, hstreams]
  exact OrdMap.sumOver_congr fun id s _ => by rw [hflow]

/-! ## Filling a packet -/

theorem buildAck_owed {s s' : PacketSpace P} {delay : Nat} {frame : Frame}
    (h : s.buildAck delay = (s', some frame)) : s.ackPending = true ∧ s'.ackPending = false := by
  simp only [PacketSpace.buildAck] at h
  split at h
  · rename_i howed
    split at h
    · cases h
      exact ⟨howed, rfl⟩
    · cases h
  · cases h

theorem acksOwed_set {spaces : PerSpace (PacketSpace P)} {s : PacketSpace P}
    (howed : (spaces.get kind).ackPending = true) (hs : s.ackPending = false) :
    (spaces.set kind s).acksOwed + 1 = spaces.acksOwed := by
  cases kind <;>
    · simp only [PerSpace.get] at howed
      simp [PerSpace.acksOwed, PerSpace.set, howed, hs]
      try omega

theorem setLimit_backlog (dir : Direction) {l : StreamLimit}
    (h : l.backlog < (c.limit dir).backlog) : (c.setLimit dir l).backlog < c.backlog := by
  cases dir <;>
    · simp only [limit] at h
      simp only [backlog, controlBacklog, streamBacklog, setLimit]
      omega

theorem ensureStreamSendFlow_backlog : (c.ensureStreamSendFlow id).backlog = c.backlog := by
  simp only [ensureStreamSendFlow]
  split
  · rfl
  rename_i hnone
  have hstreams := streamBacklog_congr (c := c) (d := { c with flow := { c.flow with
    streamSendFlow := c.flow.streamSendFlow.insert id (.new c.peerInitialStreamLimit) } }) rfl
    (Flow.unannounced_insert rfl (by simp only [Flow.unannounced, hnone]; rfl))
  simp only [backlog, hstreams]
  rfl

theorem chargeFlow_backlog (id highOffset : Nat) :
    (c.chargeFlow id highOffset).backlog = c.backlog := by
  simp only [chargeFlow]
  split
  · rfl
  rename_i f hf
  have hstreams := streamBacklog_congr (c := c) (d := { c with flow := { c.flow with
    streamSendFlow := c.flow.streamSendFlow.insert id (f.recordHighOffset highOffset).1
    sendFlow := c.flow.sendFlow.onDataSent (f.recordHighOffset highOffset).2 } }) rfl
    (Flow.unannounced_insert rfl (by
      simp only [Flow.unannounced, hf]
      exact SendCredit.recordHighOffset_unannounced f highOffset))
  simp only [backlog, hstreams]
  rfl

theorem insertStream_backlog {c : Connection P} {id : Nat} {s s' : SendStream}
    (hs : c.sendStreams.get? id = some s) (h : s'.backlog < s.backlog) :
    backlog { c with sendStreams := c.sendStreams.insert id s' } < c.backlog := by
  have hsum := OrdMap.sumOver_insert_of_get? s'
    (fun id s => s.backlog + (c.flow.unannounced id).toNat) hs
  have hlt : streamBacklog { c with sendStreams := c.sendStreams.insert id s' }
      < c.streamBacklog := by
    simp only [streamBacklog]
    omega
  simp only [backlog]
  exact Nat.add_lt_add_right (Nat.add_lt_add_right (Nat.add_lt_add_right (Nat.add_lt_add_right
    (Nat.add_lt_add_left hlt _) _) _) _) _

theorem noteBlockedConnection_backlog : c.noteBlockedConnection.backlog ≤ c.backlog := by
  simp only [noteBlockedConnection]
  split
  · rcases SendCredit.takeBlocked_unannounced c.flow.sendFlow with hsame | ⟨hmay, limit, hlimit, hno⟩
    · rw [hsame]
    simp only [hlimit, backlog, streamBacklog, controlBacklog, Flow.backlog, hmay, hno,
      Flow.unannounced, Option.isSome_some, Bool.toNat_true, Bool.toNat_false]
    omega
  · exact Nat.le_refl _

theorem noteBlockedStream_backlog : (c.noteBlockedStream id).backlog ≤ c.backlog := by
  simp only [noteBlockedStream]
  cases hs : c.sendStreams.get? id with
  | none => exact Nat.le_refl _
  | some s =>
    dsimp only
    split
    · cases hf : c.flow.streamSendFlow.get? id with
      | none => exact Nat.le_refl _
      | some f =>
        dsimp only
        rcases SendCredit.takeBlocked_unannounced f with hsame | ⟨hmay, limit, hlimit, hno⟩
        · rw [hsame, OrdMap.insert_of_get?_eq_some hf]
        rw [hlimit]
        -- the stream loses its announcement to come, and one waits
        have hstreams : c.streamBacklog = streamBacklog { c with flow := { c.flow with
            streamSendFlow := c.flow.streamSendFlow.insert id f.takeBlocked.1
            pendingStreamDataBlocked :=
              c.flow.pendingStreamDataBlocked.insert id limit } } + 1 := by
          refine OrdMap.sumOver_add hs ?_ fun id' s' hne => ?_
          · simp [Flow.unannounced, hf, hmay, hno]
          · simp [Flow.unannounced, OrdMap.get?_insert, hne]
        have hsize := OrdMap.size_insert_le c.flow.pendingStreamDataBlocked id limit
        simp only [backlog, controlBacklog, Flow.backlog] at hstreams ⊢
        omega
    · exact Nat.le_refl _

/-- A step of filling takes what it places from the backlog.  The `PING` for a key update does
not: the update goes with the packet and not with the frame. -/
theorem FillStep.backlog {budget : Nat} {f f' : Filling P} (h : FillStep kind budget f f') :
    f'.conn.backlog < f.conn.backlog ∨ f'.conn.backlog ≤ f.conn.backlog ∧ f'.placed = f.placed ∨
      kind = .application ∧ f.conn.keyUpdate.keyUpdatePending = true ∧ f'.conn = f.conn := by
  cases h with
  | ack hack =>
    refine .inl ?_
    obtain ⟨howed, hdone⟩ := buildAck_owed hack
    have hacks := acksOwed_set howed hdone
    simp only [Connection.backlog, streamBacklog, controlBacklog]
    omega
  | crypto hstream htakes =>
    refine .inl ?_
    have hfewer := htakes.backlog
    cases kind <;> cases hstream <;>
      · simp only [Connection.backlog, streamBacklog, controlBacklog, Filling.placeRecorded,
          Filling.place, setCryptoStream]
        omega
  | mtuProbe hsize =>
    refine .inl ?_
    have hpending : f.conn.mtu.pendingMtuProbe = true := by
      simp only [mtuProbeSize] at hsize
      split at hsize
      · rename_i hboth
        exact (Bool.and_eq_true_iff.mp hboth).2
      · cases hsize
    have hconn : ∀ size, (fillMtuProbe f size).conn = f.conn.clearMtuProbe := fun size => by
      simp only [fillMtuProbe]
      split <;> rfl
    rw [hconn]
    simp only [Connection.backlog, streamBacklog, controlBacklog, clearMtuProbe, hpending,
      Bool.toNat_true, Bool.toNat_false]
    omega
  | forgetMtuProbe | dropDataBlocked =>
    refine .inr (.inl ⟨?_, rfl⟩)
    simp only [Connection.backlog, streamBacklog, controlBacklog, clearMtuProbe, Bool.toNat_false,
      Flow.backlog, Flow.unannounced, Option.isSome_none]
    omega
  | pathResponse hpending | pathChallenge hpending | maxData hpending | dataBlocked hpending
  | newConnectionId hpending | retireConnectionId hpending | newToken hpending
  | datagram hpending | keepAlive hpending =>
    refine .inl ?_
    simp only [Connection.backlog, streamBacklog, controlBacklog, Filling.place, hpending,
      Option.isSome_some, Option.isSome_none, Bool.toNat_true, Bool.toNat_false, Flow.backlog,
      Flow.unannounced, Filling.placeRecorded, setPendingNew, List.length_cons, setPendingRetire,
      setSendQueue]
    omega
  | handshakeDone howed =>
    refine .inl ?_
    have hone : f.conn.hs.doneOwed f.conn.role = 1 := congrArg Bool.toNat howed
    have hzero : HandshakeProgress.doneOwed { f.conn.hs with handshakeDone := true }
        f.conn.role = 0 := by simp [HandshakeProgress.doneOwed]
    simp only [Connection.backlog, streamBacklog, controlBacklog, Filling.place, hone, hzero]
    omega
  | maxStreamData hpending | streamDataBlocked hpending | resetStream hpending
  | stopSending hpending =>
    refine .inl ?_
    have hsize := OrdMap.size_erase hpending
    simp only [Connection.backlog, streamBacklog, controlBacklog, Filling.place, Flow.backlog,
      Flow.unannounced]
    omega
  | maxStreams hpending | streamsBlocked hpending =>
    refine .inl (setLimit_backlog _ _ ?_)
    simp only [StreamLimit.backlog, hpending, Option.isSome_some, Option.isSome_none,
      Bool.toNat_true, Bool.toNat_false]
    omega
  | streamFlow =>
    exact .inr (.inl ⟨Nat.le_of_eq (ensureStreamSendFlow_backlog _ _), rfl⟩)
  | stream hs _ htakes =>
    refine .inl ?_
    exact Nat.lt_of_le_of_lt (Nat.le_of_eq (chargeFlow_backlog _ _ _))
      (insertStream_backlog hs htakes.backlog)
  | connectionBlocked => exact .inr (.inl ⟨noteBlockedConnection_backlog _, rfl⟩)
  | streamBlocked => exact .inr (.inl ⟨noteBlockedStream_backlog _ _, rfl⟩)
  | probe howed =>
    refine .inl ?_
    simp only [Connection.backlog, streamBacklog, controlBacklog]
    omega
  | keyUpdate hkind hpending => exact .inr (.inr ⟨hkind, hpending, rfl⟩)

variable (kind)

variable {kind}

/-- A packet that was written takes from what is to be sent, and nothing adds to it. -/
def Spends (c : Connection P) (written : Connection P × Bytes × Bool) : Prop :=
  written.1.backlog ≤ c.backlog ∧ (written.2.2 = true → written.1.backlog < c.backlog)

theorem Spends.andThen {c : Connection P} {first second : Connection P × Bytes × Bool}
    (h : c.Spends first) (h' : first.1.Spends second) (out : Bytes) :
    c.Spends (second.1, out, first.2.2 || second.2.2) := by
  refine ⟨Nat.le_trans h'.1 h.1, fun hwrote => ?_⟩
  rcases Bool.or_eq_true_iff.mp hwrote with hfirst | hsecond
  · exact Nat.lt_of_le_of_lt h'.1 (h.2 hfirst)
  · exact Nat.lt_of_lt_of_le (h'.2 hsecond) h.1

end Connection

end OxiQuic
