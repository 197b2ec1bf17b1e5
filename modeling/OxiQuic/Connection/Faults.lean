import OxiQuic.Connection.Update

/-!
# Where errors come from

An error that `handle_datagram` returns is that of a frame, taken in in one of the states that the
updates of the call lead through, or of bytes that are no frame, or one of the two that are no
frame's.  The connection is left as it was then (`Connection.handleDatagram_fault`).
-/

namespace OxiQuic

variable {P : Platform} {e : OxiQuicError} {α : Type}

namespace Connection

/-! ## Errors of frames -/

theorem receiveNewCid_ne (p : PeerCidPool) (seq prior : Nat) (cid : ConnectionId)
    (token : Bytes) : (p.receiveNewCid seq prior cid token).2 ≠ .error .statelessReset := by
  intro h
  simp only [PeerCidPool.receiveNewCid] at h
  repeat' split at h
  all_goals cases h

/-- The error of a frame is no stateless reset, and only what the pool says of an announcement is
about the limit on connection IDs. -/
theorem handleFrame_refusal {now : Time} {packetType : PacketType} {frame : Frame}
    {c : Connection P} (h : (c.handleFrame now packetType frame).2 = .error e) :
    e ≠ .statelessReset ∧ ∀ frameType reason,
      e = .transportError .connectionIdLimitError frameType reason →
      ∃ seq prior cid token, frame = .newConnectionId seq prior cid token ∧
        (c.cids.peerCidPool.receiveNewCid seq prior cid token).2 = .error e := by
  cases frame with
  | newConnectionId seq prior cid token =>
    simp only [handleFrame, recvNewConnectionId] at h
    split at h
    · cases h
      exact ⟨fun h => (by cases h), fun _ _ h => (by cases h)⟩
    split at h
    · rename_i e' he
      cases h
      refine ⟨fun hreset => ?_, fun _ _ _ => ⟨seq, prior, cid, token, rfl, he⟩⟩
      subst hreset
      exact receiveNewCid_ne _ _ _ _ _ he
    · cases h
  | crypto | stream | retireConnectionId | newToken | datagram =>
    simp only [handleFrame, recvCrypto, readHs, recvStream, recvRetireConnectionId, recvNewToken,
      recvDatagramFrame] at h
    repeat' split at h
    all_goals cases h
    all_goals exact ⟨fun h => (by cases h), fun _ _ h => (by cases h)⟩
  | _ => cases h

/-! ## Errors of datagrams -/

/-- A datagram as it arrived, or without its header protection. -/
def Unmasked (P : Platform) (datagram bytes : Bytes) : Prop :=
  bytes = datagram ∨ ∃ offset header phase,
    stripShortHeaderProtection P datagram offset localCidLen header = .ok (bytes, phase)

/-- The origin of an error in a call that delivers a datagram, and the connection it leaves. -/
inductive Fault (now : Time) (datagram : Bytes) (c : Connection P) :
    Connection P → OxiQuicError → Prop where
  | frame {d d' : Connection P} {packetType : PacketType} {frame : Frame} {e : OxiQuicError} :
      Updates (.handleDatagram now datagram) c d →
      d.takeFrame now packetType frame = (d', .error e) → Fault now datagram c d' e
  /-- The payload of a packet is malformed. -/
  | malformed {d : Connection P} {buf : Bytes} {e : FrameError} :
      Updates (.handleDatagram now datagram) c d → decodeFrame buf = .error e →
      Fault now datagram c d (.transportError e.code none e.detail)
  /-- A packet that does not open ends in a token of the peer. -/
  | statelessReset {d : Connection P} {bytes : Bytes} : Updates (.handleDatagram now datagram) c d →
      Unmasked P datagram bytes →
      d.cids.peerCidPool.matchesStatelessReset (bytes.drop (bytes.length - 16)) = true →
      Fault now datagram c d .statelessReset
  | versionNegotiation {d : Connection P} (versions : List Nat) :
      Updates (.handleDatagram now datagram) c d →
      Fault now datagram c d (.versionNegotiation versions)

/-- If a part of the call fails, that is a fault. -/
def Faults (now : Time) (datagram : Bytes) {α : Type} (c : Connection P) (r : Outcome P α) : Prop :=
  ∀ e, r.2 = .error e → Fault now datagram c r.1 e

variable {now : Time} {datagram : Bytes} {c d : Connection P}

theorem Fault.after {d' : Connection P}
    (hupdates : Updates (.handleDatagram now datagram) c d) (h : Fault now datagram d d' e) :
    Fault now datagram c d' e := by
  cases h with
  | frame hd htake => exact .frame (hupdates.trans hd) htake
  | malformed hd hdecode => exact .malformed (hupdates.trans hd) hdecode
  | statelessReset hd hbytes hmatch => exact .statelessReset (hupdates.trans hd) hbytes hmatch
  | versionNegotiation versions hd => exact .versionNegotiation versions (hupdates.trans hd)

variable {r : Outcome P α}

theorem Faults.after
    (hupdates : Updates (.handleDatagram now datagram) c d) (h : Faults now datagram d r) :
    Faults now datagram c r := fun e he => (h e he).after hupdates

theorem Faults.ok (a : α) : Faults now datagram c (c, .ok a) := nofun

theorem Faults.andThen {β : Type} {k : Connection P → α → Outcome P β}
    (h : Faults now datagram c r) (hk : ∀ a, r.2 = .ok a → Faults now datagram c (k r.1 a)) :
    Faults now datagram c (r.andThen k) := by
  simp only [Outcome.andThen]
  split
  · rename_i a ha
    exact hk a ha
  rename_i e he
  intro e' he'
  cases he'
  exact h e he

/-! ## Frames -/

theorem processFramesFuel_faults (packetType : PacketType) (fuel : Nat) (buf : Bytes)
    (ackEliciting : Bool) (c : Connection P) :
    Faults now datagram c (processFramesFuel now packetType fuel buf ackEliciting c) := by
  induction fuel generalizing buf ackEliciting c with
  | zero => exact .ok ackEliciting
  | succ fuel ih =>
    simp only [processFramesFuel]
    split
    · exact .ok ackEliciting
    split
    · rename_i e hdecode
      intro e' he'
      cases he'
      exact .malformed (.refl c) hdecode
    rename_i frame rest _
    refine Faults.andThen (r := c.takeFrame now packetType frame) (fun e he => ?_)
      fun _ _ => (ih rest _ _).after (.single (.frame c now datagram packetType frame))
    exact .frame (.refl c) (Prod.ext rfl he)

variable (c)

variable (space : SpaceKind) (offset : Nat)

theorem acceptPacket_faults (packetType : PacketType)
    (parsed : ParsedPacket) : Faults now datagram c (c.acceptPacket now space packetType parsed) :=
  ((processFramesFuel_faults packetType _ _ _ _).after
    (.single (.packet c now datagram))).andThen fun _ _ => nofun

/-! ## Packets -/

theorem recvHandshakePacket_faults :
    Faults now datagram c (c.recvHandshakePacket now space datagram offset) := by
  simp only [recvHandshakePacket]
  split
  · exact .ok none
  split
  · exact .ok none
  split
  · exact .ok _
  · exact (acceptPacket_faults _ _ _ _).after (.single (.adopt c now datagram _))

theorem recvLongPacket_faults : Faults now datagram c (c.recvLongPacket now datagram offset) := by
  simp only [recvLongPacket]
  split
  · exact .ok none
  · split
    · intro e he
      cases he
      exact .versionNegotiation _ (.refl c)
    · exact .ok none
  · simp only [recvRetryPacket]
    split <;> exact fun e he => by cases he
  · simp only [recvZeroRttPacket]
    split
    · exact .ok none
    split
    · exact .ok none
    split
    · exact .ok none
    · exact acceptPacket_faults c _ _ _
  · exact recvHandshakePacket_faults c _ offset
  · exact recvHandshakePacket_faults c _ offset
  · exact .ok none

theorem checkStatelessReset_faults {bytes : Bytes}
    (hbytes : Unmasked P datagram bytes) (offset : Nat) :
    Faults now datagram c (c.checkStatelessReset bytes offset) := by
  simp only [checkStatelessReset]
  split
  · rename_i hmatch
    rw [Bool.and_eq_true] at hmatch
    intro e he
    cases he
    exact .statelessReset (.refl c) hbytes hmatch.2
  · exact .ok none

theorem recvShortPacket_faults : Faults now datagram c (c.recvShortPacket now datagram offset) := by
  simp only [recvShortPacket]
  split
  · exact checkStatelessReset_faults c (.inl rfl) offset
  rename_i keys hkeys
  split
  · exact checkStatelessReset_faults c (.inl rfl) offset
  rename_i stripped phase hstripped
  have hreset : Faults now datagram c (c.checkStatelessReset stripped offset) :=
    checkStatelessReset_faults c (.inr ⟨offset, keys.header, phase, hstripped⟩) offset
  split
  · split
    · exact hreset
    · exact acceptPacket_faults c _ _ _
  rename_i hphase
  split
  · exact hreset
  rename_i nextKeys hnext
  split
  · exact hreset
  rename_i parsed hparsed
  have hopens : c.OpensNext datagram :=
    ⟨offset, keys, stripped, phase, nextKeys, parsed, hkeys, hstripped, hphase, hnext, hparsed⟩
  exact (acceptPacket_faults _ _ _ _).after (.single (.follow c now datagram hopens))

variable {c}

/-! ## Datagrams -/

theorem recvPackets_faults (fuel offset : Nat) (c : Connection P) :
    Faults now datagram c (recvPackets now datagram fuel offset c) := by
  induction fuel generalizing offset c with
  | zero => exact .ok ()
  | succ fuel ih =>
    simp only [recvPackets]
    split
    · exact .ok ()
    split
    · exact .ok ()
    refine Faults.andThen ?_ fun consumed _ => ?_
    · split
      · exact recvLongPacket_faults c offset
      · exact recvShortPacket_faults c offset
    cases consumed with
    | none => exact fun e he => by cases he
    | some stop =>
      refine (ih stop _).after (.trans ?_ (afterPacket_updates _ _))
      split
      · exact recvLongPacket_updates now datagram c offset
      · exact recvShortPacket_updates now datagram c offset

theorem handleDatagram_fault (h : (c.handleDatagram now datagram).2 = .error e) :
    Fault now datagram c (c.handleDatagram now datagram).1 e :=
  ((recvPackets_faults _ _ _).after (.single (.arrive c now datagram))) e h

end Connection

end OxiQuic
