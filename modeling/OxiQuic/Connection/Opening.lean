import OxiQuic.Connection.Lifecycle
import OxiQuic.Connection.Payload
import OxiQuic.Connection.Uptake
import OxiQuic.Stream.Settled

/-!
# Packets that open

An authenticated packet is opened under one of the keys, the connection acts on its frames and
notes its number.  `openPacket` is the part up to the frames, so that what a packet does can be
said of the frames alone, and `handleDatagram_of_open` puts the parts together again.

The second part is about streams: every receive half of a connection is settled, at each point of
a run (`Fresh.settled`).
-/

namespace OxiQuic

variable {P : Platform}

/-- A packet that opened, with the connection as it acts on it. -/
structure OpenPacket (P : Platform) where
  conn : Connection P
  space : SpaceKind
  packetType : PacketType
  parsed : ParsedPacket

namespace OpenPacket

/-- Act on the packet. -/
def accept (p : OpenPacket P) (now : Time) : Outcome P (Option Nat) :=
  p.conn.acceptPacket now p.space p.packetType p.parsed

/-- The number of the packet is noted already. -/
def Recorded (p : OpenPacket P) : Prop :=
  ∃ range ∈ (p.conn.spaces.get p.space).received,
    range.1 ≤ p.parsed.packetNumber ∧ p.parsed.packetNumber ≤ range.2

instance (p : OpenPacket P) : Decidable p.Recorded :=
  inferInstanceAs (Decidable (∃ range ∈ _, _))

def frames (p : OpenPacket P) : List Frame := payloadFrames p.parsed.payload

end OpenPacket

namespace Connection

/-! ## Opening -/

def openHandshake (c : Connection P) (space : SpaceKind) (datagram : Bytes) (offset : Nat) :
    Option (OpenPacket P) :=
  match (c.spaces.get space).remoteKeys with
  | none => none
  | some keys =>
    match parseLongPacket P datagram offset quicV1 (c.spaces.get space).largestReceived
        keys.packet keys.header with
    | .error _ => none
    | .ok parsed =>
      if !parsed.dcid.isEmpty && parsed.dcid ≠ c.localCid && parsed.dcid ≠ c.initialDcid then
        none
      else some ⟨c.adoptPeerCid parsed, space, parsed.packetType, parsed⟩

def openZeroRtt (c : Connection P) (datagram : Bytes) (offset : Nat) : Option (OpenPacket P) :=
  if c.role ≠ .server then none
  else
    match c.zeroRtt.keys with
    | none => none
    | some keys =>
      match parseLongPacket P datagram offset quicV1 c.spaces.application.largestReceived
          keys.packet keys.header with
      | .error _ => none
      | .ok parsed => some ⟨c, .application, .zeroRtt, parsed⟩

def openLong (c : Connection P) (datagram : Bytes) (offset : Nat) : Option (OpenPacket P) :=
  match peekDcid (datagram.drop offset) localCidLen with
  | .ok (.zeroRtt, _) => c.openZeroRtt datagram offset
  | .ok (.initial, _) => c.openHandshake .initial datagram offset
  | .ok (.handshake, _) => c.openHandshake .handshake datagram offset
  | _ => none

def openShort (c : Connection P) (now : Time) (datagram : Bytes) (offset : Nat) :
    Option (OpenPacket P) :=
  match c.spaces.application.remoteKeys with
  | none => none
  | some keys =>
    match stripShortHeaderProtection P datagram offset localCidLen keys.header with
    | .error _ => none
    | .ok (datagram, incomingKeyPhase) =>
      if incomingKeyPhase = c.keyUpdate.keyPhase then
        (c.openCurrentPhase now datagram offset keys.packet).map
          (⟨c, .application, .short, ·⟩)
      else
        match c.keyUpdate.nextOneRttKeys with
        | none => none
        | some nextKeys =>
          match decryptShortPacketBody P datagram offset localCidLen
              c.spaces.application.largestReceived nextKeys.receiving with
          | .error _ => none
          | .ok parsed => some ⟨c.performKeyUpdate now, .application, .short, parsed⟩

/-- The packet at an offset of a datagram, if one opens there. -/
def openPacket (c : Connection P) (now : Time) (datagram : Bytes) (offset : Nat) :
    Option (OpenPacket P) :=
  match datagram[offset]? with
  | none => none
  | some first =>
    if first = 0 then none
    else if first &&& 0x80 ≠ 0 then c.openLong datagram offset
    else c.openShort now datagram offset

/-- Process the packet at an offset of a datagram. -/
def recvPacket (c : Connection P) (now : Time) (datagram : Bytes) (offset : Nat) :
    Outcome P (Option Nat) :=
  match datagram[offset]? with
  | none => (c, .ok none)
  | some first =>
    if first = 0 then (c, .ok none)
    else if first &&& 0x80 ≠ 0 then c.recvLongPacket now datagram offset
    else c.recvShortPacket now datagram offset

section Open

variable {c : Connection P} {now : Time} {datagram : Bytes} {offset : Nat} {p : OpenPacket P}

theorem recvHandshakePacket_of_open {space : SpaceKind}
    (h : c.openHandshake space datagram offset = some p) :
    c.recvHandshakePacket now space datagram offset = p.accept now := by
  simp only [openHandshake] at h
  simp only [recvHandshakePacket]
  cases hkeys : (c.spaces.get space).remoteKeys with
  | none => simp only [hkeys] at h; cases h
  | some keys =>
    simp only [hkeys] at h ⊢
    cases hparsed : parseLongPacket P datagram offset quicV1 (c.spaces.get space).largestReceived
        keys.packet keys.header with
    | error e => simp only [hparsed] at h; cases h
    | ok parsed =>
      simp only [hparsed] at h ⊢
      split at h
      · cases h
      rename_i hours
      cases h
      exact if_neg hours

theorem recvZeroRttPacket_of_open (h : c.openZeroRtt datagram offset = some p) :
    c.recvZeroRttPacket now datagram offset = p.accept now := by
  simp only [openZeroRtt] at h
  simp only [recvZeroRttPacket]
  split at h
  · cases h
  rename_i hserver
  refine (if_neg hserver).trans ?_
  cases hkeys : c.zeroRtt.keys with
  | none => simp only [hkeys] at h; cases h
  | some keys =>
    simp only [hkeys] at h ⊢
    cases hparsed : parseLongPacket P datagram offset quicV1
        c.spaces.application.largestReceived keys.packet keys.header with
    | error e => simp only [hparsed] at h; cases h
    | ok parsed =>
      simp only [hparsed] at h ⊢
      cases h
      rfl

theorem recvLongPacket_of_open (h : c.openLong datagram offset = some p) :
    c.recvLongPacket now datagram offset = p.accept now := by
  simp only [openLong] at h
  simp only [recvLongPacket]
  split at h
  · rename_i htype
    rw [htype]
    exact recvZeroRttPacket_of_open h
  · rename_i htype
    rw [htype]
    exact recvHandshakePacket_of_open h
  · rename_i htype
    rw [htype]
    exact recvHandshakePacket_of_open h
  · cases h

theorem recvShortPacket_eq (c : Connection P) (now : Time) (datagram : Bytes) (offset : Nat) :
    match c.openShort now datagram offset with
    | none => (c.recvShortPacket now datagram offset).1 = c
    | some p => c.recvShortPacket now datagram offset = p.accept now := by
  simp only [openShort, recvShortPacket]
  cases hkeys : c.spaces.application.remoteKeys with
  | none => exact checkStatelessReset_conn c datagram offset
  | some keys =>
    simp only
    cases hstrip : stripShortHeaderProtection P datagram offset localCidLen keys.header with
    | error e => exact checkStatelessReset_conn c datagram offset
    | ok stripped =>
      obtain ⟨stripped, phase⟩ := stripped
      simp only
      by_cases hphase : phase = c.keyUpdate.keyPhase
      · simp only [if_pos hphase]
        cases hopen : c.openCurrentPhase now stripped offset keys.packet with
        | none => exact checkStatelessReset_conn c stripped offset
        | some parsed => rfl
      simp only [if_neg hphase]
      cases hnext : c.keyUpdate.nextOneRttKeys with
      | none => exact checkStatelessReset_conn c stripped offset
      | some nextKeys =>
        simp only
        cases hbody : decryptShortPacketBody P stripped offset localCidLen
            c.spaces.application.largestReceived nextKeys.receiving with
        | error e => exact checkStatelessReset_conn c stripped offset
        | ok parsed => rfl

theorem openHandshake_conn {space : SpaceKind}
    (h : c.openHandshake space datagram offset = some p) :
    ∃ peerCid, p.conn = { c with peerCid := peerCid } := by
  simp only [openHandshake] at h
  split at h
  · cases h
  split at h
  · cases h
  split at h
  · cases h
  cases h
  simp only [adoptPeerCid]
  split
  · exact ⟨_, rfl⟩
  · exact ⟨c.peerCid, rfl⟩

theorem openShort_conn (h : c.openShort now datagram offset = some p) :
    p.packetType = .short ∧ ∃ keyUpdate spaces, p.conn = { c with
      keyUpdate := keyUpdate, spaces := spaces } := by
  simp only [openShort] at h
  split at h
  · cases h
  split at h
  · cases h
  split at h
  · obtain ⟨parsed, _, rfl⟩ := Option.map_eq_some_iff.mp h
    exact ⟨rfl, c.keyUpdate, c.spaces, rfl⟩
  split at h
  · cases h
  split at h
  · cases h
  · cases h
    obtain ⟨_, _, -, hfollow⟩ := performKeyUpdate_conn c now
    exact ⟨rfl, _, _, hfollow⟩

theorem openPacket_conn (h : c.openPacket now datagram offset = some p) :
    ∃ peerCid keyUpdate spaces, p.conn = { c with
      peerCid := peerCid, keyUpdate := keyUpdate, spaces := spaces } := by
  have hhandshake : ∀ {space}, c.openHandshake space datagram offset = some p →
      ∃ peerCid keyUpdate spaces, p.conn = { c with
        peerCid := peerCid, keyUpdate := keyUpdate, spaces := spaces } := by
    intro space hopen
    obtain ⟨peerCid, hconn⟩ := openHandshake_conn hopen
    exact ⟨peerCid, c.keyUpdate, c.spaces, hconn⟩
  simp only [openPacket] at h
  split at h
  · cases h
  split at h
  · cases h
  split at h
  · simp only [openLong] at h
    split at h
    · simp only [openZeroRtt] at h
      split at h
      · cases h
      split at h
      · cases h
      split at h
      · cases h
      · cases h
        exact ⟨c.peerCid, c.keyUpdate, c.spaces, rfl⟩
    · exact hhandshake h
    · exact hhandshake h
    · cases h
  · obtain ⟨_, keyUpdate, spaces, hconn⟩ := openShort_conn h
    exact ⟨c.peerCid, keyUpdate, spaces, hconn⟩

/-- What the frames keep and the number of a packet does not concern, the packet keeps. -/
theorem accept_meets {I : Connection P → Prop} {K : Connection P → Frame → Prop}
    (step : ∀ {c frame}, I c → K c frame → I (c.takeFrame now p.packetType frame).1)
    (hnote : ∀ {c} space pn ackEliciting, I c → I (c.notePacket space pn ackEliciting))
    (h : I p.conn.beginPacket) (hmeets : Meets K now p.packetType p.frames p.conn.beginPacket) :
    I (p.accept now).1 := by
  have hframes := processFramesFuel_meets step p.parsed.payload.length p.parsed.payload false h
    hmeets
  simp only [OpenPacket.accept, acceptPacket, Outcome.andThen]
  split
  · exact hnote _ _ _ hframes
  · exact hframes

theorem recvPacket_of_open (h : c.openPacket now datagram offset = some p) :
    c.recvPacket now datagram offset = p.accept now := by
  simp only [openPacket] at h
  simp only [recvPacket]
  split at h
  · cases h
  split at h
  · cases h
  rename_i hpacket
  rw [if_neg hpacket]
  split at h
  · rename_i hlong
    rw [if_pos hlong]
    exact recvLongPacket_of_open h
  rename_i hlong
  rw [if_neg hlong]
  have hshort := recvShortPacket_eq c now datagram offset
  rwa [h] at hshort

theorem recvPackets_succ (now : Time) (datagram : Bytes) (fuel offset : Nat) (c : Connection P) :
    recvPackets now datagram (fuel + 1) offset c =
      (c.recvPacket now datagram offset).andThen fun c consumed =>
        match consumed with
        | some stop => recvPackets now datagram fuel stop c.afterPacket
        | none => (c, .ok ()) := by
  simp only [recvPackets, recvPacket]
  cases datagram[offset]? with
  | none => rfl
  | some first =>
    simp only
    split <;> rfl

theorem handleDatagram_of_open (h : (c.arrive now datagram).openPacket now datagram 0 = some p)
    (hend : datagram.length ≤ p.parsed.consumed) :
    c.handleDatagram now datagram = (p.accept now).andThen fun d _ => (d.afterPacket, .ok ()) := by
  have hconsumed : ∀ stop, (p.accept now).2 = .ok stop → stop = some p.parsed.consumed := by
    intro stop hok
    simp only [OpenPacket.accept, acceptPacket, Outcome.andThen] at hok
    split at hok
    · cases hok
      rfl
    · cases hok
  have hbeyond : datagram[p.parsed.consumed]? = none := List.getElem?_eq_none hend
  have hstart : c.handleDatagram now datagram
      = recvPackets now datagram datagram.length 0 (c.arrive now datagram) := rfl
  obtain ⟨fuel, hfuel⟩ : ∃ fuel, datagram.length = fuel + 1 := by
    cases datagram with
    | nil => cases h
    | cons first rest => exact ⟨rest.length, rfl⟩
  rw [hstart, hfuel, recvPackets_succ, recvPacket_of_open h]
  simp only [Outcome.andThen]
  cases hresult : (p.accept now).2 with
  | error e => rfl
  | ok stop =>
    rw [hconsumed stop hresult]
    cases fuel with
    | zero => rfl
    | succ fuel => simp only [recvPackets, hbeyond]

end Open

/-! ## After a packet -/

theorem afterPacket_of_complete {I : Connection P → Prop}
    (hpump : ∀ c : Connection P, I c → I c.pumpOnce) {c : Connection P} (h : I c)
    (hcomplete : c.hs.handshakeComplete = true) : I c.afterPacket := by
  have hpumped : I (pumpFuel (P.keyChangesLeft c.tls + 1) c) ∧
      (pumpFuel (P.keyChangesLeft c.tls + 1) c).hs.handshakeComplete = true := by
    refine pumpFuel_invariant (I := fun d => I d ∧ d.hs.handshakeComplete = true) ?_ _
      ⟨h, hcomplete⟩
    rintro d ⟨hd, hdone⟩
    exact ⟨hpump d hd, (Unkeyed.pumpOnce (f := fun d => d.hs.handshakeComplete)
      ⟨fun _ _ _ _ _ => rfl, fun _ _ => rfl, fun _ _ _ _ => rfl⟩ d).trans hdone⟩
  obtain ⟨hd, hdone⟩ := hpumped
  have hrefresh : c.pumpWriteHs = pumpFuel (P.keyChangesLeft c.tls + 1) c := by
    simp [pumpWriteHs, refreshHandshakeComplete, hdone]
  simp only [afterPacket, hrefresh, hdone, Bool.not_true, Bool.false_eq_true, if_false]
  exact hd

/-! ## Settled streams -/

theorem Updates.uptake {I : Uptake P → Prop} (step : ∀ {u v}, I u → u.Step v → I v) {op : Op}
    {c d : Connection P} (h : I c.uptake) (hd : Updates op c d) : I d.uptake := by
  refine hd.invariant (I := fun c => I c.uptake) ?_ h
  intro c d h hupdate
  rcases hupdate.uptake with hsame | ⟨_, e, v, htakes, hd⟩ | ⟨_, hact⟩
  · exact hsame ▸ h
  · exact hd ▸ step h (.frame htakes)
  · exact step h (.act hact)

end Connection

/-- Every receive half is settled. -/
def Uptake.AllSettled (u : Uptake P) : Prop := ∀ id, (u.half id).Settled

theorem Uptake.allSettled_step {u v : Uptake P} (h : u.AllSettled) (hstep : u.Step v) :
    v.AllSettled := by
  intro id
  cases hstep with
  | frame htakes =>
    cases htakes with
    | hear | announce => exact h id
    | stream packetType sid offset fin data readable newPeerStreams =>
      show ((u.stream sid ⟨offset, data, fin⟩ readable newPeerStreams).half id).Settled
      rw [half_stream]
      split
      · simp only [RecvStream.takeIn]
        split
        · exact h sid
        · exact (h sid).recv _
      · exact h id
    | reset packetType sid code finalSize readable =>
      show ((u.reset sid code readable).half id).Settled
      rw [half_reset]
      split
      · exact (RecvStream.Turns.reset code).settled (h sid)
      · exact h id
  | act hact =>
    cases hact with
    | openBidi hid =>
      show ((u.openBidi _).half id).Settled
      rw [half_openBidi]
      split
      · exact RecvStream.settled_new
      · exact h id
    | @read sid s hs hreset =>
      rw [half_read]
      have hsettled : s.Settled := half_of_get? u hs ▸ h sid
      split
      · exact ⟨hsettled.flushed, hsettled.ended⟩
      · exact h id
    | _ => exact h id

namespace Connection

theorem Fresh.settled {c d : Connection P} (hfresh : c.Fresh) {ops : List Op} {op : Op}
    (hd : Updates op (c.run ops) d) : d.uptake.AllSettled := by
  have hstart : c.uptake.AllSettled := by
    have hempty : c.inbound.streams = ∅ := by
      cases hfresh <;> rfl
    intro id
    show ((c.inbound.streams.get? id).getD {}).Settled
    rw [hempty]
    exact RecvStream.settled_new
  exact hd.uptake Uptake.allSettled_step (run_uptake Uptake.allSettled_step hstart ops)

end Connection

end OxiQuic
