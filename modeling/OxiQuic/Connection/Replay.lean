import OxiQuic.Connection.Early

/-!
# Packets that arrive again

A packet whose number is noted already is processed like any other.  So it changes what the
application can see exactly as far as its frames still have something to change: `Spent` says when
a frame has not (`handleFrame_visible_iff`), and a packet of spent frames leaves everything visible
as it is (`replay_unseen`).
-/

namespace OxiQuic

open Lib Plain

variable {P : Platform} (c : Connection P)

/-- What the application can see of a connection: the bytes it can read, the streams and datagrams
that wait for it, the limits, the connection IDs, the address and the packets in flight. -/
structure Visible where
  ready : StreamId → Bytes
  newPeerStreams : List StreamId
  datagramRecvQueue : List Bytes
  sendLimit : Nat
  recvLimit : Nat
  streamSendLimit : StreamId → Option Nat
  streamRecvLimit : StreamId → Option Nat
  peerMaxStreams : Direction → Nat
  localCidPool : LocalCidPool
  peerCidPool : PeerCidPool
  peerAddr : SocketAddr
  sentPackets : PerSpace SentPackets

namespace Connection

def visible (c : Connection P) : Visible where
  ready id := (c.uptake.half id).ready
  newPeerStreams := c.inbound.newPeerStreams
  datagramRecvQueue := c.datagrams.recvQueue
  sendLimit := c.flow.sendFlow.maxData
  recvLimit := c.flow.recvFlow.maxData
  streamSendLimit id := (c.flow.streamSendFlow.get? id).map (·.maxData)
  streamRecvLimit id := (c.flow.streamRecvFlow.get? id).map (·.maxData)
  peerMaxStreams dir := (c.limits.get dir).peerMaxStreams
  localCidPool := c.cids.localCidPool
  peerCidPool := c.cids.peerCidPool
  peerAddr := c.path.peerAddr
  sentPackets := c.sentPackets

/-- A frame has nothing visible to change. -/
def Spent (c : Connection P) (packetType : PacketType) : Frame → Prop
  | .ack largest _ firstRange ranges =>
    (∀ pn, AckCovers largest firstRange (ranges.map fun r => (r.gap, r.range)) pn →
      (c.sentPackets.get (spaceIndex packetType)).sent.get? pn = none) ∧
    ∃ prev, (c.sentPackets.get (spaceIndex packetType)).largestAcked = some prev ∧
      largest ≤ prev
  | .resetStream id _ _ => (c.uptake.half id).ready = []
  | .stream id offset fin data =>
    c.flow.streamRecvFlow.contains id = true ∧
    (StreamId.direction id = .bidirectional → c.flow.streamSendFlow.contains id = true) ∧
    (c.inbound.streams.contains id = true ∨ c.isPeerInitiated id = false) ∧
    ((c.uptake.half id).isReset = true ∨
      (c.uptake.half id).violatesFinalSize (offset + data.length) fin = true ∨
      ¬ (offset ≤ (c.uptake.half id).readOffset ∧
        (c.uptake.half id).readOffset < offset + data.length))
  | .maxData max => max ≤ c.flow.sendFlow.maxData
  | .maxStreamData id max =>
    ∃ credit, c.flow.streamSendFlow.get? id = some credit ∧ max ≤ credit.maxData
  | .pathResponse data => c.path.pendingPathChallenge = some data →
      c.path.candidatePeerAddr.getD c.path.peerAddr = c.path.peerAddr
  | .newConnectionId seq retirePriorTo _ _ =>
    packetType ≠ .short ∨ c.cids.peerCidPool.Declines seq retirePriorTo
  | .retireConnectionId seq => c.IgnoresRetirement packetType seq
  | .maxStreams dir max => max ≤ (c.limits.get dir).peerMaxStreams
  | .datagram data => c.IgnoresDatagram data
  | _ => True

/-! ## Acknowledgements -/

theorem detectAndHandleLoss_sentPackets (idx : SpaceKind) (now : Time) :
    (c.detectAndHandleLoss idx now).sentPackets = c.sentPackets.set idx
      ((c.sentPackets.get idx).detectLost now c.recovery.rtt.lossDelay).1 := by
  have huntimed : Untimed fun d : Connection P => d.sentPackets := fun _ _ _ _ _ _ => rfl
  have hlost : ∀ (d : Connection P) (frame : SentFrame),
      (d.onFrameLost idx frame).sentPackets = d.sentPackets := by
    intro d frame
    cases frame with
    | crypto | newToken =>
      simp only [onFrameLost, requeueFrame]
      split <;> rfl
    | _ => rfl
  simp only [detectAndHandleLoss]
  split
  · rfl
  · refine (huntimed.logAll _ _).trans ((huntimed.onPacketsLost _ _ _).trans ?_)
    exact foldl_view (V := fun d : Connection P => d.sentPackets) (fun d frame _ => hlost d frame) _

variable (id : StreamId) (now : Time)

theorem processAck_sentPackets (packetType : PacketType)
    (largest delay firstRange : Nat) (ranges : List AckRange) :
    ∃ s, (c.processAck now packetType largest delay firstRange ranges).sentPackets =
        c.sentPackets.set (spaceIndex packetType) s ∧
      s.largestAcked = ((c.sentPackets.get (spaceIndex packetType)).onAck largest firstRange
        (ranges.map fun r => (r.gap, r.range))).1.largestAcked ∧
      ∀ pn p, s.sent.get? pn = some p → ((c.sentPackets.get (spaceIndex packetType)).onAck largest
        firstRange (ranges.map fun r => (r.gap, r.range))).1.sent.get? pn = some p := by
  have huntimed : Untimed fun d : Connection P => d.sentPackets := fun _ _ _ _ _ _ => rfl
  simp only [processAck]
  split
  · exact ⟨_, rfl, rfl, fun _ _ h => h⟩
  have hacked := huntimed.onAcked { c with
    spaces := c.spaces.set (spaceIndex packetType)
      ((c.spaces.get (spaceIndex packetType)).onAckReceived largest)
    sentPackets := c.sentPackets.set (spaceIndex packetType)
      ((c.sentPackets.get (spaceIndex packetType)).onAck largest firstRange
        (ranges.map fun r => (r.gap, r.range))).1 } (spaceIndex packetType)
    ((c.sentPackets.get (spaceIndex packetType)).onAck largest firstRange
      (ranges.map fun r => (r.gap, r.range))).2 largest delay now
  simp only at hacked
  generalize List.foldl (onFrameAcked now) _ _ = d at hacked ⊢
  have hloss := detectAndHandleLoss_sentPackets d (spaceIndex packetType) now
  have htakes := (d.sentPackets.get (spaceIndex packetType)).detectLost_takes now
    d.recovery.rtt.lossDelay
  rw [hacked, PerSpace.get_set_self] at hloss htakes
  rw [PerSpace.set_set] at hloss
  exact ⟨_, hloss, SentPackets.detectLost_largestAcked .., fun pn p hp => htakes.left hp⟩

theorem processAck_visible_iff (packetType : PacketType)
    (largest delay firstRange : Nat) (ranges : List AckRange) :
    (c.processAck now packetType largest delay firstRange ranges).visible = c.visible ↔
      c.Spent packetType (.ack largest delay firstRange ranges) := by
  constructor
  · intro hsame
    obtain ⟨s, hs, hlargest, hsent⟩ :=
      processAck_sentPackets c now packetType largest delay firstRange ranges
    have hstore : c.sentPackets.get (spaceIndex packetType) = s := by
      rw [← show _ = c.sentPackets from congrArg Visible.sentPackets hsame]
      show (c.processAck now packetType largest delay firstRange ranges).sentPackets.get _ = s
      rw [hs, PerSpace.get_set_self]
    rw [Spent, hstore]
    rw [hstore] at hlargest hsent
    refine ⟨fun pn hcovers => ?_, ?_⟩
    · cases hget : s.sent.get? pn with
      | none => rfl
      | some p => cases (SentPackets.onAck_get?_of_covers s hcovers).symm.trans (hsent pn p hget)
    cases hprev : s.largestAcked with
    | none =>
      rw [hprev] at hlargest
      cases hlargest
    | some prev =>
      rw [SentPackets.onAck, hprev] at hlargest
      have hmax : prev = max prev largest := Option.some.inj hlargest
      exact ⟨prev, rfl, by omega⟩
  · rintro ⟨hnone, prev, hprev, hle⟩
    have htaken := SentPackets.takeRanges_of_uncovered hnone
    have hsame : (c.sentPackets.get (spaceIndex packetType)).onAck largest firstRange
        (ranges.map fun r => (r.gap, r.range)) =
          (c.sentPackets.get (spaceIndex packetType), ⟨[], false, none⟩) := by
      simp only [SentPackets.onAck, htaken, hprev, Nat.max_eq_left hle, List.map_nil, List.any_nil]
      rw [← hprev]
      rfl
    simp only [processAck, hsame, List.isEmpty_nil, if_true, PerSpace.set_get_self]
    rfl

/-! ## Streams -/

theorem recvResetStream_visible_iff (id errorCode : Nat) :
    (c.recvResetStream id errorCode).visible = c.visible ↔ (c.uptake.half id).ready = [] := by
  have hready : ∀ id', ((c.recvResetStream id errorCode).uptake.half id').ready =
      if id' = id then [] else (c.uptake.half id').ready := by
    intro id'
    have hhalf : (c.recvResetStream id errorCode).uptake.half id' =
        if id' = id then (c.uptake.half id).applyReset errorCode else c.uptake.half id' :=
      Uptake.getD_get?_insert ..
    rw [hhalf]
    split <;> rfl
  constructor
  · intro hsame
    have hid := congrFun (congrArg Visible.ready hsame) id
    exact hid.symm.trans ((hready id).trans (if_pos rfl))
  intro hempty
  refine congrArg (fun ready => ({ c.visible with ready := ready } : Visible))
    (funext fun id' => (hready id').trans ?_)
  split
  · rename_i hid
    rw [hid]
    exact hempty.symm
  · rfl

theorem limits_ite_contains_insert_iff {β : Type} (f : β → Nat) (m : OrdMap Nat β) (k : Nat)
    (v : β) : (∀ k', ((if m.contains k then m else m.insert k v).get? k').map f =
      (m.get? k').map f) ↔ m.contains k = true := by
  constructor
  · intro h
    by_contra hnone
    have hk := h k
    rw [if_neg hnone, OrdMap.get?_insert_self] at hk
    cases hget : m.get? k with
    | none =>
      rw [hget] at hk
      cases hk
    | some v' => exact hnone (OrdMap.contains_iff.mpr ⟨v', hget⟩)
  · intro h k'
    rw [if_pos h]

theorem ensureStream_streamRecvFlow :
    (c.ensureStream id).flow.streamRecvFlow =
      if c.flow.streamRecvFlow.contains id then c.flow.streamRecvFlow
      else c.flow.streamRecvFlow.insert id (.new c.flow.localInitialMaxStreamData) := by
  simp only [ensureStream, ensureRecvFlow, ensureSendHalf, noteNewPeerStream]
  split <;> split <;> rfl

theorem ensureStream_streamSendFlow :
    (c.ensureStream id).flow.streamSendFlow =
      if StreamId.direction id = .bidirectional then
        if c.flow.streamSendFlow.contains id then c.flow.streamSendFlow
        else c.flow.streamSendFlow.insert id (.new c.peerInitialStreamLimit)
      else c.flow.streamSendFlow := by
  simp only [ensureStream, ensureRecvFlow, ensureSendHalf, noteNewPeerStream]
  split <;> split <;> rfl

theorem ready_takeIn_eq_iff {s : RecvStream} (h : s.Settled) (seg : Segment) :
    (s.takeIn seg).ready = s.ready ↔ s.isReset = true ∨
      s.violatesFinalSize seg.stop seg.fin = true ∨
      ¬ (seg.offset ≤ s.readOffset ∧ s.readOffset < seg.stop) := by
  simp only [RecvStream.takeIn]
  split
  · rename_i hreset
    exact iff_of_true rfl (.inl hreset)
  rename_i hreset
  cases hviolates : s.violatesFinalSize seg.stop seg.fin with
  | true =>
    rw [RecvStream.recv_of_violates hviolates]
    exact iff_of_true rfl (.inr (.inl rfl))
  | false =>
    rw [RecvStream.ready_recv_eq_iff h seg hviolates]
    simp [hreset]

theorem recvStream_visible_iff {c : Connection P} (h : c.uptake.AllSettled)
    (packetType : PacketType) (id offset : Nat) (fin : Bool) (data : Bytes) :
    (c.recvStream id offset fin data).1.visible = c.visible ↔
      c.Spent packetType (.stream id offset fin data) := by
  obtain ⟨readable, hconn, _⟩ := recvStream_conn c id offset fin data
  have hhalf : ∀ id', (c.recvStream id offset fin data).1.uptake.half id' =
      if id' = id then (c.uptake.half id).takeIn ⟨offset, data, fin⟩ else c.uptake.half id' := by
    intro id'
    rw [hconn]
    exact Uptake.getD_get?_insert ..
  have hview : (c.recvStream id offset fin data).1.visible = { c.visible with
      ready := fun id' => ((c.recvStream id offset fin data).1.uptake.half id').ready
      newPeerStreams := (c.ensureStream id).inbound.newPeerStreams
      streamSendLimit := fun id' =>
        ((c.ensureStream id).flow.streamSendFlow.get? id').map (·.maxData)
      streamRecvLimit := fun id' =>
        ((c.ensureStream id).flow.streamRecvFlow.get? id').map (·.maxData) } := by
    rw [hconn]
    simp only [visible, ensureStream, ensureRecvFlow, ensureSendHalf, noteNewPeerStream]
    split <;> split <;> rfl
  have hrecv := limits_ite_contains_insert_iff RecvWindow.maxData c.flow.streamRecvFlow id
    (.new c.flow.localInitialMaxStreamData)
  have hsend := limits_ite_contains_insert_iff SendCredit.maxData c.flow.streamSendFlow id
    (.new c.peerInitialStreamLimit)
  have hready := ready_takeIn_eq_iff (h id) ⟨offset, data, fin⟩
  rw [← ensureStream_streamRecvFlow] at hrecv
  constructor
  · intro hsame
    have hnew := congrArg Visible.newPeerStreams (hview.symm.trans hsame)
    have hcredit := congrArg Visible.streamSendLimit (hview.symm.trans hsame)
    refine ⟨hrecv.mp (congrFun (congrArg Visible.streamRecvLimit (hview.symm.trans hsame))),
      fun hdir => ?_, ?_, hready.mp ?_⟩
    · refine hsend.mp fun id' => ?_
      have hid := congrFun hcredit id'
      simp only [ensureStream_streamSendFlow, if_pos hdir] at hid
      exact hid
    · simp only [inbound_ensureStream] at hnew
      by_contra hfresh
      simp only [not_or, Bool.not_eq_true, Bool.not_eq_false] at hfresh
      rw [hfresh.1, hfresh.2] at hnew
      simp [visible] at hnew
    · have hid := congrFun (congrArg Visible.ready hsame) id
      refine Eq.trans ?_ hid
      show _ = ((c.recvStream id offset fin data).1.uptake.half id).ready
      rw [hhalf, if_pos rfl]
  · rintro ⟨hwindow, hcredit, hknown, hspent⟩
    have hbytes : (fun id' => ((c.recvStream id offset fin data).1.uptake.half id').ready) =
        c.visible.ready := by
      funext id'
      rw [hhalf]
      split
      · rename_i hid
        rw [hid]
        exact hready.mpr hspent
      · rfl
    have hnew : (c.ensureStream id).inbound.newPeerStreams = c.inbound.newPeerStreams := by
      simp only [inbound_ensureStream]
      rcases hknown with hcontains | hours
      · simp [hcontains]
      · simp [hours]
    have hsendflow : (c.ensureStream id).flow.streamSendFlow = c.flow.streamSendFlow := by
      rw [ensureStream_streamSendFlow]
      split
      · rename_i hdir
        exact if_pos (hcredit hdir)
      · rfl
    have hrecvflow : (c.ensureStream id).flow.streamRecvFlow = c.flow.streamRecvFlow :=
      (ensureStream_streamRecvFlow c id).trans (if_pos hwindow)
    rw [hview, hbytes, hnew, hsendflow, hrecvflow]
    rfl

/-! ## Frames -/

theorem recvMaxStreamData_visible_iff (id max : Nat) :
    (c.recvMaxStreamData id max).visible = c.visible ↔
      ∃ credit, c.flow.streamSendFlow.get? id = some credit ∧ max ≤ credit.maxData := by
  constructor
  · intro hsame
    have hid : ((c.recvMaxStreamData id max).flow.streamSendFlow.get? id).map (·.maxData) =
        (c.flow.streamSendFlow.get? id).map (·.maxData) :=
      congrFun (congrArg Visible.streamSendLimit hsame) id
    simp only [recvMaxStreamData, OrdMap.get?_insert_self] at hid
    cases hcredit : c.flow.streamSendFlow.get? id with
    | none =>
      rw [hcredit] at hid
      cases hid
    | some credit =>
      rw [hcredit] at hid
      exact ⟨credit, rfl, (credit.maxData_onMaxData_eq_iff max).mp (Option.some.inj hid)⟩
  · rintro ⟨credit, hcredit, hle⟩
    simp only [recvMaxStreamData, hcredit, Option.getD_some,
      (credit.onMaxData_eq_self_iff max).mpr hle, OrdMap.insert_of_get?_eq_some hcredit]

theorem recvPathResponse_visible_iff (data : Bytes) :
    (c.recvPathResponse data).visible = c.visible ↔ (c.path.pendingPathChallenge = some data →
        c.path.candidatePeerAddr.getD c.path.peerAddr = c.path.peerAddr) := by
  simp only [recvPathResponse]
  split
  · rename_i houtstanding
    constructor
    · exact fun hsame _ => congrArg Visible.peerAddr hsame
    intro haddr
    exact congrArg (fun addr => ({ c.visible with peerAddr := addr } : Visible))
      (haddr houtstanding)
  · rename_i hother
    exact iff_of_true rfl fun houtstanding => absurd houtstanding hother

theorem recvNewConnectionId_visible_iff (packetType : PacketType)
    (seq retirePriorTo : Nat) (cid : ConnectionId) (token : Bytes) :
    (c.recvNewConnectionId packetType seq retirePriorTo cid token).1.visible = c.visible ↔
      packetType ≠ .short ∨ c.cids.peerCidPool.Declines seq retirePriorTo := by
  by_cases hshort : packetType ≠ .short
  · rw [recvNewConnectionId, if_pos hshort]
    exact iff_of_true rfl (.inl hshort)
  rw [or_iff_right hshort,
    ← receiveNewCid_eq_self_iff c.cids.peerCidPool seq retirePriorTo cid token]
  have hview : (c.recvNewConnectionId packetType seq retirePriorTo cid token).1.visible =
      { c.visible with
        peerCidPool := (c.cids.peerCidPool.receiveNewCid seq retirePriorTo cid token).1 } := by
    simp only [recvNewConnectionId, if_neg hshort]
    split <;> rfl
  rw [hview]
  constructor
  · exact congrArg Visible.peerCidPool
  intro h
  rw [h]
  rfl

theorem recvRetireConnectionId_visible_iff (packetType : PacketType)
    (seq : Nat) : (c.recvRetireConnectionId packetType seq).1.visible = c.visible ↔
      c.IgnoresRetirement packetType seq := by
  constructor
  · intro h
    exact (recvRetireConnectionId_pool_iff c packetType seq).mp (congrArg Visible.localCidPool h)
  · intro h
    rw [recvRetireConnectionId_of_ignores h]

theorem maxStreams_visible_iff (dir : Direction) (max : Nat) :
    ({ c with limits := c.limits.modify dir (raisePeerMaxStreams max) } : Connection P).visible
      = c.visible ↔ max ≤ (c.limits.get dir).peerMaxStreams := by
  rw [← peerMaxStreams_raise_eq_iff]
  constructor
  · intro hsame
    have hdir := congrFun (congrArg Visible.peerMaxStreams hsame) dir
    cases dir <;> exact hdir
  intro hsame
  refine congrArg (fun streams => ({ c.visible with peerMaxStreams := streams } : Visible))
    (funext fun dir' => ?_)
  cases dir <;> cases dir' <;> first | exact hsame | rfl

theorem handleFrame_visible_iff {c : Connection P} (h : c.uptake.AllSettled) (now : Time)
    (packetType : PacketType) (frame : Frame) :
    (c.handleFrame now packetType frame).1.visible = c.visible ↔ c.Spent packetType frame := by
  cases frame with
  | ack largest delay firstRange ranges => exact processAck_visible_iff c now packetType _ _ _ _
  | resetStream streamId errorCode finalSize =>
    exact recvResetStream_visible_iff c streamId errorCode
  | stopSending | handshakeDone =>
    refine iff_of_true ?_ trivial
    simp only [handleFrame, recvStopSending]
    split <;> rfl
  | crypto offset data =>
    exact iff_of_true (recvCrypto_kept (fun _ _ _ _ => rfl) c packetType offset data) trivial
  | stream id offset fin data => exact recvStream_visible_iff h packetType id offset fin data
  | maxData max =>
    refine Iff.trans ⟨congrArg Visible.sendLimit, fun hsame => ?_⟩
      (c.flow.sendFlow.maxData_onMaxData_eq_iff max)
    exact congrArg (fun limit => ({ c.visible with sendLimit := limit } : Visible)) hsame
  | maxStreamData id max => exact recvMaxStreamData_visible_iff c id max
  | pathResponse data => exact recvPathResponse_visible_iff c data
  | newConnectionId seq retirePriorTo cid token =>
    exact recvNewConnectionId_visible_iff c packetType seq retirePriorTo cid token
  | retireConnectionId seq => exact recvRetireConnectionId_visible_iff c packetType seq
  | maxStreams dir max => exact maxStreams_visible_iff c dir max
  | streamsBlocked dir limit =>
    refine iff_of_true ?_ trivial
    have hraise : ∀ l : StreamLimit, (raiseMaxStreams l).peerMaxStreams = l.peerMaxStreams := by
      intro l
      simp only [raiseMaxStreams]
      split <;> rfl
    refine congrArg (fun streams => ({ c.visible with peerMaxStreams := streams } : Visible))
      (funext fun dir' => ?_)
    cases dir <;> cases dir' <;> first | exact hraise _ | rfl
  | newToken token =>
    refine iff_of_true ?_ trivial
    simp only [handleFrame, recvNewToken]
    split
    · rfl
    · split <;> rfl
  | datagram data =>
    obtain ⟨queue, hconn, hqueue⟩ := recvDatagramFrame_conn c data
    refine Iff.trans ?_ hqueue
    simp only [handleFrame, hconn]
    constructor
    · exact congrArg Visible.datagramRecvQueue
    · rintro rfl
      rfl
  | _ => exact iff_of_true rfl trivial

end Connection

/-! ## Packets -/

/-- Every frame of a packet is spent when its turn comes. -/
structure OpenPacket.Spent (p : OpenPacket P) (now : Time) : Prop where
  meets : Connection.Meets (fun c => c.Spent p.packetType) now p.packetType p.frames
    p.conn.beginPacket

namespace Connection

variable {p : OpenPacket P} {now : Time}

theorem accept_visible (h : p.conn.uptake.AllSettled) (hspent : p.Spent now) :
    (p.accept now).1.visible = p.conn.visible ∧
      (p.accept now).1.hs.handshakeComplete = p.conn.hs.handshakeComplete := by
  refine (accept_meets (I := fun d => d.uptake.AllSettled ∧ d.visible = p.conn.visible ∧
    d.hs.handshakeComplete = p.conn.hs.handshakeComplete) (K := fun c => c.Spent p.packetType)
    ?_ (fun _ _ _ hd => hd) ⟨h, rfl, rfl⟩ hspent.meets).2
  rintro d frame ⟨hsettled, hvisible, hcomplete⟩ hframe
  have hlogged : (d.log (.received p.packetType frame)).Spent p.packetType frame := by
    cases frame <;> exact hframe
  have hhalves : (d.log (.received p.packetType frame)).uptake.AllSettled := hsettled
  refine ⟨(Updates.single (.frame d now [] p.packetType frame)).uptake Uptake.allSettled_step
    hsettled, ((handleFrame_visible_iff hhalves now _ _).mpr hlogged).trans hvisible, ?_⟩
  rcases takeFrame_lifecycle d now p.packetType frame with hsame | hclosed
  · exact (congrArg Lifecycle.complete hsame).trans hcomplete
  · exact (congrArg Lifecycle.complete hclosed).trans hcomplete

theorem pumpOnce_visible : c.pumpOnce.visible = c.visible :=
  Unkeyed.pumpOnce ⟨fun _ _ _ _ _ => rfl, fun _ _ => rfl, fun _ _ _ _ => rfl⟩ c

theorem openPacket_visible {c : Connection P} {datagram : Bytes} {offset : Nat}
    (h : c.openPacket now datagram offset = some p) :
    p.conn.visible = c.visible ∧ p.conn.uptake = c.uptake ∧
      p.conn.hs.handshakeComplete = c.hs.handshakeComplete := by
  obtain ⟨_, _, _, hconn⟩ := openPacket_conn h
  rw [hconn]
  exact ⟨rfl, rfl, rfl⟩

end Connection

/-- In any state in the course of a run: a frame leaves everything that is visible as it is exactly
if it is spent, and a packet whose number is noted already does so if its frames are spent; so does
the whole call of `handleDatagram` with such a packet once the handshake is complete. -/
theorem replay_unseen {c d : Connection P} (hfresh : c.Fresh) {ops : List Op} {op : Op}
    (hd : Connection.Updates op (c.run ops) d) (now : Time) :
    (∀ packetType frame, (d.handleFrame now packetType frame).1.visible = d.visible ↔
      d.Spent packetType frame) ∧
    (∀ datagram offset p, d.openPacket now datagram offset = some p → p.Recorded → p.Spent now →
      (d.recvPacket now datagram offset).1.visible = d.visible) ∧
    ∀ datagram p, (d.arrive now datagram).openPacket now datagram 0 = some p → p.Recorded →
      p.Spent now → datagram.length ≤ p.parsed.consumed → d.hs.handshakeComplete = true →
      (d.handleDatagram now datagram).1.visible = d.visible := by
  have hsettled := hfresh.settled hd
  refine ⟨Connection.handleFrame_visible_iff hsettled now, ?_, ?_⟩
  · intro datagram offset p hopen _ hspent
    obtain ⟨hvisible, huptake, _⟩ := Connection.openPacket_visible hopen
    rw [Connection.recvPacket_of_open hopen]
    exact (Connection.accept_visible (huptake ▸ hsettled) hspent).1.trans hvisible
  intro datagram p hopen _ hspent hend hcomplete
  obtain ⟨hvisible, huptake, hsame⟩ := Connection.openPacket_visible hopen
  have harrived : (d.arrive now datagram).uptake.AllSettled := hsettled
  obtain ⟨haccepted, hdone⟩ := Connection.accept_visible (huptake ▸ harrived) hspent
  have hunseen : (p.accept now).1.visible = d.visible := haccepted.trans hvisible
  rw [Connection.handleDatagram_of_open hopen hend]
  simp only [Outcome.andThen]
  split
  · refine Connection.afterPacket_of_complete (I := fun e => e.visible = d.visible)
      (fun e he => (Connection.pumpOnce_visible e).trans he) hunseen ?_
    exact hdone.trans (hsame.trans hcomplete)
  · exact hunseen

namespace Plain

/-- A packet to a client that raises its limit and brings a byte. -/
def raised : Bytes := shortPacket (client []) 0 0 [.maxData 100, .stream 1 0 false [7]]

/-- The client that has received it. -/
def told : Connection Plain :=
  (client []).run (joins (client []) ++ [.handleDatagram 2 raised])

/-- The packet as it opens again. -/
def raisedAgain : OpenPacket Plain :=
  ((told.arrive 3 raised).openPacket 3 raised 0).get (by decide +kernel)

theorem raisedAgain_spent : raisedAgain.Spent 3 := by
  have hframes : raisedAgain.frames = [.maxData 100, .stream 1 0 false [7]] := by decide +kernel
  have htype : raisedAgain.packetType = .short := by decide +kernel
  refine ⟨?_⟩
  rw [hframes, htype]
  refine ⟨?_, fun _ => ⟨?_, fun _ => trivial⟩⟩
  · simp only [Connection.Spent]
    decide +kernel
  · simp only [Connection.Spent]
    decide +kernel

/-- A server that takes datagrams, after its handshake. -/
def mailbox : Connection Plain :=
  (server (client []) [] { maxDatagramFrameSize := 100 }).run
    [.handleDatagram 0 ((client []).pollTransmit 0 []).2.1,
      .handleDatagram 1 (connected.pollTransmit 1 []).2.1]

/-- A packet with one datagram. -/
def letter : Bytes := shortPacket mailbox 0 0 [.datagram [7]]

end Plain

theorem replay_unseen_raised :
    raisedAgain.Recorded ∧ (told.handleDatagram 3 raised).1.visible = told.visible := by
  have hd : Connection.Updates .pollReadable told told := .refl _
  have hopen : (told.arrive 3 raised).openPacket 3 raised 0
      = some raisedAgain := (Option.some_get _).symm
  have hrecorded : raisedAgain.Recorded := by decide +kernel
  refine ⟨hrecorded, ?_⟩
  exact (replay_unseen (client_fresh []) hd 3).2.2 raised raisedAgain hopen
    hrecorded raisedAgain_spent (by decide +kernel) (by decide +kernel)

/-- A datagram in a packet that arrives twice is given to the application twice. -/
theorem replay_seen :
    mailbox.hs.handshakeComplete = true ∧
    (mailbox.handleDatagram 2 letter).1.datagrams.recvQueue = [[7]] ∧
    ((mailbox.handleDatagram 2 letter).1.openPacket 3 letter 0).map
      (fun p => decide p.Recorded) = some true ∧
    ((mailbox.handleDatagram 2 letter).1.handleDatagram 3 letter).2 = .ok () ∧
    ((mailbox.handleDatagram 2 letter).1.handleDatagram 3
      letter).1.datagrams.recvQueue = [[7], [7]] := by
  decide +kernel

end OxiQuic
