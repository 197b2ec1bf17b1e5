import OxiQuic.Connection.Idle

/-!
# 1-RTT packets before the handshake is complete

A server has the keys for 1-RTT packets before it has heard the end of the handshake, and it acts
on such packets at once.  What they leave alone before the handshake is complete is what they
leave alone at any time: a frame has no effect on streams, flow control, datagrams, connection IDs
and the path exactly if it is idle (`handleFrame_served_iff`), and a packet of idle frames has none
(`early_packets_idle`).
-/

namespace OxiQuic

open Lib Plain

variable {P : Platform} {c : Connection P}

/-- The state of streams, flow control, datagrams, connection IDs and the path. -/
structure Served where
  sendStreams : OrdMap Nat SendStream
  inbound : Inbound
  resets : Resets
  flow : Flow
  limits : StreamLimits
  datagrams : Datagrams
  localCidPool : LocalCidPool
  peerCidPool : PeerCidPool
  pendingCidEvents : List CidEvent
  path : Path

def Frame.isAck : Frame → Bool
  | .ack .. => true
  | _ => false

/-- The frames whose loss is no matter of the application. -/
def SentFrame.isInternal : SentFrame → Bool
  | .crypto .. => true
  | .ping => true
  | .mtuProbe _ => true
  | .newToken _ => true
  | _ => false

namespace Connection

def served (c : Connection P) : Served where
  sendStreams := c.sendStreams
  inbound := c.inbound
  resets := c.resets
  flow := c.flow
  limits := c.limits
  datagrams := c.datagrams
  localCidPool := c.cids.localCidPool
  peerCidPool := c.cids.peerCidPool
  pendingCidEvents := c.cids.pendingCidEvents
  path := c.path

/-- A frame of a 1-RTT packet has nothing to change. -/
def Idle (c : Connection P) : Frame → Prop
  | .resetStream .. => False
  | .stopSending id errorCode => ∀ s, c.sendStreams.get? id = some s → s.isReset = true ∧
      c.resets.pendingResetStreams.get? id = some (s.resetCode.getD errorCode, s.finalSize)
  | .stream id offset fin data => c.HasStream id ∧ ∃ s, c.inbound.streams.get? id = some s ∧
      (s.isReset = true ∨ s.violatesFinalSize (offset + data.length) fin = true ∨
        s.Has ⟨offset, data, fin⟩)
  | .maxData max => max ≤ c.flow.sendFlow.maxData
  | .maxStreamData id max =>
    ∃ credit, c.flow.streamSendFlow.get? id = some credit ∧ max ≤ credit.maxData
  | .pathChallenge data => c.path.pendingPathResponse = some data
  | .pathResponse data => c.path.pendingPathChallenge ≠ some data
  | .newConnectionId seq retirePriorTo _ _ => c.cids.peerCidPool.Declines seq retirePriorTo
  | .retireConnectionId seq => c.IgnoresRetirement .short seq
  | .maxStreams dir max => max ≤ (c.limits.get dir).peerMaxStreams
  | .streamsBlocked dir _ => (c.limits.get dir).Offered
  | .datagram data => c.IgnoresDatagram data
  | .ack largest _ firstRange ranges =>
    (∀ pn, AckCovers largest firstRange (ranges.map fun r => (r.gap, r.range)) pn →
      c.sentPackets.application.sent.get? pn = none) ∨
    ∀ pn p, c.sentPackets.application.sent.get? pn = some p →
      ∀ frame ∈ p.frames, frame.isInternal = true
  | _ => True

/-! ## Frames -/

theorem recvStopSending_served_iff (c : Connection P) (id errorCode : Nat) :
    (c.recvStopSending id errorCode).served = c.served ↔ c.Idle (.stopSending id errorCode) := by
  simp only [recvStopSending, Idle]
  cases hs : c.sendStreams.get? id with
  | none => exact iff_of_true rfl fun s hs => by cases hs
  | some s =>
    simp only [Option.some.injEq, forall_eq']
    constructor
    · intro h
      have hstreams : (if s.isReset then c.sendStreams
          else c.sendStreams.insert id (s.reset (s.resetCode.getD errorCode))) = c.sendStreams :=
        congrArg Served.sendStreams h
      have hresets : c.resets.pendingResetStreams.insert id
          (s.resetCode.getD errorCode, s.finalSize) = c.resets.pendingResetStreams :=
        congrArg (fun v => v.resets.pendingResetStreams) h
      refine ⟨?_, OrdMap.insert_eq_self_iff.mp hresets⟩
      by_contra hopen
      rw [if_neg hopen, OrdMap.insert_eq_self_iff, hs] at hstreams
      exact hopen (Option.some.inj hstreams ▸ rfl)
    · rintro ⟨hreset, hpending⟩
      simp only [if_pos hreset, OrdMap.insert_of_get?_eq_some hpending]
      rfl

theorem recvMaxStreamData_served_iff (c : Connection P) (id max : Nat) :
    (c.recvMaxStreamData id max).served = c.served ↔ c.Idle (.maxStreamData id max) := by
  have hview : (c.recvMaxStreamData id max).served = c.served ↔ c.flow.streamSendFlow.insert id
        (((c.flow.streamSendFlow.get? id).getD (.new c.peerInitialStreamLimit)).onMaxData max)
        = c.flow.streamSendFlow := by
    constructor
    · exact congrArg fun v : Served => v.flow.streamSendFlow
    · intro h
      simp only [recvMaxStreamData, h]
  rw [hview, OrdMap.insert_eq_self_iff, Idle]
  cases hcredit : c.flow.streamSendFlow.get? id with
  | none => simp
  | some credit =>
    simp only [Option.getD_some, Option.some.injEq, exists_eq_left']
    rw [eq_comm]
    exact credit.onMaxData_eq_self_iff max

theorem recvStream_served_iff (h : c.uptake.AllSettled) (id offset : Nat)
    (fin : Bool) (data : Bytes) :
    (c.recvStream id offset fin data).1.served = c.served ↔
      c.Idle (.stream id offset fin data) := by
  obtain ⟨readable, hconn, hreadable⟩ := recvStream_conn c id offset fin data
  have hview : (c.recvStream id offset fin data).1.served = { c.served with
      sendStreams := (c.ensureStream id).sendStreams
      flow := (c.ensureStream id).flow
      inbound := { (c.ensureStream id).inbound with
        streams := c.inbound.streams.insert id ((c.uptake.half id).takeIn ⟨offset, data, fin⟩)
        readable := readable } } := by
    rw [hconn]
    simp only [served, ensureStream, ensureRecvFlow, ensureSendHalf, noteNewPeerStream]
    split <;> split <;> rfl
  rw [hview, Idle]
  constructor
  · intro hsame
    have hparts : (c.ensureStream id).sendStreams = c.sendStreams ∧
        (c.ensureStream id).flow = c.flow :=
      ⟨congrArg Served.sendStreams hsame, congrArg Served.flow hsame⟩
    have hstreams := OrdMap.insert_eq_self_iff.mp (congrArg (fun v => v.inbound.streams) hsame)
    refine ⟨(ensureStream_parts_iff c id).mp hparts, _, hstreams, ?_⟩
    have hhalf : c.uptake.half id = (c.uptake.half id).takeIn ⟨offset, data, fin⟩ :=
      Uptake.half_of_get? c.uptake hstreams
    rw [← hhalf]
    by_cases hreset : (c.uptake.half id).isReset = true
    · exact .inl hreset
    cases hviolates : (c.uptake.half id).violatesFinalSize (offset + data.length) fin with
    | true => exact .inr (.inl rfl)
    | false =>
      rw [RecvStream.takeIn, if_neg hreset] at hhalf
      have hiff := RecvStream.recv_fst_eq_self_iff (h id) ⟨offset, data, fin⟩ hviolates
      exact .inr (.inr (hiff.mp hhalf.symm))
  · rintro ⟨hparts, s, hs, hcase⟩
    obtain ⟨hsend, hflow⟩ := (ensureStream_parts_iff c id).mpr hparts
    have hhalf : c.uptake.half id = s := Uptake.half_of_get? c.uptake hs
    rw [hhalf] at hreadable ⊢
    have hsettled : s.Settled := hhalf ▸ h id
    have hkept : s.takeIn ⟨offset, data, fin⟩ = s ∧
        (s.isReset = true ∨ (s.recv ⟨offset, data, fin⟩).2 ≠ .ok true) := by
      by_cases hreset : s.isReset = true
      · exact ⟨if_pos hreset, .inl hreset⟩
      rw [RecvStream.takeIn, if_neg hreset]
      cases hviolates : s.violatesFinalSize (offset + data.length) fin with
      | true =>
        have hrecv : s.recv ⟨offset, data, fin⟩ = (s, .error .finalSize) := if_pos hviolates
        rw [hrecv]
        exact ⟨rfl, .inr fun hok => by cases hok⟩
      | false =>
        have hhas : s.Has ⟨offset, data, fin⟩ := by
          rcases hcase with hcase | hcase | hcase
          · exact absurd hcase hreset
          · cases hviolates.symm.trans hcase
          · exact hcase
        have hiff := RecvStream.recv_fst_eq_self_iff hsettled ⟨offset, data, fin⟩ hviolates
        refine ⟨hiff.mpr hhas, .inr ?_⟩
        rw [RecvStream.recv_snd_of_has hsettled ⟨offset, data, fin⟩ hviolates hhas]
        exact fun hok => by cases hok
    have hcontains : c.inbound.streams.contains id = true := by simp [OrdMap.contains, hs]
    rw [hsend, hflow, hkept.1, hreadable hkept.2, OrdMap.insert_of_get?_eq_some hs,
      inbound_ensureStream, hcontains]
    rfl

theorem recvRetireConnectionId_served_iff (c : Connection P) (packetType : PacketType) (seq : Nat) :
    (c.recvRetireConnectionId packetType seq).1.served = c.served ↔
      c.IgnoresRetirement packetType seq := by
  constructor
  · intro h
    exact (recvRetireConnectionId_pool_iff c packetType seq).mp (congrArg Served.localCidPool h)
  · intro h
    rw [recvRetireConnectionId_of_ignores h]

theorem recvNewConnectionId_served_iff (c : Connection P) (seq retirePriorTo : Nat)
    (cid : ConnectionId) (token : Bytes) :
    (c.recvNewConnectionId .short seq retirePriorTo cid token).1.served = c.served ↔
      c.cids.peerCidPool.Declines seq retirePriorTo := by
  rw [← receiveNewCid_eq_self_iff c.cids.peerCidPool seq retirePriorTo cid token]
  have hview : (c.recvNewConnectionId .short seq retirePriorTo cid token).1.served = { c.served with
        peerCidPool := (c.cids.peerCidPool.receiveNewCid seq retirePriorTo cid token).1 } := by
    simp only [recvNewConnectionId, ne_eq, not_true_eq_false, if_false]
    split <;> rfl
  rw [hview]
  constructor
  · exact congrArg Served.peerCidPool
  intro h
  rw [h]
  rfl

theorem handleFrame_served_iff (h : c.uptake.AllSettled) (now : Time)
    {frame : Frame} (hack : frame.isAck = false) :
    (c.handleFrame now .short frame).1.served = c.served ↔ c.Idle frame := by
  cases frame with
  | ack largest delay firstRange ranges => cases hack
  | resetStream streamId errorCode finalSize =>
    refine iff_of_false (fun hsame => ?_) id
    have hreadable : c.inbound.readable ++ [streamId] = c.inbound.readable :=
      congrArg (fun v => v.inbound.readable) hsame
    simp at hreadable
  | stopSending streamId errorCode => exact recvStopSending_served_iff c streamId errorCode
  | stream id offset fin data => exact recvStream_served_iff h id offset fin data
  | maxData max =>
    refine Iff.trans ⟨congrArg fun v : Served => v.flow.sendFlow, fun hsame => ?_⟩
      (c.flow.sendFlow.onMaxData_eq_self_iff max)
    simp only [handleFrame]
    rw [show c.flow.sendFlow.onMaxData max = c.flow.sendFlow from hsame]
  | maxStreamData id max => exact recvMaxStreamData_served_iff c id max
  | pathChallenge data =>
    constructor
    · intro hsame
      exact (congrArg (fun v => v.path.pendingPathResponse) hsame).symm
    · intro hpending
      simp only [handleFrame, ← show c.path.pendingPathResponse = some data from hpending]
  | pathResponse data =>
    simp only [handleFrame, recvPathResponse, Idle]
    split
    · rename_i houtstanding
      refine iff_of_false (fun hsame => ?_) fun hother => hother houtstanding
      have hnone : none = c.path.pendingPathChallenge :=
        congrArg (fun v => v.path.pendingPathChallenge) hsame
      rw [houtstanding] at hnone
      cases hnone
    · rename_i hother
      exact iff_of_true rfl hother
  | handshakeDone =>
    refine iff_of_true ?_ trivial
    simp only [handleFrame]
    split <;> rfl
  | newConnectionId seq retirePriorTo cid token =>
    exact recvNewConnectionId_served_iff c seq retirePriorTo cid token
  | retireConnectionId seq => exact recvRetireConnectionId_served_iff c .short seq
  | maxStreams dir max =>
    refine Iff.trans ?_ (raisePeerMaxStreams_eq_self_iff (c.limits.get dir) max)
    refine Iff.trans ⟨congrArg Served.limits, fun hsame => ?_⟩
      (c.limits.modify_eq_self_iff dir (raisePeerMaxStreams max))
    simp only [handleFrame]
    rw [show c.limits.modify dir (raisePeerMaxStreams max) = c.limits from hsame]
  | streamsBlocked dir limit =>
    refine Iff.trans ?_ (raiseMaxStreams_eq_self_iff (c.limits.get dir))
    refine Iff.trans ⟨congrArg Served.limits, fun hsame => ?_⟩
      (c.limits.modify_eq_self_iff dir raiseMaxStreams)
    simp only [handleFrame]
    rw [show c.limits.modify dir raiseMaxStreams = c.limits from hsame]
  | newToken token =>
    refine iff_of_true ?_ trivial
    simp only [handleFrame, recvNewToken]
    split
    · rfl
    · split <;> rfl
  | datagram data =>
    obtain ⟨queue, hconn, hqueue⟩ := recvDatagramFrame_conn c data
    refine Iff.trans ?_ hqueue
    simp only [handleFrame, hconn]
    constructor
    · exact congrArg fun v : Served => v.datagrams.recvQueue
    · rintro rfl
      rfl
  | _ => exact iff_of_true rfl trivial

theorem served_blind : Blind (served (P := P)) := ⟨fun _ _ _ _ _ _ => rfl, fun _ _ _ => rfl⟩

theorem onFrameLost_served (c : Connection P) (idx : SpaceKind) {frame : SentFrame}
    (h : frame.isInternal = true) : (c.onFrameLost idx frame).served = c.served := by
  cases frame with
  | crypto | newToken =>
    simp only [onFrameLost, requeueFrame]
    split <;> rfl
  | ping | mtuProbe => rfl
  | _ => cases h

theorem processAck_served (now : Time) {largest delay firstRange : Nat}
    {ranges : List AckRange} (h : c.Idle (.ack largest delay firstRange ranges)) :
    (c.processAck now .short largest delay firstRange ranges).served = c.served := by
  rcases h with hnone | hinternal
  · have htaken := SentPackets.takeRanges_of_uncovered hnone
    have hempty : (c.sentPackets.application.onAck largest firstRange
        (ranges.map fun r => (r.gap, r.range))).2.newlyAcked = [] := by
      simp only [SentPackets.onAck, htaken, List.map_nil]
    simp only [processAck, spaceIndex, PerSpace.get, hempty, List.isEmpty_nil, if_true]
    rfl
  · exact served_blind.processAck c now .short _ _ _ _ fun pn p hp frame hframe d =>
      onFrameLost_served d _ (hinternal pn p hp frame hframe)

theorem handleFrame_served (h : c.uptake.AllSettled) (now : Time) {frame : Frame}
    (hidle : c.Idle frame) : (c.handleFrame now .short frame).1.served = c.served := by
  cases frame with
  | ack largest delay firstRange ranges => exact processAck_served now hidle
  | _ => exact (handleFrame_served_iff h now rfl).mpr hidle

/-! ## Packets -/

/-- Every frame of the 1-RTT packet at an offset is idle when its turn comes, if one opens
there. -/
def Idles (c : Connection P) (now : Time) (datagram : Bytes) (offset : Nat) : Prop :=
  ∀ p, c.openShort now datagram offset = some p →
    Meets Idle now .short p.frames p.conn.beginPacket

theorem recvShortPacket_served (h : c.uptake.AllSettled) {now : Time}
    {datagram : Bytes} {offset : Nat} (hidles : c.Idles now datagram offset) :
    (c.recvShortPacket now datagram offset).1.served = c.served := by
  have hrecv := recvShortPacket_eq c now datagram offset
  cases hopen : c.openShort now datagram offset with
  | none =>
    rw [hopen] at hrecv
    rw [hrecv]
  | some p =>
    rw [hopen] at hrecv
    rw [hrecv]
    obtain ⟨hshort, keyUpdate, spaces, hconn⟩ := openShort_conn hopen
    refine (accept_meets (I := fun d => d.served = c.served ∧ d.uptake.AllSettled) (K := Idle)
      ?_ (fun _ _ _ hd => hd) ?_ ?_).1
    · rintro d frame ⟨hserved, hsettled⟩ hidle
      have hlogged : (d.log (.received .short frame)).Idle frame := by
        cases frame <;> exact hidle
      have hhalves : (d.log (.received .short frame)).uptake.AllSettled := hsettled
      rw [hshort]
      refine ⟨(handleFrame_served hhalves now hlogged).trans hserved, ?_⟩
      exact (Updates.single (.frame d now datagram .short frame)).uptake
        Uptake.allSettled_step hsettled
    · rw [hconn]
      exact ⟨rfl, h⟩
    · rw [hshort]
      exact hidles p hopen

/-- A server that has not completed its handshake. -/
def IsEarly (c : Connection P) : Prop := c.role = .server ∧ c.hs.handshakeComplete = false

end Connection

/-- A server that has not completed its handshake, in any state in the course of a run: a frame
other than `ACK` in a 1-RTT packet leaves streams, flow control, datagrams, connection IDs and the
path alone exactly if it is idle, and a packet does so if it does not open or all its frames are
idle.  The code does not look at the handshake here. -/
theorem early_packets_idle {c d : Connection P} (hfresh : c.Fresh) {ops : List Op} {op : Op}
    (hd : Connection.Updates op (c.run ops) d) (_hearly : d.IsEarly) (now : Time) :
    (∀ frame, frame.isAck = false →
      ((d.handleFrame now .short frame).1.served = d.served ↔ d.Idle frame)) ∧
    ∀ datagram offset, d.Idles now datagram offset →
      (d.recvShortPacket now datagram offset).1.served = d.served := by
  have hsettled := hfresh.settled hd
  refine ⟨fun frame hack => Connection.handleFrame_served_iff hsettled now hack, ?_⟩
  exact fun datagram offset hidles => Connection.recvShortPacket_served hsettled hidles

namespace Plain

/-- A server that has heard the client's first packet. -/
def greeted : Connection Plain :=
  (server (client []) []).run [.handleDatagram 0 ((client []).pollTransmit 0 []).2.1]

/-- A 1-RTT packet of the client with no effect. -/
def hollow : Bytes := shortPacket greeted 0 0 [.ping]

/-- A 1-RTT packet of the client with stream data and credit. -/
def eager : Bytes := shortPacket greeted 0 0 [.stream 0 0 false [7], .maxData 100]

end Plain

theorem early_packets_idle_ping :
    (greeted.openShort 1 hollow 0).isSome = true ∧
    (greeted.recvShortPacket 1 hollow 0).1.served = greeted.served := by
  have hd : Connection.Updates .pollReadable greeted greeted := .refl _
  have hearly : greeted.IsEarly := ⟨by decide +kernel, by decide +kernel⟩
  have hframes : (greeted.openShort 1 hollow 0).map OpenPacket.frames
      = some [.ping, .padding 2] := by decide +kernel
  obtain ⟨p, hp, hping⟩ := Option.map_eq_some_iff.mp hframes
  refine ⟨by rw [hp]; rfl, ?_⟩
  refine (early_packets_idle (server_fresh (client []) [] {}) hd hearly 1).2 _ 0 ?_
  intro p' hp'
  cases hp.symm.trans hp'
  rw [hping]
  exact ⟨trivial, fun _ => ⟨trivial, fun _ => trivial⟩⟩

/-- Before its handshake is complete, a server takes in stream data and credit. -/
theorem early_packets_act :
    greeted.hs.handshakeComplete = false ∧ greeted.inbound.newPeerStreams = [] ∧
    greeted.flow.sendFlow.maxData = 0 ∧ (greeted.handleDatagram 1 eager).2 = .ok () ∧
    (greeted.handleDatagram 1 eager).1.hs.handshakeComplete = false ∧
    ((greeted.handleDatagram 1 eager).1.readStream 0).2 = .ok ([7], false) ∧
    (greeted.handleDatagram 1 eager).1.flow.sendFlow.maxData = 100 := by
  decide +kernel

end OxiQuic
