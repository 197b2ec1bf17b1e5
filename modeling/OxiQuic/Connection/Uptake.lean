import OxiQuic.Connection.Traffic

/-!
# What a connection takes in

The receive halves and their windows, the connection IDs of the peer and the history of the
frames taken in: `Connection.uptake`.  `Uptake.Takes` lists what frames do to them and
`Uptake.Act` what other calls do, and `Update.uptake` says that an update of a connection does
nothing else.
-/

namespace OxiQuic

open Lib

variable {P : Platform} (c : Connection P) (p : PeerCidPool) (id : Nat) {op : Op}

/-- A receive half after stream data.  What arrives on a stream the peer reset is dropped. -/
def RecvStream.takeIn (s : RecvStream) (seg : Segment) : RecvStream :=
  if s.isReset then s else (s.recv seg).1

/-- A receive window after it was perhaps advertised anew. -/
structure RecvWindow.Raises (f g : RecvWindow) : Prop where
  consumed : g.consumed = f.consumed
  window : g.window = f.window
  maxData : f.maxData ≤ g.maxData
  desired : g.maxData = f.maxData ∨ g.maxData = f.consumed + f.window

variable (f : RecvWindow)

theorem RecvWindow.Raises.refl : f.Raises f := ⟨rfl, rfl, Nat.le_refl _, .inl rfl⟩

theorem RecvWindow.Raises.trans {f g h : RecvWindow} (hfg : f.Raises g) (hgh : g.Raises h) :
    f.Raises h where
  consumed := hgh.consumed.trans hfg.consumed
  window := hgh.window.trans hfg.window
  maxData := Nat.le_trans hfg.maxData hgh.maxData
  desired := by
    rcases hgh.desired with hsame | hdesired
    · rw [hsame]
      exact hfg.desired
    · rw [hdesired, hfg.consumed, hfg.window]
      exact .inr rfl

theorem RecvWindow.raises_getD {f g : Option RecvWindow} (h : Option.Rel RecvWindow.Raises f g)
    (default : RecvWindow) : (f.getD default).Raises (g.getD default) := by
  cases h with
  | none => exact .refl default
  | some hraise => exact hraise

theorem RecvWindow.maybeUpdate_raises : f.Raises f.maybeUpdate.1 := by
  simp only [RecvWindow.maybeUpdate]
  split
  · rename_i h
    exact ⟨rfl, rfl, Nat.le_of_lt h.1, .inr rfl⟩
  · exact .refl f

/-- The frames that leave the receive halves alone. -/
def Frame.isAside : Frame → Bool
  | .stream .. => false
  | .resetStream .. => false
  | _ => true

/-- Whether a call delivers a datagram. -/
def Op.isDatagram : Op → Bool
  | .handleDatagram _ _ => true
  | _ => false

/-- What a connection has taken in. -/
structure Uptake (P : Platform) where
  role : Role
  inbound : Inbound
  recvFlow : RecvWindow
  streamRecvFlow : OrdMap Nat RecvWindow
  /-- The window that a receive half starts with. -/
  initialWindow : Nat
  /-- The index of the next bidirectional stream. -/
  nextBidi : Nat
  /-- The connection IDs of the peer. -/
  peerCids : List IssuedCid
  retireThreshold : Nat
  /-- The frames taken in and the streams opened, newest first. -/
  chronicle : List (Event P)

namespace Uptake

variable (u : Uptake P)

/-- The receive half of a stream, which is empty before anything arrives. -/
def half (id : Nat) : RecvStream := (u.inbound.streams.get? id).getD {}

/-- The window of a stream, the initial one before anything arrives. -/
def window (id : Nat) : RecvWindow := (u.streamRecvFlow.get? id).getD (.new u.initialWindow)

def log (e : Event P) : Uptake P := { u with chronicle := e :: u.chronicle }

/-- Stream data arrives. -/
def stream (id : Nat) (seg : Segment) (readable newPeerStreams : List StreamId) : Uptake P :=
  { u with
    inbound := ⟨u.inbound.streams.insert id ((u.half id).takeIn seg), readable, newPeerStreams⟩
    streamRecvFlow := u.streamRecvFlow.insert id (u.window id) }

/-- The peer resets a stream. -/
def reset (id code : Nat) (readable : List StreamId) : Uptake P :=
  { u with inbound := { u.inbound with
      streams := u.inbound.streams.insert id ((u.half id).applyReset code)
      readable := readable } }

/-- The peer announces a connection ID. -/
def announce (prior : Nat) (issued : IssuedCid) : Uptake P :=
  { u with
    peerCids :=
      (if prior > u.retireThreshold then u.peerCids.filter fun c => decide (prior ≤ c.seq)
        else u.peerCids) ++ [issued]
    retireThreshold := max u.retireThreshold prior }

/-- A bidirectional stream is opened. -/
def openBidi (id : StreamId) : Uptake P :=
  { u with
    inbound := { u.inbound with streams := u.inbound.streams.insert id {} }
    streamRecvFlow := u.streamRecvFlow.insert id (.new u.initialWindow)
    nextBidi := u.nextBidi + 1 }

/-- The application reads what is ready of a stream. -/
def read (id : Nat) (s : RecvStream) : Uptake P :=
  { u with
    inbound := { u.inbound with streams := u.inbound.streams.insert id s.read.1 }
    recvFlow := u.recvFlow.onDataConsumed s.ready.length
    streamRecvFlow := u.streamRecvFlow.modify id (·.onDataConsumed s.ready.length) }

/-! ### Halves and windows -/

theorem getD_get?_insert {β : Type} (m : OrdMap Nat β) (k : Nat) (v default : β) (k' : Nat) :
    ((m.insert k v).get? k').getD default = if k' = k then v else (m.get? k').getD default := by
  rw [OrdMap.get?_insert]
  split <;> rfl

variable (s : RecvStream) (seg : Segment) (id' : Nat)

theorem half_stream (readable newPeerStreams : List StreamId)
    (id' : Nat) : (u.stream id seg readable newPeerStreams).half id' =
      if id' = id then (u.half id).takeIn seg else u.half id' :=
  getD_get?_insert ..

theorem window_stream (readable newPeerStreams : List StreamId)
    (id' : Nat) : (u.stream id seg readable newPeerStreams).window id' = u.window id' := by
  refine (getD_get?_insert ..).trans ?_
  split
  · rename_i hid
    exact congrArg u.window hid.symm
  · rfl

theorem half_reset (id code : Nat) (readable : List StreamId) (id' : Nat) :
    (u.reset id code readable).half id' =
      if id' = id then (u.half id).applyReset code else u.half id' :=
  getD_get?_insert ..

theorem half_openBidi (id id' : Nat) :
    (u.openBidi id).half id' = if id' = id then {} else u.half id' :=
  getD_get?_insert ..

theorem window_openBidi (id id' : Nat) :
    (u.openBidi id).window id' = if id' = id then .new u.initialWindow else u.window id' :=
  getD_get?_insert ..

theorem half_read : (u.read id s).half id' = if id' = id then s.read.1 else u.half id' :=
  getD_get?_insert ..

theorem half_of_get? {id : Nat} {s : RecvStream} (h : u.inbound.streams.get? id = some s) :
    u.half id = s := by
  rw [half, h]
  rfl

theorem maxData_window_read : ((u.read id s).window id').maxData = (u.window id').maxData := by
  simp only [window, read, OrdMap.get?_modify]
  split
  · cases u.streamRecvFlow.get? id' <;> rfl
  · rfl

/-- What a frame does to what a connection has taken in. -/
inductive Takes : Event P → Uptake P → Prop where
  | hear (packetType : PacketType) {frame : Frame} : frame.isAside = true →
      Takes (.received packetType frame) u
  | stream (packetType : PacketType) (id offset : Nat) (fin : Bool) (data : Bytes)
      (readable newPeerStreams : List StreamId) :
      Takes (.received packetType (.stream id offset fin data))
        (u.stream id ⟨offset, data, fin⟩ readable newPeerStreams)
  | reset (packetType : PacketType) (id code finalSize : Nat) (readable : List StreamId) :
      Takes (.received packetType (.resetStream id code finalSize)) (u.reset id code readable)
  | announce (packetType : PacketType) {prior : Nat} {issued : IssuedCid} : prior ≤ issued.seq →
      Takes (.received packetType
          (.newConnectionId issued.seq prior issued.cid issued.statelessResetToken))
        (u.announce prior issued)

/-- What the other calls do. -/
inductive Act : Uptake P → Prop where
  | openUni {id : StreamId} : StreamId.direction id = .unidirectional → Act (u.log (.opened id))
  | openBidi {id : StreamId} : id = StreamId.new u.role.initiator .bidirectional u.nextBidi →
      Act ((u.openBidi id).log (.opened id))
  | read {id : Nat} {s : RecvStream} : u.inbound.streams.get? id = some s → s.resetCode = none →
      Act (u.read id s)
  /-- The application is told of a stream. -/
  | notify (readable newPeerStreams : List StreamId) :
      Act { u with inbound := { u.inbound with
        readable := readable, newPeerStreams := newPeerStreams } }
  /-- Windows are advertised anew. -/
  | raise (recvFlow : RecvWindow) (windows : OrdMap Nat RecvWindow) : u.recvFlow.Raises recvFlow →
      (∀ id, Option.Rel RecvWindow.Raises (u.streamRecvFlow.get? id) (windows.get? id)) →
      Act { u with recvFlow := recvFlow, streamRecvFlow := windows }

/-- What can happen to what a connection has taken in. -/
inductive Step : Uptake P → Prop where
  | frame {e : Event P} {v : Uptake P} : u.Takes e v → Step (v.log e)
  | act {v : Uptake P} : u.Act v → Step v

variable {u} {v : Uptake P}

theorem chronicle_suffix_of_step (hstep : u.Step v) : u.chronicle <:+ v.chronicle := by
  cases hstep with
  | frame htakes => cases htakes <;> exact List.suffix_cons ..
  | act hact =>
    cases hact with
    | openUni | openBidi => exact List.suffix_cons ..
    | _ => exact List.suffix_refl _

end Uptake

namespace Connection

def uptake (c : Connection P) : Uptake P where
  role := c.role
  inbound := c.inbound
  recvFlow := c.flow.recvFlow
  streamRecvFlow := c.flow.streamRecvFlow
  initialWindow := c.flow.localInitialMaxStreamData
  nextBidi := c.opened.nextBidiIndex
  peerCids := c.cids.peerCidPool.active
  retireThreshold := c.cids.peerCidPool.retireThreshold
  chronicle := c.chronicle

theorem uptake_of_receiver {c d : Connection P} (h : d.receiver = c.receiver) :
    d.uptake = c.uptake := by
  have hview : ∀ e : Connection P,
      e.uptake = { e.receiver.uptake with chronicle := e.receiver.trace } := fun _ => rfl
  rw [hview d, hview c, h]

theorem uptake_of_traffic {c d : Connection P} (h : d.traffic = c.traffic) :
    d.uptake = c.uptake := by
  have hview : ∀ e : Connection P, e.uptake = {
      role := e.traffic.role
      inbound := e.traffic.inbound
      recvFlow := e.traffic.flow.recvFlow
      streamRecvFlow := e.traffic.flow.streamRecvFlow
      initialWindow := e.traffic.flow.localInitialMaxStreamData
      nextBidi := e.traffic.opened.nextBidiIndex
      peerCids := e.traffic.peerCidPool.active
      retireThreshold := e.traffic.peerCidPool.retireThreshold
      chronicle := e.traffic.trace.filter Event.isInward } := fun _ => rfl
  rw [hview d, hview c, h]

/-! ## The handshake -/

theorem refreshHandshakeComplete_uptake : c.refreshHandshakeComplete.uptake = c.uptake := by
  refine refreshHandshakeComplete_kept (fun h => ?_) c
  cases h with
  | issue => exact maybeIssueNewCid_kept (fun _ _ _ _ => rfl) _
  | learn => exact learnPeerParams_kept (fun _ _ => rfl) _
  | finish | enter | settle | replay | token => rfl

/-! ## Keys and packets -/

/-! ## Frames -/

theorem retirePriorTo_active (prior : Nat) :
    (p.retirePriorTo prior).active =
      if prior > p.retireThreshold then p.active.filter fun c => decide (prior ≤ c.seq)
      else p.active := by
  simp only [PeerCidPool.retirePriorTo]
  split <;> rfl

theorem retirePriorTo_retireThreshold (prior : Nat) :
    (p.retirePriorTo prior).retireThreshold = max p.retireThreshold prior := by
  simp only [PeerCidPool.retirePriorTo]
  split
  · rename_i hlt
    exact (Nat.max_eq_right (Nat.le_of_lt hlt)).symm
  · rename_i hle
    exact (Nat.max_eq_left (Nat.not_lt.mp hle)).symm

/-- A connection ID is ignored or refused, or it is added and those below the new threshold
go. -/
theorem receiveNewCid_cases (seq prior : Nat) (cid : ConnectionId) (token : Bytes) :
    (p.receiveNewCid seq prior cid token).1 = p ∨
      prior ≤ seq ∧ (p.receiveNewCid seq prior cid token).1 = { p.retirePriorTo prior with
          active := (p.retirePriorTo prior).active ++ [⟨seq, cid, token⟩] } := by
  simp only [PeerCidPool.receiveNewCid]
  split
  · exact .inl rfl
  rename_i hprior
  split
  · exact .inl rfl
  split
  · exact .inl rfl
  · exact .inr ⟨Nat.not_lt.mp hprior, rfl⟩

theorem recvNewConnectionId_uptake (packetType : PacketType) (seq prior : Nat)
    (cid : ConnectionId) (token : Bytes) :
    (c.recvNewConnectionId packetType seq prior cid token).1.uptake = c.uptake ∨
      prior ≤ seq ∧ (c.recvNewConnectionId packetType seq prior cid token).1.uptake =
        c.uptake.announce prior ⟨seq, cid, token⟩ := by
  by_cases hshort : packetType ≠ .short
  · rw [recvNewConnectionId, if_pos hshort]
    exact .inl rfl
  have hpool : ∀ pool, (c.cids.peerCidPool.receiveNewCid seq prior cid token).1 = pool →
      (c.recvNewConnectionId packetType seq prior cid token).1.uptake = { c.uptake with
        peerCids := pool.active, retireThreshold := pool.retireThreshold } := by
    rintro pool rfl
    simp only [recvNewConnectionId, if_neg hshort]
    split <;> rfl
  rcases receiveNewCid_cases c.cids.peerCidPool seq prior cid token with hsame | ⟨hprior, hadded⟩
  · exact .inl (hpool _ hsame)
  refine .inr ⟨hprior, (hpool _ hadded).trans ?_⟩
  simp only [Uptake.announce, retirePriorTo_active, retirePriorTo_retireThreshold]
  rfl

theorem ensureSendHalf_uptake (id : StreamId) : (c.ensureSendHalf id).uptake = c.uptake := by
  simp only [ensureSendHalf]
  split <;> rfl

theorem ensureRecvFlow_uptake (id : StreamId) :
    (c.ensureRecvFlow id).uptake =
      { c.uptake with streamRecvFlow := c.flow.streamRecvFlow.insert id (c.uptake.window id) } := by
  cases hwindow : c.flow.streamRecvFlow.get? id with
  | none => simp [ensureRecvFlow, uptake, Uptake.window, OrdMap.contains, hwindow, chronicle]
  | some w =>
    have hsame : c.flow.streamRecvFlow.insert id w = c.flow.streamRecvFlow :=
      OrdMap.insert_of_get?_eq_some hwindow
    simp [ensureRecvFlow, uptake, Uptake.window, OrdMap.contains, hwindow, hsame, chronicle]

theorem ensureStream_uptake (id : StreamId) :
    ∃ newPeerStreams, (c.ensureStream id).uptake = { c.uptake with
      inbound := { c.inbound with newPeerStreams := newPeerStreams }
      streamRecvFlow := c.flow.streamRecvFlow.insert id (c.uptake.window id) } := by
  have hnote : ∃ newPeerStreams, (c.noteNewPeerStream id).uptake =
      { c.uptake with inbound := { c.inbound with newPeerStreams := newPeerStreams } } := by
    simp only [noteNewPeerStream]
    split
    · exact ⟨_, rfl⟩
    · exact ⟨c.inbound.newPeerStreams, rfl⟩
  obtain ⟨newPeerStreams, hnote⟩ := hnote
  have hhalf := (ensureSendHalf_uptake (c.noteNewPeerStream id) id).trans hnote
  refine ⟨newPeerStreams, ?_⟩
  have hview : ∀ d : Connection P, ({ d.uptake with
      streamRecvFlow := d.flow.streamRecvFlow.insert id (d.uptake.window id) } : Uptake P)
        = { d.uptake with
          streamRecvFlow := d.uptake.streamRecvFlow.insert id (d.uptake.window id) } := fun _ => rfl
  rw [ensureStream, ensureRecvFlow_uptake, hview, hhalf]
  rfl

/-- Stream data acts on the receive half, makes its window and tells the application. -/
theorem recvStream_uptake (id offset : Nat) (fin : Bool) (data : Bytes) :
    ∃ readable newPeerStreams, (c.recvStream id offset fin data).1.uptake =
      c.uptake.stream id ⟨offset, data, fin⟩ readable newPeerStreams := by
  obtain ⟨newPeerStreams, hensured⟩ := ensureStream_uptake c id
  generalize hd : c.ensureStream id = d at hensured
  have hstreams : d.inbound.streams = c.inbound.streams :=
    congrArg (fun u => u.inbound.streams) hensured
  -- only the receive half and the queue of readable streams change after that
  have hview : ∀ (s : RecvStream) (readable : List StreamId), ({ d with inbound := { d.inbound with
        streams := d.inbound.streams.insert id s, readable := readable } } : Connection P).uptake
        = { c.uptake with
          inbound := ⟨c.inbound.streams.insert id s, readable, newPeerStreams⟩
          streamRecvFlow := c.flow.streamRecvFlow.insert id (c.uptake.window id) } := by
    intro s readable
    have hset : ({ d with inbound := { d.inbound with
        streams := d.inbound.streams.insert id s, readable := readable } } : Connection P).uptake
        = { d.uptake with inbound := { d.uptake.inbound with
          streams := d.inbound.streams.insert id s, readable := readable } } := rfl
    rw [hset, hensured, hstreams]
  have hhalf : (d.inbound.streams.get? id).getD {} = c.uptake.half id := by
    rw [hstreams]
    rfl
  simp only [recvStream, hd, hhalf, Uptake.stream, RecvStream.takeIn]
  split
  · exact ⟨_, _, hview _ d.inbound.readable⟩
  split
  · exact ⟨_, _, hview _ _⟩
  · exact ⟨_, _, hview _ d.inbound.readable⟩
  · exact ⟨_, _, hview _ d.inbound.readable⟩
  · exact ⟨_, _, hview _ d.inbound.readable⟩

theorem takeFrame_uptake (now : Time) (packetType : PacketType)
    (frame : Frame) : ∃ v, c.uptake.Takes (.received packetType frame) v ∧
      (c.takeFrame now packetType frame).1.uptake = v.log (.received packetType frame) := by
  generalize hd : c.log (.received packetType frame) = d
  have hstart : d.uptake = c.uptake.log (.received packetType frame) := hd ▸ rfl
  have hpassed : ∀ {d' : Connection P}, d'.traffic = d.traffic →
      d'.uptake = c.uptake.log (.received packetType frame) :=
    fun htraffic => (uptake_of_traffic htraffic).trans hstart
  simp only [takeFrame, hd]
  cases houtward : frame.isOutward with
  | true =>
    have hsame := uptake_of_receiver (handleFrame_receiver d now packetType houtward)
    refine ⟨c.uptake, .hear packetType ?_, hsame.trans hstart⟩
    cases frame <;> first | rfl | cases houtward
  | false =>
    cases frame with
    | crypto offset data =>
      exact ⟨_, .hear packetType rfl, hpassed (recvCrypto_kept (fun _ _ _ _ => rfl) d packetType
        offset data)⟩
    | pathResponse data =>
      exact ⟨_, .hear packetType rfl, hpassed (recvPathResponse_traffic d data)⟩
    | retireConnectionId seq =>
      exact ⟨_, .hear packetType rfl, hpassed (recvRetireConnectionId_traffic d packetType seq)⟩
    | newToken | datagram =>
      refine ⟨_, .hear packetType rfl, hpassed ?_⟩
      simp only [handleFrame, recvNewToken, recvDatagramFrame]
      split
      · rfl
      · split <;> rfl
    | maxStreams dir max => exact ⟨_, .hear packetType rfl, hstart⟩
    | resetStream streamId errorCode finalSize =>
      subst hd
      exact ⟨_, .reset packetType streamId errorCode finalSize _, rfl⟩
    | stream id offset fin data =>
      obtain ⟨readable, newPeerStreams, huptake⟩ := recvStream_uptake d id offset fin data
      refine ⟨_, .stream packetType id offset fin data readable newPeerStreams, ?_⟩
      rw [handleFrame, huptake, hstart]
      rfl
    | newConnectionId seq prior cid token =>
      rw [handleFrame]
      rcases recvNewConnectionId_uptake d packetType seq prior cid token with
        hsame | ⟨hprior, hadded⟩
      · exact ⟨_, .hear packetType rfl, hsame.trans hstart⟩
      refine ⟨_, @Uptake.Takes.announce P c.uptake packetType prior ⟨seq, cid, token⟩ hprior, ?_⟩
      rw [hadded, hstart]
      rfl
    | _ => cases houtward

/-! ## Calls -/

theorem modify_onDataConsumed_zero (windows : OrdMap Nat RecvWindow) (id : Nat) :
    windows.modify id (·.onDataConsumed 0) = windows := by
  apply OrdMap.ext_get?
  intro id'
  rw [OrdMap.get?_modify]
  split
  · exact Option.map_id'
  · rfl

theorem readStream_uptake (stream : StreamId) :
    (c.readStream stream).1.uptake = c.uptake ∨ c.uptake.Act (c.readStream stream).1.uptake := by
  simp only [readStream]
  split
  · exact .inl rfl
  rename_i s hs
  simp only [RecvStream.readChecked]
  cases hreset : s.resetCode with
  | some code =>
    have hsame : c.inbound.streams.insert stream s = c.inbound.streams :=
      OrdMap.insert_of_get?_eq_some hs
    refine .inl ?_
    simp only [hsame]
  | none =>
    have hread : c.uptake.Act (c.uptake.read stream s) := .read hs hreset
    refine .inr ?_
    dsimp only
    split
    · rename_i hempty
      have hready : s.ready = [] := List.isEmpty_iff.mp hempty
      simp only [Uptake.read, hready, List.length_nil, modify_onDataConsumed_zero] at hread
      exact hread
    · exact hread

theorem step_uptake (hsimple : op.isSimple = true) :
    (c.step op).uptake = c.uptake ∨ c.uptake.Act (c.step op).uptake := by
  by_cases haside : op.isAside = true
  · exact .inl (congrArg uptake (step_aside c haside) :)
  cases op with
  | openBidi =>
    simp only [step, openBidi]
    split
    · exact .inl rfl
    · exact .inr (.openBidi rfl)
  | openUni =>
    simp only [step, openUni]
    split
    · exact .inl rfl
    · exact .inr (.openUni (StreamId.direction_new ..))
  | sendStream | resetStream | queueEarlyData | popCidEvent | close =>
    simp only [step, sendStream, resetStream, queueEarlyData, popCidEvent, close]
    split <;> exact .inl rfl
  | readStream stream => exact readStream_uptake c stream
  | pollReadable | pollNewPeerStream =>
    simp only [step, pollReadable, pollNewPeerStream]
    split
    · exact .inl rfl
    · exact .inr (.notify _ _)
  | initiateKeyUpdate now =>
    simp only [step, initiateKeyUpdate]
    -- once for the cooldown and once for the answer
    split <;> split <;> exact .inl rfl
  | _ => first | exact absurd rfl haside | cases hsimple

/-! ## Advertising windows -/

theorem rel_raises_refl (f : Option RecvWindow) : Option.Rel RecvWindow.Raises f f := by
  cases f with
  | none => exact .none
  | some w => exact .some (.refl w)

theorem rel_raises_trans {f g h : Option RecvWindow} (hfg : Option.Rel RecvWindow.Raises f g)
    (hgh : Option.Rel RecvWindow.Raises g h) : Option.Rel RecvWindow.Raises f h := by
  cases hfg with
  | none => exact hgh
  | some hraise =>
    cases hgh with
    | some hraise' => exact .some (hraise.trans hraise')

theorem advanceStreamRecvFlow_uptake :
    ∃ windows, (c.advanceStreamRecvFlow id).uptake = { c.uptake with streamRecvFlow := windows } ∧
      ∀ id', Option.Rel RecvWindow.Raises (c.flow.streamRecvFlow.get? id') (windows.get? id') := by
  simp only [advanceStreamRecvFlow]
  split
  · exact ⟨c.flow.streamRecvFlow, rfl, fun id' => rel_raises_refl _⟩
  rename_i w hw
  refine ⟨_, rfl, fun id' => ?_⟩
  rw [OrdMap.get?_insert]
  split
  · rename_i hid
    rw [hid, hw]
    exact .some w.maybeUpdate_raises
  · exact rel_raises_refl _

theorem foldl_advanceStreamRecvFlow_uptake (ids : List Nat) (c : Connection P) :
    ∃ windows, (ids.foldl advanceStreamRecvFlow c).uptake =
        { c.uptake with streamRecvFlow := windows } ∧
      ∀ id', Option.Rel RecvWindow.Raises (c.flow.streamRecvFlow.get? id') (windows.get? id') := by
  induction ids generalizing c with
  | nil => exact ⟨c.flow.streamRecvFlow, rfl, fun id' => rel_raises_refl _⟩
  | cons id rest ih =>
    obtain ⟨windows, hone, hraises⟩ := advanceStreamRecvFlow_uptake c id
    obtain ⟨windows', hrest, hraises'⟩ := ih (c.advanceStreamRecvFlow id)
    have hwindows : (c.advanceStreamRecvFlow id).flow.streamRecvFlow = windows :=
      congrArg (·.streamRecvFlow) hone
    refine ⟨windows', by rw [List.foldl_cons, hrest, hone], fun id' => ?_⟩
    exact rel_raises_trans (hraises id') (hwindows ▸ hraises' id')

theorem advanceRecvFlow_uptake : c.uptake.Act c.advanceRecvFlow.uptake := by
  -- the window of the connection, then those of the streams
  obtain ⟨d, hadvance, hstart, hkeys⟩ : ∃ d,
      c.advanceRecvFlow = c.flow.streamRecvFlow.keys.foldl advanceStreamRecvFlow d ∧
        d.uptake = { c.uptake with recvFlow := c.flow.recvFlow.maybeUpdate.1 } ∧
        d.flow.streamRecvFlow = c.flow.streamRecvFlow := ⟨_, rfl, rfl, rfl⟩
  obtain ⟨windows, huptake, hraises⟩ :=
    foldl_advanceStreamRecvFlow_uptake c.flow.streamRecvFlow.keys d
  rw [hkeys] at hraises
  rw [hadvance, huptake, hstart]
  exact .raise _ windows c.flow.recvFlow.maybeUpdate_raises hraises

/-! ## Updates -/

/-- An update does nothing to what was taken in, or does what a frame of a datagram does, or is a
whole call or an advertisement of windows. -/
theorem Update.uptake_taken {c d : Connection P} (h : Update op c d) :
    d.uptake = c.uptake ∨ (op.isDatagram = true ∧ ∃ now packetType frame,
        d.uptake = (c.takeFrame now packetType frame).1.uptake) ∨
      (op.isSimple = true ∧ d = c.step op) ∨
      ∃ now out, op = .pollTransmit now out ∧ d = c.advanceRecvFlow := by
  cases h.receives with
  | same hsame => exact .inl (uptake_of_receiver hsame)
  | hear now datagram packetType frame houtward hhear =>
    refine .inr (.inl ⟨rfl, now, packetType, frame, (uptake_of_receiver hhear).trans ?_⟩)
    exact (uptake_of_receiver (handleFrame_receiver _ now packetType houtward)).symm
  | rekey now out hseal =>
    obtain ⟨_, _, -, hbefore⟩ := beforeSeal_conn c .application now
    exact .inl ((uptake_of_receiver hseal).trans (hbefore ▸ rfl))
  | call hsimple hcall => exact .inr (.inr (.inl ⟨hsimple, hcall⟩))
  | pump hpump => exact .inl (hpump ▸ uptake_of_traffic (pumpOnce_traffic c))
  | refresh hrefresh => exact .inl (hrefresh ▸ refreshHandshakeComplete_uptake c)
  | earlyKeys hkeys =>
    exact .inl (hkeys ▸ uptake_of_traffic (unkeyed_traffic.tryInstallZeroRttKeys c))
  | retry now datagram offset hretry =>
    rw [hretry, recvRetryPacket]
    split <;> exact .inl rfl
  | adopt now datagram parsed hadopt =>
    rw [hadopt, adoptPeerCid]
    split <;> exact .inl rfl
  | follow now datagram _ hfollow =>
    obtain ⟨_, _, -, hconn⟩ := performKeyUpdate_conn c now
    exact .inl (hfollow ▸ hconn ▸ rfl)
  | packet now datagram hpacket => exact .inl (hpacket ▸ rfl)
  | frame now datagram packetType frame _ hframe =>
    exact .inr (.inl ⟨rfl, now, packetType, frame, congrArg Connection.uptake hframe⟩)
  | note now datagram space pn ackEliciting hnote => exact .inl (hnote ▸ rfl)
  | advance now out hadvance => exact .inr (.inr (.inr ⟨now, out, rfl, hadvance⟩))

theorem Update.uptake_cases {c d : Connection P} (h : Update op c d) :
    d.uptake = c.uptake ∨ (op.isDatagram = true ∧ ∃ e v, c.uptake.Takes e v ∧ d.uptake = v.log e) ∨
      (op.isSimple = true ∧ d = c.step op) ∨
      ∃ now out, op = .pollTransmit now out ∧ d = c.advanceRecvFlow := by
  rcases h.uptake_taken with hsame | ⟨hdatagram, now, packetType, frame, hframe⟩ | hcall | hadvance
  · exact .inl hsame
  · obtain ⟨v, htakes, huptake⟩ := takeFrame_uptake c now packetType frame
    exact .inr (.inl ⟨hdatagram, _, v, htakes, hframe.trans huptake⟩)
  · exact .inr (.inr (.inl hcall))
  · exact .inr (.inr (.inr hadvance))

/-- An update is at most one step: of a datagram, a frame, and of another call, an act. -/
theorem Update.uptake {c d : Connection P} (h : Update op c d) :
    d.uptake = c.uptake ∨ (op.isDatagram = true ∧ ∃ e v, c.uptake.Takes e v ∧ d.uptake = v.log e) ∨
      (op.isDatagram = false ∧ c.uptake.Act d.uptake) := by
  rcases h.uptake_cases with hsame | hframe | ⟨hsimple, rfl⟩ | ⟨now, out, rfl, rfl⟩
  · exact .inl hsame
  · exact .inr (.inl hframe)
  · have hother : op.isDatagram = false := by
      cases op <;> first | rfl | cases hsimple
    exact (step_uptake c hsimple).imp_right fun hact => .inr ⟨hother, hact⟩
  · exact .inr (.inr ⟨rfl, advanceRecvFlow_uptake c⟩)

variable {I : Uptake P → Prop}

theorem run_uptake (step : ∀ {u v}, I u → u.Step v → I v)
    {c : Connection P} (h : I c.uptake) (ops : List Op) : I (c.run ops).uptake := by
  refine invariant_run (I := fun c => I c.uptake) (Q := fun _ => True) ?_ h fun _ _ => trivial
  intro op c d _ h hupdate
  rcases hupdate.uptake with hsame | ⟨_, e, v, htakes, hd⟩ | ⟨_, hact⟩
  · exact hsame ▸ h
  · exact hd ▸ step h (.frame htakes)
  · exact step h (.act hact)

theorem handleDatagram_uptake
    (step : ∀ {u e v}, I u → u.Takes e v → I (v.log e)) {c : Connection P} (h : I c.uptake)
    (now : Time) (datagram : Bytes) : I (c.handleDatagram now datagram).1.uptake := by
  refine Updates.invariant (I := fun c => I c.uptake) ?_ h (handleDatagram_updates now datagram c)
  intro c d h hupdate
  rcases hupdate.uptake with hsame | ⟨_, e, v, htakes, hd⟩ | ⟨hother, _⟩
  · exact hsame ▸ h
  · exact hd ▸ step h htakes
  · cases hother

theorem step_uptake_of_acts (step : ∀ {u v}, I u → u.Act v → I v)
    {c : Connection P} (h : I c.uptake) (hop : op.isDatagram = false) : I (c.step op).uptake := by
  refine Updates.invariant (I := fun c => I c.uptake) ?_ h (step_updates c op)
  intro c d h hupdate
  rcases hupdate.uptake with hsame | ⟨hdatagram, _⟩ | ⟨_, hact⟩
  · exact hsame ▸ h
  · cases hop.symm.trans hdatagram
  · exact step h hact

end Connection

end OxiQuic
