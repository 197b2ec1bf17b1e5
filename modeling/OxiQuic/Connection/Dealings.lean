import OxiQuic.Connection.FillSteps
import OxiQuic.Connection.LossView

/-!
# Streams, their resets and their number

The send halves of the streams, the resets that wait to be sent, the limits on the number of
streams, the packets in flight and the history: `Connection.dealings`.  `Connection.Deals` lists
what can happen to them, and `Connection.Update.deals` says that nothing else does.  A packet is
written in the steps of `FillStep` and then sealed, and what becomes of packets in flight is known
from `Recovers`.
-/

namespace OxiQuic

open Lib

variable {P : Platform} {frame : Frame} {f' f : Filling P} {kind : SpaceKind} {budget : Nat}

/-- What a connection has to do with the peer about streams that it sends on. -/
structure Dealings (P : Platform) where
  role : Role
  opened : Opened
  streams : OrdMap Nat SendStream
  peerParams : Option TransportParams
  stores : PerSpace SentPackets
  limits : StreamLimits
  /-- Error code and final size of the resets to send. -/
  resets : OrdMap Nat (Nat × Nat)
  /-- The close that the transport itself has to send. -/
  transportClose : Option (TransportErrorCode × Bytes)
  trace : List (Event P)

/-- The calls that concern streams to send on. -/
def Op.isDeal : Op → Bool
  | .openBidi => true
  | .openUni => true
  | .sendStream .. => true
  | .queueEarlyData .. => true
  | .resetStream .. => true
  | _ => false

/-- The frames that concern streams to send on or their number. -/
def Frame.isDeal : Frame → Bool
  | .stopSending .. => true
  | .stream .. => true
  | .maxStreams .. => true
  | .streamsBlocked .. => true
  | _ => false

namespace Connection

def dealings (c : Connection P) : Dealings P where
  role := c.role
  opened := c.opened
  streams := c.sendStreams
  peerParams := c.hs.peerParams
  stores := c.sentPackets
  limits := c.limits
  resets := c.resets.pendingResetStreams
  transportClose := c.closing.pendingTransportClose
  trace := c.trace

/-- A filled packet was sealed, or not: what is tracked after it was tracked before or is the
packet, and the packet is the only one that may have been sent. -/
def Seals (kind : SpaceKind) (f : Filling P) (d : Connection P) : Prop :=
  ∃ stores new, d.dealings = { f.conn.dealings with stores := stores, trace := new ++ f.conn.trace } ∧
    (∀ e ∈ new, (∃ label key pn, e = .sealed label key pn) ∨ ∃ dest, e = .sent dest kind f.placed) ∧
    ∀ kind' pn p, (stores.get kind').sent.get? pn = some p →
      (f.conn.sentPackets.get kind').sent.get? pn = some p ∨ p.frames = f.frames

/-- What writing a packet can do. -/
inductive Writes (c d : Connection P) : Prop where
  | same : d.dealings = c.dealings → Writes c d
  /-- A close is sealed, and perhaps sent. -/
  | close (new : List (Event P)) :
      d.dealings = { c.dealings with transportClose := none, trace := new ++ c.trace } →
      (∀ e ∈ new, (∃ label key pn, e = .sealed label key pn) ∨
        ∃ dest kind frame, c.takeClose.2 = some frame ∧ e = .sent dest kind [frame]) → Writes c d
  /-- Early data is sealed, and perhaps sent. -/
  | early (new : List (Event P)) :
      c.hs.oneRttReady = false → d.dealings = { c.dealings with trace := new ++ c.trace } →
      (∀ e ∈ new, (∃ label key pn, e = .sealed label key pn) ∨
        ∃ dest, e = .sent dest .application c.earlyFrames) → Writes c d
  | fill (kind : SpaceKind) (budget : Nat) (f : Filling P) :
      Fills kind budget { conn := c } f → Seals kind f d → Writes c d

/-- What can happen during a call. -/
inductive Deals (c d : Connection P) : Op → Prop where
  | same {op : Op} : d.dealings = c.dealings → Deals c d op
  | call {op : Op} : op.isDeal = true → d = c.step op → Deals c d op
  /-- The peer's parameters become known. -/
  | learn {op : Op} : d = c.learnPeerParams → Deals c d op
  /-- Early data that was rejected is written to its stream. -/
  | replay {op : Op} (early : StreamId × Bytes × Bool) : d = c.replayEarlyData early → Deals c d op
  | retry (now : Time) (datagram : Bytes) (oldDcid newDcid : ConnectionId) (outstanding : Nat) :
      d.dealings = (c.log (.retried oldDcid newDcid outstanding)).dealings →
      Deals c d (.handleDatagram now datagram)
  /-- A frame is heard and concerns something else. -/
  | hear (now : Time) (datagram : Bytes) (packetType : PacketType) (frame : Frame) :
      frame.isDeal = false → d.dealings = (c.log (.received packetType frame)).dealings →
      Deals c d (.handleDatagram now datagram)
  | frame (now : Time) (datagram : Bytes) (packetType : PacketType) (frame : Frame) :
      frame.isDeal = true → d = (c.takeFrame now packetType frame).1 →
      Deals c d (.handleDatagram now datagram)
  /-- Packets in flight are acknowledged or lost, or have to be probed for. -/
  | recover {op : Op} : (∀ I : Connection P → Prop, Recovers c I → I c → I d) → Deals c d op
  | write (now : Time) (out : Bytes) : Writes c d → Deals c d (.pollTransmit now out)

/-- Several such things. -/
def Dealing (op : Op) : Connection P → Connection P → Prop :=
  Relation.ReflTransGen fun c d => Deals c d op

namespace Dealing

variable {op : Op} {c d e : Connection P}

theorem single (h : Deals c d op) : Dealing op c d := Relation.ReflTransGen.single h

theorem same (h : d.dealings = c.dealings) : Dealing op c d := single (.same h)

theorem trans (h : Dealing op c d) (h' : Dealing op d e) : Dealing op c e :=
  Relation.ReflTransGen.trans h h'

theorem invariant {I : Connection P → Prop}
    (step : ∀ {c d : Connection P}, I c → Deals c d op → I d) (h : I c) (hd : Dealing op c d) :
    I d := by
  induction hd with
  | refl => exact h
  | tail _ hstep ih => exact step ih hstep

end Dealing

/-! ## The handshake -/

theorem unkeyed_dealings : Unkeyed (dealings : Connection P → Dealings P) :=
  ⟨fun _ _ _ _ _ => rfl, fun _ _ => rfl, fun _ _ _ _ => rfl⟩

variable (c : Connection P) {op : Op} (now : Time)

theorem pumpOnce_dealings : c.pumpOnce.dealings = c.dealings := unkeyed_dealings.pumpOnce c

theorem refreshHandshakeComplete_dealing : Dealing op c c.refreshHandshakeComplete := by
  refine refreshHandshakeComplete_completes (fun _ => .same rfl) .trans (fun h => ?_) c
  cases h with
  | issue => exact .same (maybeIssueNewCid_kept (fun _ _ _ _ => rfl) _)
  | learn => exact .single (.learn rfl)
  | replay early => exact .single (.replay early rfl)
  | finish | enter | settle | token => exact .same rfl

/-! ## Calls -/

theorem step_dealings (hsimple : op.isSimple = true)
    (hother : op.isDeal = false) : (c.step op).dealings = c.dealings := by
  by_cases haside : op.isAside = true
  · exact (congrArg dealings (step_aside c haside) :)
  cases op with
  | readStream | pollReadable | pollNewPeerStream | popCidEvent | close | initiateKeyUpdate =>
    simp only [step, readStream, pollReadable, pollNewPeerStream, popCidEvent, close,
      initiateKeyUpdate]
    repeat' split
    all_goals rfl
  | pollTransmit | handleDatagram | handleTimeout => cases hsimple
  | _ => first | exact absurd rfl haside | cases hother

/-! ## Frames -/

theorem handleFrame_dealings (packetType : PacketType) (hother : frame.isDeal = false) :
    (∃ largest delay firstRange ranges, frame = .ack largest delay firstRange ranges) ∨
      (c.handleFrame now packetType frame).1.dealings = c.dealings := by
  cases frame with
  | ack largest delay firstRange ranges => exact .inl ⟨_, _, _, _, rfl⟩
  | crypto offset data =>
    exact .inr (recvCrypto_kept (fun _ _ _ _ => rfl) c packetType offset data)
  | pathResponse data =>
    refine .inr ?_
    simp only [handleFrame, recvPathResponse]
    split <;> rfl
  | handshakeDone | newConnectionId | retireConnectionId | newToken | datagram =>
    exact .inr (handleFrame_minor (fun _ _ _ _ _ _ => rfl) c now packetType rfl)
  | stopSending | stream | maxStreams | streamsBlocked => cases hother
  | _ => exact .inr rfl

theorem takeFrame_dealing (datagram : Bytes) (packetType : PacketType) (frame : Frame) :
    Dealing (.handleDatagram now datagram) c (c.takeFrame now packetType frame).1 := by
  cases hdeal : frame.isDeal with
  | true => exact .single (.frame now datagram packetType frame hdeal rfl)
  | false =>
    rcases handleFrame_dealings (c.log (.received packetType frame)) now packetType hdeal with
      ⟨largest, delay, firstRange, ranges, rfl⟩ | hsame
    · refine .trans (d := c.log (.received packetType (.ack largest delay firstRange ranges)))
        (.single (.hear now datagram packetType _ hdeal rfl)) (.single (.recover ?_))
      exact fun I hI hc => hI.processAck hc now packetType largest delay firstRange ranges
    · exact .single (.hear now datagram packetType frame hdeal hsame)

/-! ## Sending -/

theorem seals_refl (kind : SpaceKind) (f : Filling P) : Seals kind f f.conn :=
  ⟨f.conn.sentPackets, [], rfl, List.forall_mem_nil _, fun _ _ _ hp => .inl hp⟩

theorem sealFilled_seals (f : Filling P) (now : Time) (kind : SpaceKind) (out : Bytes) :
    Seals kind f (sealFilled f now kind out).1 := by
  obtain ⟨_, _, _, _, stores, new, hsealed, hnew, htracked⟩ := sealFilled_conn f now kind out
  rw [hsealed]
  exact ⟨stores, new, rfl, hnew, fun kind' pn p hp => (htracked kind' pn p hp).imp_right And.left⟩

theorem writeIf_writes (cond : Bool) (c : Connection P) (now : Time) (kind : SpaceKind)
    (out : Bytes) : Writes c (writeIf cond c now kind out).1 := by
  refine writeIf_cases (I := fun r => Writes c r.1) (.same rfl) fun budget _ => ?_
  have hfills := fillPayload_fills c kind budget
  split
  · exact .fill kind _ _ hfills (seals_refl kind _)
  · exact .fill kind _ _ hfills (sealFilled_seals _ now kind out)

theorem writeEarly_writes (wroteInitial : Bool) (c : Connection P) (out : Bytes) :
    Writes c (writeEarly wroteInitial c out).1 := by
  refine writeEarly_cases (I := fun r => Writes c r.1) (.same rfl) (fun _ _ h => ?_)
    fun _ _ _ h => ?_
  · exact .early [_] h.oneRttReady rfl (List.forall_mem_singleton.mpr (.inl ⟨_, _, _, rfl⟩))
  · exact .early [_, _] h.oneRttReady rfl (List.forall_mem_cons.mpr ⟨.inr ⟨_, rfl⟩,
      List.forall_mem_singleton.mpr (.inl ⟨_, _, _, rfl⟩)⟩)

theorem takeClose_dealings :
    c.takeClose.1.dealings = { c.dealings with transportClose := none } := by
  simp only [takeClose]
  split
  · rfl
  rename_i hnone
  simp only [dealings]
  split <;> simp only [hnone]

theorem emitClose_writes (out : Bytes) : Writes c (c.emitClose out).1 := by
  obtain ⟨_, new, hclosed, -, hnew⟩ := emitClose_conn c out
  rw [hclosed]
  exact .close new (congrArg (fun close => { c.dealings with
    transportClose := close, trace := new ++ c.trace })
    (congrArg Dealings.transportClose (takeClose_dealings c))) hnew

theorem advanceRecvFlow_dealings : c.advanceRecvFlow.dealings = c.dealings :=
  advanceRecvFlow_kept (fun _ _ _ _ _ => rfl) c

/-! ## Updates -/

theorem Update.deals {c d : Connection P} (h : Update op c d) : Dealing op c d := by
  cases h with
  | @call c op hsimple =>
    cases hdeal : op.isDeal with
    | true => exact .single (.call hdeal rfl)
    | false => exact .same (step_dealings c hsimple hdeal)
  | pump op c => exact .same (pumpOnce_dealings c)
  | refresh op c => exact refreshHandshakeComplete_dealing c
  | retry c now datagram offset =>
    simp only [recvRetryPacket]
    split
    · exact .same rfl
    · exact .single (.retry now datagram _ _ _ rfl)
  | earlyKeys | adopt | keepAlive | mtu =>
    refine .same ?_
    simp only [tryInstallZeroRttKeys, adoptPeerCid, keepAliveDue, mtuProbeDue]
    split <;> rfl
  | follow c now =>
    obtain ⟨_, _, -, hfollow⟩ := performKeyUpdate_conn c now
    exact .same (hfollow ▸ rfl)
  | frame c now datagram packetType frame => exact takeFrame_dealing c now datagram packetType frame
  | close c now out => exact .single (.write now out (emitClose_writes c out))
  | advance c now out => exact .same (advanceRecvFlow_dealings c)
  | initial c now out buf | handshake c now out buf | application c now out buf =>
    exact .single (.write now out (writeIf_writes _ c now _ buf))
  | early c now out buf wroteInitial =>
    exact .single (.write now out (writeEarly_writes wroteInitial c buf))
  | loss c now => exact .single (.recover fun I hI hc => hI.lossTimerDue hc now)
  | _ => exact .same rfl

theorem run_deals {I : Connection P → Prop}
    (step : ∀ {op : Op} {c d : Connection P}, I c → Deals c d op → I d) {c : Connection P}
    (h : I c) (ops : List Op) : I (c.run ops) :=
  invariant_run (Q := fun _ => True)
    (fun {_ _ _} _ hc hupdate => hupdate.deals.invariant (fun hd hdeal => step hd hdeal) hc)
    h fun _ _ => trivial

end Connection

/-! ## What a packet says -/

/-- The frames that concern streams to send on, their number, or the end of the connection. -/
def Frame.isDealt : Frame → Bool
  | .stream .. => true
  | .resetStream .. => true
  | .maxStreams .. => true
  | .connectionClose .. => true
  | _ => false

/-- What loss detection knows of such frames. -/
def SentFrame.isDealt : SentFrame → Bool
  | .stream .. => true
  | .maxStreams .. => true
  | _ => false

/-- The frames placed so far that concern streams, and what is recorded of them. -/
def Filling.dealt (f : Filling P) : List Frame × List SentFrame :=
  (f.placed.filter Frame.isDealt, f.frames.filter SentFrame.isDealt)

theorem Filling.dealt_place (f : Filling P) (frame : Frame) (h : frame.isDealt = false) :
    (f.place frame).dealt = f.dealt := by
  simp [Filling.dealt, Filling.place, h]

theorem Filling.dealt_placeRecorded (f : Filling P) (frame : Frame) (sent : SentFrame)
    (h : frame.isDealt = false) (hsent : sent.isDealt = false) :
    (f.placeRecorded frame sent).dealt = f.dealt := by
  simp [Filling.dealt, Filling.placeRecorded, Filling.place, h, hsent]

namespace Connection

/-- What one thing that filling does means for streams. -/
inductive Says (f f' : Filling P) : Prop where
  | none : f'.conn.dealings = f.conn.dealings → f'.dealt = f.dealt → Says f f'
  | reset (id errorCode finalSize : Nat) :
      f.conn.dealings.resets.get? id = some (errorCode, finalSize) →
      f'.conn.dealings = { f.conn.dealings with resets := f.conn.dealings.resets.erase id } →
      f'.dealt = (f.dealt.1 ++ [.resetStream id errorCode finalSize], f.dealt.2) → Says f f'
  | maxStreams (dir : Direction) (max : Nat) :
      (f.conn.limit dir).pendingMaxStreams = some max →
      f'.conn.dealings = (f.conn.setLimit dir { f.conn.limit dir with
        pendingMaxStreams := .none, sentMaxStreams := max }).dealings →
      f'.dealt = (f.dealt.1 ++ [.maxStreams dir max], f.dealt.2 ++ [.maxStreams dir max]) →
      Says f f'
  | streamsBlocked (dir : Direction) :
      f'.conn.dealings = (f.conn.setLimit dir { f.conn.limit dir with
        pendingStreamsBlocked := .none }).dealings →
      f'.dealt = f.dealt → Says f f'
  | stream (id : Nat) {s s' : SendStream} {seg : Segment} {max : Nat} :
      f.conn.dealings.streams.get? id = some s → s.resetCode = .none → s.Takes max s' seg →
      f'.conn.dealings = { f.conn.dealings with
        streams := f.conn.dealings.streams.insert id s' } →
      f'.dealt = (f.dealt.1 ++ [.stream id seg.offset seg.fin seg.data],
        f.dealt.2 ++ [.stream id seg.offset seg.fin seg.data]) → Says f f'

theorem FillStep.tells (h : FillStep kind budget f f') : Says f f' := by
  cases h with
  | resetStream hpending =>
    exact .reset _ _ _ hpending rfl
      (by simp [Filling.dealt, Filling.place, Frame.isDealt])
  | maxStreams hpending =>
    exact .maxStreams _ _ hpending rfl
      (by simp [Filling.dealt, Filling.placeRecorded, Filling.place, Frame.isDealt,
        SentFrame.isDealt])
  | streamsBlocked => exact .streamsBlocked _ rfl (Filling.dealt_placeRecorded _ _ _ rfl rfl)
  | @stream id s s' seg hs hopen htakes _ =>
    refine .stream id hs hopen htakes ?_
      (by simp [Filling.dealt, Filling.placeRecorded, Filling.place, Frame.isDealt,
        SentFrame.isDealt])
    simp only [Filling.placeRecorded, Filling.place, chargeFlow]
    split <;> rfl
  | ack hack =>
    obtain ⟨_, _, _, _, rfl⟩ := buildAck_frame hack
    exact .none rfl (by simp [Filling.dealt, Frame.isDealt])
  | crypto =>
    refine .none ?_ (Filling.dealt_placeRecorded _ _ _ rfl rfl)
    cases kind <;> rfl
  | mtuProbe =>
    simp only [fillMtuProbe]
    split <;> exact .none rfl (by
      simp [Filling.dealt, Filling.placeRecorded, Filling.place, Frame.isDealt, SentFrame.isDealt])
  | newConnectionId | retireConnectionId | newToken | keepAlive | keyUpdate =>
    exact .none rfl (Filling.dealt_placeRecorded _ _ _ rfl rfl)
  | streamFlow | connectionBlocked | streamBlocked =>
    refine .none ?_ rfl
    simp only [ensureStreamSendFlow, noteBlockedConnection, noteBlockedStream]
    repeat' split
    all_goals rfl
  | probe =>
    dsimp only
    split
    · exact .none rfl rfl
    · exact .none rfl (Filling.dealt_placeRecorded _ _ _ rfl rfl)
  | forgetMtuProbe | dropDataBlocked => exact .none rfl rfl
  | _ => exact .none rfl (Filling.dealt_place _ _ rfl)

theorem Fills.tells {I : Filling P → Prop}
    (step : ∀ {g g' : Filling P}, I g → Says g g' → I g') (h : Fills kind budget f f') (hI : I f) :
    I f' := h.invariant (fun _ _ hstep hg => step hg (FillStep.tells hstep)) hI

/-- What the calls and the frames that concern streams leave alone: the parameters of the peer, the
packets in flight and the close of the transport. -/
def books (c : Connection P) : Role × Option TransportParams × PerSpace SentPackets ×
    Option (TransportErrorCode × Bytes) :=
  (c.role, c.hs.peerParams, c.sentPackets, c.closing.pendingTransportClose)

theorem Says.keeps (h : Says f f') :
    f'.conn.trace = f.conn.trace ∧ f'.conn.books = f.conn.books := by
  have hview : ∀ {u : Dealings P}, f'.conn.dealings = u → f'.conn.trace = u.trace ∧
        f'.conn.books = (u.role, u.peerParams, u.stores, u.transportClose) :=
    fun hsame => hsame ▸ ⟨rfl, rfl⟩
  cases h with
  | none hsame | reset id errorCode finalSize _ hsame | maxStreams dir max _ hsame
  | streamsBlocked dir hsame | stream id _ _ _ hsame => exact hview hsame

theorem Fills.keeps (h : Fills kind budget f f') :
    f'.conn.trace = f.conn.trace ∧ f'.conn.books = f.conn.books :=
  Fills.tells (I := fun g => g.conn.trace = f.conn.trace ∧ g.conn.books = f.conn.books)
    (fun hg htells => ⟨htells.keeps.1.trans hg.1, htells.keeps.2.trans hg.2⟩) h ⟨rfl, rfl⟩

end Connection

/-! ## Packets that were sent -/

/-- Destination, space and frames of the packet that an event sends. -/
def Event.packet : Event P → Option (SocketAddr × SpaceKind × List Frame)
  | .sent dest space frames => some (dest, space, frames)
  | _ => none

/-- Whether an event notes what became of a packet or a stream, and is none of sending or hearing. -/
def Event.isNote : Event P → Bool
  | .sealed .. => false
  | .sent .. => false
  | .received .. => false
  | .retried .. => false
  | _ => true

namespace Connection

/-- The packets sent so far, newest first. -/
def packets (c : Connection P) : List (SocketAddr × SpaceKind × List Frame) :=
  c.trace.filterMap Event.packet

/-- Where the frames of a packet that is sent come from. -/
inductive Sends (c : Connection P) : SpaceKind → List Frame → Prop where
  | close (kind : SpaceKind) (frame : Frame) : c.takeClose.2 = some frame → Sends c kind [frame]
  | early : c.hs.oneRttReady = false → Sends c .application c.earlyFrames
  | fill (kind : SpaceKind) (budget : Nat) (f : Filling P) :
      Fills kind budget { conn := c } f → Sends c kind f.placed

/-- The history grows by events that send nothing. -/
def Silent (c d : Connection P) : Prop :=
  ∃ new, d.trace = new ++ c.trace ∧ ∀ e ∈ new, e.packet = none

theorem Silent.of_trace {c d : Connection P} (h : d.trace = c.trace) : Silent c d :=
  ⟨[], h, List.forall_mem_nil _⟩

theorem Silent.of_log {c d : Connection P} {e : Event P} (h : d.trace = e :: c.trace)
    (he : e.packet = none) : Silent c d :=
  ⟨[e], h, List.forall_mem_singleton.mpr he⟩

theorem Silent.trans {c d e : Connection P} (h : Silent c d) (h' : Silent d e) : Silent c e := by
  obtain ⟨new, htrace, hnew⟩ := h
  obtain ⟨new', htrace', hnew'⟩ := h'
  refine ⟨new' ++ new, by rw [htrace', htrace, List.append_assoc], fun event hevent => ?_⟩
  rcases List.mem_append.mp hevent with hevent | hevent
  · exact hnew' event hevent
  · exact hnew event hevent

theorem Silent.packets {c d : Connection P} (h : Silent c d) : d.packets = c.packets := by
  obtain ⟨new, htrace, hnew⟩ := h
  have hnone : new.filterMap Event.packet = [] := List.filterMap_eq_nil_iff.mpr hnew
  simp only [Connection.packets, htrace, List.filterMap_append, hnone, List.nil_append]

/-- The history grows by notes. -/
def Notes (c d : Connection P) : Prop :=
  ∃ new, d.trace = new ++ c.trace ∧ ∀ e ∈ new, e.isNote = true

theorem Notes.of_trace {c d : Connection P} (h : d.trace = c.trace) : Notes c d :=
  ⟨[], h, List.forall_mem_nil _⟩

theorem Notes.of_log {c d : Connection P} {e : Event P} (h : d.trace = e :: c.trace)
    (he : e.isNote = true) : Notes c d :=
  ⟨[e], h, List.forall_mem_singleton.mpr he⟩

theorem Notes.trans {c d e : Connection P} (h : Notes c d) (h' : Notes d e) : Notes c e := by
  obtain ⟨new, htrace, hnew⟩ := h
  obtain ⟨new', htrace', hnew'⟩ := h'
  exact ⟨new' ++ new, by rw [htrace', htrace, List.append_assoc],
    List.forall_mem_append.mpr ⟨hnew', hnew⟩⟩

theorem Notes.silent {c d : Connection P} (h : Notes c d) : Silent c d := by
  obtain ⟨new, htrace, hnew⟩ := h
  refine ⟨new, htrace, fun e he => ?_⟩
  have hnote := hnew e he
  cases e with
  | sent dest space frames => cases hnote
  | _ => rfl

variable (c : Connection P) {op : Op} (now : Time)

theorem step_notes (h : op.isDeal = true) : Notes c (c.step op) := by
  cases op with
  | openBidi | openUni | sendStream | resetStream =>
    simp only [step, openBidi, openUni, sendStream, resetStream]
    split
    · exact .of_trace rfl
    · exact .of_log rfl rfl
  | queueEarlyData stream data fin =>
    simp only [step, queueEarlyData]
    split
    · exact .of_log rfl rfl
    · exact .of_trace rfl
  | _ => cases h

theorem handleFrame_notes (packetType : PacketType)
    (h : frame.isDeal = true) : Notes c (c.handleFrame now packetType frame).1 := by
  cases frame with
  | stopSending streamId errorCode =>
    simp only [handleFrame, recvStopSending]
    split
    · exact .of_trace rfl
    · exact .of_log rfl rfl
  | stream id offset fin data =>
    exact .of_trace (recvStream_kept (fun _ _ _ _ => rfl) c id offset fin data)
  | maxStreams | streamsBlocked => exact .of_trace rfl
  | _ => cases h

theorem takeFrame_silent (packetType : PacketType)
    (h : frame.isDeal = true) : Silent c (c.takeFrame now packetType frame).1 :=
  .trans (.of_log (d := c.log (.received packetType frame)) rfl rfl)
    (handleFrame_notes _ now packetType h).silent

theorem requeueFrame_trace (idx : SpaceKind) (frame : SentFrame) :
    (c.requeueFrame idx frame).trace = c.trace := by
  cases frame with
  | crypto | newToken =>
    simp only [requeueFrame]
    split <;> rfl
  | _ => rfl

theorem learnPeerParams_trace : c.learnPeerParams.trace = c.trace :=
  learnPeerParams_kept (fun _ _ => rfl) c

theorem step_books (h : op.isDeal = true) : (c.step op).books = c.books := by
  cases op with
  | openBidi | openUni | sendStream | queueEarlyData | resetStream =>
    simp only [step, openBidi, openUni, sendStream, queueEarlyData, resetStream]
    split <;> rfl
  | _ => cases h

theorem learnPeerParams_books : c.learnPeerParams.books.2.2 = c.books.2.2 :=
  learnPeerParams_kept (f := (·.books.2.2)) (fun _ _ => rfl) c

theorem takeFrame_books (packetType : PacketType)
    (h : frame.isDeal = true) : (c.takeFrame now packetType frame).1.books = c.books := by
  cases frame with
  | stopSending streamId errorCode =>
    simp only [takeFrame, handleFrame, recvStopSending]
    split <;> rfl
  | stream id offset fin data =>
    exact recvStream_kept (f := books) (fun _ _ _ _ => rfl) (c.log _) id offset fin data
  | maxStreams | streamsBlocked => rfl
  | _ => cases h

theorem recovers_notes : Recovers c (Notes c) where
  untimed _ _ _ _ _ h := h
  spaces _ _ h := h
  forget _ _ _ _ _ h := h
  acked _ _ _ h := h.trans (.of_log rfl rfl)
  lost _ _ _ h := h.trans (.of_log rfl rfl)
  requeue _ _ _ _ h := h.trans (.of_trace (requeueFrame_trace _ _ _))

theorem Writes.sends {c d : Connection P} (h : Writes c d) :
    ∃ new, d.trace = new ++ c.trace ∧ ∀ e ∈ new, ∀ p, e.packet = some p → Sends c p.2.1 p.2.2 := by
  cases h with
  | same hsame => exact ⟨[], congrArg Dealings.trace hsame, List.forall_mem_nil _⟩
  | close new hd hnew =>
    refine ⟨new, congrArg Dealings.trace hd, fun e he p hp => ?_⟩
    rcases hnew e he with ⟨label, key, pn, rfl⟩ | ⟨dest, kind, frame, hframe, rfl⟩
    · cases hp
    · cases hp
      exact .close kind frame hframe
  | early new hready hd hnew =>
    refine ⟨new, congrArg Dealings.trace hd, fun e he p hp => ?_⟩
    rcases hnew e he with ⟨label, key, pn, rfl⟩ | ⟨dest, rfl⟩
    · cases hp
    · cases hp
      exact .early hready
  | fill kind budget f hfills hseals =>
    obtain ⟨stores, new, hd, hnew, -⟩ := hseals
    have htrace : f.conn.trace = c.trace := (Fills.keeps hfills).1
    refine ⟨new, htrace ▸ congrArg Dealings.trace hd, fun e he p hp => ?_⟩
    rcases hnew e he with ⟨label, key, pn, rfl⟩ | ⟨dest, rfl⟩
    · cases hp
    · cases hp
      exact .fill kind budget f hfills

theorem Deals.sends {c d : Connection P} (h : Deals c d op) :
    Silent c d ∨ (∃ now out, op = .pollTransmit now out) ∧ Writes c d := by
  cases h with
  | same hsame => exact .inl (.of_trace (congrArg Dealings.trace hsame))
  | call hdeal hd => exact .inl (hd ▸ (step_notes c hdeal).silent)
  | learn hd => exact .inl (.of_trace (hd ▸ learnPeerParams_trace c))
  | replay early hd => exact .inl (.of_log (congrArg Connection.trace hd) rfl)
  | retry now datagram oldDcid newDcid outstanding hd | hear now datagram packetType frame _ hd =>
    exact .inl (.of_log (congrArg Dealings.trace hd) rfl)
  | frame now datagram packetType frame hdeal hd =>
    exact .inl (hd ▸ takeFrame_silent c now packetType hdeal)
  | recover hrecover => exact .inl (hrecover _ (recovers_notes c) (.of_trace rfl)).silent
  | write now out hwrites => exact .inr ⟨⟨now, out, rfl⟩, hwrites⟩

/-- What holds of the frames of every packet that can be sent holds of those that were sent. -/
theorem Deals.packets_forall {c d : Connection P} (hdeals : Deals c d op)
    {Q : Frame → Prop} (hsends : ∀ {kind frames}, Sends c kind frames → ∀ frame ∈ frames, Q frame)
    (h : ∀ p ∈ c.packets, ∀ frame ∈ p.2.2, Q frame) :
    ∀ p ∈ d.packets, ∀ frame ∈ p.2.2, Q frame := by
  rcases hdeals.sends with hsilent | ⟨-, hwrites⟩
  · rw [hsilent.packets]
    exact h
  obtain ⟨new, htrace, hnew⟩ := hwrites.sends
  intro p hp
  simp only [packets, htrace, List.filterMap_append, List.mem_append] at hp
  rcases hp with hp | hp
  · obtain ⟨e, he, hpacket⟩ := List.mem_filterMap.mp hp
    exact hsends (hnew e he p hpacket)
  · exact h p hp

end Connection

end OxiQuic
