import OxiQuic.Connection.Accounting
import OxiQuic.Connection.Payload
import OxiQuic.Connection.ReceiveLimits

/-!
# Handshake packets and application state

Initial and Handshake packets are for `PADDING`, `PING`, `ACK`, `CRYPTO` and the
`CONNECTION_CLOSE` of the transport.  These frames leave alone all that belongs to the
application: streams, flow control, datagrams and the path (`handleFrame_guarded`).  Of the
other frames only those few are refused that are refused for a reason of their own; the rest is
acted on as in any packet (`handshake_packets_isolated`).
-/

namespace OxiQuic

open Lib Ledger Plain

variable {P : Platform} {packetType : PacketType} {c : Connection P} {frame : Frame}

/-- The frames that Initial and Handshake packets may carry. -/
def Frame.isHandshakeFrame : Frame → Bool
  | .padding _ => true
  | .ping => true
  | .ack .. => true
  | .crypto .. => true
  | .connectionClose _ _ application _ => !application
  | _ => false

/-- The state of a connection that handshake packets have no business with. -/
structure Guarded where
  sendStreams : OrdMap Nat SendStream
  inbound : Inbound
  flow : Flow
  peerMaxStreamsBidi : Nat
  peerMaxStreamsUni : Nat
  datagramRecvQueue : List Bytes
  path : Path
  handshakeDone : Bool
  /-- This is a setting. -/
  maxDatagramFrameSize : Nat

namespace Connection

def guarded (c : Connection P) : Guarded where
  sendStreams := c.sendStreams
  inbound := c.inbound
  flow := c.flow
  peerMaxStreamsBidi := c.limits.bidi.peerMaxStreams
  peerMaxStreamsUni := c.limits.uni.peerMaxStreams
  datagramRecvQueue := c.datagrams.recvQueue
  path := c.path
  handshakeDone := c.hs.handshakeDone
  maxDatagramFrameSize := c.datagrams.localMaxDatagramFrameSize

/-! ## Frames that may be there -/

theorem onFrameLost_guarded (c : Connection P) (idx : SpaceKind) {frame : SentFrame}
    (h : frame.isStream = false) : (c.onFrameLost idx frame).guarded = c.guarded := by
  cases frame with
  | stream id offset fin data => cases h
  | crypto | newToken =>
    simp only [onFrameLost, requeueFrame]
    split <;> rfl
  | maxStreams dir max =>
    have hpeer : ∀ l : StreamLimit,
        (l.requeueMaxStreams max).peerMaxStreams = l.peerMaxStreams := by
      intro l
      simp only [StreamLimit.requeueMaxStreams]
      split
      · split <;> rfl
      · rfl
    cases dir with
    | bidirectional =>
      exact congrArg (fun n => { c.guarded with peerMaxStreamsBidi := n }) (hpeer c.limits.bidi)
    | unidirectional =>
      exact congrArg (fun n => { c.guarded with peerMaxStreamsUni := n }) (hpeer c.limits.uni)
  | streamsBlocked dir limit => cases dir <;> rfl
  | _ => rfl

theorem guarded_blind : Blind (guarded (P := P)) := ⟨fun _ _ _ _ _ _ => rfl, fun _ _ _ => rfl⟩

theorem handleFrame_guarded (h : c.ledger.AllFiled) (now : Time)
    (htype : packetType = .initial ∨ packetType = .handshake)
    (hframe : frame.isHandshakeFrame = true) :
    (c.handleFrame now packetType frame).1.guarded = c.guarded := by
  cases frame with
  | padding | ping | connectionClose => rfl
  | ack largest delay firstRange ranges =>
    exact guarded_blind.processAck c now packetType _ _ _ _ fun pn p hp frame hframe d =>
      onFrameLost_guarded d _ ((h _ pn p hp).stream
        (by rcases htype with rfl | rfl <;> exact nofun) frame hframe)
  | crypto offset data =>
    exact recvCrypto_kept (fun _ _ _ _ => rfl) c packetType offset data
  | _ => cases hframe

theorem handleFrame_error {now : Time}
    (hframe : frame.isHandshakeFrame = true) {e : OxiQuicError}
    (herror : (c.handleFrame now packetType frame).2 = .error e) : ∃ alert, e = .tls alert := by
  cases frame with
  | crypto offset data =>
    simp only [handleFrame, recvCrypto] at herror
    split at herror
    · cases herror
    simp only [readHs] at herror
    split at herror
    · cases herror
    · cases herror
      exact ⟨_, rfl⟩
  | padding | ping | ack | connectionClose => cases herror
  | _ => cases hframe

/-! ## Frames that may not -/

/-- All parts of a stream are there. -/
def HasStream (c : Connection P) (id : StreamId) : Prop :=
  c.flow.streamRecvFlow.contains id = true ∧ (StreamId.direction id = .bidirectional →
    c.sendStreams.contains id = true ∧ c.flow.streamSendFlow.contains id = true)

/-- The frames that are refused in a handshake packet, without a trace: those that are checked
for the type of the packet, and those that are refused in every packet. -/
def Rejects (c : Connection P) : Frame → Prop
  | .newConnectionId .. => True
  | .retireConnectionId _ => True
  | .newToken _ => True
  | .datagram data =>
    c.datagrams.localMaxDatagramFrameSize = 0 ∨
      c.datagrams.localMaxDatagramFrameSize < data.length
  | .stream id offset fin data =>
    c.HasStream id ∧ (c.uptake.half id).isReset = false ∧
      (c.uptake.half id).violatesFinalSize (offset + data.length) fin = true
  | _ => False

variable (c)

theorem recvDatagramFrame_refused_iff (data : Bytes) :
    ((c.recvDatagramFrame data).1.guarded = c.guarded ∧ ∃ code frameType reason,
      (c.recvDatagramFrame data).2 = .error (.transportError code frameType reason)) ↔
    c.datagrams.localMaxDatagramFrameSize = 0 ∨
      c.datagrams.localMaxDatagramFrameSize < data.length := by
  simp only [recvDatagramFrame]
  split
  · rename_i hzero
    exact iff_of_true ⟨rfl, _, _, _, rfl⟩ (.inl hzero)
  rename_i hpos
  split
  · rename_i hlong
    exact iff_of_true ⟨rfl, _, _, _, rfl⟩ (.inr hlong)
  rename_i hfits
  refine iff_of_false ?_ ?_
  · rintro ⟨_, _, _, _, hok⟩
    cases hok
  rintro (hzero | hlong)
  · exact hpos hzero
  · exact hfits hlong

theorem ensureStream_parts_iff (id : StreamId) :
    (c.ensureStream id).sendStreams = c.sendStreams ∧ (c.ensureStream id).flow = c.flow ↔
      c.HasStream id := by
  have hnote : (c.noteNewPeerStream id).sendStreams = c.sendStreams ∧
      (c.noteNewPeerStream id).flow = c.flow ∧
      (c.noteNewPeerStream id).peerInitialStreamLimit = c.peerInitialStreamLimit := by
    simp only [noteNewPeerStream]
    split <;> exact ⟨rfl, rfl, rfl⟩
  obtain ⟨hstreams, hflow, hlimit⟩ := hnote
  rw [ensureStream, HasStream]
  simp only [ensureRecvFlow, ensureSendHalf, hstreams, hflow, hlimit]
  split
  · rename_i hdir
    constructor
    · rintro ⟨hsend, hflow⟩
      exact ⟨OrdMap.ite_contains_insert_eq_iff.mp (congrArg Flow.streamRecvFlow hflow),
        fun _ => ⟨OrdMap.ite_contains_insert_eq_iff.mp hsend,
          OrdMap.ite_contains_insert_eq_iff.mp (congrArg Flow.streamSendFlow hflow)⟩⟩
    · rintro ⟨hwindow, hsend⟩
      simp only [if_pos (hsend hdir).1, if_pos (hsend hdir).2, if_pos hwindow, and_self]
  · rename_i hdir
    simp only [hstreams, hflow, true_and]
    constructor
    · intro hflow
      exact ⟨OrdMap.ite_contains_insert_eq_iff.mp (congrArg Flow.streamRecvFlow hflow),
        fun hbidi => (hdir hbidi).elim⟩
    · rintro ⟨hwindow, _⟩
      rw [if_pos hwindow]

/-- A stream that has a receive half is left as it is only if it has all its parts. -/
theorem ensureStream_guarded_iff {id : StreamId} (hhalf : c.inbound.streams.contains id = true) :
    (c.ensureStream id).guarded = c.guarded ↔ c.HasStream id := by
  have hview : (c.ensureStream id).guarded = { c.guarded with
      sendStreams := (c.ensureStream id).sendStreams, flow := (c.ensureStream id).flow } := by
    simp only [ensureStream, noteNewPeerStream, hhalf, Bool.not_true, Bool.false_and,
      Bool.false_eq_true, if_false, ensureRecvFlow, ensureSendHalf]
    split <;> rfl
  rw [← ensureStream_parts_iff, hview]
  constructor
  · exact fun h => ⟨congrArg Guarded.sendStreams h, congrArg Guarded.flow h⟩
  rintro ⟨hsend, hflow⟩
  rw [hsend, hflow]
  rfl

theorem recvStream_refused_iff (now : Time) (packetType : PacketType)
    (id offset : Nat) (fin : Bool) (data : Bytes) :
    ((c.handleFrame now packetType (.stream id offset fin data)).1.guarded = c.guarded ∧
      c.Refuses now packetType (.stream id offset fin data)) ↔
    c.Rejects (.stream id offset fin data) := by
  rw [refuses_stream_iff, Rejects]
  refine and_congr_left fun hrefused => ?_
  obtain ⟨hreset, hviolates⟩ := hrefused
  -- a final size is known, so the half is there
  obtain ⟨s, hs⟩ : ∃ s, c.inbound.streams.get? id = some s := by
    cases hget : c.inbound.streams.get? id with
    | some s => exact ⟨s, rfl⟩
    | none =>
      have hempty : c.uptake.half id = {} := by
        show (c.inbound.streams.get? id).getD {} = {}
        rw [hget]
        rfl
      rw [hempty] at hviolates
      cases hviolates
  have hhalf : c.uptake.half id = s := Uptake.half_of_get? c.uptake hs
  rw [hhalf] at hreset hviolates
  have hensured : (c.ensureStream id).inbound.streams.get? id = some s := by
    obtain ⟨newPeerStreams, hensured⟩ := ensureStream_uptake c id
    exact (congrArg (fun u => u.inbound.streams.get? id) hensured).trans hs
  have hrecv : s.recv ⟨offset, data, fin⟩ = (s, .error .finalSize) := if_pos hviolates
  have hframe : (c.handleFrame now packetType (.stream id offset fin data)).1
      = c.ensureStream id := by
    simp only [handleFrame, recvStream, hensured, Option.getD_some, hreset, Bool.false_eq_true,
      if_false, hrecv, OrdMap.insert_of_get?_eq_some hensured]
  rw [hframe]
  exact ensureStream_guarded_iff c (by simp [OrdMap.contains, hs])

/-- A frame that has no place in a handshake packet is refused, and leaves everything as it is,
only if it is one of those few. -/
theorem handleFrame_refused_iff (now : Time)
    (htype : packetType ≠ .short) (hframe : frame.isHandshakeFrame = false) :
    ((c.handleFrame now packetType frame).1.guarded = c.guarded ∧
      c.Refuses now packetType frame) ↔ c.Rejects frame := by
  have hacts : (c.handleFrame now packetType frame).2 = .ok () →
      ¬ c.Refuses now packetType frame := by
    rintro hok ⟨code, frameType, reason, herror⟩
    cases hok.symm.trans herror
  cases frame with
  | newConnectionId | retireConnectionId =>
    refine iff_of_true ?_ trivial
    simp only [Refuses, handleFrame, recvNewConnectionId, if_pos htype, recvRetireConnectionId]
    exact ⟨trivial, _, _, _, rfl⟩
  | newToken token =>
    refine iff_of_true ?_ trivial
    simp only [Refuses, handleFrame, recvNewToken]
    split
    · exact ⟨rfl, _, _, _, rfl⟩
    · exact ⟨rfl, _, _, _, rfl⟩
  | datagram data => exact recvDatagramFrame_refused_iff c data
  | stream id offset fin data => exact recvStream_refused_iff c now packetType id offset fin data
  | connectionClose errorCode frameType application reason =>
    exact iff_of_false (fun h => hacts rfl h.2) id
  | padding | ping | ack | crypto => cases hframe
  | _ => exact iff_of_false (fun h => hacts rfl h.2) id

variable {c}

/-! ## Packets -/

theorem rejects_congr {d : Connection P} (h : d.guarded = c.guarded) (frame : Frame) :
    d.Rejects frame ↔ c.Rejects frame := by
  have hview : ∀ e : Connection P, e.Rejects frame ↔ (match frame with
      | .newConnectionId .. => True
      | .retireConnectionId _ => True
      | .newToken _ => True
      | .datagram data => e.guarded.maxDatagramFrameSize = 0 ∨
          e.guarded.maxDatagramFrameSize < data.length
      | .stream id offset fin data =>
        (e.guarded.flow.streamRecvFlow.contains id = true ∧
          (StreamId.direction id = .bidirectional → e.guarded.sendStreams.contains id = true ∧
            e.guarded.flow.streamSendFlow.contains id = true)) ∧
        ((e.guarded.inbound.streams.get? id).getD {}).isReset = false ∧
          ((e.guarded.inbound.streams.get? id).getD {}).violatesFinalSize
            (offset + data.length) fin = true
      | _ => False) := by
    intro e
    cases frame <;> rfl
  rw [hview d, hview c, h]

/-- The first frame that may not be there, if there is one, is refused. -/
def Stops (c : Connection P) : List Frame → Prop
  | [] => True
  | frame :: rest => if frame.isHandshakeFrame then Stops c rest else c.Rejects frame

theorem stops_congr {d : Connection P} (h : d.guarded = c.guarded) {frames : List Frame}
    (hstops : c.Stops frames) : d.Stops frames := by
  induction frames with
  | nil => trivial
  | cons frame rest ih =>
    simp only [Stops] at hstops ⊢
    split
    · rename_i hframe
      rw [if_pos hframe] at hstops
      exact ih hstops
    rename_i hframe
    rw [if_neg hframe] at hstops
    exact (rejects_congr h frame).mpr hstops

/-- A packet is refused, or TLS fails before that. -/
def Fails {α : Type} (r : Outcome P α) : Prop :=
  (∃ code frameType reason, r.2 = .error (.transportError code frameType reason)) ∨
    ∃ alert, r.2 = .error (.tls alert)

theorem processFramesFuel_guarded (now : Time)
    (htype : packetType = .initial ∨ packetType = .handshake) (fuel : Nat) (buf : Bytes)
    (ackEliciting : Bool) (h : c.ledger.AllFiled) (hstops : c.Stops (framesFuel fuel buf)) :
    (processFramesFuel now packetType fuel buf ackEliciting c).1.guarded = c.guarded ∧
      ((∃ frame ∈ framesFuel fuel buf, frame.isHandshakeFrame = false) →
        Fails (processFramesFuel now packetType fuel buf ackEliciting c)) := by
  have hshort : packetType ≠ .short := by
    rcases htype with rfl | rfl <;> decide
  have hnone : ¬ ∃ frame ∈ ([] : List Frame), frame.isHandshakeFrame = false := by
    rintro ⟨_, hmem, _⟩
    cases hmem
  induction fuel generalizing buf ackEliciting c with
  | zero => exact ⟨rfl, fun hother => absurd hother hnone⟩
  | succ fuel ih =>
    simp only [framesFuel] at hstops ⊢
    simp only [processFramesFuel]
    by_cases hempty : buf.isEmpty = true
    · rw [if_pos hempty, if_pos hempty]
      exact ⟨rfl, fun hother => absurd hother hnone⟩
    rw [if_neg hempty] at hstops
    rw [if_neg hempty, if_neg hempty]
    cases hdecode : decodeFrame buf with
    | error e => exact ⟨rfl, fun hother => absurd hother hnone⟩
    | ok decoded =>
      obtain ⟨frame, rest⟩ := decoded
      rw [hdecode] at hstops
      simp only [Stops] at hstops
      have hfiled : ((c.log (.received packetType frame)).handleFrame now packetType
          frame).1.ledger.AllFiled :=
        Moves.invariant allFiled_move h (receiveFrame_moves c now packetType frame)
      have hlogged : (c.log (.received packetType frame)).ledger.AllFiled := h
      by_cases hframe : frame.isHandshakeFrame = true
      · rw [if_pos hframe] at hstops
        have hguarded : ((c.log (.received packetType frame)).handleFrame now packetType
            frame).1.guarded = c.guarded := handleFrame_guarded hlogged now htype hframe
        have hrest := ih rest (ackEliciting || frame.isAckEliciting) hfiled
          (stops_congr hguarded hstops)
        simp only [Outcome.andThen]
        split
        · refine ⟨hrest.1.trans hguarded, ?_⟩
          rintro ⟨other, hmem, hother⟩
          refine hrest.2 ?_
          rcases List.mem_cons.mp hmem with rfl | hmem
          · cases hframe.symm.trans hother
          · exact ⟨other, hmem, hother⟩
        · rename_i e herror
          obtain ⟨alert, rfl⟩ := handleFrame_error hframe herror
          exact ⟨hguarded, fun _ => .inr ⟨alert, rfl⟩⟩
      · rw [if_neg hframe] at hstops
        have hrejects : (c.log (.received packetType frame)).Rejects frame :=
          (rejects_congr rfl frame).mpr hstops
        obtain ⟨hguarded, code, frameType, reason, herror⟩ :=
          (handleFrame_refused_iff _ now hshort (Bool.eq_false_iff.mpr hframe)).mpr hrejects
        simp only [Outcome.andThen, herror]
        exact ⟨hguarded, fun _ => .inl ⟨code, frameType, reason, rfl⟩⟩

end Connection

/-- Whatever an Initial or Handshake packet carries, in any state in the course of a run: a frame
leaves alone what is guarded, and is refused if it has no place there, exactly if it has its place
there or is one of the few that are refused.  A packet whose first frame out of place is one of
these changes nothing that is guarded, and fails if there is such a frame. -/
theorem handshake_packets_isolated {c d : Connection P} (hfresh : c.Fresh) {ops : List Op} {op : Op}
    (hd : Connection.Updates op (c.run ops) d) (now : Time) {packetType : PacketType}
    (htype : packetType = .initial ∨ packetType = .handshake) :
    (∀ frame, ((d.handleFrame now packetType frame).1.guarded = d.guarded ∧
        (frame.isHandshakeFrame = false → d.Refuses now packetType frame)) ↔
      frame.isHandshakeFrame = true ∨ d.Rejects frame) ∧
    ∀ payload, d.Stops (payloadFrames payload) →
      (d.processFrames now packetType payload).1.guarded = d.guarded ∧
      ((∃ frame ∈ payloadFrames payload, frame.isHandshakeFrame = false) →
        Connection.Fails (d.processFrames now packetType payload)) := by
  obtain ⟨role, dcid, hacts⟩ := hfresh.run_acts ops
  have hfiled : d.ledger.AllFiled :=
    Acts.invariant allFiled_move (fun _ h => h) (allFiled_start role dcid c.path.peerAddr)
      (hacts.trans hd.acts)
  have hshort : packetType ≠ .short := by
    rcases htype with rfl | rfl <;> exact nofun
  refine ⟨fun frame => ?_, fun payload hstops => ?_⟩
  · cases hframe : frame.isHandshakeFrame with
    | true =>
      have hguarded := Connection.handleFrame_guarded hfiled now htype hframe
      exact iff_of_true ⟨hguarded, nofun⟩ (.inl rfl)
    | false =>
      have hiff := Connection.handleFrame_refused_iff d now hshort hframe
      simpa using hiff
  · have hbegin : d.beginPacket.Stops (payloadFrames payload) :=
      Connection.stops_congr (show d.beginPacket.guarded = d.guarded from rfl) hstops
    exact Connection.processFramesFuel_guarded now htype payload.length payload false hfiled hbegin

namespace Plain

/-- A client that is connected. -/
def connected : Connection Plain := (client []).run (joins (client []))

/-- A payload of a handshake packet that has a frame out of place at its end. -/
def trailed : Bytes := Frame.ping.encode ++ (Frame.retireConnectionId 0).encode

/-- An Initial packet with frames that it may not carry. -/
def injected : Bytes :=
  initialPacket (client []) 5 [.stream 1 0 false [7], .maxData 100, .handshakeDone]

end Plain

theorem handshake_packets_isolated_trailed :
    (connected.processFrames 2 .initial trailed).1.guarded = connected.guarded ∧
    Connection.Fails (connected.processFrames 2 .initial trailed) := by
  have hframes : payloadFrames trailed = [.ping, .retireConnectionId 0] := by decide +kernel
  have hd : Connection.Updates .pollReadable connected connected := .refl _
  obtain ⟨_, hpackets⟩ := handshake_packets_isolated (client_fresh []) hd 2 (.inl rfl)
  obtain ⟨hguarded, hfails⟩ := hpackets trailed (by rw [hframes]; trivial)
  exact ⟨hguarded, hfails (by rw [hframes]; exact ⟨_, List.mem_cons_of_mem _ (.head _), rfl⟩)⟩

/-- An Initial packet brings a client stream data, credit and the end of the handshake. -/
theorem handshake_packets_not_isolated :
    connected.inbound.newPeerStreams = [] ∧ connected.flow.sendFlow.maxData = 0 ∧
    connected.hs.handshakeDone = false ∧ (connected.handleDatagram 2 injected).2 = .ok () ∧
    ((connected.handleDatagram 2 injected).1.readStream 1).2 = .ok ([7], false) ∧
    (connected.handleDatagram 2 injected).1.flow.sendFlow.maxData = 100 ∧
    (connected.handleDatagram 2 injected).1.hs.handshakeDone = true := by
  decide +kernel

end OxiQuic
