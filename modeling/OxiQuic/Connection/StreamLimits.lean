import OxiQuic.Connection.SendLimits
import OxiQuic.Connection.Uptake

/-!
# Agreement on the limits of a stream

The limit that a sender uses for a stream and the limit that the receiver holds for it are the
same when neither was raised: both are the receiver's `initial_max_stream_data_bidi_remote`, for
every kind of stream.  That is the limit which the parameters set for the stream only where the
other two parameters have the same value (`stream_limits_agree`).
-/

namespace OxiQuic

open Lib Plain

variable {P : Platform} {id : Nat}

/-- The limit that the parameters of a receiver set for a stream. -/
def TransportParams.streamLimit (p : TransportParams) (receiver : Role) (id : StreamId) : Nat :=
  match StreamId.direction id with
  | .unidirectional => p.initialMaxStreamDataUni
  | .bidirectional =>
    if StreamId.initiator id = receiver.initiator then p.initialMaxStreamDataBidiLocal
    else p.initialMaxStreamDataBidiRemote

namespace Connection

/-- A new connection that announces these parameters. -/
inductive Announces (p : TransportParams) : Connection P → Prop where
  | client (tls : P.Session) (peerAddr : SocketAddr) (mtuConfig : MtuConfig)
      (congestionAlgo : CongestionAlgorithm) (os : P.Os) :
      Announces p (newClient tls peerAddr p mtuConfig congestionAlgo os)
  | server (tls : P.Session) (clientDcid clientScid : ConnectionId) (peerAddr : SocketAddr)
      (mtuConfig : MtuConfig) (congestionAlgo : CongestionAlgorithm) (os : P.Os) :
      Announces p (newServer tls clientDcid clientScid peerAddr p mtuConfig congestionAlgo os)

/-- The limit that a sender uses for a stream, the initial one if the stream has no credit yet. -/
def sendLimit (c : Connection P) (id : Nat) : Nat :=
  ((c.flow.streamSendFlow.get? id).getD (.new c.peerInitialStreamLimit)).maxData

/-- The limit that a receiver holds for a stream, the initial one before anything arrives. -/
def recvLimit (c : Connection P) (id : Nat) : Nat := (c.uptake.window id).maxData

end Connection

/-! ## The sender -/

namespace Outlay

theorem Limited.eq_initialLimit {u : Outlay P} (h : u.Limited) (hgrant : grantedTo id u.trace = 0) :
    ((u.credits.get? id).getD (.new u.initialLimit)).maxData = u.initialLimit := by
  cases hf : u.credits.get? id with
  | none => rfl
  | some f =>
    obtain ⟨hlower, hupper⟩ := h id f hf
    rw [streamLimit, hgrant, Nat.max_zero] at hupper
    exact Nat.le_antisymm hupper hlower

end Outlay

theorem Connection.Fresh.sendLimit_run {c : Connection P} (hfresh : c.Fresh) (ops : List Op)
    {p : TransportParams} (hlearned : (c.run ops).hs.peerParams = some p)
    (hgrant : grantedTo id (c.run ops).trace = 0) :
    (c.run ops).sendLimit id = p.initialMaxStreamDataBidiRemote := by
  have hlimited : (c.run ops).outlay.Limited :=
    run_outlay Outlay.limited_step hfresh.sound.limited ops
  have hinitial : (c.run ops).outlay.initialLimit = p.initialMaxStreamDataBidiRemote := by
    simp only [Outlay.initialLimit, Connection.outlay, hlearned]
  exact (hlimited.eq_initialLimit hgrant).trans hinitial

/-! ## The receiver -/

namespace Uptake

variable {u v : Uptake P}

/-- A window of which nothing was consumed is as it was made. -/
def Unmoved (initial : Nat) (u : Uptake P) : Prop :=
  u.initialWindow = initial ∧ ∀ id, (u.window id).window = initial ∧
    ((u.window id).consumed = 0 → (u.window id).maxData = initial)

theorem Unmoved.of_window {initial : Nat} (h : u.Unmoved initial)
    (hinitial : v.initialWindow = u.initialWindow) (hwindow : ∀ id, v.window id = u.window id) :
    v.Unmoved initial := by
  refine ⟨hinitial.trans h.1, fun id => ?_⟩
  rw [hwindow id]
  exact h.2 id

theorem unmoved_step {initial : Nat} (h : u.Unmoved initial) (hstep : u.Step v) :
    v.Unmoved initial := by
  cases hstep with
  | frame htakes =>
    cases htakes with
    | stream packetType id offset fin data readable newPeerStreams =>
      exact h.of_window rfl (u.window_stream id ⟨offset, data, fin⟩ readable newPeerStreams)
    | _ => exact h
  | act hact =>
    cases hact with
    | openUni | notify => exact h
    | @openBidi id hid =>
      refine ⟨h.1, fun id' => ?_⟩
      rw [show ((u.openBidi id).log (.opened id)).window id' = _ from u.window_openBidi id id']
      split
      · exact ⟨h.1, fun _ => h.1⟩
      · exact h.2 id'
    | @read id s _ _ =>
      refine ⟨h.1, fun id' => ?_⟩
      obtain ⟨hwindow, hunread⟩ := h.2 id'
      simp only [window, read, OrdMap.get?_modify] at hwindow hunread ⊢
      split
      · cases hw : u.streamRecvFlow.get? id' with
        | none => exact ⟨h.1, fun _ => h.1⟩
        | some w =>
          rw [hw] at hwindow hunread
          exact ⟨hwindow, fun hzero => hunread (Nat.eq_zero_of_add_eq_zero_right hzero)⟩
      · exact ⟨hwindow, hunread⟩
    | raise recvFlow windows _ hraises =>
      refine ⟨h.1, fun id => ?_⟩
      have hraise : (u.window id).Raises ((windows.get? id).getD (.new u.initialWindow)) :=
        RecvWindow.raises_getD (hraises id) _
      obtain ⟨hwindow, hunread⟩ := h.2 id
      refine ⟨hraise.window.trans hwindow, fun hzero => ?_⟩
      have hzero : (u.window id).consumed = 0 := hraise.consumed.symm.trans hzero
      rcases hraise.desired with hsame | hdesired
      · exact hsame.trans (hunread hzero)
      · exact hdesired.trans (by rw [hzero, hwindow, Nat.zero_add])

end Uptake

theorem Connection.Announces.recvLimit_run {p : TransportParams} {c : Connection P}
    (h : c.Announces p) (ops : List Op) (hunread : ((c.run ops).uptake.window id).consumed = 0) :
    (c.run ops).recvLimit id = p.initialMaxStreamDataBidiRemote := by
  have hstart : c.uptake.Unmoved p.initialMaxStreamDataBidiRemote := by
    cases h <;> exact ⟨rfl, fun _ => ⟨rfl, fun _ => rfl⟩⟩
  exact ((run_uptake Uptake.unmoved_step hstart ops).2 id).2 hunread

/-! ## Both -/

/-- Sender and receiver hold one limit for a stream when the handshake has carried the
receiver's parameters, no `MAX_STREAM_DATA` has arrived for the stream and nothing was read of
it.  The last part says for which streams it is the limit that the parameters set. -/
theorem stream_limits_agree {p : TransportParams} {c r : Connection P} (hfresh : c.Fresh)
    (hannounces : r.Announces p) (ops ops' : List Op)
    (hlearned : (c.run ops).hs.peerParams = some p) (id : StreamId)
    (hgrant : grantedTo id (c.run ops).trace = 0)
    (hunread : ((r.run ops').uptake.window id).consumed = 0) :
    (c.run ops).sendLimit id = (r.run ops').recvLimit id ∧
    ((c.run ops).sendLimit id = p.streamLimit r.role id ∧
        (r.run ops').recvLimit id = p.streamLimit r.role id ↔
      (StreamId.direction id = .unidirectional →
        p.initialMaxStreamDataUni = p.initialMaxStreamDataBidiRemote) ∧
      (StreamId.direction id = .bidirectional → StreamId.initiator id = r.role.initiator →
        p.initialMaxStreamDataBidiLocal = p.initialMaxStreamDataBidiRemote)) := by
  rw [hfresh.sendLimit_run ops hlearned hgrant, hannounces.recvLimit_run ops' hunread]
  refine ⟨rfl, ?_⟩
  rw [and_self, eq_comm, TransportParams.streamLimit]
  cases StreamId.direction id with
  | unidirectional => simp
  | bidirectional =>
    by_cases hown : StreamId.initiator id = r.role.initiator
    · simp [hown]
    · simp [hown]

namespace Plain

/-- Parameters that tell the three kinds of streams apart. -/
def graded : TransportParams :=
  { initialMaxStreamDataBidiLocal := 8, initialMaxStreamDataBidiRemote := 4
    initialMaxStreamDataUni := 6 }

/-- A client whose server announces them. -/
def talker : Connection Plain := client [0x05, 1, 8, 0x06, 1, 4, 0x07, 1, 6]

/-- That server. -/
def listener : Connection Plain := server talker [] graded

theorem listener_announces : listener.Announces graded := .server ..

/-- The client connects, opens a stream of each kind, and hears of a stream of the server. -/
def talks : List Op :=
  joins talker ++ [.openBidi, .openUni,
    .handleDatagram 2 (shortPacket talker 0 0 [.stream 1 0 false [7]])]

/-- The server opens a stream and gets a byte on each of the client's. -/
def listens : List Op :=
  [.handleDatagram 0 (talker.pollTransmit 0 []).2.1, .openBidi, .handleDatagram 2
    (shortPacket listener 0 0 [.stream 0 0 false [1], .stream 2 0 false [2]])]

end Plain

theorem stream_limits_agree_client_bidi :
    (talker.run talks).sendLimit 0 = (listener.run listens).recvLimit 0 ∧
    (talker.run talks).sendLimit 0 = 4 := by
  obtain ⟨hagree, hkind⟩ := stream_limits_agree (c := talker) (client_fresh _)
    listener_announces talks listens (by decide +kernel) 0 (by decide +kernel)
    (by decide +kernel)
  exact ⟨hagree, (hkind.mpr (by decide +kernel)).1⟩

/-- By what the server announced, the client may send six bytes on its unidirectional stream and
eight on a stream of the server.  Both sides take the limit to be four. -/
theorem stream_limits_not_announced :
    (talker.run talks).hs.peerParams = some graded ∧
    ((talker.run talks).flow.streamSendFlow.get? 2).map (·.maxData) = some 4 ∧
    ((listener.run listens).flow.streamRecvFlow.get? 2).map (·.maxData) = some 4 ∧
    graded.streamLimit .server 2 = 6 ∧
    ((talker.run talks).flow.streamSendFlow.get? 1).map (·.maxData) = some 4 ∧
    ((listener.run listens).flow.streamRecvFlow.get? 1).map (·.maxData) = some 4 ∧
    graded.streamLimit .server 1 = 8 := by
  decide +kernel

end OxiQuic
