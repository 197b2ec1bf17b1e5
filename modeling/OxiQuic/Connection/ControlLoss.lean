import OxiQuic.PlainPlatform

/-!
# Control frames and loss

`MAX_DATA`, `MAX_STREAM_DATA`, `RESET_STREAM`, `STOP_SENDING`, `HANDSHAKE_DONE` and
`PATH_CHALLENGE` are placed in packets without a record for loss detection, and what asked for
them is cleared.  When the packet is lost there is nothing to queue again: loss handling
leaves what is pending of them exactly as it was (`pending_detectAndHandleLoss_iff`), so what
had been sent stays lost.
-/

namespace OxiQuic

open Lib Plain

variable {P : Platform} (c : Connection P)

/-- What a control frame tells the peer. -/
inductive ControlInfo where
  | maxData (max : Nat)
  | maxStreamData (id max : Nat)
  | resetStream (id errorCode finalSize : Nat)
  | stopSending (id errorCode : Nat)
  | handshakeDone
  | pathChallenge (nonce : Bytes)
  deriving DecidableEq, Repr

/-- Whether a frame carries the information, or a newer value of it. -/
def Frame.tells : Frame → ControlInfo → Bool
  | .maxData max', .maxData max => decide (max ≤ max')
  | .maxStreamData id' max', .maxStreamData id max => id' = id && decide (max ≤ max')
  | .resetStream id' errorCode' finalSize', .resetStream id errorCode finalSize =>
    id' = id && errorCode' = errorCode && finalSize' = finalSize
  | .stopSending id' errorCode', .stopSending id errorCode => id' = id && errorCode' = errorCode
  | .handshakeDone, .handshakeDone => true
  | .pathChallenge nonce', .pathChallenge nonce => nonce' = nonce
  | _, _ => false

/-- The frames a connection has sent, in packets or in all its packets. -/
def sentFrames (trace : List (Event P)) : List Frame :=
  trace.flatMap fun
    | .sent _ _ frames => frames
    | _ => []

namespace Connection

/-- The information, or a newer value of it, is to be sent. -/
def Pending (c : Connection P) : ControlInfo → Prop
  | .maxData max => ∃ max' ∈ c.flow.pendingMaxData, max ≤ max'
  | .maxStreamData id max => ∃ max' ∈ c.flow.pendingMaxStreamData.get? id, max ≤ max'
  | .resetStream id errorCode finalSize =>
    c.resets.pendingResetStreams.get? id = some (errorCode, finalSize)
  | .stopSending id errorCode => c.resets.pendingStopSending.get? id = some errorCode
  | .handshakeDone => c.handshakeDoneToSend = true
  | .pathChallenge nonce =>
    c.path.pendingPathChallengeSend = true ∧ c.path.pendingPathChallenge = some nonce

instance (c : Connection P) : (info : ControlInfo) → Decidable (c.Pending info)
  | .maxData max => inferInstanceAs (Decidable (∃ max' ∈ c.flow.pendingMaxData, max ≤ max'))
  | .maxStreamData id max =>
    inferInstanceAs (Decidable (∃ max' ∈ c.flow.pendingMaxStreamData.get? id, max ≤ max'))
  | .resetStream id errorCode finalSize => inferInstanceAs
      (Decidable (c.resets.pendingResetStreams.get? id = some (errorCode, finalSize)))
  | .stopSending id errorCode =>
    inferInstanceAs (Decidable (c.resets.pendingStopSending.get? id = some errorCode))
  | .handshakeDone => inferInstanceAs (Decidable (c.handshakeDoneToSend = true))
  | .pathChallenge nonce => inferInstanceAs (Decidable
      (c.path.pendingPathChallengeSend = true ∧ c.path.pendingPathChallenge = some nonce))

/-- The parts of a connection that say which control frames are to be sent. -/
def control (c : Connection P) : Role × HandshakeProgress × Flow × Resets × Path :=
  (c.role, c.hs, c.flow, c.resets, c.path)

theorem pending_iff_of_control {c d : Connection P} (h : d.control = c.control)
    (info : ControlInfo) : d.Pending info ↔ c.Pending info := by
  simp only [control, Prod.mk.injEq] at h
  obtain ⟨hrole, hhs, hflow, hresets, hpath⟩ := h
  cases info <;> simp only [Pending, handshakeDoneToSend, hrole, hhs, hflow, hresets, hpath]

theorem onFrameLost_control (idx : SpaceKind) (frame : SentFrame) :
    (c.onFrameLost idx frame).control = c.control := by
  cases frame with
  | crypto | newToken =>
    simp only [onFrameLost, requeueFrame]
    split <;> rfl
  | _ => rfl

theorem onPacketsLost_control (lost : List SentPacket) (now : Time) :
    (c.onPacketsLost lost now).control = c.control := by
  simp only [onPacketsLost]
  split <;> rfl

theorem logAll_control (es : List (Event P)) : (c.logAll es).control = c.control := rfl

theorem detectAndHandleLoss_control (idx : SpaceKind) (now : Time) :
    (c.detectAndHandleLoss idx now).control = c.control := by
  simp only [detectAndHandleLoss]
  split
  · rfl
  · rw [logAll_control, onPacketsLost_control, foldl_kept (onFrameLost_control · idx)]
    rfl

end Connection

/-- After loss handling the information of a control frame is pending if and only if it was
pending before, whatever the lost packets carried. -/
theorem pending_detectAndHandleLoss_iff (c : Connection P) (idx : SpaceKind) (now : Time)
    (info : ControlInfo) : (c.detectAndHandleLoss idx now).Pending info ↔ c.Pending info :=
  Connection.pending_iff_of_control (c.detectAndHandleLoss_control idx now) info

/-- A client that fills the windows of its server. -/
def Plain.uploader : Connection Plain := Plain.client [4, 1, 4, 6, 1, 4, 8, 1, 2]

/-- A server with windows of four bytes, to which its client grants a stream. -/
def Plain.host : Connection Plain :=
  server uploader [4, 1, 60, 6, 1, 50, 9, 1, 2]
    { initialMaxData := 4, initialMaxStreamDataBidiRemote := 4, initialMaxStreamsBidi := 2 }

/-- The client's side of the handshake: its three datagrams, and the client then. -/
def Plain.uploads : Bytes × Bytes × Bytes × Connection Plain :=
  let hello := uploader.pollTransmit 5 []
  let answer := (host.run [.handleDatagram 5 hello.2.1]).pollTransmit 6 []
  let client := hello.1.run
    [.handleDatagram 7 answer.2.1, .openBidi, .sendStream 0 [1, 2, 3, 4] false]
  let flight := client.pollTransmit 8 []
  let data := flight.1.pollTransmit 8 []
  (hello.2.1, flight.2.1, data.2.1, data.1)

/-- The server completes the handshake, reads what the client sent, resets the stream, asks the
client to stop, and validates its path. -/
def Plain.hostSends : List Op :=
  [.handleDatagram 5 uploads.1, .pollTransmit 6 [],
    .handleDatagram 9 uploads.2.1, .handleDatagram 9 uploads.2.2.1,
    .readStream 0, .resetStream 0 7, .stopSending 0 9, .initiatePathChallenge,
    .pollTransmit 10 []]

/-- Three further packets, of which the last arrives and is acknowledged. -/
def Plain.hostLoses : List Op :=
  let further : List Op :=
    [.openUni, .sendStream 3 [1] false, .pollTransmit 11 [], .sendStream 3 [2] false,
      .pollTransmit 12 [], .sendStream 3 [3] false]
  let last := (host.run (hostSends ++ further)).pollTransmit 13 []
  let ack := (uploads.2.2.2.run [.handleDatagram 14 last.2.1]).pollTransmit 15 []
  further ++ [.pollTransmit 13 [], .handleDatagram 16 ack.2.1]

def Plain.hostInfos : List ControlInfo :=
  [.maxData 8, .maxStreamData 0 8, .resetStream 0 7 0, .stopSending 0 9, .handshakeDone,
    .pathChallenge [106, 106, 106, 106, 106, 106, 106, 106]]

/-- A server sends all six kinds of control frame in packet 0.  The packet is declared lost.
Nothing of it is pending then, and the packets the server goes on to send repeat none of the
six. -/
theorem control_frames_stay_lost : host.Fresh ∧
    ((host.run hostSends).sentPackets.application.sent.keys = [0] ∧
      ∀ info ∈ hostInfos,
        (sentFrames (host.run hostSends).trace).countP (·.tells info) = 1) ∧
    ((host.run (hostSends ++ hostLoses)).trace.any fun
      | .lost .application p => p.packetNumber == 0
      | _ => false) = true ∧ (∀ info ∈ hostInfos,
      ¬ (host.run (hostSends ++ hostLoses)).Pending info) ∧
    ∀ info ∈ hostInfos, (sentFrames (host.run (hostSends ++ hostLoses ++
      [.pollTransmit 17 [], .pollTransmit 18 [], .pollTransmit 19 []])).trace).countP
        (·.tells info) = 1 :=
  ⟨server_fresh _ _ _, by decide +kernel, by decide +kernel, by decide +kernel,
    by decide +kernel⟩

end OxiQuic
