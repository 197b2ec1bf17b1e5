import OxiQuic.Connection.Tenure
import OxiQuic.PlainPlatform

/-!
# The peer's transport parameters

When TLS has finished, the connection decodes the transport parameters that TLS has of the peer.
It keeps what can be decoded, and is established whether or not there is anything to keep.  Nobody
calls `validate`, so that what is known of the peer while a connection is established is what the
peer has sent, in range or not.
-/

namespace OxiQuic

open Lib Plain

variable {P : Platform}

/-- The ranges that the protocol permits. -/
structure TransportParams.InRange (p : TransportParams) : Prop where
  maxUdpPayloadSize : 1200 ≤ p.maxUdpPayloadSize
  ackDelayExponent : p.ackDelayExponent ≤ 20
  maxAckDelay : p.maxAckDelayMs < 2 ^ 14
  activeConnectionIdLimit : 2 ≤ p.activeConnectionIdLimit

theorem TransportParams.validate_ok_iff (p : TransportParams) :
    p.validate = .ok () ↔ p.InRange := by
  constructor
  · intro h
    simp only [validate] at h
    split at h
    · cases h
    split at h
    · cases h
    split at h
    · cases h
    split at h
    · cases h
    · exact ⟨by omega, by omega, by omega, by omega⟩
  · rintro ⟨hpayload, hexponent, hdelay, hlimit⟩
    simp only [validate]
    rw [if_neg (by omega), if_neg (by omega), if_neg (by omega), if_neg (by omega)]

/-- After the handshake TLS stays done, and says the same of the peer's parameters. -/
structure Platform.KeepsParameters (P : Platform) : Prop where
  writeHs : ∀ s, P.isHandshaking s = false → P.isHandshaking (P.writeHs s).1 = false ∧
    P.quicTransportParameters (P.writeHs s).1 = P.quicTransportParameters s
  readHs : ∀ s bytes, P.isHandshaking s = false → P.isHandshaking (P.readHs s bytes).1 = false ∧
    P.quicTransportParameters (P.readHs s bytes).1 = P.quicTransportParameters s

/-- What TLS has of the peer's parameters can be decoded and is in range. -/
def Platform.Acceptable (P : Platform) (s : P.Session) : Prop :=
  ∃ raw p, P.quicTransportParameters s = some raw ∧ decodeTransportParams raw = .ok p ∧
    p.validate = .ok ()

namespace Tenure

theorem learned_eq_some_iff (s : P.Session) (p : TransportParams) :
    learned s = some p ↔
      ∃ raw, P.quicTransportParameters s = some raw ∧ decodeTransportParams raw = .ok p := by
  simp only [learned]
  cases P.quicTransportParameters s with
  | none =>
    refine iff_of_false (fun h => (by cases h)) ?_
    rintro ⟨raw, hraw, -⟩
    cases hraw
  | some raw =>
    simp only [Option.some.injEq, exists_eq_left']
    cases decodeTransportParams raw with
    | ok | error => simp [Except.toOption]

/-- What is known of the peer was learned from TLS when it had finished. -/
structure Informed (t : Tenure P) : Prop where
  established : t.state = .established → t.complete = true
  unknown : t.complete = false → t.peerParams = none
  known : t.complete = true → P.isHandshaking t.tls = false ∧ t.peerParams = learned t.tls

theorem learned_congr {s s' : P.Session}
    (h : P.quicTransportParameters s' = P.quicTransportParameters s) : learned s' = learned s := by
  simp only [learned, h]

theorem Step.informed (htls : P.KeepsParameters) {op : Op} {t t' : Tenure P} (h : t.Informed)
    (hstep : Step op t t') : t'.Informed := by
  cases hstep with
  | write =>
    refine ⟨h.established, h.unknown, fun hcomplete => ?_⟩
    obtain ⟨hdone, hparams⟩ := h.known hcomplete
    obtain ⟨hdone', hsame⟩ := htls.writeHs t.tls hdone
    exact ⟨hdone', hparams.trans (learned_congr hsame).symm⟩
  | read _ _ _ bytes =>
    refine ⟨h.established, h.unknown, fun hcomplete => ?_⟩
    obtain ⟨hdone, hparams⟩ := h.known hcomplete
    obtain ⟨hdone', hsame⟩ := htls.readHs t.tls bytes hdone
    exact ⟨hdone', hparams.trans (learned_congr hsame).symm⟩
  | finish _ _ hopen hdone =>
    refine ⟨fun _ => rfl, fun hcomplete => (by cases hcomplete), fun _ => ⟨hdone, ?_⟩⟩
    show t.peerParams.or (learned t.tls) = learned t.tls
    rw [h.unknown hopen, Option.none_or]
  | sentTransport | sent | arrive | wrote => exact ⟨h.established, h.unknown, h.known⟩
  | _ => exact ⟨fun hstate => (by cases hstate), h.unknown, h.known⟩

end Tenure

namespace Connection

theorem Fresh.run_informed {c : Connection P} (hfresh : c.Fresh) (htls : P.KeepsParameters)
    (ops : List Op) : (c.run ops).tenure.Informed := by
  refine run_invariant (I := fun d : Connection P => d.tenure.Informed) ?_ ops ?_
  · exact fun d op hd => (step_updates d op).tenure (fun ht hstep => hstep.informed htls ht) hd
  · cases hfresh <;>
      exact ⟨fun h => (by cases h), fun _ => rfl, fun h => (by cases h)⟩

/-- An established connection knows parameters of the peer that are in range. -/
def Checked (c : Connection P) : Prop :=
  c.state = .established → ∃ p, c.hs.peerParams = some p ∧ p.InRange

end Connection

/-- An established connection knows parameters in range exactly if the peer's parameters, as TLS has
them, can be decoded and pass validation. -/
theorem established_params_checked_iff {c : Connection P} (hfresh : c.Fresh)
    (htls : P.KeepsParameters) (ops : List Op) :
    (c.run ops).Checked ↔ ((c.run ops).state = .established → P.Acceptable (c.run ops).tls) := by
  have hinformed := hfresh.run_informed htls ops
  refine forall_congr' fun hstate => ?_
  obtain ⟨-, hparams⟩ := hinformed.known (hinformed.established hstate)
  change (c.run ops).hs.peerParams = Tenure.learned (c.run ops).tls at hparams
  rw [hparams]
  constructor
  · rintro ⟨p, hp, hrange⟩
    obtain ⟨raw, hraw, hdecode⟩ := (Tenure.learned_eq_some_iff _ p).mp hp
    exact ⟨raw, p, hraw, hdecode, p.validate_ok_iff.mpr hrange⟩
  rintro ⟨raw, p, hraw, hdecode, hvalid⟩
  exact ⟨p, (Tenure.learned_eq_some_iff _ p).mpr ⟨raw, hraw, hdecode⟩,
    p.validate_ok_iff.mp hvalid⟩

namespace Plain

theorem keepsParameters : Plain.KeepsParameters where
  writeHs s hdone := by
    obtain ⟨role, stage, params⟩ := s
    cases stage with
    | done => cases role <;> exact ⟨rfl, rfl⟩
    | _ => cases hdone
  readHs s bytes hdone := by
    obtain ⟨role, stage, params⟩ := s
    cases stage with
    | done => cases role <;> exact ⟨rfl, rfl⟩
    | _ => cases hdone

end Plain

theorem established_params_checked_joins : ((client []).run (joins (client []))).Checked := by
  refine (established_params_checked_iff (client_fresh []) keepsParameters _).mpr ?_
  refine fun _ => ⟨[], {}, ?_, ?_, ?_⟩
  · decide +kernel
  · decide +kernel
  · decide +kernel

namespace Plain

/-- The calls by which a client connects to a server with the given parameters. -/
def acquainted (peerParams : Bytes) : Connection Plain :=
  (client peerParams).run (joins (client peerParams))

end Plain

/-- Clients are established without an error though the server's `max_udp_payload_size` is 1000, or
its parameters are no parameters at all. -/
theorem established_unchecked :
    ((acquainted [3, 2, 67, 232]).state = .established ∧ (acquainted [3, 2, 67, 232]).hs.peerParams
        = some { maxUdpPayloadSize := 1000 } ∧
      ((client [3, 2, 67, 232]).step (.pollTransmit 0 []) |>.handleDatagram 1
        (answer (client [3, 2, 67, 232]) []).2).2 = .ok ()) ∧
    (acquainted [255]).state = .established ∧ (acquainted [255]).hs.peerParams = none ∧
      ((client [255]).step (.pollTransmit 0 []) |>.handleDatagram 1
        (answer (client [255]) []).2).2 = .ok () := by
  decide +kernel

end OxiQuic
