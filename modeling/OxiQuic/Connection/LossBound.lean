import OxiQuic.Connection.LedgerMoves
import OxiQuic.PlainPlatform

/-!
# BBR at a loss

Loss handling leaves the lost packets in `bytes_in_flight` until `Bbr::on_packets_lost`, which adds
their bytes to it once more before it takes seven tenths of the sum for the new bound.
-/

namespace OxiQuic

open Lib Plain

variable {P : Platform}

theorem Bbr.onPacketsLost_inflightHi {F : Type} [F64 F] {b : Bbr F} {newest : Time}
    (h : inRecovery b.recoveryStartTime newest = false) (lostBytes : Nat) (now : Time) :
    (b.onPacketsLost lostBytes newest now).inflightHi =
      max ((b.bytesInFlight + lostBytes) * 7 / 10) b.bdp := by
  have hnot : ¬ inRecovery b.recoveryStartTime newest = true := Bool.eq_false_iff.mp h
  simp only [onPacketsLost, if_neg hnot, setCwnd]
  split <;> rfl

namespace Connection

/-- The packets that count and are declared lost in a space. -/
def lostInFlight (c : Connection P) (idx : SpaceKind) (now : Time) : List SentPacket :=
  ((c.sentPackets.get idx).detectLost now c.recovery.rtt.lossDelay).2.1.filter (·.inFlight)

theorem onFrameLost_congestion (c : Connection P) (idx : SpaceKind) (frame : SentFrame) :
    (c.onFrameLost idx frame).congestion = c.congestion := by
  cases frame with
  | crypto | newToken =>
    simp only [onFrameLost, requeueFrame]
    split <;> rfl
  | _ => rfl

theorem onPacketsLost_bbr {c : Connection P} {b : Bbr P.Real} (h : c.congestion = .bbr b)
    {lost : List SentPacket} {newest : Time}
    (hnewest : largestOf ((lost.filter (·.inFlight)).map (·.timeSent)) = some newest) (now : Time) :
    (c.onPacketsLost lost now).congestion = .bbr (b.onPacketsLost
      ((lost.filter (·.inFlight)).map (·.sentBytes)).sum newest now) := by
  have hsome : (lost.filter (·.inFlight)).map (·.timeSent) ≠ [] := by
    intro hnil
    rw [hnil] at hnewest
    cases hnewest
  obtain ⟨_, oldest, -, holdest⟩ := earliestOf_isSome_of_largestOf hsome
  simp only [onPacketsLost, hnewest, holdest, h]
  split <;> rfl

end Connection

/-- On entering recovery BBR bounds what is in flight by seven tenths of what was in flight, or the
bandwidth-delay product, exactly if the lost bytes counted twice do not lead beyond. -/
theorem detectAndHandleLoss_inflightHi_le_iff (c : Connection P) (b : Bbr P.Real)
    (idx : SpaceKind) (now newest : Time)
    (hnewest : largestOf ((c.lostInFlight idx now).map (·.timeSent)) = some newest)
    (hrecovery : inRecovery b.recoveryStartTime newest = false) :
    ∃ b', ({ c with congestion := .bbr b }.detectAndHandleLoss idx now).congestion = .bbr b' ∧
      (b'.inflightHi ≤ max (b.bytesInFlight * 7 / 10) b.bdp ↔
        (b.bytesInFlight + ((c.lostInFlight idx now).map (·.sentBytes)).sum) * 7 / 10 ≤
          max (b.bytesInFlight * 7 / 10) b.bdp) := by
  refine ⟨b.onPacketsLost ((c.lostInFlight idx now).map (·.sentBytes)).sum newest now, ?_, ?_⟩
  · simp only [Connection.detectAndHandleLoss]
    split
    · rename_i hempty
      rw [Connection.lostInFlight, List.isEmpty_iff.mp hempty] at hnewest
      cases hnewest
    · refine Connection.onPacketsLost_bbr ?_ hnewest now
      exact foldl_kept (f := Connection.congestion) (Connection.onFrameLost_congestion · idx) _ _
  · rw [Bbr.onPacketsLost_inflightHi hrecovery, max_le_iff]
    exact and_iff_left (Nat.le_max_right ..)

namespace Plain

/-- A client under BBR that sends its first packet three times. -/
def prober : Connection Plain :=
  Connection.run (.newClient (⟨.client, .writeHello, []⟩ : PlainSession) 1 {} {} .bbr (0 : Nat))
    [.pollTransmit 0 [], .handleTimeout 5000000000, .pollTransmit 5000000000 [],
      .handleTimeout 20000000000, .pollTransmit 20000000000 []]

/-- Whether BBR allows more after a step than seven tenths of what was in flight before and than the
bandwidth-delay product. -/
def boundAbove (c d : Connection Plain) : Bool :=
  match c.congestion, d.congestion with
  | .bbr b, .bbr b' => decide (max (b.bytesInFlight * 7 / 10) b.bdp < b'.inflightHi)
  | _, _ => false

/-- The prober when its last packet is acknowledged. -/
def acked : Connection Plain :=
  { prober with
    sentPackets := prober.sentPackets.set .initial (prober.sentPackets.initial.onAck 2 0 []).1 }

end Plain

theorem detectAndHandleLoss_inflightHi_le_iff_acked :
    let b : Bbr Plain.Real := .new 0
    let now := 21000000000
    ∃ b', ({ acked with congestion := .bbr b }.detectAndHandleLoss .initial now).congestion
        = .bbr b' ∧
      (b'.inflightHi ≤ max (b.bytesInFlight * 7 / 10) b.bdp ↔
        (b.bytesInFlight + ((acked.lostInFlight .initial now).map (·.sentBytes)).sum) * 7 / 10 ≤
          max (b.bytesInFlight * 7 / 10) b.bdp) :=
  detectAndHandleLoss_inflightHi_le_iff acked (.new 0) .initial 21000000000 5000000000
    (by decide +kernel) rfl

/-- Of three packets two are lost and one is acknowledged, and the bound is more than seven tenths
of all three. -/
theorem inflightHi_above :
    boundAbove prober (prober.step (.handleDatagram 21000000000
      (initialPacket prober 0 [.ack 2 0 0 [], .padding 4]))) = true := by
  decide +kernel

end OxiQuic
