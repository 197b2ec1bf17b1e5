import OxiQuic.Congestion.Window
import OxiQuic.Lib.Run

/-!
# The growth of the window
-/

namespace OxiQuic

open Lib

/-- The window after `bytes` are acknowledged in congestion avoidance: a datagram more for each
window of bytes. -/
def avoidanceGrowth (maxDatagram window bytes : Nat) : Nat := window + maxDatagram * bytes / window

namespace NewReno

theorem onPacketAcked_avoidance {c : NewReno} {bytes : Nat} {sentTime : Time}
    (havoid : c.ssthresh ≤ c.congestionWindow)
    (hafter : inRecovery c.recoveryStartTime sentTime = false)
    (hshare : 0 < c.maxDatagram * bytes / c.congestionWindow) :
    c.onPacketAcked bytes sentTime =
      { c with
        bytesInFlight := c.bytesInFlight - bytes
        congestionWindow := avoidanceGrowth c.maxDatagram c.congestionWindow bytes } := by
  simp only [onPacketAcked, hafter, if_neg (Nat.not_lt.mpr havoid), Nat.max_eq_left hshare]
  rfl

theorem avoidanceGrowth_mul_le {maxDatagram window bytes start : Nat} (h : start ≤ window) :
    avoidanceGrowth maxDatagram window bytes * start ≤
      window * start + maxDatagram * bytes := by
  have hshare : maxDatagram * bytes / window * start ≤ maxDatagram * bytes :=
    (Nat.mul_le_mul_left _ h).trans (Nat.div_mul_le_self ..)
  rw [avoidanceGrowth, Nat.add_mul]
  exact Nat.add_le_add_left hshare _

/-- Where no share is rounded up, the window times its start grows by at most a datagram for each
byte acknowledged. -/
theorem onPacketsAcked_mul_le {start : Nat} (acked : List (Nat × Time)) {c : NewReno}
    (hstart : start ≤ c.congestionWindow) (havoid : c.ssthresh ≤ c.congestionWindow)
    (hafter : ∀ a ∈ acked, inRecovery c.recoveryStartTime a.2 = false)
    (hshare : Along (avoidanceGrowth c.maxDatagram)
      (fun window bytes => 0 < c.maxDatagram * bytes / window) c.congestionWindow
      (acked.map (·.1))) :
    (c.onPacketsAcked acked).congestionWindow * start ≤
      c.congestionWindow * start + c.maxDatagram * (acked.map (·.1)).sum := by
  induction acked generalizing c with
  | nil => exact Nat.le_add_right ..
  | cons a rest ih =>
    obtain ⟨hfirst, hrest⟩ := List.forall_mem_cons.mp hafter
    have hgrows : c.congestionWindow ≤ avoidanceGrowth c.maxDatagram c.congestionWindow a.1 :=
      Nat.le_add_right ..
    have hlater := @ih (c.onPacketAcked a.1 a.2)
    rw [onPacketAcked_avoidance havoid hfirst hshare.1] at hlater
    change ((c.onPacketAcked a.1 a.2).onPacketsAcked rest).congestionWindow * start ≤ _
    rw [onPacketAcked_avoidance havoid hfirst hshare.1, List.map_cons, List.sum_cons, Nat.mul_add,
      ← Nat.add_assoc]
    exact (hlater (hstart.trans hgrows) (havoid.trans hgrows) hrest hshare.2).trans
      (Nat.add_le_add_right (avoidanceGrowth_mul_le hstart) _)

/-- In congestion avoidance a window of acknowledged bytes raises the window by at most a datagram,
if no packet's share is rounded up to a byte. -/
theorem onPacketsAcked_avoidance_le (c : NewReno) (acked : List (Nat × Time))
    (havoid : c.ssthresh ≤ c.congestionWindow)
    (hafter : ∀ a ∈ acked, inRecovery c.recoveryStartTime a.2 = false)
    (hsum : (acked.map (·.1)).sum ≤ c.congestionWindow)
    (hshare : Along (avoidanceGrowth c.maxDatagram)
      (fun window bytes => 0 < c.maxDatagram * bytes / window) c.congestionWindow
      (acked.map (·.1))) :
    (c.onPacketsAcked acked).congestionWindow ≤ c.congestionWindow + c.maxDatagram := by
  have hmul := onPacketsAcked_mul_le acked (Nat.le_refl _) havoid hafter hshare
  rcases Nat.eq_zero_or_pos c.congestionWindow with hzero | hpos
  · -- An empty window has no shares, so no packet either.
    cases acked with
    | nil => exact Nat.le_add_right ..
    | cons a rest =>
      have hnone := hshare.1
      rw [hzero, Nat.div_zero] at hnone
      exact absurd hnone (Nat.lt_irrefl 0)
  · refine Nat.le_of_mul_le_mul_right (hmul.trans ?_) hpos
    rw [Nat.add_mul]
    exact Nat.add_le_add_left (Nat.mul_le_mul_left _ hsum) _

theorem onPacketsAcked_avoidance_le_ten :
    let c : NewReno := { ssthresh := 12000 }
    let acked : List (Nat × Time) := List.replicate 10 (1200, 0)
    (c.onPacketsAcked acked).congestionWindow ≤ c.congestionWindow + c.maxDatagram ∧
      (c.onPacketsAcked acked).congestionWindow = 13146 :=
  ⟨onPacketsAcked_avoidance_le _ _ (by decide) (by decide) (by decide) (by decide), by decide⟩

set_option maxRecDepth 20000 in
/-- Packets of one byte raise a window of 12000 bytes by a byte each. -/
theorem onPacketsAcked_avoidance_above :
    let c : NewReno := { ssthresh := 12000 }
    let acked : List (Nat × Time) := List.replicate 1201 (1, 0)
    c.ssthresh ≤ c.congestionWindow ∧
      (∀ a ∈ acked, inRecovery c.recoveryStartTime a.2 = false) ∧
      (acked.map (·.1)).sum ≤ c.congestionWindow ∧
      c.congestionWindow + c.maxDatagram < (c.onPacketsAcked acked).congestionWindow := by
  decide +kernel

end NewReno

end OxiQuic
