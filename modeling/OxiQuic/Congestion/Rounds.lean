import OxiQuic.Congestion.Controller
import OxiQuic.Lib.Run

/-!
# The round trips of BBR

`Bbr::update_round_count` ends a round when the bytes delivered reach `next_round_delivered`,
which is never ahead of them.
-/

namespace OxiQuic

open Lib

namespace Bbr

variable {F : Type} [F64 F]

/-- A packet is sent, or packets are acknowledged, by their places among those sent. -/
inductive Call where
  | sent (bytes : Nat) (now : Time)
  | acked (places : List Nat) (now : Time)

/-- A controller, the packets sent through it, how many were when the round count last went up, and
whether one sent after that was acknowledged since. -/
structure Rounds (F : Type) where
  bbr : Bbr F
  packets : List (Nat × Time × RateSample) := []
  last : Nat := 0
  renewed : Bool := true

namespace Rounds

def renews (r : Rounds F) (places : List Nat) : Bool :=
  r.renewed || places.any fun n => decide (r.last ≤ n ∧ n < r.packets.length)

def call (r : Rounds F) : Call → Rounds F
  | .sent bytes now =>
    let sent := r.bbr.onPacketSent bytes now
    { r with bbr := sent.1, packets := r.packets ++ [(bytes, now, sent.2)] }
  | .acked places now =>
    let bbr := r.bbr.onPacketsAcked (places.filterMap (r.packets[·]?)) now
    if r.bbr.roundCount < bbr.roundCount then
      { r with bbr := bbr, last := r.packets.length, renewed := false }
    else { r with bbr := bbr, renewed := r.renews places }

/-- If the round count goes up, a packet sent after it last did was acknowledged. -/
def CountsTrips (r : Rounds F) (call : Call) : Prop :=
  r.bbr.roundCount < (r.call call).bbr.roundCount →
    ∃ places now, call = .acked places now ∧ r.renews places = true

end Rounds

/-- Every acknowledgement but the first is of a packet sent after the acknowledgement before.  So
far `sent` packets were sent, `last` of them before the last acknowledgement. -/
def Renewing : Nat → Nat → Bool → List Call → Prop
  | _, _, _, [] => True
  | sent, last, first, .sent .. :: calls => Renewing (sent + 1) last first calls
  | sent, last, first, .acked places _ :: calls =>
    (first = true ∨ ∃ n ∈ places, last ≤ n ∧ n < sent) ∧ Renewing sent sent false calls

theorem countsTrips_iff (calls : List Call) (r : Rounds F)
    (h : r.bbr.nextRoundDelivered ≤ r.bbr.delivered) :
    Along Rounds.call Rounds.CountsTrips r calls ↔
      Renewing r.packets.length r.last r.renewed calls := by
  induction calls generalizing r with
  | nil => exact Iff.rfl
  | cons call calls ih =>
    cases call with
    | sent bytes now =>
      have hrest := ih (r.call (.sent bytes now)) h
      rw [Rounds.call, List.length_append] at hrest
      exact (and_iff_right fun hless => absurd hless (Nat.lt_irrefl _)).trans hrest
    | acked places now =>
      obtain ⟨hcount, hended⟩ := (onPacketsAcked_counts r.bbr now
        (places.filterMap (r.packets[·]?))).rounds (h.trans (Nat.le_add_right ..))
      have hless : r.bbr.roundCount < (r.bbr.onPacketsAcked
          (places.filterMap (r.packets[·]?)) now).roundCount := hcount ▸ Nat.lt_succ_self _
      have hcall : r.call (.acked places now) = { r with
          bbr := r.bbr.onPacketsAcked (places.filterMap (r.packets[·]?)) now
          last := r.packets.length, renewed := false } := if_pos hless
      have hrest := ih (r.call (.acked places now))
      rw [hcall] at hrest
      rw [Along, Renewing, hcall, hrest hended]
      refine and_congr_left' ?_
      simp [Rounds.CountsTrips, hcall, hless, Rounds.renews]

/-- The round count goes up by round trips exactly if every acknowledgement but the first is of a
packet sent after the one before. -/
theorem rounds_count_trips_iff (now : Time) (calls : List Call) :
    Along Rounds.call Rounds.CountsTrips { bbr := (new now : Bbr F) } calls ↔
      Renewing 0 0 true calls :=
  countsTrips_iff calls { bbr := new now } (Nat.le_refl _)

/-- One flight of two packets, acknowledged one by one, counts as two rounds. -/
theorem rounds_count_acknowledgements :
    ¬ Along Rounds.call Rounds.CountsTrips { bbr := (new 0 : Bbr Float) }
      [.sent 1200 0, .sent 1200 0, .acked [0] 9, .acked [1] 9] := by
  rw [countsTrips_iff _ _ (Nat.le_refl _)]
  simp [Renewing]

end Bbr

end OxiQuic
