import OxiQuic.Congestion.Bbr

/-!
# The congestion controller of a connection

Dispatch over the three algorithms (`oxiquic-transport/src/cc_dispatch.rs`).  However
differently they move their window, they count bytes in flight alike: `bytesInFlight` goes
up by what is sent and down, saturating, by what is acknowledged or lost.
-/

namespace OxiQuic

inductive CongestionAlgorithm where
  | newReno
  | cubic
  | bbr
  deriving DecidableEq, Repr

inductive CongestionController (F : Type) [F64 F] where
  | newReno (nr : NewReno)
  | cubic (c : Cubic F)
  | bbr (b : Bbr F)

/-- What the controller learns of an acknowledged packet. -/
structure AckedPacket where
  bytes : Nat
  sentTime : Time
  rateSample : Option RateSample

namespace CongestionController

variable {F : Type} [F64 F]

def fromConfig (algo : CongestionAlgorithm) (now : Time) : CongestionController F :=
  match algo with
  | .newReno => .newReno {}
  | .cubic => .cubic {}
  | .bbr => .bbr (.new now)

def bytesInFlight : CongestionController F → Nat
  | .newReno nr => nr.bytesInFlight
  | .cubic c => c.bytesInFlight
  | .bbr b => b.bytesInFlight

def canSend (cc : CongestionController F) (bytes : Nat) : Bool :=
  match cc with
  | .newReno nr => nr.canSend bytes
  | .cubic c => c.canSend bytes
  | .bbr b => b.canSend bytes

def onPacketSent (cc : CongestionController F) (bytes : Nat) (now : Time) :
    CongestionController F × Option RateSample :=
  match cc with
  | .bbr b => (.bbr (b.onPacketSent bytes now).1, some (b.onPacketSent bytes now).2)
  | .newReno nr => (.newReno (nr.onPacketSent bytes), none)
  | .cubic c => (.cubic (c.onPacketSent bytes), none)

def onPacketsAcked (cc : CongestionController F) (acked : List AckedPacket) (now : Time) :
    CongestionController F :=
  match cc with
  | .bbr b => .bbr (b.onPacketsAcked
      (acked.map fun a => (a.bytes, a.sentTime, a.rateSample.getD (.sentinel a.sentTime a.bytes)))
      now)
  | .newReno nr => .newReno (nr.onPacketsAcked (acked.map fun a => (a.bytes, a.sentTime)))
  | .cubic c => .cubic (c.onPacketsAcked (acked.map fun a => (a.bytes, a.sentTime)) now)

def onPacketsLost (cc : CongestionController F) (lostBytes : Nat)
    (largestLostSentTime now : Time) : CongestionController F :=
  match cc with
  | .bbr b => .bbr (b.onPacketsLost lostBytes largestLostSentTime now)
  | .newReno nr => .newReno (nr.onPacketsLost lostBytes largestLostSentTime now)
  | .cubic c => .cubic (c.onPacketsLost lostBytes largestLostSentTime now)

/-- BBR has its own response to loss and ignores the event. -/
def onPersistentCongestion : CongestionController F → CongestionController F
  | .bbr b => .bbr b
  | .newReno nr => .newReno nr.onPersistentCongestion
  | .cubic c => .cubic c.onPersistentCongestion

end CongestionController

/-! ## Bytes in flight -/

namespace NewReno

variable (c : NewReno)

theorem onPacketAcked_bytesInFlight (bytes : Nat) (sentTime : Time) :
    (c.onPacketAcked bytes sentTime).bytesInFlight = c.bytesInFlight - bytes := by
  simp only [onPacketAcked]
  split
  · rfl
  · split <;> rfl

theorem onPacketsAcked_bytesInFlight (acked : List (Nat × Time)) :
    (c.onPacketsAcked acked).bytesInFlight = c.bytesInFlight - (acked.map (·.1)).sum := by
  induction acked generalizing c with
  | nil => rfl
  | cons a rest ih =>
    show ((c.onPacketAcked a.1 a.2).onPacketsAcked rest).bytesInFlight = _
    rw [ih, onPacketAcked_bytesInFlight, List.map_cons, List.sum_cons, Nat.sub_sub]

theorem onPacketsLost_bytesInFlight (lostBytes : Nat) (largest now : Time) :
    (c.onPacketsLost lostBytes largest now).bytesInFlight = c.bytesInFlight - lostBytes := by
  simp only [onPacketsLost, onCongestionEvent]
  split <;> rfl

end NewReno

namespace Cubic

variable {F : Type} [F64 F]

variable (c : Cubic F)

theorem startEpoch_bytesInFlight (now : Time) :
    (c.startEpoch now).bytesInFlight = c.bytesInFlight := by
  simp only [startEpoch]
  split <;> rfl

theorem onPacketAcked_bytesInFlight (bytes : Nat) (sentTime now : Time) :
    (c.onPacketAcked bytes sentTime now).bytesInFlight = c.bytesInFlight - bytes := by
  simp only [onPacketAcked]
  split
  · rfl
  split
  · rfl
  · split <;> exact startEpoch_bytesInFlight _ now

theorem onPacketsAcked_bytesInFlight (acked : List (Nat × Time)) (now : Time) :
    (c.onPacketsAcked acked now).bytesInFlight = c.bytesInFlight - (acked.map (·.1)).sum := by
  induction acked generalizing c with
  | nil => rfl
  | cons a rest ih =>
    show ((c.onPacketAcked a.1 a.2 now).onPacketsAcked rest now).bytesInFlight = _
    rw [ih, onPacketAcked_bytesInFlight, List.map_cons, List.sum_cons, Nat.sub_sub]

theorem onPacketsLost_bytesInFlight (lostBytes : Nat) (largest now : Time) :
    (c.onPacketsLost lostBytes largest now).bytesInFlight = c.bytesInFlight - lostBytes := by
  simp only [onPacketsLost]
  split <;> rfl

end Cubic

namespace Bbr

variable {F : Type} (b : Bbr F) (now : Time)

/-- The bytes in flight stay, and a connection whose round has ended counts `n` more rounds and
has ended the last of them. -/
structure Counts (n : Nat) (b b' : Bbr F) : Prop where
  inFlight : b'.bytesInFlight = b.bytesInFlight
  rounds : b.nextRoundDelivered ≤ b.delivered →
    b'.roundCount = b.roundCount + n ∧ b'.nextRoundDelivered ≤ b'.delivered

theorem Counts.trans {m n : Nat} {b b' b'' : Bbr F} (h : Counts m b b') (h' : Counts n b' b'') :
    Counts (m + n) b b'' := by
  refine ⟨h'.inFlight.trans h.inFlight, fun hended => ?_⟩
  obtain ⟨hcount, hended⟩ := h.rounds hended
  obtain ⟨hcount', hended⟩ := h'.rounds hended
  exact ⟨by rw [hcount', hcount, Nat.add_assoc], hended⟩

theorem updateRtProp_counts (latest : Option Time) : Counts 0 b (b.updateRtProp latest now) := by
  cases latest with
  | none => exact ⟨rfl, fun h => ⟨rfl, h⟩⟩
  | some latest =>
    simp only [updateRtProp]
    split <;> split <;> exact ⟨rfl, fun h => ⟨rfl, h⟩⟩

theorem updateRoundCount_counts : Counts 1 b b.updateRoundCount := by
  simp only [updateRoundCount]
  split
  · exact ⟨rfl, fun _ => ⟨rfl, Nat.le_refl _⟩⟩
  · exact ⟨rfl, fun h => absurd h ‹_›⟩

variable [F64 F]

theorem setCwnd_counts : Counts 0 b b.setCwnd := by
  simp only [setCwnd]
  split <;> exact ⟨rfl, fun h => ⟨rfl, h⟩⟩

theorem updateBtlBw_counts (sample : Option F) : Counts 0 b (b.updateBtlBw sample) := by
  cases sample with
  | none => exact ⟨rfl, fun h => ⟨rfl, h⟩⟩
  | some bw =>
    simp only [updateBtlBw]
    split
    · split <;> exact ⟨rfl, fun h => ⟨rfl, h⟩⟩
    · exact ⟨rfl, fun h => ⟨rfl, h⟩⟩

theorem checkStartupFullPipe_counts : Counts 0 b b.checkStartupFullPipe := by
  simp only [checkStartupFullPipe]
  split <;> exact ⟨rfl, fun h => ⟨rfl, h⟩⟩

theorem handleProbeRtt_counts : Counts 0 b (b.handleProbeRtt now) := by
  simp only [handleProbeRtt]
  split
  · exact ⟨rfl, fun _ => ⟨rfl, Nat.le_refl _⟩⟩
  split
  · exact ⟨rfl, fun h => ⟨rfl, h⟩⟩
  · split <;> split <;> first
      | exact ⟨rfl, fun h => ⟨rfl, h⟩⟩
      | (split <;> exact ⟨rfl, fun h => ⟨rfl, h⟩⟩)

theorem updateState_counts (trigger : Bool) : Counts 0 b (b.updateState now trigger) := by
  simp only [updateState]
  split
  case h_1 => split <;> exact ⟨rfl, fun h => ⟨rfl, h⟩⟩
  case h_2 => split <;> exact ⟨rfl, fun h => ⟨rfl, h⟩⟩
  case h_3 =>
      split
      · exact ⟨rfl, fun h => ⟨rfl, h⟩⟩
      · simp only [advanceCyclePhase]
        split <;> exact ⟨rfl, fun h => ⟨rfl, h⟩⟩
  case h_4 => exact handleProbeRtt_counts b now

/-- Every call counts a round, for no round ends later than what is delivered. -/
theorem onPacketsAcked_counts (acked : List (Nat × Time × RateSample)) :
    Counts 1 { b with
      bytesInFlight := b.bytesInFlight - (acked.map (·.1)).sum
      delivered := b.delivered + (acked.map (·.1)).sum } (b.onPacketsAcked acked now) := by
  have hpipe : ∀ b : Bbr F,
      Counts 0 b (if !b.filledPipe && b.roundStart then b.checkStartupFullPipe else b) := by
    intro b
    split
    · exact checkStartupFullPipe_counts b
    · exact ⟨rfl, fun h => ⟨rfl, h⟩⟩
  refine Counts.trans (m := 1) (n := 0) ?_ (setCwnd_counts _)
  refine Counts.trans (m := 1) (n := 0) ?_ (updateState_counts _ now _)
  refine Counts.trans (m := 1) (n := 0) ?_ (hpipe _)
  refine Counts.trans (m := 1) (n := 0) ?_ (updateBtlBw_counts _ _)
  refine Counts.trans (m := 0) (n := 1) ?_ (updateRoundCount_counts _)
  obtain ⟨hflight, hrounds⟩ := updateRtProp_counts { b with
      bytesInFlight := b.bytesInFlight - (acked.map (·.1)).sum
      delivered := b.delivered + (acked.map (·.1)).sum
      rateEstimator := (b.rateEstimator.checkAppLimited.onPacketsAcked (F := F) (acked.map (·.2.2))
        (acked.map (·.1)).sum now).1 } now (latestSent acked)
  exact ⟨hflight, hrounds⟩

theorem onPacketsAcked_bytesInFlight (acked : List (Nat × Time × RateSample)) :
    (b.onPacketsAcked acked now).bytesInFlight = b.bytesInFlight - (acked.map (·.1)).sum :=
  (onPacketsAcked_counts b now acked).inFlight

theorem onPacketsLost_bytesInFlight (lostBytes : Nat) (largest : Time) :
    (b.onPacketsLost lostBytes largest now).bytesInFlight = b.bytesInFlight - lostBytes := by
  simp only [onPacketsLost]
  split
  · rfl
  · exact (setCwnd_counts _).inFlight

end Bbr

namespace CongestionController

variable {F : Type} [F64 F] (cc : CongestionController F) (now : Time)

@[simp] theorem onPacketSent_bytesInFlight (bytes : Nat) :
    (cc.onPacketSent bytes now).1.bytesInFlight = cc.bytesInFlight + bytes := by
  cases cc <;> rfl

@[simp] theorem onPacketsAcked_bytesInFlight (acked : List AckedPacket) :
    (cc.onPacketsAcked acked now).bytesInFlight = cc.bytesInFlight - (acked.map (·.bytes)).sum := by
  cases cc with
  | newReno nr =>
    exact (nr.onPacketsAcked_bytesInFlight _).trans (by rw [List.map_map]; rfl)
  | cubic c =>
    exact (c.onPacketsAcked_bytesInFlight _ now).trans (by rw [List.map_map]; rfl)
  | bbr b =>
    exact (b.onPacketsAcked_bytesInFlight now _).trans (by rw [List.map_map]; rfl)

@[simp] theorem onPacketsLost_bytesInFlight (lostBytes : Nat) (largest : Time) :
    (cc.onPacketsLost lostBytes largest now).bytesInFlight = cc.bytesInFlight - lostBytes := by
  cases cc with
  | newReno nr => exact nr.onPacketsLost_bytesInFlight lostBytes largest now
  | cubic c => exact c.onPacketsLost_bytesInFlight lostBytes largest now
  | bbr b => exact b.onPacketsLost_bytesInFlight now lostBytes largest

@[simp] theorem onPersistentCongestion_bytesInFlight :
    cc.onPersistentCongestion.bytesInFlight = cc.bytesInFlight := by
  cases cc <;> rfl

end CongestionController

end OxiQuic
