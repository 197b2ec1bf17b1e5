import OxiQuic.Space

/-!
# Round-trip times and the loss timer

RTT estimation and the coordination of the loss timers of the three spaces
(`oxiquic-transport/src/recovery.rs`).
-/

namespace OxiQuic

/-- The timer granularity. -/
def kGranularity : Time := millis 1

/-- The round-trip time assumed before the first sample. -/
def kInitialRtt : Time := millis 333

/-- The round-trip time estimate. -/
structure RttEstimator where
  latestRtt : Time := 0
  minRtt : Time := 0
  smoothedRtt : Time := kInitialRtt
  rttvar : Time := kInitialRtt / 2
  haveSample : Bool := false
  deriving DecidableEq, Repr

namespace RttEstimator

/-- Take in a sample.  The acknowledgement delay is capped by the peer's maximum and never
brings the sample below the minimum. -/
def update (r : RttEstimator) (rttSample ackDelay maxAckDelay : Time) : RttEstimator :=
  if r.haveSample then
    let minRtt := min r.minRtt rttSample
    let ackDelay := min ackDelay maxAckDelay
    let adjustedRtt := if minRtt + ackDelay ≤ rttSample then rttSample - ackDelay else rttSample
    let rttvarSample :=
      if adjustedRtt ≤ r.smoothedRtt then r.smoothedRtt - adjustedRtt
      else adjustedRtt - r.smoothedRtt
    { r with
      latestRtt := rttSample
      minRtt := minRtt
      rttvar := (r.rttvar * 3 + rttvarSample) / 4
      smoothedRtt := (r.smoothedRtt * 7 + adjustedRtt) / 8 }
  else
    { latestRtt := rttSample, minRtt := rttSample, smoothedRtt := rttSample
      rttvar := rttSample / 2, haveSample := true }

/-- How long after a later acknowledgement a packet counts as lost. -/
def lossDelay (r : RttEstimator) : Time :=
  max (max r.latestRtt r.smoothedRtt * 9 / 8) kGranularity

/-- The probe timeout before backoff. -/
def ptoBase (r : RttEstimator) (maxAckDelay : Time) : Time :=
  r.smoothedRtt + max (r.rttvar * 4) kGranularity + maxAckDelay

end RttEstimator

/-- Backoff and loss times of the three spaces. -/
structure LossDetection where
  ptoCount : Nat := 0
  lossTime : PerSpace (Option Time) := .const none
  deriving DecidableEq, Repr

namespace LossDetection

def setLossTime (l : LossDetection) (space : SpaceKind) (time : Option Time) : LossDetection :=
  { l with lossTime := l.lossTime.set space time }

/-- The earlier of a best candidate and the loss time of a space; the former on a tie. -/
def better (best : Option (Time × SpaceKind)) (time : Option Time) (space : SpaceKind) :
    Option (Time × SpaceKind) :=
  match time with
  | none => best
  | some t =>
    match best with
    | some (bt, bs) => if bt ≤ t then some (bt, bs) else some (t, space)
    | none => some (t, space)

/-- The earliest loss time and its space. -/
def earliestLossTime (l : LossDetection) : Option (Time × SpaceKind) :=
  better (better (better none l.lossTime.initial .initial) l.lossTime.handshake .handshake)
    l.lossTime.application .application

def resetPtoCount (l : LossDetection) : LossDetection := { l with ptoCount := 0 }

def increasePtoCount (l : LossDetection) : LossDetection :=
  { l with ptoCount := min (l.ptoCount + 1) (2 ^ 32 - 1) }

/-- The probe timeout, doubled for each expiry in a row. -/
def ptoDeadline (l : LossDetection) (earliestSent ptoBase : Time) : Time :=
  earliestSent + ptoBase * 2 ^ min l.ptoCount 20

end LossDetection

end OxiQuic
