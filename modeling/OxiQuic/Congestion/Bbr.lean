import OxiQuic.Congestion.Window
import OxiQuic.Recovery.SentPacket

/-!
# BBR

The model-based controller (`oxiquic-transport/src/bbr.rs`): a delivery-rate estimator, a
windowed maximum over round trips, and the states `Startup`, `Drain`, `ProbeBW` and
`ProbeRTT`.
-/

namespace OxiQuic

/-- Seconds as a floating-point number. -/
def asSecs {F : Type} [F64 F] (t : Time) : F := F64.lit t 1000000000

/-! ## Delivery rate -/

structure DeliveryRateEstimator where
  delivered : Nat := 0
  deliveredTime : Time
  firstSentTime : Time
  appLimited : Bool := false
  appLimitedUntil : Nat := 0
  deriving DecidableEq, Repr

namespace DeliveryRateEstimator

def new (now : Time) : DeliveryRateEstimator := { deliveredTime := now, firstSentTime := now }

def onPacketSent (e : DeliveryRateEstimator) (pktSize : Nat) (now : Time) :
    DeliveryRateEstimator × RateSample :=
  let e := if e.firstSentTime = e.deliveredTime then { e with firstSentTime := now } else e
  (e, { delivered := e.delivered, deliveredTime := e.deliveredTime
        firstSentTime := e.firstSentTime, isAppLimited := e.appLimited
        sentTime := now, size := pktSize })

/-- The sample sent first; the first of several. -/
def oldestSample : List RateSample → Option RateSample
  | [] => none
  | s :: rest =>
    match oldestSample rest with
    | some o => some (if o.sentTime < s.sentTime then o else s)
    | none => some s

def onPacketsAcked {F : Type} [F64 F] (e : DeliveryRateEstimator) (samples : List RateSample)
    (ackedBytes : Nat) (now : Time) : DeliveryRateEstimator × Option F :=
  let e := { e with delivered := e.delivered + ackedBytes, deliveredTime := now }
  match oldestSample samples with
  | none => (e, none)
  | some oldest =>
    if oldest.isAppLimited then (e, none)
    else
      let deliveredDelta := e.delivered - oldest.delivered
      let elapsed : F :=
        F64.max (asSecs (now - oldest.deliveredTime)) (asSecs (now - oldest.firstSentTime))
      if F64.le elapsed (F64.lit 0 1) || deliveredDelta = 0 then (e, none)
      else if samples.any fun s => decide (0 < s.size) then
        (e, some (F64.div (F64.lit deliveredDelta 1) elapsed))
      else (e, none)

def checkAppLimited (e : DeliveryRateEstimator) : DeliveryRateEstimator :=
  if e.appLimited && e.appLimitedUntil ≤ e.delivered then { e with appLimited := false } else e

end DeliveryRateEstimator

/-! ## Windowed maximum -/

/-- The three best values and the rounds they were seen in. -/
structure WindowedMaxFilter (F : Type) where
  first : F × Nat
  second : F × Nat
  third : F × Nat

namespace WindowedMaxFilter

variable {F : Type} [F64 F]

def new : WindowedMaxFilter F := ⟨(F64.lit 0 1, 0), (F64.lit 0 1, 0), (F64.lit 0 1, 0)⟩

def get (w : WindowedMaxFilter F) : F := w.first.1

def update (w : WindowedMaxFilter F) (value : F) (roundCount winLen : Nat) :
    WindowedMaxFilter F :=
  let v := (value, roundCount)
  if F64.le w.first.1 value || winLen ≤ roundCount - w.third.2 then ⟨v, v, v⟩
  else
    let w : WindowedMaxFilter F :=
      if F64.le w.second.1 value then ⟨w.first, v, v⟩
      else if F64.le w.third.1 value then ⟨w.first, w.second, v⟩
      else w
    if winLen ≤ roundCount - w.first.2 then ⟨w.second, w.third, v⟩
    else if winLen ≤ roundCount - w.second.2 then ⟨w.first, w.third, v⟩
    else w

end WindowedMaxFilter

/-! ## The controller -/

inductive BbrState where
  | startup
  | drain
  | probeBW (cycleIndex : Nat)
  | probeRTT (probeRttStart : Time) (minRttExpired : Bool)
  deriving DecidableEq, Repr

structure Bbr (F : Type) where
  maxDatagram : Nat
  state : BbrState
  btlBw : F
  bwFilter : WindowedMaxFilter F
  /-- The minimum round-trip time, unset before the first sample. -/
  rtProp : Option Time
  rtPropStamp : Time
  pacingGain : F
  cwndGain : F
  congestionWindow : Nat
  bytesInFlight : Nat
  roundCount : Nat
  roundStart : Bool
  nextRoundDelivered : Nat
  delivered : Nat
  rateEstimator : DeliveryRateEstimator
  filledPipe : Bool
  fullBw : F
  fullBwCount : Nat
  cycleStamp : Time
  cycleIndex : Nat
  probeRttDoneStamp : Option Time
  probeRttRoundDone : Bool
  priorCwnd : Nat
  idleRestart : Bool
  bwHi : F
  inflightHi : Nat
  inflightLo : Nat
  recoveryStartTime : Option Time

namespace Bbr

variable {F : Type} [F64 F]

def highGain : F := F64.lit 2885390081777927 1000000000000000

def cycleLen : Nat := 8

/-- The pacing gains of the `ProbeBW` cycle. -/
def probeBwGain : Nat → F
  | 0 => F64.lit 5 4
  | 1 => F64.lit 3 4
  | _ => F64.lit 1 1

def probeRttDuration : Time := millis 200

def rtPropFilterLen : Time := millis 10000

def minPipeCwndPackets : Nat := 4

def bwWindowRounds : Nat := 10

def new (now : Time) : Bbr F where
  maxDatagram := maxDatagramSize
  state := .startup
  btlBw := F64.lit 0 1
  bwFilter := .new
  rtProp := none
  rtPropStamp := now
  pacingGain := highGain
  cwndGain := F64.lit 2 1
  congestionWindow := initialWindow maxDatagramSize
  bytesInFlight := 0
  roundCount := 0
  roundStart := false
  nextRoundDelivered := 0
  delivered := 0
  rateEstimator := .new now
  filledPipe := false
  fullBw := F64.lit 0 1
  fullBwCount := 0
  cycleStamp := now
  cycleIndex := 0
  probeRttDoneStamp := none
  probeRttRoundDone := false
  priorCwnd := initialWindow maxDatagramSize
  idleRestart := false
  bwHi := F64.infinity
  inflightHi := u64Max
  inflightLo := 0
  recoveryStartTime := none

def canSend (b : Bbr F) (bytes : Nat) : Bool :=
  decide (b.bytesInFlight + bytes ≤ b.congestionWindow)

def onPacketSent (b : Bbr F) (bytes : Nat) (now : Time) : Bbr F × RateSample :=
  let sample := b.rateEstimator.onPacketSent bytes now
  ({ b with
      idleRestart := decide (b.bytesInFlight = 0)
      bytesInFlight := b.bytesInFlight + bytes
      rateEstimator := sample.1 }, sample.2)

/-- The minimum round-trip time, or a guess before the first sample. -/
def rtPropOrDefault (b : Bbr F) : Time := b.rtProp.getD (millis 100)

/-- The bandwidth-delay product. -/
def bdp (b : Bbr F) : Nat :=
  F64.toU64 (F64.max (F64.mul b.btlBw (asSecs b.rtPropOrDefault)) (F64.lit 0 1))

def inflightLimit (b : Bbr F) : Nat :=
  let modelLimit := F64.toU64
    (F64.max (F64.mul (F64.mul b.cwndGain b.btlBw) (asSecs b.rtPropOrDefault)) (F64.lit 0 1))
  max (min modelLimit b.inflightHi) b.inflightLo

def minPipeCwnd (b : Bbr F) : Nat := minPipeCwndPackets * b.maxDatagram

def setCwnd (b : Bbr F) : Bbr F :=
  match b.state with
  | .probeRTT .. => { b with congestionWindow := b.minPipeCwnd }
  | _ =>
    { b with
      congestionWindow :=
        if F64.le b.btlBw (F64.lit 0 1) then initialWindow b.maxDatagram
        else max b.inflightLimit b.minPipeCwnd }

/-- A smaller round-trip time than any before. -/
def updateRtProp (b : Bbr F) (latest : Option Time) (now : Time) : Bbr F :=
  match latest with
  | none => b
  | some latest =>
    let rttSample := now - latest
    let smaller := match b.rtProp with
      | some r => decide (rttSample < r)
      | none => true
    if smaller then { b with rtProp := some rttSample, rtPropStamp := now } else b

def updateRoundCount (b : Bbr F) : Bbr F :=
  if b.nextRoundDelivered ≤ b.delivered then
    { b with
      nextRoundDelivered := b.delivered, roundCount := b.roundCount + 1, roundStart := true }
  else { b with roundStart := false }

/-- Take in a bandwidth sample. -/
def updateBtlBw (b : Bbr F) (sample : Option F) : Bbr F :=
  match sample with
  | none => b
  | some bw =>
    if F64.lt (F64.lit 0 1) bw then
      let b := { b with bwFilter := b.bwFilter.update bw b.roundCount bwWindowRounds }
      let newBtlBw := F64.min b.bwFilter.get b.bwHi
      if F64.lt b.btlBw newBtlBw then { b with btlBw := newBtlBw } else b
    else b

def checkStartupFullPipe (b : Bbr F) : Bbr F :=
  if F64.le (F64.mul b.fullBw (F64.lit 5 4)) b.btlBw then
    { b with fullBw := b.btlBw, fullBwCount := 0 }
  else
    let count := b.fullBwCount + 1
    { b with fullBwCount := count, filledPipe := b.filledPipe || decide (3 ≤ count) }

def enterStartup (b : Bbr F) : Bbr F :=
  { b with state := .startup, pacingGain := highGain, cwndGain := F64.lit 2 1 }

def enterDrain (b : Bbr F) : Bbr F :=
  { b with
    state := .drain, pacingGain := F64.div (F64.lit 1 1) highGain, cwndGain := F64.lit 1 1 }

def enterProbeBw (b : Bbr F) (now : Time) : Bbr F :=
  { b with
    state := .probeBW 1, cycleIndex := 1, pacingGain := probeBwGain 1
    cwndGain := F64.lit 2 1, cycleStamp := now }

def enterProbeRtt (b : Bbr F) (now : Time) : Bbr F :=
  { b with
    priorCwnd := b.congestionWindow, state := .probeRTT now true
    pacingGain := F64.lit 1 1, cwndGain := F64.lit 1 1
    probeRttDoneStamp := none, probeRttRoundDone := false }

def advanceCyclePhase (b : Bbr F) (now : Time) : Bbr F :=
  if b.rtPropOrDefault ≤ now - b.cycleStamp then
    let index := (b.cycleIndex + 1) % cycleLen
    { b with
      cycleIndex := index, cycleStamp := now, pacingGain := probeBwGain index
      state := .probeBW index }
  else b

def handleProbeRtt (b : Bbr F) (now : Time) : Bbr F :=
  let b := { b with rtPropStamp := now }
  if b.probeRttDoneStamp.isNone && b.bytesInFlight ≤ b.minPipeCwnd then
    { b with
      probeRttDoneStamp := some (now + probeRttDuration), probeRttRoundDone := false
      nextRoundDelivered := b.delivered }
  else
    match b.probeRttDoneStamp with
    | none => b
    | some done =>
      let b := if b.roundStart then { b with probeRttRoundDone := true } else b
      if b.probeRttRoundDone && done ≤ now then
        let b := { b with rtPropStamp := now, congestionWindow := b.priorCwnd }
        if b.filledPipe then b.enterProbeBw now else b.enterStartup
      else b

def updateState (b : Bbr F) (now : Time) (probeRttTrigger : Bool) : Bbr F :=
  match b.state with
  | .startup => if b.filledPipe then b.enterDrain else b
  | .drain => if b.bytesInFlight ≤ b.bdp then b.enterProbeBw now else b
  | .probeBW _ => if probeRttTrigger then b.enterProbeRtt now else b.advanceCyclePhase now
  | .probeRTT .. => b.handleProbeRtt now

/-- Whether the minimum round-trip time is due for a new probe. -/
def probeRttDue (b : Bbr F) (now : Time) : Bool :=
  match b.state with
  | .probeRTT .. => false
  | _ => decide (rtPropFilterLen ≤ now - b.rtPropStamp)

def latestSent (acked : List (Nat × Time × RateSample)) : Option Time :=
  largestOf (acked.map fun a => a.2.1)

def onPacketsAcked (b : Bbr F) (acked : List (Nat × Time × RateSample)) (now : Time) : Bbr F :=
  let ackedBytes := (acked.map (·.1)).sum
  let rate := b.rateEstimator.checkAppLimited.onPacketsAcked (acked.map (·.2.2)) ackedBytes now
  let b := { b with
    bytesInFlight := b.bytesInFlight - ackedBytes
    delivered := b.delivered + ackedBytes
    rateEstimator := rate.1 }
  let b := ((b.updateRtProp (latestSent acked) now).updateRoundCount).updateBtlBw rate.2
  let b := if !b.filledPipe && b.roundStart then b.checkStartupFullPipe else b
  (b.updateState now (b.probeRttDue now)).setCwnd

def onPacketsLost (b : Bbr F) (lostBytes : Nat) (largestLostSentTime now : Time) : Bbr F :=
  let inflightAtLoss := b.bytesInFlight + lostBytes
  let b := { b with bytesInFlight := b.bytesInFlight - lostBytes }
  if inRecovery b.recoveryStartTime largestLostSentTime then b
  else
    { b with
      recoveryStartTime := some now
      inflightHi := max (inflightAtLoss * 7 / 10) b.bdp
      bwHi := if F64.lt (F64.lit 0 1) b.btlBw then b.btlBw else b.bwHi }.setCwnd

end Bbr

end OxiQuic
