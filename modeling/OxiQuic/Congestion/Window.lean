import OxiQuic.Platform

/-!
# Loss-based congestion control

NewReno and CUBIC (`oxiquic-transport/src/congestion.rs`, `cubic.rs`).
-/

namespace OxiQuic

/-- The datagram size congestion control computes with. -/
def maxDatagramSize : Nat := 1200

/-- The largest `u64`, used as an infinite threshold. -/
def u64Max : Nat := 2 ^ 64 - 1

def initialWindow (maxDatagram : Nat) : Nat := min (10 * maxDatagram) (max (2 * maxDatagram) 14720)

def minimumWindow (maxDatagram : Nat) : Nat := 2 * maxDatagram

/-- Whether losses span so long that the window collapses. -/
def isPersistentCongestion (oldestLost newestLost ptoBase : Time) : Bool :=
  decide (ptoBase * 3 < newestLost - oldestLost)

/-- Whether a packet was sent before the current recovery period ended its first loss. -/
def inRecovery (recoveryStartTime : Option Time) (sentTime : Time) : Bool :=
  match recoveryStartTime with
  | some start => decide (sentTime ≤ start)
  | none => false

/-! ## NewReno -/

structure NewReno where
  maxDatagram : Nat := maxDatagramSize
  congestionWindow : Nat := initialWindow maxDatagramSize
  bytesInFlight : Nat := 0
  ssthresh : Nat := u64Max
  recoveryStartTime : Option Time := none
  deriving DecidableEq, Repr

namespace NewReno

def canSend (c : NewReno) (bytes : Nat) : Bool :=
  decide (c.bytesInFlight + bytes ≤ c.congestionWindow)

def onPacketSent (c : NewReno) (bytes : Nat) : NewReno :=
  { c with bytesInFlight := c.bytesInFlight + bytes }

/-- One acknowledged packet: release its bytes and, outside recovery, grow the window. -/
def onPacketAcked (c : NewReno) (bytes : Nat) (sentTime : Time) : NewReno :=
  let c := { c with bytesInFlight := c.bytesInFlight - bytes }
  if inRecovery c.recoveryStartTime sentTime then c
  else if c.congestionWindow < c.ssthresh then
    { c with congestionWindow := c.congestionWindow + bytes }
  else
    let inc := c.maxDatagram * bytes / c.congestionWindow
    { c with congestionWindow := c.congestionWindow + max inc 1 }

def onPacketsAcked (c : NewReno) (acked : List (Nat × Time)) : NewReno :=
  acked.foldl (fun c a => c.onPacketAcked a.1 a.2) c

def onCongestionEvent (c : NewReno) (sentTime now : Time) : NewReno :=
  if inRecovery c.recoveryStartTime sentTime then c
  else
    let ssthresh := max (c.congestionWindow * 1 / 2) (minimumWindow c.maxDatagram)
    { c with
      recoveryStartTime := some now, ssthresh := ssthresh, congestionWindow := ssthresh }

def onPacketsLost (c : NewReno) (lostBytes : Nat) (largestLostSentTime now : Time) : NewReno :=
  { c with bytesInFlight := c.bytesInFlight - lostBytes }.onCongestionEvent
    largestLostSentTime now

def onPersistentCongestion (c : NewReno) : NewReno :=
  { c with
    congestionWindow := minimumWindow c.maxDatagram, recoveryStartTime := none
    ssthresh := u64Max }

end NewReno

/-! ## CUBIC -/

structure Cubic (F : Type) [F64 F] where
  maxDatagram : Nat := maxDatagramSize
  cwnd : Nat := initialWindow maxDatagramSize
  ssthresh : Nat := u64Max
  bytesInFlight : Nat := 0
  /-- The window before the last reduction. -/
  wMax : Nat := initialWindow maxDatagramSize
  epochStart : Option Time := none
  kSecs : F := F64.lit 0 1
  recoveryStartTime : Option Time := none

namespace Cubic

variable {F : Type} [F64 F]

/-- The multiplicative decrease factor. -/
def betaCubic : F := F64.lit 7 10

/-- The scaling constant. -/
def cubicC : F := F64.lit 4 10

def canSend (c : Cubic F) (bytes : Nat) : Bool := decide (c.bytesInFlight + bytes ≤ c.cwnd)

def onPacketSent (c : Cubic F) (bytes : Nat) : Cubic F :=
  { c with bytesInFlight := c.bytesInFlight + bytes }

/-- The cubic function of the time since the epoch began. -/
def wCubic (c : Cubic F) (tSecs : F) : Nat :=
  let maxDatagram : F := F64.lit c.maxDatagram 1
  let wMaxSegs := F64.div (F64.lit c.wMax 1) maxDatagram
  let delta := F64.sub tSecs c.kSecs
  let cubicSegs := F64.add (F64.mul (F64.mul (F64.mul cubicC delta) delta) delta) wMaxSegs
  if F64.le cubicSegs (F64.lit 0 1) then minimumWindow c.maxDatagram
  else
    let cubicBytes := F64.mul cubicSegs maxDatagram
    if F64.le (F64.lit u64Max 1) cubicBytes then u64Max else F64.toU64 cubicBytes

/-- The time until the window is back where the last reduction took it from. -/
def computeKSecs (wMax maxDatagram : Nat) : F :=
  let wMaxSegs := F64.div (F64.lit wMax 1) (F64.lit maxDatagram 1)
  F64.cbrt (F64.div (F64.mul wMaxSegs (F64.sub (F64.lit 1 1) betaCubic)) cubicC)

/-- Start an epoch if none is running. -/
def startEpoch (c : Cubic F) (now : Time) : Cubic F :=
  match c.epochStart with
  | some _ => c
  | none => { c with epochStart := some now, kSecs := computeKSecs c.wMax c.maxDatagram }

/-- One acknowledged packet. -/
def onPacketAcked (c : Cubic F) (bytes : Nat) (sentTime now : Time) : Cubic F :=
  let c := { c with bytesInFlight := c.bytesInFlight - bytes }
  if inRecovery c.recoveryStartTime sentTime then c
  else if c.cwnd < c.ssthresh then { c with cwnd := c.cwnd + bytes }
  else
    let c := c.startEpoch now
    let target := c.wCubic (F64.lit (now - c.epochStart.getD now) 1000000000)
    if target > c.cwnd then { c with cwnd := target }
    else { c with cwnd := c.cwnd + max (c.maxDatagram * bytes / c.cwnd) 1 }

def onPacketsAcked (c : Cubic F) (acked : List (Nat × Time)) (now : Time) : Cubic F :=
  acked.foldl (fun c a => c.onPacketAcked a.1 a.2 now) c

def onPacketsLost (c : Cubic F) (lostBytes : Nat) (largestLostSentTime now : Time) : Cubic F :=
  let c := { c with bytesInFlight := c.bytesInFlight - lostBytes }
  if inRecovery c.recoveryStartTime largestLostSentTime then c
  else
    let ssthresh := max (F64.toU64 (F64.mul (F64.lit c.cwnd 1) (betaCubic : F)))
      (minimumWindow c.maxDatagram)
    { c with
      recoveryStartTime := some now, wMax := c.cwnd, ssthresh := ssthresh, cwnd := ssthresh
      epochStart := none, kSecs := F64.lit 0 1 }

def onPersistentCongestion (c : Cubic F) : Cubic F :=
  { c with
    cwnd := minimumWindow c.maxDatagram, recoveryStartTime := none, ssthresh := u64Max
    wMax := minimumWindow c.maxDatagram, epochStart := none, kSecs := F64.lit 0 1 }

end Cubic

end OxiQuic
