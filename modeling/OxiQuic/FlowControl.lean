import OxiQuic.Core

/-!
# Flow control

Credit for sending and windows for receiving, on the connection and on each stream
(`oxiquic-transport/src/flow_control.rs`).  The connection's and a stream's types differ
only in what they count, so each pair is one type here.
-/

namespace OxiQuic

/-- Send credit: the peer's limit and what was sent against it.  `SendFlowControl` of the
connection and `StreamSendFlow` of a stream. -/
structure SendCredit where
  /-- The limit the peer advertised. -/
  maxData : Nat
  /-- What was sent so far. -/
  dataSent : Nat := 0
  /-- The limit at which being blocked was last announced. -/
  blockedAt : Option Nat := none
  deriving DecidableEq, Repr

/-- `SendFlowControl::new` and `StreamSendFlow::new`. -/
def SendCredit.new (initial : Nat) : SendCredit := { maxData := initial }

/-- The peer raised its limit. -/
def SendCredit.onMaxData (f : SendCredit) (max : Nat) : SendCredit :=
  if max > f.maxData then { f with maxData := max, blockedAt := none } else f

def SendCredit.available (f : SendCredit) : Nat := f.maxData - f.dataSent

/-- Connection credit is charged by the amount of fresh data. -/
def SendCredit.onDataSent (f : SendCredit) (n : Nat) : SendCredit :=
  { f with dataSent := f.dataSent + n }

/-- Stream credit is charged by the highest offset.  The result is the fresh amount. -/
def SendCredit.recordHighOffset (f : SendCredit) (highOffset : Nat) : SendCredit × Nat :=
  if highOffset > f.dataSent then
    ({ f with dataSent := highOffset }, highOffset - f.dataSent)
  else (f, 0)

/-- The limit to announce as blocking, once for each limit. -/
def SendCredit.takeBlocked (f : SendCredit) : SendCredit × Option Nat :=
  if f.maxData ≤ f.dataSent ∧ f.blockedAt ≠ some f.maxData then
    ({ f with blockedAt := some f.maxData }, some f.maxData)
  else (f, none)

/-- A receive window: the advertised limit and what the application consumed.
`RecvFlowControl` of the connection and `StreamRecvFlow` of a stream. -/
structure RecvWindow where
  maxData : Nat
  window : Nat
  consumed : Nat := 0
  deriving DecidableEq, Repr

/-- `RecvFlowControl::new` and `StreamRecvFlow::new`. -/
def RecvWindow.new (window : Nat) : RecvWindow := { maxData := window, window := window }

def RecvWindow.onDataConsumed (f : RecvWindow) (n : Nat) : RecvWindow :=
  { f with consumed := f.consumed + n }

/-- The new limit to advertise, once less than half the window is left. -/
def RecvWindow.maybeUpdate (f : RecvWindow) : RecvWindow × Option Nat :=
  let desired := f.consumed + f.window
  if desired > f.maxData ∧ f.maxData - f.consumed < f.window / 2 then
    ({ f with maxData := desired }, some desired)
  else (f, none)

end OxiQuic
