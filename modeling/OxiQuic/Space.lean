import OxiQuic.Platform
import OxiQuic.Wire.Frame

/-!
# Packet-number spaces

Keys, packet-number counter and acknowledgement state of one space
(`oxiquic-transport/src/space.rs`).
-/

namespace OxiQuic

/-- The three packet-number spaces. -/
inductive SpaceKind where
  | initial
  | handshake
  | application
  deriving DecidableEq, Repr

/-- One value for each space. -/
structure PerSpace (α : Type) where
  initial : α
  handshake : α
  application : α
  deriving DecidableEq, Repr

namespace PerSpace

variable {α : Type}

def get (s : PerSpace α) : SpaceKind → α
  | .initial => s.initial
  | .handshake => s.handshake
  | .application => s.application

def set (s : PerSpace α) (kind : SpaceKind) (a : α) : PerSpace α :=
  match kind with
  | .initial => { s with initial := a }
  | .handshake => { s with handshake := a }
  | .application => { s with application := a }

/-- The same value in each space. -/
def const (a : α) : PerSpace α := ⟨a, a, a⟩

variable (s : PerSpace α) (kind : SpaceKind)

@[simp] theorem get_set_self (a : α) : (s.set kind a).get kind = a := by
  cases kind <;> rfl

theorem get_set_of_ne {kind kind' : SpaceKind} (a : α) (h : kind' ≠ kind) :
    (s.set kind a).get kind' = s.get kind' := by
  cases kind <;> cases kind' <;> first | rfl | exact absurd rfl h

theorem set_set (a b : α) : (s.set kind a).set kind b = s.set kind b := by
  cases kind <;> rfl

@[simp] theorem set_get_self : s.set kind (s.get kind) = s := by
  cases kind <;> rfl

/-- A function of the value of each space. -/
def map {β : Type} (f : α → β) (s : PerSpace α) : PerSpace β :=
  ⟨f s.initial, f s.handshake, f s.application⟩

@[simp] theorem get_map {β : Type} (f : α → β) (s : PerSpace α) (kind : SpaceKind) :
    (s.map f).get kind = f (s.get kind) := by
  cases kind <;> rfl

theorem map_set {β : Type} (f : α → β) (s : PerSpace α) (kind : SpaceKind) (a : α) :
    (s.set kind a).map f = (s.map f).set kind (f a) := by
  cases kind <;> rfl

theorem map_set_of_eq {β : Type} {f : α → β} {s : PerSpace α} {kind : SpaceKind} {a : α}
    (h : f a = f (s.get kind)) : (s.set kind a).map f = s.map f := by
  rw [map_set, h, ← get_map f, set_get_self]

end PerSpace

/-! ## Received packet numbers -/

/-- Received packet numbers as inclusive ranges, lowest first. -/
abbrev ReceivedPackets := List (Nat × Nat)

namespace ReceivedPackets

/-- The largest number received. -/
def largest (ranges : ReceivedPackets) : Option Nat := ranges.getLast?.map (·.2)

/-- Record a number.  A range that grows upwards is merged with the next one if the two
then touch.  A range that grows downwards cannot touch the one before it, which would have
grown upwards instead. -/
def insert (pn : Nat) : ReceivedPackets → ReceivedPackets
  | [] => [(pn, pn)]
  | (low, high) :: rest =>
    if low ≤ pn ∧ pn ≤ high then (low, high) :: rest
    else if pn + 1 = low then (pn, high) :: rest
    else if pn = high + 1 then
      match rest with
      | (low', high') :: rest' =>
        if pn + 1 ≥ low' then (low, max pn high') :: rest' else (low, pn) :: rest
      | [] => [(low, pn)]
    else if pn < low then (pn, pn) :: (low, high) :: rest
    else (low, high) :: insert pn rest

/-- The gap and length pairs below a range that starts at `prevLow`, for the ranges in
descending order. -/
def ackRangesBelow (prevLow : Nat) : List (Nat × Nat) → List AckRange
  | [] => []
  | (low, high) :: rest =>
    { gap := prevLow - high - 2, range := high - low } :: ackRangesBelow low rest

/-- The `ACK` frame for what was received. -/
def toAckFrame (ranges : ReceivedPackets) (ackDelay : Nat) : Option Frame :=
  match ranges.reverse with
  | [] => none
  | (low, high) :: rest => some (.ack high ackDelay (high - low) (ackRangesBelow low rest))

end ReceivedPackets

/-! ## A space -/

variable (P : Platform)

/-- One packet-number space. -/
structure PacketSpace where
  keys : Option (Keys P.PacketKey P.HeaderKey) := none
  nextPacketNumber : Nat := 0
  largestAcked : Option Nat := none
  received : ReceivedPackets := []
  ackPending : Bool := false

variable {P}

namespace PacketSpace

def setKeys (s : PacketSpace P) (keys : Keys P.PacketKey P.HeaderKey) : PacketSpace P :=
  { s with keys := some keys }

def hasKeys (s : PacketSpace P) : Bool := s.keys.isSome

def localKeys (s : PacketSpace P) : Option (DirectionalKeys P.PacketKey P.HeaderKey) :=
  s.keys.map (·.sending)

def remoteKeys (s : PacketSpace P) : Option (DirectionalKeys P.PacketKey P.HeaderKey) :=
  s.keys.map (·.receiving)

/-- Allocate a packet number: the number is the counter before the call. -/
def nextPn (s : PacketSpace P) : PacketSpace P :=
  { s with nextPacketNumber := s.nextPacketNumber + 1 }

def largestReceived (s : PacketSpace P) : Option Nat := s.received.largest

def onAckReceived (s : PacketSpace P) (largest : Nat) : PacketSpace P :=
  { s with largestAcked := some (match s.largestAcked with
      | some prev => max prev largest
      | none => largest) }

def onPacketReceived (s : PacketSpace P) (pn : Nat) (ackEliciting : Bool) : PacketSpace P :=
  { s with received := s.received.insert pn, ackPending := s.ackPending || ackEliciting }

/-- The `ACK` frame to send, if one is owed. -/
def buildAck (s : PacketSpace P) (ackDelay : Nat) : PacketSpace P × Option Frame :=
  if s.ackPending then
    match s.received.toAckFrame ackDelay with
    | some frame => ({ s with ackPending := false }, some frame)
    | none => (s, none)
  else (s, none)

/-- Move to the packet keys of the next epoch.  The result is the old receiving key. -/
def rotateToNextEpoch (s : PacketSpace P) (next : PacketKeySet P.PacketKey) :
    PacketSpace P × Option P.PacketKey :=
  match s.keys with
  | none => (s, none)
  | some keys =>
    ({ s with keys := some { sending := { keys.sending with packet := next.sending }
                             receiving := { keys.receiving with packet := next.receiving } } },
      some keys.receiving.packet)

end PacketSpace

end OxiQuic
