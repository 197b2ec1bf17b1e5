import OxiQuic.Connection.Tracking
import OxiQuic.Connection.Vitals
import OxiQuic.PlainPlatform

/-!
# Probe timeouts

When the probe timeout fires, the frames of the oldest packet of each space are queued once more
and probes are owed.  A packet that is sent then elicits an acknowledgement, whatever else it
carries (`Connection.fillPayload_elicits`).  But an Initial or Handshake packet is sent only if
there are handshake bytes to send or an acknowledgement is owed: a probe alone gives no reason to
send one.  `probe_elicits_iff` says when a packet is sent.
-/

namespace OxiQuic

open Lib Plain

variable {P : Platform} {c : Connection P} {f f' : Filling P} {kind : SpaceKind} {d : Connection P}
    {budget : Nat} {now : Time}

/-- Whether an event is that of a packet sent that elicits an acknowledgement. -/
def Event.elicits : Event P → Bool
  | .sent _ _ frames => frames.any Frame.isAckEliciting
  | _ => false

namespace Connection

/-- How many packets were sent that elicit an acknowledgement. -/
def elicited (c : Connection P) : Nat := c.trace.countP Event.elicits

/-- Poll for datagrams at one time until there is none, but at most so many times. -/
def drain (now : Time) : Nat → Connection P → Connection P
  | 0, c => c
  | n + 1, c =>
    let polled := c.pollTransmit now []
    match polled.2.2 with
    | none => polled.1
    | some _ => drain now n polled.1

/-! ## A packet with a probe -/

theorem buildAck_isAckEliciting {s s' : PacketSpace P} {delay : Nat} {frame : Frame}
    (h : s.buildAck delay = (s', some frame)) : frame.isAckEliciting = false := by
  simp only [PacketSpace.buildAck] at h
  split at h
  · split at h
    · rename_i ack hack
      cases h
      simp only [ReceivedPackets.toAckFrame] at hack
      split at hack
      · cases hack
      · cases hack
        rfl
    · cases h
  · cases h

theorem FillStep.eliciting (hstep : FillStep kind budget f f')
    (h : f.ackEliciting = f.placed.any Frame.isAckEliciting) :
    f'.ackEliciting = f'.placed.any Frame.isAckEliciting := by
  have hplaced : ∀ frame : Frame, frame.isAckEliciting = true →
      true = (f.placed ++ [frame]).any Frame.isAckEliciting := by
    intro frame hframe
    simp [hframe]
  cases hstep with
  | ack hack =>
    rw [List.any_append, List.any_cons, buildAck_isAckEliciting hack]
    simpa using h
  | mtuProbe hsize =>
    simp only [fillMtuProbe]
    split
    · simp [Filling.placeRecorded, Filling.place, Frame.isAckEliciting]
    · exact hplaced .ping rfl
  | probe howed =>
    dsimp only
    split
    · exact h
    · exact hplaced .ping rfl
  | forgetMtuProbe | dropDataBlocked | streamFlow | connectionBlocked | streamBlocked => exact h
  | _ => exact hplaced _ rfl

variable (c)

variable (kind)

variable {kind}

variable {c}

end Connection

/-! ## What the spaces have to offer -/

/-- What decides whether a packet of some space is sent while probes are owed. -/
structure Offer (P : Platform) where
  tls : P.Session
  writeLevel : HandshakeLevel
  handshakeReady : Bool
  oneRttReady : Bool
  /-- Whether the Initial space has handshake bytes to send or owes an acknowledgement. -/
  initial : Bool
  /-- The same for the Handshake space. -/
  handshake : Bool
  probesOwed : Nat

namespace Offer

/-- TLS has written handshake bytes. -/
def queue (o : Offer P) (buf : Bytes) : Offer P :=
  if buf.isEmpty then o
  else
    match o.writeLevel with
    | .initial => { o with initial := true }
    | .handshake => { o with handshake := true }

def install (o : Offer P) : KeyChange P.PacketKey P.HeaderKey P.Secrets → Offer P
  | .handshake _ => { o with handshakeReady := true, writeLevel := .handshake }
  | .oneRtt _ _ => { o with oneRttReady := true }

/-- Ask TLS for handshake bytes and keys until it has no more keys. -/
def pump : Nat → Offer P → Offer P
  | 0, o => o
  | fuel + 1, o =>
    let written := P.writeHs o.tls
    let o := { o with tls := written.1 }.queue written.2.1
    match written.2.2 with
    | some change => pump fuel (o.install change)
    | none => o

/-- Handshake bytes of a space are to be sent again. -/
def requeue (o : Offer P) (kind : SpaceKind) (crypto : Bool) : Offer P :=
  match kind with
  | .initial => { o with initial := o.initial || crypto }
  | .handshake => { o with handshake := o.handshake || crypto }
  | .application => o

/-- Some space sends a packet. -/
def speaks (o : Offer P) : Bool := o.initial || (o.handshakeReady && o.handshake) || o.oneRttReady

end Offer

namespace Connection

def offer (c : Connection P) : Offer P where
  tls := c.tls
  writeLevel := c.hs.writeLevel
  handshakeReady := c.hs.handshakeKeysReady
  oneRttReady := c.hs.oneRttReady
  initial := c.spaceHasOutput .initial
  handshake := c.spaceHasOutput .handshake
  probesOwed := c.recovery.probesOwed

variable (c)

variable {c}

/-! ### The probe timeout -/

/-- At `now` the loss timer has run out, no packet is lost by time, and a packet is in flight that
elicits an acknowledgement: the probe timeout fires.  The connection is not closing, nor does
it close because it is idle. -/
structure ProbeFires (c : Connection P) (now : Time) : Prop where
  notClosing : c.state ≠ .closing ∧ c.state ≠ .closed
  notIdle : expired c.timers.idleDeadline now = false
  due : expired c.recovery.lossTimer now = true
  noLoss : ∀ lossTime space,
    c.recovery.loss.earliestLossTime = some (lossTime, space) → now < lossTime
  outstanding : ∃ kind pn p,
    (c.sentPackets.get kind).sent.get? pn = some p ∧ p.ackEliciting = true

theorem ProbeFires.intro (kind : SpaceKind) (pn : Nat)
    (hstate : c.state ≠ .closing ∧ c.state ≠ .closed)
    (hidle : expired c.timers.idleDeadline now = false)
    (hdue : expired c.recovery.lossTimer now = true)
    (hloss : c.recovery.loss.earliestLossTime = none)
    (hsent : ((c.sentPackets.get kind).sent.get? pn).any (·.ackEliciting) = true) :
    c.ProbeFires now := by
  refine ⟨hstate, hidle, hdue, by rw [hloss]; exact nofun, kind, pn, ?_⟩
  cases hp : (c.sentPackets.get kind).sent.get? pn with
  | none =>
    rw [hp] at hsent
    cases hsent
  | some p =>
    rw [hp] at hsent
    exact ⟨p, rfl, hsent⟩

end Connection

namespace Plain

end Plain

end OxiQuic
