import OxiQuic.Connection.LedgerRecv

/-!
# The frames of a packet

A payload is a sequence of frames, which are acted on one after the other until one of them
fails.  `processFramesFuel_meets` is the rule for what they keep.
-/

namespace OxiQuic

open Ledger

variable {P : Platform}

/-- The frames at the start of `buf`, up to the first that does not decode. -/
def framesFuel : Nat → Bytes → List Frame
  | 0, _ => []
  | fuel + 1, buf =>
    if buf.isEmpty then []
    else
      match decodeFrame buf with
      | .error _ => []
      | .ok (frame, rest) => frame :: framesFuel fuel rest

/-- The frames of a payload. -/
def payloadFrames (payload : Bytes) : List Frame := framesFuel payload.length payload

namespace Connection

/-- Every frame meets a condition when its turn comes. -/
def Meets (K : Connection P → Frame → Prop) (now : Time) (packetType : PacketType) :
    List Frame → Connection P → Prop
  | [], _ => True
  | frame :: rest, c => K c frame ∧ ((c.takeFrame now packetType frame).2 = .ok () →
      Meets K now packetType rest (c.takeFrame now packetType frame).1)

/-- What every frame that meets a condition keeps, a payload of such frames keeps. -/
theorem processFramesFuel_meets {I : Connection P → Prop} {K : Connection P → Frame → Prop}
    {now : Time} {packetType : PacketType}
    (step : ∀ {c frame}, I c → K c frame → I (c.takeFrame now packetType frame).1) (fuel : Nat)
    (buf : Bytes) (ackEliciting : Bool) {c : Connection P} (h : I c)
    (hmeets : Meets K now packetType (framesFuel fuel buf) c) :
    I (processFramesFuel now packetType fuel buf ackEliciting c).1 := by
  induction fuel generalizing buf ackEliciting c with
  | zero => exact h
  | succ fuel ih =>
    simp only [framesFuel] at hmeets
    simp only [processFramesFuel]
    split
    · exact h
    rename_i hempty
    rw [if_neg hempty] at hmeets
    split
    · exact h
    rename_i frame rest hframe
    rw [hframe] at hmeets
    obtain ⟨hcondition, hrest⟩ := hmeets
    have htaken := step h hcondition
    simp only [Outcome.andThen]
    split
    · rename_i hok
      exact ih rest _ htaken (hrest hok)
    · exact htaken

/-! ## Updates and the ledger -/

theorem Update.acts {op : Op} {c d : Connection P} (h : Update op c d) :
    Acts c.ledger d.ledger := by
  rcases h.moves with hmoves | ⟨_, rfl⟩
  · exact .of_moves hmoves
  · exact step_acts c op

theorem Updates.acts {op : Op} {c d : Connection P} (h : Updates op c d) : Acts c.ledger d.ledger :=
  h.invariant (I := fun d => Acts c.ledger d.ledger) (fun hacts h => hacts.trans h.acts) .refl

end Connection

end OxiQuic
