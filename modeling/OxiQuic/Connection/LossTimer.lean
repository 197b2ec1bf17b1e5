import OxiQuic.Connection.AckValidity

/-!
# The loss timer

The timer is recomputed in only a few places, each time from the loss times and the packets in
flight (`Tracking.Arms`).  Between calls it is set exactly if a packet that asks for an
acknowledgement is in flight (`loss_timer_armed_iff`): a space has a loss time only while it has
packets (`Tracking.Sound`), every update but the recording of a packet leaves the timer right
(`Tracking.armed_step`), and `poll_transmit` sets it once it has written something
(`Connection.pollTransmit_armed`).
-/

namespace OxiQuic

open Lib

variable {P : Platform} {c d : Connection P} {t : Tracking} {pairs : List (Nat × Nat)}
    {kind : SpaceKind} {firstRange largest : Nat}

/-! ## The records -/

namespace SentPackets

theorem get?_onAck_of_nil {s : SentPackets}
    (h : (s.onAck largest firstRange pairs).2.newlyAcked = []) (pn : Nat) :
    (s.onAck largest firstRange pairs).1.sent.get? pn = s.sent.get? pn := by
  have htakes := s.onAck_takes largest firstRange pairs
  cases hget : s.sent.get? pn with
  | some p =>
    rcases htakes.split hget with hleft | hout
    · exact hleft
    · rw [h] at hout
      cases hout
  | none =>
    cases hleft : (s.onAck largest firstRange pairs).1.sent.get? pn with
    | none => rfl
    | some p =>
      rw [htakes.left hleft] at hget
      cases hget

theorem detectLost_due {s : SentPackets} {now lossDelay : Time}
    (h : (s.detectLost now lossDelay).2.2.isSome = true) :
    ∃ pn p, (s.detectLost now lossDelay).1.sent.get? pn = some p := by
  obtain ⟨times, htimes, hmem⟩ := s.detectLost_deadlines now lossDelay
  obtain ⟨t, ht⟩ := Option.isSome_iff_exists.mp h
  obtain ⟨pn, p, hp, _⟩ := (hmem t).mp (List.min?_eq_some_iff.mp (htimes.symm.trans ht)).1
  exact ⟨pn, p, hp.1⟩

end SentPackets

/-! ## Between updates -/

namespace Tracking

/-- Every tracked packet asks for an acknowledgement, and a space has a loss time only if it has
packets. -/
structure Sound (t : Tracking) : Prop where
  eliciting : ∀ {kind pn p}, (t.stores.get kind).sent.get? pn = some p → p.ackEliciting = true
  due : ∀ {kind}, (t.due.get kind).isSome = true →
    ∃ pn p, (t.stores.get kind).sent.get? pn = some p

/-- The timer is right. -/
def Armed (t : Tracking) : Prop := t.Arms t.timer

theorem Sound.armed_iff (h : t.Sound) : t.Armed ↔ (t.timer.isSome = true ↔ t.Awaits) := by
  have hdue : (∃ kind, (t.due.get kind).isSome = true) → t.Awaits := by
    rintro ⟨kind, hkind⟩
    obtain ⟨pn, p, hp⟩ := h.due hkind
    exact ⟨kind, pn, p, hp, h.eliciting hp⟩
  rw [Armed, Arms, or_iff_right_of_imp hdue]

theorem Sound.detect (h : ∀ {kind pn p}, (t.stores.get kind).sent.get? pn = some p →
      p.ackEliciting = true) (kind : SpaceKind)
    (hdue : ∀ {kind'}, kind' ≠ kind → (t.due.get kind').isSome = true →
      ∃ pn p, (t.stores.get kind').sent.get? pn = some p) (now lossDelay : Time) :
    (t.detect kind now lossDelay).Sound where
  eliciting {kind' pn p} hp :=
    h (get?_of_takes (SentPackets.detectLost_takes _ now lossDelay) kind' pn p hp)
  due {kind'} hsome := by
    by_cases hkind : kind' = kind
    · subst hkind
      simp only [Tracking.detect, PerSpace.get_set_self] at hsome ⊢
      exact SentPackets.detectLost_due hsome
    · simp only [Tracking.detect, PerSpace.get_set_of_ne _ _ hkind] at hsome ⊢
      exact hdue hkind hsome

theorem get?_of_hear {kind' : SpaceKind} {pn : Nat} {p : SentPacket}
    (h : ((t.hear kind largest firstRange pairs).stores.get kind').sent.get? pn = some p) :
    (t.stores.get kind').sent.get? pn = some p :=
  get?_of_takes (SentPackets.onAck_takes _ largest firstRange pairs) kind' pn p h

theorem get?_hear_of_nil
    (h : ((t.stores.get kind).onAck largest firstRange pairs).2.newlyAcked = [])
    (kind' : SpaceKind) (pn : Nat) :
    ((t.hear kind largest firstRange pairs).stores.get kind').sent.get? pn =
      (t.stores.get kind').sent.get? pn := by
  by_cases hkind : kind' = kind
  · subst hkind
    rw [Tracking.hear, PerSpace.get_set_self]
    exact SentPackets.get?_onAck_of_nil h pn
  · rw [Tracking.hear, PerSpace.get_set_of_ne _ _ hkind]

theorem Sound.step {t' : Tracking} {op : Op} (h : t.Sound) (hstep : t.Step op t') : t'.Sound := by
  cases hstep with
  | same => exact h
  | record now out kind hpn heliciting =>
    rename_i p
    constructor
    · intro kind' pn q hq
      by_cases hkind : kind' = kind
      · subst hkind
        rw [Tracking.record, PerSpace.get_set_self, SentPackets.onPacketSent] at hq
        exact OrdMap.forall_insert (Q := fun _ q => q.ackEliciting = true) heliciting
          (fun _ _ => h.eliciting) pn q hq
      · rw [Tracking.record, PerSpace.get_set_of_ne _ _ hkind] at hq
        exact h.eliciting hq
    · intro kind' hsome
      by_cases hkind : kind' = kind
      · subst hkind
        refine ⟨p.packetNumber, p, ?_⟩
        rw [Tracking.record, PerSpace.get_set_self, SentPackets.onPacketSent]
        exact OrdMap.get?_insert_self _ _ _
      · rw [Tracking.record, PerSpace.get_set_of_ne _ _ hkind]
        exact h.due hsome
  | hear now datagram kind largest firstRange pairs hnil =>
    have hsame := get?_hear_of_nil hnil
    refine ⟨fun hp => h.eliciting (get?_of_hear hp), fun {kind'} hsome => ?_⟩
    obtain ⟨pn, p, hp⟩ := h.due hsome
    exact ⟨pn, p, (hsame kind' pn).trans hp⟩
  | ack now datagram kind largest firstRange pairs lossDelay =>
    have hdetect := Sound.detect (t := t.hear kind largest firstRange pairs)
      (fun hp => h.eliciting (get?_of_hear hp)) kind (fun {kind'} hkind hsome => by
        rw [Tracking.hear, PerSpace.get_set_of_ne _ _ hkind]
        exact h.due hsome) now lossDelay
    exact ⟨hdetect.eliciting, hdetect.due⟩
  | lose now kind lossDelay =>
    have hdetect := Sound.detect h.eliciting kind (fun _ hsome => h.due hsome) now lossDelay
    exact ⟨hdetect.eliciting, hdetect.due⟩
  | _ => exact ⟨h.eliciting, h.due⟩

theorem armed_step {t' : Tracking} {op : Op} (hop : ∀ now out, op ≠ .pollTransmit now out)
    (h : t.Armed) (hstep : t.Step op t') : t'.Armed := by
  cases hstep with
  | same | retry => exact h
  | skip now out | record now out => exact absurd rfl (hop now out)
  | arm harms | ack now datagram kind largest firstRange pairs lossDelay harms
  | lose now kind lossDelay harms => exact harms
  | hear now datagram kind largest firstRange pairs hnil =>
    rw [Armed, Arms, Awaits]
    simp only [get?_hear_of_nil hnil]
    exact h

end Tracking

/-! ## Between calls -/

namespace Connection

/-- Packets, loss times and timer are as before. -/
def SameTimer (c d : Connection P) : Prop :=
  d.sentPackets = c.sentPackets ∧ d.recovery.loss.lossTime = c.recovery.loss.lossTime ∧
    d.recovery.lossTimer = c.recovery.lossTimer

theorem SameTimer.trans {e : Connection P} (h : SameTimer c d) (h' : SameTimer d e) :
    SameTimer c e := ⟨h'.1.trans h.1, h'.2.1.trans h.2.1, h'.2.2.trans h.2.2⟩

theorem SameTimer.of_tracking (h : d.tracking = c.tracking) : SameTimer c d :=
  ⟨congrArg Tracking.stores h, congrArg Tracking.due h, congrArg Tracking.timer h⟩

theorem SameTimer.armed (h : SameTimer c d) (harmed : c.tracking.Armed) : d.tracking.Armed := by
  obtain ⟨hstores, hdue, htimer⟩ := h
  have hstores' : d.tracking.stores = c.tracking.stores := hstores
  have hdue' : d.tracking.due = c.tracking.due := hdue
  have htimer' : d.tracking.timer = c.tracking.timer := htimer
  rw [Tracking.Armed, Tracking.Arms, Tracking.Awaits, hstores', hdue', htimer']
  exact harmed

theorem allocate_sameTimer (c : Connection P) (kind : SpaceKind) : SameTimer c (c.allocate kind) :=
  ⟨rfl, rfl, rfl⟩

theorem writeIf_sameTimer {cond : Bool} {now : Time}
    {out : Bytes} (h : (writeIf cond c now kind out).2.2 = false) :
    SameTimer c (writeIf cond c now kind out).1 := by
  revert h
  refine writeIf_cases (I := fun r => r.2.2 = false → SameTimer c r.1) (fun _ => ⟨rfl, rfl, rfl⟩)
    fun budget _ => ?_
  have hfilled := SameTimer.of_tracking (tracking_of_still (fillPayload_still budget c kind))
  have hbefore := hfilled.trans (.of_tracking
    (beforeSeal_tracking (c.fillPayload kind budget).conn kind now))
  split
  · exact fun _ => hfilled
  simp only [sealFilled]
  split
  · exact fun _ => hbefore.trans (allocate_sameTimer _ kind)
  split
  · exact fun _ => hbefore.trans (allocate_sameTimer _ kind)
  · exact fun h => (by cases h)

/-- A datagram that was written leaves the timer right, and no datagram leaves it alone. -/
theorem writeDatagram_armed (h : c.tracking.Armed) (now : Time) (out : Bytes) :
    (c.writeDatagram now out).1.tracking.Armed := by
  simp only [writeDatagram]
  split
  · obtain ⟨timer, harms, htimer⟩ := setLossDetectionTimer_tracking (armIdleTimer _ now)
    rw [htimer]
    exact harms
  rename_i hnone
  simp only [Bool.or_eq_true, not_or, Bool.not_eq_true] at hnone
  obtain ⟨⟨⟨hinitial, hhandshake⟩, -⟩, happlication⟩ := hnone
  exact ((((writeIf_sameTimer hinitial).trans (writeIf_sameTimer hhandshake)).trans
    (writeEarly_cases (I := fun r => SameTimer _ r.1) ⟨rfl, rfl, rfl⟩
      (fun _ _ _ => allocate_sameTimer _ .application)
      fun _ _ _ _ => allocate_sameTimer _ .application)).trans
    (writeIf_sameTimer happlication)).armed h

theorem emitClose_sameTimer (c : Connection P) (out : Bytes) : SameTimer c (c.emitClose out).1 := by
  obtain ⟨_, _, hclosed, rfl | rfl, -⟩ := emitClose_conn c out <;> rw [hclosed]
  · exact ⟨rfl, rfl, rfl⟩
  · exact allocate_sameTimer c c.closeSpace

theorem pollTransmit_armed (h : c.tracking.Armed) (now : Time) (out : Bytes) :
    (c.pollTransmit now out).1.tracking.Armed := by
  have hpump : c.pumpWriteHs.tracking.Armed :=
    (pumpWriteHs_updates (.handleTimeout now) c).tracking
      (Tracking.armed_step fun _ _ hop => by cases hop) h
  have hadvance : ∀ d : Connection P, SameTimer d d.advanceRecvFlow :=
    fun d => .of_tracking (tracking_of_core (advanceRecvFlow_core d))
  simp only [pollTransmit]
  split
  · exact hpump
  split
  · have hclose := emitClose_sameTimer c.pumpWriteHs out
    split
    · exact SameTimer.armed (d := { (c.pumpWriteHs.emitClose out).1 with state := .closed })
        hclose hpump
    · exact writeDatagram_armed ((hclose.trans (hadvance _)).armed hpump) now _
  · exact writeDatagram_armed ((hadvance _).armed hpump) now out

theorem step_armed (h : c.tracking.Armed) (op : Op) : (c.step op).tracking.Armed := by
  by_cases hpoll : ∃ now out, op = .pollTransmit now out
  · obtain ⟨now, out, rfl⟩ := hpoll
    exact pollTransmit_armed h now out
  · exact (step_updates c op).tracking
      (Tracking.armed_step fun now out hop => hpoll ⟨now, out, hop⟩) h

theorem tracking_start (h : c.Fresh) : c.tracking.Sound ∧ c.tracking.Armed := by
  rw [h.tracking]
  have hnone : ∀ kind pn, (((PerSpace.const {} : PerSpace SentPackets).get kind).sent.get? pn) = none := by
    intro kind pn
    cases kind <;> rfl
  have hdue : ∀ kind, ((PerSpace.const none : PerSpace (Option Time)).get kind) = none := by
    intro kind
    cases kind <;> rfl
  refine ⟨⟨fun hp => ?_, fun hsome => ?_⟩, ?_⟩
  · rw [hnone] at hp
    cases hp
  · rw [hdue] at hsome
    cases hsome
  · simp [Tracking.Armed, Tracking.Arms, Tracking.Awaits, hnone, hdue]

end Connection

/-- After any calls the loss timer is set exactly if a packet that asks for an acknowledgement is
tracked in some space. -/
theorem loss_timer_armed_iff {c : Connection P} (hfresh : c.Fresh) (ops : List Op) :
    (c.run ops).recovery.lossTimer.isSome = true ↔
      ∃ kind pn p, ((c.run ops).sentPackets.get kind).sent.get? pn = some p ∧
        p.ackEliciting = true := by
  obtain ⟨hsound, harmed⟩ := Connection.tracking_start hfresh
  have hsound' : (c.run ops).tracking.Sound :=
    Connection.run_tracking Tracking.Sound.step hsound ops
  have harmed' : (c.run ops).tracking.Armed :=
    run_invariant (I := fun d : Connection P => d.tracking.Armed)
      (fun d op hd => Connection.step_armed hd op) ops harmed
  exact hsound'.armed_iff.mp harmed'

theorem loss_timer_armed_iff_sendsTwice :
    (Plain.sender.run Plain.sendsTwice).recovery.lossTimer.isSome = true ∧
    ∃ kind pn p, ((Plain.sender.run Plain.sendsTwice).sentPackets.get kind).sent.get? pn = some p ∧
      p.ackEliciting = true := by
  have hset : (Plain.sender.run Plain.sendsTwice).recovery.lossTimer.isSome = true := by
    decide +kernel
  generalize Plain.sendsTwice = ops at hset ⊢
  exact ⟨hset, (loss_timer_armed_iff (Plain.client_fresh _) ops).mp hset⟩

end OxiQuic
