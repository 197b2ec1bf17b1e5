import OxiQuic.Connection.Core
import OxiQuic.Connection.LedgerSend

/-!
# Packets in flight and the loss timer

The packet numbers of the three spaces, the packets that are tracked, what was acknowledged,
and the loss timer: `Connection.tracking`.  `Tracking.Step` lists what an update can do to
them, and `Connection.Update.tracks` says that the code does nothing else.
-/

namespace OxiQuic

open Lib

variable {P : Platform} (c : Connection P) {d : Connection P} {op : Op} (now : Time)
    (idx : SpaceKind) (kind : SpaceKind)

/-- What a connection knows of the packets it sent. -/
structure Tracking where
  /-- The next packet number of each space. -/
  next : PerSpace Nat
  /-- The largest number acknowledged, as the spaces have it. -/
  acked : PerSpace (Option Nat)
  stores : PerSpace SentPackets
  /-- When the next packet of a space is lost by time. -/
  due : PerSpace (Option Time)
  timer : Option Time
  /-- The space and the largest number of each `ACK` frame taken in, newest first. -/
  heard : List (SpaceKind × Nat)

namespace Tracking

/-- A packet that asks for an acknowledgement is tracked in some space. -/
def Awaits (t : Tracking) : Prop :=
  ∃ kind pn p, (t.stores.get kind).sent.get? pn = some p ∧ p.ackEliciting = true

/-- The timer is set exactly if there is a loss time or a packet to wait for. -/
def Arms (t : Tracking) (timer : Option Time) : Prop :=
  timer.isSome = true ↔ (∃ kind, (t.due.get kind).isSome = true) ∨ t.Awaits

/-- Use up a packet number. -/
def skip (t : Tracking) (kind : SpaceKind) : Tracking :=
  { t with next := t.next.set kind (t.next.get kind + 1) }

/-- Track a packet. -/
def record (t : Tracking) (kind : SpaceKind) (p : SentPacket) : Tracking :=
  { t with stores := t.stores.set kind ((t.stores.get kind).onPacketSent p) }

/-- Take in an acknowledgement. -/
def hear (t : Tracking) (kind : SpaceKind) (largest firstRange : Nat) (pairs : List (Nat × Nat)) :
    Tracking :=
  { t with
    acked := t.acked.set kind (some (match t.acked.get kind with
      | some prev => max prev largest
      | none => largest))
    stores := t.stores.set kind ((t.stores.get kind).onAck largest firstRange pairs).1
    heard := (kind, largest) :: t.heard }

/-- Take out the lost packets of a space. -/
def detect (t : Tracking) (kind : SpaceKind) (now lossDelay : Time) : Tracking :=
  { t with
    stores := t.stores.set kind ((t.stores.get kind).detectLost now lossDelay).1
    due := t.due.set kind ((t.stores.get kind).detectLost now lossDelay).2.2 }

/-- What an update can do to packets in flight and the loss timer. -/
inductive Step (t : Tracking) : Op → Tracking → Prop where
  | same {op : Op} : Step t op t
  /-- A packet that is not tracked was built, or could not be. -/
  | skip (now : Time) (out : Bytes) (kind : SpaceKind) : Step t (.pollTransmit now out) (t.skip kind)
  | record (now : Time) (out : Bytes) (kind : SpaceKind) {p : SentPacket} :
      p.packetNumber = t.next.get kind → p.ackEliciting = true →
      Step t (.pollTransmit now out) ((t.skip kind).record kind p)
  | arm {op : Op} {timer : Option Time} : t.Arms timer → Step t op { t with timer := timer }
  /-- An acknowledgement of nothing that is tracked. -/
  | hear (now : Time) (datagram : Bytes) (kind : SpaceKind) (largest firstRange : Nat)
      (pairs : List (Nat × Nat)) :
      ((t.stores.get kind).onAck largest firstRange pairs).2.newlyAcked = [] →
      Step t (.handleDatagram now datagram) (t.hear kind largest firstRange pairs)
  | ack (now : Time) (datagram : Bytes) (kind : SpaceKind) (largest firstRange : Nat)
      (pairs : List (Nat × Nat)) (lossDelay : Time) {timer : Option Time} :
      ((t.hear kind largest firstRange pairs).detect kind now lossDelay).Arms timer →
      Step t (.handleDatagram now datagram)
        { (t.hear kind largest firstRange pairs).detect kind now lossDelay with timer := timer }
  | lose (now : Time) (kind : SpaceKind) (lossDelay : Time) {timer : Option Time} :
      (t.detect kind now lossDelay).Arms timer →
      Step t (.handleTimeout now) { t.detect kind now lossDelay with timer := timer }
  /-- A Retry starts the Initial space over; the record of sent packets stays. -/
  | retry (now : Time) (datagram : Bytes) :
      Step t (.handleDatagram now datagram)
        { t with next := t.next.set .initial 0, acked := t.acked.set .initial none }

end Tracking

def Core.tracking (k : Core P) : Tracking where
  next := k.spaces.map (·.nextPacketNumber)
  acked := k.spaces.map (·.largestAcked)
  stores := k.sentPackets
  due := k.loss.lossTime
  timer := k.lossTimer
  heard := k.heard

namespace Connection

def tracking (c : Connection P) : Tracking := c.core.tracking

theorem tracking_of_core {c : Connection P} (h : d.core = c.core) : d.tracking = c.tracking :=
  congrArg Core.tracking h

theorem tracking_of_still {c : Connection P} (h : d.still = c.still) : d.tracking = c.tracking := by
  have hview : ∀ e : Connection P, e.tracking = e.still.tracking := fun _ => rfl
  rw [hview d, h, ← hview c]

theorem tracks_of_eq {c : Connection P} (h : d.tracking = c.tracking) :
    c.tracking.Step op d.tracking := by
  rw [h]
  exact .same

/-! ## The handshake -/

theorem unkeyed_tracking : Unkeyed (tracking : Connection P → Tracking) :=
  ⟨fun _ _ _ _ _ => rfl, fun _ _ => rfl, fun _ _ _ _ => rfl⟩

/-! ## Keys and packets -/

theorem beforeSeal_tracking (now : Time) : (c.beforeSeal kind now).tracking = c.tracking := by
  obtain ⟨_, _, -, hbefore⟩ := beforeSeal_conn c kind now
  rw [hbefore]
  rfl

theorem allocate_tracking : (c.allocate kind).tracking = c.tracking.skip kind := by
  cases kind <;> rfl

theorem recordSent_tracking (now : Time)
    (pn sentBytes : Nat) {frames : List SentFrame} {ackEliciting : Bool}
    (h : frames ≠ [] → ackEliciting = true) :
    (c.recordSent kind now pn sentBytes frames ackEliciting).tracking = c.tracking ∨
      ∃ p : SentPacket, p.packetNumber = pn ∧ p.ackEliciting = true ∧
        (c.recordSent kind now pn sentBytes frames ackEliciting).tracking =
          c.tracking.record kind p := by
  simp only [recordSent]
  split
  · rename_i hrecord
    refine .inr ⟨_, rfl, ?_, rfl⟩
    rcases Bool.or_eq_true_iff.mp hrecord with heliciting | hframes
    · exact heliciting
    · exact h fun hnil => by simp [hnil] at hframes
  · exact .inl rfl

theorem sealFilled_tracks {c : Connection P} {f : Filling P} (hstill : f.conn.still = c.still)
    (h : f.frames ≠ [] → f.ackEliciting = true) (now : Time) (kind : SpaceKind) (buf out : Bytes) :
    c.tracking.Step (.pollTransmit now out) (sealFilled f now kind buf).1.tracking := by
  have hbefore : (f.conn.beforeSeal kind now).tracking = c.tracking :=
    (beforeSeal_tracking _ _ _).trans (tracking_of_still hstill)
  have hskip := (allocate_tracking (f.conn.beforeSeal kind now) kind).trans
    (congrArg (Tracking.skip · kind) hbefore)
  simp only [sealFilled]
  split
  · rw [hskip]
    exact .skip now out kind
  split
  · refine (congrArg (c.tracking.Step _) hskip).mpr ?_
    exact .skip now out kind
  rename_i keys _ _ _
  rcases recordSent_tracking (((f.conn.beforeSeal kind now).allocate kind).log
    (.sealed ((f.conn.beforeSeal kind now).keyLabel kind) keys.packet
      ((f.conn.beforeSeal kind now).spaces.get kind).nextPacketNumber)) kind now
    ((f.conn.beforeSeal kind now).spaces.get kind).nextPacketNumber _ h
    with hsame | ⟨p, hpn, hp, hrecord⟩
  · refine (congrArg (c.tracking.Step _) (hsame.trans hskip)).mpr ?_
    exact .skip now out kind
  refine (congrArg (c.tracking.Step _) (hrecord.trans
    (congrArg (Tracking.record · kind p) hskip))).mpr ?_
  refine .record now out kind (hpn.trans ?_) hp
  rw [← hbefore]
  exact (PerSpace.get_map _ _ _).symm

theorem writeIf_tracks (cond : Bool) (c : Connection P) (now : Time) (kind : SpaceKind)
    (buf out : Bytes) :
    c.tracking.Step (.pollTransmit now out) (writeIf cond c now kind buf).1.tracking := by
  refine writeIf_cases (I := fun r => c.tracking.Step (.pollTransmit now out) r.1.tracking) .same
    fun budget _ => ?_
  have hstill := fillPayload_still budget c kind
  split
  · exact tracks_of_eq (tracking_of_still hstill)
  · exact sealFilled_tracks hstill (fillPayload_filled c kind budget).eliciting now kind buf out

theorem writeEarly_tracks (wroteInitial : Bool) (c : Connection P) (now : Time) (buf out : Bytes) :
    c.tracking.Step (.pollTransmit now out) (writeEarly wroteInitial c buf).1.tracking := by
  have hskip : c.tracking.Step (.pollTransmit now out) (c.allocate .application).tracking := by
    rw [allocate_tracking]
    exact .skip now out .application
  exact writeEarly_cases (I := fun r => c.tracking.Step (.pollTransmit now out) r.1.tracking) .same
    (fun _ _ _ => hskip) fun _ _ _ _ => hskip

theorem takeClose_tracking : c.takeClose.1.tracking = c.tracking := by
  simp only [takeClose]
  split
  · rfl
  · split <;> rfl

theorem emitClose_tracks (buf out : Bytes) :
    c.tracking.Step (.pollTransmit now out) (c.emitClose buf).1.tracking := by
  have htaken := takeClose_tracking c
  have hskip : c.tracking.Step (.pollTransmit now out)
      (c.takeClose.1.allocate c.closeSpace).tracking := by
    rw [allocate_tracking, htaken]
    exact .skip now out _
  simp only [emitClose]
  split
  · exact tracks_of_eq htaken
  split
  · exact hskip
  · split <;> exact hskip

/-! ## Acknowledgements and losses -/

theorem requeueFrame_tracking (frame : SentFrame) :
    (c.requeueFrame idx frame).tracking = c.tracking := by
  cases frame with
  | crypto | newToken =>
    simp only [requeueFrame]
    split <;> rfl
  | _ => rfl

theorem onFrameLost_tracking (frame : SentFrame) :
    (c.onFrameLost idx frame).tracking = c.tracking := by
  cases frame with
  | mtuProbe size => rfl
  | _ => exact requeueFrame_tracking c idx _

theorem onPacketsLost_tracking (lost : List SentPacket) (now : Time) :
    (c.onPacketsLost lost now).tracking = c.tracking := by
  simp only [onPacketsLost]
  split <;> rfl

theorem logAll_tracking {es : List (Event P)}
    (h : ∀ e ∈ es, e.heard = none) : (c.logAll es).tracking = c.tracking := by
  have hheard : (c.logAll es).trace.filterMap Event.heard = c.trace.filterMap Event.heard := by
    have hnone : es.reverse.filterMap Event.heard = [] := by
      refine List.filterMap_eq_nil_iff.mpr fun e he => h e (List.mem_reverse.mp he)
    simp only [logAll, List.filterMap_append, hnone, List.nil_append]
  simp only [tracking, core, Core.tracking, hheard]
  rfl

theorem detectAndHandleLoss_tracking (now : Time) :
    (c.detectAndHandleLoss idx now).tracking =
      c.tracking.detect idx now c.recovery.rtt.lossDelay := by
  simp only [detectAndHandleLoss]
  split
  · rfl
  refine (logAll_tracking _ ?_).trans ((onPacketsLost_tracking _ _ _).trans
    ((foldl_kept (fun d frame => onFrameLost_tracking d idx frame) _ _).trans rfl))
  intro e he
  obtain ⟨p, -, rfl⟩ := List.mem_map.mp he
  rfl

theorem sampleRtt_tracking (outcome : AckOutcome) (largest delay : Nat) (now : Time) :
    (c.sampleRtt idx outcome largest delay now).tracking = c.tracking := by
  simp only [sampleRtt]
  split
  · split <;> rfl
  · rfl

theorem onPacketsAcked_tracking (newlyAcked : List SentPacket) (now : Time) :
    (c.onPacketsAcked newlyAcked now).tracking = c.tracking := by
  simp only [onPacketsAcked]
  split <;> rfl

theorem onFrameAcked_tracking (c : Connection P) (frame : SentFrame) :
    (onFrameAcked now c frame).tracking = c.tracking := by
  cases frame <;> rfl

/-! ## The timer -/

end Connection

theorem SentPackets.earliestAckElicitingTime_isSome_iff (s : SentPackets) :
    s.earliestAckElicitingTime.isSome = true ↔
      ∃ pn p, s.sent.get? pn = some p ∧ p.ackEliciting = true := by
  rw [earliestAckElicitingTime, earliestOf_isSome_iff, ne_eq, List.map_eq_nil_iff,
    List.filter_eq_nil_iff]
  constructor
  · intro h
    by_contra hnone
    refine h fun p hp heliciting => hnone ?_
    obtain ⟨pn, hget⟩ := OrdMap.mem_values.mp hp
    exact ⟨pn, p, hget, heliciting⟩
  · rintro ⟨pn, p, hget, heliciting⟩ h
    exact h p (OrdMap.mem_values.mpr ⟨pn, hget⟩) heliciting

theorem LossDetection.better_isSome (best : Option (Time × SpaceKind)) (time : Option Time)
    (space : SpaceKind) : (better best time space).isSome = (best.isSome || time.isSome) := by
  unfold better
  cases time with
  | none => simp
  | some t =>
    cases best with
    | none => rfl
    | some b =>
      simp only
      split <;> rfl

theorem LossDetection.earliestLossTime_isSome_iff (l : LossDetection) :
    l.earliestLossTime.isSome = true ↔ ∃ kind, (l.lossTime.get kind).isSome = true := by
  simp only [earliestLossTime, better_isSome, Option.isSome_none, Bool.false_or, Bool.or_eq_true]
  constructor
  · rintro ((h | h) | h)
    · exact ⟨.initial, h⟩
    · exact ⟨.handshake, h⟩
    · exact ⟨.application, h⟩
  rintro ⟨kind, h⟩
  cases kind with
  | initial => exact .inl (.inl h)
  | handshake => exact .inl (.inr h)
  | application => exact .inr h

namespace Connection

theorem earliestAckElicitingAcrossSpaces_isSome_iff :
    c.earliestAckElicitingAcrossSpaces.isSome = true ↔ c.tracking.Awaits := by
  have hspaces : ∀ kind, c.sentPackets.get kind ∈ [c.sentPackets.initial, c.sentPackets.handshake,
      c.sentPackets.application] := by
    intro kind
    cases kind <;> simp [PerSpace.get]
  rw [earliestAckElicitingAcrossSpaces, earliestOf_isSome_iff, ne_eq, List.filterMap_eq_nil_iff]
  constructor
  · intro h
    by_contra hnone
    refine h fun s hs => ?_
    have hkind : ∃ kind, s = c.sentPackets.get kind := by
      simp only [List.mem_cons, List.not_mem_nil, or_false] at hs
      rcases hs with rfl | rfl | rfl
      · exact ⟨.initial, rfl⟩
      · exact ⟨.handshake, rfl⟩
      · exact ⟨.application, rfl⟩
    obtain ⟨kind, rfl⟩ := hkind
    rw [← Option.not_isSome_iff_eq_none, SentPackets.earliestAckElicitingTime_isSome_iff]
    rintro ⟨pn, p, hp⟩
    exact hnone ⟨kind, pn, p, hp⟩
  · rintro ⟨kind, pn, p, hp⟩ h
    have hsome := (SentPackets.earliestAckElicitingTime_isSome_iff _).mpr ⟨pn, p, hp⟩
    have hnone : (c.sentPackets.get kind).earliestAckElicitingTime = none := h _ (hspaces kind)
    change (c.sentPackets.get kind).earliestAckElicitingTime.isSome = true at hsome
    rw [hnone] at hsome
    cases hsome

theorem setLossDetectionTimer_tracking :
    ∃ timer, c.tracking.Arms timer ∧
      c.setLossDetectionTimer.tracking = { c.tracking with timer := timer } := by
  refine ⟨c.setLossDetectionTimer.recovery.lossTimer, ?_, rfl⟩
  have hdue := c.recovery.loss.earliestLossTime_isSome_iff
  have hawaits := c.earliestAckElicitingAcrossSpaces_isSome_iff
  change _ ↔ (∃ kind, (c.recovery.loss.lossTime.get kind).isSome = true) ∨ _
  rw [← hdue, ← hawaits]
  simp only [setLossDetectionTimer]
  cases c.recovery.loss.earliestLossTime with
  | some first => simp
  | none =>
    cases c.earliestAckElicitingAcrossSpaces with
    | some | none => simp

theorem detectAndArm_tracking {c : Connection P} {t : Tracking} (h : c.tracking = t)
    (idx : SpaceKind) (now : Time) :
    ∃ lossDelay timer, (t.detect idx now lossDelay).Arms timer ∧
      (c.detectAndHandleLoss idx now).setLossDetectionTimer.tracking =
        { t.detect idx now lossDelay with timer := timer } := by
  obtain ⟨timer, harms, htimer⟩ := (c.detectAndHandleLoss idx now).setLossDetectionTimer_tracking
  rw [detectAndHandleLoss_tracking, h] at harms htimer
  exact ⟨_, timer, harms, htimer⟩

theorem onAcked_tracking (outcome : AckOutcome)
    (largest delay : Nat) (now : Time) :
    let sampled := ((c.sampleRtt idx outcome largest delay now).onPacketsAcked outcome.newlyAcked
      now).logAll (outcome.newlyAcked.map (.acked idx))
    ((outcome.newlyAcked.flatMap (·.frames)).foldl (onFrameAcked now)
      (if outcome.ackedAckEliciting then sampled.resetProbes else sampled)).tracking
        = c.tracking := by
  intro sampled
  have hevents : ∀ e ∈ outcome.newlyAcked.map (Event.acked idx (P := P)), e.heard = none := by
    intro e he
    obtain ⟨p, -, rfl⟩ := List.mem_map.mp he
    rfl
  have hsampled : sampled.tracking = c.tracking := (logAll_tracking _ hevents).trans
      ((onPacketsAcked_tracking _ _ _).trans (sampleRtt_tracking _ _ _ _ _ _))
  refine (foldl_kept (onFrameAcked_tracking now) _ _).trans ?_
  split
  · exact hsampled
  · exact hsampled

/-- An `ACK` frame that covers nothing is heard, and another one also finds what is lost and
sets the timer. -/
theorem processAck_tracking (packetType : PacketType)
    (largest delay firstRange : Nat) (ranges : List AckRange) :
    let heard := c.tracking.hear (spaceIndex packetType) largest firstRange
      (ranges.map fun r => (r.gap, r.range))
    let after := ((c.log (.received packetType (.ack largest delay firstRange ranges))).processAck
      now packetType largest delay firstRange ranges).tracking
    (((c.tracking.stores.get (spaceIndex packetType)).onAck largest firstRange
        (ranges.map fun r => (r.gap, r.range))).2.newlyAcked = [] ∧ after = heard) ∨
      ∃ lossDelay timer, (heard.detect (spaceIndex packetType) now lossDelay).Arms timer ∧
        after = { heard.detect (spaceIndex packetType) now lossDelay with timer := timer } := by
  intro heard after
  have hheard : ({ c.log (.received packetType (.ack largest delay firstRange ranges)) with
      spaces := c.spaces.set (spaceIndex packetType)
        ((c.spaces.get (spaceIndex packetType)).onAckReceived largest)
      sentPackets := c.sentPackets.set (spaceIndex packetType)
        ((c.sentPackets.get (spaceIndex packetType)).onAck largest firstRange
          (ranges.map fun r => (r.gap, r.range))).1 } : Connection P).tracking = heard := by
    cases packetType <;> rfl
  simp only [after, processAck]
  split
  · rename_i hempty
    exact .inl ⟨List.isEmpty_iff.mp hempty, hheard⟩
  · refine .inr (detectAndArm_tracking ?_ _ now)
    exact (onAcked_tracking _ _ _ _ _ _).trans hheard

variable (datagram : Bytes)

theorem processAck_tracks
    (packetType : PacketType) (largest delay firstRange : Nat) (ranges : List AckRange) :
    c.tracking.Step (.handleDatagram now datagram)
      ((c.log (.received packetType (.ack largest delay firstRange ranges))).processAck now
        packetType largest delay firstRange ranges).tracking := by
  rcases processAck_tracking c now packetType largest delay firstRange ranges
    with ⟨hnone, hafter⟩ | ⟨lossDelay, timer, harms, hafter⟩
  · rw [hafter]
    exact .hear now datagram _ _ _ _ hnone
  · rw [hafter]
    exact .ack now datagram _ _ _ _ lossDelay harms

theorem onProbeTimeout_tracking : c.onProbeTimeout.tracking = c.tracking := by
  have holdest : ∀ (d : Connection P) (idx : SpaceKind), (d.requeueOldest idx).tracking = d.tracking := by
    intro d idx
    simp only [requeueOldest]
    split
    · rfl
    · exact foldl_kept (fun e frame => requeueFrame_tracking e idx frame) _ _
  simp only [onProbeTimeout]
  split
  · exact (holdest _ _).trans ((holdest _ _).trans (holdest _ _))
  · rfl

theorem lossTimerDue_tracks :
    c.tracking.Step (.handleTimeout now) (c.lossTimerDue now).tracking := by
  have hprobe : c.tracking.Step (.handleTimeout now)
      c.onProbeTimeout.setLossDetectionTimer.tracking := by
    obtain ⟨timer, harms, htimer⟩ := c.onProbeTimeout.setLossDetectionTimer_tracking
    rw [htimer]
    rw [onProbeTimeout_tracking] at harms ⊢
    exact .arm harms
  simp only [lossTimerDue]
  split
  · simp only [onLossTimeout]
    split
    · split
      · rename_i space _ _
        obtain ⟨lossDelay, timer, harms, hafter⟩ := detectAndArm_tracking (c := c) rfl space now
        rw [hafter]
        exact .lose now space lossDelay harms
      · exact hprobe
    · exact hprobe
  · exact .same

/-! ## Updates -/

theorem takeFrame_tracks (packetType : PacketType) (frame : Frame) :
    c.tracking.Step (.handleDatagram now datagram)
      (c.takeFrame now packetType frame).1.tracking := by
  cases frame with
  | ack largest delay firstRange ranges =>
    exact processAck_tracks c now datagram packetType largest delay firstRange ranges
  | crypto offset data =>
    exact tracks_of_eq (recvCrypto_kept (fun _ _ _ _ => rfl) (c.log _) packetType offset data)
  | _ => exact tracks_of_eq (tracking_of_core (takeFrame_core c now packetType rfl))

theorem Update.tracks {c : Connection P} (h : Update op c d) : c.tracking.Step op d.tracking := by
  cases h with
  | call c hsimple =>
    by_cases hkey : ∃ now, op = .initiateKeyUpdate now
    · obtain ⟨now, rfl⟩ := hkey
      refine tracks_of_eq ?_
      simp only [step, initiateKeyUpdate]
      split <;> split <;> rfl
    · exact tracks_of_eq (tracking_of_core (step_core c hsimple fun now hop => hkey ⟨now, hop⟩))
  | pump op c => exact tracks_of_eq (unkeyed_tracking.pumpOnce c)
  | refresh op c => exact tracks_of_eq (tracking_of_core (refreshHandshakeComplete_core c))
  | retry c now datagram offset =>
    simp only [recvRetryPacket]
    split
    · exact .same
    · exact .retry now datagram
  | earlyKeys | adopt | keepAlive | mtu =>
    refine tracks_of_eq ?_
    simp only [tryInstallZeroRttKeys, adoptPeerCid, keepAliveDue, mtuProbeDue]
    split <;> rfl
  | follow c now =>
    obtain ⟨_, _, -, hfollow⟩ := performKeyUpdate_conn c now
    exact tracks_of_eq (hfollow ▸ rfl)
  | frame c now datagram packetType frame => exact takeFrame_tracks c now datagram packetType frame
  | note c now datagram space pn ackEliciting =>
    refine tracks_of_eq ?_
    cases space <;> rfl
  | close c now out => exact emitClose_tracks c now out out
  | advance c now out => exact tracks_of_eq (tracking_of_core (advanceRecvFlow_core c))
  | initial c now out buf | handshake c now out buf | application c now out buf =>
    exact writeIf_tracks _ c now _ buf out
  | early c now out buf wroteInitial => exact writeEarly_tracks wroteInitial c now buf out
  | wrote c now out =>
    obtain ⟨timer, harms, htimer⟩ := (c.armIdleTimer now).setLossDetectionTimer_tracking
    rw [htimer]
    exact .arm harms
  | loss c now => exact lossTimerDue_tracks c now
  | _ => exact .same

theorem Updates.tracking {I : Tracking → Prop}
    (step : ∀ {t t'}, I t → Tracking.Step t op t' → I t') {c : Connection P} (h : I c.tracking)
    (hd : Updates op c d) : I d.tracking :=
  hd.invariant (I := fun d => I d.tracking) (fun hc hupdate => step hc hupdate.tracks) h

theorem run_tracking {I : Tracking → Prop}
    (step : ∀ {t t' op}, I t → Tracking.Step t op t' → I t') {c : Connection P} (h : I c.tracking)
    (ops : List Op) : I (c.run ops).tracking :=
  run_invariant (I := fun d : Connection P => I d.tracking)
    (fun d op hd => (step_updates d op).tracking step hd) ops h

end Connection

theorem Connection.Fresh.tracking {c : Connection P} (h : c.Fresh) :
    c.tracking =
      { next := .const 0, acked := .const none, stores := .const {}, due := .const none
        timer := none, heard := [] } := by
  cases h <;> rfl

end OxiQuic
