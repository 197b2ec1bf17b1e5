import OxiQuic.Connection.Timeouts
import OxiQuic.Connection.LossTimer

/-!
# Timers that lie ahead

What the timers depend on is `Connection.alarms`.  Polling keeps every timer ahead of the time at
which it is done if the timers that a datagram sets again lie ahead as well (`Alarms.Calm`).
Handling a timeout leads to such a state exactly if no timer was handled too late: a probe timeout
is set again from the time the oldest packet was sent, so one that fires late stays in the past.
-/

namespace OxiQuic

open Lib

variable {P : Platform} {c : Connection P} {now : Time} {Q : Time → Prop}

/-! ## The loss timer -/

theorem earliestOf_forall_iff {times : List Time} (hmono : ∀ s t, s ≤ t → Q s → Q t) :
    (∀ t, earliestOf times = some t → Q t) ↔ ∀ t ∈ times, Q t := by
  rw [earliestOf_eq_min?]
  constructor
  · intro h x hx
    obtain ⟨t, ht⟩ := Option.ne_none_iff_exists'.mp
      (mt List.min?_eq_none_iff.mp (List.ne_nil_of_mem hx))
    exact hmono _ _ ((List.min?_eq_some_iff.mp ht).2 x hx) (h t ht)
  · exact fun h t ht => h t (List.min?_eq_some_iff.mp ht).1

namespace Connection

theorem expired_eq_false_iff {deadline : Option Time} :
    expired deadline now = false ↔ ∀ t, deadline = some t → now < t := by
  cases deadline with
  | none => exact ⟨fun _ _ h => (by cases h), fun _ => rfl⟩
  | some d => simp [expired]

end Connection

open Connection (expired expired_eq_false_iff)

/-- The earliest time at which a packet was sent that is to be acknowledged. -/
def earliestSent (sent : PerSpace SentPackets) : Option Time :=
  earliestOf ([sent.initial, sent.handshake, sent.application].filterMap
    (·.earliestAckElicitingTime))

/-- The loss timer as it is set for packets that were sent: the next loss by time, or else the
probe timeout of the oldest packet. -/
def LossDetection.timer (l : LossDetection) (ptoBase : Time) (sent : PerSpace SentPackets) :
    Option Time :=
  match l.earliestLossTime with
  | some (lossTime, _) => some lossTime
  | none => (earliestSent sent).map (l.ptoDeadline · ptoBase)

theorem SentPackets.earliestAckElicitingTime_forall_iff {s : SentPackets}
    (hmono : ∀ s t, s ≤ t → Q s → Q t) :
    (∀ t, s.earliestAckElicitingTime = some t → Q t) ↔
      ∀ pn p, s.sent.get? pn = some p → p.ackEliciting = true → Q p.timeSent := by
  rw [earliestAckElicitingTime, earliestOf_forall_iff hmono]
  simp only [List.forall_mem_map, List.mem_filter]
  constructor
  · exact fun h pn p hp heliciting => h p ⟨OrdMap.mem_values.mpr ⟨pn, hp⟩, heliciting⟩
  rintro h p ⟨hp, heliciting⟩
  obtain ⟨pn, hget⟩ := OrdMap.mem_values.mp hp
  exact h pn p hget heliciting

theorem earliestSent_forall_iff (sent : PerSpace SentPackets) (hmono : ∀ s t, s ≤ t → Q s → Q t) :
    (∀ t, earliestSent sent = some t → Q t) ↔
      ∀ kind pn p, (sent.get kind).sent.get? pn = some p → p.ackEliciting = true →
        Q p.timeSent := by
  have hspaces : (∀ t, earliestSent sent = some t → Q t) ↔
      ∀ kind, ∀ t, (sent.get kind).earliestAckElicitingTime = some t → Q t := by
    rw [earliestSent, earliestOf_forall_iff hmono]
    simp only [List.mem_filterMap, List.mem_cons, List.not_mem_nil, or_false]
    constructor
    · intro h kind t ht
      cases kind with
      | initial => exact h t ⟨_, .inl rfl, ht⟩
      | handshake => exact h t ⟨_, .inr (.inl rfl), ht⟩
      | application => exact h t ⟨_, .inr (.inr rfl), ht⟩
    · rintro h t ⟨s, rfl | rfl | rfl, ht⟩
      · exact h .initial t ht
      · exact h .handshake t ht
      · exact h .application t ht
  rw [hspaces]
  exact forall_congr' fun kind => SentPackets.earliestAckElicitingTime_forall_iff hmono

variable {sent : PerSpace SentPackets} {l : LossDetection}

/-- The timer lies ahead exactly if the next loss by time does, or there is none and the probe
timeout of each packet does. -/
theorem LossDetection.timer_ahead_iff {ptoBase : Time} :
    expired (l.timer ptoBase sent) now = false ↔
      (∀ t space, l.earliestLossTime = some (t, space) → now < t) ∧
        (l.earliestLossTime = none → ∀ kind pn p, (sent.get kind).sent.get? pn = some p →
          p.ackEliciting = true → now < l.ptoDeadline p.timeSent ptoBase) := by
  have hmono : ∀ s t, s ≤ t → now < l.ptoDeadline s ptoBase → now < l.ptoDeadline t ptoBase :=
    fun s t hle h => Nat.lt_of_lt_of_le h (Nat.add_le_add_right hle _)
  rw [expired_eq_false_iff, timer]
  cases hloss : l.earliestLossTime with
  | some first =>
    constructor
    · intro h
      refine ⟨fun t space hfirst => h t ?_, fun hnone => (by cases hnone)⟩
      rw [Option.some.inj hfirst]
    · rintro ⟨h, -⟩ t ht
      exact h first.1 first.2 rfl |>.trans_eq (Option.some.inj ht)
  | none =>
    rw [← earliestSent_forall_iff sent hmono]
    constructor
    · intro h
      refine ⟨fun t space hfirst => (by cases hfirst), fun _ t ht => h _ ?_⟩
      rw [ht]
      rfl
    rintro ⟨-, h⟩ t ht
    obtain ⟨s, hs, rfl⟩ := Option.map_eq_some_iff.mp ht
    exact h rfl s hs

theorem LossDetection.lt_ptoDeadline (l : LossDetection) (now : Time) {ptoBase : Time}
    (hbase : 0 < ptoBase) : now < l.ptoDeadline now ptoBase :=
  Nat.lt_add_of_pos_right (Nat.mul_pos hbase (Nat.two_pow_pos _))

theorem LossDetection.timer_onPacketSent {ptoBase : Time}
    (h : expired (l.timer ptoBase sent) now = false)
    (hbase : 0 < ptoBase) (kind : SpaceKind) {packet : SentPacket}
    (hpacket : packet.timeSent = now) :
    expired (l.timer ptoBase (sent.set kind ((sent.get kind).onPacketSent packet))) now
      = false := by
  obtain ⟨hloss, hprobe⟩ := timer_ahead_iff.mp h
  refine timer_ahead_iff.mpr ⟨hloss, fun hnone kind' pn p hp heliciting => ?_⟩
  by_cases hkind : kind' = kind
  · subst hkind
    rw [PerSpace.get_set_self, SentPackets.onPacketSent, OrdMap.get?_insert] at hp
    split at hp
    · obtain rfl := Option.some.inj hp
      rw [hpacket]
      exact l.lt_ptoDeadline now hbase
    · exact hprobe hnone kind' pn p hp heliciting
  · rw [PerSpace.get_set_of_ne _ _ hkind] at hp
    exact hprobe hnone kind' pn p hp heliciting

/-! ## What timers depend on -/

/-- What the timers depend on. -/
structure Alarms (P : Platform) where
  state : ConnectionState
  idleTimeout : Option Time
  idleDeadline : Option Time
  keepAliveInterval : Option Time
  nextKeepAlive : Option Time
  lossTimer : Option Time
  loss : LossDetection
  rtt : RttEstimator
  peerMaxAckDelay : Time
  sent : PerSpace SentPackets
  nextMtuProbe : Option Time
  complete : Bool
  tls : P.Session

namespace Alarms

def ptoBase (a : Alarms P) : Time := a.rtt.ptoBase a.peerMaxAckDelay

theorem ptoBase_pos (a : Alarms P) : 0 < a.ptoBase := by
  have hgranularity : 0 < max (a.rtt.rttvar * 4) kGranularity :=
    Nat.lt_of_lt_of_le (by decide) (Nat.le_max_right _ _)
  exact Nat.add_pos_left (Nat.add_pos_right _ hgranularity) _

/-- The loss timer if it were set again. -/
def due (a : Alarms P) : Option Time := a.loss.timer a.ptoBase a.sent

/-- Every timer lies ahead of `now`, also if a datagram is sent at that time, and no poll completes
the handshake. -/
structure Calm (a : Alarms P) (now : Time) : Prop where
  idle : expired a.idleDeadline now = false
  timeout : a.idleTimeout ≠ some 0
  keepAlive : expired a.nextKeepAlive now = false
  interval : a.keepAliveInterval ≠ some 0
  loss : expired a.lossTimer now = false
  due : expired a.due now = false
  mtu : expired a.nextMtuProbe now = false
  settled : a.complete = true ∨ ∀ n, P.isHandshaking (P.afterWrites a.tls n) = true

end Alarms

namespace Connection

def alarms (c : Connection P) : Alarms P where
  state := c.state
  idleTimeout := c.timers.idleTimeout
  idleDeadline := c.timers.idleDeadline
  keepAliveInterval := c.timers.keepAliveInterval
  nextKeepAlive := c.timers.nextKeepAlive
  lossTimer := c.recovery.lossTimer
  loss := c.recovery.loss
  rtt := c.recovery.rtt
  peerMaxAckDelay := c.recovery.peerMaxAckDelay
  sent := c.sentPackets
  nextMtuProbe := c.mtu.nextMtuProbe
  complete := c.hs.handshakeComplete
  tls := c.tls

theorem nextTimeout_ahead_iff :
    (∀ t, c.nextTimeout = some t → now < t) ↔
      expired c.alarms.idleDeadline now = false ∧ expired c.alarms.lossTimer now = false ∧
        expired c.alarms.nextKeepAlive now = false ∧ expired c.alarms.nextMtuProbe now = false := by
  have hmono : ∀ s t : Time, s ≤ t → now < s → now < t := fun _ _ hle h => Nat.lt_of_lt_of_le h hle
  rw [nextTimeout, earliestOf_forall_iff hmono]
  simp only [List.mem_filterMap, List.mem_cons, List.not_mem_nil, or_false, id_eq,
    expired_eq_false_iff]
  constructor
  · exact fun h => ⟨fun t ht => h t ⟨_, .inl rfl, ht⟩, fun t ht => h t ⟨_, .inr (.inl rfl), ht⟩,
      fun t ht => h t ⟨_, .inr (.inr (.inl rfl)), ht⟩,
      fun t ht => h t ⟨_, .inr (.inr (.inr rfl)), ht⟩⟩
  rintro ⟨hidle, hloss, hkeep, hmtu⟩ t ⟨timer, rfl | rfl | rfl | rfl, ht⟩
  · exact hidle t ht
  · exact hloss t ht
  · exact hkeep t ht
  · exact hmtu t ht

/-! ## Polling -/

theorem unkeyed_alarms : Unkeyed (alarms : Connection P → Alarms P) :=
  ⟨fun _ _ _ _ _ => rfl, fun _ _ => rfl, fun _ _ _ _ => rfl⟩

theorem pumpOnce_alarms (c : Connection P) :
    c.pumpOnce.alarms = { c.alarms with tls := (P.writeHs c.tls).1 } := unkeyed_alarms.pumpOnce c

theorem Calm.pumpOnce (h : c.alarms.Calm now) : c.pumpOnce.alarms.Calm now := by
  rw [pumpOnce_alarms]
  refine { h with settled := h.settled.imp_right fun hgoes n => ?_ }
  show P.isHandshaking (P.afterWrites (P.afterWrites c.tls 1) n) = true
  rw [Platform.afterWrites_add]
  exact hgoes _

theorem Calm.pumpWriteHs (h : c.alarms.Calm now) : c.pumpWriteHs.alarms.Calm now := by
  have hpumped : (pumpFuel (P.keyChangesLeft c.tls + 1) c).alarms.Calm now :=
    pumpFuel_invariant (I := fun d : Connection P => d.alarms.Calm now)
      (fun _ hd => Calm.pumpOnce hd) _ h
  simp only [Connection.pumpWriteHs, refreshHandshakeComplete]
  split
  · rename_i hdone
    rw [Bool.and_eq_true, Bool.not_eq_true', Bool.not_eq_true'] at hdone
    rcases hpumped.settled with hcomplete | hgoes
    · exact absurd (hcomplete.symm.trans hdone.1) Bool.noConfusion
    · exact absurd ((hgoes 0).symm.trans hdone.2) Bool.noConfusion
  · exact hpumped

theorem Calm.recordSent (h : c.alarms.Calm now) (kind : SpaceKind)
    (pn sentBytes : Nat) (frames : List SentFrame) (ackEliciting : Bool) :
    (c.recordSent kind now pn sentBytes frames ackEliciting).alarms.Calm now := by
  simp only [Connection.recordSent]
  split
  · exact { h with due := LossDetection.timer_onPacketSent h.due (Alarms.ptoBase_pos _) kind rfl }
  · exact h

theorem Calm.writeIf (h : c.alarms.Calm now) (cond : Bool)
    (kind : SpaceKind) (out : Bytes) : (writeIf cond c now kind out).1.alarms.Calm now := by
  refine writeIf_cases (I := fun r => r.1.alarms.Calm now) h fun budget _ => ?_
  have hfilled : (c.fillPayload kind budget).conn.alarms = c.alarms :=
    (congrArg alarms (fillPayload_still budget c kind) :)
  split
  · exact hfilled ▸ h
  have hbefore : ((c.fillPayload kind budget).conn.beforeSeal kind now).alarms.Calm now := by
    obtain ⟨_, _, -, hsame⟩ := beforeSeal_conn (c.fillPayload kind budget).conn kind now
    rw [hsame]
    exact (hfilled ▸ h :)
  simp only [sealFilled]
  split
  · exact hbefore
  split
  · exact hbefore
  · exact Calm.recordSent (c := log (allocate _ kind) _) hbefore kind _ _ _ _

theorem Calm.writeEarly (h : c.alarms.Calm now)
    (wroteInitial : Bool) (out : Bytes) : (writeEarly wroteInitial c out).1.alarms.Calm now := by
  exact writeEarly_cases (I := fun r => r.1.alarms.Calm now) h (fun _ _ _ => h) fun _ _ _ _ => h

theorem setLossDetectionTimer_alarms (c : Connection P) :
    c.setLossDetectionTimer.alarms = { c.alarms with lossTimer := c.alarms.due } := by
  have hacross : c.earliestAckElicitingAcrossSpaces = earliestSent c.sentPackets := rfl
  have htimer : c.setLossDetectionTimer.recovery.lossTimer = c.alarms.due := by
    simp only [setLossDetectionTimer, Alarms.due, LossDetection.timer, hacross, alarms]
    cases c.recovery.loss.earliestLossTime with
    | some first => rfl
    | none => cases earliestSent c.sentPackets <;> rfl
  rw [← htimer]
  rfl

theorem expired_later {wait : Time} (h : wait ≠ 0) : expired (some (now + wait)) now = false :=
  expired_eq_false_iff.mpr fun t ht => by
    obtain rfl := Option.some.inj ht
    exact Nat.lt_add_of_pos_right (Nat.pos_of_ne_zero h)

theorem Calm.armTimers (h : c.alarms.Calm now) :
    (c.armIdleTimer now).setLossDetectionTimer.alarms.Calm now := by
  rw [setLossDetectionTimer_alarms]
  have hdue : (c.armIdleTimer now).alarms.due = c.alarms.due := rfl
  refine { h with
    loss := hdue ▸ h.due, idle := ?_, timeout := ?_, keepAlive := ?_, interval := ?_ }
  · show expired (c.timers.armIdleTimer now).idleDeadline now = false
    have hidle := h.idle
    have htimeout := h.timeout
    simp only [alarms] at hidle htimeout
    simp only [Timers.armIdleTimer]
    cases ht : c.timers.idleTimeout with
    | none => cases c.timers.keepAliveInterval <;> exact hidle
    | some timeout =>
      have hpos : timeout ≠ 0 := fun hzero => htimeout (ht.trans (congrArg some hzero))
      cases c.timers.keepAliveInterval <;> exact expired_later hpos
  · show (c.timers.armIdleTimer now).idleTimeout ≠ some 0
    have htimeout := h.timeout
    simp only [alarms] at htimeout
    simp only [Timers.armIdleTimer]
    split <;> split <;> exact htimeout
  · show expired (c.timers.armIdleTimer now).nextKeepAlive now = false
    have hkeep := h.keepAlive
    have hinterval := h.interval
    simp only [alarms] at hkeep hinterval
    simp only [Timers.armIdleTimer]
    cases hi : c.timers.keepAliveInterval with
    | none => cases c.timers.idleTimeout <;> (simp only [hi]; exact hkeep)
    | some interval =>
      have hpos : interval ≠ 0 := fun hzero => hinterval (hi.trans (congrArg some hzero))
      cases c.timers.idleTimeout <;> (simp only [hi]; exact expired_later hpos)
  · show (c.timers.armIdleTimer now).keepAliveInterval ≠ some 0
    have hinterval := h.interval
    simp only [alarms] at hinterval
    simp only [Timers.armIdleTimer]
    split <;> split <;> exact hinterval

theorem Calm.writeDatagram (h : c.alarms.Calm now) (out : Bytes) :
    (c.writeDatagram now out).1.alarms.Calm now :=
  writeDatagram_invariant (I := fun d : Connection P => d.alarms.Calm now)
    (fun cond _ kind out hd => Calm.writeIf hd cond kind out)
    (fun wroteInitial _ out hd => Calm.writeEarly hd wroteInitial out)
    (fun _ hd => Calm.armTimers hd) h out

theorem Calm.pollTransmit (h : c.alarms.Calm now) (out : Bytes) :
    (c.pollTransmit now out).1.alarms.Calm now := by
  have hpumped := Calm.pumpWriteHs h
  have hadvance : ∀ {d : Connection P}, d.alarms.Calm now → d.advanceRecvFlow.alarms.Calm now :=
    fun hd => (advanceRecvFlow_kept (f := alarms) (fun _ _ _ _ _ => rfl) _).symm ▸ hd
  simp only [Connection.pollTransmit]
  split
  · exact hpumped
  split
  · have hclose : (c.pumpWriteHs.emitClose out).1.alarms.Calm now := by
      obtain ⟨_, _, hclosed, -⟩ := emitClose_conn c.pumpWriteHs out
      rw [hclosed]
      exact hpumped
    split
    · exact { hclose with }
    · exact Calm.writeDatagram (hadvance hclose) _
  · exact Calm.writeDatagram (hadvance hpumped) out

theorem Calm.drain (n : Nat) (h : c.alarms.Calm now) : (c.drain now n).alarms.Calm now := by
  induction n generalizing c with
  | zero => exact h
  | succ n ih =>
    have hpolled := Calm.pollTransmit h []
    simp only [Connection.drain]
    split
    · exact hpolled
    · exact ih hpolled

/-! ## Timeouts -/

/-- The loss timer that is set when it has expired: with the losses by time that are due taken out
of the record, or with one more probe timeout counted. -/
def afterLoss (c : Connection P) (now : Time) : Option Time :=
  let probed := c.recovery.loss.increasePtoCount.timer c.alarms.ptoBase c.sentPackets
  match c.recovery.loss.earliestLossTime with
  | some (lossTime, space) =>
    if lossTime ≤ now then
      let detected := (c.sentPackets.get space).detectLost now c.recovery.rtt.lossDelay
      (c.recovery.loss.setLossTime space detected.2.2).timer c.alarms.ptoBase
        (c.sentPackets.set space detected.1)
    else probed
  | none => probed

variable (c)

variable (idx : SpaceKind) (frame : SentFrame)

theorem requeueFrame_alarms : (c.requeueFrame idx frame).alarms = c.alarms := by
  cases frame with
  | crypto | newToken =>
    simp only [requeueFrame]
    split <;> rfl
  | _ => rfl

theorem onFrameLost_alarms : (c.onFrameLost idx frame).alarms = c.alarms := by
  cases frame with
  | mtuProbe size =>
    simp only [onFrameLost, Mtu.onMtuProbeLost]
    split <;> rfl
  | _ => exact requeueFrame_alarms c idx _

theorem onPacketsLost_alarms (lost : List SentPacket) (now : Time) :
    (c.onPacketsLost lost now).alarms = c.alarms := by
  simp only [onPacketsLost]
  split <;> rfl

theorem detectAndHandleLoss_alarms (now : Time) :
    (c.detectAndHandleLoss idx now).alarms = { c.alarms with
      loss := c.recovery.loss.setLossTime idx
        ((c.sentPackets.get idx).detectLost now c.recovery.rtt.lossDelay).2.2
      sent := c.sentPackets.set idx
        ((c.sentPackets.get idx).detectLost now c.recovery.rtt.lossDelay).1 } := by
  simp only [detectAndHandleLoss]
  split
  · rfl
  · exact (onPacketsLost_alarms _ _ _).trans
      (foldl_kept (fun d frame => onFrameLost_alarms d idx frame) _ _)

theorem onProbeTimeout_alarms :
    c.onProbeTimeout.alarms = if (earliestSent c.sentPackets).isSome then
      { c.alarms with loss := c.recovery.loss.increasePtoCount } else c.alarms := by
  have holdest : ∀ (d : Connection P) (idx : SpaceKind), (d.requeueOldest idx).alarms = d.alarms := by
    intro d idx
    simp only [requeueOldest]
    split
    · rfl
    · exact foldl_kept (fun e frame => requeueFrame_alarms e idx frame) _ _
  have hacross : c.earliestAckElicitingAcrossSpaces = earliestSent c.sentPackets := rfl
  simp only [onProbeTimeout, hacross]
  split
  · exact (holdest _ _).trans ((holdest _ _).trans (holdest _ _))
  · rfl

/-- An expired loss timer is set again, and would be set to the same if it were once more. -/
theorem onLossTimeout_alarms (now : Time) :
    ∃ loss sent, (c.onLossTimeout now).alarms
        = { c.alarms with loss := loss, sent := sent, lossTimer := c.afterLoss now } ∧
      loss.timer c.alarms.ptoBase sent = c.afterLoss now := by
  have hprobe : ∃ loss sent, c.onProbeTimeout.setLossDetectionTimer.alarms = { c.alarms with
            loss := loss, sent := sent
            lossTimer := c.recovery.loss.increasePtoCount.timer c.alarms.ptoBase c.sentPackets } ∧
      loss.timer c.alarms.ptoBase sent
        = c.recovery.loss.increasePtoCount.timer c.alarms.ptoBase c.sentPackets := by
    have hprobed := onProbeTimeout_alarms c
    rw [setLossDetectionTimer_alarms, hprobed]
    split
    · exact ⟨_, _, rfl, rfl⟩
    rename_i hnone
    have htimer : c.recovery.loss.increasePtoCount.timer c.alarms.ptoBase c.sentPackets
        = c.recovery.loss.timer c.alarms.ptoBase c.sentPackets := by
      rw [Bool.not_eq_true, Option.isSome_eq_false_iff, Option.isNone_iff_eq_none] at hnone
      simp only [LossDetection.timer, hnone]
      rfl
    rw [htimer]
    exact ⟨_, _, rfl, rfl⟩
  simp only [onLossTimeout, afterLoss]
  cases c.recovery.loss.earliestLossTime with
  | none => exact hprobe
  | some first =>
    by_cases hdue : first.1 ≤ now
    · simp only [hdue, if_true]
      rw [setLossDetectionTimer_alarms, detectAndHandleLoss_alarms]
      exact ⟨_, _, rfl, rfl⟩
    · simp only [hdue, if_false]
      exact hprobe

variable {c}

/-- What handling a timeout does to the timers of a connection that is not idle for too long. -/
theorem handleTimeout_alarms (hidle : expired c.timers.idleDeadline now = false) :
    ∃ loss sent timer, (c.handleTimeout now).alarms = { c.alarms with
        nextKeepAlive :=
          if expired c.timers.nextKeepAlive now then
            match c.timers.keepAliveInterval with
            | some interval => some (now + interval)
            | none => c.timers.nextKeepAlive
          else c.timers.nextKeepAlive
        loss := loss, sent := sent, lossTimer := timer
        nextMtuProbe :=
          if expired c.mtu.nextMtuProbe now && c.state = .established then none
          else c.mtu.nextMtuProbe } ∧
      (expired c.recovery.lossTimer now = true →
        timer = c.afterLoss now ∧ loss.timer c.alarms.ptoBase sent = timer) ∧
      (expired c.recovery.lossTimer now = false →
        timer = c.recovery.lossTimer ∧ loss = c.recovery.loss ∧ sent = c.sentPackets) := by
  have hkeep : (c.keepAliveDue now).alarms = { c.alarms with
      nextKeepAlive :=
        if expired c.timers.nextKeepAlive now then
          match c.timers.keepAliveInterval with
          | some interval => some (now + interval)
          | none => c.timers.nextKeepAlive
        else c.timers.nextKeepAlive } := by
    simp only [keepAliveDue]
    split <;> rfl
  have hmtu : ∀ d : Connection P, (d.mtuProbeDue now).alarms = { d.alarms with
      nextMtuProbe :=
        if expired d.mtu.nextMtuProbe now && d.state = .established then none
        else d.mtu.nextMtuProbe } := by
    intro d
    simp only [mtuProbeDue]
    split
    · simp only [Mtu.scheduleMtuProbe]
      split
      · rfl
      · split <;> rfl
    · rfl
  rw [handleTimeout, if_neg (by rw [hidle]; exact Bool.false_ne_true), hmtu]
  have hsame : (c.keepAliveDue now).recovery = c.recovery ∧
      (c.keepAliveDue now).afterLoss now = c.afterLoss now := by
    simp only [keepAliveDue]
    split <;> exact ⟨rfl, rfl⟩
  have hloss : ∃ loss sent timer, ((c.keepAliveDue now).lossTimerDue now).alarms
        = { (c.keepAliveDue now).alarms with loss := loss, sent := sent, lossTimer := timer } ∧
      (expired c.recovery.lossTimer now = true →
        timer = c.afterLoss now ∧ loss.timer c.alarms.ptoBase sent = timer) ∧
      (expired c.recovery.lossTimer now = false →
        timer = c.recovery.lossTimer ∧ loss = c.recovery.loss ∧ sent = c.sentPackets) := by
    rw [lossTimerDue, hsame.1]
    split
    · rename_i hexpired
      obtain ⟨loss, sent, halarms, htimer⟩ := onLossTimeout_alarms (c.keepAliveDue now) now
      have hbase : (c.keepAliveDue now).alarms.ptoBase = c.alarms.ptoBase := by rw [hkeep]; rfl
      rw [hsame.2] at halarms htimer
      rw [hbase] at htimer
      exact ⟨loss, sent, _, halarms, fun _ => ⟨rfl, htimer⟩, fun hnot =>
        absurd (hexpired.symm.trans hnot) Bool.noConfusion⟩
    · rename_i hnot
      refine ⟨c.recovery.loss, c.sentPackets, c.recovery.lossTimer, ?_,
        fun hexpired => absurd hexpired hnot, fun _ => ⟨rfl, rfl, rfl⟩⟩
      rw [hkeep]
      rfl
  obtain ⟨loss, sent, timer, halarms, hexpired, hnot⟩ := hloss
  refine ⟨loss, sent, timer, ?_, hexpired, hnot⟩
  have hprobe : ((c.keepAliveDue now).lossTimerDue now).mtu.nextMtuProbe = c.mtu.nextMtuProbe := by
    rw [hkeep] at halarms
    exact congrArg Alarms.nextMtuProbe halarms
  have hstate : ((c.keepAliveDue now).lossTimerDue now).state = c.state := by
    rw [hkeep] at halarms
    exact congrArg Alarms.state halarms
  rw [hprobe, hstate, halarms, hkeep]

/-- A timeout that is handled at `now` is not handled too late: the connection is not idle for too
long, there is an interval after which to send the next keep-alive, the loss timer lies ahead when
it is set again, and a path MTU probe is due of an established connection only. -/
structure Prompt (c : Connection P) (now : Time) : Prop where
  idle : expired c.timers.idleDeadline now = false
  keepAlive : expired c.timers.nextKeepAlive now = true →
    ∃ interval, c.timers.keepAliveInterval = some interval ∧ 0 < interval
  loss : expired c.recovery.lossTimer now = true → expired (c.afterLoss now) now = false
  mtu : expired c.mtu.nextMtuProbe now = true → c.state = .established

/-- The timers that a datagram sets lie ahead of the time it is sent, and no poll completes the
handshake. -/
structure Rearms (c : Connection P) (now : Time) : Prop where
  timeout : c.timers.idleTimeout ≠ some 0
  interval : c.timers.keepAliveInterval ≠ some 0
  loss : expired c.recovery.lossTimer now = false →
    expired (c.recovery.loss.timer c.alarms.ptoBase c.sentPackets) now = false
  settled : c.hs.handshakeComplete = true ∨ ∀ n, P.isHandshaking (P.afterWrites c.tls n) = true

theorem handleTimeout_calm (h : c.Prompt now)
    (hrearms : c.Rearms now) : (c.handleTimeout now).alarms.Calm now := by
  obtain ⟨loss, sent, timer, halarms, hexpired, hnot⟩ := handleTimeout_alarms h.idle
  have htimer : expired timer now = false ∧
      expired (loss.timer c.alarms.ptoBase sent) now = false := by
    cases hloss : expired c.recovery.lossTimer now with
    | true =>
      obtain ⟨rfl, hagain⟩ := hexpired hloss
      rw [hagain]
      exact ⟨h.loss hloss, h.loss hloss⟩
    | false =>
      obtain ⟨rfl, rfl, rfl⟩ := hnot hloss
      exact ⟨hloss, hrearms.loss hloss⟩
  rw [halarms]
  refine ⟨h.idle, hrearms.timeout, ?_, hrearms.interval, htimer.1, htimer.2, ?_, hrearms.settled⟩
  · cases hkeep : expired c.timers.nextKeepAlive now with
    | true =>
      obtain ⟨interval, hinterval, hpos⟩ := h.keepAlive hkeep
      simp only [hinterval, if_true]
      exact expired_later (Nat.ne_of_gt hpos)
    | false => exact hkeep
  · cases hmtu : expired c.mtu.nextMtuProbe now with
    | true =>
      simp only [h.mtu hmtu, decide_true, Bool.and_self, if_true]
      rfl
    | false => exact hmtu

theorem prompt_of_ahead
    (h : ∀ t, (c.handleTimeout now).nextTimeout = some t → now < t) : c.Prompt now := by
  obtain ⟨hidle, hloss, hkeep, hmtu⟩ := nextTimeout_ahead_iff.mp h
  have hidle' : expired c.timers.idleDeadline now = false := by
    by_contra hnot
    rw [Bool.not_eq_false] at hnot
    rw [handleTimeout, if_pos hnot] at hidle
    exact absurd (hnot.symm.trans hidle) Bool.noConfusion
  obtain ⟨loss, sent, timer, halarms, hexpired, -⟩ := handleTimeout_alarms hidle'
  rw [halarms] at hloss hkeep hmtu
  refine ⟨hidle', fun hdue => ?_, fun hdue => ?_, fun hdue => ?_⟩
  · simp only [hdue, if_true] at hkeep
    cases hinterval : c.timers.keepAliveInterval with
    | none =>
      simp only [hinterval] at hkeep
      exact absurd (hdue.symm.trans hkeep) Bool.noConfusion
    | some interval =>
      simp only [hinterval] at hkeep
      refine ⟨interval, rfl, ?_⟩
      exact Nat.pos_of_lt_add_right (expired_eq_false_iff.mp hkeep _ rfl)
  · exact (hexpired hdue).1 ▸ hloss
  · by_contra hstate
    simp only [hstate, decide_false, Bool.and_false, Bool.false_eq_true, if_false] at hmtu
    exact absurd (hdue.symm.trans hmtu) Bool.noConfusion

end Connection

/-- If a timeout is not handled too late and the timers that a datagram sets lie ahead, then all
timers lie ahead after draining.  If they do after any number of polls, the timeout was not handled
too late. -/
theorem timers_ahead (c : Connection P) (now : Time) :
    (c.Prompt now → c.Rearms now →
      ∀ n t, ((c.handleTimeout now).drain now n).nextTimeout = some t → now < t) ∧
    ((∀ n t, ((c.handleTimeout now).drain now n).nextTimeout = some t → now < t) →
      c.Prompt now) := by
  constructor
  · intro hprompt hrearms n
    have hcalm := Connection.Calm.drain n (Connection.handleTimeout_calm hprompt hrearms)
    exact Connection.nextTimeout_ahead_iff.mpr ⟨hcalm.idle, hcalm.loss, hcalm.keepAlive, hcalm.mtu⟩
  · exact fun h => Connection.prompt_of_ahead (h 0)

/-- A client has connected and waits for an acknowledgement, for which it probes in time. -/
theorem timers_ahead_probe :
    ∀ n t, ((((Plain.client []).run (Plain.joins (Plain.client []) ++
      [.pollTransmit 2 []])).handleTimeout 30000000).drain 30000000 n).nextTimeout = some t →
        30000000 < t := by
  refine (timers_ahead _ _).1 ⟨?_, ?_, ?_, ?_⟩ ⟨?_, ?_, ?_, ?_⟩
  · decide +kernel
  · exact fun hdue => absurd hdue (by decide +kernel)
  · exact fun _ => (by decide +kernel)
  · exact fun hdue => absurd hdue (by decide +kernel)
  · decide +kernel
  · decide +kernel
  · exact fun hahead => absurd hahead (by decide +kernel)
  · exact .inl (by decide +kernel)

/-- A client handles the timeout of its first packet nine seconds after it was sent, and sends a
probe.  Its next timeout is then two seconds after the packet. -/
theorem late_timeout_stays_due :
    ((Plain.client []).run [.pollTransmit 0 []]).nextTimeout = some 999000000 ∧
    ((((Plain.client []).run [.pollTransmit 0 []]).handleTimeout 9000000000).pollTransmit
      9000000000 []).2.2.isSome = true ∧
    ∀ n, 1 < n → ((((Plain.client []).run [.pollTransmit 0 []]).handleTimeout 9000000000).drain
      9000000000 n).nextTimeout = some 1998000000 := by
  refine ⟨by decide +kernel, by decide +kernel, fun n hn => ?_⟩
  -- The second poll gives no datagram, so further ones are not made.
  obtain ⟨n, rfl⟩ := Nat.exists_eq_add_of_lt hn
  have hsent : ((((Plain.client []).run [.pollTransmit 0 []]).handleTimeout 9000000000).pollTransmit
      9000000000 []).2.2 = some 1 := by decide +kernel
  have hnone : (((((Plain.client []).run [.pollTransmit 0 []]).handleTimeout
      9000000000).pollTransmit 9000000000 []).1.pollTransmit 9000000000 []).2.2 = none := by
    decide +kernel
  rw [show 1 + n + 1 = (n + 1) + 1 from by omega, Connection.drain, hsent, Connection.drain, hnone]
  show (((((Plain.client []).run [.pollTransmit 0 []]).handleTimeout 9000000000).pollTransmit
    9000000000 []).1.pollTransmit 9000000000 []).1.nextTimeout = some 1998000000
  decide +kernel

end OxiQuic
