import OxiQuic.Connection.Closure

/-!
# Idle connections

The idle timer is armed by every datagram that arrives and by every poll that writes one, whatever
is in it.  `Connection.step_idle` says what a call does to the deadline.  A connection that goes on
sending to a peer that is gone therefore postpones its end with every datagram
(`idle_deadline_kept_iff`).
-/

namespace OxiQuic

open Lib Plain

variable {P : Platform} (c : Connection P) {out : Bytes} {timeout now t : Time} {op : Op}

/-- The instant that a call is given. -/
def Op.time : Op → Option Time
  | .pollTransmit now _ => some now
  | .handleDatagram now _ => some now
  | .handleTimeout now => some now
  | .initiateKeyUpdate now => some now
  | _ => none

namespace Tenure

/-- The idle timeout is as given, and no deadline lies beyond a limit. -/
structure Within (u : Tenure P) (timeout limit : Time) : Prop where
  idleTimeout : u.idleTimeout = some timeout
  idleDeadline : ∀ deadline, u.idleDeadline = some deadline → deadline ≤ limit

theorem Within.arm {u : Tenure P} (h : u.Within timeout (t + timeout))
    (hnow : now ≤ t) : (u.arm now).Within timeout (t + timeout) := by
  refine ⟨h.idleTimeout, fun deadline hdeadline => ?_⟩
  simp only [Tenure.arm, h.idleTimeout, Option.some.injEq] at hdeadline
  rw [← hdeadline]
  exact Nat.add_le_add_right hnow timeout

theorem Step.within (hop : ∀ now, op.time = some now → now ≤ t)
    {u u' : Tenure P} (h : u.Within timeout (t + timeout)) (hstep : Step op u u') :
    u'.Within timeout (t + timeout) := by
  cases hstep with
  | arrive now | wrote now => exact h.arm (hop now rfl)
  | _ => exact ⟨h.idleTimeout, h.idleDeadline⟩

end Tenure

namespace Connection

/-! ## Polls that send nothing -/

theorem writeIf_packets {cond : Bool} {c : Connection P} {kind : SpaceKind}
    (h : (writeIf cond c now kind out).2.2 = false) :
    (writeIf cond c now kind out).1.packets = c.packets := by
  revert h
  refine writeIf_cases (I := fun r => r.2.2 = false → r.1.packets = c.packets) (fun _ => rfl)
    fun budget _ => ?_
  have hfilled : (c.fillPayload kind budget).conn.packets = c.packets :=
    congrArg (List.filterMap Event.packet) (Fills.keeps (fillPayload_fills _ _ _)).1
  split
  · exact fun _ => hfilled
  obtain ⟨_, _, -, hbefore⟩ := beforeSeal_conn (c.fillPayload kind budget).conn kind now
  simp only [sealFilled, hbefore]
  split
  · exact fun _ => hfilled
  split
  · exact fun _ => hfilled
  · exact fun h => (by cases h)

theorem writeEarly_packets {wroteInitial : Bool} {c : Connection P}
    (h : (writeEarly wroteInitial c out).2.2 = false) :
    (writeEarly wroteInitial c out).1.packets = c.packets := by
  revert h
  exact writeEarly_cases (I := fun r => r.2.2 = false → r.1.packets = c.packets) (fun _ => rfl)
    (fun _ _ _ _ => rfl) fun _ _ _ _ h => by cases h

theorem emitClose_silent {c : Connection P} (h : (c.emitClose out).2.2 = none) :
    (c.emitClose out).1.packets = c.packets := by
  have htaken : c.takeClose.1.packets = c.packets :=
    congrArg (fun u : Dealings P => u.trace.filterMap Event.packet) (takeClose_dealings c)
  rw [← htaken]
  revert h
  simp only [emitClose]
  generalize c.takeClose = taken
  split
  · exact fun _ => rfl
  split
  · exact fun _ => rfl
  split
  · exact fun _ => rfl
  · exact fun h => (by cases h)

theorem writeDatagram_packets {c : Connection P} (h : (c.writeDatagram now out).2.2 = none) :
    (c.writeDatagram now out).1.packets = c.packets := by
  simp only [writeDatagram] at h ⊢
  split at h
  · cases h
  rename_i hwrote
  rw [if_neg hwrote]
  simp only [Bool.or_eq_true, not_or, Bool.not_eq_true] at hwrote
  obtain ⟨⟨⟨hini, hhs⟩, hearly⟩, happ⟩ := hwrote
  exact (writeIf_packets happ).trans ((writeEarly_packets hearly).trans
    ((writeIf_packets hhs).trans (writeIf_packets hini)))

/-! ## The idle timer -/

/-- The instant at which a call arms the idle timer. -/
def rearms (c : Connection P) : Op → Option Time
  | .pollTransmit now out =>
    if (c.pollTransmit now out).2.2.isSome ∧ (c.pollTransmit now out).1.state ≠ .closed then
      some now
    else none
  | .handleDatagram now _ => some now
  | _ => none

/-- The deadline after the idle timer was armed, if it was. -/
def armed (c : Connection P) (at? : Option Time) : Option Time :=
  match c.timers.idleTimeout, at? with
  | some timeout, some now => some (now + timeout)
  | _, _ => c.timers.idleDeadline

theorem armed_none : c.armed none = c.timers.idleDeadline := by
  simp only [armed]
  split
  · cases ‹(none : Option Time) = some _›
  · rfl

theorem arm_idleDeadline (now : Time) : (c.tenure.arm now).idleDeadline = c.armed (some now) := by
  simp only [Tenure.arm, armed, tenure]
  cases c.timers.idleTimeout <;> rfl

theorem writeDatagram_tenure (now : Time) (out : Bytes) :
    (c.writeDatagram now out).1.tenure
      = if (c.writeDatagram now out).2.2.isSome then c.tenure.arm now else c.tenure := by
  have happ : ∀ ini hs early, ini = c.writeInitial now out →
      hs = ini.1.writeHandshake now ini.2.1 → early = writeEarly ini.2.2 hs.1 hs.2.1 →
      (writeApplication ini.2.2 early.1 now early.2.1).1.tenure = c.tenure := by
    rintro ini hs early rfl rfl rfl
    exact (writeIf_tenure _ now .application _ _).trans ((writeEarly_tenure _ _ _).trans
      ((writeIf_tenure _ now .handshake _ _).trans (writeIf_tenure c now .initial _ out)))
  have happ := happ _ _ _ rfl rfl rfl
  simp only [writeDatagram]
  split
  · exact (armIdleTimer_tenure _ now).trans (congrArg (fun t : Tenure P => t.arm now) happ)
  · exact happ

theorem pumpWriteHs_idle :
    c.pumpWriteHs.timers.idleTimeout = c.timers.idleTimeout ∧
      c.pumpWriteHs.timers.idleDeadline = c.timers.idleDeadline := by
  refine (pumpWriteHs_updates .takeReceivedToken c).tenure (I := fun t =>
    t.idleTimeout = c.timers.idleTimeout ∧ t.idleDeadline = c.timers.idleDeadline) ?_ ⟨rfl, rfl⟩
  intro t t' ht hstep
  cases hstep with
  | write | finish => exact ht

theorem writeDatagram_idle {c d : Connection P} (hstate : d.state ≠ .closed)
    (htimeout : d.timers.idleTimeout = c.timers.idleTimeout)
    (hdeadline : d.timers.idleDeadline = c.timers.idleDeadline) (now : Time) (out : Bytes) :
    (d.writeDatagram now out).1.timers.idleTimeout = c.timers.idleTimeout ∧
      (d.writeDatagram now out).1.timers.idleDeadline = c.armed
        (if (d.writeDatagram now out).2.2.isSome ∧ (d.writeDatagram now out).1.state ≠ .closed then
          some now
        else none) := by
  have hwritten := writeDatagram_tenure d now out
  have harm : d.armed (some now) = c.armed (some now) := by
    simp only [armed, htimeout, hdeadline]
  cases hsome : (d.writeDatagram now out).2.2.isSome with
  | true =>
    rw [hsome, if_pos rfl] at hwritten
    have hopen : (d.writeDatagram now out).1.state ≠ .closed := fun hclosed =>
      hstate ((congrArg Tenure.state hwritten).symm.trans hclosed)
    rw [if_pos ⟨rfl, hopen⟩, ← harm, ← arm_idleDeadline]
    exact ⟨(congrArg Tenure.idleTimeout hwritten).trans htimeout,
      congrArg Tenure.idleDeadline hwritten⟩
  | false =>
    rw [hsome, if_neg Bool.false_ne_true] at hwritten
    rw [if_neg (fun h => Bool.false_ne_true h.1), armed_none]
    exact ⟨(congrArg Tenure.idleTimeout hwritten).trans htimeout,
      (congrArg Tenure.idleDeadline hwritten).trans hdeadline⟩

theorem pollTransmit_idle (now : Time) (out : Bytes) :
    (c.pollTransmit now out).1.timers.idleTimeout = c.timers.idleTimeout ∧
      (c.pollTransmit now out).1.timers.idleDeadline
        = c.armed (c.rearms (.pollTransmit now out)) := by
  obtain ⟨htimeout, hdeadline⟩ := pumpWriteHs_idle c
  simp only [rearms]
  simp only [pollTransmit]
  generalize c.pumpWriteHs = d at htimeout hdeadline
  have hflow : ∀ e : Connection P, e.advanceRecvFlow.tenure = e.tenure := advanceRecvFlow_tenure
  split
  · rw [if_neg (fun h => Bool.false_ne_true h.1), armed_none]
    exact ⟨htimeout, hdeadline⟩
  rename_i hopen
  split
  · have hemitted := emitClose_tenure d out
    split
    · rw [if_neg (fun h => h.2 rfl), armed_none]
      exact ⟨(congrArg Tenure.idleTimeout hemitted).trans htimeout,
        (congrArg Tenure.idleDeadline hemitted).trans hdeadline⟩
    have hflow := (hflow (d.emitClose out).1).trans hemitted
    refine writeDatagram_idle (fun hclosed => hopen ?_) ?_ ?_ now _
    · exact (congrArg Tenure.state hflow).symm.trans hclosed
    · exact (congrArg Tenure.idleTimeout hflow).trans htimeout
    · exact (congrArg Tenure.idleDeadline hflow).trans hdeadline
  · refine writeDatagram_idle (fun hclosed => hopen ?_) ?_ ?_ now _
    · exact (congrArg Tenure.state (hflow _)).symm.trans hclosed
    · exact (congrArg Tenure.idleTimeout (hflow _)).trans htimeout
    · exact (congrArg Tenure.idleDeadline (hflow _)).trans hdeadline

theorem step_idle (h : ∀ now datagram, op ≠ .handleDatagram now datagram) :
    (c.step op).timers.idleTimeout = c.timers.idleTimeout ∧
      (c.step op).timers.idleDeadline = c.armed (c.rearms op) := by
  by_cases hpoll : ∃ now out, op = .pollTransmit now out
  · obtain ⟨now, out, rfl⟩ := hpoll
    exact pollTransmit_idle c now out
  have hrearms : c.rearms op = none := by
    cases op with
    | pollTransmit now out => exact absurd ⟨now, out, rfl⟩ hpoll
    | handleDatagram now datagram => exact absurd rfl (h now datagram)
    | _ => rfl
  rw [hrearms, armed_none]
  refine (step_updates c op).tenure (I := fun t =>
    t.idleTimeout = c.timers.idleTimeout ∧ t.idleDeadline = c.timers.idleDeadline) ?_ ⟨rfl, rfl⟩
  intro t t' ht hstep
  cases hstep with
  | arrive now datagram => exact absurd rfl (h now datagram)
  | wrote now out => exact absurd ⟨now, out, rfl⟩ hpoll
  | _ => exact ht

theorem elicited_eq_countP :
    c.elicited = c.packets.countP fun p => p.2.2.any Frame.isAckEliciting := by
  rw [packets, List.countP_filterMap]
  refine List.countP_congr fun event _ => ?_
  cases event <;> rfl

theorem elicited_of_packets {c d : Connection P} (h : d.packets = c.packets) :
    d.elicited = c.elicited := by
  rw [elicited_eq_countP, elicited_eq_countP, h]

theorem emitClose_elicited (out : Bytes) : (c.emitClose out).1.elicited = c.elicited := by
  cases haddr : (c.emitClose out).2.2 with
  | none => exact elicited_of_packets (emitClose_silent haddr)
  | some addr =>
    cases hframe : c.takeClose.2 with
    | none =>
      simp only [emitClose, hframe] at haddr
      cases haddr
    | some frame =>
      obtain ⟨_, _, _, _, rfl⟩ := takeClose_isClose hframe
      rw [elicited_eq_countP, elicited_eq_countP, emitClose_packets hframe haddr,
        List.countP_cons_of_neg Bool.false_ne_true]

theorem rearms_of_elicits {c : Connection P}
    (h : c.elicited < (c.pollTransmit now out).1.elicited) :
    c.rearms (.pollTransmit now out) = some now := by
  have hpumped := elicited_of_packets (pumpWriteHs_packets c)
  have hwrite : ∀ (d : Connection P) (buf : Bytes), d.elicited = c.elicited → d.state ≠ .closed →
      c.pollTransmit now out = d.advanceRecvFlow.writeDatagram now buf →
      c.rearms (.pollTransmit now out) = some now := by
    intro d buf hd hopen hpoll
    rw [hpoll] at h
    simp only [rearms, hpoll]
    rw [if_pos]
    have hflow : d.advanceRecvFlow.elicited = c.elicited :=
      (elicited_of_packets (advanceRecvFlow_kept (fun _ _ _ _ _ => rfl) d)).trans hd
    constructor
    · rw [Option.isSome_iff_ne_none]
      intro hnone
      rw [elicited_of_packets (writeDatagram_packets hnone), hflow] at h
      exact Nat.lt_irrefl _ h
    have hlife := (writeDatagram_lifecycle d.advanceRecvFlow now buf).trans
      (advanceRecvFlow_lifecycle d)
    exact fun hclosed => hopen ((congrArg Lifecycle.state hlife).symm.trans hclosed)
  by_cases hstate : c.pumpWriteHs.state = .closed
  · rw [pollTransmit, if_pos hstate, hpumped] at h
    exact absurd h (Nat.lt_irrefl _)
  cases hpending : c.pumpWriteHs.closing.pendingTransportClose.isSome
      || c.pumpWriteHs.closing.pendingClose.isSome with
  | false =>
    refine hwrite c.pumpWriteHs out hpumped hstate ?_
    simp only [pollTransmit, if_neg hstate, hpending, Bool.false_eq_true, if_false]
  | true =>
    have hemitted := (emitClose_elicited c.pumpWriteHs out).trans hpumped
    cases haddr : (c.pumpWriteHs.emitClose out).2.2 with
    | some addr =>
      simp only [pollTransmit, if_neg hstate, hpending, if_true, haddr] at h
      exact absurd (Nat.lt_of_lt_of_eq h hemitted) (Nat.lt_irrefl _)
    | none =>
      refine hwrite _ (c.pumpWriteHs.emitClose out).2.1 hemitted (fun hclosed => hstate ?_) (by
        simp only [pollTransmit, if_neg hstate, hpending, if_true, haddr])
      exact (congrArg Tenure.state (emitClose_tenure c.pumpWriteHs out)).symm.trans hclosed

/-! ## The end of an idle connection -/

/-- The idle timer runs out at an instant at the latest, and then closes the connection. -/
def TimesOutBy (c : Connection P) (limit : Time) : Prop :=
  (∃ deadline, c.timers.idleDeadline = some deadline ∧ deadline ≤ limit) ∧
    ∀ now, limit ≤ now → (c.handleTimeout now).state = .closed

theorem timesOutBy_iff (limit : Time) :
    c.TimesOutBy limit ↔ ∃ deadline, c.timers.idleDeadline = some deadline ∧ deadline ≤ limit := by
  refine ⟨fun h => h.1, fun h => ⟨h, fun now hnow => ?_⟩⟩
  obtain ⟨deadline, hdeadline, hle⟩ := h
  have hexpired : expired c.timers.idleDeadline now = true := by
    rw [hdeadline]
    exact decide_eq_true (Nat.le_trans hle hnow)
  rw [handleTimeout, if_pos hexpired]

theorem step_timesOutBy_iff {c : Connection P}
    (htimeout : c.timers.idleTimeout = some timeout) (h : c.TimesOutBy (t + timeout))
    (hop : ∀ now datagram, op ≠ .handleDatagram now datagram) :
    (c.step op).TimesOutBy (t + timeout) ↔ ∀ now, c.rearms op = some now → now ≤ t := by
  rw [timesOutBy_iff] at h ⊢
  rw [(step_idle c hop).2]
  cases hrearms : c.rearms op with
  | none =>
    rw [armed_none]
    exact iff_of_true h fun now hnow => (by cases hnow)
  | some now =>
    simp only [armed, htimeout, Option.some.injEq, exists_eq_left', forall_eq']
    exact Nat.add_le_add_iff_right

/-- What happened up to an instant sets no deadline beyond the idle timeout from there. -/
theorem Fresh.run_within {c : Connection P} (hfresh : c.Fresh)
    (htimeout : c.timers.idleTimeout = some timeout) {ops : List Op}
    (hops : ∀ op ∈ ops, ∀ now, op.time = some now → now ≤ t) :
    (c.run ops).tenure.Within timeout (t + timeout) := by
  refine invariant_run (I := fun d => d.tenure.Within timeout (t + timeout))
    (Q := fun op => ∀ now, op.time = some now → now ≤ t) ?_ ⟨htimeout, ?_⟩ hops
  · intro op d d' hop hd hupdate
    rcases hupdate.tenure with hsame | hstep
    · exact hsame ▸ hd
    · exact hstep.within hop hd
  · intro deadline hdeadline
    cases hfresh <;> cases hdeadline

end Connection

/-- Say that all calls of a run are no later than `t`, that a poll then sends a packet at `t` that
elicits an acknowledgement, and that no datagram arrives any more.  The deadline has been no later
than `t` plus the idle timeout, and the poll sets it there.  It stays there, and closes the
connection, exactly if no further call sends a datagram later than `t`. -/
theorem idle_deadline_kept_iff {c : Connection P} (hfresh : c.Fresh) {timeout t : Time}
    (htimeout : c.timers.idleTimeout = some timeout) {before after : List Op} {out : Bytes}
    (htimes : ∀ op ∈ before, ∀ now, op.time = some now → now ≤ t)
    (hsent : (c.run before).elicited < ((c.run before).step (.pollTransmit t out)).elicited)
    (hquiet : ∀ op ∈ after, ∀ now datagram, op ≠ .handleDatagram now datagram) :
    (∀ deadline, (c.run before).timers.idleDeadline = some deadline → deadline ≤ t + timeout) ∧
    ((c.run before).step (.pollTransmit t out)).TimesOutBy (t + timeout) ∧
    (Along Connection.step (fun d op => (d.step op).TimesOutBy (t + timeout))
        ((c.run before).step (.pollTransmit t out)) after ↔
      Along Connection.step (fun d op => ∀ now, d.rearms op = some now → now ≤ t)
        ((c.run before).step (.pollTransmit t out)) after) := by
  have hwithin := hfresh.run_within htimeout htimes
  generalize c.run before = d at hwithin hsent
  have hkept : d.timers.idleTimeout = some timeout := hwithin.idleTimeout
  have hrearms := Connection.rearms_of_elicits hsent
  have hpoll : ∀ now datagram, Op.pollTransmit t out ≠ .handleDatagram now datagram :=
    fun _ _ h => (by cases h)
  obtain ⟨htimeout', hdeadline'⟩ := d.step_idle hpoll
  have hstart : (d.step (.pollTransmit t out)).TimesOutBy (t + timeout) := by
    rw [Connection.timesOutBy_iff, hdeadline', hrearms]
    simp only [Connection.armed, hkept]
    exact ⟨_, rfl, Nat.le_refl _⟩
  refine ⟨hwithin.idleDeadline, hstart, ?_⟩
  refine Along.stays_iff (I := fun e : Connection P => e.timers.idleTimeout = some timeout)
    (W := fun e : Connection P => e.TimesOutBy (t + timeout)) ?_ ?_ (htimeout'.trans hkept) hstart
    (Along.of_mem hquiet)
  · exact fun e op he hop _ _ => (e.step_idle hop).1.trans he
  · exact fun e op he hop hout => Connection.step_timesOutBy_iff he hout hop

namespace Plain

/-- A client with an idle timeout of a millisecond. -/
def impatient : Connection Plain :=
  .newClient (⟨.client, .writeHello, []⟩ : PlainSession) 1 { maxIdleTimeoutMs := 1 } {} .newReno
    (0 : Nat)

theorem impatient_fresh : impatient.Fresh := .client ..

/-- The client connects, with a keep-alive interval of three nanoseconds. -/
def impatientJoins : List Op := .setKeepAliveInterval (some 3) :: joins impatient

end Plain

theorem Plain.impatientJoins_times :
    ∀ op ∈ impatientJoins, ∀ now, op.time = some now → now ≤ 2 := by
  intro op hop now hnow
  simp only [impatientJoins, joins, List.mem_cons, List.not_mem_nil, or_false] at hop
  rcases hop with rfl | rfl | rfl <;> cases hnow <;> decide

theorem idle_deadline_kept_finished :
    Along Connection.step (fun d op => (d.step op).TimesOutBy (2 + 1000000))
      ((impatient.run impatientJoins).step (.pollTransmit 2 []))
      [.handleTimeout 2, .pollTransmit 2 []] := by
  have hquiet : ∀ op ∈ [Op.handleTimeout 2, .pollTransmit 2 []], ∀ now datagram,
      op ≠ .handleDatagram now datagram := by
    intro op hop now datagram heq
    subst heq
    simp at hop
  have htimeout : impatient.timers.idleTimeout = some 1000000 := by decide +kernel
  have hsent : (impatient.run impatientJoins).elicited
      < ((impatient.run impatientJoins).step (.pollTransmit 2 [])).elicited := by
    decide +kernel
  have hkept := idle_deadline_kept_iff impatient_fresh htimeout impatientJoins_times hsent hquiet
  refine hkept.2.2.mpr ⟨fun now hnow => (by cases hnow), fun now hnow => ?_, trivial⟩
  simp only [Connection.rearms] at hnow
  split at hnow
  · cases hnow
    exact Nat.le_refl 2
  · cases hnow

/-- The peer of a client is gone.  The client sends the end of its handshake at 2 and a `PING` to
keep the connection alive at 5, and is still established when the idle timeout from 2 is over. -/
theorem keep_alive_postpones_idle :
    (impatient.run impatientJoins).state = .established ∧ (impatient.run impatientJoins).elicited
      < ((impatient.run impatientJoins).step (.pollTransmit 2 [])).elicited ∧
    (((impatient.run impatientJoins).step (.pollTransmit 2 [])).run
      [.handleTimeout 5, .pollTransmit 5 []]).timers.idleDeadline = some (5 + 1000000) ∧
    ((((impatient.run impatientJoins).step (.pollTransmit 2 [])).run
      [.handleTimeout 5, .pollTransmit 5 []]).handleTimeout (2 + 1000000)).state = .established := by
  decide +kernel

end OxiQuic
