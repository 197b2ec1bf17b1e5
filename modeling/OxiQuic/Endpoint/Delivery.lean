import OxiQuic.Endpoint.Forwarding
import OxiQuic.PlainPlatform

/-!
# Delivery through stream handles

What a reader of a `RecvStreamHandle` gets, whatever the order in which the task and the
reader take turns.
-/

namespace OxiQuic

open Lib Ledger Plain

variable {P : Platform} {d : Driven P} {sends : List (Time × Bool)} {c : Connection P}
    {sid : StreamId} {action : Driven.Action} {now : Time}

namespace Driven

/-! ## Turns of the loop -/

/-- The task in the middle of a turn. -/
structure Busy (d : Driven P) : Prop where
  sound : d.Sound
  running : d.running = true
  roomy : d.conn.ledger.Roomy

theorem Busy.drainReadable (h : d.Busy)
    (hnone : d.conn.inbound.newPeerStreams = []) (fuel : Nat) : (drainReadable fuel d).Busy := by
  induction fuel generalizing d with
  | zero => exact h
  | succ fuel ih =>
    unfold Driven.drainReadable
    cases hqueue : d.conn.inbound.readable with
    | nil =>
      simp only [Connection.pollReadable, hqueue]
      exact h
    | cons sid rest =>
      have hmoves := d.conn.pollReadable_moves
      simp only [Connection.pollReadable, hqueue] at hmoves ⊢
      have hpolled := h.sound.conn hmoves h.roomy
      obtain ⟨hconn, hrunning⟩ := drainStream_rest
        ({ d with conn := { d.conn with inbound := { d.conn.inbound with readable := rest } } }) sid
      refine ih ⟨hpolled.drainStream h.running hnone h.roomy sid, hrunning.trans h.running, ?_⟩ ?_
      · rw [hconn]
        show (Connection.readStream _ sid).1.opened.nextBidiIndex ≤ 2 ^ 60
        rw [readStream_opened]
        exact h.roomy
      · rw [hconn, readStream_newPeerStreams]
        exact hnone

theorem Sound.dropHandle (h : d.Sound) (i : Nat) : (d.modifyPipe i Pipe.dropHandle).Sound :=
  h.modify (fun _ _ => ⟨rfl, rfl, id⟩) fun p hp =>
    ⟨fun hdeaf => ((h.pipes i p hp).silent hdeaf).dropHandle,
      fun hdeaf => ((h.pipes i p hp).faithful hdeaf).dropHandle⟩

theorem Sound.hold (h : d.Sound) (i : Nat) :
    (d.modifyPipe i fun p => { p with held := true }).Sound :=
  h.modify (fun _ _ => ⟨rfl, rfl, id⟩) fun p hp =>
    ⟨fun hdeaf => ((h.pipes i p hp).silent hdeaf).hold,
      fun hdeaf => ((h.pipes i p hp).faithful hdeaf).hold⟩

theorem Sound.offer (h : d.Sound) (hnew : ¬ d.Served sid)
    (hgiven : d.givenOf sid = {}) (hclaimed : d.conn.inbound.Claimed {} sid)
    (hopened : StreamId.initiator sid = d.conn.role.initiator →
      StreamId.index sid < d.conn.ledger.nextIndex .bidirectional) : (d.offer sid).Sound := by
  have hregister := h.register hnew hgiven hclaimed hopened
  unfold Driven.offer
  split
  · have hsent : ∀ c, ({ d.register sid false with acceptBidi := c } : Driven P).Sound :=
      fun _ => ⟨hregister.inbox, hregister.senders, hregister.pipes, hregister.attached⟩
    simp only
    split
    · exact hsent _
    · exact (hsent _).dropHandle _
  · have hsent : ∀ c, ({ d.register sid false with acceptUni := c } : Driven P).Sound :=
      fun _ => ⟨hregister.inbox, hregister.senders, hregister.pipes, hregister.attached⟩
    simp only
    split
    · exact hsent _
    · exact (hsent _).dropHandle _

/-- All streams that the peer opened are offered, and none has been read before. -/
theorem Busy.surfaceStreams (h : d.Busy) {fuel : Nat}
    (hfuel : d.conn.inbound.newPeerStreams.length ≤ fuel) :
    (surfaceStreams fuel d).Busy ∧
      (Driven.surfaceStreams fuel d).conn.inbound.newPeerStreams = [] := by
  induction fuel generalizing d with
  | zero => exact ⟨h, List.length_eq_zero_iff.mp (Nat.le_zero.mp hfuel)⟩
  | succ fuel ih =>
    unfold Driven.surfaceStreams
    cases hqueue : d.conn.inbound.newPeerStreams with
    | nil =>
      simp only [Connection.pollNewPeerStream, hqueue]
      exact ⟨h, trivial⟩
    | cons sid rest =>
      have hmoves := d.conn.pollNewPeerStream_moves
      simp only [Connection.pollNewPeerStream, hqueue] at hmoves ⊢
      have hpolled := h.sound.conn hmoves h.roomy
      have hmem : sid ∈ d.conn.inbound.newPeerStreams := hqueue ▸ List.mem_cons_self
      obtain ⟨hknown, hpeer, hgiven⟩ := h.sound.inbox.mailbox.queued sid hmem
      have hnodup := h.sound.inbox.mailbox.nodup
      change d.conn.inbound.newPeerStreams.Nodup at hnodup
      rw [hqueue, List.nodup_cons] at hnodup
      have hoffer := hpolled.offer
        (fun hserved => (h.sound.inbox.claimed sid hserved).unqueued hmem) hgiven
        ⟨hknown, hnodup.1, fun hgiven => by cases hgiven⟩ fun hmine => absurd hmine hpeer
      obtain ⟨hconn, hrunning⟩ := offer_rest
        ({ d with conn :=
          { d.conn with inbound := { d.conn.inbound with newPeerStreams := rest } } }) sid
      refine ih ⟨hoffer, hrunning.trans h.running, ?_⟩ ?_
      · rw [hconn]
        exact h.roomy
      rw [hconn]
      rw [hqueue] at hfuel
      exact Nat.le_of_succ_le_succ hfuel

theorem Sound.exit (h : d.Sound) : d.exit.Sound := by
  have hpipe : ∀ {j : Nat} {q : Pipe}, (d.pipes.map Pipe.dropSender)[j]? = some q →
      ∃ p, d.pipes[j]? = some p ∧ q = p.dropSender := by
    intro j q hq
    rw [List.getElem?_map] at hq
    obtain ⟨p, hp, rfl⟩ := Option.map_eq_some_iff.mp hq
    exact ⟨p, hp, rfl⟩
  refine ⟨h.inbox.mono ?_, nofun, fun j q hq => ?_, fun j q hq _ hsending => ?_⟩
  · rintro id ⟨j, q, hq, hdeaf, hstream⟩
    obtain ⟨p, hp, rfl⟩ := hpipe hq
    exact ⟨j, p, hp, hdeaf, hstream⟩
  · obtain ⟨p, hp, rfl⟩ := hpipe hq
    have hsound := h.pipes j p hp
    exact ⟨fun hdeaf => (hsound.silent hdeaf).dropSender, fun hdeaf => (hsound.faithful hdeaf).stop⟩
  · obtain ⟨p, -, rfl⟩ := hpipe hq
    cases hsending

theorem flushConn_moves (c : Connection P) (sends : List (Time × Bool)) :
    Moves c.ledger (flushConn c sends).1.ledger := by
  induction sends generalizing c with
  | nil => exact .refl _
  | cons s rest ih =>
    have hpoll := c.pollTransmit_moves s.1 []
    simp only [flushConn]
    split
    · exact hpoll
    · exact hpoll
    split
    · exact hpoll.trans (ih _)
    · exact hpoll

theorem finishTurn_conn (d : Driven P) (sends : List (Time × Bool)) :
    (d.finishTurn sends).conn = (flushConn d.conn sends).1 := by
  simp only [Driven.finishTurn]
  split <;> rfl

theorem Sound.finishTurn (h : d.Sound)
    (hroom : (d.finishTurn sends).conn.ledger.Roomy) : (d.finishTurn sends).Sound := by
  rw [finishTurn_conn] at hroom
  have hflushed := h.conn (flushConn_moves d.conn sends) hroom
  simp only [Driven.finishTurn]
  split
  · exact hflushed.exit
  · exact hflushed

theorem writeCmd_moves (c : Connection P) (sid : StreamId) (cmd : WriteCmd) :
    Moves c.ledger (writeCmd c sid cmd).ledger := by
  cases cmd with
  | write data fin => exact c.sendStream_moves sid data fin
  | reset errorCode => exact c.resetStream_moves sid errorCode
  | stopSending errorCode => exact .of_eq (c.stopSending_ledger sid errorCode)

theorem roomy_of_opened {c' : Connection P} (hopened : c'.opened = c.opened)
    (h : c'.ledger.Roomy) : c.ledger.Roomy := by
  show c.opened.nextBidiIndex ≤ 2 ^ 60
  rw [← hopened]
  exact h

variable {actions : List Action} {owned : Bytes} {waits : Bool} (fuel : Nat)

theorem surfaceStreams_opened (d : Driven P) :
    (surfaceStreams fuel d).conn.opened = d.conn.opened := by
  induction fuel generalizing d with
  | zero => rfl
  | succ fuel ih =>
    unfold Driven.surfaceStreams
    cases hqueue : d.conn.inbound.newPeerStreams with
    | nil => simp only [Connection.pollNewPeerStream, hqueue]
    | cons sid rest =>
      simp only [Connection.pollNewPeerStream, hqueue]
      rw [ih, (offer_rest _ sid).1]

theorem drainReadable_opened (d : Driven P) :
    (drainReadable fuel d).conn.opened = d.conn.opened := by
  induction fuel generalizing d with
  | zero => rfl
  | succ fuel ih =>
    unfold Driven.drainReadable
    cases hqueue : d.conn.inbound.readable with
    | nil => simp only [Connection.pollReadable, hqueue]
    | cons sid rest =>
      simp only [Connection.pollReadable, hqueue]
      rw [ih, (drainStream_rest _ sid).1, readStream_opened]

theorem finishTurn_roomy (h : (d.finishTurn sends).conn.ledger.Roomy) : d.conn.ledger.Roomy :=
  (flushConn_moves _ sends).roomy (finishTurn_conn _ sends ▸ h)

theorem onDatagram_roomy (h : (d.onDatagram now owned sends).conn.ledger.Roomy) :
    (d.conn.handleDatagram now owned).1.ledger.Roomy := by
  simp only [Driven.onDatagram] at h
  split at h
  · exact h
  · exact roomy_of_opened ((drainReadable_opened _ _).trans (surfaceStreams_opened _ _))
      (finishTurn_roomy h)

/-- The task receives a datagram, offers the new streams and forwards what is readable. -/
theorem Sound.onDatagram (h : d.Sound) (hrunning : d.running = true)
    (hroom : (d.onDatagram now owned sends).conn.ledger.Roomy) :
    (d.onDatagram now owned sends).Sound := by
  have hroomy := onDatagram_roomy hroom
  have hhandled := h.conn (d.conn.handleDatagram_moves now owned) hroomy
  simp only [Driven.onDatagram] at hroom ⊢
  split
  · exact hhandled.exit
  rename_i hresult
  rw [hresult] at hroom
  have hbusy : ({ d with conn := (d.conn.handleDatagram now owned).1 } : Driven P).Busy :=
    ⟨hhandled, hrunning, hroomy⟩
  obtain ⟨hsurfaced, hnone⟩ := hbusy.surfaceStreams (Nat.le_refl _)
  exact (hsurfaced.drainReadable hnone _).sound.finishTurn hroom

theorem Sound.reset (h : d.Sound) (hnew : ¬ d.Served sid) :
    ({ d with given := d.given.insert sid {} } : Driven P).Sound := by
  have hinbox : d.conn.ledger.Inbox (Function.update d.givenOf sid {}) d.Served := by
    refine ⟨⟨fun id hid => ?_, h.inbox.mailbox.nodup, fun id hid => ?_, h.inbox.mailbox.ending⟩,
      fun id hid => ?_, h.inbox.opened⟩
    · obtain ⟨hknown, hpeer, hgiven⟩ := h.inbox.mailbox.queued id hid
      refine ⟨hknown, hpeer, ?_⟩
      by_cases heq : id = sid
      · rw [heq, Function.update_self]
      · rw [Function.update_of_ne heq]
        exact hgiven
    · by_cases heq : id = sid
      · rw [heq, Function.update_self] at hid
        exact absurd rfl hid
      · rw [Function.update_of_ne heq] at hid
        exact h.inbox.mailbox.seen id hid
    · have hne : id ≠ sid := fun heq => hnew (heq ▸ hid)
      rw [Function.update_of_ne hne]
      exact h.inbox.claimed id hid
  refine h.replace (by rw [givenOf_insert]; exact hinbox) (fun _ p hp => ⟨p, hp, rfl⟩) fun j p hp => ?_
  have hsound := h.pipes j p hp
  refine ⟨p, hp, .refl p, hsound.silent, fun hdeaf => ?_⟩
  have hne : p.stream ≠ sid := fun heq => hnew ⟨j, p, hp, hdeaf, heq⟩
  rw [OrdMap.get?_insert_of_ne _ _ hne]
  exact hsound.faithful hdeaf

theorem Sound.reply (h : d.Sound) (i : Nat) (waits : Bool) : (d.reply i waits).Sound := by
  cases waits with
  | true => exact h.hold i
  | false => exact h.dropHandle i

theorem openBidi_ok (h : c.openBidi.2 = .ok sid) :
    sid = c.ledger.nextId .bidirectional ∧
      c.openBidi.1.ledger = c.ledger.openStream .bidirectional := by
  simp only [Connection.openBidi] at h ⊢
  split
  · rename_i hlimit
    rw [if_pos hlimit] at h
    cases h
  rename_i hlimit
  rw [if_neg hlimit] at h
  cases h
  exact ⟨rfl, rfl⟩

theorem Sound.openNext (h : d.Sound) (hsid : sid = d.conn.ledger.nextId .bidirectional)
    (hledger : c.ledger = d.conn.ledger.openStream .bidirectional) (hroom : c.ledger.Roomy) :
    (({ d with conn := c, given := d.given.insert sid {} } : Driven P).register sid false).Sound := by
  have hmove : Move d.conn.ledger c.ledger := hledger ▸ .open _ _
  have hlt : d.conn.ledger.nextIndex .bidirectional ≤ StreamId.maxIndex := by
    rw [hledger] at hroom
    exact Nat.le_of_succ_le_succ hroom
  have hnew : ¬ d.Served sid := fun hserved => h.inbox.ne_nextId hlt hserved hsid
  have hconn : ({ d with conn := c } : Driven P).Sound := h.conn (.single hmove) hroom
  have hinbound : c.inbound =
      { d.conn.inbound with streams := d.conn.inbound.streams.insert sid {} } := by
    rw [hsid]
    exact congrArg Ledger.inbound hledger
  refine (hconn.reset hnew).register hnew ?_ ⟨?_, ?_, nofun⟩ fun _ => ?_
  · show ((d.given.insert sid {}).get? sid).getD {} = {}
    rw [OrdMap.get?_insert_self]
    rfl
  · show (c.inbound.streams.get? sid).isSome
    rw [hinbound, OrdMap.get?_insert_self]
    rfl
  · intro hmem
    change sid ∈ c.inbound.newPeerStreams at hmem
    rw [hinbound] at hmem
    refine (h.inbox.mailbox.queued sid hmem).2.1 ?_
    rw [hsid, Ledger.nextId, StreamId.initiator_new]
  · show StreamId.index sid < c.ledger.nextIndex .bidirectional
    rw [hledger, hsid, Ledger.nextId, StreamId.index_new _ _ hlt]
    exact Nat.lt_succ_self _

theorem onOpenBidi_roomy
    (h : (d.onOpenBidi waits sends).conn.ledger.Roomy) : d.conn.openBidi.1.ledger.Roomy := by
  simp only [Driven.onOpenBidi] at h
  split at h
  · exact h
  rename_i sid _
  have hroomy := finishTurn_roomy h
  change (Driven.removeSender _ sid).conn.ledger.Roomy at hroomy
  rwa [(removeSender_rest _ sid).1] at hroomy

theorem Sound.onOpenBidi (h : d.Sound) (hroom : (d.onOpenBidi waits sends).conn.ledger.Roomy) :
    (d.onOpenBidi waits sends).Sound := by
  have hroomy := onOpenBidi_roomy hroom
  simp only [Driven.onOpenBidi] at hroom ⊢
  split
  · exact h.conn d.conn.openBidi_moves hroomy
  rename_i sid hresult
  simp only [hresult] at hroom
  obtain ⟨hsid, hledger⟩ := openBidi_ok hresult
  exact Sound.finishTurn (Sound.reply (h.openNext hsid hledger hroomy) _ waits) hroom

theorem onOpenUni_roomy
    (h : (d.onOpenUni sends).conn.ledger.Roomy) : d.conn.openUni.1.ledger.Roomy := by
  simp only [Driven.onOpenUni] at h
  split at h
  · exact h
  · exact finishTurn_roomy h

theorem Sound.onOpenUni (h : d.Sound)
    (hroom : (d.onOpenUni sends).conn.ledger.Roomy) : (d.onOpenUni sends).Sound := by
  have hopened := h.conn d.conn.openUni_moves (onOpenUni_roomy hroom)
  simp only [Driven.onOpenUni] at hroom ⊢
  split
  · exact hopened
  rename_i hresult
  rw [hresult] at hroom
  exact hopened.finishTurn hroom

theorem writeCmds_moves (writes : List (StreamId × WriteCmd)) (c : Connection P) :
    Moves c.ledger (writes.foldl (fun c w => writeCmd c w.1 w.2) c).ledger := by
  induction writes generalizing c with
  | nil => exact .refl _
  | cons w rest ih => exact (writeCmd_moves c w.1 w.2).trans (ih _)

theorem onClose_moves (d : Driven P) (writes : List (StreamId × WriteCmd))
    (request : Option (Nat × Bytes)) (sends sends' : List (Time × Bool)) :
    Moves d.conn.ledger (d.onClose writes request sends sends').conn.ledger := by
  have hflushed := (writeCmds_moves writes d.conn).trans (flushConn_moves _ sends)
  simp only [Driven.onClose]
  split
  · exact hflushed
  refine hflushed.trans (.trans ?_ (flushConn_moves _ sends'))
  cases request with
  | none => exact .refl _
  | some request => exact .of_eq (Connection.close_ledger _ request.1 request.2)

theorem onClose_exit (d : Driven P) (writes : List (StreamId × WriteCmd))
    (request : Option (Nat × Bytes)) (sends sends' : List (Time × Bool)) :
    d.onClose writes request sends sends' =
      { d with conn := (d.onClose writes request sends sends').conn }.exit := by
  simp only [Driven.onClose]
  split <;> rfl

theorem Sound.onClose (h : d.Sound) {writes : List (StreamId × WriteCmd)}
    {request : Option (Nat × Bytes)} {sends' : List (Time × Bool)}
    (hroom : (d.onClose writes request sends sends').conn.ledger.Roomy) :
    (d.onClose writes request sends sends').Sound := by
  rw [onClose_exit]
  exact (h.conn (d.onClose_moves writes request sends sends') hroom).exit

theorem onTimeout_roomy
    (h : (d.onTimeout now sends).conn.ledger.Roomy) : (d.conn.handleTimeout now).ledger.Roomy := by
  simp only [Driven.onTimeout] at h
  split at h
  · exact h
  · exact finishTurn_roomy h

theorem Sound.onTimeout (h : d.Sound)
    (hroom : (d.onTimeout now sends).conn.ledger.Roomy) : (d.onTimeout now sends).Sound := by
  have hhandled := h.conn (d.conn.handleTimeout_moves now) (onTimeout_roomy hroom)
  simp only [Driven.onTimeout] at hroom ⊢
  split
  · exact hhandled.exit
  · rw [if_neg ‹_›] at hroom
    exact hhandled.finishTurn hroom

theorem Sound.turn (h : d.Sound) (hrunning : d.running = true)
    (hroom : (d.turn action).conn.ledger.Roomy) : (d.turn action).Sound := by
  cases action with
  | datagram now owned sends => exact h.onDatagram hrunning hroom
  | recvError refused =>
    cases refused with
    | true => exact h
    | false => exact h.exit
  | write msg sends =>
    cases msg with
    | none => exact h.exit
    | some msg =>
      exact (h.conn (writeCmd_moves d.conn msg.1 msg.2) (finishTurn_roomy hroom)).finishTurn hroom
  | openBidi waits sends => exact h.onOpenBidi hroom
  | openUni sends => exact h.onOpenUni hroom
  | close writes request sends sends' => exact h.onClose hroom
  | timeout now sends => exact h.onTimeout hroom
  | _ => exact h

theorem turn_roomy (h : (d.turn action).conn.ledger.Roomy) : d.conn.ledger.Roomy := by
  cases action with
  | datagram now owned sends =>
    exact (d.conn.handleDatagram_moves now owned).roomy (onDatagram_roomy h)
  | recvError refused => cases refused <;> exact h
  | write msg sends =>
    cases msg with
    | none => exact h
    | some msg => exact (writeCmd_moves d.conn msg.1 msg.2).roomy (finishTurn_roomy h)
  | openBidi waits sends => exact d.conn.openBidi_moves.roomy (onOpenBidi_roomy h)
  | openUni sends => exact d.conn.openUni_moves.roomy (onOpenUni_roomy h)
  | close writes request sends sends' => exact (d.onClose_moves writes request sends sends').roomy h
  | timeout now sends => exact (d.conn.handleTimeout_moves now).roomy (onTimeout_roomy h)
  | _ => exact h

theorem Sound.accept (h : d.Sound) (polled : Poll (Option Nat)) : (d.accept polled).Sound := by
  unfold Driven.accept
  split
  · exact h.hold _
  · exact h

theorem Sound.readable (h : d.Sound) {i : Nat} {p : Pipe}
    (hp : d.pipes[i]? = some p) (hreadable : p.readable = true) :
    p.deaf = false ∧ p.channel.receiving = true := by
  have hreceiving : p.channel.receiving = true := (Bool.and_eq_true_iff.mp hreadable).2
  refine ⟨?_, hreceiving⟩
  by_contra hdeaf
  have hsilent := ((h.pipes i p hp).silent (by simpa using hdeaf)).receiving
  rw [hreceiving] at hsilent
  cases hsilent

theorem Sound.read (h : d.Sound) (i remaining : Nat) :
    (d.modifyPipe i fun p => if p.readable then p.read remaining else p).Sound := by
  have hread : ∀ p, d.pipes[i]? = some p → p.readable = true → p.Keeps (p.read remaining) ∧
      (p.read remaining).Faithful (d.givenOf p.stream) d.running := by
    intro p hp hreadable
    obtain ⟨hdeaf, hreceiving⟩ := h.readable hp hreadable
    have hfaithful := (h.pipes i p hp).faithful hdeaf
    exact ⟨p.read_keeps hfaithful.chunks remaining, hfaithful.read hreceiving remaining⟩
  refine h.modify (fun p hp => ?_) fun p hp => ?_
  · split
    · exact (hread p hp ‹_›).1
    · exact .refl p
  split
  · rename_i hreadable
    obtain ⟨hkeeps, hfaithful⟩ := hread p hp hreadable
    refine ⟨fun hdeaf => ?_, fun _ => hfaithful⟩
    rw [hkeeps.deaf, (h.readable hp hreadable).1] at hdeaf
    cases hdeaf
  · exact h.pipes i p hp

theorem Sound.release (h : d.Sound) (i : Nat) :
    (d.modifyPipe i fun p => if p.readable then p.dropHandle else p).Sound := by
  refine h.modify (fun p _ => ?_) fun p hp => ?_
  · split
    · exact ⟨rfl, rfl, id⟩
    · exact .refl p
  have hsound := h.pipes i p hp
  split
  · exact ⟨fun hdeaf => (hsound.silent hdeaf).dropHandle,
      fun hdeaf => (hsound.faithful hdeaf).dropHandle⟩
  · exact hsound

theorem accept_conn (d : Driven P) (polled : Poll (Option Nat)) :
    (d.accept polled).conn = d.conn := by
  unfold Driven.accept
  split <;> rfl

theorem Sound.step (h : d.Sound) (action : Action)
    (hroom : (d.step action).conn.ledger.Roomy) : (d.step action).Sound := by
  have hturn : ∀ {action : Action},
      (if d.running then d.turn action else d).conn.ledger.Roomy →
        (if d.running then d.turn action else d).Sound := by
    intro action hroom
    split
    · rename_i hrunning
      rw [if_pos hrunning] at hroom
      exact h.turn hrunning hroom
    · exact h
  cases action with
  | acceptBidi =>
    have hpolled : ({ d with acceptBidi := d.acceptBidi.pollRecv.1 } : Driven P).Sound :=
      ⟨h.inbox, h.senders, h.pipes, h.attached⟩
    exact hpolled.accept _
  | acceptUni =>
    have hpolled : ({ d with acceptUni := d.acceptUni.pollRecv.1 } : Driven P).Sound :=
      ⟨h.inbox, h.senders, h.pipes, h.attached⟩
    exact hpolled.accept _
  | read i remaining => exact h.read i remaining
  | dropHandle i => exact h.release i
  | _ => exact hturn hroom

theorem step_roomy (h : (d.step action).conn.ledger.Roomy) : d.conn.ledger.Roomy := by
  have hturn : ∀ {action : Action},
      (if d.running then d.turn action else d).conn.ledger.Roomy → d.conn.ledger.Roomy := by
    intro action h
    split at h
    · exact turn_roomy h
    · exact h
  cases action with
  | acceptBidi => exact (accept_conn { d with acceptBidi := d.acceptBidi.pollRecv.1 } _) ▸ h
  | acceptUni => exact (accept_conn { d with acceptUni := d.acceptUni.pollRecv.1 } _) ▸ h
  | read | dropHandle => exact h
  | _ => exact hturn h

theorem run_roomy (h : (d.run actions).conn.ledger.Roomy) : d.conn.ledger.Roomy := by
  induction actions generalizing d with
  | nil => exact h
  | cons action rest ih => exact step_roomy (ih h)

theorem Sound.run (h : d.Sound)
    (hroom : (d.run actions).conn.ledger.Roomy) : (d.run actions).Sound := by
  induction actions generalizing d with
  | nil => exact h
  | cons action rest ih => exact ih (h.step action (run_roomy hroom)) hroom

theorem sound_start (hfresh : c.Fresh) (ops : List Op)
    (hroom : (c.run ops).ledger.Roomy) : (start (c.run ops)).Sound := by
  obtain ⟨role, dcid, hacts⟩ := hfresh.run_acts ops
  have hinbox : (c.run ops).ledger.Inbox (fun _ => {}) fun _ => False := by
    refine Acts.invariant_while (fun hact => ?_) inbox_move
      (fun _ h => ⟨h.mailbox, h.claimed, h.opened⟩) ?_ hacts hroom
    · cases hact with
      | move hmove => exact Nat.le_trans (hmove.nextIndex_le .bidirectional)
      | reroute => exact id
    · exact ⟨⟨nofun, .nil, fun _ h => absurd rfl h, nofun⟩, nofun, nofun⟩
  have hnone : ∀ {i : Nat} {p : Pipe}, (start (c.run ops)).pipes[i]? = some p → False := nofun
  exact ⟨hinbox.mono fun _ ⟨_, _, hp, _⟩ => hnone hp, nofun, fun _ _ hp => (hnone hp).elim,
    fun _ _ hp => (hnone hp).elim⟩

end Driven

/-- In every interleaving of the task and the readers, as long as no chunk found its channel
full, what was read from a handle is a prefix of what the receive half of its stream has
given out, without a hole.  A read finds the end only when all of it was delivered, and the
stream or the task has ended. -/
theorem driven_delivery {c : Connection P} (hfresh : c.Fresh) (ops : List Op)
    (actions : List Driven.Action) {d : Driven P} (hd : d = (Driven.start (c.run ops)).run actions)
    (hroom : d.conn.opened.nextBidiIndex ≤ 2 ^ 60) {i : Nat} {p : Pipe}
    (hp : d.pipes[i]? = some p) (hover : p.overflowed = false) :
    p.delivered <+: (d.givenOf p.stream).bytes ∧
      (p.eof = true → p.delivered = (d.givenOf p.stream).bytes ∧
        ((d.givenOf p.stream).fin = true ∨ d.running = false)) := by
  subst hd
  have hsound := (Driven.sound_start hfresh ops (Driven.run_roomy hroom)).run hroom
  have hpipe := hsound.pipes i p hp
  cases hdeaf : p.deaf with
  | true =>
    obtain ⟨hdelivered, heof, -⟩ := hpipe.silent hdeaf
    rw [hdelivered, heof]
    exact ⟨List.nil_prefix, nofun⟩
  | false =>
    have hfaithful := hpipe.faithful hdeaf
    exact ⟨(List.prefix_append _ _).trans (hfaithful.fits hover),
      fun heof => hfaithful.eof heof hover⟩

namespace Plain

/-- A client that has completed the handshake hands its connection to the task. -/
def task : Driven Plain :=
  .start ((client []).run
    [.pollTransmit 0 [], .handleDatagram 1 (answer (client []) []).2, .pollTransmit 2 []])

/-- The server's packet `k`, with the byte `k` of stream 1. -/
def arrives (k : Nat) (fin : Bool) : Driven.Action :=
  let b := UInt8.ofNat k
  .datagram 5 ([64] ++ List.replicate 8 2 ++ [b, if fin then 15 else 14, 1, 64, b, 1, b] ++
    List.replicate 16 6) []

/-- The application reads along. -/
def readsAlong : List Driven.Action :=
  [arrives 0 false, .acceptBidi, .read 0 9, arrives 1 true, .read 0 9, .read 0 9]

/-- The application reads when there is no room for the chunk with the byte 64 any more. -/
def readsLate : List Driven.Action :=
  (List.range 65).map (arrives · false) ++ [.acceptBidi, .read 0 9, arrives 65 false] ++
    List.replicate 64 (.read 0 9)

/-- The socket fails in the middle of the stream. -/
def readsOn : List Driven.Action :=
  [arrives 0 false, .acceptBidi, .recvError false, .read 0 9, .read 0 9]

/-- What the readers got, and whether they found the end. -/
def got (d : Driven Plain) : List (StreamId × Bytes × Bool) :=
  d.pipes.map fun p => (p.stream, p.delivered, p.eof)

end Plain

theorem driven_delivery_readsAlong :
    ∃ p : Pipe, (task.run readsAlong).pipes[0]? = some p ∧ p.eof = true ∧ p.delivered = [0, 1] ∧
      p.delivered = ((task.run readsAlong).givenOf p.stream).bytes := by
  have hrun : (task.run readsAlong).conn.opened.nextBidiIndex = 0 ∧
      ∃ p ∈ (task.run readsAlong).pipes.head?,
        p.overflowed = false ∧ p.eof = true ∧ p.delivered = [0, 1] := by decide +kernel
  have hd : task.run readsAlong = task.run readsAlong := rfl
  obtain ⟨hopened, p, hp, hover, heof, hdelivered⟩ := hrun
  rw [List.head?_eq_getElem?] at hp
  refine ⟨p, hp, heof, hdelivered, ?_⟩
  exact ((driven_delivery (client_fresh []) _ _ hd (by rw [hopened]; decide) hp hover).2 heof).1

/-- The reader misses the byte 64 and gets the byte 65; and a reader finds the end of a stream
that did not end. -/
theorem driven_delivery_broken :
    (got (task.run readsLate)).map (fun r => r.2.1.drop 62) = [[62, 63, 65]] ∧
      ((task.run readsLate).givenOf 1).bytes.drop 62 = [62, 63, 64, 65] ∧
      got (task.run readsOn) = [(1, [0], true)] ∧ (task.run readsOn).givenOf 1 = ⟨[0], false⟩ := by
  decide +kernel

end OxiQuic
