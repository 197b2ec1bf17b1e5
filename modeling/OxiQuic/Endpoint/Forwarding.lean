import OxiQuic.Connection.Inbox
import OxiQuic.Endpoint.Handle

/-!
# Forwarding

The state that the task keeps between its steps: each handle belongs to a stream that the
application knows of, and its channel holds what the stream has given out.  Registering a
channel, dropping one and forwarding what was read keep it so.
-/

namespace OxiQuic

open Lib Ledger

variable {P : Platform} {d : Driven P} {sid : StreamId} {fin : Bool} {bytes : Bytes} {i j : Nat}
    {g : Given} {p : Pipe} {f : Pipe → Pipe}

/-! ## The state of the task -/

namespace Driven

/-- The streams for which there is, or was, a handle. -/
def Served (d : Driven P) (id : StreamId) : Prop :=
  ∃ (i : Nat) (p : Pipe), d.pipes[i]? = some p ∧ p.deaf = false ∧ p.stream = id

/-- The state of the task, its channels and their readers. -/
structure Sound (d : Driven P) : Prop where
  inbox : d.conn.ledger.Inbox d.givenOf d.Served
  senders : ∀ sid i, d.readSenders.get? sid = some i →
    ∃ p, d.pipes[i]? = some p ∧ p.stream = sid
  pipes : ∀ (i : Nat) (p : Pipe), d.pipes[i]? = some p → p.Sound (d.givenOf p.stream) d.running
  /-- A handle whose channel is open has the sender of its stream. -/
  attached : ∀ (i : Nat) (p : Pipe), d.pipes[i]? = some p → p.deaf = false →
    p.channel.sending = true → d.readSenders.get? p.stream = some i

theorem Sound.conn (h : d.Sound) {c : Connection P}
    (hmoves : Moves d.conn.ledger c.ledger) (hroom : c.ledger.Roomy) :
    ({ d with conn := c } : Driven P).Sound where
  inbox := h.inbox.moves hmoves hroom
  senders := h.senders
  pipes := h.pipes
  attached := h.attached

theorem getElem?_modifyPipe {q : Pipe} (h : (d.modifyPipe i f).pipes[j]? = some q) :
    ∃ p, d.pipes[j]? = some p ∧ (j = i ∧ q = f p ∨ j ≠ i ∧ q = p) := by
  rw [modifyPipe, List.getElem?_modify] at h
  split at h
  · rename_i hij
    obtain ⟨p, hp, rfl⟩ := Option.map_eq_some_iff.mp h
    exact ⟨p, hp, .inl ⟨hij.symm, rfl⟩⟩
  rename_i hij
  obtain ⟨p, hp, rfl⟩ := Option.map_eq_some_iff.mp h
  exact ⟨p, hp, .inr ⟨Ne.symm hij, rfl⟩⟩

theorem exists_modifyPipe (h : d.pipes[j]? = some p) (i : Nat) (f : Pipe → Pipe) :
    ∃ q, (d.modifyPipe i f).pipes[j]? = some q ∧ (j = i ∧ q = f p ∨ j ≠ i ∧ q = p) := by
  by_cases hij : i = j
  · exact ⟨f p, by simp [modifyPipe, h, hij], .inl ⟨hij.symm, rfl⟩⟩
  · exact ⟨p, by simp [modifyPipe, h, hij], .inr ⟨Ne.symm hij, rfl⟩⟩

/-- Channels change, and what the streams have given out, and all stay what they should
be. -/
theorem Sound.replace (h : d.Sound) {pipes : List Pipe} {given : OrdMap Nat Given}
    (hinbox : d.conn.ledger.Inbox (fun id => (given.get? id).getD {}) d.Served)
    (hthere : ∀ (j : Nat) (p : Pipe), d.pipes[j]? = some p →
      ∃ q, pipes[j]? = some q ∧ q.stream = p.stream)
    (hpipes : ∀ (j : Nat) (q : Pipe), pipes[j]? = some q → ∃ p, d.pipes[j]? = some p ∧
      p.Keeps q ∧ q.Sound ((given.get? p.stream).getD {}) d.running) :
    ({ d with pipes := pipes, given := given } : Driven P).Sound := by
  refine ⟨hinbox.mono ?_, fun sid j hj => ?_, fun j q hq => ?_, fun j q hq hdeaf hsending => ?_⟩
  · rintro id ⟨j, q, hq, hdeaf, hstream⟩
    obtain ⟨p, hp, hkeeps, -⟩ := hpipes j q hq
    exact ⟨j, p, hp, hkeeps.deaf ▸ hdeaf, hkeeps.stream ▸ hstream⟩
  · obtain ⟨p, hp, hstream⟩ := h.senders sid j hj
    obtain ⟨q, hq, hsame⟩ := hthere j p hp
    exact ⟨q, hq, hsame.trans hstream⟩
  · obtain ⟨p, -, hkeeps, hsound⟩ := hpipes j q hq
    exact hkeeps.stream.symm ▸ hsound
  · obtain ⟨p, hp, hkeeps, -⟩ := hpipes j q hq
    exact hkeeps.stream.symm ▸ h.attached j p hp (hkeeps.deaf ▸ hdeaf) (hkeeps.sending hsending)

theorem Sound.modify (h : d.Sound) (hkeeps : ∀ p, d.pipes[i]? = some p → p.Keeps (f p))
    (hsound : ∀ p, d.pipes[i]? = some p → (f p).Sound (d.givenOf p.stream) d.running) :
    (d.modifyPipe i f).Sound := by
  refine h.replace h.inbox (fun j p hp => ?_) fun j q hq => ?_
  · obtain ⟨q, hq, ⟨rfl, rfl⟩ | ⟨-, rfl⟩⟩ := exists_modifyPipe hp i f
    · exact ⟨_, hq, (hkeeps p hp).stream⟩
    · exact ⟨_, hq, rfl⟩
  obtain ⟨p, hp, ⟨rfl, rfl⟩ | ⟨-, rfl⟩⟩ := getElem?_modifyPipe hq
  · exact ⟨p, hp, hkeeps p hp, hsound p hp⟩
  · exact ⟨_, hp, .refl _, h.pipes j _ hp⟩

/-- The sender of a stream is dropped when nobody reads the stream, or its end was read. -/
theorem Sound.removeSender (h : d.Sound)
    (hend : d.Served sid → (d.givenOf sid).fin = true) : (d.removeSender sid).Sound := by
  unfold Driven.removeSender
  split
  · exact h
  rename_i i hi
  obtain ⟨p₀, hp₀, hstream₀⟩ := h.senders sid i hi
  have hmodified : (d.modifyPipe i Pipe.dropSender).Sound := by
    refine h.modify (fun p _ => ⟨rfl, rfl, nofun⟩) fun p hp => ?_
    have hsound := h.pipes i p hp
    refine ⟨fun hdeaf => (hsound.silent hdeaf).dropSender, fun hdeaf => ?_⟩
    have hstream : p.stream = sid := by
      rw [hp₀] at hp
      cases hp
      exact hstream₀
    refine (hsound.faithful hdeaf).dropSender (.inl ?_)
    exact hstream ▸ hend ⟨i, p, hp, hdeaf, hstream⟩
  refine ⟨hmodified.inbox, fun sid' j hj => ?_, hmodified.pipes, fun j q hq hdeaf hsending => ?_⟩
  · refine hmodified.senders sid' j ?_
    rw [OrdMap.get?_erase] at hj
    split at hj
    · cases hj
    · exact hj
  have hattached := hmodified.attached j q hq hdeaf hsending
  show (d.readSenders.erase sid).get? q.stream = some j
  rw [OrdMap.get?_erase]
  split
  · rename_i hq'
    -- the channel of this stream has just been closed
    have hattached : d.readSenders.get? q.stream = some j := hattached
    rw [hq', hi] at hattached
    cases hattached
    obtain ⟨p, hp, ⟨-, rfl⟩ | ⟨hne, -⟩⟩ := getElem?_modifyPipe hq
    · cases hsending
    · exact absurd rfl hne
  · exact hattached

theorem removeSender_get? (d : Driven P) (sid : StreamId) :
    (d.removeSender sid).readSenders.get? sid = none := by
  unfold Driven.removeSender
  split
  · assumption
  · exact OrdMap.get?_erase_self _ _

theorem removeSender_rest (d : Driven P) (sid : StreamId) :
    (d.removeSender sid).conn = d.conn ∧ (d.removeSender sid).given = d.given ∧
      (d.removeSender sid).running = d.running := by
  unfold Driven.removeSender
  split <;> exact ⟨rfl, rfl, rfl⟩

theorem Sound.push (h : d.Sound) (hnone : d.readSenders.get? p.stream = none)
    (hsound : p.Sound (d.givenOf p.stream) d.running)
    (hclaimed : p.deaf = false → d.conn.inbound.Claimed (d.givenOf p.stream) p.stream)
    (hopened : p.deaf = false → StreamId.initiator p.stream = d.conn.role.initiator →
      StreamId.index p.stream < d.conn.ledger.nextIndex .bidirectional) : ({ d with
      readSenders := d.readSenders.insert p.stream d.pipes.length
      pipes := d.pipes ++ [p] } : Driven P).Sound := by
  have hsplit : ∀ {j : Nat} {q : Pipe}, (d.pipes ++ [p])[j]? = some q →
      d.pipes[j]? = some q ∨ j = d.pipes.length ∧ q = p := by
    intro j q hq
    rcases Nat.lt_or_ge j d.pipes.length with hj | hj
    · exact .inl (List.getElem?_append_left hj ▸ hq)
    rw [List.getElem?_append_right hj] at hq
    cases hk : j - d.pipes.length with
    | zero =>
      rw [hk] at hq
      cases hq
      exact .inr ⟨by omega, rfl⟩
    | succ k =>
      rw [hk] at hq
      cases hq
  refine ⟨?_, fun sid j hj => ?_, fun j q hq => ?_, fun j q hq hdeaf hsending => ?_⟩
  · cases hdeaf : p.deaf with
    | false =>
      refine (h.inbox.claim (hclaimed hdeaf) (hopened hdeaf)).mono ?_
      rintro id ⟨j, q, hq, hq', hstream⟩
      rcases hsplit hq with hq | ⟨-, rfl⟩
      · exact .inl ⟨j, q, hq, hq', hstream⟩
      · exact .inr hstream.symm
    | true =>
      refine h.inbox.mono ?_
      rintro id ⟨j, q, hq, hq', hstream⟩
      rcases hsplit hq with hq | ⟨-, rfl⟩
      · exact ⟨j, q, hq, hq', hstream⟩
      · rw [hdeaf] at hq'
        cases hq'
  · change (d.readSenders.insert p.stream d.pipes.length).get? sid = some j at hj
    rw [OrdMap.get?_insert] at hj
    split at hj
    · rename_i hsid
      cases hj
      exact ⟨p, by simp, hsid.symm⟩
    obtain ⟨q, hq, hstream⟩ := h.senders sid j hj
    refine ⟨q, ?_, hstream⟩
    have hlt : j < d.pipes.length := (List.getElem?_eq_some_iff.mp hq).1
    exact (List.getElem?_append_left hlt).trans hq
  · rcases hsplit hq with hq | ⟨-, rfl⟩
    · exact h.pipes j q hq
    · exact hsound
  · show (d.readSenders.insert p.stream d.pipes.length).get? q.stream = some j
    rcases hsplit hq with hq | ⟨rfl, rfl⟩
    · have hattached := h.attached j q hq hdeaf hsending
      have hne : q.stream ≠ p.stream := by
        intro heq
        rw [heq, hnone] at hattached
        cases hattached
      rw [OrdMap.get?_insert_of_ne _ _ hne]
      exact hattached
    · exact OrdMap.get?_insert_self _ _ _

theorem Sound.register (h : d.Sound) (hnew : ¬ d.Served sid)
    (hgiven : d.givenOf sid = {}) (hclaimed : d.conn.inbound.Claimed {} sid)
    (hopened : StreamId.initiator sid = d.conn.role.initiator →
      StreamId.index sid < d.conn.ledger.nextIndex .bidirectional) :
    (d.register sid false).Sound := by
  obtain ⟨hconn, hgiven', hrunning⟩ := removeSender_rest d sid
  have hgiven' : (d.removeSender sid).givenOf sid = {} := by
    rw [givenOf, hgiven']
    exact hgiven
  refine (h.removeSender fun hserved => absurd hserved hnew).push
    (p := { handle := { streamId := sid }, channel := .new channelCapacity })
    (removeSender_get? d sid) ?_ ?_ ?_
  · refine ⟨nofun, fun _ => ?_⟩
    show Pipe.Faithful ((d.removeSender sid).givenOf sid) _ _
    rw [hgiven']
    exact ⟨nofun, fun _ => List.prefix_rfl, fun _ _ => rfl, nofun, nofun⟩
  · intro _
    show (d.removeSender sid).conn.inbound.Claimed ((d.removeSender sid).givenOf sid) sid
    rw [hgiven', hconn]
    exact hclaimed
  intro _
  rw [hconn]
  exact hopened

theorem Sound.registerDeaf (h : d.Sound)
    (hnone : d.readSenders.get? sid = none) : (d.register sid true).Sound := by
  have hsame : d.removeSender sid = d := by rw [Driven.removeSender, hnone]
  rw [Driven.register, hsame]
  let p : Pipe :=
    { handle := { streamId := sid }, channel := (Channel.new channelCapacity).dropReceiver, deaf := true }
  exact h.push (p := p) hnone ⟨fun _ => ⟨rfl, rfl, rfl⟩, nofun⟩ nofun nofun

/-! ## Reading streams -/

theorem givenOf_insert (given : OrdMap Nat Given) (sid : StreamId) (g : Given) :
    (fun id => ((given.insert sid g).get? id).getD {}) =
      Function.update (fun id => (given.get? id).getD {}) sid g := by
  funext id
  by_cases heq : id = sid
  · rw [heq, Function.update_self, OrdMap.get?_insert_self]
    rfl
  · rw [Function.update_of_ne heq, OrdMap.get?_insert_of_ne _ _ heq]

theorem Sound.regive (h : d.Sound) (hrunning : d.running = true)
    (hover : d.Served sid → (d.givenOf sid).fin = true → g = d.givenOf sid)
    (hp : d.pipes[j]? = some p) (hother : d.readSenders.get? sid ≠ some j) :
    p.Sound (((d.given.insert sid g).get? p.stream).getD {}) d.running := by
  have hsound := h.pipes j p hp
  rw [OrdMap.get?_insert]
  split
  · rename_i hstream
    refine ⟨hsound.silent, fun hdeaf => ?_⟩
    -- without a sender the channel is closed, and so the end was read
    have hclosed : p.channel.sending = false := by
      by_contra hopen
      exact hother (hstream ▸ h.attached j p hp hdeaf (by simpa using hopen))
    have hfaithful := hsound.faithful hdeaf
    have hfin : (d.givenOf p.stream).fin = true := by
      rcases hfaithful.ended hclosed with hend | hend
      · exact hend
      · rw [hrunning] at hend
        cases hend
    show p.Faithful g d.running
    rw [hover ⟨j, p, hp, hdeaf, hstream⟩ (hstream ▸ hfin), ← hstream]
    exact hfaithful
  · exact hsound

theorem Sound.giveAside (h : d.Sound) (hrunning : d.running = true)
    (hinbox : d.conn.ledger.Inbox (Function.update d.givenOf sid g) d.Served)
    (hover : d.Served sid → (d.givenOf sid).fin = true → g = d.givenOf sid)
    (hnone : d.readSenders.get? sid = none) :
    ({ d with given := d.given.insert sid g } : Driven P).Sound := by
  refine h.replace (by rw [givenOf_insert]; exact hinbox) (fun _ p hp => ⟨p, hp, rfl⟩) fun j p hp => ?_
  exact ⟨p, hp, .refl p, h.regive hrunning hover hp (by rw [hnone]; nofun)⟩

theorem Sound.feed (h : d.Sound) (hrunning : d.running = true)
    (hinbox : d.conn.ledger.Inbox (Function.update d.givenOf sid g) d.Served)
    (hover : d.Served sid → (d.givenOf sid).fin = true → g = d.givenOf sid)
    (hi : d.readSenders.get? sid = some i) (hkeeps : ∀ p : Pipe, p.Keeps (f p))
    (hfollows : ∀ p : Pipe, (p.deaf = false → d.Served sid) → p.Sound (d.givenOf sid) true →
      (f p).Sound g true) :
    ({ d with given := d.given.insert sid g }.modifyPipe i f : Driven P).Sound := by
  refine h.replace (by rw [givenOf_insert]; exact hinbox) (fun j p hp => ?_) fun j q hq => ?_
  · obtain ⟨q, hq, ⟨rfl, rfl⟩ | ⟨-, rfl⟩⟩ := exists_modifyPipe hp i f
    · exact ⟨_, hq, (hkeeps p).stream⟩
    · exact ⟨_, hq, rfl⟩
  obtain ⟨p, hp, ⟨rfl, rfl⟩ | ⟨hne, rfl⟩⟩ := getElem?_modifyPipe (d := d) hq
  · obtain ⟨p', hp', hstream⟩ := h.senders sid j hi
    rw [hp] at hp'
    cases hp'
    refine ⟨p, hp, hkeeps p, ?_⟩
    rw [hstream, OrdMap.get?_insert_self, hrunning]
    refine hfollows p (fun hdeaf => ⟨j, p, hp, hdeaf, hstream⟩) ?_
    have hsound := h.pipes j p hp
    rwa [hstream, hrunning] at hsound
  · refine ⟨_, hp, .refl _, h.regive hrunning hover hp ?_⟩
    rw [hi]
    exact fun heq => hne (Option.some.inj heq).symm

theorem readStream_ok {c : Connection P} (h : (c.readStream sid).2 = .ok (bytes, fin)) :
    ∃ s, c.inbound.streams.get? sid = some s ∧ s.readChecked.2 = .ok (bytes, fin) ∧
      (c.readStream sid).1.inbound =
        { c.inbound with streams := c.inbound.streams.insert sid s.readChecked.1 } := by
  cases hs : c.inbound.streams.get? sid with
  | none =>
    simp only [Connection.readStream, hs] at h
    cases h
  | some s =>
    refine ⟨s, rfl, ?_⟩
    cases hread : s.readChecked.2 with
    | error e =>
      simp only [Connection.readStream, hs, hread] at h
      cases h
    | ok result =>
      simp only [Connection.readStream, hs, hread] at h ⊢
      split at h
      · cases h
        exact ⟨rfl, by rw [if_pos ‹_›]⟩
      · cases h
        exact ⟨rfl, by rw [if_neg ‹_›]⟩

theorem readStream_opened (c : Connection P) (sid : StreamId) :
    (c.readStream sid).1.opened = c.opened := by
  simp only [Connection.readStream]
  split
  · rfl
  split
  · rfl
  · split <;> rfl

theorem trySend_given (d : Driven P) (sid : StreamId) (bytes : Bytes) :
    (d.trySend sid bytes).given = d.given := by
  unfold Driven.trySend
  split <;> rfl

theorem Sound.trySendDeaf (h : d.Sound) (bytes : Bytes)
    (hdeaf : ∀ i p, d.readSenders.get? sid = some i → d.pipes[i]? = some p → p.deaf = true) :
    (d.trySend sid bytes).Sound := by
  unfold Driven.trySend
  split
  · exact h
  rename_i i hi
  refine h.modify (fun p _ => p.forward_keeps bytes) fun p hp => ?_
  have hp' := hdeaf i p hi hp
  refine ⟨fun _ => ((h.pipes i p hp).silent hp').forward bytes, fun hnot => ?_⟩
  change p.deaf = false at hnot
  rw [hp'] at hnot
  cases hnot

theorem follows
    (hover : p.deaf = false → g.fin = true → bytes = [] ∧ fin = true) (h : p.Sound g true) :
    (if bytes.isEmpty then p else p.forward bytes).Sound ⟨g.bytes ++ bytes, g.fin || fin⟩ true := by
  refine ⟨fun hdeaf => ?_, fun hdeaf => ?_⟩
  · cases hempty : bytes.isEmpty with
    | true =>
      rw [hempty] at hdeaf
      exact h.silent hdeaf
    | false =>
      rw [hempty] at hdeaf
      exact (h.silent hdeaf).forward bytes
  · have hdeaf : p.deaf = false := by
      split at hdeaf <;> exact hdeaf
    have hfaithful := h.faithful hdeaf
    obtain ⟨gbytes, gfin⟩ := g
    cases gfin with
    | true =>
      obtain ⟨rfl, rfl⟩ := hover hdeaf rfl
      rw [List.append_nil]
      exact hfaithful
    | false =>
      have hstep : (if bytes.isEmpty then p else p.forward bytes).Faithful
          ⟨gbytes ++ bytes, false⟩ true := by
        cases bytes with
        | nil =>
          rw [List.append_nil]
          exact hfaithful
        | cons b rest => exact hfaithful.forward (List.cons_ne_nil b rest) rfl
      cases fin with
      | true => exact hstep.finish
      | false => exact hstep

theorem given_after (hfin : g.fin = true)
    (h : bytes = [] ∧ fin = true) : (⟨g.bytes ++ bytes, g.fin || fin⟩ : Given) = g := by
  obtain ⟨rfl, rfl⟩ := h
  rw [List.append_nil, Bool.or_true, ← hfin]

theorem record_givenOf (d : Driven P) (sid : StreamId) (bytes : Bytes) (fin : Bool) :
    (d.record sid bytes fin).givenOf sid =
      ⟨(d.givenOf sid).bytes ++ bytes, (d.givenOf sid).fin || fin⟩ := by
  show ((d.given.insert sid _).get? sid).getD {} = _
  rw [OrdMap.get?_insert_self]
  rfl

theorem forward_registered
    (hi : d.readSenders.get? sid = some i) (bytes : Bytes) (fin : Bool) :
    d.forward sid bytes fin =
      if fin then
        (d.modifyPipe i fun p => if bytes.isEmpty then p else p.forward bytes).removeSender sid
      else d.modifyPipe i fun p => if bytes.isEmpty then p else p.forward bytes := by
  have hcontains : d.readSenders.contains sid = true := OrdMap.contains_iff.mpr ⟨i, hi⟩
  unfold Driven.forward
  cases hempty : bytes.isEmpty with
  | true =>
    have hsame : d.modifyPipe i (fun p => p) = d := by
      unfold modifyPipe
      rw [show (fun p : Pipe => p) = id from rfl, List.modify_id]
    simp [hcontains, hsame]
  | false => simp [hcontains, trySend, hi]

theorem Sound.forwardRegistered (h : d.Sound) (hrunning : d.running = true)
    (hi : d.readSenders.get? sid = some i)
    (hinbox : d.conn.ledger.Inbox (Function.update d.givenOf sid
      ⟨(d.givenOf sid).bytes ++ bytes, (d.givenOf sid).fin || fin⟩) d.Served)
    (hover : d.Served sid → (d.givenOf sid).fin = true → bytes = [] ∧ fin = true) :
    ((d.record sid bytes fin).forward sid bytes fin).Sound := by
  have hfed := h.feed hrunning hinbox
    (fun hserved hfin => given_after hfin (hover hserved hfin)) hi
    (f := fun p => if bytes.isEmpty then p else p.forward bytes)
    (fun p => by
      split
      · exact .refl p
      · exact p.forward_keeps bytes)
    (fun p hserved hsound => follows (fun hdeaf => hover (hserved hdeaf)) hsound)
  have hi' : (d.record sid bytes fin).readSenders.get? sid = some i := hi
  rw [forward_registered hi']
  split
  · rename_i hfin
    refine hfed.removeSender fun _ => ?_
    show ((d.record sid bytes fin).givenOf sid).fin = true
    rw [record_givenOf, hfin]
    exact Bool.or_true _
  · exact hfed

theorem register_get? (d : Driven P) (sid : StreamId) (deaf : Bool)
    (hi : (d.register sid deaf).readSenders.get? sid = some i)
    (hp : (d.register sid deaf).pipes[i]? = some p) : p.deaf = deaf := by
  change ((d.removeSender sid).readSenders.insert sid _).get? sid = some i at hi
  rw [OrdMap.get?_insert_self] at hi
  cases hi
  change ((d.removeSender sid).pipes ++ [_])[(d.removeSender sid).pipes.length]? = some p at hp
  rw [List.getElem?_append_right (Nat.le_refl _), Nat.sub_self] at hp
  cases hp
  rfl

theorem Sound.forwardAside (h : d.Sound) (bytes : Bytes) (hnone : d.readSenders.get? sid = none)
    (hend : fin = true → (d.givenOf sid).fin = true) : (d.forward sid bytes fin).Sound := by
  have hcontains : d.readSenders.contains sid = false := by
    simp [OrdMap.contains, hnone]
  by_cases hany : (!bytes.isEmpty || fin) = true
  · have hregistered := h.registerDeaf hnone
    let sent := if bytes.isEmpty then d.register sid true else (d.register sid true).trySend sid bytes
    have hsent : sent.Sound ∧ sent.given = d.given := by
      have hgiven : (d.register sid true).given = d.given := (removeSender_rest d sid).2.1
      show (if bytes.isEmpty then _ else _ : Driven P).Sound ∧ (if _ then _ else _ : Driven P).given = _
      split
      · exact ⟨hregistered, hgiven⟩
      · exact ⟨hregistered.trySendDeaf bytes fun i p hi hp => register_get? d sid true hi hp,
          (trySend_given _ sid bytes).trans hgiven⟩
    have hforward : d.forward sid bytes fin = if fin then sent.removeSender sid else sent := by
      simp only [Driven.forward, hcontains, hany, Bool.not_false, Bool.true_and, if_true]
      rfl
    rw [hforward]
    split
    · rename_i hfin
      refine hsent.1.removeSender fun _ => ?_
      rw [givenOf, hsent.2]
      exact hend hfin
    · exact hsent.1
  · have hempty : bytes.isEmpty = true := by
      cases hbytes : bytes.isEmpty with
      | true => rfl
      | false => exact absurd (by rw [hbytes]; rfl) hany
    have hfin : fin = false := by
      cases fin with
      | false => rfl
      | true => exact absurd (Bool.or_true _) hany
    rw [Driven.forward, hcontains, hempty, hfin]
    exact h

theorem Sound.drainStream (h : d.Sound) (hrunning : d.running = true)
    (hnone : d.conn.inbound.newPeerStreams = []) (hroom : d.conn.ledger.Roomy)
    (sid : StreamId) : (d.drainStream sid).Sound := by
  have hroom' : (d.conn.readStream sid).1.ledger.Roomy := by
    show (d.conn.readStream sid).1.opened.nextBidiIndex ≤ 2 ^ 60
    rw [readStream_opened]
    exact hroom
  have hread := h.conn (d.conn.readStream_moves sid) hroom'
  unfold Driven.drainStream
  simp only
  split
  · exact hread
  rename_i bytes fin hok
  obtain ⟨s, hs, hchecked, hinbound⟩ := readStream_ok hok
  have hs' : (d.conn.readStream sid).1.inbound.streams.get? sid = some s.readChecked.1 := by
    rw [hinbound]
    exact OrdMap.get?_insert_self _ _ _
  have hnone' : (d.conn.readStream sid).1.inbound.newPeerStreams = [] := by
    rw [hinbound]
    exact hnone
  have hover : d.Served sid → (d.givenOf sid).fin = true → s.Over :=
    fun hserved hfin => (h.inbox.claimed sid hserved).drained hfin s hs
  have hafter : d.Served sid → (d.givenOf sid).fin = true → bytes = [] ∧ fin = true :=
    fun hserved hfin => Prod.mk.inj ((hover hserved hfin).readChecked hchecked)
  have hinbox := hread.inbox.give hnone' hs'
    (g := ⟨(d.givenOf sid).bytes ++ bytes, (d.givenOf sid).fin || fin⟩) fun hserved hfin => by
      rcases Bool.or_eq_true_iff.mp hfin with hfin | hfin
      · exact RecvStream.Turns.read.over (hover hserved hfin) (h.inbox.mailbox.ending sid s hs)
      · exact RecvStream.over_of_readChecked (hfin ▸ hchecked)
  cases hi : d.readSenders.get? sid with
  | none =>
    have hgiven : d.Served sid → (d.givenOf sid).fin = true →
        (⟨(d.givenOf sid).bytes ++ bytes, (d.givenOf sid).fin || fin⟩ : Given) = d.givenOf sid :=
      fun hserved hfin => given_after hfin (hafter hserved hfin)
    refine (hread.giveAside hrunning hinbox hgiven hi).forwardAside bytes hi fun hfin => ?_
    show ((d.record sid bytes fin).givenOf sid).fin = true
    rw [record_givenOf, hfin]
    exact Bool.or_true _
  | some i => exact hread.forwardRegistered hrunning hi hinbox hafter

/-! ## What the steps leave alone -/

variable (d)

variable (sid)

theorem register_rest (deaf : Bool) :
    (d.register sid deaf).conn = d.conn ∧ (d.register sid deaf).running = d.running :=
  ⟨(removeSender_rest d sid).1, (removeSender_rest d sid).2.2⟩

theorem trySend_rest (bytes : Bytes) :
    (d.trySend sid bytes).conn = d.conn ∧ (d.trySend sid bytes).running = d.running := by
  unfold Driven.trySend
  split <;> exact ⟨rfl, rfl⟩

theorem offer_rest : (d.offer sid).conn = d.conn ∧ (d.offer sid).running = d.running := by
  have hregister := register_rest d sid false
  unfold Driven.offer
  split
  · simp only
    split <;> exact hregister
  · simp only
    split <;> exact hregister

theorem forward_rest (bytes : Bytes) (fin : Bool) :
    (d.forward sid bytes fin).conn = d.conn ∧ (d.forward sid bytes fin).running = d.running := by
  unfold Driven.forward
  simp only
  have hregister : ∀ b : Bool, (if b then d.register sid true else d).conn = d.conn ∧
      (if b then d.register sid true else d).running = d.running := by
    intro b
    cases b with
    | true => exact register_rest d sid true
    | false => exact ⟨rfl, rfl⟩
  have hsend : ∀ (b : Bool) (e : Driven P), (if b then e else e.trySend sid bytes).conn = e.conn ∧
      (if b then e else e.trySend sid bytes).running = e.running := by
    intro b e
    cases b with
    | true => exact ⟨rfl, rfl⟩
    | false => exact trySend_rest e sid bytes
  split
  · exact ⟨(removeSender_rest _ sid).1.trans ((hsend _ _).1.trans (hregister _).1),
      (removeSender_rest _ sid).2.2.trans ((hsend _ _).2.trans (hregister _).2)⟩
  · exact ⟨(hsend _ _).1.trans (hregister _).1, (hsend _ _).2.trans (hregister _).2⟩

theorem drainStream_rest :
    (d.drainStream sid).conn = (d.conn.readStream sid).1 ∧
      (d.drainStream sid).running = d.running := by
  unfold Driven.drainStream
  simp only
  split
  · exact ⟨rfl, rfl⟩
  · exact forward_rest _ sid _ _

variable {sid}

variable {d}

theorem readStream_newPeerStreams (c : Connection P) (sid : StreamId) :
    (c.readStream sid).1.inbound.newPeerStreams = c.inbound.newPeerStreams := by
  simp only [Connection.readStream]
  split
  · rfl
  split
  · rfl
  · split <;> rfl

end Driven

end OxiQuic
