import OxiQuic.Connection.LedgerRecv

/-!
# Receive halves over a run

What the application may rely on when it is told of streams and reads them: it is told of a
stream before anything is read from it, and once only, and nothing comes after the end of a
stream.  `given` is what has been read.
-/

namespace OxiQuic

open Lib

variable {P : Platform} {ids : StreamId → Prop} {l l' : Ledger P} {id : StreamId} {s : RecvStream}

namespace Inbound

/-- The application is told of a stream that it has not read, and that it has not been told
of. -/
structure Mailbox (role : Role) (given : StreamId → Given) (b : Inbound) : Prop where
  queued : ∀ id ∈ b.newPeerStreams, (b.streams.get? id).isSome ∧
    StreamId.initiator id ≠ role.initiator ∧ given id = {}
  nodup : b.newPeerStreams.Nodup
  /-- What has been read is there. -/
  seen : ∀ id, given id ≠ {} → (b.streams.get? id).isSome
  ending : ∀ id s, b.streams.get? id = some s → s.Ending

/-- The application knows of a stream, and has read `given` from it. -/
structure Claimed (given : Given) (id : StreamId) (b : Inbound) : Prop where
  known : (b.streams.get? id).isSome
  /-- It will not be told again. -/
  unqueued : id ∉ b.newPeerStreams
  drained : given.fin = true → ∀ s, b.streams.get? id = some s → s.Over

theorem isSome_insert {streams : OrdMap Nat RecvStream} {id id' : Nat}
    (h : (streams.get? id).isSome) : ((streams.insert id' s).get? id).isSome := by
  rw [OrdMap.get?_insert]
  split
  · rfl
  · exact h

variable {role : Role} {given : StreamId → Given} {b b' : Inbound}

/-- Put a receive half where there is one, or where the application knows of none. -/
theorem Mailbox.insert (h : b.Mailbox role given) (id : StreamId)
    (hs : s.Ending) : Mailbox role given { b with streams := b.streams.insert id s } where
  queued id' hid' := (h.queued id' hid').imp_left isSome_insert
  nodup := h.nodup
  seen id' hid' := isSome_insert (h.seen id' hid')
  ending := OrdMap.forall_insert hs h.ending

theorem Mailbox.step (h : b.Mailbox role given) (hstep : b.Step role b') :
    b'.Mailbox role given := by
  cases hstep with
  | @create id s noted hnone hturn hpeer =>
    have hinsert := h.insert id (hturn.ending RecvStream.ending_new)
    cases noted with
    | false => simpa using hinsert
    | true =>
      have hgiven : given id = {} := by
        by_contra hne
        have hsome := h.seen id hne
        rw [hnone] at hsome
        cases hsome
      have hfresh : id ∉ b.newPeerStreams := by
        intro hmem
        have hsome := (h.queued id hmem).1
        rw [hnone] at hsome
        cases hsome
      refine ⟨fun id' hid' => ?_, ?_, hinsert.seen, hinsert.ending⟩
      · rcases List.mem_append.mp hid' with hid' | hid'
        · exact hinsert.queued id' hid'
        · cases List.mem_singleton.mp hid'
          exact ⟨by simp, hpeer rfl, hgiven⟩
      refine List.nodup_append.mpr ⟨h.nodup, by simp, ?_⟩
      intro x hx y hy hxy
      cases List.mem_singleton.mp hy
      exact hfresh (hxy ▸ hx)
  | @turn id s s' hs hturn => exact h.insert id (hturn.ending (h.ending id s hs))
  | notify readable => exact ⟨h.queued, h.nodup, h.seen, h.ending⟩
  | @surface id rest hqueue =>
    have hqueued := h.queued
    have hnodup := h.nodup
    rw [hqueue] at hqueued hnodup
    exact ⟨fun id' hid' => hqueued id' (List.mem_cons_of_mem _ hid'), hnodup.of_cons, h.seen,
      h.ending⟩

theorem Claimed.step {g : Given} (h : b.Claimed g id) (hbox : b.Mailbox role given)
    (hstep : b.Step role b') : b'.Claimed g id := by
  cases hstep with
  | @create id' s noted hnone hturn hpeer =>
    have hne : id ≠ id' := by
      intro heq
      have hknown := h.known
      rw [heq, hnone] at hknown
      cases hknown
    refine ⟨isSome_insert h.known, fun hmem => ?_, fun hfin t ht => ?_⟩
    · rcases List.mem_append.mp hmem with hmem | hmem
      · exact h.unqueued hmem
      cases noted with
      | false => cases hmem
      | true => exact hne (List.mem_singleton.mp hmem)
    · rw [OrdMap.get?_insert_of_ne _ _ hne] at ht
      exact h.drained hfin t ht
  | @turn id' s s' hs hturn =>
    refine ⟨isSome_insert h.known, h.unqueued, fun hfin t ht => ?_⟩
    rw [OrdMap.get?_insert] at ht
    split at ht
    · rename_i heq
      cases ht
      cases heq
      exact hturn.over (h.drained hfin s hs) (hbox.ending _ s hs)
    · exact h.drained hfin t ht
  | notify readable => exact ⟨h.known, h.unqueued, h.drained⟩
  | @surface id' rest hqueue =>
    refine ⟨h.known, fun hmem => h.unqueued ?_, h.drained⟩
    rw [hqueue]
    exact List.mem_cons_of_mem _ hmem

end Inbound

namespace Ledger

/-- What a move can do to the receive halves. -/
inductive Inboxing (l l' : Ledger P) : Prop where
  | same : l'.inbound = l.inbound →
      l'.nextIndex .bidirectional = l.nextIndex .bidirectional → Inboxing l l'
  | step : l.inbound.Step l.role l'.inbound →
      l'.nextIndex .bidirectional = l.nextIndex .bidirectional → Inboxing l l'
  | opens : l'.inbound = { l.inbound with
        streams := l.inbound.streams.insert (l.nextId .bidirectional) {} } →
      l'.nextIndex .bidirectional = l.nextIndex .bidirectional + 1 → Inboxing l l'

theorem Move.inboxing (hmove : Move l l') : Inboxing l l' := by
  cases hmove with
  | deliver hstep => exact .step hstep rfl
  | «open» dir =>
    cases dir with
    | bidirectional => exact .opens rfl rfl
    | unidirectional => exact .same rfl rfl
  | _ => exact .same rfl rfl

/-- The receive halves, of which the application knows those in `ids`. -/
structure Inbox (given : StreamId → Given) (ids : StreamId → Prop) (l : Ledger P) : Prop where
  mailbox : l.inbound.Mailbox l.role given
  claimed : ∀ id, ids id → l.inbound.Claimed (given id) id
  /-- The streams that we opened will not be opened again. -/
  opened : ∀ id, ids id → StreamId.initiator id = l.role.initiator →
    StreamId.index id < l.nextIndex .bidirectional

/-- The bound on the number of streams below which no stream is opened twice. -/
def Roomy (l : Ledger P) : Prop := l.nextIndex .bidirectional ≤ 2 ^ 60

variable {given : StreamId → Given}

theorem Inbox.ne_nextId
    (h : l.Inbox given ids) (hroom : l.nextIndex .bidirectional ≤ StreamId.maxIndex)
    (hid : ids id) : id ≠ l.nextId .bidirectional := by
  intro heq
  have hlt := h.opened id hid (by rw [heq, nextId, StreamId.initiator_new])
  rw [heq, nextId, StreamId.index_new _ _ hroom] at hlt
  exact Nat.lt_irrefl _ hlt

theorem inbox_move
    (h : l.Inbox given ids) (hmove : Move l l') (hroom : l'.Roomy) : l'.Inbox given ids := by
  have hrole := hmove.role_eq
  cases hmove.inboxing with
  | same hinbound hindex =>
    refine ⟨?_, ?_, ?_⟩
    · rw [hinbound, hrole]
      exact h.mailbox
    · rw [hinbound]
      exact h.claimed
    · rw [hindex, hrole]
      exact h.opened
  | step hstep hindex =>
    refine ⟨?_, fun id hid => (h.claimed id hid).step h.mailbox hstep, ?_⟩
    · rw [hrole]
      exact h.mailbox.step hstep
    · rw [hindex, hrole]
      exact h.opened
  | opens hinbound hindex =>
    rw [Roomy, hindex] at hroom
    have hne : ∀ id, ids id → id ≠ l.nextId .bidirectional :=
      fun _ hid => h.ne_nextId (Nat.le_of_succ_le_succ hroom) hid
    refine ⟨?_, fun id hid => ?_, fun id hid hmine => ?_⟩
    · rw [hinbound, hrole]
      exact h.mailbox.insert _ RecvStream.ending_new
    · obtain ⟨hknown, hunqueued, hover⟩ := h.claimed id hid
      rw [hinbound]
      refine ⟨Inbound.isSome_insert hknown, hunqueued, ?_⟩
      rw [OrdMap.get?_insert_of_ne _ _ (hne id hid)]
      exact hover
    · rw [hindex]
      exact Nat.lt_succ_of_lt (h.opened id hid (hrole ▸ hmine))

theorem Inbox.mono {ids' : StreamId → Prop}
    (h : l.Inbox given ids) (hids : ∀ id, ids' id → ids id) : l.Inbox given ids' :=
  ⟨h.mailbox, fun id hid => h.claimed id (hids id hid), fun id hid => h.opened id (hids id hid)⟩

theorem Inbox.claim (h : l.Inbox given ids) (hclaimed : l.inbound.Claimed (given id) id)
    (hopened : StreamId.initiator id = l.role.initiator →
      StreamId.index id < l.nextIndex .bidirectional) :
    l.Inbox given fun id' => ids id' ∨ id' = id where
  mailbox := h.mailbox
  claimed id' hid' := hid'.elim (h.claimed id') fun heq => heq ▸ hclaimed
  opened id' hid' := hid'.elim (h.opened id') fun heq => heq ▸ hopened

theorem Inbox.give
    (h : l.Inbox given ids) (hnone : l.inbound.newPeerStreams = [])
    (hs : l.inbound.streams.get? id = some s) {g : Given}
    (hover : ids id → g.fin = true → s.Over) : l.Inbox (Function.update given id g) ids where
  mailbox := by
    refine ⟨?_, h.mailbox.nodup, fun id' hid' => ?_, h.mailbox.ending⟩
    · rw [hnone]
      nofun
    by_cases heq : id' = id
    · rw [heq, hs]
      rfl
    · rw [Function.update_of_ne heq] at hid'
      exact h.mailbox.seen id' hid'
  claimed id' hid' := by
    obtain ⟨hknown, hunqueued, hafter⟩ := h.claimed id' hid'
    refine ⟨hknown, hunqueued, fun hfin t ht => ?_⟩
    by_cases heq : id' = id
    · rw [heq, Function.update_self] at hfin
      rw [heq, hs] at ht
      cases ht
      exact hover (heq ▸ hid') hfin
    · rw [Function.update_of_ne heq] at hfin
      exact hafter hfin t ht
  opened := h.opened

theorem Moves.nextIndex_le (hmoves : Moves l l') (dir : Direction) :
    l.nextIndex dir ≤ l'.nextIndex dir :=
  Moves.invariant (I := fun m => l.nextIndex dir ≤ m.nextIndex dir)
    (fun h hmove => Nat.le_trans h (hmove.nextIndex_le dir)) (Nat.le_refl _) hmoves

theorem Moves.roomy (hmoves : Moves l l') (h : l'.Roomy) : l.Roomy :=
  Nat.le_trans (hmoves.nextIndex_le .bidirectional) h

theorem Inbox.moves
    (h : l.Inbox given ids) (hmoves : Moves l l') (hroom : l'.Roomy) : l'.Inbox given ids :=
  Moves.invariant (I := fun m => m.Roomy → m.Inbox given ids)
    (fun h hmove hroom =>
      inbox_move (h (Nat.le_trans (hmove.nextIndex_le .bidirectional) hroom)) hmove hroom)
    (fun _ => h) hmoves hroom

end Ledger

end OxiQuic
