import OxiQuic.Endpoint.Demux
import Mathlib.Data.List.Nodup

/-!
# The demultiplexer among its tasks

The demultiplexer applies the updates that are waiting and then blocks on the socket; tasks send
updates at any time.  A handshake task gives up the entry of its client's first DCID when the
handshake is over, and delivers its connection.
-/

namespace OxiQuic

open Lib

/-- The demultiplexer and the tasks it has spawned.  The last two fields are the history. -/
structure Server (A : Type) where
  demux : Demux A := {}
  /-- The channel of updates. -/
  updates : Channel (RouteEvent × Bytes) := .new 256
  /-- Whether the demultiplexer is blocked on the socket. -/
  waiting : Bool := false
  /-- The tasks whose handshake is over. -/
  finished : List Bytes := []
  /-- The connections delivered on the accept channel, and for which DCID. -/
  delivered : List (Bytes × Bytes) := []
  /-- The updates that the channel took. -/
  sent : List (RouteEvent × Bytes) := []

namespace Server

variable {A : Type}

/-- `try_send` on the channel of updates. -/
def trySend (s : Server A) (event : RouteEvent) (tx : Bytes) : Server A :=
  match s.updates.trySend (event, tx) with
  | (updates, .ok ()) => { s with updates := updates, sent := (event, tx) :: s.sent }
  | (_, .error _) => s

/-- The DCID that a connection was built for. -/
def dcidFor (s : Server A) (tx : Bytes) : Option Bytes :=
  (s.demux.created.find? (·.1 = tx)).map Prod.snd

inductive Event (A : Type) where
  /-- The demultiplexer applies an update, or blocks if there is none. -/
  | drain
  /-- A datagram arrives from the socket. -/
  | receive (bytes : Bytes) (sender : A) (built : Except OxiQuicError Bytes)
  /-- The socket fails. -/
  | recvError
  | send (event : RouteEvent) (tx : Bytes)
  /-- The handshake of a task is over. -/
  | finish (tx : Bytes) (succeeds : Bool)
  | take (tx : Bytes)
  | exit (tx : Bytes)

def step (cfg : DemuxConfig A) (s : Server A) : Event A → Server A
  | .drain =>
    if s.waiting then s
    else
      match s.updates.pollRecv with
      | (updates, .ready (some (event, tx))) =>
        { s with updates := updates, demux := s.demux.applyCidRouteUpdate event tx }
      | _ => { s with waiting := true }
  | .receive bytes sender built =>
    if s.waiting then
      { s with demux := s.demux.route cfg bytes sender built, waiting := false }
    else s
  | .recvError => { s with waiting := false }
  | .send event tx => s.trySend event tx
  | .finish tx succeeds =>
    match s.dcidFor tx with
    | none => s
    | some dcid =>
      if tx ∈ s.finished then s
      else
        let delivered := if succeeds then (tx, dcid) :: s.delivered else s.delivered
        { s with finished := tx :: s.finished, delivered := delivered }.trySend
          (.initialRetired dcid) tx
  | .take tx => { s with demux := s.demux.take tx }
  | .exit tx => { s with demux := s.demux.exit tx }

/-- What sending an update does. -/
theorem trySend_cases (s : Server A) (event : RouteEvent) (tx : Bytes) :
    s.trySend event tx = s ∨ ∃ updates, updates.queue = s.updates.queue ++ [(event, tx)] ∧
      s.trySend event tx = { s with updates := updates, sent := (event, tx) :: s.sent } := by
  have hsent := s.updates.trySend_sent (event, tx)
  unfold trySend
  generalize s.updates.trySend (event, tx) = sent at hsent ⊢
  obtain ⟨updates, result⟩ := sent
  cases hsent with
  | queued _ _ hqueue => exact .inr ⟨updates, hqueue, rfl⟩
  | full | closed => exact .inl rfl

/-! ## Registered CIDs -/

/-- Nobody but `k` uses the CID `c`, and it is not given up. -/
def Keeps (c k : Bytes) : Event A → Prop
  | .receive _ _ (.ok cid) => cid = c → cid = k
  | .send event tx => event ≠ .unregister c ∧ (event = .register c → tx = k)
  | _ => True

/-- The CID `c` that the task `k` registered leads to it, unless the update waits or the task is
gone. -/
structure Leads (c k : Bytes) (s : Server A) : Prop where
  queued : ∀ u ∈ s.updates.queue, u.1 ≠ .unregister c ∧ (u.1 = .register c → u.2 = k)
  leads : (.register c, k) ∈ s.sent → (.register c, k) ∈ s.updates.queue ∨
    s.demux.localCidMap c = some k ∨ (s.demux.inbox k).receiving = false

variable {c k : Bytes} {s : Server A}

theorem Leads.trySend (h : Leads c k s) (event : RouteEvent) (tx : Bytes)
    (hkeeps : event ≠ .unregister c ∧ (event = .register c → tx = k)) :
    Leads c k (s.trySend event tx) := by
  rcases s.trySend_cases event tx with hsame | ⟨updates, hqueue, hsent⟩
  · rw [hsame]
    exact h
  rw [hsent]
  refine ⟨fun u hu => ?_, fun hu => ?_⟩
  · rcases List.mem_append.mp (hqueue ▸ hu) with hu | hu
    · exact h.queued u hu
    · rw [List.mem_singleton.mp hu]
      exact hkeeps
  rw [hqueue]
  rcases List.mem_cons.mp hu with hu | hu
  · exact .inl (List.mem_append_right _ (List.mem_singleton.mpr hu))
  · exact (h.leads hu).imp_left (List.mem_append_left _)

/-- A closed channel stays closed. -/
theorem Leads.inbox (h : Leads c k s) (tx : Bytes) {channel : Channel (Bytes × A)}
    (hclosed : (s.demux.inbox tx).receiving = false → channel.receiving = false) :
    Leads c k { s with
      demux := { s.demux with inbox := Function.update s.demux.inbox tx channel } } := by
  refine ⟨h.queued, fun hsent => (h.leads hsent).imp_right (Or.imp_right fun hk => ?_)⟩
  show (Function.update s.demux.inbox tx channel k).receiving = false
  by_cases htx : k = tx
  · rw [htx, Function.update_self, hclosed (htx ▸ hk)]
  · rw [Function.update_of_ne htx, hk]

variable (cfg : DemuxConfig A) (d : Demux A) (bytes : Bytes) (sender : A)

/-- Routing does not lead the CID away from the task. -/
theorem route_leads
    {built : Except OxiQuicError Bytes} (hbuilt : ∀ cid, built = .ok cid → cid = c → cid = k)
    (h : d.localCidMap c = some k ∨ (d.inbox k).receiving = false) :
    (d.route cfg bytes sender built).localCidMap c = some k ∨
      ((d.route cfg bytes sender built).inbox k).receiving = false := by
  have hroutes := d.route_routes cfg bytes sender built
  generalize d.route cfg bytes sender built = r at hroutes ⊢
  cases hroutes with
  | dropped | retry => exact h
  | @toLocal c' tx _ htx =>
    simp only [Demux.forwardLocal, Demux.forward_closed_iff]
    split
    · rename_i hclosed
      rcases h with h | h
      · by_cases hc : c = c'
        · -- the entry is removed because the task is gone
          rw [← hc, h] at htx
          exact .inr ((d.forward_receiving tx _ k).trans (Option.some.inj htx ▸ hclosed))
        · exact .inl ((Function.update_of_ne hc _ _).trans h)
      · exact .inr ((d.forward_receiving tx _ k).trans h)
    · exact h.imp id (d.forward_receiving tx _ k).trans
  | @toInitial c' tx _ _ =>
    simp only [Demux.forwardInitial]
    split <;> exact h.imp id (d.forward_receiving tx _ k).trans
  | @create c' cid _ _ hcid =>
    refine Or.imp (fun h => ?_) (Demux.forward_receiving _ cid _ k).trans h
    show Function.update d.localCidMap cid (some cid) c = some k
    by_cases hc : c = cid
    · rw [hc, Function.update_self, hbuilt cid hcid hc.symm]
    · rw [Function.update_of_ne hc, h]

theorem applyCidRouteUpdate_leads {u : RouteEvent × Bytes}
    (hc : c.length = localCidLen) (hu : u.1 ≠ .unregister c ∧ (u.1 = .register c → u.2 = k)) :
    (d.applyCidRouteUpdate u.1 u.2).inbox = d.inbox ∧
      (u.1 = .register c ∨ d.localCidMap c = some k →
        (d.applyCidRouteUpdate u.1 u.2).localCidMap c = some k) := by
  obtain ⟨event, tx⟩ := u
  cases event with
  | register cid =>
    simp only [Demux.applyCidRouteUpdate]
    by_cases hcid : c = cid
    · rw [if_pos (hcid ▸ hc)]
      exact ⟨rfl, fun _ => hcid ▸ (Function.update_self ..).trans (congrArg some (hu.2 (hcid ▸ rfl)))⟩
    split
    · refine ⟨rfl, fun h => (Function.update_of_ne hcid _ _).trans (h.resolve_left fun h => ?_)⟩
      cases h
      exact hcid rfl
    refine ⟨rfl, fun h => h.resolve_left fun h => ?_⟩
    cases h
    exact hcid rfl
  | unregister cid =>
    have hcid : c ≠ cid := fun h => hu.1 (h ▸ rfl)
    simp only [Demux.applyCidRouteUpdate]
    split
    · exact ⟨rfl, fun h => (Function.update_of_ne hcid _ _).trans (h.resolve_left (by simp))⟩
    · exact ⟨rfl, fun h => h.resolve_left (by simp)⟩
  | initialRetired dcid => exact ⟨rfl, fun h => h.resolve_left (by simp)⟩

theorem Leads.step (h : Leads c k s) (hc : c.length = localCidLen) (cfg : DemuxConfig A)
    (e : Event A) (he : Keeps c k e) : Leads c k (s.step cfg e) := by
  cases e with
  | drain =>
    simp only [Server.step]
    split
    · exact h
    have hpolled := s.updates.pollRecv_polled
    generalize s.updates.pollRecv = polled at hpolled ⊢
    obtain ⟨updates, result⟩ := polled
    cases hpolled with
    | @taken _ u hqueue _ _ =>
      have hu := h.queued u (hqueue ▸ List.mem_cons_self)
      refine ⟨fun u' hu' => h.queued u' (hqueue ▸ List.mem_cons_of_mem u hu'), fun hsent => ?_⟩
      have hleads := h.leads hsent
      rw [hqueue, List.mem_cons, or_assoc] at hleads
      obtain ⟨hinbox, happlied⟩ := applyCidRouteUpdate_leads s.demux hc hu
      show _ ∨ _ ∨ ((s.demux.applyCidRouteUpdate u.1 u.2).inbox k).receiving = false
      rw [hinbox]
      rcases hleads with hleads | hleads | hleads | hleads
      · exact .inr (.inl (happlied (.inl (congrArg Prod.fst hleads).symm)))
      · exact .inl hleads
      · exact .inr (.inl (happlied (.inr hleads)))
      · exact .inr (.inr hleads)
    | waiting | ended => exact ⟨h.queued, h.leads⟩
  | receive bytes sender built =>
    simp only [Server.step]
    split
    · refine ⟨h.queued, fun hsent => (h.leads hsent).imp_right ?_⟩
      refine route_leads cfg s.demux bytes sender fun cid hcid => ?_
      subst hcid
      exact he
    · exact h
  | recvError => exact ⟨h.queued, h.leads⟩
  | send event tx => exact h.trySend event tx he
  | finish tx succeeds =>
    simp only [Server.step]
    split
    · exact h
    split
    · exact h
    have hfinished (delivered) :
        Leads c k { s with finished := tx :: s.finished, delivered := delivered } :=
      ⟨h.queued, h.leads⟩
    exact (hfinished _).trySend _ tx ⟨fun h => (by cases h), fun h => (by cases h)⟩
  | take tx => exact h.inbox tx fun hclosed => (Demux.pollRecv_receiving _).trans hclosed
  | exit tx => exact h.inbox tx fun _ => rfl

theorem peekDcid_short {first : UInt8} (hshort : first &&& 0x80 = 0)
    (hc : c.length = localCidLen) (rest : Bytes) :
    peekDcid (first :: (c ++ rest)) localCidLen = .ok (.short, c) := by
  have hlen : ¬ (c ++ rest).length < localCidLen := by
    rw [List.length_append, hc]
    exact Nat.not_lt.mpr (Nat.le_add_right _ _)
  rw [peekDcid, if_pos hshort, if_neg hlen, ← hc, List.take_left]

/-- **Registered CIDs.**  For every schedule, a short-header packet for a CID that a task has
registered, and nobody else uses or gives up, is placed in the channel of the task unless it is
full or closed, if the update does not wait any more when the packet arrives. -/
theorem registered_cid_routes (cfg : DemuxConfig A) (events : List (Event A)) (c k : Bytes)
    (hkeeps : ∀ e ∈ events, Keeps c k e) {first : UInt8} (hshort : first &&& 0x80 = 0)
    (hc : c.length = localCidLen) (rest : Bytes) (sender : A) (built : Except OxiQuicError Bytes)
    (hwaiting : (run (step cfg) {} events).waiting = true)
    (hsent : (.register c, k) ∈ (run (step cfg) {} events).sent)
    (happlied : (.register c, k) ∉ (run (step cfg) {} events).updates.queue) :
    ((run (step cfg) {} events).step cfg
        (.receive (first :: (c ++ rest)) sender built)).demux.placed =
        (run (step cfg) {} events).demux.placed ++ [(k, first :: (c ++ rest), sender)] ∨
      ((run (step cfg) {} events).demux.inbox k).receiving = false ∨
      ¬ ((run (step cfg) {} events).demux.inbox k).queue.length <
        ((run (step cfg) {} events).demux.inbox k).capacity := by
  have hpeek := peekDcid_short hshort hc rest
  have hleads : Leads c k (run (step cfg) {} events) :=
    Along.invariant (I := Leads c k) (.of_mem hkeeps)
      (fun _ e _ h he => h.step hc cfg e he) ⟨List.forall_mem_nil _, fun h => (by cases h)⟩
  generalize run (step cfg) {} events = s at *
  rcases (hleads.leads hsent).resolve_left happlied with hmap | hclosed
  · simp only [step, if_pos hwaiting, Demux.route, hpeek, if_pos hc, hmap, Demux.forwardLocal]
    by_cases hclosed : (s.demux.inbox k).receiving = false
    · exact .inr (.inl hclosed)
    by_cases hfull : (s.demux.inbox k).queue.length < (s.demux.inbox k).capacity
    · refine .inl ?_
      simp only [Demux.forward, Channel.trySend, if_neg hclosed, dif_pos hfull]
      rfl
    · exact .inr (.inr hfull)
  · exact .inr (.inl hclosed)

/-! ## One connection for each client -/

/-- No DCID has two connections, and no two connections that were delivered have one DCID. -/
def Single (s : Server A) : Prop :=
  (s.demux.created.map Prod.snd).Nodup ∧ (s.delivered.map Prod.snd).Nodup

/-- An Initial packet that opens a connection arrives although there was one for its DCID: the
entry of the DCID has been removed. -/
def Late (cfg : DemuxConfig A) (s : Server A) : Event A → Prop
  | .receive bytes sender built => s.waiting = true ∧
      ∃ c ∈ s.demux.created.map Prod.snd, s.demux.Opens cfg bytes sender built c
  | _ => False

/-- Connections differ in their DCIDs, and are delivered when their handshake is over. -/
structure Once (s : Server A) : Prop where
  single : s.Single
  delivered : ∀ p ∈ s.delivered, p ∈ s.demux.created ∧ p.1 ∈ s.finished

theorem dcidFor_created {tx : Bytes} (h : s.dcidFor tx = some c) : (tx, c) ∈ s.demux.created := by
  obtain ⟨p, hp, hc⟩ := Option.map_eq_some_iff.mp h
  have htx := of_decide_eq_true (List.find?_some hp :)
  exact htx ▸ hc ▸ List.mem_of_find?_eq_some hp

theorem Once.trySend (h : s.Once) (event : RouteEvent) (tx : Bytes) :
    (s.trySend event tx).Once := by
  rcases s.trySend_cases event tx with hsame | ⟨_, _, hsent⟩
  · rw [hsame]
    exact h
  · rw [hsent]
    exact ⟨h.single, h.delivered⟩

theorem Once.finish (h : s.Once) {tx dcid : Bytes} (hdcid : s.dcidFor tx = some dcid)
    (hnew : tx ∉ s.finished) (succeeds : Bool) : ({ s with
      finished := tx :: s.finished
      delivered := if succeeds then (tx, dcid) :: s.delivered else s.delivered } :
        Server A).Once := by
  have hcreated := dcidFor_created hdcid
  cases succeeds with
  | false =>
    exact ⟨h.single, fun p hp => ⟨(h.delivered p hp).1, List.mem_cons_of_mem tx (h.delivered p hp).2⟩⟩
  | true =>
    refine ⟨⟨h.single.1, List.nodup_cons.mpr ⟨fun hp => ?_, h.single.2⟩⟩, fun p hp => ?_⟩
    · -- another connection with the DCID would be this one
      obtain ⟨p, hp, hsame⟩ := List.mem_map.mp hp
      cases List.inj_on_of_nodup_map h.single.1 (h.delivered p hp).1 hcreated hsame
      exact hnew (h.delivered _ hp).2
    rcases List.mem_cons.mp hp with rfl | hp
    · exact ⟨hcreated, List.mem_cons_self⟩
    · exact ⟨(h.delivered p hp).1, List.mem_cons_of_mem tx (h.delivered p hp).2⟩

theorem route_created (built : Except OxiQuicError Bytes) :
    (d.route cfg bytes sender built).created = d.created ∨ ∃ c cid,
      d.Opens cfg bytes sender built c ∧
        (d.route cfg bytes sender built).created = (cid, c) :: d.created := by
  have hroutes := d.route_routes cfg bytes sender built
  generalize d.route cfg bytes sender built = r at hroutes ⊢
  cases hroutes with
  | toLocal | toInitial =>
    simp only [Demux.forwardLocal, Demux.forwardInitial]
    split <;> exact .inl rfl
  | create _ hopens => exact .inr ⟨_, _, hopens, rfl⟩
  | _ => exact .inl rfl

theorem Once.step (h : s.Once) (cfg : DemuxConfig A) (e : Event A) (he : ¬ s.Late cfg e) :
    (s.step cfg e).Once := by
  cases e with
  | drain =>
    simp only [Server.step]
    split
    · exact h
    split
    · rename_i event tx _
      have hcreated : (s.demux.applyCidRouteUpdate event tx).created = s.demux.created := by
        unfold Demux.applyCidRouteUpdate
        repeat' split
        all_goals rfl
      refine ⟨⟨hcreated ▸ h.single.1, h.single.2⟩, fun p hp => ⟨?_, (h.delivered p hp).2⟩⟩
      exact hcreated ▸ (h.delivered p hp).1
    · exact ⟨h.single, h.delivered⟩
  | receive bytes sender built =>
    simp only [Server.step]
    split
    · rename_i hwaiting
      rcases route_created cfg s.demux bytes sender built with hsame | ⟨c, cid, hopens, hnew⟩
      · exact ⟨⟨hsame ▸ h.single.1, h.single.2⟩,
          fun p hp => ⟨hsame ▸ (h.delivered p hp).1, (h.delivered p hp).2⟩⟩
      refine ⟨⟨hnew ▸ List.nodup_cons.mpr ⟨fun hc => he ⟨hwaiting, c, hc, hopens⟩, h.single.1⟩,
        h.single.2⟩, fun p hp => ⟨hnew ▸ ?_, (h.delivered p hp).2⟩⟩
      exact List.mem_cons_of_mem _ (h.delivered p hp).1
    · exact h
  | recvError | take | exit => exact ⟨h.single, h.delivered⟩
  | send event tx => exact h.trySend event tx
  | finish tx succeeds =>
    simp only [Server.step]
    split
    · exact h
    split
    · exact h
    · exact (h.finish ‹_› ‹_› succeeds).trySend _ tx

/-- **One connection for each client.**  However datagrams, updates and tasks interleave, there is
at most one connection for each DCID and at most one is delivered, if no Initial packet that opens
a connection arrives after the entry of its DCID was removed. -/
theorem one_connection (cfg : DemuxConfig A) (events : List (Event A))
    (hlate : Along (step cfg) (fun s e => ¬ s.Late cfg e) {} events) :
    (run (step cfg) {} events).Single :=
  (Along.invariant (I := Once) hlate (fun _ e _ h he => h.step cfg e he)
    ⟨⟨List.nodup_nil, List.nodup_nil⟩, List.forall_mem_nil _⟩).single

end Server

namespace Plain

/-- A server without Retry. -/
def noRetry : DemuxConfig Unit := ⟨false, fun _ _ => none⟩

/-- The first packet of a client, with the DCID 9. -/
def hello : Bytes := [0xc0, 0, 0, 0, 1, 1, 9, 0]

/-- The CID of a connection. -/
def cid (n : UInt8) : Bytes := List.replicate 8 n

/-- A client is welcome. -/
def greets : List (Server.Event Unit) := [.drain, .receive hello () (.ok (cid 1))]

/-- The packet comes once more when the handshake is over. -/
def greetsTwice : List (Server.Event Unit) :=
  greets ++ [.finish (cid 1) true, .drain, .drain, .receive hello () (.ok (cid 2)),
    .finish (cid 2) true]

end Plain

open Plain

theorem registered_cid_routes_applied :
    let s := run (Server.step noRetry) {}
      (greets ++ [.send (.register (cid 3)) (cid 1), .drain, .drain])
    (s.step noRetry (.receive (0x40 :: (cid 3 ++ [])) () (.ok []))).demux.placed =
        s.demux.placed ++ [(cid 1, 0x40 :: (cid 3 ++ []), ())] ∨
      (s.demux.inbox (cid 1)).receiving = false ∨
      ¬ (s.demux.inbox (cid 1)).queue.length < (s.demux.inbox (cid 1)).capacity :=
  Server.registered_cid_routes noRetry _ (cid 3) (cid 1)
    (by simp [greets, Server.Keeps, cid]) (by decide) (by decide) [] () (.ok [])
    (by decide +kernel) (by decide +kernel) (by decide +kernel)

/-- The demultiplexer is blocked on the socket when the update comes, and drops the packet that
follows. -/
theorem registered_cid_dropped :
    let s := run (Server.step noRetry) {}
      (greets ++ [.drain, .send (.register (cid 3)) (cid 1)])
    s.waiting = true ∧ (.register (cid 3), cid 1) ∈ s.sent ∧
      (s.demux.inbox (cid 1)).queue.length = 1 ∧
      (s.step noRetry (.receive (0x40 :: cid 3) () (.ok []))).demux.placed =
        s.demux.placed := by
  decide +kernel

theorem one_connection_greets :
    Along (Server.step noRetry) (fun s e => ¬ s.Late noRetry e) {} greets ∧
      (run (Server.step noRetry) {} greets).Single := by
  have hlate : Along (Server.step noRetry) (fun s e => ¬ s.Late noRetry e) {} greets := by
    refine ⟨id, ?_, trivial⟩
    rintro ⟨-, c, hc, -⟩
    exact List.not_mem_nil hc
  exact ⟨hlate, Server.one_connection noRetry greets hlate⟩

/-- Two connections are built for one DCID, and both are delivered. -/
theorem second_connection :
    let s := run (Server.step noRetry) {} greetsTwice
    s.demux.created.map Prod.snd = [[9], [9]] ∧ s.delivered.map Prod.snd = [[9], [9]] := by
  decide +kernel

end OxiQuic
