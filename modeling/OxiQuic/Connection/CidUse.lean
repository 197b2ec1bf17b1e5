import Mathlib.Data.Finset.Basic
import OxiQuic.Connection.CidBook
import OxiQuic.Connection.StatelessReset

/-!
# Connection IDs in use

The routing table of an endpoint learns of the connection IDs that a connection issued through
events only.  Replayed from the first connection ID on, they give exactly the active ones
(`cid_log_faithful`).

The connection ID that packets are sent to is another matter.  The pool of the peer's connection
IDs starts with the one the connection was created with, and neither follows a client that adopts
another one, nor is another one used when that is retired.  So packets go to a connection ID of the
pool exactly if none of this happened, or if the peer happens to have announced it
(`destination_live_iff`).
-/

namespace OxiQuic

open Plain

variable {P : Platform} {c : Connection P}

/-! ## The routing table -/

/-- What an event means for the routing table. -/
def CidEvent.apply (routes : Finset ConnectionId) : CidEvent → Finset ConnectionId
  | .register cid => insert cid routes
  | .unregister cid => routes.erase cid

/-- The routing table after a list of events. -/
def replayCids (routes : Finset ConnectionId) (events : List CidEvent) : Finset ConnectionId :=
  events.foldl CidEvent.apply routes

/-- The connection IDs that events register. -/
def registered (events : List CidEvent) : List ConnectionId :=
  events.filterMap fun
    | .register cid => some cid
    | .unregister _ => none

theorem replayCids_append (routes : Finset ConnectionId) (events : List CidEvent)
    (event : CidEvent) :
    replayCids routes (events ++ [event]) = event.apply (replayCids routes events) :=
  List.foldl_append

theorem toFinset_eraseP {α β : Type} [DecidableEq β] {p : α → Bool} {f : α → β} {l : List α} {a : α}
    (hfind : l.find? p = some a) (hnodup : (l.map f).Nodup) :
    ((l.eraseP p).map f).toFinset = ((l.map f).toFinset).erase (f a) := by
  obtain ⟨hp, before, after, rfl, hbefore⟩ := List.find?_eq_some_iff_append.mp hfind
  have herase : (before ++ a :: after).eraseP p = before ++ after := by
    rw [List.eraseP_append_right _ (by simpa using hbefore), List.eraseP_cons_of_pos hp]
  rw [List.map_append, List.map_cons] at hnodup
  have hapart := List.nodup_middle.mp hnodup
  have hnot := (List.nodup_cons.mp hapart).1
  ext b
  simp only [herase, List.map_append, List.map_cons, List.mem_toFinset, Finset.mem_erase,
    List.mem_append, List.mem_cons] at hnot ⊢
  grind

/-- The log of events, the pool and the first connection ID fit together. -/
structure Faithful (first : ConnectionId) (log : List CidEvent) (pool : LocalCidPool) : Prop where
  /-- The active connection IDs are some of those drawn, in order. -/
  drawn : (pool.active.map (·.cid)).Sublist (first :: registered log)
  replay : (first :: registered log).Nodup →
    replayCids {first} log = (pool.active.map (·.cid)).toFinset
  increasing : (pool.active.map (·.seq)).Pairwise (· < ·)
  below : ∀ issued ∈ pool.active, issued.seq < pool.nextSeq
  bounded : pool.active.length ≤ max pool.limit 1

namespace Faithful

variable {first : ConnectionId} {log : List CidEvent} {pool : LocalCidPool}

theorem issue (h : Faithful first log pool) (hroom : pool.active.length < pool.limit)
    (cid : ConnectionId) (token : Bytes) (pendingNew : List IssuedCid) :
    Faithful first (log ++ [.register cid]) { pool with
      nextSeq := pool.nextSeq + 1
      pendingNew := pendingNew
      active := pool.active ++ [⟨pool.nextSeq, cid, token⟩] } := by
  have hregistered : first :: registered (log ++ [.register cid])
      = (first :: registered log) ++ [cid] := by
    simp [registered]
  refine ⟨?_, fun hnodup => ?_, ?_, ?_, ?_⟩
  · rw [hregistered, List.map_append]
    exact h.drawn.append (List.Sublist.refl _)
  · rw [hregistered] at hnodup
    rw [replayCids_append, h.replay (List.nodup_append.mp hnodup).1]
    ext x
    simp only [CidEvent.apply, Finset.mem_insert, List.mem_toFinset, List.map_append,
      List.mem_append, List.map_cons, List.map_nil, List.mem_singleton]
    exact or_comm
  · rw [List.map_append, List.pairwise_append]
    refine ⟨h.increasing, List.pairwise_singleton .., fun seq hseq seq' hseq' => ?_⟩
    obtain ⟨issued, hissued, rfl⟩ := List.mem_map.mp hseq
    rw [List.mem_singleton.mp hseq']
    exact h.below issued hissued
  · intro issued hissued
    rcases List.mem_append.mp hissued with hold | hnew
    · exact Nat.lt_succ_of_lt (h.below issued hold)
    · rw [List.mem_singleton.mp hnew]
      exact Nat.lt_succ_self _
  · simp only [List.length_append, List.length_singleton]
    omega

theorem retire (h : Faithful first log pool) {seq : Nat} {removed : IssuedCid}
    (hfind : pool.active.find? (·.seq == seq) = some removed) :
    Faithful first (log ++ [.unregister removed.cid])
      { pool with active := pool.active.eraseP (·.seq == seq) } := by
  have hregistered : registered (log ++ [.unregister removed.cid]) = registered log := by
    simp [registered]
  have hsublist : (pool.active.eraseP (·.seq == seq)).Sublist pool.active := List.eraseP_sublist
  refine ⟨?_, fun hnodup => ?_, ?_, ?_, ?_⟩
  · rw [hregistered]
    exact (hsublist.map _).trans h.drawn
  · rw [hregistered] at hnodup
    rw [replayCids_append, h.replay hnodup]
    exact (toFinset_eraseP hfind (hnodup.sublist h.drawn)).symm
  · exact h.increasing.sublist (hsublist.map _)
  · exact fun issued hissued => h.below issued (hsublist.subset hissued)
  · exact Nat.le_trans hsublist.length_le h.bounded

theorem step {before : List CidEvent} {b b' : CidBook}
    (h : Faithful first (before ++ b.events) b.issued) (hstep : b.Step b') :
    Faithful first (before ++ b'.events) b'.issued := by
  cases hstep with
  | issue cid token hroom =>
    have hissue := h.issue hroom cid token (b.issued.pendingNew ++ [⟨b.issued.nextSeq, cid, token⟩])
    rw [List.append_assoc] at hissue
    exact hissue
  | retire seq hfind =>
    have hretire := h.retire hfind
    rw [List.append_assoc] at hretire
    exact hretire
  | @requeue frame _ =>
    cases frame with
    | newConnectionId seq prior cid token =>
      exact ⟨h.drawn, h.replay, h.increasing, h.below, h.bounded⟩
    | _ => exact h
  | send => exact ⟨h.drawn, h.replay, h.increasing, h.below, h.bounded⟩
  | _ => exact h

end Faithful

namespace Connection

/-- The events that the calls of `pop_cid_event` in a run return. -/
def poppedCidEvents (c : Connection P) : List Op → List CidEvent
  | [] => []
  | .popCidEvent :: ops =>
    c.popCidEvent.2.toList ++ (c.step .popCidEvent).poppedCidEvents ops
  | op :: ops => (c.step op).poppedCidEvents ops

theorem run_faithful {first : ConnectionId} {before : List CidEvent} (ops : List Op)
    (h : Faithful first (before ++ c.cidBook.events) c.cidBook.issued) :
    Faithful first (before ++ (c.poppedCidEvents ops ++ (c.run ops).cidBook.events))
      (c.run ops).cidBook.issued := by
  induction ops generalizing c before with
  | nil => exact h
  | cons op ops ih =>
    by_cases hop : op = .popCidEvent
    · -- an event that is popped moves from one part of the log to the other
      subst hop
      obtain ⟨hbook, hpopped⟩ := popCidEvent_cidBook c
      have hnow : Faithful first
          (before ++ c.popCidEvent.2.toList ++ (c.step .popCidEvent).cidBook.events)
          (c.step .popCidEvent).cidBook.issued := by
        rw [hbook, List.append_assoc]
        exact hpopped.symm ▸ h
      have hnext := ih hnow
      rw [List.append_assoc] at hnext
      rw [poppedCidEvents, List.append_assoc]
      exact hnext
    · have hstep := (c.step_updates op).invariant
        (I := fun d => Faithful first (before ++ d.cidBook.events) d.cidBook.issued)
        (fun hd hupdate => (hupdate.cidBook.resolve_right fun hcall => hop hcall.1).invariant
          (I := fun b => Faithful first (before ++ b.events) b.issued) Faithful.step hd) h
      have hpopped : c.poppedCidEvents (op :: ops) = (c.step op).poppedCidEvents ops := by
        cases op with
        | popCidEvent => exact absurd rfl hop
        | _ => rfl
      rw [hpopped]
      exact ih hstep

theorem faithful_new (P : Platform) (cid : ConnectionId) (secret : Bytes) (limit : Nat) :
    Faithful cid [] (.new P cid secret limit) where
  drawn := List.Sublist.refl _
  replay _ := rfl
  increasing := List.pairwise_singleton ..
  below issued hissued := by
    rw [List.mem_singleton.mp hissued]
    exact Nat.zero_lt_one
  bounded := Nat.le_max_right ..

theorem Fresh.faithful (hfresh : c.Fresh) :
    Faithful c.localCid ([] ++ c.cidBook.events) c.cidBook.issued := by
  cases hfresh <;> exact faithful_new P _ _ _

end Connection

/-- As long as the connection IDs drawn are distinct, the events popped so far and those still
queued lead from the first connection ID to exactly the active ones.  The sequence numbers of these
increase and are all below the next one, and there are no more of them than the limit allows. -/
theorem cid_log_faithful {c : Connection P} (hfresh : c.Fresh) (ops : List Op) :
    let pool := (c.run ops).cids.localCidPool
    let log := c.poppedCidEvents ops ++ (c.run ops).cids.pendingCidEvents
    ((c.localCid :: registered log).Nodup →
      replayCids {c.localCid} log = (pool.active.map (·.cid)).toFinset) ∧
    (pool.active.map (·.seq)).Pairwise (· < ·) ∧
    (∀ issued ∈ pool.active, issued.seq < pool.nextSeq) ∧
    pool.active.length ≤ max pool.limit 1 := by
  have h := Connection.run_faithful ops hfresh.faithful
  exact ⟨h.replay, h.increasing, h.below, h.bounded⟩

namespace Plain

/-- A client gets to know the server, tells the routing table of its second connection ID, and then
the server retires the first one. -/
def moves : List Op :=
  joined ++ [.popCidEvent, .handleDatagram 2 (shortPacket (client []) 0 0 [.retireConnectionId 0])]

end Plain

theorem cid_log_faithful_client :
    (Plain.client []).poppedCidEvents moves ≠ [] ∧
      ((Plain.client []).run moves).cids.pendingCidEvents.length = 2 ∧
      replayCids {(Plain.client []).localCid} ((Plain.client []).poppedCidEvents moves ++
          ((Plain.client []).run moves).cids.pendingCidEvents)
        = (((Plain.client []).run moves).cids.localCidPool.active.map (·.cid)).toFinset := by
  have hdistinct : ((Plain.client []).localCid :: registered
      ((Plain.client []).poppedCidEvents moves ++
        ((Plain.client []).run moves).cids.pendingCidEvents)).Nodup := by
    decide +kernel
  exact ⟨by decide +kernel, by decide +kernel,
    (cid_log_faithful (client_fresh []) moves).1 hdistinct⟩

/-! ## The destination of packets -/

/-- How the pool of the peer's connection IDs and the destination of packets are related to the
connection ID that the connection was created with. -/
structure Addressed (first : ConnectionId) (b : CidBook) : Prop where
  /-- The first connection ID stays until something is retired. -/
  kept : b.held.retireThreshold = 0 → ⟨0, first, placeholder⟩ ∈ b.held.active
  /-- All other connection IDs of the pool were announced. -/
  announced : ∀ issued ∈ b.held.active,
    issued = ⟨0, first, placeholder⟩ ∧ b.held.retireThreshold = 0 ∨
      ∃ prior, .newConnectionId issued.seq prior issued.cid issued.statelessResetToken ∈ b.heard
  /-- A server sends to the connection ID of the client's first packet. -/
  server : b.role = .server → b.peerCid = first

namespace Addressed

variable {first : ConnectionId} {b b' : CidBook}

theorem hear (h : Addressed first b) (frame : Frame) : Addressed first (b.hear frame) where
  kept := h.kept
  announced issued hissued := (h.announced issued hissued).imp_right fun ⟨prior, hmem⟩ =>
    ⟨prior, List.mem_cons_of_mem _ hmem⟩
  server := h.server

theorem announce (h : Addressed first b) (seq prior : Nat) (cid : ConnectionId) (token : Bytes) :
    Addressed first ({ b with held := (b.held.receiveNewCid seq prior cid token).1 }.hear
      (.newConnectionId seq prior cid token)) := by
  rcases Connection.receiveNewCid_cases b.held seq prior cid token with hsame | ⟨-, hadded⟩
  · rw [hsame]
    exact h.hear _
  rw [hadded]
  simp only [PeerCidPool.retirePriorTo]
  split
  · rename_i hprior
    -- what is retired now includes the first connection ID
    refine ⟨fun hzero => ?_, fun issued hissued => .inr ?_, h.server⟩
    · have hpositive : prior = 0 := hzero
      omega
    rcases List.mem_append.mp hissued with hold | hnew
    · obtain ⟨hmem, hle⟩ := List.mem_filter.mp hold
      rcases (h.hear (.newConnectionId seq prior cid token)).announced issued hmem with
        ⟨rfl, -⟩ | hannounced
      · have hle' : prior ≤ 0 := of_decide_eq_true hle
        omega
      · exact hannounced
    · rw [List.mem_singleton.mp hnew]
      exact ⟨prior, List.mem_cons_self⟩
  · refine ⟨fun hzero => List.mem_append_left _ (h.kept hzero), fun issued hissued => ?_, h.server⟩
    rcases List.mem_append.mp hissued with hold | hnew
    · exact (h.hear (.newConnectionId seq prior cid token)).announced issued hold
    · rw [List.mem_singleton.mp hnew]
      exact .inr ⟨prior, List.mem_cons_self⟩

theorem step (h : Addressed first b) (hstep : b.Step b') : Addressed first b' := by
  cases hstep with
  | adopt cid hclient =>
    exact ⟨h.kept, h.announced, fun hserver => by rw [hclient] at hserver; cases hserver⟩
  | @requeue frame _ => cases frame <;> exact ⟨h.kept, h.announced, h.server⟩
  | hear frame => exact h.hear frame
  | announce seq prior cid token => exact h.announce seq prior cid token
  | retire seq =>
    have hheard := h.hear (.retireConnectionId seq)
    exact ⟨hheard.kept, hheard.announced, hheard.server⟩
  | _ => exact ⟨h.kept, h.announced, h.server⟩

end Addressed

theorem Connection.Fresh.addressed (hfresh : c.Fresh) : Addressed c.peerCid c.cidBook := by
  have hfirst : ∀ issued ∈ [(⟨0, c.peerCid, placeholder⟩ : IssuedCid)],
      issued = ⟨0, c.peerCid, placeholder⟩ := fun issued hissued => List.mem_singleton.mp hissued
  cases hfresh <;>
    exact ⟨fun _ => List.mem_cons_self, fun issued hissued => .inl ⟨hfirst issued hissued, rfl⟩,
      fun _ => rfl⟩

theorem delivered_of_heard {trace : List (Event P)} {issued : IssuedCid} {prior : Nat}
    (h : .newConnectionId issued.seq prior issued.cid issued.statelessResetToken
      ∈ trace.filterMap Event.heardCid) : Delivered trace issued := by
  obtain ⟨e, he, hheard⟩ := List.mem_filterMap.mp h
  cases e with
  | received packetType frame =>
    cases frame with
    | newConnectionId seq prior' cid token =>
      cases hheard
      exact ⟨packetType, prior, he⟩
    | _ => cases hheard
  | _ => cases hheard

/-- Packets go to a connection ID of the pool exactly if that is the first one, with nothing
retired yet, or was announced and is active.  A server never changes where it sends to. -/
theorem destination_live_iff {c : Connection P} (hfresh : c.Fresh) (ops : List Op) :
    let d := c.run ops
    ((∃ issued ∈ d.cids.peerCidPool.active, issued.cid = d.peerCid) ↔
      d.peerCid = c.peerCid ∧ d.cids.peerCidPool.retireThreshold = 0 ∨
      ∃ issued ∈ d.cids.peerCidPool.active, issued.cid = d.peerCid ∧ Delivered d.trace issued) ∧
    (d.role = .server → d.peerCid = c.peerCid) := by
  have h : Addressed c.peerCid (c.run ops).cidBook :=
    Connection.run_cidBook (I := Addressed c.peerCid) Addressed.step
      (fun hb => ⟨hb.kept, hb.announced, hb.server⟩) hfresh.addressed ops
  refine ⟨⟨?_, ?_⟩, h.server⟩
  · rintro ⟨issued, hissued, hcid⟩
    rcases h.announced issued hissued with ⟨rfl, hzero⟩ | ⟨prior, hheard⟩
    · exact .inl ⟨hcid.symm, hzero⟩
    · exact .inr ⟨issued, hissued, hcid, delivered_of_heard hheard⟩
  rintro (⟨hcid, hzero⟩ | ⟨issued, hissued, hcid, -⟩)
  · exact ⟨⟨0, c.peerCid, placeholder⟩, h.kept hzero, hcid.symm⟩
  · exact ⟨issued, hissued, hcid⟩

namespace Plain

/-- The calls by which a server gets to know a client. -/
def meets (c : Connection Plain) : List Op :=
  [.handleDatagram 0 (c.pollTransmit 0 []).2.1, .pollTransmit 0 [],
    .handleDatagram 2 ((c.run (joins c)).pollTransmit 2 []).2.1]

end Plain

theorem destination_live_iff_server :
    let d := (Plain.server (Plain.client []) []).run (meets (Plain.client []))
    d.hs.handshakeComplete = true ∧
      ∃ issued ∈ d.cids.peerCidPool.active, issued.cid = d.peerCid := by
  have hlive : ((Plain.server (Plain.client []) []).run
        (meets (Plain.client []))).hs.handshakeComplete = true ∧
      ((Plain.server (Plain.client []) []).run (meets (Plain.client []))).role = .server ∧
      ((Plain.server (Plain.client []) []).run
        (meets (Plain.client []))).cids.peerCidPool.retireThreshold = 0 := by
    decide +kernel
  obtain ⟨hiff, hserver⟩ := destination_live_iff (server_fresh (Plain.client []) [] {})
    (meets (Plain.client []))
  exact ⟨hlive.1, hiff.mpr (.inl ⟨hserver hlive.2.1, hlive.2.2⟩)⟩

/-- A client sends to the connection ID that the server chose, of which the pool does not know.  A
server whose client retires the first connection ID goes on sending to it. -/
theorem destination_not_live :
    let client := (Plain.client []).run joined
    let server := ((Plain.server (Plain.client []) []).run (meets (Plain.client []))).run
      [.handleDatagram 3 (shortPacket (Plain.server (Plain.client []) []) 0 7
        [.newConnectionId 1 1 [5, 5, 5, 5] (List.replicate 16 7)])]
    (client.hs.handshakeComplete = true ∧
      ∀ issued ∈ client.cids.peerCidPool.active, issued.cid ≠ client.peerCid) ∧
    server.hs.handshakeComplete = true ∧
      ∀ issued ∈ server.cids.peerCidPool.active, issued.cid ≠ server.peerCid := by
  decide +kernel

/-! ## Retirement by the peer -/

/-- The log of events, those that were popped included, fits the pool. -/
def CidBook.Logged (b : CidBook) : Prop :=
  ∃ first before, Faithful first (before ++ b.events) b.issued

theorem CidBook.Logged.step {b b' : CidBook} (h : b.Logged) (hstep : b.Step b') : b'.Logged := by
  obtain ⟨first, before, hfaithful⟩ := h
  exact ⟨first, before, hfaithful.step hstep⟩

theorem CidBook.Logged.pop {b : CidBook} (h : b.Logged) :
    CidBook.Logged { b with events := b.events.tail } := by
  obtain ⟨first, before, hfaithful⟩ := h
  cases hevents : b.events with
  | nil =>
    rw [hevents] at hfaithful
    exact ⟨first, before, hfaithful⟩
  | cons event rest =>
    refine ⟨first, before ++ [event], ?_⟩
    rw [hevents] at hfaithful
    rwa [List.append_assoc]

/-- The sequence numbers that `NEW_CONNECTION_ID` frames announce. -/
def announcedSeqs (frames : List Frame) : List Nat :=
  frames.filterMap fun
    | .newConnectionId seq _ _ _ => some seq
    | _ => none

namespace Connection

/-- The frames that the loop over a 1-RTT payload handles, each with those before it, the latest
first, and with the state that it finds. -/
def handles (now : Time) :
    Nat → Bytes → List Frame → Connection P → List (List Frame × Connection P × Frame)
  | 0, _, _, _ => []
  | fuel + 1, buf, before, c =>
    if buf.isEmpty then []
    else
      match decodeFrame buf with
      | .error _ => []
      | .ok (frame, rest) =>
        let taken := c.takeFrame now .short frame
        (before, c.log (.received .short frame), frame) ::
          match taken.2 with
          | .ok () => handles now fuel rest (frame :: before) taken.1
          | .error _ => []

/-- The frames that `processFrames` handles. -/
def handled (c : Connection P) (now : Time) (payload : Bytes) :
    List (List Frame × Connection P × Frame) :=
  handles now payload.length payload [] c.beginPacket

/-- The sequence numbers of the connection IDs that the peer may use. -/
def activeSeqs (c : Connection P) : List Nat := c.cids.localCidPool.active.map (·.seq)

/-- A retirement ends what is active, does nothing to what was retired before, and is refused
exactly if the number was never given out. -/
def RetiresIssued (c : Connection P) (now : Time) (seq : Nat) : Prop :=
  let out := c.handleFrame now .short (.retireConnectionId seq)
  (seq ∈ c.activeSeqs → out.2 = .ok () ∧ seq ∉ out.1.activeSeqs) ∧
  (seq ∉ c.activeSeqs → seq < c.cids.localCidPool.nextSeq → out = (c, .ok ())) ∧
  ((∃ frameType reason, out.2 = .error (.transportError .protocolViolation frameType reason)) ↔
    c.cids.localCidPool.nextSeq ≤ seq)

theorem processAck_issuedHere (c : Connection P) (now : Time) (packetType : PacketType)
    (largest delay firstRange : Nat) (ranges : List AckRange) :
    (c.processAck now packetType largest delay firstRange ranges).cids.cidsIssuedThisPacket
      = c.cids.cidsIssuedThisPacket := by
  refine Recovers.processAck
    (I := fun d => d.cids.cidsIssuedThisPacket = c.cids.cidsIssuedThisPacket)
    ⟨fun _ _ _ _ _ h => h, fun _ _ h => h, fun _ _ _ _ _ h => h, fun _ _ _ h => h,
      fun _ _ _ h => h, fun _ _ frame _ h => ?_⟩
    rfl now packetType largest delay firstRange ranges
  cases frame with
  | crypto | newToken =>
    simp only [requeueFrame]
    split <;> exact h
  | _ => exact h

/-- The numbers that a packet has announced are those of its `NEW_CONNECTION_ID` frames. -/
theorem takeFrame_announced (c : Connection P) (now : Time) {frame : Frame}
    (hok : (c.takeFrame now .short frame).2 = .ok ()) :
    (c.takeFrame now .short frame).1.cids.cidsIssuedThisPacket
      = announcedSeqs [frame] ++ c.cids.cidsIssuedThisPacket := by
  cases frame with
  | newConnectionId seq prior cid token =>
    simp only [takeFrame, handleFrame, recvNewConnectionId, ne_eq, not_true_eq_false, if_false]
      at hok ⊢
    split at hok
    · cases hok
    · rfl
  | ack largest delay firstRange ranges => exact processAck_issuedHere _ now .short _ _ _ _
  | retireConnectionId | crypto | stopSending | stream | pathResponse | handshakeDone | newToken
  | datagram =>
    simp only [takeFrame, handleFrame, recvRetireConnectionId, maybeIssueNewCid, recvCrypto,
      recvStopSending, recvStream, ensureStream, noteNewPeerStream, ensureSendHalf,
      recvPathResponse, recvNewToken, recvDatagramFrame]
    repeat' split
    all_goals rfl
  | _ => rfl

/-- Every frame of a payload finds a pool that fits its log, and the numbers of the frames before
it noted. -/
theorem handles_logged (now : Time) (fuel : Nat) (buf : Bytes) (before : List Frame)
    (c : Connection P) (hlogged : c.cidBook.Logged)
    (hseqs : c.cids.cidsIssuedThisPacket = announcedSeqs before) :
    ∀ v ∈ handles now fuel buf before c,
      v.2.1.cidBook.Logged ∧ v.2.1.cids.cidsIssuedThisPacket = announcedSeqs v.1 := by
  induction fuel generalizing buf before c with
  | zero => exact fun v hv => absurd hv List.not_mem_nil
  | succ fuel ih =>
    intro v hv
    simp only [handles] at hv
    split at hv
    · cases hv
    split at hv
    · cases hv
    rename_i frame rest _
    rcases List.mem_cons.mp hv with rfl | hv
    · exact ⟨hlogged, hseqs⟩
    split at hv
    · rename_i hok
      refine ih rest (frame :: before) _ ?_ ?_ v hv
      · exact (takeFrame_cidBook c now .short frame).invariant CidBook.Logged.step hlogged
      · rw [takeFrame_announced c now hok, hseqs]
        exact (List.filterMap_append (l := [frame])).symm
    · cases hv

theorem maybeIssueNewCid_activeSeqs (c : Connection P) :
    ∀ seq ∈ c.maybeIssueNewCid.1.activeSeqs,
      seq ∈ c.activeSeqs ∨ seq = c.cids.localCidPool.nextSeq := by
  have hissue : ∀ raw, ∀ seq ∈ (c.cids.localCidPool.issueNewCid P raw).1.active.map (·.seq),
      seq ∈ c.activeSeqs ∨ seq = c.cids.localCidPool.nextSeq := by
    intro raw seq hseq
    simp only [LocalCidPool.issueNewCid] at hseq
    split at hseq
    · exact .inl hseq
    · rw [List.map_append, List.mem_append] at hseq
      exact hseq.imp_right List.mem_singleton.mp
  simp only [maybeIssueNewCid]
  split
  · exact fun seq => .inl
  split
  · exact fun seq => .inl
  · split <;> exact hissue _

/-- The retirement of a number that the packet did not announce. -/
theorem retire_free {c : Connection P} (h : c.cidBook.Logged) (now : Time) {seq : Nat}
    (hfree : seq ∉ c.cids.cidsIssuedThisPacket) :
    let out := c.handleFrame now .short (.retireConnectionId seq)
    out.2 = .ok () ∧ seq ∉ out.1.activeSeqs ∧ (seq ∉ c.activeSeqs → out = (c, .ok ())) := by
  obtain ⟨first, before, hfaithful⟩ := h
  have hcontains : ¬ c.cids.cidsIssuedThisPacket.contains seq = true :=
    fun hmem => hfree (List.contains_iff_mem.mp hmem)
  cases hfind : c.cids.localCidPool.active.find? (·.seq == seq) with
  | none =>
    simp only [handleFrame, recvRetireConnectionId, ne_eq, not_true_eq_false, if_false,
      if_neg hcontains, LocalCidPool.handlePeerRetirement, hfind]
    refine ⟨trivial, fun hmem => ?_, fun _ => trivial⟩
    obtain ⟨issued, hissued, rfl⟩ := List.mem_map.mp hmem
    exact List.find?_eq_none.mp hfind issued hissued (beq_self_eq_true _)
  | some removed =>
    have hremoved : removed ∈ c.cids.localCidPool.active := List.mem_of_find?_eq_some hfind
    have hseq : removed.seq = seq := by
      simpa using List.find?_some hfind
    simp only [handleFrame, recvRetireConnectionId, ne_eq, not_true_eq_false, if_false,
      if_neg hcontains, LocalCidPool.handlePeerRetirement, hfind]
    refine ⟨trivial, fun hmem => ?_,
      fun hnone => absurd (List.mem_map.mpr ⟨removed, hremoved, hseq⟩) hnone⟩
    rcases maybeIssueNewCid_activeSeqs _ _ hmem with hkept | hnew
    · have hdistinct : (c.cids.localCidPool.active.map (·.seq)).Nodup :=
        hfaithful.increasing.imp Nat.ne_of_lt
      have herased := toFinset_eraseP hfind hdistinct
      rw [hseq] at herased
      exact Finset.notMem_erase _ _ (herased ▸ List.mem_toFinset.mpr hkept)
    · exact Nat.ne_of_lt (hfaithful.below removed hremoved) (hseq.trans hnew)

theorem retiresIssued_iff {c : Connection P} (h : c.cidBook.Logged) (now : Time) (seq : Nat) :
    c.RetiresIssued now seq ↔
      (seq ∈ c.cids.cidsIssuedThisPacket ↔ c.cids.localCidPool.nextSeq ≤ seq) := by
  by_cases hhere : seq ∈ c.cids.cidsIssuedThisPacket
  · -- announced by the peer, so refused
    have hrefused : (c.handleFrame now .short (.retireConnectionId seq)).2
        = .error (violation (some .retireConnectionId)
          "RETIRE_CONNECTION_ID for CID issued in same packet") := by
      simp only [handleFrame, recvRetireConnectionId, ne_eq, not_true_eq_false, if_false,
        List.contains_iff_mem.mpr hhere, if_true]
    refine ⟨fun hright => iff_of_true hhere (hright.2.2.mp ⟨_, _, hrefused⟩), fun hiff => ?_⟩
    have hnever : c.cids.localCidPool.nextSeq ≤ seq := hiff.mp hhere
    refine ⟨fun hactive => ?_, fun _ hlt => absurd hnever (Nat.not_le.mpr hlt),
      iff_of_true ⟨_, _, hrefused⟩ hnever⟩
    obtain ⟨first, before, hfaithful⟩ := h
    obtain ⟨issued, hissued, rfl⟩ := List.mem_map.mp hactive
    exact absurd hnever (Nat.not_le.mpr (hfaithful.below issued hissued))
  · obtain ⟨hok, hgone, hsame⟩ := retire_free h now hhere
    have hquiet : ¬ ∃ frameType reason, (c.handleFrame now .short (.retireConnectionId seq)).2
        = .error (.transportError .protocolViolation frameType reason) := by
      rintro ⟨frameType, reason, herror⟩
      cases hok.symm.trans herror
    refine ⟨fun hright => iff_of_false hhere fun hnever => hquiet (hright.2.2.mpr hnever),
      fun hiff => ⟨fun _ => ⟨hok, hgone⟩, fun hnone _ => hsame hnone, ?_⟩⟩
    exact iff_of_false hquiet fun hnever => hhere (hiff.mpr hnever)

theorem Fresh.logged (hfresh : c.Fresh) : c.cidBook.Logged := ⟨c.localCid, [], hfresh.faithful⟩

end Connection

/-- A retirement in a 1-RTT packet has the effect that follows from the connection IDs issued to
the peer exactly if the packet announced the same number before in the case that it was never given
out, and only then.  The two have nothing to do with each other. -/
theorem retirement_by_issue_iff (hfresh : c.Fresh) (ops : List Op) (now : Time) (payload : Bytes)
    (before : List Frame) (d : Connection P) (seq : Nat)
    (hhandled : (before, d, .retireConnectionId seq) ∈ (c.run ops).handled now payload) :
    d.RetiresIssued now seq ↔ (seq ∈ announcedSeqs before ↔ d.cids.localCidPool.nextSeq ≤ seq) := by
  have hlogged : (c.run ops).cidBook.Logged :=
    Connection.run_cidBook CidBook.Logged.step CidBook.Logged.pop hfresh.logged ops
  obtain ⟨hd, hseqs⟩ :=
    Connection.handles_logged now _ payload [] (c.run ops).beginPacket hlogged rfl _ hhandled
  rw [← hseqs]
  exact Connection.retiresIssued_iff hd now seq

/-- A client that has given out the numbers 0 and 1 has the second one retired. -/
theorem retirement_by_issue_client :
    let c := (Plain.client []).run joined
    (c.beginPacket.log (.received .short (.retireConnectionId 1))).RetiresIssued 2 1 := by
  refine (retirement_by_issue_iff (client_fresh []) joined 2 (Frame.encode (.retireConnectionId 1))
    [] _ 1 (List.mem_cons_self ..)).mpr (iff_of_false ?_ ?_)
  · exact List.not_mem_nil
  · decide +kernel

/-- That client refuses the retirement in a packet that announces the number 1 of the server, and
has nothing against the retirement of a number that it never gave out. -/
theorem retirement_not_by_issue :
    let c := (Plain.client []).run joined
    let retire := fun seq => Frame.encode (.retireConnectionId seq)
    let announce := Frame.encode (.newConnectionId 1 0 [5, 5, 5, 5] (List.replicate 16 7))
    c.activeSeqs = [0, 1] ∧ c.cids.localCidPool.nextSeq = 2 ∧
      (c.processFrames 2 .short (retire 1)).2.isOk = true ∧
      (c.processFrames 2 .short (announce ++ retire 1)).2.isOk = false ∧
      (c.processFrames 2 .short (retire 7)).2.isOk = true := by
  decide +kernel

end OxiQuic
