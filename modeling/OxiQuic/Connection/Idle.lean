import OxiQuic.Connection.Isolation
import OxiQuic.Connection.Opening

/-!
# Frames without effect

When a frame leaves a part of a connection as it is: the limits that the peer sets, the pools of
connection IDs, the queue of datagrams, the record of packets in flight.  One lemma for each part,
each an equivalence.
-/

namespace OxiQuic

open Lib

variable {P : Platform} (c : Connection P) (l : StreamLimit) {ranges : List (Nat × Nat)}

/-! ## Limits -/

variable (f : SendCredit) (max : Nat)

theorem SendCredit.maxData_onMaxData_eq_iff :
    (f.onMaxData max).maxData = f.maxData ↔ max ≤ f.maxData := by
  simp only [SendCredit.onMaxData]
  split
  · rename_i hmore
    simp only
    omega
  · rename_i hless
    exact iff_of_true rfl (Nat.not_lt.mp hless)

theorem SendCredit.onMaxData_eq_self_iff : f.onMaxData max = f ↔ max ≤ f.maxData := by
  rw [← maxData_onMaxData_eq_iff]
  constructor
  · exact congrArg SendCredit.maxData
  · intro h
    exact if_neg (Nat.not_lt.mpr ((f.maxData_onMaxData_eq_iff max).mp h))

theorem peerMaxStreams_raise_eq_iff :
    (Connection.raisePeerMaxStreams max l).peerMaxStreams = l.peerMaxStreams ↔
      max ≤ l.peerMaxStreams := by
  simp only [Connection.raisePeerMaxStreams]
  split
  · rename_i hmore
    simp only
    omega
  · rename_i hless
    exact iff_of_true rfl (Nat.not_lt.mp hless)

theorem raisePeerMaxStreams_eq_self_iff :
    Connection.raisePeerMaxStreams max l = l ↔ max ≤ l.peerMaxStreams := by
  rw [← peerMaxStreams_raise_eq_iff]
  constructor
  · exact congrArg StreamLimit.peerMaxStreams
  · intro h
    exact if_neg (Nat.not_lt.mpr ((peerMaxStreams_raise_eq_iff l max).mp h))

/-- The peer has been offered all the streams there are to offer. -/
def StreamLimit.Offered (l : StreamLimit) : Prop :=
  l.localMaxStreams + l.closedPeer ≤ l.sentMaxStreams ∨
    l.pendingMaxStreams = some (l.localMaxStreams + l.closedPeer)

theorem raiseMaxStreams_eq_self_iff : Connection.raiseMaxStreams l = l ↔ l.Offered := by
  simp only [Connection.raiseMaxStreams]
  split
  · rename_i hmore
    constructor
    · intro h
      exact .inr (congrArg StreamLimit.pendingMaxStreams h).symm
    rintro (hle | hpending)
    · exact absurd hle (Nat.not_le.mpr hmore)
    · rw [← hpending]
  · rename_i hless
    exact iff_of_true rfl (.inl (Nat.not_lt.mp hless))

/-- The limit of one direction. -/
def StreamLimits.get (l : StreamLimits) : Direction → StreamLimit
  | .bidirectional => l.bidi
  | .unidirectional => l.uni

theorem StreamLimits.modify_eq_self_iff (l : StreamLimits) (dir : Direction)
    (f : StreamLimit → StreamLimit) : l.modify dir f = l ↔ f (l.get dir) = l.get dir := by
  obtain ⟨bidi, uni⟩ := l
  cases dir <;> simp [StreamLimits.modify, StreamLimits.get]

/-! ## Connection IDs -/

/-- The pool does not take a connection ID: the frame contradicts itself, the number is known, or
the pool is full. -/
def PeerCidPool.Declines (p : PeerCidPool) (seq prior : Nat) : Prop :=
  seq < prior ∨ (∃ issued ∈ p.active, issued.seq = seq) ∨
    p.limit < (p.active.filter fun c => decide (prior ≤ c.seq)).length + 1

theorem receiveNewCid_eq_self_iff (p : PeerCidPool) (seq prior : Nat) (cid : ConnectionId)
    (token : Bytes) : (p.receiveNewCid seq prior cid token).1 = p ↔ p.Declines seq prior := by
  simp only [PeerCidPool.receiveNewCid]
  split
  · rename_i hprior
    exact iff_of_true rfl (.inl hprior)
  rename_i hprior
  split
  · rename_i hknown
    obtain ⟨issued, hissued, hseq⟩ := List.any_eq_true.mp hknown
    exact iff_of_true rfl (.inr (.inl ⟨issued, hissued, beq_iff_eq.mp hseq⟩))
  rename_i hnew
  have hunknown : ∀ issued ∈ p.active, issued.seq ≠ seq := by
    intro issued hissued hseq
    exact hnew (List.any_eq_true.mpr ⟨issued, hissued, beq_iff_eq.mpr hseq⟩)
  split
  · rename_i hfull
    exact iff_of_true rfl (.inr (.inr hfull))
  rename_i hroom
  refine iff_of_false (fun h => ?_) ?_
  · have hactive : ⟨seq, cid, token⟩ ∈ p.active := by
      rw [← congrArg PeerCidPool.active h]
      exact List.mem_append_right _ (List.mem_singleton_self _)
    exact hunknown _ hactive rfl
  rintro (hless | ⟨issued, hissued, hseq⟩ | hfull)
  · exact hprior hless
  · exact hunknown issued hissued hseq
  · exact hroom hfull

namespace Connection

/-- A retirement is refused or is of no connection ID that is active. -/
def IgnoresRetirement (c : Connection P) (packetType : PacketType) (seq : Nat) : Prop :=
  packetType ≠ .short ∨ seq ∈ c.cids.cidsIssuedThisPacket ∨
    ∀ issued ∈ c.cids.localCidPool.active, issued.seq ≠ seq

theorem recvRetireConnectionId_of_ignores {c : Connection P} {packetType : PacketType} {seq : Nat}
    (h : c.IgnoresRetirement packetType seq) : (c.recvRetireConnectionId packetType seq).1 = c := by
  simp only [recvRetireConnectionId]
  split
  · rfl
  rename_i hshort
  split
  · rfl
  rename_i hissued
  have hnone : c.cids.localCidPool.active.find? (·.seq == seq) = none := by
    rcases h with hother | hmem | hnone
    · exact absurd hother hshort
    · exact absurd (List.contains_iff_mem.mpr hmem) hissued
    · exact List.find?_eq_none.mpr fun issued hissued => by simpa using hnone issued hissued
  simp only [LocalCidPool.handlePeerRetirement, hnone]

theorem maybeIssueNewCid_pool :
    c.maybeIssueNewCid.1.cids.localCidPool = c.cids.localCidPool ∨
      c.maybeIssueNewCid.1.cids.localCidPool.nextSeq = c.cids.localCidPool.nextSeq + 1 := by
  have hissue : ∀ raw, (c.cids.localCidPool.issueNewCid P raw).1 = c.cids.localCidPool ∨
      (c.cids.localCidPool.issueNewCid P raw).1.nextSeq = c.cids.localCidPool.nextSeq + 1 := by
    intro raw
    simp only [LocalCidPool.issueNewCid]
    split
    · exact .inl rfl
    · exact .inr rfl
  simp only [maybeIssueNewCid]
  split
  · exact .inl rfl
  split
  · exact .inl rfl
  · split <;> exact hissue _

theorem recvRetireConnectionId_pool_iff (packetType : PacketType) (seq : Nat) :
    (c.recvRetireConnectionId packetType seq).1.cids.localCidPool = c.cids.localCidPool ↔
      c.IgnoresRetirement packetType seq := by
  constructor
  · intro h
    by_contra hacts
    simp only [IgnoresRetirement, not_or, not_forall, not_not] at hacts
    obtain ⟨hshort, hother, issued, hissued, hseq⟩ := hacts
    have hfound : ∃ removed, c.cids.localCidPool.active.find? (·.seq == seq) = some removed :=
      Option.isSome_iff_exists.mp (List.find?_isSome.mpr ⟨issued, hissued, beq_iff_eq.mpr hseq⟩)
    obtain ⟨removed, hremoved⟩ := hfound
    have hcontains : ¬ c.cids.cidsIssuedThisPacket.contains seq = true :=
      fun hmem => hother (List.contains_iff_mem.mp hmem)
    simp only [recvRetireConnectionId, hshort, ne_eq, not_true_eq_false, if_false, if_neg hcontains,
      LocalCidPool.handlePeerRetirement, hremoved] at h
    -- the pool is one shorter, or a number is used up
    rcases maybeIssueNewCid_pool { c with cids := { c.cids with
        localCidPool := { c.cids.localCidPool with
          active := c.cids.localCidPool.active.eraseP (·.seq == seq) }
        pendingCidEvents := c.cids.pendingCidEvents ++ [.unregister removed.cid] } }
      with hsame | hnext
    · have hlength := congrArg (fun pool => pool.active.length) (hsame.symm.trans h)
      simp only [List.length_eraseP] at hlength
      have hany : c.cids.localCidPool.active.any (·.seq == seq) = true :=
        List.any_eq_true.mpr ⟨issued, hissued, beq_iff_eq.mpr hseq⟩
      have hpos : 0 < c.cids.localCidPool.active.length := List.length_pos_of_mem hissued
      rw [if_pos hany] at hlength
      omega
    · rw [h] at hnext
      exact absurd hnext (Nat.ne_of_lt (Nat.lt_succ_self _))
  · intro h
    rw [recvRetireConnectionId_of_ignores h]

/-! ## Datagrams -/

end Connection

/-- Dropping the first and adding one at the end gives the same list exactly if all are the one
that is added. -/
theorem tail_append_singleton_eq_self_iff {α : Type} (l : List α) (a : α) :
    l.tail ++ [a] = l ↔ l ≠ [] ∧ ∀ b ∈ l, b = a := by
  induction l with
  | nil => simp
  | cons first rest ih =>
    cases rest with
    | nil => simp [eq_comm]
    | cons second more =>
      simp only [List.tail_cons, List.cons_append, List.cons.injEq] at ih ⊢
      rw [ih]
      simp only [ne_eq, reduceCtorEq, not_false_eq_true, true_and, List.forall_mem_cons]
      constructor
      · rintro ⟨rfl, hsecond, hmore⟩
        exact ⟨hsecond, hsecond, hmore⟩
      · rintro ⟨hfirst, hsecond, hmore⟩
        exact ⟨hsecond.trans hfirst.symm, hsecond, hmore⟩

namespace Connection

/-- A datagram is refused, or takes the place of the oldest in a full queue of the same. -/
def IgnoresDatagram (c : Connection P) (data : Bytes) : Prop :=
  c.datagrams.localMaxDatagramFrameSize = 0 ∨
    c.datagrams.localMaxDatagramFrameSize < data.length ∨
    (c.datagrams.recvBufferLimit < (c.datagrams.recvQueue.map List.length).sum + data.length ∧
      c.datagrams.recvQueue ≠ [] ∧ ∀ other ∈ c.datagrams.recvQueue, other = data)

theorem recvDatagramFrame_conn (data : Bytes) :
    ∃ queue, (c.recvDatagramFrame data).1 =
        { c with datagrams := { c.datagrams with recvQueue := queue } } ∧
      (queue = c.datagrams.recvQueue ↔ c.IgnoresDatagram data) := by
  simp only [recvDatagramFrame]
  split
  · rename_i hzero
    exact ⟨c.datagrams.recvQueue, rfl, iff_of_true rfl (.inl hzero)⟩
  rename_i hpos
  split
  · rename_i hlong
    exact ⟨c.datagrams.recvQueue, rfl, iff_of_true rfl (.inr (.inl hlong))⟩
  rename_i hfits
  refine ⟨_, rfl, ?_⟩
  have hsimple : c.IgnoresDatagram data ↔
      c.datagrams.recvBufferLimit < (c.datagrams.recvQueue.map List.length).sum + data.length ∧
        c.datagrams.recvQueue ≠ [] ∧ ∀ other ∈ c.datagrams.recvQueue, other = data := by
    constructor
    · rintro (hzero | hlong | hfull)
      · exact absurd hzero hpos
      · exact absurd hlong hfits
      · exact hfull
    · exact fun hfull => .inr (.inr hfull)
  rw [hsimple]
  split
  · rename_i hover
    rw [tail_append_singleton_eq_self_iff]
    exact (and_iff_right hover).symm
  rename_i hroom
  refine iff_of_false (fun h => ?_) fun h => hroom h.1
  have hlength := congrArg List.length h
  rw [List.length_append, List.length_singleton] at hlength
  omega

end Connection

/-! ## Streams -/

namespace Connection

theorem inbound_ensureStream (id : StreamId) : (c.ensureStream id).inbound = { c.inbound with
      newPeerStreams :=
        if !c.inbound.streams.contains id && c.isPeerInitiated id then
          c.inbound.newPeerStreams ++ [id]
        else c.inbound.newPeerStreams } := by
  rw [ensureStream_inbound]
  simp only [noteNewPeerStream]
  split <;> rfl

/-- Stream data makes the stream, acts on its receive half and may make it readable. -/
theorem recvStream_conn (id offset : Nat) (fin : Bool) (data : Bytes) :
    ∃ readable, (c.recvStream id offset fin data).1 = { c.ensureStream id with
        inbound := { (c.ensureStream id).inbound with
          streams := c.inbound.streams.insert id ((c.uptake.half id).takeIn ⟨offset, data, fin⟩)
          readable := readable } } ∧
      ((c.uptake.half id).isReset = true ∨
          ((c.uptake.half id).recv ⟨offset, data, fin⟩).2 ≠ .ok true →
        readable = c.inbound.readable) := by
  have hstreams : (c.ensureStream id).inbound.streams = c.inbound.streams := by
    rw [inbound_ensureStream]
  have hreadable : (c.ensureStream id).inbound.readable = c.inbound.readable := by
    rw [inbound_ensureStream]
  have hhalf : ((c.ensureStream id).inbound.streams.get? id).getD {} = c.uptake.half id := by
    rw [hstreams]
    rfl
  simp only [recvStream, hhalf, RecvStream.takeIn]
  generalize c.uptake.half id = s
  by_cases hreset : s.isReset = true
  · simp only [if_pos hreset, hstreams]
    exact ⟨_, rfl, fun _ => hreadable⟩
  simp only [if_neg hreset, hstreams]
  cases hnews : (s.recv ⟨offset, data, fin⟩).2 with
  | error e =>
    cases e with
    | finalSize | reset => exact ⟨_, rfl, fun _ => hreadable⟩
  | ok news =>
    cases news with
    | false => exact ⟨_, rfl, fun _ => hreadable⟩
    | true => exact ⟨_, rfl, fun h => absurd rfl (h.resolve_left hreset)⟩

end Connection

/-! ## Packets in flight -/

namespace SentPackets

theorem takeRanges_of_uncovered {sent : OrdMap Nat SentPacket}
    (h : ∀ pn, (∃ r ∈ ranges, r.1 ≤ pn ∧ pn ≤ r.2) → sent.get? pn = none) :
    takeRanges sent ranges = (sent, []) := by
  have hremoves := removes_takeRanges sent ranges
  have hkept : ∀ {pn p}, sent.get? pn = some p → ¬ ∃ r ∈ ranges, r.1 ≤ pn ∧ pn ≤ r.2 := by
    intro pn p hget hcovers
    cases hget.symm.trans (h pn hcovers)
  refine Prod.ext (OrdMap.ext_get? fun pn => Option.ext fun p => ?_)
    (List.eq_nil_iff_forall_not_mem.mpr fun e he => ?_)
  · exact hremoves.left.trans ⟨And.left, fun hget => ⟨hget, hkept hget⟩⟩
  · obtain ⟨hget, hcovers⟩ := hremoves.mem.mp he
    exact hkept hget hcovers

theorem onAck_get?_of_covers (s : SentPackets) {largest firstRange : Nat} {pn : Nat}
    (h : AckCovers largest firstRange ranges pn) :
    (s.onAck largest firstRange ranges).1.sent.get? pn = none :=
  Option.eq_none_iff_forall_ne_some.mpr fun _ hp => ((removes_takeRanges ..).left.mp hp).2 h

end SentPackets

end OxiQuic
