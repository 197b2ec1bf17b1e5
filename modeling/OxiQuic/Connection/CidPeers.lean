import Mathlib.Data.List.Perm.Subperm
import OxiQuic.Connection.CidBook
import OxiQuic.Connection.KeyAgreement
import OxiQuic.Connection.PeerPool

/-!
# The connection IDs of two endpoints

Two connections over a network that loses, delays, repeats and reorders what they send.  All that
links them is that the frames about connection IDs which one of them takes in were sent by the
other.

Neither side ever asks the other to retire a connection ID: every `NEW_CONNECTION_ID` says to retire
what is below zero.  So nothing is ever retired, and what one side holds is active on the other
(`cid_agreement`).  But each side issues as many connection IDs as its own limit allows, and not
that of the other.  The limit of the side that receives them is kept as long as the other has issued
no more than that (`cid_limit_respected`), and broken otherwise.
-/

namespace OxiQuic

open Lib Plain

variable {P : Platform}

/-! ## One endpoint -/

theorem PeerCidPool.receiveNewCid_limitError {p : PeerCidPool} {seq prior : Nat}
    {cid : ConnectionId} {token : Bytes} {frameType : Option FrameType} {reason : String}
    (h : (p.receiveNewCid seq prior cid token).2 = .error
      (.transportError .connectionIdLimitError frameType reason)) :
    ¬ p.Has seq ∧ p.limit ≤ p.remaining prior := by
  simp only [receiveNewCid] at h
  split at h
  · cases h
  split at h
  · cases h
  rename_i hhas
  split at h
  · rename_i hfull
    exact ⟨fun hheld => hhas ((p.any_iff_has _).mpr hheld), Nat.le_of_lt_succ hfull⟩
  · cases h

namespace CidBook

/-- The other side has only announced connection IDs, and asked to retire none. -/
def Polite (b : CidBook) : Prop :=
  ∀ frame ∈ b.heard, ∃ issued : IssuedCid, frame = issued.announcement

/-- What holds of an endpoint with a given limit whose peer is polite. -/
structure Kept (limit : Nat) (b : CidBook) : Prop where
  issuedLimit : b.issued.limit = limit
  heldLimit : b.held.limit = limit
  /-- No connection ID that was issued is retired. -/
  numbered : b.issued.active.map (·.seq) = List.range b.issued.nextSeq
  bounded : b.issued.nextSeq ≤ max limit 1
  pending : ∀ issued ∈ b.issued.pendingNew, issued ∈ b.issued.active
  tracked : ∀ frame, b.Tracked frame → frame.isCid = true →
    ∃ issued ∈ b.issued.active, frame = issued.record
  said : ∀ frame ∈ b.said, ∃ issued ∈ b.issued.active, frame = issued.announcement
  threshold : b.held.retireThreshold = 0
  pendingRetire : b.held.pendingRetire = []
  distinct : (b.held.active.map (·.seq)).Nodup
  announced : ∀ issued ∈ b.held.active, issued.seq = 0 ∨ issued.announcement ∈ b.heard

variable {limit : Nat} {b b' : CidBook}

theorem Step.heard_suffix (h : b.Step b') : b.heard <:+ b'.heard := by
  cases h with
  | hear | announce | retire => exact List.suffix_cons ..
  | @requeue frame _ => cases frame <;> exact List.suffix_refl _
  | _ => exact List.suffix_refl _

theorem Step.said_subset (h : b.Step b') : b.said ⊆ b'.said := by
  cases h with
  | send => exact List.subset_append_right ..
  | @requeue frame _ => cases frame <;> exact List.Subset.refl _
  | _ => exact List.Subset.refl _

theorem Polite.of_suffix (h : b'.Polite) (hsuffix : b.heard <:+ b'.heard) : b.Polite :=
  fun frame hframe => h frame (hsuffix.subset hframe)

namespace Kept

/-- Each side starts with the connection IDs of the handshake, and has sent nothing. -/
theorem start {localCid peerCid : ConnectionId} {secret : Bytes}
    (hissued : b.issued = .new P localCid secret limit) (hheld : b.held = .new peerCid limit)
    (hstores : b.stores = .const {}) (hsaid : b.said = []) : b.Kept limit where
  issuedLimit := by rw [hissued]; rfl
  heldLimit := by rw [hheld]; rfl
  numbered := by rw [hissued]; rfl
  bounded := by
    rw [hissued]
    exact Nat.le_max_right ..
  pending := by
    rw [hissued]
    exact List.forall_mem_nil _
  tracked := by
    rintro frame ⟨kind, pn, p, hp, -⟩
    rw [hstores] at hp
    cases kind <;> cases hp
  said := by
    rw [hsaid]
    exact List.forall_mem_nil _
  threshold := by rw [hheld]; rfl
  pendingRetire := by rw [hheld]; rfl
  distinct := by
    rw [hheld]
    exact List.nodup_singleton _
  announced := by
    rw [hheld]
    exact List.forall_mem_singleton.mpr (.inl rfl)

theorem hear (h : b.Kept limit) (frame : Frame) : (b.hear frame).Kept limit :=
  { h with announced := fun issued hissued =>
      (h.announced issued hissued).imp_right (List.mem_cons_of_mem _) }

theorem issue (h : b.Kept limit) (hroom : b.issued.active.length < b.issued.limit)
    (cid : ConnectionId) (token : Bytes) : (b.issue cid token).Kept limit where
  issuedLimit := h.issuedLimit
  heldLimit := h.heldLimit
  numbered := by
    simp only [CidBook.issue, List.map_append, h.numbered, List.range_succ]
    rfl
  bounded := by
    have hlength := congrArg List.length h.numbered
    have hlimit := h.issuedLimit
    simp only [List.length_map, List.length_range] at hlength
    simp only [CidBook.issue]
    omega
  pending issued hissued := by
    rcases List.mem_append.mp hissued with hold | hnew
    · exact List.mem_append_left _ (h.pending issued hold)
    · exact List.mem_append_right _ hnew
  tracked frame hframe hcid := by
    obtain ⟨issued, hissued, heq⟩ := h.tracked frame hframe hcid
    exact ⟨issued, List.mem_append_left _ hissued, heq⟩
  said frame hframe := by
    obtain ⟨issued, hissued, heq⟩ := h.said frame hframe
    exact ⟨issued, List.mem_append_left _ hissued, heq⟩
  threshold := h.threshold
  pendingRetire := h.pendingRetire
  distinct := h.distinct
  announced := h.announced

theorem requeue (h : b.Kept limit) {frame : SentFrame} (hframe : b.Tracked frame) :
    (b.requeue frame).Kept limit := by
  cases frame with
  | newConnectionId seq prior cid token =>
    obtain ⟨issued, hissued, heq⟩ := h.tracked _ hframe rfl
    cases heq
    refine { h with pending := fun issued' hissued' => ?_ }
    rcases List.mem_append.mp hissued' with hold | hnew
    · exact h.pending issued' hold
    · exact List.mem_singleton.mp hnew ▸ hissued
  | retireConnectionId seq =>
    obtain ⟨issued, _, heq⟩ := h.tracked _ hframe rfl
    cases heq
  | _ => exact h

theorem announce (h : b.Kept limit) (issued : IssuedCid) :
    ({ b with held := (b.held.receiveNewCid issued.seq 0 issued.cid
      issued.statelessResetToken).1 }.hear issued.announcement).Kept limit := by
  have hreceives := b.held.receiveNewCid_receives issued 0
  generalize b.held.receiveNewCid issued.seq 0 issued.cid issued.statelessResetToken = r
    at hreceives
  cases hreceives with
  | reject | repeated => exact h.hear _
  | accept _ hnew =>
    have hheard := h.hear issued.announcement
    have hsame : b.held.retirePriorTo 0 = b.held := if_neg (Nat.not_lt_zero _)
    rw [hsame]
    refine { hheard with distinct := ?_, announced := fun issued' hissued' => ?_ }
    · show ((b.held.active ++ [issued]).map (·.seq)).Nodup
      rw [List.map_append]
      refine List.nodup_append.mpr ⟨h.distinct, List.nodup_singleton _, ?_⟩
      rintro seq hseq _ hissued rfl
      obtain ⟨c, hc, rfl⟩ := List.mem_map.mp hseq
      exact hnew ⟨c, hc, List.mem_singleton.mp hissued⟩
    · rcases List.mem_append.mp hissued' with hold | hadded
      · exact hheard.announced issued' hold
      · rw [List.mem_singleton.mp hadded]
        exact .inr List.mem_cons_self

theorem send (h : b.Kept limit) {announced pendingNew : List IssuedCid}
    {retired pendingRetire : List Nat} {stores : PerSpace SentPackets} {frames : List Frame}
    (hnew : b.issued.pendingNew = announced ++ pendingNew)
    (hold : b.held.pendingRetire = retired ++ pendingRetire)
    (htracked : ∀ frame, ({ b with stores := stores } : CidBook).Tracked frame →
      frame.isCid = true → b.Tracked frame ∨ frame ∈ announced.map IssuedCid.record ∨
        frame ∈ retired.map SentFrame.retireConnectionId)
    (hframes : ∀ frame ∈ frames, frame ∈ announced.map IssuedCid.announcement ∨
      frame ∈ retired.map Frame.retireConnectionId) : ({ b.leave pendingNew pendingRetire with
      stores := stores, said := frames ++ b.said } : CidBook).Kept limit := by
  have hnothing : retired = [] ∧ pendingRetire = [] := by
    rw [h.pendingRetire] at hold
    exact List.append_eq_nil_iff.mp hold.symm
  obtain ⟨rfl, rfl⟩ := hnothing
  have hactive : ∀ issued ∈ announced ++ pendingNew, issued ∈ b.issued.active :=
    fun issued hissued => h.pending issued (hnew ▸ hissued)
  refine { h with
    pending := fun issued hissued => hactive issued (List.mem_append_right _ hissued)
    tracked := fun frame hframe hcid => ?_
    said := fun frame hframe => ?_
    pendingRetire := rfl }
  · rcases htracked frame hframe hcid with hbefore | hdrawn | hretired
    · exact h.tracked frame hbefore hcid
    · obtain ⟨issued, hissued, rfl⟩ := List.mem_map.mp hdrawn
      exact ⟨issued, hactive issued (List.mem_append_left _ hissued), rfl⟩
    · cases hretired
  rcases List.mem_append.mp hframe with hsent | hbefore
  · rcases hframes frame hsent with hdrawn | hretired
    · obtain ⟨issued, hissued, rfl⟩ := List.mem_map.mp hdrawn
      exact ⟨issued, hactive issued (List.mem_append_left _ hissued), rfl⟩
    · cases hretired
  · exact h.said frame hbefore

theorem step (h : b.Kept limit) (hstep : b.Step b') (hpolite : b'.Polite) : b'.Kept limit := by
  cases hstep with
  | issue cid token hroom => exact h.issue hroom cid token
  | adopt cid => exact { h with }
  | forget hfewer =>
    refine { h with tracked := ?_ }
    rintro frame ⟨kind, pn, p, hp, hmem⟩ hcid
    exact h.tracked frame ⟨kind, pn, p, hfewer kind pn p hp, hmem⟩ hcid
  | requeue hframe => exact h.requeue hframe
  | hear frame => exact h.hear frame
  | announce seq prior cid token =>
    obtain ⟨issued, heq⟩ := hpolite _ List.mem_cons_self
    cases heq
    exact h.announce issued
  | retire seq hfind =>
    obtain ⟨issued, heq⟩ := hpolite _ List.mem_cons_self
    cases heq
  | send hnew hold htracked hframes => exact h.send hnew hold htracked hframes

end Kept

end CidBook

namespace Connection

theorem Fresh.cidBook_kept {c : Connection P} (hfresh : c.Fresh) :
    c.cidBook.Kept c.cids.localCidPool.limit ∧ c.cidBook.heard = [] := by
  cases hfresh with
  | client | server =>
    exact ⟨.start (P := P) rfl rfl rfl rfl, rfl⟩

/-- What an endpoint keeps as long as its peer is polite, and how its history grows. -/
theorem updates_kept {op : Op} {c d : Connection P} {limit : Nat} (hd : Updates op c d)
    (h : c.cidBook.Kept limit) :
    (d.cidBook.Polite → d.cidBook.Kept limit) ∧ c.cidBook.heard <:+ d.cidBook.heard ∧
      c.cidBook.said ⊆ d.cidBook.said := by
  refine Updates.cidBook (I := fun b => (b.Polite → b.Kept limit) ∧
    c.cidBook.heard <:+ b.heard ∧ c.cidBook.said ⊆ b.said) ?_ ?_ hd
    ⟨fun _ => h, List.suffix_refl _, List.Subset.refl _⟩
  · rintro a b ⟨hkept, hheard, hsaid⟩ hstep
    refine ⟨fun hpolite => ?_, hheard.trans hstep.heard_suffix,
      fun _ hframe => hstep.said_subset (hsaid hframe)⟩
    exact (hkept (hpolite.of_suffix hstep.heard_suffix)).step hstep hpolite
  · rintro b ⟨hkept, hheard, hsaid⟩
    exact ⟨fun hpolite => { hkept hpolite with }, hheard, hsaid⟩

theorem takeFrame_limitError {now : Time} {packetType : PacketType} {frame : Frame}
    {c d : Connection P} {reason : String} (h : c.takeFrame now packetType frame = (d, .error
      (.transportError .connectionIdLimitError (some .newConnectionId) reason))) :
    ∃ seq prior cid token, frame = .newConnectionId seq prior cid token ∧
      ¬ c.cids.peerCidPool.Has seq ∧ c.cids.peerCidPool.limit ≤ c.cids.peerCidPool.remaining prior ∧
      d.cidBook.heard = frame :: c.cidBook.heard := by
  obtain ⟨seq, prior, cid, token, rfl, hreceived⟩ :=
    (handleFrame_refusal (congrArg Prod.snd h)).2 _ _ rfl
  obtain ⟨hnew, hroom⟩ := PeerCidPool.receiveNewCid_limitError hreceived
  refine ⟨seq, prior, cid, token, rfl, hnew, hroom, ?_⟩
  simp only [takeFrame, handleFrame, recvNewConnectionId] at h
  split at h
  · cases h
  split at h
  · cases h
    rfl
  · cases h

end Connection

/-! ## Both endpoints -/

namespace CidBook

variable {limit limit' : Nat} {b b' : CidBook}

/-- What one side holds, together with what it does not hold yet, was issued by the other. -/
theorem Kept.room (h : b.Kept limit) (hother : b'.Kept limit')
    (hgenuine : ∀ frame ∈ b.heard, frame ∈ b'.said) {seq : Nat} (hnew : ¬ b.held.Has seq)
    (hissued : ∃ issued ∈ b'.issued.active, issued.seq = seq) :
    b.held.active.length < b'.issued.nextSeq := by
  have hrange : ∀ issued ∈ b'.issued.active, issued.seq < b'.issued.nextSeq := by
    intro issued hmem
    have hseq : issued.seq ∈ b'.issued.active.map (·.seq) := List.mem_map_of_mem hmem
    rw [hother.numbered] at hseq
    exact List.mem_range.mp hseq
  obtain ⟨issued, hactive, rfl⟩ := hissued
  have hnodup : (issued.seq :: b.held.active.map (·.seq)).Nodup := by
    refine List.nodup_cons.mpr ⟨fun hmem => ?_, h.distinct⟩
    obtain ⟨held, hheld, hseq⟩ := List.mem_map.mp hmem
    exact hnew ⟨held, hheld, hseq⟩
  have hsubset : issued.seq :: b.held.active.map (·.seq) ⊆ List.range b'.issued.nextSeq := by
    intro seq hseq
    refine List.mem_range.mpr ?_
    rcases List.mem_cons.mp hseq with rfl | hmem
    · exact hrange issued hactive
    obtain ⟨held, hheld, rfl⟩ := List.mem_map.mp hmem
    rcases h.announced held hheld with hzero | hheard
    · have := hrange issued hactive
      omega
    obtain ⟨original, horiginal, heq⟩ := hother.said _ (hgenuine _ hheard)
    cases held
    cases heq
    exact hrange original horiginal
  have hle := (List.subperm_of_subset hnodup hsubset).length_le
  rw [List.length_cons, List.length_map, List.length_range] at hle
  exact hle

end CidBook

namespace Peers

/-- What the side that acts has then heard about connection IDs was said by the other side. -/
def Genuine (p : Peers P) (e : Role × Op) : Prop :=
  ∀ frame ∈ ((p.get e.1).step e.2).conn.cidBook.heard, frame ∈ (p.get e.1.other).conn.cidBook.said

instance (p : Peers P) (e : Role × Op) : Decidable (p.Genuine e) :=
  inferInstanceAs (Decidable (∀ frame ∈ _, _))

/-- What holds of two endpoints with given limits. -/
structure Agreed (limit : Role → Nat) (p : Peers P) : Prop where
  kept : ∀ role, (p.get role).conn.cidBook.Kept (limit role)
  genuine : ∀ role, ∀ frame ∈ (p.get role).conn.cidBook.heard,
    frame ∈ (p.get role.other).conn.cidBook.said

variable {limit : Role → Nat} {p : Peers P} {e : Role × Op}

theorem Agreed.polite (h : p.Agreed limit) {role : Role} {b : CidBook}
    (hgenuine : ∀ frame ∈ b.heard, frame ∈ (p.get role).conn.cidBook.said) : b.Polite := by
  intro frame hframe
  obtain ⟨issued, -, heq⟩ := (h.kept role).said frame (hgenuine frame hframe)
  exact ⟨issued, heq⟩

theorem Agreed.step (h : p.Agreed limit) (hgenuine : p.Genuine e) : (p.step e).Agreed limit := by
  obtain ⟨hkept, -, hsaid⟩ := Connection.updates_kept ((p.get e.1).conn.step_updates e.2)
    (h.kept e.1)
  constructor
  · refine forall_role e.1 ?_ ?_
    · rw [get_step_self]
      exact hkept (h.polite hgenuine)
    · rw [get_step_other]
      exact h.kept e.1.other
  refine forall_role e.1 ?_ ?_
  · rw [get_step_self, get_step_other]
    exact hgenuine
  have hback : e.1.other.other = e.1 := by cases e.1 <;> rfl
  rw [get_step_other, hback, get_step_self]
  intro frame hframe
  have hbefore := h.genuine e.1.other frame hframe
  rw [hback] at hbefore
  exact hsaid hbefore

theorem agreed_of_fresh (hclient : p.client.conn.Fresh) (hserver : p.server.conn.Fresh) :
    p.Agreed fun role => (p.get role).conn.cids.localCidPool.limit := by
  have hfresh : ∀ role, (p.get role).conn.Fresh := by
    intro role
    cases role with
    | client => exact hclient
    | server => exact hserver
  constructor
  · exact fun role => (hfresh role).cidBook_kept.1
  intro role frame hframe
  rw [(hfresh role).cidBook_kept.2] at hframe
  cases hframe

/-- A datagram makes the side that receives it complain of too many connection IDs. -/
def RejectsCid (p : Peers P) (e : Role × Op) : Prop :=
  ∃ now datagram reason, e.2 = .handleDatagram now datagram ∧
    ((p.get e.1).conn.handleDatagram now datagram).2 = .error
      (.transportError .connectionIdLimitError (some .newConnectionId) reason)

/-- When a datagram arrives, the other side has issued no more connection IDs than the side that
receives it allows. -/
def Fits (p : Peers P) (e : Role × Op) : Prop :=
  e.2.isDatagram = true →
    (p.get e.1.other).conn.cids.localCidPool.nextSeq ≤ (p.get e.1).conn.cids.peerCidPool.limit

instance (p : Peers P) (e : Role × Op) : Decidable (p.Fits e) :=
  inferInstanceAs (Decidable (_ → _))

theorem Agreed.not_rejectsCid (h : p.Agreed limit) (hgenuine : p.Genuine e) (hfits : p.Fits e) :
    ¬ p.RejectsCid e := by
  obtain ⟨role, op⟩ := e
  rintro ⟨now, datagram, reason, hop, herror⟩
  cases hop
  generalize herr : OxiQuicError.transportError .connectionIdLimitError (some .newConnectionId)
    reason = err at herror
  have hfault := Connection.handleDatagram_fault herror
  generalize hfinal : ((p.get role).conn.handleDatagram now datagram).1 = final at hfault
  cases hfault with
  | @frame d _ packetType frame _ hupdates htake =>
    subst herr hfinal
    obtain ⟨seq, prior, cid, token, rfl, hnew, hfull, hheard⟩ :=
      Connection.takeFrame_limitError htake
    -- the frame and all that was heard before it was said by the other side
    have hgenuine : ∀ frame ∈ .newConnectionId seq prior cid token :: d.cidBook.heard,
        frame ∈ (p.get role.other).conn.cidBook.said := hheard ▸ hgenuine
    have hsaid := fun frame hframe => hgenuine frame (List.mem_cons_of_mem _ hframe)
    have hkept := (Connection.updates_kept hupdates (h.kept role)).1 (h.polite hsaid)
    obtain ⟨issued, hissued, heq⟩ := (h.kept role.other).said _ (hgenuine _ List.mem_cons_self)
    cases heq
    have hroom := hkept.room (h.kept role.other) hsaid hnew ⟨issued, hissued, rfl⟩
    have hremaining : d.cids.peerCidPool.remaining 0 ≤ d.cidBook.held.active.length :=
      List.length_filter_le ..
    have hlimit : (p.get role).conn.cids.peerCidPool.limit = d.cids.peerCidPool.limit :=
      (h.kept role).heldLimit.trans hkept.heldLimit.symm
    have hfit : (p.get role.other).conn.cidBook.issued.nextSeq
        ≤ (p.get role).conn.cids.peerCidPool.limit := hfits rfl
    omega
  | malformed =>
    injection herr with _ hframe
    cases hframe
  | statelessReset | versionNegotiation => cases herr

/-- The limits, of which neither side changes its own, bound what the sides issue. -/
theorem Agreed.fits (h : p.Agreed limit) (hpositive : 1 ≤ limit e.1)
    (hle : limit e.1.other ≤ limit e.1) : p.Fits e := by
  intro _
  have hbounded : (p.get e.1.other).conn.cids.localCidPool.nextSeq ≤ max (limit e.1.other) 1 :=
    (h.kept e.1.other).bounded
  have hlimit : (p.get e.1).conn.cids.peerCidPool.limit = limit e.1 := (h.kept e.1).heldLimit
  omega

theorem Agreed.active (h : p.Agreed limit) {role : Role} {held : IssuedCid}
    (hheld : held ∈ (p.get role).conn.cids.peerCidPool.active) (hseq : 1 ≤ held.seq) :
    held ∈ (p.get role.other).conn.cids.localCidPool.active := by
  rcases (h.kept role).announced held hheld with hzero | hheard
  · omega
  obtain ⟨issued, hissued, heq⟩ := (h.kept role.other).said _ (h.genuine role _ hheard)
  cases held
  cases heq
  exact hissued

theorem Agreed.not_retired (h : p.Agreed limit) (role : Role) (seq : Nat) :
    .retireConnectionId seq ∉ (p.get role).conn.cidBook.said := by
  intro hsaid
  obtain ⟨issued, -, heq⟩ := (h.kept role).said _ hsaid
  cases heq

end Peers

section Pair

variable {p : Peers P} {es : List (Role × Op)}

/-- In no state of a run does a datagram that fits make its receiver complain of too many connection
IDs.  It fits if the other side was not configured with a greater limit than the receiver. -/
theorem cid_limit_respected (hclient : p.client.conn.Fresh) (hserver : p.server.conn.Fresh)
    (hlimit : ∀ role, 2 ≤ (p.get role).conn.cids.localCidPool.limit)
    (hgenuine : Along Peers.step Peers.Genuine p es) : Along Peers.step (fun q e =>
      ((p.get e.1.other).conn.cids.localCidPool.limit ≤ (p.get e.1).conn.cids.localCidPool.limit →
        q.Fits e) ∧
      (q.Fits e → ¬ q.RejectsCid e)) p es := by
  refine Along.imp_of_invariant (I := fun q => q.Agreed fun role =>
    (p.get role).conn.cids.localCidPool.limit) (fun q e hq => hq.step) (fun q e hq he => ⟨?_, ?_⟩)
    (Peers.agreed_of_fresh hclient hserver) hgenuine
  · exact hq.fits (Nat.le_of_succ_le (hlimit e.1))
  · exact hq.not_rejectsCid he

/-- After every run a connection ID that one side holds, other than the first, is active on the other
side.  Nothing was retired: no request for it was queued or sent, and all that was issued is
active. -/
theorem cid_agreement (hclient : p.client.conn.Fresh) (hserver : p.server.conn.Fresh)
    (hgenuine : Along Peers.step Peers.Genuine p es) (role : Role) :
    let holder := ((run Peers.step p es).get role).conn
    let issuer := ((run Peers.step p es).get role.other).conn
    (∀ held ∈ holder.cids.peerCidPool.active, 1 ≤ held.seq →
      held ∈ issuer.cids.localCidPool.active) ∧
    holder.cids.peerCidPool.pendingRetire = [] ∧
    (∀ seq, .retireConnectionId seq ∉ holder.cidBook.said) ∧
    issuer.cids.localCidPool.active.map (·.seq) = List.range issuer.cids.localCidPool.nextSeq := by
  have h : (run Peers.step p es).Agreed fun role => (p.get role).conn.cids.localCidPool.limit :=
    hgenuine.invariant (fun q e _ hq he => hq.step he) (Peers.agreed_of_fresh hclient hserver)
  exact ⟨fun held hheld hseq => h.active hheld hseq, (h.kept role).pendingRetire,
    h.not_retired role, (h.kept role.other).numbered⟩

end Pair

namespace Plain

/-- The sides take turns: one polls, and what it sends arrives. -/
def relay (p : Peers Plain) : List Role → List (Role × Op)
  | [] => []
  | role :: roles =>
    let es : List (Role × Op) := [(role, .pollTransmit 0 []),
      (role.other, .handleDatagram 0 ((p.get role).conn.pollTransmit 0 []).2.1)]
    es ++ relay (run Peers.step p es) roles

/-- A client with the default limit and a server with a given one. -/
def limitedPeers (limit : Nat) : Peers Plain :=
  ⟨{ conn := client [] }, { conn := server (client []) [] { activeConnectionIdLimit := limit } }⟩

/-- Both sides complete the handshake and announce their connection IDs. -/
def introductions (p : Peers Plain) : List (Role × Op) :=
  relay p [.client, .server, .client, .server, .client]

theorem introductions_genuine :
    Along Peers.step Peers.Genuine (limitedPeers 2) (introductions (limitedPeers 2)) := by
  decide +kernel

end Plain

theorem cid_limit_respected_equal :
    (∀ role, 2 ≤ ((limitedPeers 2).get role).conn.cids.localCidPool.limit) ∧
    Along Peers.step (fun q e => ¬ q.RejectsCid e) (limitedPeers 2)
      (introductions (limitedPeers 2)) := by
  have hlimit : ∀ role, ((limitedPeers 2).get role).conn.cids.localCidPool.limit = 2 := by
    intro role
    cases role <;> rfl
  refine ⟨fun role => Nat.le_of_eq (hlimit role).symm, ?_⟩
  have hgenuine := introductions_genuine
  have hrespected := cid_limit_respected (client_fresh []) (server_fresh _ _ _)
    (fun role => Nat.le_of_eq (hlimit role).symm) hgenuine
  exact hrespected.imp fun q e h => h.2 (h.1 (by rw [hlimit, hlimit]))

theorem cid_agreement_introductions :
    let q := run Peers.step (limitedPeers 2) (introductions (limitedPeers 2))
    q.client.conn.cids.peerCidPool.active.length = 2 ∧
    ∀ held ∈ q.client.conn.cids.peerCidPool.active, 1 ≤ held.seq →
      held ∈ q.server.conn.cids.localCidPool.active := by
  intro q
  refine ⟨by decide +kernel, ?_⟩
  have hgenuine := introductions_genuine
  subst q
  generalize introductions (limitedPeers 2) = es at hgenuine
  exact (cid_agreement (client_fresh []) (server_fresh _ _ _) hgenuine .client).1

/-- A server with a limit of four announces more connection IDs than a client with a limit of two
takes. -/
theorem cid_limit_exceeded :
    let p := run Peers.step (limitedPeers 4)
      (relay (limitedPeers 4) [.client, .server, .client])
    let datagram := (p.server.conn.pollTransmit 0 []).2.1
    Along Peers.step Peers.Genuine (limitedPeers 4)
      (relay (limitedPeers 4) [.client, .server, .client, .server]) ∧
    (p.step (.server, .pollTransmit 0 [])).RejectsCid (.client, .handleDatagram 0 datagram) := by
  intro p datagram
  refine ⟨by decide +kernel, 0, datagram,
    "NEW_CONNECTION_ID: would exceed active_connection_id_limit", rfl, ?_⟩
  subst datagram p
  decide +kernel

end OxiQuic
