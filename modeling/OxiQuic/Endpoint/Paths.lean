import OxiQuic.Connection.Uptake
import OxiQuic.Endpoint.Migration

/-!
# The path in use

Two mechanisms say where packets go: the echo of a challenge promotes the candidate address, and
`set_preferred_path` picks a path of the table.  The table does not learn of a promotion.
-/

namespace OxiQuic

open Lib Plain

variable {P : Platform} (c : Connection P) {op : Op}

/-- The calls that change the table of paths. -/
def Op.tabulates : Op → Bool
  | .addPath _ _ => true
  | .setPreferredPath _ => true
  | _ => false

namespace Connection

/-! ## What leaves the table alone -/

theorem unkeyed_multipath : Unkeyed (multipath : Connection P → MultipathState) :=
  ⟨fun _ _ _ _ _ => rfl, fun _ _ => rfl, fun _ _ _ _ => rfl⟩

theorem refreshHandshakeComplete_multipath :
    c.refreshHandshakeComplete.multipath = c.multipath := by
  refine refreshHandshakeComplete_kept (fun h => ?_) c
  cases h with
  | issue => exact maybeIssueNewCid_kept (fun _ _ _ _ => rfl) _
  | learn => exact learnPeerParams_kept (fun _ _ => rfl) _
  | finish | enter | settle | replay | token => rfl

theorem takeFrame_multipath (now : Time) (packetType : PacketType) (frame : Frame)
    (houtward : frame.isOutward = false) :
    (c.takeFrame now packetType frame).1.multipath = c.multipath := by
  cases frame with
  | crypto offset data => exact recvCrypto_kept (fun _ _ _ _ => rfl) (c.log _) packetType offset data
  | stream id offset fin data => exact recvStream_kept (fun _ _ _ _ => rfl) (c.log _) _ _ _ _
  | newConnectionId | retireConnectionId | newToken | datagram =>
    exact handleFrame_minor (fun _ _ _ _ _ _ => rfl) (c.log _) now packetType rfl
  | pathResponse data =>
    simp only [takeFrame, handleFrame, recvPathResponse]
    split <;> rfl
  | resetStream | maxStreams => rfl
  | _ => cases houtward

theorem step_multipath (hop : op.isSimple = true) (htable : op.tabulates = false) :
    (c.step op).multipath = c.multipath := by
  by_cases hstreaming : op.isStreaming = true
  · exact (congrArg Connection.multipath (step_streaming c hstreaming) :)
  cases op with
  | addPath | setPreferredPath => cases htable
  | pollTransmit | handleDatagram | handleTimeout => cases hop
  | stopSending | sendDatagram | recvDatagram | takeReceivedToken | popCidEvent
  | setKeepAliveInterval | close | initiateKeyUpdate | initiatePathChallenge
  | setCandidatePeerAddr =>
    simp only [step, stopSending, sendDatagram, recvDatagram, takeReceivedToken, popCidEvent,
      setKeepAliveInterval, close, initiateKeyUpdate, initiatePathChallenge, setCandidatePeerAddr]
    repeat' split
    all_goals rfl
  | _ => exact absurd rfl hstreaming

theorem Update.multipath (htable : op.tabulates = false) {c d : Connection P}
    (h : Update op c d) : d.multipath = c.multipath := by
  have hview {e : Connection P} (h : d.receiver = e.receiver) : d.multipath = e.multipath :=
    show d.receiver.multipath = e.receiver.multipath from congrArg (·.multipath) h
  cases h.receives with
  | same hsame => exact hview hsame
  | hear now datagram packetType frame _ hheard => exact (hview hheard :)
  | rekey now out hseal =>
    obtain ⟨_, _, -, hbefore⟩ := beforeSeal_conn c .application now
    exact (hview hseal).trans (hbefore ▸ rfl)
  | call hsimple hcall => exact hcall ▸ step_multipath c hsimple htable
  | pump hpump => exact hpump ▸ unkeyed_multipath.pumpOnce c
  | refresh hrefresh => exact hrefresh ▸ refreshHandshakeComplete_multipath c
  | earlyKeys hkeys => exact hkeys ▸ unkeyed_multipath.tryInstallZeroRttKeys c
  | retry now datagram offset hretry =>
    subst hretry
    simp only [recvRetryPacket]
    split <;> rfl
  | adopt now datagram parsed hadopt =>
    subst hadopt
    simp only [adoptPeerCid]
    split <;> rfl
  | follow now datagram _ hfollow =>
    obtain ⟨_, _, -, hconn⟩ := performKeyUpdate_conn c now
    exact hfollow ▸ hconn ▸ rfl
  | packet now datagram hpacket => exact hpacket ▸ rfl
  | frame now datagram packetType frame houtward hframe =>
    exact hframe ▸ takeFrame_multipath c now packetType frame houtward
  | note now datagram space pn ackEliciting hnote => exact hnote ▸ rfl
  | advance now out hadvance =>
    exact hadvance ▸ advanceRecvFlow_kept (fun _ _ _ _ _ => rfl) c

/-! ## Agreement of the two mechanisms -/

/-- The path of the handshake is in use, and no other one is validated. -/
structure OnFirstPath (m : MultipathState) (addr : SocketAddr) : Prop where
  active : m.activeIndex = 0
  first : ∃ path, m.paths[0]? = some path ∧ path.remoteAddr = addr ∧ path.validation = .validated
  others : ∀ i path, m.paths[i]? = some path → path.validation = .validated → i = 0

/-- The address in use is that of the active path, and that path is validated. -/
def PathsAgree (c : Connection P) : Prop :=
  ∃ path, c.multipath.paths[c.multipath.activeIndex]? = some path ∧
    path.remoteAddr = c.path.peerAddr ∧ path.validation = .validated

/-- The echo of the outstanding nonce promotes an address other than the one in use. -/
def Promotes (c : Connection P) (op : Op) : Prop :=
  op.reroutes = false ∧ ∃ nonce ∈ c.path.pendingPathChallenge, ∃ addr ∈ c.path.candidatePeerAddr,
    addr ≠ c.path.peerAddr ∧ nonce ∈ responses (since c.trace (c.step op).trace)

variable {c} {addr : SocketAddr}

theorem OnFirstPath.agree_iff (h : OnFirstPath c.multipath addr) :
    c.PathsAgree ↔ c.path.peerAddr = addr := by
  obtain ⟨path, hpath, haddr, hvalid⟩ := h.first
  unfold PathsAgree
  rw [h.active, hpath]
  constructor
  · rintro ⟨_, hsame, hpeer, -⟩
    rw [← hpeer, ← Option.some.inj hsame, haddr]
  · exact fun hpeer => ⟨path, rfl, haddr.trans hpeer.symm, hvalid⟩

theorem OnFirstPath.addPath {m : MultipathState} (h : OnFirstPath m addr) (remote : SocketAddr)
    (cid : Option ConnectionId) : OnFirstPath (m.addPath remote cid).1 addr := by
  obtain ⟨path, hpath, hfirst⟩ := h.first
  unfold MultipathState.addPath
  split
  · exact h
  split
  · exact h
  refine ⟨h.active, ⟨path, ?_, hfirst⟩, fun i p hp hvalid => ?_⟩
  · exact (List.getElem?_append_left (List.getElem?_eq_some_iff.mp hpath).1).trans hpath
  have hp := (List.getElem?_append ..).symm.trans hp
  split at hp
  · exact h.others i p hp hvalid
  -- the new path is not validated
  have hp := List.mem_singleton.mp (List.mem_of_getElem? hp)
  rw [hp] at hvalid
  cases hvalid

/-- A path that can be preferred is the first. -/
theorem OnFirstPath.setPreferredPath (h : OnFirstPath c.multipath addr) (index : Nat) :
    OnFirstPath (c.setPreferredPath index).1.multipath addr ∧
      (c.path.peerAddr = addr → (c.setPreferredPath index).1.path.peerAddr = addr) := by
  unfold Connection.setPreferredPath MultipathState.setPreferredPath
  cases hpath : c.multipath.paths[index]? with
  | none => exact ⟨h, id⟩
  | some path =>
    by_cases hvalid : path.validation = .validated
    · have hzero := h.others index path hpath hvalid
      obtain ⟨first, hfirst, haddr, -⟩ := h.first
      rw [hzero, hfirst] at hpath
      simp only [if_pos hvalid]
      exact ⟨⟨hzero, h.first, h.others⟩, fun _ => Option.some.inj hpath ▸ haddr⟩
    · simp only [if_neg hvalid]
      exact ⟨h, id⟩

theorem OnFirstPath.step (h : OnFirstPath c.multipath addr) (op : Op) :
    OnFirstPath (c.step op).multipath addr := by
  cases htable : op.tabulates with
  | false =>
    have hsame : (c.step op).multipath = c.multipath :=
      Updates.invariant (I := fun d => d.multipath = c.multipath)
        (fun hd hupdate => (hupdate.multipath htable).trans hd) rfl (step_updates c op)
    rw [hsame]
    exact h
  | true =>
    cases op with
    | addPath remote cid => exact h.addPath remote cid
    | setPreferredPath index => exact (h.setPreferredPath index).1
    | _ => cases htable

/-- A call keeps the agreement exactly if it promotes no other address. -/
theorem OnFirstPath.step_agree_iff (h : OnFirstPath c.multipath addr) (hagree : c.PathsAgree)
    (op : Op) : (c.step op).PathsAgree ↔ ¬ c.Promotes op := by
  rw [(h.step op).agree_iff]
  have haddr := h.agree_iff.mp hagree
  cases hroutes : op.reroutes with
  | true =>
    refine iff_of_true ?_ fun hpromotes => (by cases hroutes.symm.trans hpromotes.1)
    cases op with
    | initiatePathChallenge => exact (initiatePathChallenge_addr c).trans haddr
    | setCandidatePeerAddr candidate => exact haddr
    | setPreferredPath index => exact (h.setPreferredPath index).2 haddr
    | _ => cases hroutes
  | false =>
    obtain ⟨new, htrace, hrouted⟩ := (step_moves c hroutes).routed
    have hnew : since c.trace (c.step op).trace = new := by
      rw [show (c.step op).trace = new ++ c.trace from htrace, since_append]
    unfold Promotes
    rw [hnew]
    cases hrouted with
    | same hroute hnone =>
      refine iff_of_true ((congrArg Route.addr hroute).trans haddr) ?_
      rintro ⟨-, nonce, hnonce, -, -, -, hecho⟩
      exact hnone nonce hnonce hecho
    | settled nonce hnonce hecho hroute =>
      have hsettled : (c.step op).path.peerAddr =
          c.path.candidatePeerAddr.getD c.path.peerAddr := congrArg Route.addr hroute
      rw [hsettled]
      cases hcandidate : c.path.candidatePeerAddr with
      | none =>
        refine iff_of_true haddr ?_
        rintro ⟨-, _, -, _, hnone, -⟩
        cases hnone
      | some candidate =>
        rw [Option.getD_some, ← haddr]
        constructor
        · rintro hsame ⟨-, _, -, other, hother, hne, -⟩
          exact hne (Option.some.inj hother ▸ hsame)
        intro hstays
        by_contra hne
        exact hstays ⟨hroutes, nonce, hnonce, candidate, rfl, hne, hecho⟩

/-- **The path in use.**  In every run from a fresh connection, the address in use is that of
the active path of the table, which is validated, exactly as long as no echo of a challenge
promotes another address. -/
theorem paths_agree_iff (hfresh : c.Fresh) (ops : List Op) :
    c.PathsAgree ∧ (Along step (fun d op => (d.step op).PathsAgree) c ops ↔
      Along step (fun d op => ¬ d.Promotes op) c ops) := by
  have hstart : OnFirstPath c.multipath c.path.peerAddr := by
    cases hfresh <;> exact ⟨rfl, ⟨_, rfl, rfl, rfl⟩, fun i path hpath _ =>
      Nat.lt_one_iff.mp (List.getElem?_eq_some_iff.mp hpath).1⟩
  have hagree := hstart.agree_iff.mpr rfl
  exact ⟨hagree, Along.stays_iff (I := fun d : Connection P => OnFirstPath d.multipath c.path.peerAddr)
    (C := fun _ _ => True) (fun _ op h _ _ _ => h.step op)
    (fun _ op h _ hd => h.step_agree_iff hd op) hstart hagree (.of_forall fun _ _ => trivial)⟩

end Connection

/-- A client validates address 66. -/
def Plain.relocates : List Op :=
  joins (client []) ++ [.setCandidatePeerAddr 66, .initiatePathChallenge,
    .handleDatagram 2 (shortPacket (client []) 0 0
      [.pathResponse (List.replicate 8 7)])]

theorem paths_agree_iff_relocates :
    (client []).Fresh ∧ (client []).PathsAgree ∧
      (Along Connection.step (fun d op => (d.step op).PathsAgree) (client []) relocates ↔
        Along Connection.step (fun d op => ¬ d.Promotes op) (client []) relocates) :=
  ⟨client_fresh [], Connection.paths_agree_iff (client_fresh []) relocates⟩

/-- It sends to address 66 from then on, and the active path of the table is still that of the
handshake. -/
theorem promotion_leaves_table :
    ((client []).run relocates).path.peerAddr = 66 ∧
      (((client []).run relocates).multipath.paths.map (·.remoteAddr)) = [1] ∧
      ((client []).run relocates).multipath.activeIndex = 0 := by
  decide +kernel

end OxiQuic
