import OxiQuic.Connection.Routing
import OxiQuic.Endpoint.Driver
import OxiQuic.PlainPlatform

/-!
# Migration to a new address of the peer

When does a driver send to an address that has not answered a challenge?  The driver takes
note of the source of a datagram before the datagram is authenticated, while a challenge
goes, as every packet, to the address in use.  Who can answer there moves the connection.
-/

namespace OxiQuic

open Lib Ledger Plain

variable {P : Platform} (d : ConnectionDriver P) (c : Connection P) {action : ConnectionDriver.Action}

/-! ## What an action does to the route -/

namespace Connection

theorem initiatePathChallenge_ledger :
    c.initiatePathChallenge.1.ledger =
      { c.ledger with route := c.initiatePathChallenge.1.path.route } := by
  simp only [initiatePathChallenge]
  split
  · rfl
  · split <;> rfl

theorem initiatePathChallenge_addr : c.initiatePathChallenge.1.path.peerAddr = c.path.peerAddr := by
  simp only [initiatePathChallenge]
  split
  · rfl
  · split <;> rfl

theorem initiatePathChallenge_nonce {nonce : Bytes}
    (h : nonce ∈ c.initiatePathChallenge.1.path.pendingPathChallenge) :
    nonce ∈ c.path.pendingPathChallenge ∨ nonce ∈ (P.fill c.os 8).2 := by
  simp only [initiatePathChallenge] at h
  split at h
  · exact .inl h
  split at h
  · exact .inl h
  · rename_i hfill
    exact .inr (hfill ▸ h)

end Connection

namespace ConnectionDriver

/-- Where a driver registers the source of a datagram as the candidate. -/
def Registers (d : ConnectionDriver P) (sender : SocketAddr) : Prop :=
  d.peer ≠ none ∧ d.peer ≠ some sender ∧ d.conn.state = .established

instance (d : ConnectionDriver P) (sender : SocketAddr) : Decidable (d.Registers sender) :=
  inferInstanceAs (Decidable (_ ∧ _))

theorem noteSource_conn (sender : SocketAddr) :
    (d.noteSource sender).conn =
      if d.Registers sender then (d.conn.setCandidatePeerAddr sender).initiatePathChallenge.1
      else d.conn := by
  by_cases hnone : d.peer = none
  · rw [if_neg fun h => h.1 hnone, noteSource, if_pos hnone]
  rw [noteSource, if_neg hnone]
  by_cases hnew : d.peer ≠ some sender ∧ d.conn.state = .established
  · rw [if_pos hnew, if_pos ⟨hnone, hnew⟩]
  · rw [if_neg hnew, if_neg fun h => hnew h.2]

theorem noteSource_route {d : ConnectionDriver P} {sender : SocketAddr} (h : d.Registers sender) :
    (d.noteSource sender).conn.path.route =
      ⟨d.conn.path.peerAddr, some sender,
        if d.conn.hs.oneRttReady then (P.fill d.conn.os 8).2 else none, false⟩ := by
  rw [noteSource_conn, if_pos h, Connection.initiatePathChallenge]
  cases hready : d.conn.hs.oneRttReady with
  | false =>
    rw [if_pos (by rw [Connection.setCandidatePeerAddr, hready]; rfl)]
    rfl
  | true =>
    rw [if_neg (by rw [Connection.setCandidatePeerAddr, hready]; decide)]
    cases hfill : (P.fill d.conn.os 8).2 with
    | none | some => simp [Connection.setCandidatePeerAddr, hfill, Path.route]

theorem noteSource_ledger (sender : SocketAddr) :
    (d.noteSource sender).conn.ledger =
      { d.conn.ledger with route := (d.noteSource sender).conn.path.route } := by
  rw [noteSource_conn]
  split
  · exact (d.conn.setCandidatePeerAddr sender).initiatePathChallenge_ledger
  · rfl

/-- The driver when it has prepared for an action, and all that is left is moves. -/
def prepare (d : ConnectionDriver P) : Action → ConnectionDriver P
  | .inbound _ _ sender => d.noteSource sender
  | .call .initiatePathChallenge _ => { d with conn := d.conn.initiatePathChallenge.1 }
  | _ => d

theorem prepare_ledger (action : Action) :
    (d.prepare action).conn.ledger =
      { d.conn.ledger with route := (d.prepare action).conn.path.route } := by
  cases action with
  | inbound now owned sender => exact noteSource_ledger d sender
  | flush | timeout => rfl
  | call op offered =>
    cases op with
    | initiatePathChallenge => exact d.conn.initiatePathChallenge_ledger
    | _ => rfl

theorem prepare_addr (action : Action) :
    (d.prepare action).conn.path.peerAddr = d.conn.path.peerAddr := by
  cases action with
  | inbound now owned sender =>
    show (d.noteSource sender).conn.path.peerAddr = _
    rw [noteSource_conn]
    split
    · exact (d.conn.setCandidatePeerAddr sender).initiatePathChallenge_addr
    · rfl
  | flush | timeout => rfl
  | call op offered =>
    cases op with
    | initiatePathChallenge => exact d.conn.initiatePathChallenge_addr
    | _ => rfl

theorem prepare_nonce (action : Action) {nonce : Bytes}
    (h : nonce ∈ (d.prepare action).conn.path.pendingPathChallenge) :
    nonce ∈ d.conn.path.pendingPathChallenge ∨ nonce ∈ (P.fill d.conn.os 8).2 := by
  cases action with
  | inbound now owned sender =>
    change nonce ∈ (d.noteSource sender).conn.path.pendingPathChallenge at h
    rw [noteSource_conn] at h
    split at h
    · rcases (d.conn.setCandidatePeerAddr sender).initiatePathChallenge_nonce h with h | h
      · cases h
      · exact .inr h
    · exact .inl h
  | flush | timeout => exact .inl h
  | call op offered =>
    cases op with
    | initiatePathChallenge => exact d.conn.initiatePathChallenge_nonce h
    | _ => exact .inl h

theorem flush_moves (clock : List Time) : Moves d.conn.ledger (d.flush clock).1.conn.ledger := by
  induction clock generalizing d with
  | nil => exact .refl _
  | cons now clock ih =>
    have hpoll := d.conn.pollTransmit_moves now []
    simp only [flush]
    split
    · exact hpoll
    · exact hpoll
    · exact hpoll.trans (ih { d with conn := (d.conn.pollTransmit now []).1 })

theorem handleInboundDatagram_conn (now : Time) (owned : Bytes) (sender : SocketAddr) :
    (d.handleInboundDatagram now owned sender).1.conn.ledger =
      ((d.noteSource sender).conn.handleDatagram now owned).1.ledger := by
  simp only [handleInboundDatagram]
  split
  · rfl
  · simp only [adoptPath]
    split <;> rfl

theorem step_moves (action : Action) :
    Moves (d.prepare action).conn.ledger (d.step action).conn.ledger := by
  cases action with
  | inbound now owned sender =>
    rw [step, handleInboundDatagram_conn]
    exact (d.noteSource sender).conn.handleDatagram_moves now owned
  | flush clock => exact flush_moves d clock
  | timeout now => exact d.conn.handleTimeout_moves now
  | call op offered =>
    cases op with
    | initiatePathChallenge => exact .refl _
    | setCandidatePeerAddr | setPreferredPath => cases offered
    | _ => exact d.conn.step_moves rfl

theorem step_routed (action : Action) :
    Routed (d.prepare action).conn.ledger (d.step action).conn.ledger
      (since d.conn.trace (d.step action).conn.trace) := by
  obtain ⟨new, htrace, hrouted⟩ := (step_moves d action).routed
  have hbefore : (d.prepare action).conn.ledger.trace = d.conn.trace := by rw [prepare_ledger]; rfl
  have hafter : (d.step action).conn.trace = new ++ d.conn.trace := by rw [← hbefore]; exact htrace
  rw [hafter, since_append]
  exact hrouted

/-! ## Safety of migration -/

/-- An action moves the connection to another address only if the outstanding nonce was sent
there and is echoed. -/
def Safe (d : ConnectionDriver P) (action : Action) : Prop :=
  (d.step action).conn.path.peerAddr ≠ d.conn.path.peerAddr →
    ∃ nonce ∈ (d.prepare action).conn.path.pendingPathChallenge,
      ((d.step action).conn.path.peerAddr, nonce) ∈ challenges d.conn.trace ∧
      nonce ∈ responses (since d.conn.trace (d.step action).conn.trace)

/-- The outstanding nonce is echoed while the candidate is another address than the one in
use. -/
def Migrates (d : ConnectionDriver P) (action : Action) : Prop :=
  ∃ nonce ∈ (d.prepare action).conn.path.pendingPathChallenge,
    ∃ addr ∈ (d.prepare action).conn.path.candidatePeerAddr,
      addr ≠ d.conn.path.peerAddr ∧
      nonce ∈ responses (since d.conn.trace (d.step action).conn.trace)

/-- The next random bytes are no nonce that was sent already. -/
def FreshNonce (d : ConnectionDriver P) (_ : Action) : Prop :=
  ∀ p ∈ challenges d.conn.trace, (P.fill d.conn.os 8).2 ≠ some p.2

instance (d : ConnectionDriver P) (action : Action) : Decidable (d.Safe action) :=
  inferInstanceAs (Decidable (_ → _))

instance (d : ConnectionDriver P) (action : Action) : Decidable (d.FreshNonce action) :=
  inferInstanceAs (Decidable (∀ p ∈ challenges d.conn.trace, _))

theorem prepare_faces {d : ConnectionDriver P} (h : d.conn.ledger.Faces)
    (hfresh : d.FreshNonce action) : (d.prepare action).conn.ledger.Faces := by
  rw [prepare_ledger]
  intro p hp hnonce
  refine Eq.trans ?_ (prepare_addr d action).symm
  rcases prepare_nonce d action hnonce with hold | hnew
  · exact h p hp hold
  · exact absurd hnew (hfresh p hp)

theorem step_faces {d : ConnectionDriver P} (h : d.conn.ledger.Faces)
    (hfresh : d.FreshNonce action) : (d.step action).conn.ledger.Faces :=
  Moves.invariant faces_move (prepare_faces h hfresh) (step_moves d action)

theorem safe_iff {d : ConnectionDriver P} (h : d.conn.ledger.Faces)
    (hfresh : d.FreshNonce action) : d.Safe action ↔ ¬ d.Migrates action := by
  have haddr := prepare_addr d action
  cases step_routed d action with
  | same hroute hnone =>
    have hsame : (d.step action).conn.path.peerAddr = d.conn.path.peerAddr :=
      (congrArg Route.addr hroute).trans haddr
    refine ⟨fun _ hmigrates => ?_, fun _ hne => absurd hsame hne⟩
    obtain ⟨nonce, hnonce, _, _, _, hecho⟩ := hmigrates
    exact hnone nonce hnonce hecho
  | settled nonce hnonce hecho hroute =>
    have hsettled : (d.step action).conn.path.peerAddr =
        (d.prepare action).conn.path.candidatePeerAddr.getD d.conn.path.peerAddr := by
      rw [← haddr]
      exact congrArg Route.addr hroute
    constructor
    · intro hsafe hmigrates
      obtain ⟨nonce', hnonce', addr, haddr', hne, _⟩ := hmigrates
      rw [Option.mem_def.mp haddr', Option.getD_some] at hsettled
      rw [← hsettled] at hne
      obtain ⟨nonce'', hnonce'', hsent, _⟩ := hsafe hne
      -- the nonce went to the address in use, which is not the candidate
      have hfaces := prepare_faces h hfresh
      rw [prepare_ledger] at hfaces
      exact hne ((hfaces _ hsent hnonce'').trans haddr)
    · intro hstays hne
      refine absurd ?_ hstays
      cases hcandidate : (d.prepare action).conn.path.candidatePeerAddr with
      | none =>
        rw [hcandidate] at hsettled
        exact absurd hsettled hne
      | some addr =>
        rw [hcandidate, Option.getD_some] at hsettled
        exact ⟨nonce, hnonce, addr, hcandidate, hsettled ▸ hne, hecho⟩

/-- **Safety of migration.**  In a run from a fresh connection whose nonces are fresh, every
change of the peer's address was validated there if and only if no action ever migrates. -/
theorem migration_safe_iff {d : ConnectionDriver P} {actions : List Action}
    (hfresh : d.conn.Fresh) (hnonces : Along step FreshNonce d actions) :
    Along step Safe d actions ↔ Along step (fun d action => ¬ d.Migrates action) d actions := by
  have hstart : d.conn.ledger.Faces := by
    obtain ⟨role, dcid, hledger⟩ := hfresh.ledger
    rw [hledger]
    exact fun p hp => absurd hp List.not_mem_nil
  exact Along.iff_of_invariant (I := fun d => d.conn.ledger.Faces)
    (fun _ _ h hnonce => step_faces h hnonce) (fun _ _ h hnonce => safe_iff h hnonce) hstart hnonces

end ConnectionDriver

namespace Plain

open ConnectionDriver

/-- A client at work, whose server is at address 1. -/
def driver : ConnectionDriver Plain := ⟨client [], some 1⟩

def connects : List Action := [.flush [0], .inbound 1 (answer (client []) []).2 1]

def hears (s : Connection Plain) (datagrams : List (SocketAddr × Bytes)) : Connection Plain :=
  datagrams.foldl (fun s p => (s.handleDatagram 2 p.2).1) s

/-- The server when the handshake is over. -/
def remote : Connection Plain :=
  hears (answer (client []) []).1 ((driver.run connects).flush [2]).2

/-- The handshake, and then a datagram from address 66. -/
def strays (owned : Bytes) : List Action :=
  connects ++ [.flush [2], .inbound 3 owned 66]

/-- What the server sends when it has heard what the client sends next. -/
def echo (s : Connection Plain) (owned : Bytes) : Bytes :=
  ((hears s ((driver.run (strays owned)).flush [4]).2).pollTransmit 6 []).2.1

/-- A few bytes arrive from address 66, and the server answers the challenge that the client
sends it. -/
def hijacked : List Action :=
  strays [1, 2, 3] ++ [.flush [4], .inbound 7 (echo remote [1, 2, 3]) 1]

end Plain

theorem migration_safe_iff_hijacked :
    driver.conn.Fresh ∧ Along ConnectionDriver.step ConnectionDriver.FreshNonce driver hijacked ∧
      (Along ConnectionDriver.step ConnectionDriver.Safe driver hijacked ↔
        Along ConnectionDriver.step (fun d action => ¬ d.Migrates action) driver hijacked) := by
  have hnonces : Along ConnectionDriver.step ConnectionDriver.FreshNonce driver
      hijacked := by decide +kernel
  exact ⟨client_fresh [], hnonces, ConnectionDriver.migration_safe_iff (client_fresh []) hnonces⟩

/-- Nothing in the datagram from address 66 is authenticated, and the only challenge goes to
address 1; and yet the client sends to address 66 in the end. -/
theorem unauthenticated_source_adopted :
    (driver.run (strays [1, 2, 3])).conn.trace.length =
        (driver.run (connects ++ [.flush [2]])).conn.trace.length ∧
      challenges (driver.run hijacked).conn.trace = [(1, List.replicate 8 7)] ∧
      (driver.run hijacked).conn.path.peerAddr = 66 ∧
      ¬ Along ConnectionDriver.step ConnectionDriver.Safe driver hijacked := by
  decide +kernel

namespace ConnectionDriver

/-! ## Completion of a migration -/

/-- When the echo of the outstanding nonce arrives from the candidate itself, the connection
moves there if and only if the driver does not register the address once more, or draws the
same nonce again. -/
theorem migration_completes_iff {d : ConnectionDriver P} {addr : SocketAddr} {nonce : Bytes}
    (now : Time) (owned : Bytes) (hcandidate : d.conn.path.candidatePeerAddr = some addr)
    (hchallenge : d.conn.path.pendingPathChallenge = some nonce)
    (hecho : nonce ∈ responses (since d.conn.trace
      (d.handleInboundDatagram now owned addr).1.conn.trace))
    (honly : ∀ echo ∈ responses (since d.conn.trace
      (d.handleInboundDatagram now owned addr).1.conn.trace), echo = nonce) :
    ((d.handleInboundDatagram now owned addr).1.conn.path.pathValidated = true ∧
      (d.handleInboundDatagram now owned addr).1.conn.path.peerAddr = addr) ↔
    ¬ d.Registers addr ∨ d.conn.hs.oneRttReady = true ∧ (P.fill d.conn.os 8).2 = some nonce := by
  have hrouted := step_routed d (.inbound now owned addr)
  change Routed (d.noteSource addr).conn.ledger _ _ at hrouted
  by_cases hregisters : d.Registers addr
  · have hroute : (d.noteSource addr).conn.ledger.route = _ := noteSource_route hregisters
    have hdrawn : (d.noteSource addr).conn.ledger.route.challenge = some nonce ↔
        d.conn.hs.oneRttReady = true ∧ (P.fill d.conn.os 8).2 = some nonce := by
      rw [hroute]
      cases d.conn.hs.oneRttReady <;> simp
    rw [← hdrawn, or_iff_right (not_not_intro hregisters)]
    cases hrouted with
    | same hsame hnone =>
      refine iff_of_false (fun h => ?_) fun h => hnone nonce h hecho
      have hvalidated := (congrArg Route.validated (hsame.trans hroute)).symm.trans h.1
      cases hvalidated
    | settled echo hmem hresponse hsettled =>
      rw [hroute] at hsettled
      exact iff_of_true ⟨congrArg Route.validated hsettled, congrArg Route.addr hsettled⟩
        (honly echo hresponse ▸ hmem)
  · refine iff_of_true ?_ (.inl hregisters)
    rw [noteSource_conn, if_neg hregisters] at hrouted
    cases hrouted with
    | same _ hnone => exact absurd hecho (hnone nonce hchallenge)
    | settled echo hmem hresponse hsettled =>
      refine ⟨congrArg Route.validated hsettled, (congrArg Route.addr hsettled).trans ?_⟩
      show d.conn.path.candidatePeerAddr.getD _ = addr
      rw [hcandidate]
      rfl

end ConnectionDriver

namespace Plain

/-- The server's next packet. -/
def speaks : Connection Plain × Bytes :=
  let sent := remote.pollTransmit 2 []
  (sent.1, sent.2.1)

/-- The client when it has heard the server from address 66 and has sent its challenge. -/
def moved : ConnectionDriver Plain := driver.run (strays speaks.2 ++ [.flush [4]])

/-- The client when the server has answered the challenge from address 66. -/
def answered : ConnectionDriver Plain :=
  (moved.handleInboundDatagram 7 (echo speaks.1 speaks.2) 66).1

theorem moved_awaits : moved.conn.path.candidatePeerAddr = some 66 ∧
    moved.conn.path.pendingPathChallenge = some (List.replicate 8 7) ∧
    List.replicate 8 7 ∈ responses (since moved.conn.trace answered.conn.trace) ∧
    ∀ echo ∈ responses (since moved.conn.trace answered.conn.trace),
      echo = List.replicate 8 7 := by
  decide +kernel

end Plain

theorem migration_completes_iff_answered :
    (answered.conn.path.pathValidated = true ∧ answered.conn.path.peerAddr = 66) ↔
      ¬ moved.Registers 66 ∨ moved.conn.hs.oneRttReady = true ∧
        (Plain.fill moved.conn.os 8).2 = some (List.replicate 8 7) := by
  obtain ⟨hcandidate, hchallenge, hecho, honly⟩ := moved_awaits
  unfold answered at hecho honly ⊢
  generalize Plain.echo speaks.1 speaks.2 = owned at hecho honly ⊢
  generalize moved = d at hcandidate hchallenge hecho honly ⊢
  exact ConnectionDriver.migration_completes_iff 7 owned hcandidate hchallenge hecho honly

/-- The server has moved to address 66.  The client's challenge was sent, and the server
echoes its nonce from there, but by then the client waits for another nonce. -/
theorem answered_migration_not_validated :
    moved.conn.path.candidatePeerAddr = some 66 ∧
      moved.conn.path.pendingPathChallenge = some (List.replicate 8 7) ∧
      (1, List.replicate 8 7) ∈ challenges moved.conn.trace ∧
      responses (since moved.conn.trace answered.conn.trace) = [List.replicate 8 7] ∧
      answered.conn.path.pathValidated = false ∧ answered.conn.path.peerAddr = 1 := by
  decide +kernel

end OxiQuic
