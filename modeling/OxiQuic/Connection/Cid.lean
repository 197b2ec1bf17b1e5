import OxiQuic.Platform

/-!
# Connection ID pools

The connection IDs an endpoint has issued and those the peer has issued to it
(`oxiquic-transport/src/connection/cid.rs`).
-/

namespace OxiQuic

/-- A connection ID with its sequence number and reset token. -/
structure IssuedCid where
  seq : Nat
  cid : ConnectionId
  statelessResetToken : Bytes
  deriving DecidableEq, Repr

/-- What the endpoint's routing table has to learn. -/
inductive CidEvent where
  | register (cid : ConnectionId)
  | unregister (cid : ConnectionId)
  deriving DecidableEq, Repr

/-- The reset token of a connection ID under a static secret. -/
def statelessResetToken (P : Platform) (secret : Bytes) (cid : ConnectionId) : Bytes :=
  (P.hmacSha256 secret cid).take 16

/-- The connection IDs this endpoint issued. -/
structure LocalCidPool where
  active : List IssuedCid
  nextSeq : Nat
  /-- Issued and not yet announced in a `NEW_CONNECTION_ID`. -/
  pendingNew : List IssuedCid
  secret : Bytes
  limit : Nat
  deriving DecidableEq, Repr

namespace LocalCidPool

def new (P : Platform) (initialCid : ConnectionId) (secret : Bytes) (limit : Nat) :
    LocalCidPool where
  active := [⟨0, initialCid, OxiQuic.statelessResetToken P secret initialCid⟩]
  nextSeq := 1
  pendingNew := []
  secret := secret
  limit := limit

def issueNewCid (P : Platform) (p : LocalCidPool) (raw : Bytes) :
    LocalCidPool × Except OxiQuicError (Nat × ConnectionId) :=
  if p.limit ≤ p.active.length then
    (p, .error (.protocol "active_connection_id_limit reached; cannot issue more CIDs"))
  else
    let issued : IssuedCid := ⟨p.nextSeq, raw, OxiQuic.statelessResetToken P p.secret raw⟩
    ({ p with
        nextSeq := p.nextSeq + 1
        pendingNew := p.pendingNew ++ [issued]
        active := p.active ++ [issued] }, .ok (p.nextSeq, raw))

/-- The peer retired a sequence number.  The result is the connection ID that had it. -/
def handlePeerRetirement (p : LocalCidPool) (seq : Nat) : LocalCidPool × Option ConnectionId :=
  match p.active.find? (·.seq == seq) with
  | none => (p, none)
  | some removed => ({ p with active := p.active.eraseP (·.seq == seq) }, some removed.cid)

def canIssue (p : LocalCidPool) : Bool := decide (p.active.length < p.limit)

end LocalCidPool

/-- The connection IDs the peer issued. -/
structure PeerCidPool where
  active : List IssuedCid
  retireThreshold : Nat
  /-- Sequence numbers still to be announced in a `RETIRE_CONNECTION_ID`. -/
  pendingRetire : List Nat
  limit : Nat
  deriving DecidableEq, Repr

namespace PeerCidPool

/-- The peer's first connection ID has no reset token of its own; the pool holds zeros. -/
def new (initialCid : ConnectionId) (limit : Nat) : PeerCidPool where
  active := [⟨0, initialCid, List.replicate 16 0⟩]
  retireThreshold := 0
  pendingRetire := []
  limit := limit

/-- Retire everything below a sequence number, unless that was done before. -/
def retirePriorTo (p : PeerCidPool) (threshold : Nat) : PeerCidPool :=
  if threshold > p.retireThreshold then
    { p with
      pendingRetire := p.pendingRetire ++
        (p.active.filter fun c => decide (c.seq < threshold)).map (·.seq)
      active := p.active.filter fun c => decide (threshold ≤ c.seq)
      retireThreshold := threshold }
  else p

def receiveNewCid (p : PeerCidPool) (seq retirePriorTo : Nat) (cid : ConnectionId)
    (statelessResetToken : Bytes) : PeerCidPool × Except OxiQuicError Unit :=
  if retirePriorTo > seq then
    (p, .error (.transportError .frameEncodingError (some .newConnectionId)
      "NEW_CONNECTION_ID: retire_prior_to > seq"))
  else if p.active.any (·.seq == seq) then (p, .ok ())
  else if (p.active.filter fun c => decide (retirePriorTo ≤ c.seq)).length + 1 > p.limit then
    (p, .error (.transportError .connectionIdLimitError (some .newConnectionId)
      "NEW_CONNECTION_ID: would exceed active_connection_id_limit"))
  else
    let p := p.retirePriorTo retirePriorTo
    ({ p with active := p.active ++ [⟨seq, cid, statelessResetToken⟩] }, .ok ())

/-- The next sequence number to announce as retired. -/
def popPendingRetire (p : PeerCidPool) : PeerCidPool × Option Nat :=
  ({ p with pendingRetire := p.pendingRetire.tail }, p.pendingRetire.head?)

/-- Whether a token is one of the peer's reset tokens. -/
def matchesStatelessReset (p : PeerCidPool) (token : Bytes) : Bool :=
  p.active.any fun c => c.statelessResetToken == token

end PeerCidPool

end OxiQuic
