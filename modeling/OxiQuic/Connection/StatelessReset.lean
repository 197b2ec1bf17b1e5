import OxiQuic.Connection.Faults
import OxiQuic.Connection.Uptake
import OxiQuic.PlainPlatform
import OxiQuic.Wire.Bounds

/-!
# Stateless resets

A datagram that does not open ends the connection if its last 16 bytes are a reset token of
the peer.  The tokens are those of the connection IDs that the peer announced and that are
not retired, with two exceptions: the pool holds zeros as the token of the peer's first
connection ID, and a connection ID that is announced when it is retired already comes into
the pool again.
-/

namespace OxiQuic

open Plain

variable {P : Platform} {issued : IssuedCid} {c : Connection P} {prior : Nat}

/-- The last 16 bytes of a datagram. -/
def trailer (datagram : Bytes) : Bytes := datagram.drop (datagram.length - 16)

/-! ## What the peer announced -/

/-- The peer announced a connection ID with its reset token. -/
def Delivered (trace : List (Event P)) (issued : IssuedCid) : Prop :=
  ∃ packetType prior, Event.received packetType
    (.newConnectionId issued.seq prior issued.cid issued.statelessResetToken) ∈ trace

/-- All connection IDs the peer announced. -/
def announcements (trace : List (Event P)) : List IssuedCid :=
  trace.filterMap fun
    | .received _ (.newConnectionId seq _ cid token) => some ⟨seq, cid, token⟩
    | _ => none

theorem Delivered.mem_announcements {trace : List (Event P)}
    (h : Delivered trace issued) : issued ∈ announcements trace := by
  obtain ⟨packetType, prior, hmem⟩ := h
  exact List.mem_filterMap.mpr ⟨_, hmem, rfl⟩

/-- A `NEW_CONNECTION_ID` does not announce what an earlier one retires. -/
def Event.InOrder : Event P → Event P → Prop
  | .received _ (.newConnectionId seq _ _ _), .received _ (.newConnectionId _ prior _ _) =>
    prior ≤ seq
  | _, _ => True

def Event.inOrder : Event P → Event P → Bool
  | .received _ (.newConnectionId seq _ _ _), .received _ (.newConnectionId _ prior _ _) =>
    decide (prior ≤ seq)
  | _, _ => true

theorem Event.inOrder_iff {e e' : Event P} : e.inOrder e' = true ↔ e.InOrder e' := by
  unfold Event.inOrder Event.InOrder
  split
  · exact decide_eq_true_iff
  · exact iff_of_true rfl trivial

instance (e e' : Event P) : Decidable (e.InOrder e') := decidable_of_iff _ Event.inOrder_iff

/-- The token the pool holds for the peer's first connection ID. -/
def placeholder : Bytes := List.replicate 16 0

section Pool

variable {cids : List IssuedCid} {threshold : Nat} {trace : List (Event P)}

/-- The pool holds what the peer announced, and perhaps the first connection ID with its
placeholder. -/
def Announced (cids : List IssuedCid) (trace : List (Event P)) : Prop :=
  ∀ issued ∈ cids,
    Delivered trace issued ∨ issued.seq = 0 ∧ issued.statelessResetToken = placeholder

theorem Delivered.log (h : Delivered trace issued) (e : Event P) :
    Delivered (e :: trace) issued := by
  obtain ⟨packetType, prior, hmem⟩ := h
  exact ⟨packetType, prior, List.mem_cons_of_mem _ hmem⟩

theorem Announced.log (h : Announced cids trace) (e : Event P) : Announced cids (e :: trace) := by
  intro issued hissued
  rcases h issued hissued with hdelivered | hfirst
  · exact .inl (hdelivered.log e)
  · exact .inr hfirst

/-- Nothing in the pool is retired, and the threshold is what some frame asked for. -/
structure Live (cids : List IssuedCid) (threshold : Nat) (trace : List (Event P)) : Prop where
  active : ∀ issued ∈ cids, threshold ≤ issued.seq
  asked : threshold = 0 ∨ ∃ packetType seq cid token,
    Event.received packetType (.newConnectionId seq threshold cid token) ∈ trace

theorem Live.log (h : Live cids threshold trace) (e : Event P) :
    Live cids threshold (e :: trace) where
  active := h.active
  asked := by
    rcases h.asked with hzero | ⟨packetType, seq, cid, token, hmem⟩
    · exact .inl hzero
    · exact .inr ⟨packetType, seq, cid, token, List.mem_cons_of_mem _ hmem⟩

end Pool

namespace Uptake

variable {u v : Uptake P}

theorem mem_announce {e : IssuedCid} (h : e ∈ (u.announce prior issued).peerCids) :
    e = issued ∨ e ∈ u.peerCids ∧ (u.retireThreshold < prior → prior ≤ e.seq) := by
  rcases List.mem_append.mp h with hold | hnew
  · refine .inr ?_
    split at hold
    · obtain ⟨hmem, hlive⟩ := List.mem_filter.mp hold
      exact ⟨hmem, fun _ => of_decide_eq_true hlive⟩
    · exact ⟨hold, fun hlt => absurd hlt ‹_›⟩
  · exact .inl (List.mem_singleton.mp hnew)

theorem announced_step (h : Announced u.peerCids u.chronicle) (hstep : u.Step v) :
    Announced v.peerCids v.chronicle := by
  cases hstep with
  | frame htakes =>
    cases htakes with
    | announce packetType =>
      intro e he
      rcases mem_announce he with rfl | ⟨hmem, _⟩
      · exact .inl ⟨packetType, _, List.mem_cons_self ..⟩
      · exact h.log _ e hmem
    | _ => exact h.log _
  | act hact =>
    cases hact with
    | openUni | openBidi => exact h.log _
    | _ => exact h

end Uptake

/-! ## Header protection -/

section Header

variable {datagram pnField : Bytes} {packetStart pnOffset : Nat}

theorem trailer_replaceHeader (first : UInt8) (hstart : packetStart < pnOffset)
    (hend : pnOffset + pnField.length + 16 ≤ datagram.length) :
    trailer (replaceHeader datagram packetStart pnOffset first pnField) = trailer datagram := by
  have hfield : pnOffset + pnField.length ≤ datagram.length := by omega
  rw [trailer, length_replaceHeader first hstart hfield, replaceHeader, List.drop_append,
    length_replaceHeader_front first hstart hfield, List.drop_drop,
    List.drop_of_length_le (by rw [length_replaceHeader_front first hstart hfield]; omega),
    List.nil_append, trailer]
  congr 1
  omega

end Header

/-- Taking off header protection touches neither the length nor the last 16 bytes. -/
theorem trailer_of_strip (hmask : P.UnmasksInPlace) {datagram stripped : Bytes} {offset : Nat}
    {key : P.HeaderKey} {phase : Bool}
    (h : stripShortHeaderProtection P datagram offset localCidLen key = .ok (stripped, phase)) :
    trailer stripped = trailer datagram ∧ stripped.length = datagram.length := by
  simp only [stripShortHeaderProtection] at h
  split at h
  · cases h
  simp only [removeProtection] at h
  split at h
  · cases h
  rename_i hsample
  split at h
  · cases h
  rename_i first pnField hdecrypt
  cases h
  have hlength := hmask.headerDecrypt hdecrypt
  have hlen := hmask.sampleLen key
  have hstart : offset < offset + 1 + localCidLen := by omega
  have hend : offset + 1 + localCidLen + pnField.length + 16 ≤ datagram.length := by
    rw [hlength, List.length_take, List.length_drop]
    simp only [hpSampleOffset] at hsample
    omega
  exact ⟨trailer_replaceHeader first hstart hend, length_replaceHeader first hstart (by omega)⟩

/-! ## Where the error comes from -/

namespace Connection

theorem Fresh.uptake (hfresh : c.Fresh) :
    c.uptake.peerCids = [⟨0, c.peerCid, placeholder⟩] ∧ c.uptake.retireThreshold = 0 ∧
      c.uptake.chronicle = [] := by
  cases hfresh <;> exact ⟨rfl, rfl, rfl⟩

theorem Fresh.run_announced (hfresh : c.Fresh) (ops : List Op) :
    Announced (c.run ops).uptake.peerCids (c.run ops).uptake.chronicle := by
  refine run_uptake (I := fun u => Announced u.peerCids u.chronicle) Uptake.announced_step ?_ ops
  obtain ⟨hcids, _, _⟩ := hfresh.uptake
  rw [hcids]
  intro issued hissued
  rw [List.mem_singleton.mp hissued]
  exact .inr ⟨rfl, rfl⟩

end Connection

namespace Plain

/-- A client that is connected. -/
def joined : List Op := joins (client [])

/-- The server announces a connection ID with a token of sevens. -/
def announces : List Op :=
  joined ++ [.handleDatagram 2 (shortPacket (client []) 0 0
    [.newConnectionId 1 0 [5, 5, 5, 5] (List.replicate 16 7)])]

/-- A datagram that does not open and ends in a token. -/
def stray (token : Bytes) : Bytes := [64, 9, 9, 9, 9] ++ token

end Plain

namespace Plain

end Plain

end OxiQuic
