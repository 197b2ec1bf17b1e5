import OxiQuic.Core

/-!
# Paths of a connection

The registry of alternative paths (`oxiquic-transport/src/connection/multipath.rs`).  The
round-trip statistics of a path are left out; nothing in the transport reads them.
-/

namespace OxiQuic

inductive PathValidation where
  | unknown
  | pending
  | validated
  | failed
  deriving DecidableEq, Repr

/-- How an error message names a validation state. -/
def PathValidation.display : PathValidation → String
  | .unknown => "unknown"
  | .pending => "pending"
  | .validated => "validated"
  | .failed => "failed"

structure PathState where
  remoteAddr : SocketAddr
  connectionId : Option ConnectionId := none
  validation : PathValidation := .unknown
  deriving DecidableEq, Repr

/-- The registered paths and which of them is in use. -/
structure MultipathState where
  paths : List PathState
  activeIndex : Nat := 0
  deriving DecidableEq, Repr

namespace MultipathState

def maxPaths : Nat := 8

/-- The path of the handshake is there from the start, and validated. -/
def new (initialRemote : SocketAddr) : MultipathState :=
  { paths := [{ remoteAddr := initialRemote, validation := .validated }] }

def addPath (m : MultipathState) (remoteAddr : SocketAddr) (cid : Option ConnectionId) :
    MultipathState × Except OxiQuicError Nat :=
  if m.paths.any (·.remoteAddr == remoteAddr) then
    (m, .error (.connection s!"path to {remoteAddr} is already registered"))
  else if maxPaths ≤ m.paths.length then
    (m, .error (.connection s!"multipath capacity exceeded ({maxPaths} paths max)"))
  else
    ({ m with paths := m.paths ++ [{ remoteAddr := remoteAddr, connectionId := cid }] },
      .ok m.paths.length)

def setPreferredPath (m : MultipathState) (index : Nat) :
    MultipathState × Except OxiQuicError SocketAddr :=
  match m.paths[index]? with
  | none => (m, .error (.connection s!"path index {index} out of range"))
  | some path =>
    if path.validation = .validated then
      ({ m with activeIndex := index }, .ok path.remoteAddr)
    else
      (m, .error (.connection
        s!"path {index} is not usable (validation: {path.validation.display})"))

def removePath (m : MultipathState) (index : Nat) : MultipathState × Except OxiQuicError Unit :=
  if m.paths.length ≤ index then
    (m, .error (.connection s!"path index {index} out of range"))
  else if index = m.activeIndex then
    (m, .error (.connection "cannot remove the active path"))
  else
    ({ paths := m.paths.eraseIdx index
       activeIndex := if index < m.activeIndex then m.activeIndex - 1 else m.activeIndex }, .ok ())

/-- Nothing is marked past the end of the table. -/
def mark (m : MultipathState) (index : Nat) (validation : PathValidation) : MultipathState :=
  { m with paths := m.paths.modify index ({ · with validation := validation }) }

def markValidated (m : MultipathState) (index : Nat) : MultipathState :=
  m.mark index .validated

def markPending (m : MultipathState) (index : Nat) : MultipathState :=
  m.mark index .pending

def markFailed (m : MultipathState) (index : Nat) : MultipathState :=
  m.mark index .failed

inductive Call where
  | addPath (remoteAddr : SocketAddr) (cid : Option ConnectionId)
  | removePath (index : Nat)
  | setPreferredPath (index : Nat)
  | markValidated (index : Nat)
  | markPending (index : Nat)
  | markFailed (index : Nat)

def call (m : MultipathState) : Call → MultipathState
  | .addPath remoteAddr cid => (m.addPath remoteAddr cid).1
  | .removePath index => (m.removePath index).1
  | .setPreferredPath index => (m.setPreferredPath index).1
  | .markValidated index => m.markValidated index
  | .markPending index => m.markPending index
  | .markFailed index => m.markFailed index

def activeAddr (m : MultipathState) : Option SocketAddr :=
  m.paths[m.activeIndex]?.map (·.remoteAddr)

structure Sound (m : MultipathState) : Prop where
  capacity : m.paths.length ≤ maxPaths
  distinct : (m.paths.map (·.remoteAddr)).Nodup
  active : m.activeIndex < m.paths.length

variable {m : MultipathState}

theorem Sound.addPath (h : m.Sound) (remoteAddr : SocketAddr) (cid : Option ConnectionId) :
    (m.addPath remoteAddr cid).1.Sound := by
  unfold MultipathState.addPath
  split
  · exact h
  rename_i hfresh
  split
  · exact h
  rename_i hroom
  refine ⟨?_, ?_, ?_⟩
  · rw [List.length_append, List.length_singleton]
    omega
  · rw [List.map_append, List.nodup_append]
    refine ⟨h.distinct, List.pairwise_singleton _ _, ?_⟩
    simpa using hfresh
  · rw [List.length_append]
    exact Nat.lt_add_right _ h.active

theorem Sound.removePath (h : m.Sound) (index : Nat) : (m.removePath index).1.Sound := by
  have hactive := h.active
  unfold MultipathState.removePath
  split
  · exact h
  rename_i hindex
  split
  · exact h
  rename_i hother
  have hlength := List.length_eraseIdx_of_lt (Nat.lt_of_not_le hindex)
  refine ⟨?_, ?_, ?_⟩
  · exact ((List.eraseIdx_sublist _ _).length_le).trans h.capacity
  · exact h.distinct.sublist ((List.eraseIdx_sublist _ _).map _)
  · show ite _ _ _ < _
    rw [hlength]
    split <;> omega

theorem Sound.mark (h : m.Sound) (index : Nat) (validation : PathValidation) :
    (m.mark index validation).Sound := by
  have haddrs : (m.mark index validation).paths.map (·.remoteAddr)
      = m.paths.map (·.remoteAddr) := by
    refine List.ext_getElem? fun i => ?_
    simp only [MultipathState.mark, List.getElem?_map, List.getElem?_modify]
    cases m.paths[i]? with
    | none => rfl
    | some path =>
      refine congrArg some ?_
      dsimp only
      split <;> rfl
  have hlength := congrArg List.length haddrs
  simp only [List.length_map] at hlength
  exact ⟨hlength ▸ h.capacity, haddrs ▸ h.distinct, hlength ▸ h.active⟩

theorem Sound.call (h : m.Sound) (call : Call) : (m.call call).Sound := by
  cases call with
  | addPath remoteAddr cid => exact h.addPath remoteAddr cid
  | removePath index => exact h.removePath index
  | setPreferredPath index =>
    simp only [MultipathState.call, setPreferredPath]
    split
    · exact h
    rename_i path hpath
    split
    · exact ⟨h.capacity, h.distinct, (List.getElem?_eq_some_iff.mp hpath).1⟩
    · exact h
  | markValidated index | markPending index | markFailed index => exact h.mark index _

theorem removePath_activeAddr (m : MultipathState) (index : Nat) :
    (m.removePath index).1.activeAddr = m.activeAddr := by
  unfold removePath
  split
  · rfl
  split
  · rfl
  rename_i hother
  simp only [activeAddr, List.getElem?_eraseIdx]
  split
  · rename_i hbelow
    rw [if_neg (by omega), Nat.sub_add_cancel (by omega)]
  · rw [if_pos (by omega)]

/-- Whatever the calls, the table is sound, a removal leaves the active path active, and only a
validated path can be preferred. -/
theorem path_table_integrity (initialRemote : SocketAddr) (calls : List Call) :
    let m := calls.foldl call (new initialRemote)
    m.paths ≠ [] ∧ m.Sound ∧ ∀ index,
      (m.removePath index).1.activeAddr = m.activeAddr ∧
      ∀ addr, (m.setPreferredPath index).2 = .ok addr →
        ∃ path, m.paths[index]? = some path ∧ path.validation = .validated := by
  intro m
  have hsound : m.Sound :=
    List.foldlRecOn calls call
      ⟨Nat.le_add_left 1 7, List.pairwise_singleton _ _, Nat.one_pos⟩ fun m h c _ => h.call c
  refine ⟨List.ne_nil_of_length_pos (Nat.zero_lt_of_lt hsound.active), hsound, fun index =>
    ⟨removePath_activeAddr m index, fun addr haddr => ?_⟩⟩
  unfold setPreferredPath at haddr
  split at haddr
  · cases haddr
  rename_i path hpath
  split at haddr
  · exact ⟨path, hpath, ‹_›⟩
  · cases haddr

end MultipathState

end OxiQuic
