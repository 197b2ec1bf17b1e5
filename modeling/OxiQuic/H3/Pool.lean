import Mathlib.Data.List.Perm.Subperm
import OxiQuic.Core

/-!
# The pool of HTTP/3 clients

`H3Pool` (`oxiquic-h3/src/pool.rs`).  A lock covers each access to the idle queues, so the steps of
concurrent requests interleave in any order.  A client is the number of its connection.  Whether a
connection is made and whether a request succeeds are inputs.
-/

namespace OxiQuic

structure OriginKey where
  addr : SocketAddr
  serverName : String
  deriving DecidableEq

/-- What there is for one origin: the queue of idle clients, how many requests connect, and the
clients of those that run.  The clients whose request failed are history. -/
structure Shelf where
  idle : List Nat := []
  connecting : Nat := 0
  running : List Nat := []
  failed : List Nat := []

structure H3Pool where
  shelves : OriginKey → Shelf := fun _ => {}
  /-- The origin each client was connected to. -/
  home : List OriginKey := []

/-- A step of a request, or an eviction. -/
inductive PoolStep where
  | acquire
  | connected
  | connectFailed
  | succeed (client : Nat)
  | fail (client : Nat)
  | evict

namespace Shelf

/-- Without an idle client the request connects. -/
def acquire (s : Shelf) : Shelf :=
  match s.idle with
  | client :: queue => { s with idle := queue, running := client :: s.running }
  | [] => { s with connecting := s.connecting + 1 }

def release (s : Shelf) (maxIdlePerOrigin client : Nat) : Shelf :=
  let queue := if maxIdlePerOrigin ≤ s.idle.length then s.idle.dropLast else s.idle
  { s with idle := client :: queue, running := s.running.erase client }

/-- A client is idle, runs or has failed. -/
def clients (s : Shelf) : List Nat := s.idle ++ (s.running ++ s.failed)

end Shelf

namespace H3Pool

def setShelf (p : H3Pool) (origin : OriginKey) (s : Shelf) : H3Pool :=
  { p with shelves := Function.update p.shelves origin s }

def step (maxIdlePerOrigin : Nat) (p : H3Pool) (origin : OriginKey) (a : PoolStep) : H3Pool :=
  let s := p.shelves origin
  match a with
  | .acquire => p.setShelf origin s.acquire
  | .connected =>
    if s.connecting = 0 then p
    else
      { p.setShelf origin { s with
          connecting := s.connecting - 1, running := p.home.length :: s.running } with
        home := p.home ++ [origin] }
  | .connectFailed => p.setShelf origin { s with connecting := s.connecting - 1 }
  | .succeed client =>
    if client ∈ s.running then p.setShelf origin (s.release maxIdlePerOrigin client) else p
  | .fail client =>
    if client ∈ s.running then
      p.setShelf origin { s with
        running := s.running.erase client, failed := client :: s.failed }
    else p
  | .evict => p.setShelf origin { s with idle := [] }

def run (maxIdlePerOrigin : Nat) (steps : List (OriginKey × PoolStep)) : H3Pool :=
  steps.foldl (fun p a => p.step maxIdlePerOrigin a.1 a.2) {}

end H3Pool

/-- The clients of an origin are in one place each, and were connected to it.  Those that are lost
have failed, so that they neither are idle nor run. -/
structure Shelf.Kept (maxIdle : Nat) (home : List OriginKey) (lost : List Nat) (origin : OriginKey)
    (s : Shelf) : Prop where
  idle_le : s.idle.length ≤ maxIdle
  once : s.clients.Nodup
  home : ∀ client ∈ s.clients, home[client]? = some origin
  lost : lost <:+ s.failed

/-- A client was connected to one origin, so no two share it. -/
def H3Pool.Conserved (maxIdle : Nat) (lost : OriginKey → List Nat) (p : H3Pool) : Prop :=
  ∀ origin, (p.shelves origin).Kept maxIdle p.home (lost origin) origin

variable {maxIdle client : Nat} {s s' : Shelf} {home : List OriginKey} {lost : List Nat}
  {origin : OriginKey}

namespace Shelf

theorem acquire_clients (s : Shelf) :
    s.acquire.idle.length ≤ s.idle.length ∧ s.acquire.clients.Subperm s.clients ∧
      s.failed <:+ s.acquire.failed := by
  unfold acquire clients
  split
  · rename_i client queue hidle
    rw [hidle]
    exact ⟨Nat.le_succ _, List.perm_middle.subperm, List.suffix_rfl⟩
  · exact ⟨Nat.le_refl _, .refl _, List.suffix_rfl⟩

theorem release_clients (h : client ∈ s.running) :
    (s.release maxIdle client).clients.Subperm s.clients := by
  have hback := ((List.perm_cons_erase h).symm.append_right s.failed).append_left
    (if maxIdle ≤ s.idle.length then s.idle.dropLast else s.idle)
  refine (List.perm_middle.symm.trans hback).subperm.trans (List.Sublist.append_right ?_ _).subperm
  split
  · exact List.dropLast_sublist _
  · exact List.Sublist.refl _

theorem release_idle_le (hmax : 0 < maxIdle) (h : s.idle.length ≤ maxIdle) :
    (s.release maxIdle client).idle.length ≤ maxIdle := by
  show (ite _ _ _ : List Nat).length + 1 ≤ maxIdle
  split
  · rw [List.length_dropLast]
    omega
  · omega

theorem Kept.of_subperm (h : s.Kept maxIdle home lost origin) (hidle : s'.idle.length ≤ maxIdle)
    (hclients : s'.clients.Subperm s.clients) (hfailed : s.failed <:+ s'.failed) :
    s'.Kept maxIdle home lost origin where
  idle_le := hidle
  once := by
    obtain ⟨kept, hperm, hsub⟩ := hclients
    exact hperm.nodup_iff.mp (h.once.sublist hsub)
  home client hclient := h.home client (hclients.subset hclient)
  lost := h.lost.trans hfailed

theorem Kept.known (h : s.Kept maxIdle home lost origin) (hclient : client ∈ s.clients) :
    client < home.length := (List.getElem?_eq_some_iff.mp (h.home client hclient)).1

theorem Kept.grow (h : s.Kept maxIdle home lost origin) (other : OriginKey) :
    s.Kept maxIdle (home ++ [other]) lost origin where
  __ := h
  home client hclient := by
    rw [List.getElem?_append_left (h.known hclient)]
    exact h.home client hclient

end Shelf

namespace H3Pool.Conserved

variable {p : H3Pool} {lost : OriginKey → List Nat}

theorem setShelf (h : p.Conserved maxIdle lost) (hidle : s.idle.length ≤ maxIdle)
    (hclients : s.clients.Subperm (p.shelves origin).clients)
    (hfailed : (p.shelves origin).failed <:+ s.failed) :
    (p.setShelf origin s).Conserved maxIdle lost :=
  (Function.forall_update_iff _ _).mpr
    ⟨(h origin).of_subperm hidle hclients hfailed, fun other _ => h other⟩

theorem connected (h : p.Conserved maxIdle lost) (origin : OriginKey) :
    (p.step maxIdle origin .connected).Conserved maxIdle lost := by
  simp only [step]
  split
  · exact h
  have hkept := h origin
  refine (Function.forall_update_iff _ _).mpr
    ⟨⟨hkept.idle_le, ?_, ?_, hkept.lost⟩, fun other _ => (h other).grow origin⟩
  · refine List.perm_middle.nodup_iff.mpr (List.nodup_cons.mpr ⟨fun hclient => ?_, hkept.once⟩)
    exact Nat.lt_irrefl _ (hkept.known hclient)
  · intro client hclient
    rcases List.mem_cons.mp (List.perm_middle.mem_iff.mp hclient) with rfl | hclient
    · exact List.getElem?_concat_length
    · exact (hkept.grow origin).home client hclient

theorem step (h : p.Conserved maxIdle lost) (hmax : 0 < maxIdle) (origin : OriginKey) (a : PoolStep) :
    (p.step maxIdle origin a).Conserved maxIdle lost := by
  have hidle := (h origin).idle_le
  cases a with
  | acquire =>
    obtain ⟨hfewer, hclients, hfailed⟩ := (p.shelves origin).acquire_clients
    exact h.setShelf (hfewer.trans hidle) hclients hfailed
  | connected => exact h.connected origin
  | connectFailed => exact h.setShelf hidle (.refl _) List.suffix_rfl
  | succeed client =>
    simp only [H3Pool.step]
    split
    · exact h.setShelf (Shelf.release_idle_le hmax hidle) (Shelf.release_clients ‹_›)
        List.suffix_rfl
    · exact h
  | fail client =>
    simp only [H3Pool.step]
    split
    · have hback := (List.perm_cons_erase ‹_›).symm.append_right (p.shelves origin).failed
      exact h.setShelf hidle ((List.perm_middle.trans hback).append_left _).subperm
        (List.suffix_cons ..)
    · exact h
  | evict =>
    exact h.setShelf (Nat.zero_le _) (List.sublist_append_right _ _).subperm List.suffix_rfl

end H3Pool.Conserved

namespace H3Pool

/-- One request. -/
def once (origin : OriginKey) : List (OriginKey × PoolStep) :=
  [(origin, .acquire), (origin, .connected), (origin, .succeed 0)]

/-- After every run the clients are conserved, and so are those that had failed at an earlier point
of it, unless no client may be kept. -/
theorem conserved_iff_pos (maxIdlePerOrigin : Nat) :
    (∀ earlier later, (run maxIdlePerOrigin (earlier ++ later)).Conserved maxIdlePerOrigin
        fun origin => ((run maxIdlePerOrigin earlier).shelves origin).failed) ↔
      0 < maxIdlePerOrigin := by
  refine ⟨fun h => Nat.pos_of_ne_zero fun hzero => ?_, fun hmax earlier later => ?_⟩
  · subst hzero
    exact absurd (h [] (once ⟨default, ""⟩) ⟨default, ""⟩).idle_le (by decide)
  have hearlier : (run maxIdlePerOrigin earlier).Conserved maxIdlePerOrigin fun _ => [] :=
    List.foldlRecOn earlier _ (fun _ => ⟨Nat.zero_le _, .nil, nofun, List.suffix_rfl⟩)
      fun p h a _ => h.step hmax a.1 a.2
  have happend : run maxIdlePerOrigin (earlier ++ later)
      = later.foldl (fun p a => p.step maxIdlePerOrigin a.1 a.2) (run maxIdlePerOrigin earlier) :=
    List.foldl_append
  rw [happend]
  exact List.foldlRecOn later _ (fun origin => { hearlier origin with lost := List.suffix_rfl })
    fun p h a _ => h.step hmax a.1 a.2

/-- A pool that keeps no client keeps the client of its first request. -/
theorem zero_keeps_one :
    ((run 0 (once ⟨default, ""⟩)).shelves ⟨default, ""⟩).idle = [0] := by decide

end H3Pool

end OxiQuic
