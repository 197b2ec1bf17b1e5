import OxiQuic.PlainPlatform

/-!
# Buffers on the side of the receiver

A receive window is advertised anew once less than half of it is left.  Half of a window of one
byte is nothing, so such a window is never advertised again (`window_stalls`); every larger one
makes progress (`window_replenished_iff`).

Received datagrams are kept in a queue of bounded size.  A datagram that does not fit in takes the
place of the oldest one only, however long the two are, and so the queue can grow beyond its bound
(`datagram_queue_overflows`).  `datagram_queue_bounded_iff` says when it does not.
-/

namespace OxiQuic

open Lib Plain

/-! ## Receive windows -/

inductive WindowCall where
  | consumed (n : Nat)
  | update

/-- A receive window and the limits it has advertised, newest first. -/
structure Advertising where
  flow : RecvWindow
  limits : List Nat

namespace Advertising

def new (window : Nat) : Advertising := ⟨.new window, [window]⟩

def step (a : Advertising) : WindowCall → Advertising
  | .consumed n => { a with flow := a.flow.onDataConsumed n }
  | .update => ⟨a.flow.maybeUpdate.1, a.flow.maybeUpdate.2.toList ++ a.limits⟩

/-- The limits increase, and none is beyond what was consumed and one window more. -/
def Orderly (a : Advertising) : Prop :=
  a.limits.Pairwise (· > ·) ∧ ∀ limit ∈ a.limits, limit ≤ a.flow.consumed + a.flow.window

/-- When all that was advertised is consumed, a larger limit is advertised. -/
def Replenishes (a : Advertising) : WindowCall → Prop
  | .consumed _ => True
  | .update => a.flow.consumed = a.flow.maxData →
      ∃ limit, a.flow.maybeUpdate.2 = some limit ∧ a.flow.maxData < limit

/-- When all that was advertised is consumed, the window has a half. -/
def Halves (a : Advertising) : WindowCall → Prop
  | .consumed _ => True
  | .update => a.flow.consumed = a.flow.maxData → 2 ≤ a.flow.window

/-- The limit in force is the one advertised last. -/
structure Kept (a : Advertising) : Prop where
  orderly : a.Orderly
  last : a.limits.head? = some a.flow.maxData

theorem kept_new (window : Nat) : (new window).Kept where
  orderly := by simp [new, Orderly, RecvWindow.new]
  last := rfl

variable {a : Advertising}

theorem Kept.step (h : a.Kept) (call : WindowCall) : (a.step call).Kept := by
  obtain ⟨⟨hincreasing, hwithin⟩, hlast⟩ := h
  cases call with
  | consumed n =>
    refine ⟨⟨hincreasing, fun limit hlimit => ?_⟩, hlast⟩
    have hle := hwithin limit hlimit
    simp only [Advertising.step, RecvWindow.onDataConsumed]
    omega
  | update =>
    simp only [Advertising.step, RecvWindow.maybeUpdate]
    split
    · rename_i hmore
      refine ⟨⟨List.pairwise_cons.mpr ⟨fun limit hlimit => ?_, hincreasing⟩, ?_⟩, rfl⟩
      · -- no limit is above the one in force
        obtain ⟨older, hlimits⟩ : ∃ older, a.limits = a.flow.maxData :: older := by
          cases hcases : a.limits with
          | nil => rw [hcases] at hlast; cases hlast
          | cons newest older => rw [hcases] at hlast; cases hlast; exact ⟨older, rfl⟩
        rw [hlimits] at hlimit hincreasing
        rcases List.mem_cons.mp hlimit with rfl | hold
        · exact hmore.1
        · exact Nat.lt_trans ((List.pairwise_cons.mp hincreasing).1 limit hold) hmore.1
      · exact List.forall_mem_cons.mpr ⟨Nat.le_refl _, hwithin⟩
    · exact ⟨⟨hincreasing, hwithin⟩, hlast⟩

theorem replenishes_iff_halves (call : WindowCall) : a.Replenishes call ↔ a.Halves call := by
  cases call with
  | consumed n => exact Iff.rfl
  | update =>
    refine forall_congr' fun hall => ?_
    simp only [RecvWindow.maybeUpdate, hall]
    constructor
    · rintro ⟨limit, hlimit, -⟩
      split at hlimit
      · omega
      · cases hlimit
    intro htwo
    rw [if_pos (by omega)]
    exact ⟨_, rfl, by omega⟩

end Advertising

/-- In every sequence of calls the limits increase and stay within a window of what was consumed;
and a larger limit is advertised whenever all is consumed, exactly if the window then has a half. -/
theorem window_replenished_iff (window : Nat) (calls : List WindowCall) :
    Along Advertising.step (fun a call => (a.step call).Orderly ∧ a.Replenishes call)
        (.new window) calls ↔ Along Advertising.step Advertising.Halves (.new window) calls :=
  Along.iff_of_invariant (C := fun _ _ => True) (I := Advertising.Kept)
    (fun _ call h _ => h.step call)
    (fun _ call h _ => ⟨fun hboth => (Advertising.replenishes_iff_halves call).mp hboth.2,
      fun hhalves => ⟨(h.step call).orderly, (Advertising.replenishes_iff_halves call).mpr hhalves⟩⟩)
    (Advertising.kept_new window) (.of_forall fun _ _ => trivial)

/-- A window of one byte that was consumed is not advertised again. -/
theorem window_stalls :
    let flow := (RecvWindow.new 1).onDataConsumed 1
    flow.consumed = flow.maxData ∧ flow.maybeUpdate = (flow, none) := by
  decide

/-! ## Received datagrams -/

inductive DatagramCall where
  | arrive (data : Bytes)
  | read

variable {P : Platform}

/-- A connection and the datagrams that it has accepted, oldest first. -/
structure DatagramInbox (P : Platform) where
  conn : Connection P
  arrived : List Bytes := []

namespace DatagramInbox

def step (b : DatagramInbox P) : DatagramCall → DatagramInbox P
  | .arrive data =>
    match b.conn.recvDatagramFrame data with
    | (conn, .ok _) => ⟨conn, b.arrived ++ [data]⟩
    | (conn, .error _) => ⟨conn, b.arrived⟩
  | .read => ⟨b.conn.recvDatagram.1, b.arrived⟩

def queue (b : DatagramInbox P) : List Bytes := b.conn.datagrams.recvQueue

def limit (b : DatagramInbox P) : Nat := b.conn.datagrams.recvBufferLimit

def bytes (queue : List Bytes) : Nat := (queue.map List.length).sum

/-- The queue is within its bound. -/
def Bounded (b : DatagramInbox P) : Prop := bytes b.queue ≤ b.limit

/-- The queue has the datagrams that arrived last. -/
def Recent (b : DatagramInbox P) : Prop := b.queue <:+ b.arrived

/-- Whether the connection takes datagrams of this length. -/
def Accepts (b : DatagramInbox P) (data : Bytes) : Prop :=
  b.conn.datagrams.localMaxDatagramFrameSize ≠ 0 ∧
    data.length ≤ b.conn.datagrams.localMaxDatagramFrameSize

/-- A datagram that is accepted fits into the queue, if need be in the place of the oldest. -/
def FitsIn (b : DatagramInbox P) : DatagramCall → Prop
  | .arrive data => b.Accepts data → bytes b.queue + data.length ≤ b.limit ∨
      bytes b.queue.tail + data.length ≤ b.limit
  | .read => True

variable {b : DatagramInbox P}

theorem step_arrive (b : DatagramInbox P) (data : Bytes) :
    (¬ b.Accepts data ∧ b.step (.arrive data) = b) ∨
      b.Accepts data ∧ (b.step (.arrive data)).arrived = b.arrived ++ [data] ∧
        (b.step (.arrive data)).limit = b.limit ∧ (b.step (.arrive data)).queue =
          (if bytes b.queue + data.length > b.limit then b.queue.tail else b.queue) ++ [data] := by
  simp only [step, Connection.recvDatagramFrame]
  by_cases hzero : b.conn.datagrams.localMaxDatagramFrameSize = 0
  · exact .inl ⟨fun h => h.1 hzero, by rw [if_pos hzero]⟩
  rw [if_neg hzero]
  by_cases hlong : data.length > b.conn.datagrams.localMaxDatagramFrameSize
  · exact .inl ⟨fun h => absurd h.2 (Nat.not_le.mpr hlong), by rw [if_pos hlong]⟩
  · rw [if_neg hlong]
    exact .inr ⟨⟨hzero, Nat.le_of_not_lt hlong⟩, rfl, rfl, rfl⟩

theorem step_read (b : DatagramInbox P) : (b.step .read).arrived = b.arrived ∧
    (b.step .read).limit = b.limit ∧ (b.step .read).queue = b.queue.tail := by
  refine ⟨rfl, ?_⟩
  simp only [step, Connection.recvDatagram, queue, limit]
  cases hqueue : b.conn.datagrams.recvQueue with
  | nil => exact ⟨rfl, hqueue⟩
  | cons data rest => exact ⟨rfl, rfl⟩

theorem bytes_tail_le (queue : List Bytes) : bytes queue.tail ≤ bytes queue := by
  cases queue with
  | nil => exact Nat.le_refl _
  | cons data rest => exact Nat.le_add_left ..

theorem Recent.step (h : b.Recent) (call : DatagramCall) : (b.step call).Recent := by
  have htail : b.queue.tail <:+ b.arrived := (List.tail_suffix _).trans h
  cases call with
  | read =>
    obtain ⟨harrived, -, hqueue⟩ := b.step_read
    rw [Recent, harrived, hqueue]
    exact htail
  | arrive data =>
    rcases b.step_arrive data with ⟨-, hsame⟩ | ⟨-, harrived, -, hqueue⟩
    · exact hsame.symm ▸ h
    rw [Recent, harrived, hqueue]
    obtain ⟨older, holder⟩ : (if bytes b.queue + data.length > b.limit then b.queue.tail
        else b.queue) <:+ b.arrived := by
      split
      · exact htail
      · exact h
    exact ⟨older, by rw [← List.append_assoc, holder]⟩

theorem bounded_step_iff (h : b.Bounded) (call : DatagramCall) :
    (b.step call).Bounded ↔ b.FitsIn call := by
  cases call with
  | read =>
    obtain ⟨-, hlimit, hqueue⟩ := b.step_read
    refine iff_of_true ?_ trivial
    rw [Bounded, hlimit, hqueue]
    exact Nat.le_trans (bytes_tail_le _) h
  | arrive data =>
    rcases b.step_arrive data with ⟨hnot, hsame⟩ | ⟨haccepts, -, hlimit, hqueue⟩
    · exact iff_of_true (hsame.symm ▸ h) fun haccepts => absurd haccepts hnot
    have htail := bytes_tail_le b.queue
    have hsum : ∀ queue, bytes (queue ++ [data]) = bytes queue + data.length := by
      simp [bytes]
    simp only [Bounded, FitsIn, hlimit, hqueue, hsum, haccepts, true_implies]
    split <;> omega

end DatagramInbox

/-- However datagrams arrive and are read, the queue has the datagrams that arrived last; and it is
within its bound after every call exactly if every datagram that is accepted fits in, if need be in
the place of the oldest. -/
theorem datagram_queue_bounded_iff (c : Connection P) (hempty : c.datagrams.recvQueue = [])
    (calls : List DatagramCall) :
    Along DatagramInbox.step (fun b call => (b.step call).Bounded ∧ (b.step call).Recent)
        ⟨c, []⟩ calls ↔ Along DatagramInbox.step DatagramInbox.FitsIn ⟨c, []⟩ calls := by
  have hbounded : (⟨c, []⟩ : DatagramInbox P).Bounded := by
    simp [DatagramInbox.Bounded, DatagramInbox.queue, DatagramInbox.bytes, hempty]
  have hrecent : (⟨c, []⟩ : DatagramInbox P).Recent := by
    simp [DatagramInbox.Recent, DatagramInbox.queue, hempty]
  exact Along.stays_iff (I := fun _ => True) (C := fun _ _ => True)
    (W := fun b : DatagramInbox P => b.Bounded ∧ b.Recent) (fun _ _ _ _ _ _ => trivial)
    (fun b call _ _ hW => ⟨fun h => (DatagramInbox.bounded_step_iff hW.1 call).mp h.1,
      fun h => ⟨(DatagramInbox.bounded_step_iff hW.1 call).mpr h, hW.2.step call⟩⟩)
    trivial ⟨hbounded, hrecent⟩ (.of_forall fun _ _ => trivial)

/-- A queue of four bytes that takes two datagrams and gives one back. -/
theorem datagram_queue_bounded_reads :
    let c : Connection Plain := { client [] with datagrams := {
      localMaxDatagramFrameSize := 9, recvBufferLimit := 4 } }
    Along DatagramInbox.step (fun b call => (b.step call).Bounded ∧ (b.step call).Recent) ⟨c, []⟩
      [.arrive [1, 2], .arrive [3, 4, 5], .read] :=
  (datagram_queue_bounded_iff _ rfl _).mpr
    ⟨fun _ => .inl (by decide), fun _ => .inr (by decide), trivial, trivial⟩

/-- Datagrams of one, three and four bytes arrive at a queue of four bytes: it holds seven. -/
theorem datagram_queue_overflows :
    let c : Connection Plain := { client [] with datagrams := {
      localMaxDatagramFrameSize := 9, recvBufferLimit := 4 } }
    let b := run DatagramInbox.step ⟨c, []⟩ [.arrive [1], .arrive [2, 2, 2], .arrive [3, 3, 3, 3]]
    b.queue = [[2, 2, 2], [3, 3, 3, 3]] ∧ b.limit < DatagramInbox.bytes b.queue := by
  decide

end OxiQuic
