/-!
# Bounded channels

A queue of bounded length between a side that sends without waiting and a side that polls.
Either side can be dropped: a dropped receiver refuses what is sent, and a dropped sender
ends what is received once the queue is empty.
-/

namespace Lib

universe u

/-- What polling gives. -/
inductive Poll (α : Type u) where
  | ready (a : α)
  | pending
  deriving DecidableEq

/-- Why a value was not sent. -/
inductive TrySendError where
  | full
  | closed
  deriving DecidableEq

structure Channel (α : Type u) where
  capacity : Nat
  queue : List α
  bounded : queue.length ≤ capacity
  /-- Whether the sender is there. -/
  sending : Bool
  /-- Whether the receiver is there. -/
  receiving : Bool

namespace Channel

variable {α : Type u}

def new (capacity : Nat) : Channel α := ⟨capacity, [], Nat.zero_le _, true, true⟩

/-- Send without waiting. -/
def trySend (c : Channel α) (a : α) : Channel α × Except TrySendError Unit :=
  if c.receiving = false then (c, .error .closed)
  else if h : c.queue.length < c.capacity then
    ({ c with queue := c.queue ++ [a], bounded := by rw [List.length_append]; exact h }, .ok ())
  else (c, .error .full)

/-- Take what was sent first.  Without a sender an empty queue is the end. -/
def pollRecv (c : Channel α) : Channel α × Poll (Option α) :=
  match h : c.queue with
  | a :: rest =>
    have hlength : rest.length + 1 ≤ c.capacity :=
      Nat.le_trans (Nat.le_of_eq (congrArg List.length h).symm) c.bounded
    ({ c with queue := rest, bounded := Nat.le_of_succ_le hlength }, .ready (some a))
  | [] => if c.sending then (c, .pending) else (c, .ready none)

def dropSender (c : Channel α) : Channel α := { c with sending := false }

/-- What nobody received is gone. -/
def dropReceiver (c : Channel α) : Channel α :=
  { c with receiving := false, queue := [], bounded := Nat.zero_le _ }

/-- What sending does: the value is queued, or the channel is full, or nobody receives. -/
inductive Sent (c : Channel α) (a : α) : Channel α → Except TrySendError Unit → Prop where
  | queued {c' : Channel α} : c.receiving = true → c.queue.length < c.capacity →
      c'.queue = c.queue ++ [a] → c'.sending = c.sending → c'.receiving = c.receiving →
      Sent c a c' (.ok ())
  | full : c.receiving = true → c.queue.length = c.capacity → Sent c a c (.error .full)
  | closed : c.receiving = false → Sent c a c (.error .closed)

theorem trySend_sent (c : Channel α) (a : α) : c.Sent a (c.trySend a).1 (c.trySend a).2 := by
  unfold trySend
  split
  · exact .closed ‹_›
  rename_i hreceiving
  have hreceiving : c.receiving = true := by simpa using hreceiving
  split
  · exact .queued hreceiving ‹_› rfl rfl rfl
  · exact .full hreceiving (Nat.le_antisymm c.bounded (Nat.le_of_not_lt ‹_›))

/-- What polling does: the first value is taken, or there is none, for now or for good. -/
inductive Polled (c : Channel α) : Channel α → Poll (Option α) → Prop where
  | taken {c' : Channel α} {a : α} : c.queue = a :: c'.queue → c'.sending = c.sending →
      c'.receiving = c.receiving → Polled c c' (.ready (some a))
  | waiting : c.queue = [] → c.sending = true → Polled c c .pending
  | ended : c.queue = [] → c.sending = false → Polled c c (.ready none)

theorem pollRecv_polled (c : Channel α) : c.Polled c.pollRecv.1 c.pollRecv.2 := by
  unfold pollRecv
  split
  · exact .taken ‹_› rfl rfl
  split
  · exact .waiting ‹_› ‹_›
  · exact .ended ‹_› (by simpa using ‹¬ c.sending = true›)

end Channel

end Lib
