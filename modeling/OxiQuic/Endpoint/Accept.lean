import OxiQuic.Core
import OxiQuic.Lib.Channel
import OxiQuic.Lib.Run

/-!
# The accept loop of a server

Handshake tasks deliver connections and errors on the accept channel
(`oxiquic-transport/src/endpoint/mod.rs`).  A server takes them in a loop that ends with the
first `none` of `Incoming::next`, or of `H3Incoming::next` (`oxiquic-h3/src/server.rs`).
-/

namespace OxiQuic

open Lib

/-- What a handshake task delivers. -/
abbrev Outcomes (α : Type) := Channel (Except OxiQuicError α)

variable {α β : Type}

/-- `ServerEndpoint::accept`. -/
def accept (c : Outcomes α) : Outcomes α × Poll (Except OxiQuicError α) :=
  match c.pollRecv with
  | (c, .ready (some outcome)) => (c, .ready outcome)
  | (c, .ready none) => (c, .ready (.error (.connection "server accept channel closed")))
  | (c, .pending) => (c, .pending)

def Incoming.next (c : Outcomes α) : Outcomes α × Poll (Option α) :=
  match accept c with
  | (c, .ready outcome) => (c, .ready outcome.toOption)
  | (c, .pending) => (c, .pending)

/-- The HTTP/3 part of a handshake, `H3Connection::new_with_config`, is a parameter. -/
def acceptConnection (establish : α → Except OxiQuicError β) (c : Outcomes α) :
    Outcomes α × Poll (Except OxiQuicError β) :=
  match accept c with
  | (c, .ready outcome) => (c, .ready (outcome.bind establish))
  | (c, .pending) => (c, .pending)

def H3Incoming.next (establish : α → Except OxiQuicError β) (c : Outcomes α) :
    Outcomes α × Poll (Option β) :=
  match acceptConnection establish c with
  | (c, .ready outcome) => (c, .ready outcome.toOption)
  | (c, .pending) => (c, .pending)

/-- What a call of `next` does if `established` is what it makes of an outcome. -/
inductive Takes (established : Except OxiQuicError α → Option β) (c : Outcomes α) :
    Outcomes α → Poll (Option β) → Prop where
  | outcome {c' : Outcomes α} {o : Except OxiQuicError α} : c.queue = o :: c'.queue →
      c'.sending = c.sending → Takes established c c' (.ready (established o))
  | waiting : c.queue = [] → c.sending = true → Takes established c c .pending
  | ended : c.queue = [] → c.sending = false → Takes established c c (.ready none)

theorem Incoming.next_takes (c : Outcomes α) :
    Takes Except.toOption c (Incoming.next c).1 (Incoming.next c).2 := by
  have hpoll := c.pollRecv_polled
  unfold Incoming.next accept
  generalize c.pollRecv = polled at hpoll ⊢
  obtain ⟨c', poll⟩ := polled
  cases hpoll with
  | taken hqueue hsending => exact .outcome hqueue hsending
  | waiting hqueue hsending => exact .waiting hqueue hsending
  | ended hqueue hsending => exact .ended hqueue hsending

theorem H3Incoming.next_takes (establish : α → Except OxiQuicError β) (c : Outcomes α) :
    Takes (fun outcome => (outcome.bind establish).toOption) c
      (H3Incoming.next establish c).1 (H3Incoming.next establish c).2 := by
  have hpoll := c.pollRecv_polled
  unfold H3Incoming.next acceptConnection accept
  generalize c.pollRecv = polled at hpoll ⊢
  obtain ⟨c', poll⟩ := polled
  cases hpoll with
  | taken hqueue hsending => exact .outcome hqueue hsending
  | waiting hqueue hsending => exact .waiting hqueue hsending
  | ended hqueue hsending => exact .ended hqueue hsending

/-- A server that takes connections in a loop. -/
structure AcceptLoop (α β : Type) where
  channel : Outcomes α := .new 16
  /-- All that was delivered. -/
  delivered : List (Except OxiQuicError α) := []
  yielded : List β := []
  looping : Bool := true

inductive AcceptEvent (α : Type) where
  /-- A task delivers an outcome.  It waits while the channel is full. -/
  | deliver (outcome : Except OxiQuicError α)
  /-- The demux and all tasks are gone. -/
  | shutdown
  /-- The loop polls `next`. -/
  | next

namespace AcceptLoop

def step (next : Outcomes α → Outcomes α × Poll (Option β)) (s : AcceptLoop α β) :
    AcceptEvent α → AcceptLoop α β
  | .deliver outcome =>
    if s.channel.sending then
      match s.channel.trySend outcome with
      | (c, .ok ()) => { s with channel := c, delivered := s.delivered ++ [outcome] }
      | (_, .error _) => s
    else s
  | .shutdown => { s with channel := s.channel.dropSender }
  | .next =>
    if s.looping then
      match next s.channel with
      | (c, .ready (some conn)) => { s with channel := c, yielded := s.yielded ++ [conn] }
      | (c, .ready none) => { s with channel := c, looping := false }
      | (c, .pending) => { s with channel := c }
    else s

/-- The loop ends only with the channel, and yields all that was established, in order. -/
structure Robust (established : Except OxiQuicError α → Option β) (s : AcceptLoop α β) : Prop where
  ends : s.looping = false → s.channel.sending = false ∧ s.channel.queue = []
  yields : s.yielded ++ s.channel.queue.filterMap established = s.delivered.filterMap established

/-- A failure is polled only when nothing more can come. -/
def Succeeds (established : Except OxiQuicError α → Option β) (s : AcceptLoop α β) :
    AcceptEvent α → Prop
  | .next => s.looping = true → ∀ o ∈ s.channel.queue.head?, (established o).isSome = true ∨
      s.channel.sending = false ∧ s.channel.queue.tail = []
  | _ => True

variable {established : Except OxiQuicError α → Option β} {s : AcceptLoop α β}
    {next : Outcomes α → Outcomes α × Poll (Option β)}

theorem Robust.deliver (h : s.Robust established) (outcome : Except OxiQuicError α) :
    (s.step next (.deliver outcome)).Robust established := by
  simp only [step]
  split
  · rename_i hsending
    have hsent := s.channel.trySend_sent outcome
    generalize s.channel.trySend outcome = sent at hsent ⊢
    obtain ⟨c, result⟩ := sent
    cases hsent with
    | queued _ _ hqueue hkept =>
      refine ⟨fun hended => ?_, ?_⟩
      · rw [(h.ends hended).1] at hsending
        exact absurd hsending Bool.false_ne_true
      · show s.yielded ++ c.queue.filterMap established = _
        rw [hqueue, List.filterMap_append, List.filterMap_append, ← List.append_assoc, h.yields]
    | full | closed => exact h
  · exact h

/-- A call of `next` keeps the loop robust exactly if it polls no failure that something may
follow. -/
theorem Robust.next_iff (hnext : ∀ c, Takes established c (next c).1 (next c).2)
    (h : s.Robust established) :
    (s.step next .next).Robust established ↔ s.Succeeds established .next := by
  simp only [step, Succeeds]
  cases hlooping : s.looping with
  | false => exact iff_of_true h fun hloop => absurd hloop Bool.false_ne_true
  | true =>
    have htakes := hnext s.channel
    simp only [if_true, true_implies]
    generalize next s.channel = polled at htakes ⊢
    obtain ⟨c, poll⟩ := polled
    cases htakes with
    | @outcome _ o hqueue hsending =>
      have hyields := h.yields
      rw [hqueue, List.filterMap_cons] at hyields
      rw [hqueue, List.head?_cons, List.tail_cons]
      cases ho : established o with
      | some conn =>
        rw [ho] at hyields
        refine iff_of_true ⟨fun hended => absurd hended.symm Bool.false_ne_true, ?_⟩
          fun o' ho' => .inl ?_
        · show (s.yielded ++ [conn]) ++ c.queue.filterMap established = _
          rw [List.append_assoc]
          exact hyields
        · rw [← Option.some.inj ho', ho]
          rfl
      | none =>
        rw [ho] at hyields
        constructor
        · intro hrobust o' _
          have hends := hrobust.ends rfl
          exact .inr ⟨hsending ▸ hends.1, hends.2⟩
        intro hsucceeds
        rcases hsucceeds o rfl with hsome | hlast
        · rw [ho] at hsome
          exact absurd hsome Bool.false_ne_true
        · exact ⟨fun _ => ⟨hsending.trans hlast.1, hlast.2⟩, hyields⟩
    | waiting hqueue hsending =>
      exact iff_of_true ⟨fun hended => absurd hended.symm Bool.false_ne_true, h.yields⟩
        fun o ho => (by rw [hqueue] at ho; cases ho)
    | ended hqueue hsending =>
      exact iff_of_true ⟨fun _ => ⟨hsending, hqueue⟩, h.yields⟩
        fun o ho => (by rw [hqueue] at ho; cases ho)

theorem Robust.step_iff (hnext : ∀ c, Takes established c (next c).1 (next c).2)
    (h : s.Robust established) (event : AcceptEvent α) :
    (s.step next event).Robust established ↔ s.Succeeds established event := by
  cases event with
  | deliver outcome => exact iff_of_true (h.deliver outcome) trivial
  | shutdown => exact iff_of_true ⟨fun hended => ⟨rfl, (h.ends hended).2⟩, h.yields⟩ trivial
  | next => exact h.next_iff hnext

/-- In a run of the loop, robustness stays exactly if no failure is polled too early. -/
theorem robust_run_iff (hnext : ∀ c, Takes established c (next c).1 (next c).2)
    (events : List (AcceptEvent α)) :
    Along (step next) (fun s event => (s.step next event).Robust established) {} events ↔
      Along (step next) (Succeeds established) {} events :=
  Along.stays_iff (I := fun _ => True) (C := fun _ _ => True) (fun _ _ _ _ _ _ => trivial)
    (fun _ event _ _ h => h.step_iff hnext event) trivial
    ⟨fun h => absurd h.symm Bool.false_ne_true, rfl⟩ (.of_forall fun _ _ => trivial)

end AcceptLoop

open AcceptLoop in
/-- **The accept loop.**  Whatever handshakes come to and however tasks and the loop interleave,
the loop goes on until the channel is closed and yields every connection in order, exactly if
no failure is polled while something may follow it. -/
theorem accept_loop_robust_iff (establish : α → Except OxiQuicError β)
    (events : List (AcceptEvent α)) :
    (Along (step Incoming.next)
        (fun s event => (s.step Incoming.next event).Robust Except.toOption) {} events ↔
      Along (step Incoming.next) (Succeeds Except.toOption) {} events) ∧
    (Along (step (H3Incoming.next establish))
        (fun s event => (s.step (H3Incoming.next establish) event).Robust
          fun outcome => (outcome.bind establish).toOption) {} events ↔
      Along (step (H3Incoming.next establish))
        (Succeeds fun outcome => (outcome.bind establish).toOption) {} events) :=
  ⟨robust_run_iff Incoming.next_takes events, robust_run_iff (H3Incoming.next_takes establish) events⟩

/-- A client whose handshake fails ends the loop, and the connection behind it is never
accepted. -/
theorem accept_loop_ended_by_failure :
    let events : List (AcceptEvent Nat) :=
      [.deliver (.error (.connection "handshake failed")), .deliver (.ok 1), .next, .next]
    let quic : AcceptLoop Nat Nat := run (AcceptLoop.step Incoming.next) {} events
    let h3 : AcceptLoop Nat Nat := run (AcceptLoop.step (H3Incoming.next .ok)) {} events
    (quic.looping = false ∧ quic.channel.sending = true ∧ quic.yielded = []) ∧
      h3.looping = false ∧ h3.channel.sending = true ∧ h3.yielded = [] := by
  decide

end OxiQuic
