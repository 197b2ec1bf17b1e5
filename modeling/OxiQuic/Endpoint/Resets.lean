import OxiQuic.Endpoint.Delivery

/-!
# Streams that the peer resets, in driven connections

A reset makes `read_stream` fail, and the task's loop passes over the failure: the channel of the
stream stays open, and nothing is sent on it.
-/

namespace OxiQuic

open Lib

variable {P : Platform}

/-- `H3RecvStream::poll_data`, which reads the channel of a stream without a handle. -/
def pollData (dataRx : Channel Bytes) : Channel Bytes × Poll (Except OxiQuicError (Option Bytes)) :=
  match dataRx.pollRecv with
  | (dataRx, .ready (some data)) => (dataRx, .ready (.ok (some data)))
  | (dataRx, .ready none) => (dataRx, .ready (.ok none))
  | (dataRx, .pending) => (dataRx, .pending)

/-- The reader has all that was forwarded. -/
def Pipe.Consumed (p : Pipe) : Prop :=
  p.handle.buf.length ≤ p.handle.bufPos ∧ p.channel.queue = []

/-- From then on a reader waits as long as there is a sender, and finds the end afterwards. -/
theorem Pipe.Consumed.polls {p : Pipe} (h : p.Consumed) (remaining : Nat) :
    (p.handle.pollRead p.channel remaining).2.2 =
        (if p.channel.sending then .pending else .ready []) ∧
      (pollData p.channel).2 = if p.channel.sending then .pending else .ready (.ok none) := by
  have hpolled := p.channel.pollRecv_polled
  unfold RecvStreamHandle.pollRead pollData
  rw [if_neg (Nat.not_lt.mpr h.1)]
  generalize p.channel.pollRecv = polled at hpolled ⊢
  obtain ⟨dataRx, result⟩ := polled
  cases hpolled with
  | taken hqueue => rw [h.2] at hqueue; cases hqueue
  | waiting _ hsending => rw [if_pos hsending, if_pos hsending]; exact ⟨rfl, rfl⟩
  | ended _ hsending => simp [hsending]

/-- What a read reports is neither the end of the stream nor that it has to wait.  Errors of
`poll_read` have no place in the model, as it never returns one. -/
def Pipe.ReportsReset (p : Pipe) : Prop :=
  (∀ remaining, 0 < remaining → (p.handle.pollRead p.channel remaining).2.2 ≠ .pending ∧
    (p.handle.pollRead p.channel remaining).2.2 ≠ .ready []) ∧
  (pollData p.channel).2 ≠ .pending ∧ (pollData p.channel).2 ≠ .ready (.ok none)

theorem Pipe.Consumed.not_reportsReset {p : Pipe} (h : p.Consumed) : ¬ p.ReportsReset := by
  intro hreports
  obtain ⟨hread, -⟩ := h.polls 1
  obtain ⟨hpending, hend⟩ := hreports.1 1 Nat.one_pos
  rw [hread] at hpending hend
  cases hsending : p.channel.sending with
  | true => exact hpending (if_pos hsending)
  | false => exact hend (if_neg (by simp [hsending]))

namespace Driven

/-- The application holds a handle of a stream that the peer has reset, and has read all that
came before. -/
structure AwaitsReset (d : Driven P) (p : Pipe) : Prop where
  pipe : p ∈ d.pipes
  «open» : p.readable = true
  reset : ∃ s, d.conn.inbound.streams.get? p.stream = some s ∧ s.isReset = true
  consumed : p.Consumed

/-- **Resets do not reach readers.**  Whatever a run of a driven connection brings, every reader
of a stream that was reset is told of it exactly if there is no such reader. -/
theorem reset_reported_iff (c : Connection P) (actions : List Action) :
    (∀ p, ((start c).run actions).AwaitsReset p → p.ReportsReset) ↔
      ∀ p, ¬ ((start c).run actions).AwaitsReset p :=
  ⟨fun h p hp => Pipe.Consumed.not_reportsReset hp.consumed (h p hp), fun h p hp => absurd hp (h p)⟩

end Driven

/-- The server sends a byte and resets the stream, and the reader reads on. -/
def Plain.readsReset : List Driven.Action :=
  [arrives 0 false, .acceptBidi, .read 0 9,
    .datagram 6 (shortPacket (client []) 0 1 [.resetStream 1 7 1]) [], .read 0 9]

/-- The reader waits while the task runs, and takes the end of the task for that of the stream. -/
theorem reset_taken_for_end :
    let d := Plain.task.run Plain.readsReset
    let gone := Plain.task.run (Plain.readsReset ++ [.recvError false, .read 0 9])
    d.running = true ∧ Plain.got d = [(1, [0], false)] ∧
      (d.conn.inbound.streams.get? 1).map (·.isReset) = some true ∧
      Plain.got gone = [(1, [0], true)] := by
  decide +kernel

end OxiQuic
