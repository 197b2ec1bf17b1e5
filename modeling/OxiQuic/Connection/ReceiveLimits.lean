import OxiQuic.Connection.Routing
import OxiQuic.Connection.Uptake
import OxiQuic.PlainPlatform

/-!
# Limits on what is received

A connection remembers the limits it has advertised, of each stream and of the connection, and
raises them as the application reads.  It does not compare the stream data it receives with
them.  As long as the peer keeps to the limits, nothing is stored or delivered beyond them
(`receive_limits_kept`); a frame that crosses one is refused only if it contradicts the final
size of its stream as well.
-/

namespace OxiQuic

open Lib Plain

variable {P : Platform} {c : Connection P} {s : RecvStream} {limit : Nat} {e : Event P}

/-! ## How far a peer has gone -/

/-- The highest offset received on each stream. -/
def highest : List (Event P) → OrdMap Nat Nat
  | [] => ∅
  | .received _ (.stream id offset _ data) :: rest =>
    (highest rest).insert id (max (((highest rest).get? id).getD 0) (offset + data.length))
  | _ :: rest => highest rest

/-- The sum over all streams. -/
def totalReceived (trace : List (Event P)) : Nat := (highest trace).sumOf id

theorem highest_filter (trace : List (Event P)) :
    highest (trace.filter Event.isInward) = highest trace := by
  induction trace with
  | nil => rfl
  | cons e rest ih =>
    cases e with
    | received packetType frame =>
      rw [List.filter_cons_of_pos rfl]
      cases frame with
      | stream id offset fin data => rw [highest, highest, ih]
      | _ => exact ih
    | _ => exact ih

/-! ## Receive halves -/

/-- Nothing was stored or delivered at or above a limit. -/
def RecvStream.Within (s : RecvStream) (limit : Nat) : Prop := s.reassembler.Below limit

theorem RecvStream.within_empty (limit : Nat) : ({} : RecvStream).Within limit :=
  ⟨Nat.zero_le _, fun hs => by cases hs⟩

theorem RecvStream.Within.takeIn (h : s.Within limit)
    {seg : Segment} (hseg : seg.stop ≤ limit) : (s.takeIn seg).Within limit := by
  simp only [RecvStream.takeIn]
  split
  · exact h
  cases hviolates : s.violatesFinalSize seg.stop seg.fin with
  | true =>
    simp only [RecvStream.recv, hviolates]
    exact h
  | false =>
    obtain ⟨news, hrecv⟩ := RecvStream.recv_ok hviolates
    rw [hrecv]
    exact Reassembler.accept_below h hseg

theorem RecvStream.Within.applyReset (h : s.Within limit)
    (code : Nat) : (s.applyReset code).Within limit :=
  ⟨h.next_le, fun hs => by cases hs⟩

theorem RecvStream.Within.mono {limit' : Nat} (h : s.Within limit)
    (hle : limit ≤ limit') : s.Within limit' :=
  ⟨Nat.le_trans h.next_le hle, fun hs => Nat.le_trans (h.end_le hs) hle⟩

namespace Uptake

variable {u v : Uptake P}

theorem Takes.window_eq (h : u.Takes e v) (id : Nat) : v.window id = u.window id := by
  cases h with
  | stream packetType id' offset fin data readable newPeerStreams => exact window_stream ..
  | _ => rfl

theorem Takes.recvFlow_eq (h : u.Takes e v) : v.recvFlow = u.recvFlow := by
  cases h <;> rfl

/-- Stream data that ends within the limit of its stream. -/
def Fits (u : Uptake P) : Event P → Prop
  | .received _ (.stream id offset _ data) => offset + data.length ≤ (u.window id).maxData
  | _ => True

instance (e : Event P) : Decidable (u.Fits e) := by
  unfold Fits
  split <;> infer_instance

theorem Takes.within (h : u.Takes e v) {limit : Nat → Nat}
    (hhalves : ∀ id, (u.half id).Within (limit id))
    (hfits : ∀ packetType id offset fin data, e = .received packetType (.stream id offset fin data) →
      offset + data.length ≤ limit id) (id : Nat) : (v.half id).Within (limit id) := by
  cases h with
  | stream packetType id' offset fin data readable newPeerStreams =>
    rw [half_stream]
    split
    · rename_i hid
      subst hid
      exact (hhalves id).takeIn (hfits _ _ _ _ _ rfl)
    · exact hhalves id
  | reset packetType id' code finalSize readable =>
    rw [half_reset]
    split
    · rename_i hid
      subst hid
      exact (hhalves id).applyReset code
    · exact hhalves id
  | _ => exact hhalves id

/-- Every receive half is within the limit of its stream. -/
def Contained (u : Uptake P) : Prop := ∀ id, (u.half id).Within (u.window id).maxData

theorem Act.contained (hact : u.Act v) (h : u.Contained) : v.Contained := by
  intro id
  cases hact with
  | openUni | notify => exact h id
  | @openBidi id' _ =>
    show ((u.openBidi id').half id).Within ((u.openBidi id').window id).maxData
    rw [half_openBidi, window_openBidi]
    split
    · exact RecvStream.within_empty _
    · exact h id
  | @read id' s hs _ =>
    rw [half_read, maxData_window_read]
    split
    · rename_i hid
      subst hid
      exact half_of_get? u hs ▸ h id
    · exact h id
  | raise recvFlow windows _ hraises =>
    exact (h id).mono (RecvWindow.raises_getD (hraises id) _).maxData

end Uptake

namespace Connection

/-! ## Runs -/

/-- The stream data that a call takes in ends within the limits held before the call, on each
stream and in total. -/
def Respects (c : Connection P) (op : Op) : Prop :=
  (∀ e ∈ since c.chronicle (c.step op).chronicle, c.uptake.Fits e) ∧
    totalReceived (c.step op).trace ≤ c.flow.recvFlow.maxData

instance (c : Connection P) (op : Op) : Decidable (c.Respects op) :=
  inferInstanceAs (Decidable (_ ∧ _))

theorem handleDatagram_contained (h : c.uptake.Contained) (now : Time) (datagram : Bytes)
    (hfits : ∀ e ∈ since c.chronicle (c.handleDatagram now datagram).1.chronicle, c.uptake.Fits e) :
    (c.handleDatagram now datagram).1.uptake.Contained ∧
      (c.handleDatagram now datagram).1.flow.recvFlow = c.flow.recvFlow := by
  -- the limits stay what they were before the datagram, and what is new is known to fit
  have hinvariant : ∃ new, (c.handleDatagram now datagram).1.uptake.chronicle = new ++ c.chronicle ∧
      (∀ id, (c.handleDatagram now datagram).1.uptake.window id = c.uptake.window id) ∧
      (c.handleDatagram now datagram).1.uptake.recvFlow = c.flow.recvFlow ∧
      ((∀ e ∈ new, c.uptake.Fits e) → ∀ id,
        ((c.handleDatagram now datagram).1.uptake.half id).Within (c.uptake.window id).maxData) := by
    refine handleDatagram_uptake (I := fun u => ∃ new, u.chronicle = new ++ c.chronicle ∧
      (∀ id, u.window id = c.uptake.window id) ∧ u.recvFlow = c.flow.recvFlow ∧
      ((∀ e ∈ new, c.uptake.Fits e) → ∀ id, (u.half id).Within (c.uptake.window id).maxData))
      ?_ ⟨[], rfl, fun _ => rfl, rfl, fun _ => h⟩ now datagram
    rintro u e v ⟨new, hnew, hwindows, hflow, hwithin⟩ htakes
    have hchronicle : v.chronicle = u.chronicle := by
      cases htakes <;> rfl
    refine ⟨e :: new, ?_, fun id => (htakes.window_eq id).trans (hwindows id),
      htakes.recvFlow_eq.trans hflow, fun hall => ?_⟩
    · show e :: v.chronicle = _
      rw [hchronicle, hnew, List.cons_append]
    refine htakes.within (hwithin fun e he => hall e (List.mem_cons_of_mem _ he)) ?_
    rintro packetType id offset fin data rfl
    exact hall _ (List.mem_cons_self ..)
  obtain ⟨new, hnew, hwindows, hflow, hwithin⟩ := hinvariant
  change (c.handleDatagram now datagram).1.chronicle = _ at hnew
  rw [hnew, since_append] at hfits
  exact ⟨fun id => (hwindows id).symm ▸ hwithin hfits id, hflow⟩

theorem totalReceived_chronicle (c : Connection P) :
    totalReceived c.chronicle = totalReceived c.trace :=
  congrArg (·.sumOf id) (highest_filter c.trace)

/-- The limits are kept, of each stream and in total. -/
def Confined (c : Connection P) : Prop :=
  c.uptake.Contained ∧ totalReceived c.trace ≤ c.flow.recvFlow.maxData

theorem Confined.step (h : c.Confined) {op : Op} (hop : c.Respects op) : (c.step op).Confined := by
  cases hdatagram : op.isDatagram with
  | true =>
    cases op with
    | handleDatagram now datagram =>
      obtain ⟨hcontained, hflow⟩ := handleDatagram_contained h.1 now datagram hop.1
      exact ⟨hcontained, hflow.symm ▸ hop.2⟩
    | _ => cases hdatagram
  | false =>
    have hacts := step_uptake_of_acts (c := c) (I := fun u =>
      u.Contained ∧ totalReceived u.chronicle ≤ u.recvFlow.maxData) ?_
      ⟨h.1, (totalReceived_chronicle c).symm ▸ h.2⟩ hdatagram
    · exact ⟨hacts.1, (totalReceived_chronicle _) ▸ hacts.2⟩
    rintro u v ⟨hcontained, htotal⟩ hact
    refine ⟨hact.contained hcontained, ?_⟩
    cases hact with
    | raise recvFlow windows hraise => exact Nat.le_trans htotal hraise.maxData
    | _ => exact htotal

/-- A frame is refused with a transport error. -/
def Refuses (c : Connection P) (now : Time) (packetType : PacketType) (frame : Frame) : Prop :=
  ∃ code frameType reason, (c.handleFrame now packetType frame).2
    = .error (.transportError code frameType reason)

theorem refuses_stream_iff (c : Connection P) (now : Time) (packetType : PacketType)
    (id offset : Nat) (fin : Bool) (data : Bytes) :
    c.Refuses now packetType (.stream id offset fin data) ↔ (c.uptake.half id).isReset = false ∧
        (c.uptake.half id).violatesFinalSize (offset + data.length) fin = true := by
  have hhalf : ((c.ensureStream id).inbound.streams.get? id).getD {} = c.uptake.half id := by
    obtain ⟨newPeerStreams, hensured⟩ := ensureStream_uptake c id
    exact congrArg (fun u => (u.inbound.streams.get? id).getD {}) hensured
  simp only [Refuses, handleFrame, recvStream, hhalf]
  cases hreset : (c.uptake.half id).isReset with
  | true => simp
  | false =>
    have hstop : Segment.stop ⟨offset, data, fin⟩ = offset + data.length := rfl
    cases hviolates : (c.uptake.half id).violatesFinalSize (offset + data.length) fin with
    | true => simp [RecvStream.recv, hstop, hviolates]
    | false =>
      obtain ⟨news, hrecv⟩ := @RecvStream.recv_ok (c.uptake.half id) ⟨offset, data, fin⟩ hviolates
      simp only [hrecv]
      cases news <;> simp

end Connection

namespace Plain

/-- A client that grants four bytes, on each stream and in all. -/
def narrow : Connection Plain :=
  .newClient (⟨.client, .writeHello, []⟩ : PlainSession) 1
    { initialMaxData := 4, initialMaxStreamDataBidiLocal := 4, initialMaxStreamDataBidiRemote := 4
      initialMaxStreamDataUni := 4 } {} .newReno (0 : Nat)

theorem narrow_fresh : narrow.Fresh := .client ..

/-- The server sends on its first stream. -/
def sends (pn : Nat) (data : Bytes) : Op :=
  .handleDatagram 2 (shortPacket narrow 0 pn [.stream 1 0 false data])

end Plain

end OxiQuic
