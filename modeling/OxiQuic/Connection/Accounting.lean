import OxiQuic.Connection.LedgerRecv
import OxiQuic.PlainPlatform

/-!
# Congestion accounting

Congestion control counts bytes in flight in the controller while the packets they belong
to are records in three maps.  The two agree in every run in which no Retry is accepted
while Initial packets are tracked (`bytesInFlight_eq_trackedBytes`).  A Retry starts the
packet numbers of the Initial space over and leaves the records, so the next Initial packet
overwrites the record of an earlier one whose bytes stay counted.
-/

namespace OxiQuic

open Lib Plain

variable {P : Platform} (role : Role) {l l' : Ledger P} (dcid : ConnectionId)

/-- The bytes of the tracked packets that count against the congestion window. -/
def SentPackets.inFlightBytes (s : SentPackets) : Nat :=
  ((s.sent.values.filter (·.inFlight)).map (·.sentBytes)).sum

/-- The same over the three spaces. -/
def Connection.trackedBytes (c : Connection P) : Nat :=
  c.sentPackets.initial.inFlightBytes + c.sentPackets.handshake.inFlightBytes
    + c.sentPackets.application.inFlightBytes

/-- If the event is a Retry, no Initial packet was tracked. -/
def Event.RetriesEmpty : Event P → Prop
  | .retried _ _ outstanding => outstanding = 0
  | _ => True

instance : (e : Event P) → Decidable e.RetriesEmpty
  | .retried _ _ outstanding => inferInstanceAs (Decidable (outstanding = 0))
  | .sealed .. | .sent .. | .received .. | .acked .. | .lost .. | .opened .. | .wrote ..
  | .replayed .. | .reset .. => isTrue trivial

namespace Ledger

/-- No Retry was accepted while Initial packets were tracked. -/
def RetriesEmpty (trace : List (Event P)) : Prop := ∀ e ∈ trace, e.RetriesEmpty

instance (trace : List (Event P)) : Decidable (RetriesEmpty trace) :=
  inferInstanceAs (Decidable (∀ e ∈ trace, e.RetriesEmpty))

/-- What the tracked packets of the three spaces weigh. -/
def weight (stores : PerSpace SentPackets) : Nat :=
  stores.initial.sent.sumOf SentPacket.weight + stores.handshake.sent.sumOf SentPacket.weight
    + stores.application.sent.sumOf SentPacket.weight

theorem weight_set (stores : PerSpace SentPackets) (kind : SpaceKind) (store : SentPackets) :
    weight (stores.set kind store) + (stores.get kind).sent.sumOf SentPacket.weight
      = weight stores + store.sent.sumOf SentPacket.weight := by
  cases kind <;> simp only [weight, PerSpace.set, PerSpace.get] <;> omega

/-! ## What a move does to the records -/

/-- What is true of every record when it is made: it is filed under its number, stream data
is only in application packets, and a packet with stream data is in flight. -/
structure Filed (kind : SpaceKind) (pn : Nat) (p : SentPacket) : Prop where
  number : p.packetNumber = pn
  stream : kind ≠ .application → ∀ frame ∈ p.frames, frame.isStream = false
  weight : (∃ frame ∈ p.frames, frame.isStream = true) → 0 < p.weight

/-- The moves as far as records and the count of the controller are concerned. -/
inductive Files (l l' : Ledger P) : Prop where
  | none : l'.stores = l.stores → l'.inFlight = l.inFlight → Files l l'
  | sent {kind : SpaceKind} {p : SentPacket} :
      Filed kind (l.next.get kind) p → l'.next.get kind = l.next.get kind + 1 →
      l'.stores = l.stores.set kind ((l.stores.get kind).onPacketSent p) →
      l'.inFlight = l.inFlight + p.weight → Files l l'
  | released {kind : SpaceKind} {store : SentPackets} {out : List SentPacket} :
      (l.stores.get kind).Takes store out → l'.stores = l.stores.set kind store →
      l'.inFlight = l.inFlight - (out.map SentPacket.weight).sum → Files l l'

theorem Move.files (hmove : Move l l') : Files l l' := by
  cases hmove with
  | @send kind key streams p _ _ hother hflight hpn =>
    refine .sent (p := p) ⟨hpn, hother, fun hstream => ?_⟩ (PerSpace.get_set_self ..) rfl rfl
    rw [SentPacket.weight, (hflight hstream).1]
    exact (hflight hstream).2
  | ack kind htakes | lose kind htakes => exact .released htakes rfl rfl
  | _ => exact .none rfl rfl

theorem Files.tracked (h : Files l l') {kind : SpaceKind} {pn : Nat}
    {p : SentPacket} (hp : (l'.stores.get kind).sent.get? pn = some p) :
    (l.stores.get kind).sent.get? pn = some p ∨
      Filed kind pn p ∧ l'.next.get kind = pn + 1 := by
  cases h with
  | none hstores => exact .inl (hstores ▸ hp)
  | @sent kind' q hfiled hnext hstores _ =>
    rw [hstores] at hp
    by_cases hkind : kind = kind'
    · subst hkind
      rw [PerSpace.get_set_self, SentPackets.onPacketSent, OrdMap.get?_insert] at hp
      split at hp
      · rename_i hpn
        cases hp
        rw [hpn, hfiled.number]
        exact .inr ⟨hfiled, hnext⟩
      · exact .inl hp
    · rw [PerSpace.get_set_of_ne _ _ hkind] at hp
      exact .inl hp
  | @released kind' store out htakes hstores _ =>
    rw [hstores] at hp
    exact .inl (get?_of_takes htakes kind pn p hp)

/-- Every record is as it was when it was made. -/
def AllFiled (l : Ledger P) : Prop :=
  ∀ kind pn p, (l.stores.get kind).sent.get? pn = some p → Filed kind pn p

theorem allFiled_move (h : l.AllFiled) (hmove : Move l l') : l'.AllFiled :=
  fun kind pn p hp => (hmove.files.tracked hp).elim (h kind pn p) And.left

variable (addr : SocketAddr)

theorem allFiled_start : (start role dcid addr : Ledger P).AllFiled := by
  intro kind pn p hp
  cases kind <;> cases hp

/-! ## Numbers -/

/-- Tracked packets have numbers below the counter of their space. -/
def Numbered (l : Ledger P) (kind : SpaceKind) : Prop :=
  ∀ pn p, (l.stores.get kind).sent.get? pn = some p → pn < l.next.get kind

theorem next_le_skip (l : Ledger P) (kind kind' : SpaceKind) :
    l.next.get kind ≤ (l.skip kind').next.get kind := by
  show l.next.get kind ≤ (l.next.set kind' (l.next.get kind' + 1)).get kind
  by_cases hkind : kind = kind'
  · subst hkind
    rw [PerSpace.get_set_self]
    omega
  · rw [PerSpace.get_set_of_ne _ _ hkind]

theorem Move.next_le (hmove : Move l l') (kind : SpaceKind) :
    l.next.get kind ≤ l'.next.get kind ∨
      kind = .initial ∧ l'.stores = l.stores ∧
        ∃ dcid, l'.trace = .retried l.dcid dcid l.stores.initial.sent.size :: l.trace := by
  cases hmove with
  | retry dcid =>
    cases kind with
    | initial => exact .inr ⟨rfl, rfl, dcid, rfl⟩
    | handshake | application => exact .inl (Nat.le_refl _)
  | skip | attempt | drop | send => exact .inl (next_le_skip l kind _)
  | _ => exact .inl (Nat.le_refl _)

/-- Every move keeps numbers below the counter, save that a Retry with tracked Initial
packets breaks it in the Initial space. -/
theorem numbered_move {kind : SpaceKind} (h : l.Numbered kind)
    (hmove : Move l l') (hretries : kind = .initial → RetriesEmpty l'.trace) :
    l'.Numbered kind := by
  intro pn p hp
  rcases hmove.next_le kind with hle | ⟨rfl, hstores, dcid, htrace⟩
  · rcases hmove.files.tracked hp with hp | ⟨_, hnext⟩
    · exact Nat.lt_of_lt_of_le (h pn p hp) hle
    · omega
  -- the Retry met an empty record
  have hsize : l.stores.initial.sent.size = 0 :=
    hretries rfl (.retried l.dcid dcid _) (htrace ▸ List.mem_cons_self)
  rw [hstores, show l.stores.get .initial = l.stores.initial from rfl,
    OrdMap.get?_of_size_eq_zero hsize] at hp
  cases hp

theorem numbered_start (kind : SpaceKind) : (start role dcid addr : Ledger P).Numbered kind := by
  intro pn p hp
  cases kind <;> cases hp

/-! ## The balance -/

/-- The controller counts at least what the tracked packets weigh. -/
def Covered (l : Ledger P) : Prop := weight l.stores ≤ l.inFlight

/-- The controller counts what the tracked packets weigh. -/
def Balanced (l : Ledger P) : Prop := l.inFlight = weight l.stores

/-- The balance is kept if the counter's number is not that of a tracked packet. -/
theorem balanced_move (h : l.Balanced) (hnumbered : ∀ kind, l.Numbered kind)
    (hmove : Move l l') : l'.Balanced := by
  rw [Balanced] at h ⊢
  cases hmove.files with
  | none hstores hflight => rw [hstores, hflight]; exact h
  | @sent kind p hfiled _ hstores hflight =>
    have hfresh : (l.stores.get kind).sent.get? p.packetNumber = none := by
      cases hp : (l.stores.get kind).sent.get? p.packetNumber with
      | none => rfl
      | some q =>
        have hlt := hnumbered kind _ q hp
        rw [hfiled.number] at hlt
        exact absurd hlt (Nat.lt_irrefl _)
    have hset := weight_set l.stores kind ((l.stores.get kind).onPacketSent p)
    have hinsert : ((l.stores.get kind).onPacketSent p).sent.sumOf SentPacket.weight
        = p.weight + (l.stores.get kind).sent.sumOf SentPacket.weight :=
      OrdMap.sumOf_insert p SentPacket.weight hfresh
    rw [hstores, hflight]
    omega
  | @released kind store out htakes hstores hflight =>
    have hset := weight_set l.stores kind store
    have hsplit := htakes.weight SentPacket.weight
    rw [hstores, hflight]
    omega

/-- The invariant of accounting. -/
structure Accounted (l : Ledger P) : Prop where
  numbered : ∀ kind, l.Numbered kind
  balanced : l.Balanced

theorem accounted_move (h : l.Accounted) (hmove : Move l l')
    (hretries : RetriesEmpty l'.trace) : l'.Accounted where
  numbered kind := numbered_move (h.numbered kind) hmove fun _ => hretries
  balanced := balanced_move h.balanced h.numbered hmove

/-- Accounting holds after any acts from a fresh ledger to a history in which every Retry
met an empty Initial record. -/
theorem accounted_of_acts {role : Role} {dcid : ConnectionId} {addr : SocketAddr}
    (hacts : Acts (start role dcid addr) l) (hretries : RetriesEmpty l.trace) : l.Accounted :=
  Acts.invariant_while (fun hact => hact.forall_of_trace) accounted_move
    (fun _ h => ⟨h.numbered, h.balanced⟩) ⟨numbered_start role dcid addr, rfl⟩ hacts hretries

end Ledger

theorem SentPackets.sumOf_weight (s : SentPackets) :
    s.sent.sumOf SentPacket.weight = s.inFlightBytes := by
  show (s.sent.values.map SentPacket.weight).sum = _
  rw [SentPackets.inFlightBytes]
  generalize s.sent.values = packets
  induction packets with
  | nil => rfl
  | cons p rest ih => cases hp : p.inFlight <;> simp [SentPacket.weight, hp, ih]

/-- In every run from a fresh connection, with any congestion algorithm, in which no Retry
is accepted while Initial packets are tracked, the congestion controller counts exactly the
bytes of the tracked packets that are in flight. -/
theorem bytesInFlight_eq_trackedBytes {c : Connection P} (hfresh : c.Fresh) (ops : List Op)
    (hretries : Ledger.RetriesEmpty (c.run ops).trace) :
    (c.run ops).bytesInFlight = (c.run ops).trackedBytes := by
  obtain ⟨role, dcid, hacts⟩ := hfresh.run_acts ops
  have hbalanced := (Ledger.accounted_of_acts hacts hretries).balanced
  calc (c.run ops).bytesInFlight
      = Ledger.weight (c.run ops).sentPackets := hbalanced
    _ = (c.run ops).trackedBytes := by
        simp only [Ledger.weight, Connection.trackedBytes, SentPackets.sumOf_weight]

/-- A client that is sent on by a Retry before its first packet. -/
def Plain.retriedEarly : Connection Plain :=
  (client []).run
    [.handleDatagram 5 (Plain.retry (client []) [9] [7]), .pollTransmit 6 []]

theorem bytesInFlight_eq_trackedBytes_retriedEarly :
    retriedEarly.bytesInFlight = retriedEarly.trackedBytes ∧
      0 < retriedEarly.bytesInFlight :=
  ⟨bytesInFlight_eq_trackedBytes (client_fresh []) _ (by decide +kernel),
    by decide +kernel⟩

/-- A client that is sent on after its first packet. -/
def Plain.retriedLate : Connection Plain :=
  (client []).run
    [.pollTransmit 5 [], .handleDatagram 6 (Plain.retry (client []) [9] [7]),
      .pollTransmit 7 []]

/-- Number 0 is used again, the record of the second packet replaces that of the first, and
the controller goes on counting both. -/
theorem bytesInFlight_counts_overwritten : (client []).Fresh ∧ retriedLate.bytesInFlight = 86 ∧
      retriedLate.trackedBytes = 40 :=
  ⟨client_fresh [], by decide +kernel, by decide +kernel⟩

end OxiQuic
