import OxiQuic.Connection.Tracking
import OxiQuic.Recovery.Exactness
import OxiQuic.PlainPlatform

/-!
# What an acknowledgement is checked for

`process_ack` looks up what an `ACK` frame covers and checks nothing else.  So the largest
acknowledged number that is stored is the largest one any `ACK` frame has named
(`Tracking.Heeds`), sent or not, and it is smaller than the next packet number exactly as long
as all frames have named smaller ones.  A frame that acknowledges what was never sent is never
refused (`ack_validity_iff`).
-/

namespace OxiQuic

open Plain

variable {P : Platform} (c : Connection P) {t : Tracking} (kind : SpaceKind)

/-- Every number of a kind that is stored is below a bound. -/
def Tracking.Below (t : Tracking) (kind : SpaceKind) (bound : Nat) : Prop :=
  (∀ largest, t.acked.get kind = some largest → largest < bound) ∧
    ∀ largest, (t.stores.get kind).largestAcked = some largest → largest < bound

namespace Tracking

/-- What is stored as the largest acknowledged number is the largest one heard of. -/
structure Heeds (t : Tracking) : Prop where
  store : ∀ kind bound, (∀ largest, (t.stores.get kind).largestAcked = some largest →
    largest < bound) ↔ ∀ largest, (kind, largest) ∈ t.heard → largest < bound
  /-- The space forgets what it was told when a Retry is accepted. -/
  space : ∀ kind largest, t.acked.get kind = some largest →
    ∃ stored, (t.stores.get kind).largestAcked = some stored ∧ largest ≤ stored

theorem Heeds.below_iff (h : t.Heeds) (kind : SpaceKind) (bound : Nat) :
    t.Below kind bound ↔ ∀ largest, (kind, largest) ∈ t.heard → largest < bound := by
  rw [← h.store]
  constructor
  · exact fun hbelow => hbelow.2
  intro hstore
  refine ⟨fun largest hlargest => ?_, hstore⟩
  obtain ⟨stored, hstored, hle⟩ := h.space kind largest hlargest
  exact Nat.lt_of_le_of_lt hle (hstore stored hstored)

/-- The larger of what is stored and what is heard. -/
def raise (prev : Option Nat) (largest : Nat) : Nat :=
  match prev with
  | some prev => max prev largest
  | none => largest

theorem raise_lt_iff (prev : Option Nat) (largest bound : Nat) :
    raise prev largest < bound ↔ largest < bound ∧ ∀ stored, prev = some stored → stored < bound := by
  cases prev with
  | none => simp [raise]
  | some stored =>
    simp only [raise, Option.some.injEq, forall_eq']
    omega

theorem Heeds.of_largestAcked {t' : Tracking} (h : t.Heeds)
    (hstores : ∀ kind, (t'.stores.get kind).largestAcked = (t.stores.get kind).largestAcked)
    (hacked : ∀ kind largest, t'.acked.get kind = some largest → t.acked.get kind = some largest)
    (hheard : t'.heard = t.heard) : t'.Heeds where
  store kind bound := by rw [hstores, hheard, h.store]
  space kind largest hlargest := by
    rw [hstores]
    exact h.space kind largest (hacked kind largest hlargest)

theorem largestAcked_set (stores : PerSpace SentPackets) (kind kind' : SpaceKind) (s : SentPackets)
    (h : s.largestAcked = (stores.get kind).largestAcked) :
    ((stores.set kind s).get kind').largestAcked = (stores.get kind').largestAcked := by
  by_cases hkind : kind' = kind
  · rw [hkind, PerSpace.get_set_self, h]
  · rw [PerSpace.get_set_of_ne _ _ hkind]

theorem Heeds.detect (h : t.Heeds) (kind : SpaceKind) (now lossDelay : Time) :
    (t.detect kind now lossDelay).Heeds :=
  h.of_largestAcked (fun _ => largestAcked_set _ _ _ _ (SentPackets.detectLost_largestAcked _ _ _))
    (fun _ _ hlargest => hlargest) rfl

theorem Heeds.hear (h : t.Heeds) (kind : SpaceKind) (largest firstRange : Nat)
    (pairs : List (Nat × Nat)) : (t.hear kind largest firstRange pairs).Heeds where
  store kind' bound := by
    by_cases hkind : kind' = kind
    · subst hkind
      have hstore := h.store kind' bound
      simp only [Tracking.hear, PerSpace.get_set_self, SentPackets.onAck, Option.some.injEq,
        List.mem_cons, Prod.mk.injEq, true_and, forall_eq', forall_eq_or_imp, ← hstore]
      exact raise_lt_iff _ _ _
    · have hstore := h.store kind' bound
      simp only [Tracking.hear, PerSpace.get_set_of_ne _ _ hkind, List.mem_cons, Prod.mk.injEq,
        hkind, false_and, false_or, hstore]
  space kind' stored hstored := by
    by_cases hkind : kind' = kind
    · subst hkind
      simp only [Tracking.hear, PerSpace.get_set_self, Option.some.injEq] at hstored
      refine ⟨raise (t.stores.get kind').largestAcked largest, ?_, ?_⟩
      · simp only [Tracking.hear, PerSpace.get_set_self]
        rfl
      subst hstored
      change raise (t.acked.get kind') largest ≤ _
      rw [← Nat.lt_succ_iff, raise_lt_iff]
      have hown := (raise_lt_iff (t.stores.get kind').largestAcked largest _).mp
        (Nat.lt_succ_self _)
      refine ⟨hown.1, fun prev hprev => ?_⟩
      obtain ⟨stored, hstored, hle⟩ := h.space kind' prev hprev
      exact Nat.lt_of_le_of_lt hle (hown.2 stored hstored)
    · simp only [Tracking.hear, PerSpace.get_set_of_ne _ _ hkind] at hstored ⊢
      exact h.space kind' stored hstored

theorem Heeds.step {t' : Tracking} {op : Op} (h : t.Heeds) (hstep : t.Step op t') : t'.Heeds := by
  cases hstep with
  | same => exact h
  | skip | arm => exact h.of_largestAcked (fun _ => rfl) (fun _ _ => id) rfl
  | record now out kind =>
    exact h.of_largestAcked (fun _ => largestAcked_set _ _ _ _ rfl) (fun _ _ => id) rfl
  | hear now datagram kind largest firstRange pairs => exact h.hear kind largest firstRange pairs
  | ack now datagram kind largest firstRange pairs lossDelay =>
    exact ((h.hear kind largest firstRange pairs).detect kind now lossDelay).of_largestAcked
      (fun _ => rfl) (fun _ _ => id) rfl
  | lose now kind lossDelay =>
    exact (h.detect kind now lossDelay).of_largestAcked (fun _ => rfl) (fun _ _ => id) rfl
  | retry now datagram =>
    refine h.of_largestAcked (fun _ => rfl) (fun kind largest hlargest => ?_) rfl
    by_cases hkind : kind = .initial
    · subst hkind
      cases hlargest
    · rwa [PerSpace.get_set_of_ne _ _ hkind] at hlargest

theorem heeds_start {c : Connection P} (h : c.Fresh) : c.tracking.Heeds := by
  rw [h.tracking]
  constructor
  · intro kind bound
    cases kind <;> simp [PerSpace.const, PerSpace.get]
  · intro kind largest hlargest
    cases kind <;> cases hlargest

end Tracking

namespace Connection

/-- An `ACK` frame that was taken in for a space names `largest`. -/
def Named (c : Connection P) (kind : SpaceKind) (largest : Nat) : Prop :=
  ∃ packetType delay firstRange ranges,
    Event.received packetType (.ack largest delay firstRange ranges) ∈ c.trace ∧
      spaceIndex packetType = kind

/-- The largest acknowledged numbers stored for a space, in the space and in the record of sent
packets, are smaller than its next packet number. -/
def AckedBelowNext (c : Connection P) (kind : SpaceKind) : Prop :=
  (∀ largest, (c.spaces.get kind).largestAcked = some largest →
    largest < (c.spaces.get kind).nextPacketNumber) ∧
  ∀ largest, (c.sentPackets.get kind).largestAcked = some largest →
    largest < (c.spaces.get kind).nextPacketNumber

/-- An `ACK` frame acknowledges a number that was not sent yet, or its first range reaches below
zero. -/
def BadAck (c : Connection P) (kind : SpaceKind) (largest firstRange : Nat)
    (ranges : List AckRange) : Prop :=
  (∃ pn, AckCovers largest firstRange (ranges.map fun r => (r.gap, r.range)) pn ∧
    (c.spaces.get kind).nextPacketNumber ≤ pn) ∨ largest < firstRange

/-- The packets declared lost, newest first. -/
def losses (c : Connection P) : List (Event P) :=
  c.trace.filter fun
    | .lost _ _ => true
    | _ => false

theorem mem_heard_iff (largest : Nat) :
    (kind, largest) ∈ c.tracking.heard ↔ c.Named kind largest := by
  change (kind, largest) ∈ c.trace.filterMap Event.heard ↔ _
  rw [List.mem_filterMap]
  constructor
  · rintro ⟨e, he, hheard⟩
    unfold Event.heard at hheard
    split at hheard
    · cases hheard
      exact ⟨_, _, _, _, he, rfl⟩
    · cases hheard
  · rintro ⟨packetType, delay, firstRange, ranges, he, rfl⟩
    exact ⟨_, he, rfl⟩

theorem ackedBelowNext_iff_below :
    c.AckedBelowNext kind ↔ c.tracking.Below kind (c.tracking.next.get kind) := by
  have hnext : c.tracking.next.get kind = (c.spaces.get kind).nextPacketNumber :=
    PerSpace.get_map _ _ _
  have hacked : c.tracking.acked.get kind = (c.spaces.get kind).largestAcked :=
    PerSpace.get_map _ _ _
  rw [Tracking.Below, hnext, hacked]
  rfl

theorem badAck_iff (largest firstRange : Nat) (ranges : List AckRange) :
    c.BadAck kind largest firstRange ranges ↔
      (c.spaces.get kind).nextPacketNumber ≤ largest ∨ largest < firstRange := by
  refine or_congr_left ⟨?_, fun h => ⟨largest, ⟨_, List.mem_cons_self, ?_⟩, h⟩⟩
  · rintro ⟨pn, ⟨r, hr, hlow, hhigh⟩, hnext⟩
    exact Nat.le_trans hnext (Nat.le_trans hhigh (ackRanges_descend.1 r hr).2)
  · exact ⟨Nat.sub_le _ _, Nat.le_refl _⟩

theorem takeFrame_ack_heard (now : Time) (packetType : PacketType)
    (largest delay firstRange : Nat) (ranges : List AckRange) :
    let taken := (c.takeFrame now packetType (.ack largest delay firstRange ranges)).1
    taken.tracking.heard = (spaceIndex packetType, largest) :: c.tracking.heard ∧
      taken.tracking.next = c.tracking.next := by
  intro taken
  change (processAck _ now packetType largest delay firstRange ranges).tracking.heard = _ ∧
    (processAck _ now packetType largest delay firstRange ranges).tracking.next = _
  rcases processAck_tracking c now packetType largest delay firstRange ranges
    with ⟨-, hafter⟩ | ⟨lossDelay, timer, -, hafter⟩
  · rw [hafter]
    exact ⟨rfl, rfl⟩
  · rw [hafter]
    exact ⟨rfl, rfl⟩

end Connection

/-- In every state of every run, the largest acknowledged number stored for a space is smaller
than its next packet number exactly if every `ACK` frame taken in for the space names a smaller
one.  An `ACK` frame keeps this, and is refused without a loss if it is bad, exactly if it is not
bad and all frames before it named smaller numbers: no `ACK` frame is ever refused. -/
theorem ack_validity_iff {c d : Connection P} (hfresh : c.Fresh) {ops : List Op} {op : Op}
    (hd : Connection.Updates op (c.run ops) d) :
    (∀ kind, d.AckedBelowNext kind ↔
      ∀ largest, d.Named kind largest → largest < (d.spaces.get kind).nextPacketNumber) ∧
    ∀ (now : Time) (packetType : PacketType) (largest delay firstRange : Nat)
      (ranges : List AckRange),
      let kind := spaceIndex packetType
      let taken := d.takeFrame now packetType (.ack largest delay firstRange ranges)
      (taken.1.AckedBelowNext kind ∧
        (d.BadAck kind largest firstRange ranges →
          (∃ e, taken.2 = .error e) ∧ taken.1.losses = d.losses)) ↔
      ¬ d.BadAck kind largest firstRange ranges ∧
        ∀ earlier, d.Named kind earlier → earlier < (d.spaces.get kind).nextPacketNumber := by
  have hheeds : d.tracking.Heeds := hd.tracking Tracking.Heeds.step
      (Connection.run_tracking Tracking.Heeds.step (Tracking.heeds_start hfresh) ops)
  have hnext : ∀ kind, d.tracking.next.get kind = (d.spaces.get kind).nextPacketNumber :=
    fun kind => PerSpace.get_map _ _ _
  refine ⟨fun kind => ?_, ?_⟩
  · rw [d.ackedBelowNext_iff_below, hheeds.below_iff, hnext]
    simp only [d.mem_heard_iff]
  intro now packetType largest delay firstRange ranges kind taken
  have htaken : taken.1.tracking.Heeds :=
    hheeds.step (d.takeFrame_tracks now [] packetType (.ack largest delay firstRange ranges))
  obtain ⟨hheard, hsame⟩ := d.takeFrame_ack_heard now packetType largest delay firstRange ranges
  have hafter : taken.1.AckedBelowNext kind ↔ largest < (d.spaces.get kind).nextPacketNumber ∧
        ∀ earlier, d.Named kind earlier → earlier < (d.spaces.get kind).nextPacketNumber := by
    rw [taken.1.ackedBelowNext_iff_below, htaken.below_iff, hheard, hsame, hnext]
    simp only [List.mem_cons, Prod.mk.injEq, or_imp, forall_and, d.mem_heard_iff]
    simp [kind]
  have haccepted : ¬ ∃ e, taken.2 = .error e := by
    rintro ⟨e, he⟩
    cases he
  rw [hafter, d.badAck_iff]
  constructor
  · rintro ⟨⟨hlargest, hearlier⟩, hrefused⟩
    refine ⟨?_, hearlier⟩
    rintro hbad
    exact haccepted (hrefused hbad).1
  · rintro ⟨hgood, hearlier⟩
    exact ⟨⟨by omega, hearlier⟩, fun hbad => absurd hbad hgood⟩

namespace Plain

/-- A client whose server grants it two streams of fifty bytes. -/
def sender : Connection Plain := client [4, 1, 60, 6, 1, 50, 8, 1, 2]

/-- It sends two packets with a byte each. -/
def sendsTwice : List Op :=
  joins sender ++ [.pollTransmit 2 [], .openBidi, .sendStream 0 [1] false, .pollTransmit 3 [],
    .sendStream 0 [2] false, .pollTransmit 4 []]

/-- The server acknowledges the second one, and a number that was not sent. -/
def overAck : Bytes :=
  shortPacket (sender.run sendsTwice) 0 0 [.ack 1000 0 0 [⟨997, 0⟩]]

/-- The server acknowledges the second packet, with a first range that is too long. -/
def longAck : Bytes := shortPacket (sender.run sendsTwice) 0 0 [.ack 1 0 5 []]

end Plain

theorem ack_validity_iff_sendsTwice :
    ¬ (sender.run sendsTwice).BadAck .application 1 0 [] ∧
    ((sender.run sendsTwice).takeFrame 5 .short (.ack 1 0 0 [])).1.AckedBelowNext .application := by
  have hnext : ((sender.run sendsTwice).spaces.get .application).nextPacketNumber = 2 := by
    decide +kernel
  have hnone : ∀ named ∈ (sender.run sendsTwice).tracking.heard, named.1 ≠ .application := by
    decide +kernel
  generalize sendsTwice = ops at hnext hnone ⊢
  have hgood : ¬ (sender.run ops).BadAck .application 1 0 [] := by
    rw [Connection.badAck_iff, hnext]
    omega
  have hd : Connection.Updates .pollReadable (sender.run ops) (sender.run ops) := .refl _
  obtain ⟨-, hframe⟩ := ack_validity_iff (client_fresh _) hd
  refine ⟨hgood, ((hframe 5 .short 1 0 0 []).mpr ⟨hgood, fun earlier hearlier => ?_⟩).1⟩
  exact absurd rfl (hnone _ ((Connection.mem_heard_iff _ _ _).mpr hearlier))

/-- An acknowledgement of number 1000 after two packets: it is accepted, stored as the largest
acknowledged number, and makes the first packet count as lost.  One whose first range reaches
below zero is accepted, too. -/
theorem unsent_number_acknowledged :
    (sender.run sendsTwice).spaces.application.nextPacketNumber = 2 ∧
    (sender.run sendsTwice).losses.length = 0 ∧
    ((sender.run sendsTwice).handleDatagram 5 overAck).2 = .ok () ∧
    ((sender.run sendsTwice).handleDatagram 5 overAck).1.spaces.application.largestAcked
      = some 1000 ∧
    ((sender.run sendsTwice).handleDatagram 5 overAck).1.sentPackets.application.largestAcked
      = some 1000 ∧ ((sender.run sendsTwice).handleDatagram 5 overAck).1.losses.length = 1 ∧
    ((sender.run sendsTwice).handleDatagram 5 longAck).2 = .ok () := by
  decide +kernel

end OxiQuic
