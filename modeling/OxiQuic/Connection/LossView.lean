import OxiQuic.Connection.Update

/-!
# What acknowledgements and losses leave alone

An `ACK` frame acts on what is kept for loss recovery, and through the packets that are found to
be lost on what their frames are about.  So a view of the connection that sees nothing of loss
recovery stays the same if no lost frame changes it (`Blind.processAck`).

More generally, acknowledgements and the loss timer are sequences of a few kinds of steps, and keep
a property that each of these keeps (`Recovers.processAck`, `Recovers.lossTimerDue`).
-/

namespace OxiQuic

open Lib

variable {P : Platform} {α : Type} {d : Connection P} {β : Type}

namespace Connection

/-- A view that sees nothing of timers, congestion control and the history. -/
def Untimed (V : Connection P → α) : Prop :=
  ∀ (c : Connection P) (recovery : Recovery) (congestion : CongestionController P.Real)
    (stats : Stats) (mtu : Mtu) (trace : List (Event P)),
    V { c with
      recovery := recovery, congestion := congestion, stats := stats, mtu := mtu
      trace := trace } = V c

/-- A view that sees nothing of loss recovery. -/
structure Blind (V : Connection P → α) : Prop where
  untimed : Untimed V
  packets : ∀ (c : Connection P) (spaces : PerSpace (PacketSpace P))
    (sentPackets : PerSpace SentPackets),
    V { c with spaces := spaces, sentPackets := sentPackets } = V c

/-- A view that no frame changes that a packet in flight carries. -/
def Indifferent (V : Connection P → α) (s : SentPackets) (idx : SpaceKind) : Prop :=
  ∀ pn p, s.sent.get? pn = some p → ∀ frame ∈ p.frames, ∀ d : Connection P,
    V (d.onFrameLost idx frame) = V d

theorem foldl_view {V : Connection P → α} {g : Connection P → β → Connection P}
    {bs : List β} (hg : ∀ c, ∀ b ∈ bs, V (g c b) = V c) (c : Connection P) :
    V (bs.foldl g c) = V c := by
  induction bs generalizing c with
  | nil => rfl
  | cons b rest ih =>
    refine (ih (fun d b' hb' => hg d b' (List.mem_cons_of_mem _ hb')) (g c b)).trans ?_
    exact hg c b (List.mem_cons_self ..)

variable {I : Connection P → Prop}

theorem foldl_invariant {g : Connection P → β → Connection P}
    {bs : List β} (hg : ∀ d, ∀ b ∈ bs, I d → I (g d b)) {c : Connection P} (h : I c) :
    I (bs.foldl g c) := by
  induction bs generalizing c with
  | nil => exact h
  | cons b rest ih =>
    exact ih (fun d b' hb' => hg d b' (List.mem_cons_of_mem _ hb'))
      (hg c b (List.mem_cons_self ..) h)

theorem logAll_invariant {event : β → Event P}
    (hlog : ∀ d b, I d → I (d.log (event b))) (bs : List β) {c : Connection P} (h : I c) :
    I (c.logAll (bs.map event)) := by
  induction bs generalizing c with
  | nil => exact h
  | cons b rest ih =>
    have hrest := ih (hlog c b h)
    simp only [logAll, log, List.map_cons, List.reverse_cons, List.append_assoc,
      List.cons_append, List.nil_append] at hrest ⊢
    exact hrest

theorem onAcked_invariant (htimed : ∀ (d : Connection P) (recovery : Recovery)
      (congestion : CongestionController P.Real) (stats : Stats), I d →
      I { d with recovery := recovery, congestion := congestion, stats := stats })
    (hprobed : ∀ (d : Connection P) (size : Nat) (now : Time), I d →
      I { d with mtu := d.mtu.onMtuProbeAcked size now })
    (hlog : ∀ (d : Connection P) (idx : SpaceKind) (p : SentPacket), I d →
      I (d.log (.acked idx p)))
    (h : I d) (idx : SpaceKind) (outcome : AckOutcome) (largest delay : Nat) (now : Time) :
    let sampled := ((d.sampleRtt idx outcome largest delay now).onPacketsAcked outcome.newlyAcked
      now).logAll (outcome.newlyAcked.map (.acked idx))
    I ((outcome.newlyAcked.flatMap (·.frames)).foldl (onFrameAcked now)
      (if outcome.ackedAckEliciting then sampled.resetProbes else sampled)) := by
  intro sampled
  have hrtt : I (d.sampleRtt idx outcome largest delay now) := by
    simp only [sampleRtt]
    split
    · split
      · exact h
      · exact htimed d _ d.congestion d.stats h
    · exact h
  have hacked : ∀ e : Connection P, I e → I (e.onPacketsAcked outcome.newlyAcked now) := by
    intro e he
    simp only [onPacketsAcked]
    split
    · exact he
    · exact htimed e e.recovery _ e.stats he
  have hsampled : I sampled := logAll_invariant (fun e p he => hlog e idx p he) _ (hacked _ hrtt)
  refine foldl_invariant (fun e frame _ he => ?_) ?_
  · cases frame with
    | mtuProbe size => exact hprobed e size now he
    | _ => exact he
  split
  · exact htimed sampled _ sampled.congestion sampled.stats hsampled
  · exact hsampled

section Untimed

variable {V : Connection P → α} (hV : Untimed V)
include hV

variable (c : Connection P)

theorem Untimed.onPacketsLost (lost : List SentPacket) (now : Time) :
    V (c.onPacketsLost lost now) = V c := by
  simp only [Connection.onPacketsLost]
  split
  · exact hV c c.recovery _ c.stats c.mtu c.trace
  · rfl

theorem Untimed.logAll (es : List (Event P)) : V (c.logAll es) = V c :=
  hV c c.recovery c.congestion c.stats c.mtu _

theorem Untimed.onAcked (idx : SpaceKind) (outcome : AckOutcome)
    (largest delay : Nat) (now : Time) :
    let sampled := ((c.sampleRtt idx outcome largest delay now).onPacketsAcked outcome.newlyAcked
      now).logAll (outcome.newlyAcked.map (.acked idx))
    V ((outcome.newlyAcked.flatMap (·.frames)).foldl (onFrameAcked now)
      (if outcome.ackedAckEliciting then sampled.resetProbes else sampled)) = V c :=
  onAcked_invariant (I := fun d => V d = V c)
    (fun d _ _ _ h => (hV d _ _ _ d.mtu d.trace).trans h)
    (fun d _ _ h => (hV d d.recovery d.congestion d.stats _ d.trace).trans h)
    (fun d _ _ h => (hV.logAll d [_]).trans h) rfl idx outcome largest delay now

end Untimed

/-! ## Invariants of recovery -/

/-- A frame of a packet that is in flight in a space. -/
def InFlight (c : Connection P) (idx : SpaceKind) (frame : SentFrame) : Prop :=
  ∃ pn p, (c.sentPackets.get idx).sent.get? pn = some p ∧ frame ∈ p.frames

/-- What is in flight in one connection is in flight in another. -/
def FewerInFlight (d c : Connection P) : Prop :=
  ∀ idx pn p, (d.sentPackets.get idx).sent.get? pn = some p →
    (c.sentPackets.get idx).sent.get? pn = some p

/-- What recovery does in steps to a connection, each of which keeps a property: it takes packets
out of flight, notes what became of them and queues again frames that were in flight at the
start. -/
structure Recovers (c : Connection P) (I : Connection P → Prop) : Prop where
  untimed : ∀ (d : Connection P) (recovery : Recovery) (congestion : CongestionController P.Real)
    (stats : Stats) (mtu : Mtu), I d →
    I { d with recovery := recovery, congestion := congestion, stats := stats, mtu := mtu }
  spaces : ∀ (d : Connection P) (spaces : PerSpace (PacketSpace P)), I d →
    I { d with spaces := spaces }
  forget : ∀ (d : Connection P) (idx : SpaceKind) (store : SentPackets) (out : List SentPacket),
    (d.sentPackets.get idx).Takes store out → I d →
    I { d with sentPackets := d.sentPackets.set idx store }
  acked : ∀ (d : Connection P) (idx : SpaceKind) (p : SentPacket), I d → I (d.log (.acked idx p))
  lost : ∀ (d : Connection P) (idx : SpaceKind) (p : SentPacket), I d → I (d.log (.lost idx p))
  requeue : ∀ (d : Connection P) (idx : SpaceKind) (frame : SentFrame), c.InFlight idx frame →
    I d → I (d.requeueFrame idx frame)

/-- The steps of recovery one by one: like `Recovers`, but path MTU discovery is told of its probes,
only the packets of some spaces are lost, and what is noted in a space is left out. -/
structure Mends (c : Connection P) (S : SpaceKind → Prop) (I : Connection P → Prop) : Prop where
  untimed : ∀ (d : Connection P) (recovery : Recovery) (congestion : CongestionController P.Real)
    (stats : Stats), I d → I { d with recovery := recovery, congestion := congestion, stats := stats }
  probed : ∀ (d : Connection P) (size : Nat) (now : Time), I d →
    I { d with mtu := d.mtu.onMtuProbeAcked size now }
  unprobed : ∀ d : Connection P, I d → I { d with mtu := d.mtu.onMtuProbeLost }
  forget : ∀ (d : Connection P) (idx : SpaceKind) (store : SentPackets) (out : List SentPacket),
    (d.sentPackets.get idx).Takes store out → I d →
    I { d with sentPackets := d.sentPackets.set idx store }
  acked : ∀ (d : Connection P) (idx : SpaceKind) (p : SentPacket), I d → I (d.log (.acked idx p))
  lost : ∀ (d : Connection P) (idx : SpaceKind) (p : SentPacket), I d → I (d.log (.lost idx p))
  requeue : ∀ (d : Connection P) (idx : SpaceKind) (frame : SentFrame), S idx →
    c.InFlight idx frame → I d → I (d.requeueFrame idx frame)

theorem Recovers.mends {c : Connection P} {I : Connection P → Prop} (hI : Recovers c I) :
    Mends c (fun _ => True) I where
  untimed d _ _ _ := hI.untimed d _ _ _ d.mtu
  probed d _ _ := hI.untimed d d.recovery d.congestion d.stats _
  unprobed d := hI.untimed d d.recovery d.congestion d.stats _
  forget := hI.forget
  acked := hI.acked
  lost := hI.lost
  requeue d idx frame _ := hI.requeue d idx frame

theorem requeueFrame_sentPackets (c : Connection P) (idx : SpaceKind) (frame : SentFrame) :
    (c.requeueFrame idx frame).sentPackets = c.sentPackets := by
  cases frame with
  | crypto | newToken =>
    simp only [requeueFrame]
    split <;> rfl
  | _ => rfl

theorem FewerInFlight.set {c : Connection P} (h : d.FewerInFlight c) {idx : SpaceKind}
    {store : SentPackets} {out : List SentPacket}
    (htakes : (d.sentPackets.get idx).Takes store out) :
    FewerInFlight { d with sentPackets := d.sentPackets.set idx store } c := by
  intro kind pn p hp
  exact h kind pn p (get?_of_takes htakes kind pn p hp)

namespace Mends

variable {c : Connection P} {S : SpaceKind → Prop} {I : Connection P → Prop} (hI : Mends c S I)
include hI

theorem bounded : Mends c S fun d => I d ∧ d.FewerInFlight c where
  untimed d _ _ _ h := ⟨hI.untimed d _ _ _ h.1, h.2⟩
  probed d size now h := ⟨hI.probed d size now h.1, h.2⟩
  unprobed d h := ⟨hI.unprobed d h.1, h.2⟩
  forget d idx store out htakes h := ⟨hI.forget d idx store out htakes h.1, h.2.set htakes⟩
  acked d idx p h := ⟨hI.acked d idx p h.1, h.2⟩
  lost d idx p h := ⟨hI.lost d idx p h.1, h.2⟩
  requeue d idx frame hS hframe h := by
    refine ⟨hI.requeue d idx frame hS hframe h.1, ?_⟩
    rw [FewerInFlight, requeueFrame_sentPackets]
    exact h.2

variable {idx : SpaceKind}

theorem onFrameLost {frame : SentFrame} (hS : S idx)
    (hframe : c.InFlight idx frame) (h : I d) : I (d.onFrameLost idx frame) := by
  cases frame with
  | mtuProbe size => exact hI.unprobed d h
  | _ => exact hI.requeue d idx _ hS hframe h

theorem onPacketsLost (lost : List SentPacket) (now : Time) (h : I d) :
    I (d.onPacketsLost lost now) := by
  simp only [Connection.onPacketsLost]
  split
  · exact hI.untimed d d.recovery _ d.stats h
  · exact h

theorem detectAndHandleLoss (h : I d) (hfewer : d.FewerInFlight c)
    (hS : S idx) (now : Time) : I (d.detectAndHandleLoss idx now) := by
  have htakes := (d.sentPackets.get idx).detectLost_takes now d.recovery.rtt.lossDelay
  have hforgot := hI.forget d idx _ _ htakes h
  simp only [Connection.detectAndHandleLoss]
  split
  · exact hI.untimed _ _ d.congestion d.stats hforgot
  refine logAll_invariant (fun e p he => hI.lost e idx p he) _ (hI.onPacketsLost _ _ ?_)
  refine foldl_invariant (fun e frame hframe he => ?_) (hI.untimed _ _ d.congestion _ hforgot)
  obtain ⟨p, hp, hmem⟩ := List.mem_flatMap.mp hframe
  obtain ⟨pn, hpn⟩ := htakes.taken hp
  exact hI.onFrameLost hS ⟨pn, p, hfewer idx pn p hpn, hmem⟩ he

theorem processAck {packetType : PacketType} (hS : S (spaceIndex packetType)) (now : Time)
    (largest delay firstRange : Nat) (ranges : List AckRange)
    (hseen : I { c with
      spaces := c.spaces.set (spaceIndex packetType)
        ((c.spaces.get (spaceIndex packetType)).onAckReceived largest)
      sentPackets := c.sentPackets.set (spaceIndex packetType)
        ((c.sentPackets.get (spaceIndex packetType)).onAck largest firstRange
          (ranges.map fun r => (r.gap, r.range))).1 }) :
    I (c.processAck now packetType largest delay firstRange ranges) := by
  have htakes := (c.sentPackets.get (spaceIndex packetType)).onAck_takes largest firstRange
    (ranges.map fun r => (r.gap, r.range))
  simp only [Connection.processAck]
  split
  · exact hseen
  obtain ⟨hacked, hfewer⟩ := onAcked_invariant hI.bounded.untimed hI.bounded.probed
    hI.bounded.acked ⟨hseen, FewerInFlight.set (c := c) (fun _ _ _ hp => hp) htakes⟩
    (spaceIndex packetType) ((c.sentPackets.get (spaceIndex packetType)).onAck largest firstRange
      (ranges.map fun r => (r.gap, r.range))).2 largest delay now
  have hdetected := hI.detectAndHandleLoss hacked hfewer hS now
  exact hI.untimed _ _ _ _ hdetected

theorem requeueOldest (h : I d) (hfewer : d.FewerInFlight c)
    (hS : S idx) : I (d.requeueOldest idx) := by
  simp only [Connection.requeueOldest]
  split
  · exact h
  rename_i frames hframes
  refine foldl_invariant (fun e frame hframe he => ?_) h
  obtain ⟨p, hfound, rfl⟩ := Option.map_eq_some_iff.mp hframes
  obtain ⟨pn, hpn⟩ := OrdMap.mem_values.mp (List.mem_of_find?_eq_some hfound)
  exact hI.requeue e idx frame hS ⟨pn, p, hfewer idx pn p hpn, hframe⟩ he

theorem onProbeTimeout (hS : ∀ idx, S idx) (h : I c) : I c.onProbeTimeout := by
  have hall : ∀ {d : Connection P} (idx : SpaceKind), I d ∧ d.FewerInFlight c →
      I (d.requeueOldest idx) ∧ (d.requeueOldest idx).FewerInFlight c :=
    fun idx hd => hI.bounded.requeueOldest hd hd.2 (hS idx)
  have hcounted := hI.untimed c { c.recovery with
    loss := c.recovery.loss.increasePtoCount
    probesOwed := min (c.recovery.probesOwed + 2) 4 } c.congestion c.stats h
  simp only [Connection.onProbeTimeout]
  split
  · exact (hall .application (hall .handshake (hall .initial ⟨hcounted, fun _ _ _ hp => hp⟩))).1
  · exact h

theorem lossTimerDue (hS : ∀ idx, S idx) (h : I c) (now : Time) : I (c.lossTimerDue now) := by
  simp only [Connection.lossTimerDue, onLossTimeout]
  split
  · split
    · split
      · exact hI.untimed _ _ _ _ (hI.detectAndHandleLoss h (fun _ _ _ hp => hp) (hS _) now)
      · exact hI.untimed _ _ _ _ (hI.onProbeTimeout hS h)
    · exact hI.untimed _ _ _ _ (hI.onProbeTimeout hS h)
  · exact h

end Mends

theorem Blind.processAck {V : Connection P → α} (hV : Blind V) (c : Connection P) (now : Time)
    (packetType : PacketType) (largest delay firstRange : Nat) (ranges : List AckRange)
    (h : Indifferent V (c.sentPackets.get (spaceIndex packetType)) (spaceIndex packetType)) :
    V (c.processAck now packetType largest delay firstRange ranges) = V c := by
  have hmends : Mends c (· = spaceIndex packetType) fun d => V d = V c := by
    refine ⟨fun d _ _ _ => (hV.untimed d _ _ _ d.mtu d.trace).trans,
      fun d _ _ => (hV.untimed d d.recovery d.congestion d.stats _ d.trace).trans,
      fun d => (hV.untimed d d.recovery d.congestion d.stats _ d.trace).trans,
      fun d _ _ _ _ => (hV.packets d d.spaces _).trans,
      fun d _ _ => (hV.untimed.logAll d [_]).trans, fun d _ _ => (hV.untimed.logAll d [_]).trans, ?_⟩
    rintro d _ frame rfl ⟨pn, p, hp, hframe⟩ hd
    cases frame with
    | mtuProbe size => exact hd
    | _ => exact (h pn p hp _ hframe d).trans hd
  exact hmends.processAck rfl now largest delay firstRange ranges (hV.packets c _ _)

section Recovers

variable {c : Connection P} {I : Connection P → Prop} (hI : Recovers c I)
include hI

theorem Recovers.processAck (h : I c) (now : Time) (packetType : PacketType)
    (largest delay firstRange : Nat) (ranges : List AckRange) :
    I (c.processAck now packetType largest delay firstRange ranges) :=
  hI.mends.processAck trivial now largest delay firstRange ranges
    (hI.spaces _ _ (hI.forget c _ _ _ (SentPackets.onAck_takes ..) h))

theorem Recovers.lossTimerDue (h : I c) (now : Time) : I (c.lossTimerDue now) :=
  hI.mends.lossTimerDue (fun _ => trivial) h now

end Recovers

end Connection

end OxiQuic
