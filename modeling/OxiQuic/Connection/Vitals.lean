import OxiQuic.Connection.Core
import OxiQuic.Connection.Lifecycle

/-!
# What sending can rely on

In every run the spaces have the keys that the progress of the handshake promises, an
acknowledgement is owed only where packets were received, no limit on datagrams is below the size
of the smallest Initial one, and application packets carry no handshake bytes:
`Connection.Vital`.
-/

namespace OxiQuic

open Lib

variable {P : Platform} {c : Connection P} {kind : SpaceKind} {m : Mtu}

/-- Whether a frame carried handshake bytes. -/
def SentFrame.isCrypto : SentFrame → Bool
  | .crypto _ _ => true
  | _ => false

/-- What holds of the spaces, the progress of the handshake, the path MTU and the packets of the
application space that are in flight. -/
structure Vital (spaces : PerSpace (PacketSpace P)) (handshakeReady oneRttReady : Bool)
    (currentMtu : Nat) (probeMtu : Option Nat) (tracked : SentPackets) : Prop where
  initialKeys : spaces.initial.hasKeys = true
  handshakeKeys : spaces.handshake.hasKeys = handshakeReady
  oneRttKeys : spaces.application.hasKeys = oneRttReady
  acks : ∀ kind, (spaces.get kind).ackPending = true → (spaces.get kind).received ≠ []
  mtu : minInitialDatagram ≤ currentMtu
  probe : ∀ size, probeMtu = some size → minInitialDatagram ≤ size
  /-- Handshake bytes are not sent in the application space. -/
  noCrypto : ∀ pn p, tracked.sent.get? pn = some p → ∀ frame ∈ p.frames, frame.isCrypto = false

namespace Vital

variable {spaces : PerSpace (PacketSpace P)} {handshakeReady oneRttReady : Bool}
  {currentMtu : Nat} {probeMtu : Option Nat} {tracked : SentPackets}

/-- A space is replaced by one that has keys if it had, and owes acknowledgements only for
packets. -/
theorem setSpace (h : Vital spaces handshakeReady oneRttReady currentMtu probeMtu tracked)
    (kind : SpaceKind) {space : PacketSpace P} (hkeys : space.hasKeys = (spaces.get kind).hasKeys)
    (hacks : space.ackPending = true → space.received ≠ []) :
    Vital (spaces.set kind space) handshakeReady oneRttReady currentMtu probeMtu tracked where
  initialKeys := by
    cases kind with
    | initial => exact hkeys.trans h.initialKeys
    | _ => exact h.initialKeys
  handshakeKeys := by
    cases kind with
    | handshake => exact hkeys.trans h.handshakeKeys
    | _ => exact h.handshakeKeys
  oneRttKeys := by
    cases kind with
    | application => exact hkeys.trans h.oneRttKeys
    | _ => exact h.oneRttKeys
  acks kind' hpending := by
    by_cases hkind : kind' = kind
    · subst hkind
      rw [PerSpace.get_set_self] at hpending ⊢
      exact hacks hpending
    · rw [PerSpace.get_set_of_ne _ _ hkind] at hpending ⊢
      exact h.acks kind' hpending
  mtu := h.mtu
  probe := h.probe
  noCrypto := h.noCrypto

theorem acks_setKeys (h : Vital spaces handshakeReady oneRttReady currentMtu probeMtu tracked)
    (kind : SpaceKind) (keys : Keys P.PacketKey P.HeaderKey) (kind' : SpaceKind) :
    ((spaces.set kind ((spaces.get kind).setKeys keys)).get kind').ackPending = true →
      ((spaces.set kind ((spaces.get kind).setKeys keys)).get kind').received ≠ [] := by
  by_cases hkind : kind' = kind
  · subst hkind
    rw [PerSpace.get_set_self]
    exact h.acks kind'
  · rw [PerSpace.get_set_of_ne _ _ hkind]
    exact h.acks kind'

theorem takes (h : Vital spaces handshakeReady oneRttReady currentMtu probeMtu tracked)
    {tracked' : SentPackets} {out : List SentPacket} (htakes : tracked.Takes tracked' out) :
    Vital spaces handshakeReady oneRttReady currentMtu probeMtu tracked' :=
  { h with noCrypto := fun pn p hp => h.noCrypto pn p (htakes.left hp) }

end Vital

theorem ReceivedPackets.insert_ne_nil (pn : Nat) (ranges : ReceivedPackets) :
    ranges.insert pn ≠ [] := by
  rw [ReceivedPackets.insert.eq_def]
  repeat' split
  all_goals exact nofun

namespace Mtu

/-- The sizes in use are at least that of the smallest Initial datagram. -/
structure Ample (m : Mtu) : Prop where
  current : minInitialDatagram ≤ m.currentMtu
  probe : ∀ size, m.probeMtu = some size → minInitialDatagram ≤ size

theorem Ample.scheduleMtuProbe (h : m.Ample) (state : ConnectionState) :
    (m.scheduleMtuProbe state).Ample := by
  simp only [Mtu.scheduleMtuProbe]
  split
  · exact ⟨h.current, h.probe⟩
  split
  · rename_i size hsize
    refine ⟨h.current, fun size' hsize' => ?_⟩
    cases hsize'
    have hcurrent := h.current
    simp only [nextProbeSize] at hsize
    split at hsize
    · cases hsize
    split at hsize
    · cases hsize
    · cases hsize
      omega
  · exact ⟨h.current, h.probe⟩

theorem Ample.onMtuProbeAcked (h : m.Ample) (size : Nat) (now : Time) :
    (m.onMtuProbeAcked size now).Ample := by
  have hmax : minInitialDatagram ≤ max size m.currentMtu := h.current.trans (Nat.le_max_right _ _)
  simp only [Mtu.onMtuProbeAcked]
  split <;> exact ⟨hmax, nofun⟩

theorem Ample.onMtuProbeLost (h : m.Ample) : m.onMtuProbeLost.Ample := by
  simp only [Mtu.onMtuProbeLost]
  split
  · exact ⟨h.current, h.probe⟩
  · exact ⟨h.current, nofun⟩

end Mtu

namespace Connection

/-- What sending can rely on. -/
def Vital (c : Connection P) : Prop :=
  OxiQuic.Vital c.spaces c.hs.handshakeKeysReady c.hs.oneRttReady c.mtu.currentMtu c.mtu.probeMtu
    c.sentPackets.application

theorem Vital.of_core {d : Connection P} (h : c.Vital) (hcore : d.core = c.core) : d.Vital := by
  have hview : ∀ e : Connection P, e.Vital = OxiQuic.Vital e.core.spaces e.core.handshakeKeysReady
      e.core.oneRttReady e.core.mtu.currentMtu e.core.mtu.probeMtu
      e.core.sentPackets.application := fun _ => rfl
  rw [hview d, hcore]
  exact h

theorem Vital.of_mtu (h : c.Vital) (hm : m.Ample) : Vital { c with mtu := m } :=
  { h with mtu := hm.current, probe := hm.probe }

theorem Vital.ample (h : c.Vital) : c.mtu.Ample := ⟨h.mtu, h.probe⟩

/-! ## The handshake -/

theorem pumpOnce_vital (h : c.Vital) : c.pumpOnce.Vital := by
  refine pumpOnce_cases fun _ _ _ _ _ _ => ⟨fun _ => ⟨h, fun keys => ?_⟩, fun keys _ _ => ?_⟩
  · exact ⟨h.initialKeys, rfl, h.oneRttKeys, h.acks_setKeys .handshake keys, h.mtu, h.probe,
      h.noCrypto⟩
  · exact ⟨h.initialKeys, h.handshakeKeys, rfl, h.acks_setKeys .application keys, h.mtu, h.probe,
      h.noCrypto⟩

/-! ## Sending -/

theorem buildAck_vital (h : c.Vital) (kind : SpaceKind) (delay : Nat) :
    Vital { c with spaces := c.spaces.set kind ((c.spaces.get kind).buildAck delay).1 } := by
  refine OxiQuic.Vital.setSpace h kind ?_ fun hpending => ?_
  · simp only [PacketSpace.buildAck]
    split
    · split <;> rfl
    · rfl
  simp only [PacketSpace.buildAck] at hpending ⊢
  split at hpending
  · rename_i howed
    rw [if_pos howed]
    split at hpending
    · cases hpending
    · exact h.acks kind hpending
  · rename_i howed
    rw [if_neg howed]
    exact h.acks kind hpending

theorem FillStep.vital {budget : Nat} {f f' : Filling P}
    (hstep : FillStep kind budget f f') (h : f.conn.Vital) : f'.conn.Vital := by
  cases hstep with
  | @ack space frame hack =>
    have hspace : space = ((f.conn.spaces.get kind).buildAck 0).1 := by rw [hack]
    rw [hspace]
    exact buildAck_vital h kind 0
  | crypto hstream htakes => cases kind <;> exact h
  | mtuProbe =>
    simp only [fillMtuProbe]
    split <;> exact h
  | streamFlow | stream | connectionBlocked | streamBlocked =>
    simp only [ensureStreamSendFlow, Filling.placeRecorded, Filling.place, chargeFlow,
      noteBlockedConnection, noteBlockedStream]
    repeat' split
    all_goals exact h
  | _ => exact h

theorem fillPayload_vital (h : c.Vital) (kind : SpaceKind) (budget : Nat) :
    (c.fillPayload kind budget).conn.Vital :=
  (fillPayload_fills c kind budget).invariant (I := fun f => f.conn.Vital)
    (fun _ _ hstep hf => hstep.vital hf) h

theorem allocate_vital (h : c.Vital) (kind : SpaceKind) : (c.allocate kind).Vital :=
  h.setSpace kind rfl (h.acks kind)

theorem beforeSeal_vital (h : c.Vital) (kind : SpaceKind) (now : Time) :
    (c.beforeSeal kind now).Vital := by
  obtain ⟨_, _, hkeys, hbefore⟩ := beforeSeal_conn c kind now
  rw [hbefore]
  exact OxiQuic.Vital.setSpace h .application hkeys (h.acks .application)

theorem fillPayload_noCrypto (c : Connection P) (budget : Nat) :
    ∀ frame ∈ (c.fillPayload .application budget).frames, frame.isCrypto = false := by
  refine (fillPayload_fills c .application budget).invariant
    (I := fun f => ∀ frame ∈ f.frames, frame.isCrypto = false) (fun f f' hstep hf => ?_) nofun
  have hmore : ∀ sent : SentFrame, sent.isCrypto = false →
      ∀ frame ∈ f.frames ++ [sent], frame.isCrypto = false := by
    intro sent hsent frame hframe
    rcases List.mem_append.mp hframe with hframe | hframe
    · exact hf frame hframe
    · exact List.mem_singleton.mp hframe ▸ hsent
  cases hstep with
  | crypto hstream htakes => cases hstream
  | mtuProbe hsize =>
    simp only [fillMtuProbe]
    split <;> exact hmore _ rfl
  | newConnectionId | retireConnectionId | maxStreams | streamsBlocked | newToken | stream
  | keepAlive | keyUpdate => exact hmore _ rfl
  | probe =>
    dsimp only
    split
    · exact hf
    · exact hmore _ rfl
  | _ => exact hf

theorem recordSent_vital (h : c.Vital) (now : Time)
    (pn sentBytes : Nat) {frames : List SentFrame} (ackEliciting : Bool) (e e' : Event P)
    (hframes : kind = .application → ∀ frame ∈ frames, frame.isCrypto = false) :
    (((c.log e).recordSent kind now pn sentBytes frames ackEliciting).log e').Vital := by
  simp only [recordSent]
  split
  · cases kind with
    | application =>
      exact { h with noCrypto := OrdMap.forall_insert (hframes rfl) h.noCrypto }
    | _ => exact h
  · exact h

theorem sealFilled_vital {f : Filling P} (h : f.conn.Vital) (now : Time)
    (hframes : kind = .application → ∀ frame ∈ f.frames, frame.isCrypto = false) (out : Bytes) :
    (sealFilled f now kind out).1.Vital := by
  have halloc := allocate_vital (beforeSeal_vital h kind now) kind
  simp only [sealFilled]
  split
  · exact halloc
  split
  · exact halloc
  · exact recordSent_vital halloc now _ _ _ _ _ hframes

theorem writeIf_vital (h : c.Vital) (cond : Bool) (now : Time)
    (kind : SpaceKind) (out : Bytes) : (writeIf cond c now kind out).1.Vital := by
  refine writeIf_cases (I := fun r => r.1.Vital) h fun budget _ => ?_
  split
  · exact fillPayload_vital h kind _
  refine sealFilled_vital (fillPayload_vital h kind _) now (fun hkind => ?_) out
  subst hkind
  exact fillPayload_noCrypto c _

theorem writeEarly_vital (h : c.Vital) (wroteInitial : Bool) (out : Bytes) :
    (writeEarly wroteInitial c out).1.Vital := by
  have halloc := allocate_vital h .application
  exact writeEarly_cases (I := fun r => r.1.Vital) h (fun _ _ _ => halloc) fun _ _ _ _ => halloc

/-! ## Acknowledgements, loss and timers -/

theorem mends_vital (c : Connection P) : Mends c (fun _ => True) Vital where
  untimed _ _ _ _ h := h
  probed _ size now h := h.of_mtu (h.ample.onMtuProbeAcked size now)
  unprobed _ h := h.of_mtu h.ample.onMtuProbeLost
  forget d idx store out htakes h := by
    cases idx with
    | application => exact OxiQuic.Vital.takes h htakes
    | _ => exact h
  acked _ _ _ h := h
  lost _ _ _ h := h
  requeue _ idx frame _ _ h := by
    cases frame with
    | crypto | newToken =>
      simp only [requeueFrame]
      split <;> exact h
    | _ => exact h

theorem processAck_vital (h : c.Vital) (now : Time) (packetType : PacketType)
    (largest delay firstRange : Nat) (ranges : List AckRange) :
    (c.processAck now packetType largest delay firstRange ranges).Vital := by
  refine (mends_vital c).processAck trivial now largest delay firstRange ranges ?_
  have htaken := (mends_vital c).forget c (spaceIndex packetType) _ _
    (SentPackets.onAck_takes _ largest firstRange (ranges.map fun r => (r.gap, r.range))) h
  exact OxiQuic.Vital.setSpace htaken (spaceIndex packetType) rfl (h.acks _)

theorem keepAliveDue_vital (h : c.Vital) (now : Time) : (c.keepAliveDue now).Vital := by
  simp only [keepAliveDue]
  split <;> exact h

/-! ## Runs -/

theorem takeFrame_vital (h : c.Vital) (now : Time) (packetType : PacketType)
    (frame : Frame) : (c.takeFrame now packetType frame).1.Vital := by
  cases hframe : Frame.isCore frame with
  | false => exact h.of_core (takeFrame_core c now packetType hframe)
  | true =>
    cases frame with
    | ack largest delay firstRange ranges =>
      exact processAck_vital (c := c.log _) h now packetType _ _ _ _
    | crypto offset data =>
      simp only [takeFrame, handleFrame, recvCrypto]
      cases packetType <;> split <;> exact h
    | _ => cases hframe

theorem Update.vital {op : Op} {d : Connection P} (h : c.Vital) (hupdate : Update op c d) :
    d.Vital := by
  cases hupdate with
  | @call c op hsimple =>
    by_cases hkey : ∃ now, op = .initiateKeyUpdate now
    · obtain ⟨now, rfl⟩ := hkey
      simp only [step, initiateKeyUpdate]
      split <;> split <;> exact h
    · exact h.of_core (step_core c hsimple fun now hop => hkey ⟨now, hop⟩)
  | pump op c => exact pumpOnce_vital h
  | refresh op c => exact h.of_core (refreshHandshakeComplete_core c)
  | earlyKeys op c => exact h.of_core (tryInstallZeroRttKeys_core c)
  | retry c now datagram offset =>
    simp only [recvRetryPacket]
    split
    · exact h
    · exact h.setSpace .initial h.initialKeys.symm fun hpending => by cases hpending
  | adopt c now datagram parsed =>
    simp only [adoptPeerCid]
    split <;> exact h
  | follow c now =>
    obtain ⟨_, _, hkeys, hfollow⟩ := performKeyUpdate_conn c now
    rw [hfollow]
    exact OxiQuic.Vital.setSpace h .application hkeys (h.acks .application)
  | frame c now datagram packetType frame => exact takeFrame_vital h now packetType frame
  | note c now datagram space pn ackEliciting =>
    exact h.setSpace space rfl fun _ => ReceivedPackets.insert_ne_nil pn _
  | close c now out =>
    obtain ⟨_, _, hclosed, rfl | rfl, -⟩ := emitClose_conn c out <;> rw [hclosed]
    · exact h
    · exact allocate_vital h c.closeSpace
  | advance c now out => exact h.of_core (advanceRecvFlow_core c)
  | initial c now out buf | handshake c now out buf | application c now out buf =>
    exact writeIf_vital h _ now _ buf
  | early c now out buf wroteInitial => exact writeEarly_vital h wroteInitial buf
  | keepAlive c now => exact keepAliveDue_vital h now
  | loss c now => exact (mends_vital c).lossTimerDue (fun _ => trivial) h now
  | mtu c now =>
    simp only [mtuProbeDue]
    split
    · exact h.of_mtu (h.ample.scheduleMtuProbe _)
    · exact h
  | _ => exact h

theorem Fresh.vital (hfresh : c.Fresh) : c.Vital := by
  cases hfresh <;> exact ⟨rfl, rfl, rfl, fun kind => by cases kind <;> exact nofun,
    Nat.le_refl _, nofun, nofun⟩

theorem Fresh.run_vital (hfresh : c.Fresh) (ops : List Op) : (c.run ops).Vital :=
  invariant_run (I := Vital) (Q := fun _ => True) (fun _ h hupdate => hupdate.vital h)
    hfresh.vital fun _ _ => trivial

end Connection

end OxiQuic
