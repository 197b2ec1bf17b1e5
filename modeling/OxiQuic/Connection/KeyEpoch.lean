import OxiQuic.Connection.Core
import OxiQuic.Connection.Opening
import OxiQuic.PlainPlatform

/-!
# Key epochs

The 1-RTT keys of a connection over its key updates.  TLS hands out the keys of epoch 0 and a
secret from which the keys of every later epoch follow (`Platform.HandsOut`).  At each point of a
run the connection is in the epoch it counts: it seals and opens with the keys of this epoch, has
those of the next one ready, keeps the one of the epoch before for receiving, and its key phase is
the parity of the epoch (`key_epoch_state`).

Which packets it opens follows from that.  A packet carries the parity of its epoch, and the key
of the epoch before is tried only for packets of the present parity, so that a packet that was
sealed before the update and arrives after it does not open (`opens_iff_epoch`).
-/

namespace OxiQuic

open Lib

variable {P : Platform} {d : Connection P} {op : Op}

/-! ## What TLS hands out -/

namespace Platform

/-- The secret after `n` key updates. -/
def secretsAt (P : Platform) (next : P.Secrets) : Nat → P.Secrets
  | 0 => next
  | n + 1 => (P.nextPacketKeys (P.secretsAt next n)).2

/-- A session that has read or written more. -/
inductive Later (P : Platform) (s : P.Session) : P.Session → Prop where
  | refl : Later P s s
  | read {s' : P.Session} (bytes : Bytes) : Later P s s' → Later P s (P.readHs s' bytes).1
  | write {s' : P.Session} : Later P s s' → Later P s (P.writeHs s').1

theorem Later.trans {s s' s'' : P.Session} (h : P.Later s s') (h' : P.Later s' s'') :
    P.Later s s'' := by
  induction h' with
  | refl => exact h
  | read bytes _ ih => exact ih.read bytes
  | write _ ih => exact ih.write

/-- A session hands out 1-RTT keys at most once.  They are those of epoch 0, and the n-th call
of `next_packet_keys` gives those of epoch n. -/
structure HandsOut (P : Platform) (s : P.Session) (epochs : Nat → PacketKeySet P.PacketKey) :
    Prop where
  first : ∀ {s' keys next}, P.Later s s' → (P.writeHs s').2.2 = some (.oneRtt keys next) →
    epochs 0 = ⟨keys.sending.packet, keys.receiving.packet⟩
  later : ∀ {s' keys next}, P.Later s s' → (P.writeHs s').2.2 = some (.oneRtt keys next) →
    ∀ n, (P.nextPacketKeys (P.secretsAt next n)).1 = epochs (n + 1)
  once : ∀ {s' s'' keys next keys' next'}, P.Later s s' →
    (P.writeHs s').2.2 = some (.oneRtt keys next) → P.Later (P.writeHs s').1 s'' →
    (P.writeHs s'').2.2 ≠ some (.oneRtt keys' next')

end Platform

namespace Plain

theorem later_role {s s' : Plain.Session} (h : Plain.Later s s') :
    PlainSession.role s' = PlainSession.role s := by
  induction h with
  | refl => rfl
  | @read s'' bytes _ ih =>
    refine Eq.trans ?_ ih
    obtain ⟨role, stage, params⟩ := s''
    cases role <;> cases stage <;> rfl
  | @write s'' _ ih =>
    refine Eq.trans ?_ ih
    obtain ⟨role, stage, params⟩ := s''
    cases role <;> cases stage <;> rfl

theorem secretsAt_eq (role : Role) (n : Nat) : Plain.secretsAt (role, 1) n = (role, n + 1) := by
  induction n with
  | zero => rfl
  | succ n ih =>
    show (Plain.nextPacketKeys (Plain.secretsAt (role, 1) n)).2 = _
    rw [ih]
    rfl

/-- A session whose handshake is over, but for a last message of the client. -/
def Spent (s : PlainSession) : Prop := s.stage = .done ∨ s.role = .server ∧ s.stage = .waitFinished

theorem spent_later {s s' : Plain.Session} (hspent : Spent s) (h : Plain.Later s s') :
    Spent s' := by
  induction h with
  | refl => exact hspent
  | @read s'' bytes _ ih =>
    obtain ⟨role, stage, params⟩ := s''
    rcases ih with rfl | ⟨rfl, rfl⟩
    · cases role <;> exact .inl rfl
    · exact .inl rfl
  | @write s'' _ ih =>
    obtain ⟨role, stage, params⟩ := s''
    rcases ih with rfl | ⟨rfl, rfl⟩
    · cases role <;> exact .inl rfl
    · exact .inr ⟨rfl, rfl⟩

theorem writeHs_oneRtt {s : PlainSession} {keys : Keys PlainKey Unit} {next : Role × Nat}
    (h : writeHs s = ((writeHs s).1, (writeHs s).2.1, some (.oneRtt keys next))) :
    keys = keysFor s.role (fun r => .oneRtt r 0) ∧ next = (s.role, 1) ∧ Spent (writeHs s).1 := by
  obtain ⟨role, stage, params⟩ := s
  cases role <;> cases stage <;> cases h
  · exact ⟨rfl, rfl, .inl rfl⟩
  · exact ⟨rfl, rfl, .inr ⟨rfl, rfl⟩⟩

theorem handsOut (s : PlainSession) : Plain.HandsOut s (packetKeySet s.role) where
  first {s' keys next} hlater hkeys := by
    obtain ⟨rfl, _, _⟩ := writeHs_oneRtt (s := s') (congrArg (fun c => (_, _, c)) hkeys)
    rw [← later_role hlater]
    rfl
  later {s' keys next} hlater hkeys n := by
    obtain ⟨_, rfl, _⟩ := writeHs_oneRtt (s := s') (congrArg (fun c => (_, _, c)) hkeys)
    rw [← later_role hlater]
    exact congrArg (fun secrets => (Plain.nextPacketKeys secrets).1) (secretsAt_eq _ n)
  once {s' s'' keys next keys' next'} _ hkeys hmore hagain := by
    obtain ⟨_, _, hspent⟩ := writeHs_oneRtt (s := s') (congrArg (fun c => (_, _, c)) hkeys)
    obtain ⟨role, stage, params⟩ := s''
    rcases spent_later hspent hmore with rfl | ⟨rfl, rfl⟩
    · cases role <;> cases hagain
    · cases hagain

end Plain

/-! ## Keys alone -/

/-- What key updates are about. -/
structure Keying (P : Platform) where
  tls : P.Session
  ready : Bool
  keys : Option (Keys P.PacketKey P.HeaderKey)
  update : KeyUpdate P

namespace Keying

/-- Keys arrive. -/
def install (k : Keying P) (keys : Keys P.PacketKey P.HeaderKey) (next : P.Secrets) : Keying P where
  tls := (P.writeHs k.tls).1
  ready := true
  keys := some keys
  update := { k.update with
    oneRttSecrets := some (P.nextPacketKeys next).2
    nextOneRttKeys := some (P.nextPacketKeys next).1 }

/-- Move to the next epoch, if its keys are there. -/
def rotate (k : Keying P) (retireAfter : Time) : Keying P :=
  match k.update.oneRttSecrets with
  | none => k
  | some secrets =>
    match k.update.nextOneRttKeys with
    | none => { k with update := { k.update with
        oneRttSecrets := some (P.nextPacketKeys secrets).2 } }
    | some next =>
      { k with
        keys := k.keys.map fun keys =>
          { sending := { keys.sending with packet := next.sending }
            receiving := { keys.receiving with packet := next.receiving } }
        update := { k.update with
          oneRttSecrets := some (P.nextPacketKeys secrets).2
          prevOneRttKeys := match k.keys with
            | some keys => some (keys.receiving.packet, retireAfter)
            | none => k.update.prevOneRttKeys
          nextOneRttKeys := some (P.nextPacketKeys secrets).1 } }

theorem rotate_update (k : Keying P) (retireAfter : Time) :
    (k.rotate retireAfter).update.keyUpdatePending = k.update.keyUpdatePending ∧
    (k.rotate retireAfter).update.keyUpdateCount = k.update.keyUpdateCount := by
  simp only [rotate]
  split
  · exact ⟨rfl, rfl⟩
  · split <;> exact ⟨rfl, rfl⟩

/-- Count an update and turn the key phase. -/
def count (k : Keying P) (retireAfter : Time) : Keying P :=
  { k with update := { k.update with
      keyPhase := !k.update.keyPhase
      keyUpdateCount := k.update.keyUpdateCount + 1
      keyUpdateCooldown := some retireAfter } }

/-- An update of the peer. -/
def follow (k : Keying P) (retireAfter : Time) : Keying P :=
  let k := (k.rotate retireAfter).count retireAfter
  { k with update := { k.update with keyUpdateReceived := true } }

/-- An update of our own. -/
def initiate (k : Keying P) (retireAfter : Time) : Keying P :=
  ({ k with update := { k.update with keyUpdatePending := false } }.rotate retireAfter).count
    retireAfter

/-- A packet is sealed. -/
def settle (k : Keying P) : Keying P :=
  { k with update := { k.update with keyUpdateReceived := false } }

/-- What happens within an epoch. -/
inductive Within (k : Keying P) : Keying P → Prop where
  | read (bytes : Bytes) : Within k { k with tls := (P.readHs k.tls bytes).1 }
  | write : (∀ keys next, (P.writeHs k.tls).2.2 ≠ some (.oneRtt keys next)) →
      Within k { k with tls := (P.writeHs k.tls).1 }
  | install {keys : Keys P.PacketKey P.HeaderKey} {next : P.Secrets} :
      (P.writeHs k.tls).2.2 = some (.oneRtt keys next) → Within k (k.install keys next)
  | ask : k.ready = true →
      Within k { k with update := { k.update with keyUpdatePending := true } }
  | settle : Within k k.settle

theorem Within.kept {k k' : Keying P} (h : k.Within k') :
    k'.update.keyUpdateCount = k.update.keyUpdateCount ∧
    k'.update.keyUpdateCooldown = k.update.keyUpdateCooldown := by
  cases h <;> exact ⟨rfl, rfl⟩

/-- A connection without 1-RTT keys. -/
structure Bare (k : Keying P) : Prop where
  keys : k.keys = none
  next : k.update.nextOneRttKeys = none
  prev : k.update.prevOneRttKeys = none
  pending : k.update.keyUpdatePending = false
  count : k.update.keyUpdateCount = 0
  phase : k.update.keyPhase = false

/-- The keys are those of the epoch that is counted. -/
structure Holds (k : Keying P) (epochs : Nat → PacketKeySet P.PacketKey) : Prop where
  keys : ∃ keys, k.keys = some keys ∧
    (⟨keys.sending.packet, keys.receiving.packet⟩ : PacketKeySet P.PacketKey)
      = epochs k.update.keyUpdateCount
  next : k.update.nextOneRttKeys = some (epochs (k.update.keyUpdateCount + 1))
  prev : k.update.prevOneRttKeys.map (·.1) =
    match k.update.keyUpdateCount with
    | 0 => none
    | epoch + 1 => some (epochs epoch).receiving
  phase : k.update.keyPhase = decide (k.update.keyUpdateCount % 2 = 1)

/-- Where TLS stands, and what the connection has of it. -/
structure Sound (k : Keying P) (s : P.Session) (epochs : Nat → PacketKeySet P.PacketKey) : Prop where
  later : P.Later s k.tls
  bare : k.ready = false → k.Bare
  held : k.ready = true → k.Holds epochs
  secrets : k.ready = true → ∃ next, k.update.oneRttSecrets
      = some (P.secretsAt next (k.update.keyUpdateCount + 1)) ∧
    ∀ n, (P.nextPacketKeys (P.secretsAt next n)).1 = epochs (n + 1)
  spent : k.ready = true → ∀ {s' keys next}, P.Later k.tls s' →
    (P.writeHs s').2.2 ≠ some (.oneRtt keys next)

section Sound

variable {k k' : Keying P} {s : P.Session} {epochs : Nat → PacketKeySet P.PacketKey}

theorem Sound.ready_of_pending (h : k.Sound s epochs)
    (hpending : k.update.keyUpdatePending = true) : k.ready = true := by
  cases hready : k.ready with
  | true => rfl
  | false => rw [(h.bare hready).pending] at hpending; cases hpending

variable {keys : Keys P.PacketKey P.HeaderKey}

theorem Sound.ready_of_keys (h : k.Sound s epochs)
    (hkeys : k.keys = some keys) : k.ready = true := by
  cases hready : k.ready with
  | true => rfl
  | false => rw [(h.bare hready).keys] at hkeys; cases hkeys

theorem Sound.of_tls (h : k.Sound s epochs) {tls : P.Session} (hlater : P.Later s tls)
    (hnext : P.Later k.tls tls) : ({ k with tls := tls } : Keying P).Sound s epochs where
  later := hlater
  bare hready := ⟨(h.bare hready).keys, (h.bare hready).next, (h.bare hready).prev,
    (h.bare hready).pending, (h.bare hready).count, (h.bare hready).phase⟩
  held hready := ⟨(h.held hready).keys, (h.held hready).next, (h.held hready).prev,
    (h.held hready).phase⟩
  secrets := h.secrets
  spent hready _ _ _ hmore := h.spent hready (hnext.trans hmore)

theorem Sound.of_update (h : k.Sound s epochs) {update : KeyUpdate P}
    (hsecrets : update.oneRttSecrets = k.update.oneRttSecrets)
    (hnext : update.nextOneRttKeys = k.update.nextOneRttKeys)
    (hprev : update.prevOneRttKeys = k.update.prevOneRttKeys)
    (hcount : update.keyUpdateCount = k.update.keyUpdateCount)
    (hphase : update.keyPhase = k.update.keyPhase)
    (hpending : update.keyUpdatePending = true → k.ready = true) :
    ({ k with update := update } : Keying P).Sound s epochs where
  later := h.later
  bare hready := by
    have hbare := h.bare hready
    refine ⟨hbare.keys, hnext.trans hbare.next, hprev.trans hbare.prev, ?_,
      hcount.trans hbare.count, hphase.trans hbare.phase⟩
    cases hasked : update.keyUpdatePending with
    | false => rfl
    | true => exact absurd (hpending hasked) (by rw [hready]; exact Bool.false_ne_true)
  held hready := by
    have hheld := h.held hready
    refine ⟨?_, ?_, ?_, ?_⟩
    · simpa only [hcount] using hheld.keys
    · simpa only [hcount, hnext] using hheld.next
    · simpa only [hcount, hprev] using hheld.prev
    · simpa only [hcount, hphase] using hheld.phase
  secrets hready := by simpa only [hcount, hsecrets] using h.secrets hready
  spent := h.spent

theorem Sound.install (htls : P.HandsOut s epochs) (h : k.Sound s epochs) {next : P.Secrets}
    (hkeys : (P.writeHs k.tls).2.2 = some (.oneRtt keys next)) :
    (k.install keys next).Sound s epochs := by
  cases hready : k.ready with
  | true => exact absurd hkeys (h.spent hready .refl)
  | false =>
    have hbare := h.bare hready
    refine ⟨h.later.write, (by cases ·), fun _ => ⟨⟨keys, rfl, ?_⟩, ?_, ?_, ?_⟩,
      fun _ => ⟨next, ?_, htls.later h.later hkeys⟩, fun _ _ _ _ hmore =>
        htls.once h.later hkeys hmore⟩
    · simp only [Keying.install, hbare.count]
      exact (htls.first h.later hkeys).symm
    · simp only [Keying.install, hbare.count]
      exact congrArg some (htls.later h.later hkeys 0)
    · simp only [Keying.install, hbare.count, hbare.prev]
      rfl
    · simp only [Keying.install, hbare.count, hbare.phase]
      rfl
    · simp only [Keying.install, hbare.count]
      rfl

theorem Sound.within (htls : P.HandsOut s epochs) (h : k.Sound s epochs) (hstep : k.Within k') :
    k'.Sound s epochs := by
  cases hstep with
  | read bytes => exact h.of_tls (h.later.read bytes) (.read bytes .refl)
  | write => exact h.of_tls h.later.write (.write .refl)
  | install hkeys => exact h.install htls hkeys
  | ask hready => exact h.of_update rfl rfl rfl rfl rfl fun _ => hready
  | settle => exact h.of_update rfl rfl rfl rfl rfl h.ready_of_pending

theorem Sound.advance (h : k.Sound s epochs) (hready : k.ready = true) (retireAfter : Time) :
    ((k.rotate retireAfter).count retireAfter).Sound s epochs := by
  obtain ⟨keys, hkeys, hcurrent⟩ := (h.held hready).keys
  obtain ⟨next, hsecrets, hchain⟩ := h.secrets hready
  have hnext := (h.held hready).next
  have hphase := (h.held hready).phase
  have hready' : ((k.rotate retireAfter).count retireAfter).ready = true := by
    simp only [rotate, count, hsecrets, hnext]
    exact hready
  refine ⟨?_, fun hbare => ?_, fun _ => ⟨?_, ?_, ?_, ?_⟩, fun _ => ⟨next, ?_, hchain⟩, fun _ => ?_⟩
  · simp only [rotate, count, hsecrets, hnext]
    exact h.later
  · rw [hready'] at hbare
    cases hbare
  · simp only [rotate, count, hsecrets, hnext, hkeys, Option.map_some]
    exact ⟨_, rfl, rfl⟩
  · simp only [rotate, count, hsecrets, hnext]
    exact congrArg some (hchain _)
  · simp only [rotate, count, hsecrets, hnext, hkeys, Option.map_some]
    rw [← hcurrent]
  · simp only [rotate, count, hsecrets, hnext, hphase]
    rw [← decide_not]
    exact decide_eq_decide.mpr (by omega)
  · simp only [rotate, count, hsecrets, hnext]
    rfl
  · simp only [rotate, count, hsecrets, hnext]
    exact h.spent hready

theorem Sound.initiate (h : k.Sound s epochs) (hpending : k.update.keyUpdatePending = true)
    (retireAfter : Time) : (k.initiate retireAfter).Sound s epochs := by
  have hcleared : ({ k with update := { k.update with keyUpdatePending := false } } :
      Keying P).Sound s epochs := h.of_update rfl rfl rfl rfl rfl (by cases ·)
  exact hcleared.advance (h.ready_of_pending hpending) retireAfter

theorem Sound.follow (h : k.Sound s epochs) (hready : k.ready = true) (retireAfter : Time) :
    (k.follow retireAfter).Sound s epochs := by
  have hadvanced := h.advance hready retireAfter
  exact hadvanced.of_update rfl rfl rfl rfl rfl hadvanced.ready_of_pending

end Sound

end Keying

/-! ## The keys of a connection -/

namespace Connection

def keying (c : Connection P) : Keying P :=
  ⟨c.tls, c.hs.oneRttReady, c.spaces.application.keys, c.keyUpdate⟩

variable {c : Connection P}

theorem keying_of_receiver (h : d.receiver = c.receiver) : d.keying = c.keying := by
  have hview : ∀ e : Connection P, e.keying = e.receiver.keying := fun _ => rfl
  rw [hview d, hview c, h]

theorem keying_of_core (h : d.core = c.core) : d.keying = c.keying := by
  have hview : ∀ e : Connection P, e.keying =
      ⟨e.core.tls, e.core.oneRttReady, e.core.spaces.application.keys, e.core.keyUpdate⟩ :=
    fun _ => rfl
  rw [hview d, hview c, h]

/-- What an update can do to the keys. -/
inductive Rekeys (c d : Connection P) : Op → Prop where
  | same {op : Op} : d.keying = c.keying → Rekeys c d op
  | within {op : Op} : c.keying.Within d.keying → Rekeys c d op
  | initiate (now : Time) (out : Bytes) (retireAfter : Time) :
      c.keyUpdate.keyUpdatePending = true → d.keying = (c.keying.initiate retireAfter).settle →
      Rekeys c d (.pollTransmit now out)
  | follow (now : Time) (datagram : Bytes) (retireAfter : Time) : c.OpensNext datagram →
      d.keying = c.keying.follow retireAfter → Rekeys c d (.handleDatagram now datagram)

/-- An update that does not ask for new keys. -/
def Unasked (c d : Connection P) (op : Op) : Prop :=
  Rekeys c d op ∧ (d.keyUpdate.keyUpdatePending = true → c.keyUpdate.keyUpdatePending = true)

theorem Unasked.same (h : d.keying = c.keying) : Unasked c d op :=
  ⟨.same h, ((congrArg (·.update.keyUpdatePending) h).symm.trans ·)⟩

variable (c : Connection P) (now : Time)

theorem rotateKeys_keying (retireAfter : Time) :
    (c.rotateKeys retireAfter).keying = c.keying.rotate retireAfter := by
  cases hsecrets : c.keyUpdate.oneRttSecrets with
  | none => simp [rotateKeys, keying, Keying.rotate, hsecrets]
  | some secrets =>
    cases hnext : c.keyUpdate.nextOneRttKeys with
    | none => simp [rotateKeys, keying, Keying.rotate, hsecrets, hnext]
    | some next =>
      cases hkeys : c.spaces.application.keys with
      | none | some =>
        simp [rotateKeys, keying, Keying.rotate, PacketSpace.rotateToNextEpoch, hsecrets,
          hnext, hkeys]

theorem performKeyUpdate_keying :
    (c.performKeyUpdate now).keying =
      c.keying.follow (now + c.recovery.rtt.ptoBase c.recovery.peerMaxAckDelay * 3) := by
  rw [Keying.follow, ← rotateKeys_keying]
  rfl

theorem initiateKeyUpdateNow_keying :
    (c.initiateKeyUpdateNow now).keying =
      c.keying.initiate (now + c.recovery.rtt.ptoBase c.recovery.peerMaxAckDelay * 3) := by
  have hcleared : ∀ c : Connection P,
      ({ c with keyUpdate := { c.keyUpdate with keyUpdatePending := false } } : Connection P).keying
        = { c.keying with update := { c.keying.update with keyUpdatePending := false } } :=
    fun _ => rfl
  rw [Keying.initiate, ← hcleared c, ← rotateKeys_keying]
  rfl

theorem pumpOnce_keying : c.keying.Within c.pumpOnce.keying ∧
    c.pumpOnce.keying.update.keyUpdatePending = c.keying.update.keyUpdatePending := by
  refine pumpOnce_cases (I := fun d => c.keying.Within d.keying ∧
    d.keying.update.keyUpdatePending = c.keying.update.keyUpdatePending) ?_
  intro _ _ _ _ _ _
  refine ⟨fun hnone => ?_, fun _ _ hsome => ⟨.install (k := c.keying) hsome, rfl⟩⟩
  have hwrite : c.keying.Within { c.keying with tls := (P.writeHs c.tls).1 } := .write hnone
  exact ⟨⟨hwrite, rfl⟩, fun _ => ⟨hwrite, rfl⟩⟩

theorem beforeSeal_rekeys (out : Bytes) (h : d.keying = (c.beforeSeal .application now).keying) :
    Unasked c d (.pollTransmit now out) := by
  have hsettled : ∀ e : Connection P,
      ({ e with keyUpdate := { e.keyUpdate with keyUpdateReceived := false } } :
        Connection P).keying = e.keying.settle := fun _ => rfl
  simp only [beforeSeal, if_true] at h
  by_cases hpending : c.keyUpdate.keyUpdatePending = true
  · rw [if_pos hpending, hsettled, initiateKeyUpdateNow_keying] at h
    exact ⟨.initiate now out _ hpending h, fun _ => hpending⟩
  · rw [if_neg hpending, hsettled] at h
    exact ⟨.within (h ▸ .settle), ((congrArg (·.update.keyUpdatePending) h).symm.trans ·)⟩

theorem takeFrame_rekeys (packetType : PacketType) (frame : Frame) :
    Unasked c (c.takeFrame now packetType frame).1 op := by
  cases hcore : Frame.isCore frame with
  | false => exact .same (keying_of_core (takeFrame_core c now packetType hcore))
  | true =>
    cases frame with
    | ack largest delay firstRange ranges =>
      have hacked := keying_of_receiver (processAck_receiver
        (c.log (.received packetType (.ack largest delay firstRange ranges))) now packetType
        largest delay firstRange ranges)
      exact .same hacked
    | crypto offset data =>
      have htaken : ∀ c : Connection P,
          (c.takeCrypto packetType offset data).1.keying = c.keying := by
        intro c
        cases packetType <;> rfl
      simp only [takeFrame, handleFrame, recvCrypto]
      split
      · exact .same (htaken _)
      rename_i bytes _
      refine ⟨.within ?_, ?_⟩
      · have hread : ∀ d : Connection P, (d.readHs bytes).1.keying
            = { d.keying with tls := (P.readHs d.keying.tls bytes).1 } := fun _ => rfl
        rw [hread, htaken]
        exact .read (k := c.keying) bytes
      · cases packetType <;> exact id
    | _ => cases hcore

theorem initiateKeyUpdate_rekeys : Rekeys c (c.initiateKeyUpdate now).1 op := by
  have hasked : ∀ cooling : Bool, Rekeys c
      (if cooling || !c.hs.oneRttReady || c.keyUpdate.nextOneRttKeys.isNone then (c, false)
        else ({ c with keyUpdate := { c.keyUpdate with keyUpdatePending := true } }, true)).1 op := by
    intro cooling
    split
    · exact .same rfl
    rename_i hask
    simp only [Bool.or_eq_true, Bool.not_eq_true', not_or, Bool.not_eq_false] at hask
    exact .within (.ask (k := c.keying) hask.1.2)
  exact hasked _

theorem Update.unasked {c : Connection P} (h : Update op c d) :
    Unasked c d op ∨ ∃ now, op = .initiateKeyUpdate now ∧ d = (c.initiateKeyUpdate now).1 := by
  by_cases hask : ∃ now, op = .initiateKeyUpdate now ∧ d = (c.initiateKeyUpdate now).1
  · exact .inr hask
  left
  cases h.receives with
  | same hsame => exact .same (keying_of_receiver hsame)
  | hear now datagram packetType frame _ hheard =>
    have hkeying := keying_of_receiver hheard
    exact .same hkeying
  | rekey now out hsealed => exact beforeSeal_rekeys c now out (keying_of_receiver hsealed)
  | call hsimple hcall =>
    subst hcall
    exact .same (keying_of_core (step_core c hsimple fun now hop => hask ⟨now, hop, hop ▸ rfl⟩))
  | pump hpump =>
    subst hpump
    exact ⟨.within (pumpOnce_keying c).1, ((pumpOnce_keying c).2.symm.trans ·)⟩
  | refresh hrefresh =>
    exact .same (hrefresh ▸ keying_of_core (refreshHandshakeComplete_core c))
  | earlyKeys hearly => exact .same (hearly ▸ keying_of_core (tryInstallZeroRttKeys_core c))
  | retry now datagram offset hretry =>
    refine .same ?_
    rw [hretry, recvRetryPacket]
    split <;> rfl
  | adopt now datagram parsed hadopt =>
    refine .same ?_
    rw [hadopt, adoptPeerCid]
    split <;> rfl
  | follow now datagram hopens hfollow =>
    subst hfollow
    have hkeying := performKeyUpdate_keying c now
    refine ⟨.follow now datagram _ hopens hkeying, ?_⟩
    exact ((congrArg (·.update.keyUpdatePending) hkeying).trans
      (Keying.rotate_update c.keying _).1).symm.trans
  | packet now datagram hpacket => exact .same (hpacket ▸ rfl)
  | frame now datagram packetType frame _ hframe =>
    exact hframe ▸ takeFrame_rekeys c now packetType frame
  | note now datagram space pn ackEliciting hnote =>
    refine .same ?_
    rw [hnote]
    cases space <;> rfl
  | advance now out hadvance =>
    exact .same (hadvance ▸ keying_of_core (advanceRecvFlow_core c))

theorem Update.rekeys {c : Connection P} (h : Update op c d) : Rekeys c d op := by
  rcases h.unasked with hkeys | ⟨now, rfl, rfl⟩
  · exact hkeys.1
  · exact initiateKeyUpdate_rekeys c now

variable {epochs : Nat → PacketKeySet P.PacketKey}

theorem Updates.keying_sound {s : P.Session}
    (htls : P.HandsOut s epochs) {c : Connection P} (h : c.keying.Sound s epochs)
    (hd : Updates op c d) : d.keying.Sound s epochs := by
  refine hd.invariant (I := fun c => c.keying.Sound s epochs) ?_ h
  intro c d h hupdate
  cases hupdate.rekeys with
  | same hsame => exact hsame ▸ h
  | within hwithin => exact h.within htls hwithin
  | initiate now out retireAfter hpending hkeying =>
    rw [hkeying]
    exact (h.initiate hpending retireAfter).within htls .settle
  | follow now datagram retireAfter hopens hkeying =>
    obtain ⟨_, _, _, _, _, _, hkeys, _⟩ := hopens
    obtain ⟨keys, hsome, _⟩ := Option.map_eq_some_iff.mp hkeys
    rw [hkeying]
    exact h.follow (h.ready_of_keys hsome) retireAfter

theorem Fresh.keying_start {c : Connection P} (hfresh : c.Fresh)
    (epochs : Nat → PacketKeySet P.PacketKey) : c.keying.Sound c.tls epochs := by
  have hbare : c.keying.ready = false ∧ c.keying.Bare := by
    cases hfresh <;> exact ⟨rfl, rfl, rfl, rfl, rfl, rfl, rfl⟩
  have hnever : ∀ {p : Prop}, c.keying.ready = true → p := fun hready => by
    rw [hbare.1] at hready
    cases hready
  exact ⟨.refl, fun _ => hbare.2, hnever, hnever, hnever⟩

theorem Fresh.keying_sound {c : Connection P} (hfresh : c.Fresh)
    (htls : P.HandsOut c.tls epochs) {ops : List Op} (hd : Updates op (c.run ops) d) :
    d.keying.Sound c.tls epochs := by
  have hrun : (c.run ops).keying.Sound c.tls epochs :=
    run_invariant (I := fun d : Connection P => d.keying.Sound c.tls epochs)
      (fun d op h => Updates.keying_sound htls h (step_updates d op)) ops
      (hfresh.keying_start epochs)
  exact hd.keying_sound htls hrun

end Connection

/-- At each point of a run at which 1-RTT keys are there, the connection holds the keys of the
epoch it counts, those of the next, and the receiving key of the one before; the key phase is the
parity of the epoch. -/
theorem key_epoch_state {c d : Connection P} (hfresh : c.Fresh)
    {epochs : Nat → PacketKeySet P.PacketKey} (htls : P.HandsOut c.tls epochs) {ops : List Op}
    {op : Op} (hd : Connection.Updates op (c.run ops) d) (hready : d.hs.oneRttReady = true) :
    d.keying.Holds epochs := (hfresh.keying_sound htls hd).held hready

/-- A client connects and updates its keys. -/
def Plain.rekeys : List Op :=
  joins (client []) ++ [.pollTransmit 2 [], .initiateKeyUpdate 3, .pollTransmit 4 []]

/-- It then follows an update of the server. -/
def Plain.updates : List Op :=
  rekeys ++ [.handleDatagram 5 (shortPacket (client []) 2 0 [.ping])]

theorem key_epoch_state_updated :
    ((Plain.client []).run Plain.updates).keyUpdate.keyUpdateCount = 2 ∧
    ((Plain.client []).run Plain.updates).keying.Holds (Plain.packetKeySet .client) := by
  have hd : Connection.Updates .pollReadable ((Plain.client []).run Plain.updates)
      ((Plain.client []).run Plain.updates) := .refl _
  exact ⟨by decide +kernel,
    key_epoch_state (Plain.client_fresh []) (Plain.handsOut _) hd (by decide +kernel)⟩

/-! ## Which packets open -/

namespace Connection

/-- A packet of the peer that was sealed in an epoch and carries the key phase of that epoch.  Of
the keys the connection has derived, it opens under that of its own epoch alone. -/
def SealedIn (c : Connection P) (epochs : Nat → PacketKeySet P.PacketKey) (epoch : Nat)
    (datagram : Bytes) (offset : Nat) : Prop :=
  ∃ keys stripped, c.spaces.application.remoteKeys = some keys ∧
    stripShortHeaderProtection P datagram offset localCidLen keys.header
      = .ok (stripped, decide (epoch % 2 = 1)) ∧
    ∀ e ≤ c.keyUpdate.keyUpdateCount + 1,
      (decryptShortPacketBody P stripped offset localCidLen
        c.spaces.application.largestReceived (epochs e).receiving).isOk = decide (e = epoch)

section SealedIn

variable {c : Connection P} {epochs : Nat → PacketKeySet P.PacketKey} {epoch : Nat}
  {datagram stripped : Bytes} {offset : Nat}

theorem openCurrentPhase_isSome (hheld : c.keying.Holds epochs) (now : Time)
    {keys : DirectionalKeys P.PacketKey P.HeaderKey}
    (hkeys : c.spaces.application.remoteKeys = some keys)
    (hopens : ∀ e ≤ c.keyUpdate.keyUpdateCount + 1,
      (decryptShortPacketBody P stripped offset localCidLen
        c.spaces.application.largestReceived (epochs e).receiving).isOk = decide (e = epoch))
    (hphase : epoch % 2 = c.keyUpdate.keyUpdateCount % 2) :
    (c.openCurrentPhase now stripped offset keys.packet).isSome
      = decide (epoch = c.keyUpdate.keyUpdateCount) := by
  obtain ⟨all, hall, hcurrent⟩ := hheld.keys
  have hpacket : keys.packet = (epochs c.keyUpdate.keyUpdateCount).receiving := by
    have hreceiving : keys = all.receiving := by
      have hmap : c.spaces.application.remoteKeys = some all.receiving := by
        rw [PacketSpace.remoteKeys, show c.spaces.application.keys = some all from hall]
        rfl
      exact Option.some.inj (hkeys.symm.trans hmap)
    rw [hreceiving]
    exact congrArg PacketKeySet.receiving hcurrent
  have hown := hopens c.keyUpdate.keyUpdateCount (Nat.le_succ _)
  simp only [openCurrentPhase, hpacket]
  split
  · rename_i parsed hparsed
    rw [hparsed] at hown
    exact hown.trans (decide_eq_decide.mpr eq_comm)
  rename_i e hfailed
  have hother : epoch ≠ c.keyUpdate.keyUpdateCount := by
    rw [hfailed] at hown
    exact fun heq => absurd hown.symm (by simp [heq, Except.isOk, Except.toBool])
  rw [decide_eq_false hother]
  split
  · rename_i prevKey retireAfter hprev
    split
    · -- the epoch before has the other parity
      have hheldPrev := hheld.prev
      rw [show c.keying.update.prevOneRttKeys = some (prevKey, retireAfter) from hprev]
        at hheldPrev
      cases hcount : c.keyUpdate.keyUpdateCount with
      | zero =>
        rw [show c.keying.update.keyUpdateCount = 0 from hcount] at hheldPrev
        cases hheldPrev
      | succ before =>
        rw [show c.keying.update.keyUpdateCount = before + 1 from hcount] at hheldPrev
        have hbefore := hopens before (by omega)
        rw [decide_eq_false (by omega)] at hbefore
        rw [show prevKey = (epochs before).receiving from Option.some.inj hheldPrev]
        cases hresult : decryptShortPacketBody P stripped offset localCidLen
            c.spaces.application.largestReceived (epochs before).receiving with
        | error e => rfl
        | ok parsed => rw [hresult] at hbefore; cases hbefore
    · rfl
  · rfl

/-- A connection opens the packets of its own epoch and of the next, and no others. -/
theorem openShort_isSome_iff (hheld : c.keying.Holds epochs) (now : Time)
    (hsealed : c.SealedIn epochs epoch datagram offset) :
    (c.openShort now datagram offset).isSome = true ↔
      epoch = c.keyUpdate.keyUpdateCount ∨ epoch = c.keyUpdate.keyUpdateCount + 1 := by
  obtain ⟨keys, stripped, hkeys, hstrip, hopens⟩ := hsealed
  have hphase : c.keyUpdate.keyPhase = decide (c.keyUpdate.keyUpdateCount % 2 = 1) := hheld.phase
  simp only [openShort, hkeys, hstrip, hphase, decide_eq_decide]
  by_cases hparity : epoch % 2 = 1 ↔ c.keyUpdate.keyUpdateCount % 2 = 1
  · rw [if_pos hparity, Option.isSome_map,
      openCurrentPhase_isSome hheld now hkeys hopens (by omega), decide_eq_true_eq]
    omega
  have hnext : c.keyUpdate.nextOneRttKeys = some (epochs (c.keyUpdate.keyUpdateCount + 1)) :=
    hheld.next
  have hopened := hopens (c.keyUpdate.keyUpdateCount + 1) (Nat.le_refl _)
  rw [if_neg hparity, hnext]
  simp only
  split
  · rename_i e hfailed
    rw [hfailed] at hopened
    have hother : c.keyUpdate.keyUpdateCount + 1 ≠ epoch := of_decide_eq_false hopened.symm
    simp only [Option.isSome_none, Bool.false_eq_true, false_iff]
    omega
  rename_i parsed hparsed
  rw [hparsed] at hopened
  have hsame : c.keyUpdate.keyUpdateCount + 1 = epoch := of_decide_eq_true hopened.symm
  simp only [Option.isSome_some, true_iff]
  omega

end SealedIn

end Connection

/-- At each point of a run, a packet of the peer opens exactly if it was sealed in the epoch the
connection is in or in the next; one that was sealed in an epoch before leaves the connection as it
is, whenever it arrives. -/
theorem opens_iff_epoch {c d : Connection P} (hfresh : c.Fresh)
    {epochs : Nat → PacketKeySet P.PacketKey} (htls : P.HandsOut c.tls epochs) {ops : List Op}
    {op : Op} (hd : Connection.Updates op (c.run ops) d) {epoch offset : Nat} {datagram : Bytes}
    (hsealed : d.SealedIn epochs epoch datagram offset) (now : Time) :
    ((d.openShort now datagram offset).isSome = true ↔
      epoch = d.keyUpdate.keyUpdateCount ∨ epoch = d.keyUpdate.keyUpdateCount + 1) ∧
    (epoch < d.keyUpdate.keyUpdateCount → (d.recvShortPacket now datagram offset).1 = d) := by
  have hsound := hfresh.keying_sound htls hd
  have hready : d.keying.ready = true := by
    obtain ⟨_, _, hkeys, _⟩ := hsealed
    obtain ⟨keys, hsome, _⟩ := Option.map_eq_some_iff.mp hkeys
    exact hsound.ready_of_keys hsome
  have hiff := Connection.openShort_isSome_iff (hsound.held hready) now hsealed
  refine ⟨hiff, fun hbefore => ?_⟩
  have hclosed : d.openShort now datagram offset = none := by
    cases hopen : d.openShort now datagram offset with
    | none => rfl
    | some p =>
      rw [hopen] at hiff
      have := hiff.mp rfl
      omega
  have hrecv := Connection.recvShortPacket_eq d now datagram offset
  rwa [hclosed] at hrecv

namespace Plain

/-- A client connects and the server updates its keys. -/
def follows : List Op :=
  joins (client []) ++ [.pollTransmit 2 [], .handleDatagram 3 (shortPacket (client []) 1 1 [.ping])]

theorem rekeys_sealedIn : ((client []).run rekeys).SealedIn (packetKeySet .client) 1
    (shortPacket (client []) 1 0 [.ping]) 0 := by
  have hkeys : ((client []).run rekeys).spaces.application.remoteKeys.isSome = true := by
    decide +kernel
  obtain ⟨keys, hsome⟩ := Option.isSome_iff_exists.mp hkeys
  exact ⟨keys, _, hsome, by rfl, by decide +kernel⟩

end Plain

theorem opens_iff_epoch_rekeys :
    (((Plain.client []).run Plain.rekeys).openShort 5
      (Plain.shortPacket (Plain.client []) 1 0 [.ping]) 0).isSome = true := by
  have hd : Connection.Updates .pollReadable ((Plain.client []).run Plain.rekeys)
      ((Plain.client []).run Plain.rekeys) := .refl _
  exact (opens_iff_epoch (Plain.client_fresh []) (Plain.handsOut _) hd Plain.rekeys_sealedIn
    5).1.mpr (.inl (by decide +kernel))

/-- A packet of epoch 0 opens before a key update.  After an update, the client's own or the
server's, the key it opens under is kept and its time has not run out, but the packet is dropped. -/
theorem reordered_packet_dropped :
    let joined := (Plain.client []).run (Plain.joins (Plain.client []) ++ [.pollTransmit 2 []])
    let packet := Plain.shortPacket (Plain.client []) 0 0 [.ping]
    (joined.openShort 5 packet 0).isSome = true ∧
    ∀ ops ∈ [Plain.rekeys, Plain.follows],
      ((Plain.client []).run ops).keyUpdate.keyUpdateCount = 1 ∧
      ((Plain.client []).run ops).keyUpdate.prevOneRttKeys.map (·.1)
        = joined.spaces.application.remoteKeys.map (·.packet) ∧
      ((Plain.client []).run ops).keyUpdate.prevOneRttKeys.any (fun prev => decide (5 ≤ prev.2))
        = true ∧
      (((Plain.client []).run ops).openShort 5 packet 0).isSome = false ∧
      (((Plain.client []).run ops).handleDatagram 5 packet).1.spaces.application.received
        = ((Plain.client []).run ops).spaces.application.received := by
  decide +kernel

end OxiQuic
