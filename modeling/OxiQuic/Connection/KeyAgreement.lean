import OxiQuic.Connection.Inert
import OxiQuic.Connection.KeyEpoch

/-!
# Key updates of two endpoints

Two connections over a network that loses, delays, repeats and reorders what they send.  Each of
them follows an update of the other when a packet of the next epoch arrives, and starts one of its
own when the application asks for it and some time has passed since the last one, whether or not
the other side has followed.

The two stay within one epoch of each other exactly if no side carries out an update while the
other is behind (`key_epochs_within_one`).  As long as they do, each holds the key for what the
other seals.
-/

namespace OxiQuic

open Lib Plain

variable {P : Platform} {c d : Connection P}

def Role.other : Role → Role
  | .client => .server
  | .server => .client

def Op.isPoll : Op → Bool
  | .pollTransmit _ _ => true
  | _ => false

/-- A packet at some offset of a datagram opens under a packet key. -/
def OpensUnder (P : Platform) (datagram : Bytes) (key : P.PacketKey) : Prop :=
  ∃ offset header stripped phase largest parsed,
    stripShortHeaderProtection P datagram offset localCidLen header = .ok (stripped, phase) ∧
      decryptShortPacketBody P stripped offset localCidLen largest key = .ok parsed

namespace Connection

/-- The number of key updates so far. -/
def epoch (c : Connection P) : Nat := c.keyUpdate.keyUpdateCount

/-! ## How a call changes the epoch -/

theorem epoch_of_keying (h : d.keying = c.keying) : d.epoch = c.epoch :=
  congrArg (fun k : Keying P => k.update.keyUpdateCount) h

theorem epoch_of_within (h : c.keying.Within d.keying) : d.epoch = c.epoch := h.kept.1

theorem epoch_of_follow {retireAfter : Time}
    (h : d.keying = c.keying.follow retireAfter) : d.epoch = c.epoch + 1 :=
  (congrArg (·.update.keyUpdateCount) h).trans
    (congrArg (· + 1) (c.keying.rotate_update retireAfter).2)

theorem Updates.epoch_eq {op : Op} (hd : Updates op c d)
    (hpoll : ∀ now out, op ≠ .pollTransmit now out)
    (hrecv : ∀ now datagram, op ≠ .handleDatagram now datagram) : d.epoch = c.epoch := by
  refine hd.invariant (I := fun d => d.epoch = c.epoch) ?_ rfl
  intro c' d' h hupdate
  cases hupdate.rekeys with
  | same hsame => exact (epoch_of_keying hsame).trans h
  | within hwithin => exact (epoch_of_within hwithin).trans h
  | initiate now out => exact absurd rfl (hpoll now out)
  | follow now datagram => exact absurd rfl (hrecv now datagram)

/-- A request for a key update waits. -/
def asking (c : Connection P) : Bool := c.keyUpdate.keyUpdatePending

/-- What calls other than `initiate_key_update` do to a request, to the epoch and to the
cooldown. -/
structure Paced (op : Op) (c d : Connection P) : Prop where
  asked : d.asking = true → c.asking = true
  epoch : c.epoch ≤ d.epoch
  cooldown : d.epoch = c.epoch → d.keyUpdate.keyUpdateCooldown = c.keyUpdate.keyUpdateCooldown
  spent : ∀ now out, op = .pollTransmit now out →
    d.epoch + d.asking.toNat ≤ c.epoch + c.asking.toNat

variable {e : Connection P} {op : Op}

theorem Paced.trans (h : Paced op c d) (h' : Paced op d e) : Paced op c e where
  asked := h.asked ∘ h'.asked
  epoch := h.epoch.trans h'.epoch
  cooldown hsame := by
    have hde : e.epoch = d.epoch := Nat.le_antisymm (hsame ▸ h.epoch) h'.epoch
    exact (h'.cooldown hde).trans (h.cooldown (hde.symm.trans hsame))
  spent now out hop := (h'.spent now out hop).trans (h.spent now out hop)

theorem Paced.of_within (h : c.keying.Within d.keying) (hasked : d.asking = true → c.asking = true) :
    Paced op c d := by
  have hepoch := epoch_of_within h
  refine ⟨hasked, hepoch.ge, fun _ => h.kept.2, fun _ _ _ => ?_⟩
  have hle := Bool.toNat_le_toNat hasked
  omega

theorem Unasked.paced (h : Unasked c d op) : Paced op c d := by
  obtain ⟨hkeys, hasked⟩ := h
  cases hkeys with
  | same hsame =>
    have hupdate : d.keyUpdate = c.keyUpdate := congrArg (·.update) hsame
    have hepoch := epoch_of_keying hsame
    refine ⟨hasked, hepoch.ge, fun _ => hupdate ▸ rfl, fun _ _ _ => ?_⟩
    rw [hepoch, asking, hupdate, asking]
  | within hwithin => exact .of_within hwithin hasked
  | initiate now out retireAfter hpending hkeying =>
    have hepoch : d.epoch = c.epoch + 1 := (congrArg (·.update.keyUpdateCount) hkeying).trans
      (congrArg (· + 1) (Keying.rotate_update _ _).2)
    have hcleared : d.asking = false :=
      (congrArg (·.update.keyUpdatePending) hkeying).trans (Keying.rotate_update _ _).1
    refine ⟨hasked, by omega, fun hsame => by omega, fun _ _ _ => ?_⟩
    rw [hepoch, hcleared, asking, hpending]
    exact Nat.le_refl _
  | follow now datagram retireAfter hopens hkeying =>
    have hepoch := epoch_of_follow hkeying
    exact ⟨hasked, by omega, fun hsame => by omega, fun _ _ hop => by cases hop⟩

theorem step_paced (c : Connection P) (op : Op) (hop : ∀ now, op ≠ .initiateKeyUpdate now) :
    Paced op c (c.step op) := by
  refine (step_updates c op).invariant (I := Paced op c) ?_ (Unasked.same rfl).paced
  intro d e h hupdate
  rcases hupdate.unasked with hunasked | ⟨now, rfl, _⟩
  · exact h.trans hunasked.paced
  · exact absurd rfl (hop now)

theorem pollTransmit_epoch (c : Connection P) (now : Time) (out : Bytes) :
    (c.pollTransmit now out).1.epoch = c.epoch ∨
      (c.pollTransmit now out).1.epoch = c.epoch + 1 := by
  have hpaced := c.step_paced (.pollTransmit now out) fun _ hop => by cases hop
  have hle := hpaced.epoch
  have hspent := hpaced.spent now out rfl
  have hone := Bool.toNat_le c.asking
  simp only [step] at hle hspent
  omega

/-- A datagram that was sealed in epoch `n`, and opens under no other key the connection can come
to have, takes the connection at most to epoch `n`. -/
theorem handleDatagram_epoch {s : P.Session}
    {epochs : Nat → PacketKeySet P.PacketKey} (htls : P.HandsOut s epochs)
    (h : c.keying.Sound s epochs) (now : Time) {datagram : Bytes} {n : Nat}
    (hopens : ∀ e ≤ c.epoch + 2, OpensUnder P datagram (epochs e).receiving → e = n) :
    (c.handleDatagram now datagram).1.epoch = c.epoch ∨
      (c.handleDatagram now datagram).1.epoch = c.epoch + 1 ∧ n = c.epoch + 1 := by
  refine ((handleDatagram_updates now datagram c).invariant (I := fun d => d.keying.Sound s epochs ∧
      (d.epoch = c.epoch ∨ d.epoch = c.epoch + 1 ∧ n = c.epoch + 1)) ?_ ⟨h, .inl rfl⟩).2
  intro d d' hd hupdate
  refine ⟨Updates.keying_sound htls hd.1 (.single hupdate), ?_⟩
  cases hupdate.rekeys with
  | same hsame => rw [epoch_of_keying hsame]; exact hd.2
  | within hwithin => rw [epoch_of_within hwithin]; exact hd.2
  | follow _ _ retireAfter hnext hkeying =>
    obtain ⟨offset, keys, stripped, phase, nextKeys, parsed, hkeys, hstrip, _, hsome, hparsed⟩ :=
      hnext
    obtain ⟨all, hall, _⟩ := Option.map_eq_some_iff.mp hkeys
    have hheld := hd.1.held (hd.1.ready_of_keys hall)
    have hnextKeys : nextKeys = epochs (d.epoch + 1) :=
      Option.some.inj (hsome.symm.trans hheld.next)
    have hn : d.epoch + 1 = n := by
      refine hopens _ ?_ ⟨offset, keys.header, stripped, phase, _, parsed, hstrip,
        hnextKeys ▸ hparsed⟩
      rcases hd.2 with hsame | ⟨hsame, _⟩ <;> omega
    rw [epoch_of_follow hkeying]
    omega

end Connection

/-! ## Two endpoints -/

/-- An endpoint and the datagrams it sent, each with the epoch its keys were of. -/
structure Party (P : Platform) where
  conn : Connection P
  sent : List (Bytes × Nat) := []

namespace Party

def step (p : Party P) (op : Op) : Party P where
  conn := p.conn.step op
  sent := match op with
    | .pollTransmit now out =>
      let polled := p.conn.pollTransmit now out
      if polled.2.2.isSome then (polled.2.1.drop out.length, polled.1.epoch) :: p.sent else p.sent
    | _ => p.sent

/-- Nothing was sent in an epoch that is still to come. -/
def Dated (p : Party P) : Prop := ∀ e ∈ p.sent, e.2 ≤ p.conn.epoch

theorem Dated.step {p : Party P} (h : p.Dated) {op : Op}
    (hgrows : p.conn.epoch ≤ (p.step op).conn.epoch) : (p.step op).Dated := by
  have hold : ∀ e ∈ p.sent, e.2 ≤ (p.step op).conn.epoch := fun e he =>
    Nat.le_trans (h e he) hgrows
  cases op with
  | pollTransmit now out =>
    intro e he
    simp only [Party.step] at he
    split at he
    · rcases List.mem_cons.mp he with rfl | he
      · exact Nat.le_refl _
      · exact hold e he
    · exact hold e he
  | _ => exact hold

end Party

/-- A client and a server. -/
structure Peers (P : Platform) where
  client : Party P
  server : Party P

namespace Peers

def get (p : Peers P) : Role → Party P
  | .client => p.client
  | .server => p.server

/-- One side does something. -/
def step (p : Peers P) (e : Role × Op) : Peers P :=
  match e.1 with
  | .client => { p with client := p.client.step e.2 }
  | .server => { p with server := p.server.step e.2 }

/-- What arrives was sent by the other side, in some epoch, and opens under the packet key of no
other epoch. -/
def Delivers (epochs : Role → Nat → PacketKeySet P.PacketKey) (p : Peers P) (e : Role × Op) : Prop :=
  ∀ now datagram, e.2 = .handleDatagram now datagram →
    ∃ n, (datagram, n) ∈ (p.get e.1.other).sent ∧
      ∀ k ≤ (p.get e.1).conn.epoch + 2, OpensUnder P datagram (epochs e.1 k).receiving → k = n

/-- An update of a side's own, which comes with a packet it sends, is carried out only if the other
side is not behind. -/
def CaughtUp (p : Peers P) (e : Role × Op) : Prop :=
  e.2.isPoll = true → (p.get e.1).conn.epoch < ((p.get e.1).step e.2).conn.epoch →
    (p.get e.1).conn.epoch ≤ (p.get e.1.other).conn.epoch

instance (p : Peers P) (e : Role × Op) : Decidable (p.CaughtUp e) :=
  inferInstanceAs (Decidable (_ → _ → _))

/-- The sides are at most one epoch apart. -/
def WithinOne (p : Peers P) : Prop :=
  p.client.conn.epoch ≤ p.server.conn.epoch + 1 ∧ p.server.conn.epoch ≤ p.client.conn.epoch + 1

/-- What holds of both sides in every run. -/
structure Sound (tls : Role → P.Session) (epochs : Role → Nat → PacketKeySet P.PacketKey)
    (p : Peers P) : Prop where
  keying : ∀ role, (p.get role).conn.keying.Sound (tls role) (epochs role)
  dated : ∀ role, (p.get role).Dated

section Runs

variable {tls : Role → P.Session} {epochs : Role → Nat → PacketKeySet P.PacketKey} {p : Peers P}
  {e : Role × Op}

theorem withinOne_iff (p : Peers P) (role : Role) : p.WithinOne ↔
    (p.get role).conn.epoch ≤ (p.get role.other).conn.epoch + 1 ∧
      (p.get role.other).conn.epoch ≤ (p.get role).conn.epoch + 1 := by
  cases role with
  | client => exact Iff.rfl
  | server => exact and_comm

theorem get_step_self (p : Peers P) (e : Role × Op) :
    (p.step e).get e.1 = (p.get e.1).step e.2 := by
  obtain ⟨role, op⟩ := e
  cases role <;> rfl

theorem get_step_other (p : Peers P) (e : Role × Op) :
    (p.step e).get e.1.other = p.get e.1.other := by
  obtain ⟨role, op⟩ := e
  cases role <;> rfl

theorem forall_role {q : Role → Prop} (role : Role) (hself : q role) (hother : q role.other) :
    ∀ r, q r := by
  intro r
  cases role <;> cases r <;> first | exact hself | exact hother

/-- One step takes a side at most one epoch further.  An update that follows is one the other side
has carried out. -/
theorem Sound.epoch_step (htls : ∀ role, P.HandsOut (tls role) (epochs role))
    (h : p.Sound tls epochs) (hdelivers : p.Delivers epochs e) :
    ((p.get e.1).step e.2).conn.epoch = (p.get e.1).conn.epoch ∨
      ((p.get e.1).step e.2).conn.epoch = (p.get e.1).conn.epoch + 1 ∧
        (e.2.isPoll = true ∨ (p.get e.1).conn.epoch < (p.get e.1.other).conn.epoch) := by
  obtain ⟨role, op⟩ := e
  by_cases hpoll : ∃ now out, op = .pollTransmit now out
  · obtain ⟨now, out, rfl⟩ := hpoll
    rcases (p.get role).conn.pollTransmit_epoch now out with hsame | hnext
    · exact .inl hsame
    · exact .inr ⟨hnext, .inl rfl⟩
  by_cases hrecv : ∃ now datagram, op = .handleDatagram now datagram
  · obtain ⟨now, datagram, rfl⟩ := hrecv
    obtain ⟨n, hsent, hopens⟩ := hdelivers now datagram rfl
    rcases Connection.handleDatagram_epoch (htls role) (h.keying role) now hopens with
      hsame | ⟨hnext, hn⟩
    · exact .inl hsame
    · have hdated := h.dated role.other _ hsent
      exact .inr ⟨hnext, .inr (by simp only at hdated ⊢; omega)⟩
  · exact .inl ((Connection.step_updates _ op).epoch_eq
      (fun now out hop => hpoll ⟨now, out, hop⟩) fun now datagram hop => hrecv ⟨now, datagram, hop⟩)

theorem Sound.step (htls : ∀ role, P.HandsOut (tls role) (epochs role)) (h : p.Sound tls epochs)
    (hdelivers : p.Delivers epochs e) : (p.step e).Sound tls epochs where
  keying := by
    refine forall_role e.1 ?_ ?_
    · rw [get_step_self]
      exact Connection.Updates.keying_sound (htls e.1) (h.keying e.1)
        (Connection.step_updates _ e.2)
    · rw [get_step_other]
      exact h.keying e.1.other
  dated := by
    refine forall_role e.1 ?_ ?_
    · rw [get_step_self]
      refine (h.dated e.1).step ?_
      rcases h.epoch_step htls hdelivers with hsame | ⟨hnext, _⟩ <;> omega
    · rw [get_step_other]
      exact h.dated e.1.other

/-- From within one epoch, a step leads further apart exactly if it is an update that the other side
is not ready for. -/
theorem Sound.withinOne_step (htls : ∀ role, P.HandsOut (tls role) (epochs role))
    (h : p.Sound tls epochs) (hdelivers : p.Delivers epochs e) (hwithin : p.WithinOne) :
    (p.step e).WithinOne ↔ p.CaughtUp e := by
  rw [withinOne_iff _ e.1, get_step_self, get_step_other]
  rw [withinOne_iff _ e.1] at hwithin
  rcases h.epoch_step htls hdelivers with hsame | ⟨hnext, hwhy⟩
  · rw [hsame]
    refine iff_of_true hwithin fun _ hgrows => ?_
    rw [hsame] at hgrows
    exact absurd hgrows (Nat.lt_irrefl _)
  rw [hnext]
  rcases hwhy with hpoll | hbehind
  · have hcaught : p.CaughtUp e ↔ (p.get e.1).conn.epoch ≤ (p.get e.1.other).conn.epoch := by
      constructor
      · exact fun hcaught => hcaught hpoll (by rw [hnext]; exact Nat.lt_succ_self _)
      · exact fun hle _ _ => hle
    rw [hcaught]
    omega
  · exact iff_of_true (by omega) fun _ _ => by omega

theorem Sound.holds_key (hmatch : ∀ role k, (epochs role k).sending = (epochs role.other k).receiving)
    (h : p.Sound tls epochs) (hwithin : p.WithinOne) (role : Role)
    {keys : DirectionalKeys P.PacketKey P.HeaderKey}
    (hkeys : (p.get role).conn.spaces.application.localKeys = some keys)
    (hready : (p.get role.other).conn.hs.oneRttReady = true) :
    keys.packet ∈ (p.get role.other).conn.oneRttPacketKeys := by
  obtain ⟨all, hall, rfl⟩ := Option.map_eq_some_iff.mp hkeys
  have hown := (h.keying role).held ((h.keying role).ready_of_keys hall)
  have hpeer := (h.keying role.other).held hready
  obtain ⟨all', hall', hcurrent⟩ := hown.keys
  cases Option.some.inj (hall.symm.trans hall')
  have hkey : all.sending.packet = (epochs role.other (p.get role).conn.epoch).receiving :=
    (congrArg PacketKeySet.sending hcurrent).trans (hmatch role _)
  obtain ⟨peerKeys, hpeerKeys, hpeerCurrent⟩ := hpeer.keys
  have hremote : (p.get role.other).conn.spaces.application.remoteKeys
      = some peerKeys.receiving := by
    rw [PacketSpace.remoteKeys, show (p.get role.other).conn.spaces.application.keys
      = some peerKeys from hpeerKeys]
    rfl
  have hnext : (p.get role.other).conn.keyUpdate.nextOneRttKeys
      = some (epochs role.other ((p.get role.other).conn.epoch + 1)) := hpeer.next
  have hpeerKey : peerKeys.receiving.packet
      = (epochs role.other (p.get role.other).conn.epoch).receiving :=
    congrArg PacketKeySet.receiving hpeerCurrent
  rw [withinOne_iff _ role] at hwithin
  simp only [Connection.oneRttPacketKeys, hremote, hnext, hkey, List.mem_append,
    Option.mem_toList, Option.map_some, Option.some.injEq, hpeerKey]
  rcases Nat.lt_trichotomy (p.get role).conn.epoch (p.get role.other).conn.epoch with
    hless | hsame | hmore
  · have hbefore : (p.get role.other).conn.epoch = (p.get role).conn.epoch + 1 := by omega
    have hcount : (p.get role.other).conn.keying.update.keyUpdateCount
        = (p.get role).conn.epoch + 1 := hbefore
    have hprev := hpeer.prev
    rw [hcount] at hprev
    exact .inl (.inr hprev)
  · exact .inl (.inl (by rw [hsame]))
  · have hafter : (p.get role).conn.epoch = (p.get role.other).conn.epoch + 1 := by omega
    exact .inr (by rw [hafter])

end Runs

end Peers

/-- Over a network that delivers what was sent, with AEAD that opens a packet under the key of its
epoch alone and TLS that gives both sides the same keys, the two sides stay within one epoch of
each other exactly if no side carries out an update of its own while the other is behind.  In such a
run each side can open, with its previous, present or next key, what the other seals. -/
theorem key_epochs_within_one {p : Peers P} (hclient : p.client.conn.Fresh)
    (hserver : p.server.conn.Fresh) (hunsent : p.client.sent = [] ∧ p.server.sent = [])
    {epochs : Role → Nat → PacketKeySet P.PacketKey}
    (htls : ∀ role, P.HandsOut (p.get role).conn.tls (epochs role))
    (hmatch : ∀ role k, (epochs role k).sending = (epochs role.other k).receiving)
    {events : List (Role × Op)} (hdelivers : Along Peers.step (Peers.Delivers epochs) p events) :
    (Along Peers.step (fun q e => (q.step e).WithinOne) p events ↔
      Along Peers.step Peers.CaughtUp p events) ∧
    (Along Peers.step Peers.CaughtUp p events → ∀ role keys,
      ((run Peers.step p events).get role).conn.spaces.application.localKeys = some keys →
      ((run Peers.step p events).get role.other).conn.hs.oneRttReady = true →
      keys.packet ∈ ((run Peers.step p events).get role.other).conn.oneRttPacketKeys) := by
  have hfresh : ∀ role, (p.get role).conn.Fresh
    | .client => hclient
    | .server => hserver
  have hsound : p.Sound (fun role => (p.get role).conn.tls) epochs := by
    refine ⟨fun role => (hfresh role).keying_start _, fun role e he => ?_⟩
    have hnothing : (p.get role).sent = [] := by
      cases role with
      | client => exact hunsent.1
      | server => exact hunsent.2
    rw [hnothing] at he
    cases he
  have hstart : p.WithinOne := by
    have hzero : ∀ role, (p.get role).conn.epoch = 0 := by
      intro role
      have hnew := hfresh role
      generalize (p.get role).conn = c at hnew ⊢
      cases hnew <;> rfl
    rw [Peers.withinOne_iff _ .client, hzero, hzero]
    omega
  refine ⟨Along.stays_iff (fun q e h hd _ _ => h.step htls hd)
    (fun q e h hd hw => h.withinOne_step htls hd hw) hsound hstart hdelivers,
    fun hcaught role keys hkeys hready => ?_⟩
  have hboth : Along Peers.step (fun q e => q.Delivers epochs e ∧ q.CaughtUp e) p events :=
    hdelivers.and hcaught
  obtain ⟨hlast, hwithin⟩ := hboth.invariant
    (I := fun q => q.Sound (fun role => (p.get role).conn.tls) epochs ∧ q.WithinOne)
    (fun q e _ hq hc => ⟨hq.1.step htls hc.1, (hq.1.withinOne_step htls hc.1 hq.2).mpr hc.2⟩)
    ⟨hsound, hstart⟩
  exact hlast.holds_key hmatch hwithin role hkeys hready

namespace Plain

theorem trailer_of_opensUnder {datagram : Bytes} {key : PlainKey}
    (h : OpensUnder Plain datagram key) : trailer datagram = tag key := by
  obtain ⟨offset, header, stripped, phase, largest, parsed, hstrip, hparsed⟩ := h
  have hkept := (trailer_of_strip unmasksInPlace hstrip).1
  simp only [decryptShortPacketBody] at hparsed
  split at hparsed
  · cases hparsed
  split at hparsed
  · cases hparsed
  simp only [openPacket] at hparsed
  generalize offset + 1 + localCidLen
    + (((stripped.getD offset 0) &&& 0x03).toNat + 1) = start at hparsed
  have hbody : (stripped.take stripped.length).drop start = stripped.drop start := by
    rw [List.take_length]
  rw [hbody] at hparsed
  split at hparsed
  · cases hparsed
  rename_i plaintext hdecrypt
  simp only [Plain, packetDecrypt] at hdecrypt
  split at hdecrypt
  · rename_i htag
    have hlength := congrArg List.length htag
    rw [tag_length, List.length_drop, List.length_drop] at hlength
    rw [← hkept, ← htag, trailer, List.drop_drop, List.length_drop]
    congr 1
    omega
  · cases hdecrypt

/-- Whether a datagram that arrives was sent, and tells its epoch by the tag at its end. -/
def delivers (p : Peers Plain) (e : Role × Op) : Bool :=
  match e.2 with
  | .handleDatagram _ datagram => (p.get e.1.other).sent.any fun entry =>
    entry.1 == datagram && decide (∀ k ≤ (p.get e.1).conn.epoch + 2,
      trailer datagram = tag (packetKeySet e.1 k).receiving → k = entry.2)
  | _ => true

theorem delivers_sound {p : Peers Plain} {e : Role × Op} (h : delivers p e = true) :
    p.Delivers packetKeySet e := by
  intro now datagram hop
  simp only [delivers, hop, List.any_eq_true, Bool.and_eq_true, beq_iff_eq, decide_eq_true_eq] at h
  obtain ⟨entry, hsent, hdatagram, htag⟩ := h
  exact ⟨entry.2, hdatagram ▸ hsent, fun k hk hopens => htag k hk (trailer_of_opensUnder hopens)⟩

def peers : Peers Plain := ⟨{ conn := client [] }, { conn := server (client []) [] }⟩

/-- Both sides have 1-RTT keys, and the client updates them. -/
def agree : List (Role × Op) :=
  [(.client, .pollTransmit 0 []), (.server, .handleDatagram 0 ((client []).pollTransmit 0 []).2.1),
    (.server, .pollTransmit 0 []), (.client, .handleDatagram 1 (answer (client []) []).2),
    (.client, .pollTransmit 2 []), (.client, .initiateKeyUpdate 3), (.client, .pollTransmit 4 [])]

/-- The client's packet in the new epoch. -/
def renewal : Bytes := ((client []).run (rekeys.take 4)).pollTransmit 4 [] |>.2.1

/-- The client updates its keys once more, though its packet in the new epoch was lost. -/
def diverge : List (Role × Op) :=
  agree ++ [(.client, .initiateKeyUpdate (millis 10000)), (.client, .pollTransmit (millis 10000) [])]

end Plain

theorem key_epochs_within_one_renewal :
    (run Peers.step peers (agree ++ [(.server, .handleDatagram 5 renewal)])).server.conn.epoch = 1 ∧
    Along Peers.step (fun q e => (q.step e).WithinOne) peers
      (agree ++ [(.server, .handleDatagram 5 renewal)]) := by
  have hdelivers : Along Peers.step (fun q e => delivers q e = true) peers
      (agree ++ [(.server, .handleDatagram 5 renewal)]) := by decide +kernel
  exact ⟨by decide +kernel, (key_epochs_within_one (client_fresh []) (server_fresh _ _ _)
    ⟨rfl, rfl⟩ (fun role => by cases role <;> exact handsOut _) (fun role _ => by cases role <;> rfl)
    (hdelivers.imp fun _ _ => delivers_sound)).1.mpr (by decide +kernel)⟩

/-- The client is two epochs ahead, in the key phase of the server, which has no key for what the
client seals and drops it. -/
theorem key_epochs_diverge :
    let q := run Peers.step peers diverge
    Along Peers.step (fun q e => delivers q e = true) peers diverge ∧
    q.client.conn.epoch = 2 ∧ q.server.conn.epoch = 0 ∧
    q.client.conn.keyUpdate.keyPhase = q.server.conn.keyUpdate.keyPhase ∧
    q.client.conn.spaces.application.localKeys.any
      (fun keys => decide (keys.packet ∉ q.server.conn.oneRttPacketKeys)) = true ∧
    q.client.sent.head?.any (fun packet =>
      decide ((q.server.conn.handleDatagram (millis 10000) packet.1).1.spaces.application.received
        = q.server.conn.spaces.application.received)) = true := by
  decide +kernel

end OxiQuic
