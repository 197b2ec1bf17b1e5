import OxiQuic.Connection.Lifecycle
import OxiQuic.Connection.StatelessReset

/-!
# Datagrams that do not authenticate

A datagram whose first packet no installed key opens leaves a connection with a completed
handshake as it is, but for the counters of what arrived, the idle and keep-alive timers, which
are armed before the datagram is looked at, and a stateless reset that is taken from the
placeholder in the pool of the peer's connection IDs.
-/

namespace OxiQuic

open Plain

variable {P : Platform} (c : Connection P) (now : Time)

/-- Arming the timers at this time moves none of them. -/
def Timers.Armed (t : Timers) (now : Time) : Prop :=
  (∀ timeout, t.idleTimeout = some timeout → t.idleDeadline = some (now + timeout)) ∧
    ∀ interval, t.keepAliveInterval = some interval → t.nextKeepAlive = some (now + interval)

theorem Timers.armIdleTimer_eq_iff (t : Timers) (now : Time) :
    t.armIdleTimer now = t ↔ t.Armed now := by
  obtain ⟨idleTimeout, idleDeadline, keepAliveInterval, nextKeepAlive, pendingKeepAlivePing⟩ := t
  cases idleTimeout with
  | none =>
    cases keepAliveInterval with
    | none => simp [Timers.armIdleTimer, Timers.Armed]
    | some interval => simp [Timers.armIdleTimer, Timers.Armed, eq_comm]
  | some timeout =>
    cases keepAliveInterval with
    | none | some => simp [Timers.armIdleTimer, Timers.Armed, eq_comm]

/-- A datagram that starts with a short header and is long enough for a stateless reset. -/
def IsResetSized (datagram : Bytes) : Prop :=
  21 ≤ datagram.length ∧ ∃ first, datagram[0]? = some first ∧ first ≠ 0 ∧ first &&& 0x80 = 0

namespace Connection

/-! ## Authentication -/

/-- A long packet opens under a pair of keys. -/
def opensLong (c : Connection P) (space : SpaceKind)
    (keys : Option (DirectionalKeys P.PacketKey P.HeaderKey)) (datagram : Bytes) (offset : Nat) :
    Bool :=
  match keys with
  | none => false
  | some keys =>
    (parseLongPacket P datagram offset quicV1 (c.spaces.get space).largestReceived
      keys.packet keys.header).isOk

/-- The keys for 1-RTT packets: of this epoch, of the one before and of the next. -/
def oneRttPacketKeys (c : Connection P) : List P.PacketKey :=
  (c.spaces.application.remoteKeys.map (·.packet)).toList ++
    (c.keyUpdate.prevOneRttKeys.map (·.1)).toList ++
    (c.keyUpdate.nextOneRttKeys.map (·.receiving)).toList

/-- A short packet opens under one of these keys. -/
def opensShort (c : Connection P) (datagram : Bytes) (offset : Nat) : Bool :=
  match c.spaces.application.remoteKeys with
  | none => false
  | some keys =>
    match stripShortHeaderProtection P datagram offset localCidLen keys.header with
    | .error _ => false
    | .ok (stripped, _) => c.oneRttPacketKeys.any fun key =>
      (decryptShortPacketBody P stripped offset localCidLen
        c.spaces.application.largestReceived key).isOk

/-- An installed key opens the packet at an offset. -/
def authenticates (c : Connection P) (datagram : Bytes) (offset : Nat) : Bool :=
  c.opensLong .initial c.spaces.initial.remoteKeys datagram offset ||
    c.opensLong .handshake c.spaces.handshake.remoteKeys datagram offset ||
    c.opensLong .application c.zeroRtt.keys datagram offset ||
    c.opensShort datagram offset

/-- Count a datagram that arrived. -/
def countDatagram (c : Connection P) (datagram : Bytes) : Connection P :=
  { c with stats := { c.stats with
      packetsRecv := c.stats.packetsRecv + 1
      bytesRecv := c.stats.bytesRecv + datagram.length } }

/-- The pool has the placeholder of the peer's first connection ID. -/
def HoldsPlaceholder (c : Connection P) : Prop :=
  ∃ issued ∈ c.cids.peerCidPool.active, issued.seq = 0 ∧ issued.statelessResetToken = placeholder

/-! ## Packets that do not open -/

theorem recvHandshakePacket_of_closed (space : SpaceKind) (datagram : Bytes) (offset : Nat)
    (h : c.opensLong space (c.spaces.get space).remoteKeys datagram offset = false) :
    c.recvHandshakePacket now space datagram offset = (c, .ok none) := by
  simp only [recvHandshakePacket]
  split
  · rfl
  rename_i keys hkeys
  split
  · rfl
  · rename_i parsed hparsed
    simp [opensLong, hkeys, hparsed, Except.isOk, Except.toBool] at h

variable (datagram : Bytes) (offset : Nat)

theorem recvZeroRttPacket_of_closed (h : c.role = .client ∨
      c.opensLong .application c.zeroRtt.keys datagram offset = false) :
    c.recvZeroRttPacket now datagram offset = (c, .ok none) := by
  simp only [recvZeroRttPacket]
  split
  · rfl
  rename_i hserver
  split
  · rfl
  rename_i keys hkeys
  split
  · rfl
  rename_i parsed hparsed
  have hparsed' : parseLongPacket P datagram offset quicV1
    (c.spaces.get .application).largestReceived keys.packet keys.header = .ok parsed := hparsed
  rcases h with hclient | hclosed
  · simp [hclient] at hserver
  · simp [opensLong, hkeys, hparsed', Except.isOk, Except.toBool] at hclosed

theorem recvLongPacket_of_closed
    (hpast : c.state ≠ .handshaking) (h : c.authenticates datagram offset = false) :
    c.recvLongPacket now datagram offset = (c, .ok none) := by
  simp only [authenticates, Bool.or_eq_false_iff] at h
  obtain ⟨⟨⟨hinitial, hhandshake⟩, hearly⟩, _⟩ := h
  simp only [recvLongPacket]
  split
  · rfl
  · simp [hpast]
  · simp [recvRetryPacket, acceptableRetry, hpast]
  · exact recvZeroRttPacket_of_closed c now datagram offset (.inr hearly)
  · exact recvHandshakePacket_of_closed c now .initial datagram offset hinitial
  · exact recvHandshakePacket_of_closed c now .handshake datagram offset hhandshake
  · rfl

theorem checkStatelessReset_congr {datagram datagram' : Bytes}
    (htrailer : trailer datagram' = trailer datagram)
    (hlength : datagram'.length = datagram.length) :
    c.checkStatelessReset datagram' offset = c.checkStatelessReset datagram offset := by
  simp only [trailer, hlength] at htrailer
  simp only [checkStatelessReset, htrailer, hlength]

theorem openCurrentPhase_of_closed {stripped : Bytes} {offset : Nat}
    {keys : DirectionalKeys P.PacketKey P.HeaderKey}
    (hkeys : c.spaces.application.remoteKeys = some keys)
    (h : ∀ key ∈ c.oneRttPacketKeys, (decryptShortPacketBody P stripped offset localCidLen
      c.spaces.application.largestReceived key).isOk = false) :
    c.openCurrentPhase now stripped offset keys.packet = none := by
  have hclosed : ∀ key ∈ c.oneRttPacketKeys, ∃ e, decryptShortPacketBody P stripped offset
      localCidLen c.spaces.application.largestReceived key = .error e := by
    intro key hkey
    have hfails := h key hkey
    cases hbody : decryptShortPacketBody P stripped offset localCidLen
        c.spaces.application.largestReceived key with
    | error e => exact ⟨e, rfl⟩
    | ok parsed =>
      rw [hbody] at hfails
      cases hfails
  obtain ⟨e, hcurrent⟩ := hclosed keys.packet (by simp [oneRttPacketKeys, hkeys])
  simp only [openCurrentPhase, hcurrent]
  split
  · rename_i prevKey retireAfter hprev
    obtain ⟨e', hbefore⟩ := hclosed prevKey (by simp [oneRttPacketKeys, hprev])
    split
    · rw [hbefore]
      rfl
    · rfl
  · rfl

theorem recvShortPacket_of_closed (hmask : P.UnmasksInPlace) (c : Connection P) (now : Time)
    (datagram : Bytes) (offset : Nat) (h : c.authenticates datagram offset = false) :
    c.recvShortPacket now datagram offset = c.checkStatelessReset datagram offset := by
  have hshort : c.opensShort datagram offset = false := (Bool.or_eq_false_iff.mp h).2
  simp only [recvShortPacket]
  split
  · rfl
  rename_i keys hkeys
  split
  · rfl
  rename_i stripped phase hstrip
  obtain ⟨htrailer, hlength⟩ := trailer_of_strip hmask hstrip
  have hcheck := c.checkStatelessReset_congr offset htrailer hlength
  have hclosed : ∀ key ∈ c.oneRttPacketKeys, (decryptShortPacketBody P stripped offset
      localCidLen c.spaces.application.largestReceived key).isOk = false := by
    simpa [opensShort, hkeys, hstrip] using hshort
  split
  · rw [openCurrentPhase_of_closed c now hkeys hclosed]
    exact hcheck
  split
  · exact hcheck
  rename_i nextKeys hnext
  have hfails := hclosed nextKeys.receiving (by simp [oneRttPacketKeys, hnext])
  split
  · exact hcheck
  rename_i parsed hparsed
  rw [hparsed] at hfails
  cases hfails

theorem handleDatagram_of_closed (hmask : P.UnmasksInPlace) (c : Connection P) (now : Time)
    (datagram : Bytes) (hpast : c.state ≠ .handshaking) (h : c.authenticates datagram 0 = false) :
    (c.handleDatagram now datagram).1 = c.arrive now datagram ∧
      ((c.handleDatagram now datagram).2 = .ok () ↔ ¬ (IsResetSized datagram ∧
          c.cids.peerCidPool.matchesStatelessReset (trailer datagram) = true)) := by
  have hlong := recvLongPacket_of_closed (c.arrive now datagram) now datagram 0 hpast h
  have hshort := recvShortPacket_of_closed hmask (c.arrive now datagram) now datagram 0 h
  show (recvPackets now datagram datagram.length 0 (c.arrive now datagram)).1 = _ ∧
    ((recvPackets now datagram datagram.length 0 (c.arrive now datagram)).2 = _ ↔ _)
  cases hlen : datagram.length with
  | zero =>
    refine ⟨rfl, iff_of_true rfl fun hsized => ?_⟩
    have := hsized.1.1
    omega
  | succ n =>
    simp only [recvPackets]
    split
    · rename_i hnone
      rw [List.getElem?_eq_none_iff] at hnone
      omega
    rename_i first hfirst
    split
    · rename_i hzero
      refine ⟨rfl, iff_of_true rfl ?_⟩
      rintro ⟨⟨_, first', hfirst', hne, _⟩, _⟩
      cases hfirst.symm.trans hfirst'
      exact hne hzero
    rename_i hne
    split
    · rename_i hform
      rw [hlong]
      refine ⟨rfl, iff_of_true rfl ?_⟩
      rintro ⟨⟨_, first', hfirst', _, hshortForm⟩, _⟩
      cases hfirst.symm.trans hfirst'
      exact hform hshortForm
    · rename_i hform
      have hform : first &&& 0x80 = 0 := Decidable.not_not.mp hform
      rw [hshort]
      simp only [checkStatelessReset]
      split
      · rename_i hmatch
        refine ⟨rfl, iff_of_false (fun hok => by cases hok) ?_⟩
        rw [Bool.and_eq_true, decide_eq_true_eq] at hmatch
        exact not_not_intro ⟨⟨by omega, first, hfirst, hne, hform⟩, hmatch.2⟩
      rename_i hmatch
      refine ⟨rfl, iff_of_true rfl ?_⟩
      rintro ⟨⟨hsize, _⟩, htoken⟩
      refine hmatch ?_
      rw [Bool.and_eq_true, decide_eq_true_eq]
      exact ⟨by omega, htoken⟩

end Connection

/-- On a connection with a completed handshake, a datagram whose first packet no installed key
opens and that ends in no token which the peer delivered moves at most the timers and the
counters.  It returns without an error and leaves the timers alone exactly if they are armed
for this time already and the datagram does not pass for a reset by the placeholder. -/
theorem unauthenticated_inert (hmask : P.UnmasksInPlace) {c : Connection P} (hfresh : c.Fresh)
    (ops : List Op) (now : Time) (datagram : Bytes)
    (hcomplete : (c.run ops).hs.handshakeComplete = true)
    (hclosed : (c.run ops).authenticates datagram 0 = false)
    (htoken : ∀ issued, Delivered (c.run ops).trace issued →
      issued.statelessResetToken ≠ trailer datagram) :
    ((c.run ops).handleDatagram now datagram).1 = (c.run ops).arrive now datagram ∧
    ((c.run ops).handleDatagram now datagram = ((c.run ops).countDatagram datagram, .ok ()) ↔
      (c.run ops).timers.Armed now ∧ ¬ (IsResetSized datagram ∧ trailer datagram = placeholder ∧
          (c.run ops).HoldsPlaceholder)) := by
  obtain ⟨hstate, hok⟩ := Connection.handleDatagram_of_closed hmask (c.run ops) now datagram
    (hfresh.run_past ops hcomplete) hclosed
  have hannounced := hfresh.run_announced ops
  generalize c.run ops = d at hstate hok hannounced htoken ⊢
  refine ⟨hstate, ?_⟩
  -- in the pool only the placeholder can be what the datagram ends in
  have hmatch : d.cids.peerCidPool.matchesStatelessReset (trailer datagram) = true ↔
      trailer datagram = placeholder ∧ d.HoldsPlaceholder := by
    constructor
    · intro hany
      obtain ⟨issued, hissued, hequal⟩ := List.any_eq_true.mp hany
      have hequal : issued.statelessResetToken = trailer datagram := eq_of_beq hequal
      rcases hannounced issued hissued with ⟨packetType, prior, hmem⟩ | ⟨hseq, hzero⟩
      · exact (htoken issued ⟨packetType, prior, List.mem_of_mem_filter hmem⟩ hequal).elim
      · exact ⟨hequal.symm.trans hzero, issued, hissued, hseq, hzero⟩
    · rintro ⟨htrailer, issued, hissued, _, hzero⟩
      refine List.any_eq_true.mpr ⟨issued, hissued, ?_⟩
      rw [htrailer, hzero]
      exact beq_self_eq_true _
  have htimers : d.arrive now datagram = d.countDatagram datagram ↔ d.timers.Armed now := by
    rw [← Timers.armIdleTimer_eq_iff]
    constructor
    · exact fun heq => congrArg (·.timers) heq
    intro heq
    simp only [Connection.arrive, Connection.armIdleTimer, heq]
    rfl
  rw [Prod.ext_iff, hok, hmatch, hstate, htimers]

theorem unauthenticated_inert_stray :
    ((client []).run announces).handleDatagram 3 (stray (List.replicate 16 5))
      = (((client []).run announces).countDatagram (stray (List.replicate 16 5)), .ok ()) := by
  have hnone : ∀ issued ∈ announcements ((client []).run announces).trace,
      issued.statelessResetToken ≠ trailer (stray (List.replicate 16 5)) := by
    decide +kernel
  have htimeout : ((client []).run announces).timers.idleTimeout = none ∧
      ((client []).run announces).timers.keepAliveInterval = none := by
    decide +kernel
  refine (unauthenticated_inert unmasksInPlace (client_fresh []) announces 3
    (stray (List.replicate 16 5)) (by decide +kernel) (by decide +kernel)
    fun issued h => hnone issued h.mem_announcements).2.mpr ⟨⟨?_, ?_⟩, fun h => ?_⟩
  · rw [htimeout.1]
    exact nofun
  · rw [htimeout.2]
    exact nofun
  · exact absurd h.2.1 (by decide +kernel)

namespace Plain

/-- A client that gives up after a second of silence. -/
def patient : Connection Plain :=
  .newClient (⟨.client, .writeHello, []⟩ : PlainSession) 1 { maxIdleTimeoutMs := 1000 } {} .newReno
    (0 : Nat)

end Plain

/-- A datagram that does not open puts the end of an idle connection off, and one that ends in
zeros ends the connection. -/
theorem unauthenticated_moves :
    (patient.run (joins patient)).hs.handshakeComplete = true ∧
    (patient.run (joins patient)).authenticates (stray (List.replicate 16 5)) 0 = false ∧
    announcements (patient.run (joins patient)).trace = [] ∧
    ((patient.run (joins patient)).handleDatagram 500
        (stray (List.replicate 16 5))).1.timers.idleDeadline ≠
      (patient.run (joins patient)).timers.idleDeadline ∧
    (patient.run (joins patient)).authenticates (stray placeholder) 0 = false ∧
    ((patient.run (joins patient)).handleDatagram 500
        (stray placeholder)).2 = .error .statelessReset := by
  decide +kernel

end OxiQuic
