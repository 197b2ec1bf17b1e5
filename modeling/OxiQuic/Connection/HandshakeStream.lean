import OxiQuic.PlainPlatform
import OxiQuic.Stream.Completeness

/-!
# The handshake byte stream

The bytes TLS writes at one encryption level reach the peer's TLS over a network that may
lose, duplicate and reorder them.  `HandshakeLink` joins a connection, through the functions
that touch its CRYPTO streams, to the CRYPTO stream of its peer at that level.  A client that
follows a Retry sends its hello again from the start, while segments of lost packets from
before the Retry may still be queued again; since both hold bytes of the one hello at their
offsets, what the peer hands to TLS is always a prefix of it (`handshake_stream_safe`).
-/

namespace OxiQuic

open Lib Plain

variable {P : Platform} (c : Connection P) {s : CryptoStream} {T : Bytes}

/-! ## The sending half of a CRYPTO stream -/

/-- The CRYPTO stream holds exactly the bytes of `T` that were not emitted, and its resend
queue holds segments of `T`. -/
structure CryptoStream.Sends (T : Bytes) (s : CryptoStream) : Prop where
  base_le : s.sendBase ≤ T.length
  buf_eq : s.sendBuf = T.drop s.sendBase
  resend : ∀ seg ∈ s.resend, IsSlice T seg.offset seg.data

namespace CryptoStream

theorem Sends.enqueue (h : s.Sends T) (data : Bytes) : (s.enqueueSend data).Sends (T ++ data) where
  base_le := by
    have := h.base_le
    show s.sendBase ≤ (T ++ data).length
    rw [List.length_append]
    omega
  buf_eq := by
    show s.sendBuf ++ data = (T ++ data).drop s.sendBase
    rw [List.drop_append_of_le_length h.base_le, h.buf_eq]
  resend seg hseg := (h.resend seg hseg).append data

variable {seg : CryptoSegment}

theorem Sends.requeue (h : s.Sends T)
    (hseg : IsSlice T seg.offset seg.data) : (s.requeue seg).Sends T where
  base_le := h.base_le
  buf_eq := h.buf_eq
  resend seg' hseg' := by
    rcases List.mem_append.mp hseg' with hseg' | hseg'
    · exact h.resend seg' hseg'
    · rw [List.mem_singleton.mp hseg']
      exact hseg

theorem Sends.take {s' : CryptoStream} {max : Nat}
    (h : s.Sends T) (ht : s.Takes max s' seg) : s'.Sends T ∧ IsSlice T seg.offset seg.data := by
  cases ht with
  | whole hq =>
    have hmem : seg ∈ s.resend := hq ▸ List.mem_cons_self
    refine ⟨⟨h.base_le, h.buf_eq, fun seg' hseg' => ?_⟩, h.resend seg hmem⟩
    exact h.resend seg' (hq ▸ List.mem_cons_of_mem _ hseg')
  | @split front rest hq _ hlt =>
    have hfront := h.resend front (hq ▸ List.mem_cons_self)
    refine ⟨⟨h.base_le, h.buf_eq, fun seg' hseg' => ?_⟩, hfront.take max⟩
    rcases List.mem_cons.mp hseg' with rfl | hseg'
    · exact hfront.drop (Nat.le_of_lt hlt)
    · exact h.resend seg' (hq ▸ List.mem_cons_of_mem _ hseg')
  | @fresh n _ _ hle _ =>
    have hslice : IsSlice T s.sendBase s.sendBuf := h.buf_eq ▸ isSlice_drop h.base_le
    refine ⟨⟨?_, ?_, h.resend⟩, hslice.take n⟩
    · have hlength := hslice.end_le
      show s.sendBase + n ≤ T.length
      omega
    · show s.sendBuf.drop n = T.drop (s.sendBase + n)
      rw [h.buf_eq, List.drop_drop]

theorem Received.append {output : Bytes} (h : s.Received T output)
    (data : Bytes) : s.Received (T ++ data) output where
  consistent := h.consistent.append data
  delivered := by
    have hle : s.recvOffset ≤ T.length := h.consistent.next_le
    rw [h.delivered, List.take_append_of_le_length hle]

end CryptoStream

/-! ## The link -/

/-- The packet number space that carries a level's bytes. -/
def HandshakeLevel.space : HandshakeLevel → SpaceKind
  | .initial => .initial
  | .handshake => .handshake

/-- The CRYPTO stream of a level. -/
def Connection.crypto (c : Connection P) : HandshakeLevel → CryptoStream
  | .initial => c.initialCrypto
  | .handshake => c.handshakeCrypto

/-- A connection and its peer's CRYPTO stream at one level, with the history of the bytes
between them. -/
structure HandshakeLink (P : Platform) where
  conn : Connection P
  peer : CryptoStream := {}
  /-- What TLS has written at the level. -/
  queued : Bytes := []
  emitted : List CryptoSegment := []
  /-- What the peer has handed to its TLS. -/
  output : Bytes := []

namespace HandshakeLink

/-- What can happen on the link of a level. -/
inductive Step (level : HandshakeLevel) : HandshakeLink P → HandshakeLink P → Prop where
  /-- TLS writes bytes, at the level it has come to. -/
  | write (x : HandshakeLink P) (tls : P.Session) (buf : Bytes) :
      Step level x { x with
        conn := { x.conn with tls := tls }.queueHandshakeBytes buf
        queued := if x.conn.hs.writeLevel = level then x.queued ++ buf else x.queued }
  /-- TLS hands out keys. -/
  | keys (x : HandshakeLink P) (change : KeyChange P.PacketKey P.HeaderKey P.Secrets) :
      Step level x { x with conn := x.conn.installKeys change }
  | take (x : HandshakeLink P) {max : Nat} {s : CryptoStream} {seg : CryptoSegment} :
      (x.conn.crypto level).takeSend max = (s, some seg) →
      Step level x { x with
        conn := x.conn.setCryptoStream level.space s
        emitted := seg :: x.emitted }
  /-- A packet with the segment was lost, or is probed for. -/
  | requeue (x : HandshakeLink P) {seg : CryptoSegment} : seg ∈ x.emitted →
      Step level x { x with
        conn := x.conn.requeueFrame level.space (.crypto seg.offset seg.data) }
  /-- The client follows a Retry. -/
  | retry (x : HandshakeLink P) (newDcid retryToken : Bytes) : x.conn.role = .client →
      Step level x { x with conn := x.conn.rekeyInitialForRetry newDcid retryToken }
  /-- A segment arrives, not for the first time perhaps. -/
  | deliver (x : HandshakeLink P) {seg : CryptoSegment} : seg ∈ x.emitted →
      Step level x { x with
        peer := (x.peer.recv seg.offset seg.data).1
        output := x.output ++ (x.peer.recv seg.offset seg.data).2.getD [] }

/-- The states of the link of a level, from a fresh connection on. -/
def Reachable (level : HandshakeLevel) (x : HandshakeLink P) : Prop :=
  ∃ c : Connection P, c.Fresh ∧ Relation.ReflTransGen (Step level) { conn := c } x

/-- Everything on the link is a part of what TLS wrote. -/
structure Sound (level : HandshakeLevel) (x : HandshakeLink P) : Prop where
  sends : (x.conn.crypto level).Sends x.queued
  emitted : ∀ seg ∈ x.emitted, IsSlice x.queued seg.offset seg.data
  peer : x.peer.Received x.queued x.output
  /-- A client remembers what it wrote at the Initial level. -/
  cached : level = .initial → x.conn.role = .client →
    x.conn.retry.cachedInitialHsBytes = x.queued

end HandshakeLink

/-! ## What the connection does to its CRYPTO streams -/

namespace Connection

theorem enqueueSend_nil (s : CryptoStream) : s.enqueueSend [] = s := by
  rw [CryptoStream.enqueueSend, List.append_nil]

/-- Handshake bytes are queued at the level TLS has come to, and a client remembers those of
the Initial level. -/
theorem queueHandshakeBytes_crypto (buf : Bytes) (level : HandshakeLevel) :
    (c.queueHandshakeBytes buf).crypto level
        = (if c.hs.writeLevel = level then (c.crypto level).enqueueSend buf else c.crypto level) ∧
      (c.queueHandshakeBytes buf).role = c.role ∧
      (c.queueHandshakeBytes buf).retry.cachedInitialHsBytes
        = (if c.hs.writeLevel = .initial ∧ c.role = .client
            then c.retry.cachedInitialHsBytes ++ buf else c.retry.cachedInitialHsBytes) := by
  cases hbuf : buf with
  | nil =>
    simp [queueHandshakeBytes, enqueueSend_nil]
  | cons b rest =>
    cases hlevel : c.hs.writeLevel with
    | handshake =>
      cases level <;> simp [queueHandshakeBytes, hlevel, crypto]
    | initial =>
      cases hrole : c.role with
      | server | client =>
        cases level <;> simp [queueHandshakeBytes, tryInstallZeroRttKeys_eq, hlevel, hrole, crypto]

theorem installKeys_crypto
    (change : KeyChange P.PacketKey P.HeaderKey P.Secrets) (level : HandshakeLevel) :
    (c.installKeys change).crypto level = c.crypto level ∧
      (c.installKeys change).role = c.role ∧ (c.installKeys change).retry = c.retry := by
  cases change with
  | handshake keys => cases level <;> exact ⟨rfl, rfl, rfl⟩
  | oneRtt keys next =>
    simp only [installKeys, tryInstallZeroRttKeys_eq]
    split <;> cases level <;> exact ⟨rfl, rfl, rfl⟩

variable (level : HandshakeLevel)

theorem setCryptoStream_crypto (s : CryptoStream) :
    (c.setCryptoStream level.space s).crypto level = s ∧
      (c.setCryptoStream level.space s).role = c.role ∧
      (c.setCryptoStream level.space s).retry = c.retry := by
  cases level <;> exact ⟨rfl, rfl, rfl⟩

theorem requeueFrame_crypto (seg : CryptoSegment) :
    (c.requeueFrame level.space (.crypto seg.offset seg.data)).crypto level
        = (c.crypto level).requeue seg ∧
      (c.requeueFrame level.space (.crypto seg.offset seg.data)).role = c.role ∧
      (c.requeueFrame level.space (.crypto seg.offset seg.data)).retry = c.retry := by
  cases level <;> exact ⟨rfl, rfl, rfl⟩

theorem rekeyInitialForRetry_crypto (newDcid retryToken : Bytes)
    (level : HandshakeLevel) :
    (c.rekeyInitialForRetry newDcid retryToken).crypto level
        = (match level with
          | .initial => .enqueueSend {} c.retry.cachedInitialHsBytes
          | .handshake => c.handshakeCrypto) ∧
      (c.rekeyInitialForRetry newDcid retryToken).role = c.role ∧
      (c.rekeyInitialForRetry newDcid retryToken).retry.cachedInitialHsBytes
        = c.retry.cachedInitialHsBytes := by
  cases level <;> exact ⟨rfl, rfl, rfl⟩

end Connection

namespace HandshakeLink

variable {level : HandshakeLevel}

theorem Step.sound {x y : HandshakeLink P} (h : x.Sound level)
    (hstep : Step level x y) : y.Sound level := by
  cases hstep with
  | write tls buf =>
    obtain ⟨hcrypto, hrole, hcached⟩ :=
      ({ x.conn with tls := tls } : Connection P).queueHandshakeBytes_crypto buf level
    have hsame : ({ x.conn with tls := tls } : Connection P).crypto level = x.conn.crypto level := by
      cases level <;> rfl
    rw [hsame] at hcrypto
    by_cases hlevel : x.conn.hs.writeLevel = level
    · rw [if_pos hlevel] at hcrypto
      simp only [if_pos hlevel]
      refine ⟨?_, fun seg hseg => (h.emitted seg hseg).append buf, h.peer.append buf, ?_⟩
      · rw [hcrypto]
        exact h.sends.enqueue buf
      intro hinitial hclient
      rw [hrole] at hclient
      rw [hcached, if_pos ⟨hlevel.trans hinitial, hclient⟩, h.cached hinitial hclient]
    · rw [if_neg hlevel] at hcrypto
      simp only [if_neg hlevel]
      refine ⟨hcrypto ▸ h.sends, h.emitted, h.peer, ?_⟩
      intro hinitial hclient
      rw [hrole] at hclient
      rw [hcached, if_neg (fun hboth => hlevel (hboth.1.trans hinitial.symm)),
        h.cached hinitial hclient]
  | keys change =>
    obtain ⟨hcrypto, hrole, hretry⟩ := x.conn.installKeys_crypto change level
    refine ⟨hcrypto ▸ h.sends, h.emitted, h.peer, fun hinitial hclient => ?_⟩
    rw [hretry]
    exact h.cached hinitial (hrole ▸ hclient)
  | @take max s seg htake =>
    obtain ⟨hcrypto, hrole, hretry⟩ := x.conn.setCryptoStream_crypto level s
    obtain ⟨hsends, hslice⟩ := h.sends.take (CryptoStream.takeSend_takes htake)
    refine ⟨?_, fun seg' hseg' => ?_, h.peer, fun hinitial hclient => ?_⟩
    · rw [hcrypto]
      exact hsends
    · rcases List.mem_cons.mp hseg' with rfl | hseg'
      · exact hslice
      · exact h.emitted seg' hseg'
    · rw [hretry]
      exact h.cached hinitial (hrole ▸ hclient)
  | @requeue seg hmem =>
    obtain ⟨hcrypto, hrole, hretry⟩ := x.conn.requeueFrame_crypto level seg
    refine ⟨?_, h.emitted, h.peer, fun hinitial hclient => ?_⟩
    · rw [hcrypto]
      exact h.sends.requeue (h.emitted seg hmem)
    · rw [hretry]
      exact h.cached hinitial (hrole ▸ hclient)
  | retry newDcid retryToken hclient =>
    obtain ⟨hcrypto, hrole, hcached⟩ := x.conn.rekeyInitialForRetry_crypto newDcid retryToken level
    refine ⟨?_, h.emitted, h.peer, fun hinitial _ => ?_⟩
    · rw [hcrypto]
      cases level with
      | initial =>
        rw [h.cached rfl hclient]
        exact ⟨Nat.zero_le _, rfl, nofun⟩
      | handshake => exact h.sends
    · rw [hcached]
      exact h.cached hinitial hclient
  | deliver hmem => exact ⟨h.sends, h.emitted, h.peer.recv (h.emitted _ hmem), h.cached⟩

theorem sound_start {c : Connection P} (hfresh : c.Fresh) (level : HandshakeLevel) :
    Sound level { conn := c } := by
  have hcrypto : c.crypto level = {} ∧ c.retry.cachedInitialHsBytes = [] := by
    cases hfresh <;> cases level <;> exact ⟨rfl, rfl⟩
  have hpeer : CryptoStream.Received [] [] {} := ⟨⟨Nat.le_refl 0, nofun⟩, rfl⟩
  refine ⟨?_, nofun, hpeer, fun _ _ => hcrypto.2⟩
  rw [hcrypto.1]
  exact ⟨Nat.le_refl 0, rfl, nofun⟩

theorem Reachable.sound {x : HandshakeLink P} (h : x.Reachable level) : x.Sound level := by
  obtain ⟨c, hfresh, hsteps⟩ := h
  induction hsteps with
  | refl => exact sound_start hfresh level
  | tail _ hstep ih => exact hstep.sound ih

end HandshakeLink

/-- At each level, in every state, each emitted CRYPTO segment holds the bytes of the level at
its offset, what the peer has handed to its TLS is a prefix of them, and if a client follows a
Retry then, all of its Initial bytes are pending again from offset 0. -/
theorem handshake_stream_safe {level : HandshakeLevel} {x : HandshakeLink P}
    (h : x.Reachable level) :
    (∀ seg ∈ x.emitted, IsSlice x.queued seg.offset seg.data) ∧ x.output <+: x.queued ∧
      (level = .initial → x.conn.role = .client → ∀ newDcid retryToken,
        ((x.conn.rekeyInitialForRetry newDcid retryToken).initialCrypto.sendBase = 0 ∧
          (x.conn.rekeyInitialForRetry newDcid retryToken).initialCrypto.sendBuf = x.queued ∧
          (x.conn.rekeyInitialForRetry newDcid retryToken).initialCrypto.resend = [])) := by
  have hsound := h.sound
  refine ⟨hsound.emitted, ?_, fun hinitial hclient newDcid retryToken => ?_⟩
  · rw [hsound.peer.delivered]
    exact List.take_prefix ..
  have hcrypto := (x.conn.rekeyInitialForRetry_crypto newDcid retryToken .initial).1
  change (x.conn.rekeyInitialForRetry newDcid retryToken).initialCrypto = _ at hcrypto
  rw [hcrypto, hsound.cached hinitial hclient]
  exact ⟨rfl, rfl, rfl⟩

/-- A client has written its hello and emitted a part of it. -/
def Plain.helloSent : HandshakeLink Plain :=
  let first := (Plain.client []).queueHandshakeBytes [1, 2, 3]
  { conn := first.setCryptoStream .initial (first.initialCrypto.takeSend 2).1
    queued := [1, 2, 3]
    emitted := [⟨0, [1, 2]⟩] }

/-- It has followed a Retry, the part was lost and queued again, and it arrived after all. -/
def Plain.helloRetried : HandshakeLink Plain :=
  let retried := helloSent.conn.rekeyInitialForRetry [9] [7]
  { helloSent with
    conn := retried.requeueFrame .initial (.crypto 0 [1, 2])
    peer := (({} : CryptoStream).recv 0 [1, 2]).1
    output := [] ++ (({} : CryptoStream).recv 0 [1, 2]).2.getD [] }

theorem Plain.helloRetried_reachable : helloRetried.Reachable .initial := by
  refine ⟨Plain.client [], client_fresh [], ?_⟩
  have hwrite : HandshakeLink.Step .initial { conn := Plain.client [] }
      { conn := (Plain.client []).queueHandshakeBytes [1, 2, 3], queued := [1, 2, 3] } :=
    .write { conn := Plain.client [] } (Plain.client []).tls [1, 2, 3]
  have htake : HandshakeLink.Step .initial
      { conn := (Plain.client []).queueHandshakeBytes [1, 2, 3], queued := [1, 2, 3] } helloSent :=
    @HandshakeLink.Step.take _ _ _ 2 _ _ rfl
  have hsent := (Relation.ReflTransGen.single hwrite).tail htake
  have hretry := hsent.tail (.retry helloSent [9] [7] rfl)
  have hlost := hretry.tail (.requeue _ List.mem_cons_self)
  exact hlost.tail (@HandshakeLink.Step.deliver _ _ _ ⟨0, [1, 2]⟩ List.mem_cons_self)

theorem handshake_stream_safe_helloRetried :
    helloRetried.output = [1, 2] ∧ helloRetried.output <+: helloRetried.queued ∧
      (helloRetried.conn.rekeyInitialForRetry [8] [6]).initialCrypto.sendBuf = [1, 2, 3] :=
  ⟨by decide +kernel, (handshake_stream_safe helloRetried_reachable).2.1,
    ((handshake_stream_safe helloRetried_reachable).2.2 rfl rfl [8] [6]).2.1⟩

end OxiQuic
