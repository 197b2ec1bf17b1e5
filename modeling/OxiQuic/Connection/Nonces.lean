import OxiQuic.Connection.LedgerRecv
import OxiQuic.PlainPlatform

/-!
# Nonces

A packet is sealed under a key and a packet number, and no pair may serve twice.  Each space
counts its numbers up and all keys of the application space, of whatever epoch and 0-RTT
included, share one counter.  The one place where a counter goes back is a Retry: it starts
the Initial space over, with keys derived from the connection ID the Retry names.  So nonces
are unique as long as that is not the ID in use (`nonces_unique`); if it is, the second first
packet is sealed like the first.
-/

namespace OxiQuic

open Plain

variable {P : Platform} {l : Ledger P}

/-- A use of a sealing key. -/
structure Sealing (P : Platform) where
  label : KeyLabel
  key : P.PacketKey
  number : Nat

/-- The level a key belongs to. -/
def KeyLabel.level : KeyLabel → SpaceKind
  | .initial _ => .initial
  | .handshake => .handshake
  | .application => .application

def Event.sealing : Event P → Option (Sealing P)
  | .sealed label key pn => some ⟨label, key, pn⟩
  | _ => none

/-- The uses of sealing keys in a history, newest first. -/
def sealings (trace : List (Event P)) : List (Sealing P) := trace.filterMap Event.sealing

theorem sealings_append_of_none {new : List (Event P)} (h : ∀ e ∈ new, e.sealing = none)
    (trace : List (Event P)) : sealings (new ++ trace) = sealings trace := by
  rw [sealings, List.filterMap_append, List.filterMap_eq_nil_iff.mpr h, List.nil_append]
  rfl

/-- If the event is a Retry, it names another connection ID than the one in use. -/
def Event.RetriesElsewhere : Event P → Prop
  | .retried oldDcid newDcid _ => newDcid ≠ oldDcid
  | _ => True

instance : (e : Event P) → Decidable e.RetriesElsewhere
  | .retried oldDcid newDcid _ => inferInstanceAs (Decidable (newDcid ≠ oldDcid))
  | .sealed .. | .sent .. | .received .. | .acked .. | .lost .. | .opened .. | .wrote ..
  | .replayed .. | .reset .. => isTrue trivial

namespace Ledger

/-- The sealing key of a label is the one derived for it, where the transport derives it. -/
def Derived (role : Role) (s : Sealing P) : Prop :=
  ∀ dcid, s.label = .initial dcid → s.key = (P.initialKeys dcid role).sending.packet

/-- The invariant of sealing. -/
structure Fresh (l : Ledger P) : Prop where
  /-- Under the labels in use, numbers up to the counter are used. -/
  below : ∀ s ∈ sealings l.trace, ∀ kind, s.label = l.label kind → s.number < l.next.get kind
  unique : (sealings l.trace).Pairwise fun s s' => s.label ≠ s'.label ∨ s.number ≠ s'.number
  derived : ∀ s ∈ sealings l.trace, Derived l.role s
  initialKey : l.initialKey = some (P.initialKeys l.dcid l.role).sending.packet
  /-- Before a Retry there is one connection ID. -/
  single : l.retryDone = false → ∀ s ∈ sealings l.trace, ∀ dcid, s.label = .initial dcid →
    dcid = l.dcid

theorem label_injective (l : Ledger P) : Function.Injective l.label := by
  intro kind kind' h
  cases kind <;> cases kind' <;> first | rfl | cases h

theorem Fresh.of_sealings {l' : Ledger P} (h : l.Fresh)
    (hsealings : sealings l'.trace = sealings l.trace) (hnext : l'.next = l.next)
    (hdcid : l'.dcid = l.dcid) (hrole : l'.role = l.role) (hkey : l'.initialKey = l.initialKey)
    (hretry : l'.retryDone = l.retryDone) : l'.Fresh where
  below s hs kind hlabel := by
    rw [hnext]
    refine h.below s (hsealings ▸ hs) kind (hlabel.trans ?_)
    cases kind <;> simp [label, hdcid]
  unique := hsealings ▸ h.unique
  derived s hs := hrole ▸ h.derived s (hsealings ▸ hs)
  initialKey := by rw [hkey, hdcid, hrole, h.initialKey]
  single hdone s hs dcid hlabel := by
    rw [hdcid]
    exact h.single (hretry ▸ hdone) s (hsealings ▸ hs) dcid hlabel

theorem Fresh.skip (h : l.Fresh) (kind : SpaceKind) : (l.skip kind).Fresh where
  below s hs kind' hlabel := by
    have hlt := h.below s hs kind' hlabel
    show s.number < (l.next.set kind (l.next.get kind + 1)).get kind'
    by_cases hkind : kind' = kind
    · subst hkind
      rw [PerSpace.get_set_self]
      omega
    · rw [PerSpace.get_set_of_ne _ _ hkind]
      exact hlt
  unique := h.unique
  derived := h.derived
  initialKey := h.initialKey
  single := h.single

theorem Fresh.sealWith (h : l.Fresh) {kind : SpaceKind} {key : P.PacketKey}
    (hkey : kind = .initial → l.initialKey = some key) : (l.sealWith kind key).Fresh where
  below s hs kind' hlabel := by
    show s.number < (l.next.set kind (l.next.get kind + 1)).get kind'
    rcases List.mem_cons.mp hs with rfl | hs
    · have hkind : kind = kind' := l.label_injective hlabel
      subst hkind
      rw [PerSpace.get_set_self]
      exact Nat.lt_succ_self _
    · exact (h.skip kind).below s hs kind' hlabel
  unique := by
    refine List.pairwise_cons.mpr ⟨fun s hs => ?_, h.unique⟩
    by_cases hlabel : s.label = l.label kind
    · have hlt := h.below s hs kind hlabel
      exact .inr (Nat.ne_of_gt hlt)
    · exact .inl (Ne.symm hlabel)
  derived s hs := by
    rcases List.mem_cons.mp hs with rfl | hs
    · intro dcid hlabel
      cases kind with
      | initial =>
        cases hlabel
        have hsome := (hkey rfl).symm.trans h.initialKey
        exact Option.some.inj hsome
      | handshake | application => cases hlabel
    · exact h.derived s hs
  initialKey := h.initialKey
  single hdone s hs dcid hlabel := by
    rcases List.mem_cons.mp hs with rfl | hs
    · cases kind with
      | initial => cases hlabel; rfl
      | handshake | application => cases hlabel
    · exact h.single hdone s hs dcid hlabel

/-- A Retry to another connection ID starts the counter of the Initial space over under a
label that nothing was sealed with. -/
theorem Fresh.retry (h : l.Fresh) (hdone : l.retryDone = false)
    {dcid : ConnectionId} (hdcid : dcid ≠ l.dcid) : ({ l with
        next := l.next.set .initial 0
        dcid := dcid
        initialKey := some (P.initialKeys dcid l.role).sending.packet
        retryDone := true }.log
      (.retried l.dcid dcid l.stores.initial.sent.size) : Ledger P).Fresh where
  below s hs kind hlabel := by
    cases kind with
    | initial => exact absurd (h.single hdone s hs dcid hlabel) hdcid
    | handshake => exact h.below s hs .handshake hlabel
    | application => exact h.below s hs .application hlabel
  unique := h.unique
  derived := h.derived
  initialKey := rfl
  single hfalse := by cases hfalse

theorem Fresh.release (h : l.Fresh) (kind : SpaceKind) (store : SentPackets)
    (out : List SentPacket) {event : SentPacket → Event P}
    (hevent : ∀ p, (event p).sealing = none) : (l.release kind store out event).Fresh := by
  refine h.of_sealings (sealings_append_of_none (fun e he => ?_) _) rfl rfl rfl rfl rfl
  obtain ⟨p, _, rfl⟩ := List.mem_map.mp (List.mem_reverse.mp he)
  exact hevent p

theorem fresh_move {l' : Ledger P} (h : l.Fresh) (hmove : Move l l')
    (hretries : ∀ e ∈ l'.trace, e.RetriesElsewhere) : l'.Fresh := by
  cases hmove with
  | @note e hnote =>
    refine h.of_sealings ?_ rfl rfl rfl rfl rfl
    cases e <;> first | rfl | cases hnote
  | retry dcid hdone => exact h.retry hdone (hretries _ (List.mem_cons_self ..))
  | skip => exact (h.skip _).of_sealings rfl rfl rfl rfl rfl rfl
  | attempt hkey => exact h.sealWith hkey
  | drop hkey | send hkey => exact (h.sealWith hkey).of_sealings rfl rfl rfl rfl rfl rfl
  | ack kind => exact h.release kind _ _ fun _ => rfl
  | @lose kind store out _ =>
    exact (h.release kind store out fun _ => rfl).of_sealings rfl rfl rfl rfl rfl rfl
  | _ => exact h.of_sealings rfl rfl rfl rfl rfl rfl

theorem fresh_start (role : Role) (dcid : ConnectionId) (addr : SocketAddr) :
    (start role dcid addr : Ledger P).Fresh where
  below := nofun
  unique := .nil
  derived := nofun
  initialKey := rfl
  single _ := nofun

end Ledger

/-- Two uses of sealing keys that differ in label or number differ in key or number, if the
keys of different connection IDs and of different levels are different. -/
theorem Sealing.ne_of_label {role : Role} {s s' : Sealing P}
    (hderived : Ledger.Derived role s) (hderived' : Ledger.Derived role s')
    (hcids : ∀ cid cid', cid ≠ cid' →
      (P.initialKeys cid role).sending.packet ≠ (P.initialKeys cid' role).sending.packet)
    (hlevels : s.label.level ≠ s'.label.level → s.key ≠ s'.key)
    (h : s.label ≠ s'.label ∨ s.number ≠ s'.number) : s.key ≠ s'.key ∨ s.number ≠ s'.number := by
  refine h.imp_left fun hlabel => ?_
  by_cases hlevel : s.label.level = s'.label.level
  · cases hs : s.label with
    | initial dcid =>
      cases hs' : s'.label with
      | initial dcid' =>
        rw [hderived dcid hs, hderived' dcid' hs']
        refine hcids dcid dcid' fun heq => hlabel ?_
        rw [hs, hs', heq]
      | _ => rw [hs, hs'] at hlevel; cases hlevel
    | handshake =>
      cases hs' : s'.label with
      | handshake => exact absurd (hs.trans hs'.symm) hlabel
      | _ => rw [hs, hs'] at hlevel; cases hlevel
    | application =>
      cases hs' : s'.label with
      | application => exact absurd (hs.trans hs'.symm) hlabel
      | _ => rw [hs, hs'] at hlevel; cases hlevel
  · exact hlevels hlevel

/-- In every run from a fresh connection no packet key and packet number are used together
twice for sealing, failed attempts included, if an accepted Retry never names the connection
ID that the Initial keys are derived from already.  Initial keys of different connection IDs
are assumed to be different, as are keys of different levels that the run seals with. -/
theorem nonces_unique {c : Connection P} (hfresh : c.Fresh) (ops : List Op)
    (hcids : ∀ role cid cid', cid ≠ cid' →
      (P.initialKeys cid role).sending.packet ≠ (P.initialKeys cid' role).sending.packet)
    (hlevels : ∀ s ∈ sealings (c.run ops).trace, ∀ s' ∈ sealings (c.run ops).trace,
      s.label.level ≠ s'.label.level → s.key ≠ s'.key)
    (hretries : ∀ e ∈ (c.run ops).trace, e.RetriesElsewhere) :
    (sealings (c.run ops).trace).Pairwise fun s s' => s.key ≠ s'.key ∨ s.number ≠ s'.number := by
  obtain ⟨role, dcid, hacts⟩ := hfresh.run_acts ops
  have hlast : (c.run ops).ledger.Fresh :=
    Ledger.Acts.invariant_while (fun hact => hact.forall_of_trace) Ledger.fresh_move
      (fun _ h => h.of_sealings rfl rfl rfl rfl rfl rfl) (Ledger.fresh_start role dcid _) hacts
      hretries
  refine hlast.unique.imp_of_mem fun {s s'} hs hs' h => ?_
  exact Sealing.ne_of_label (hlast.derived s hs) (hlast.derived s' hs') (hcids _)
    (hlevels s hs s' hs') h

/-- A client is sent on by a Retry after its first packet and completes the handshake with
the server it is sent to. -/
def Plain.retriedHandshake (scid : ConnectionId) : List Op :=
  let early : List Op :=
    [.pollTransmit 5 [], .handleDatagram 6 (Plain.retry (client []) scid [7])]
  let answer := (Plain.answer ((client []).run early) []).2
  early ++ [.pollTransmit 7 [], .handleDatagram 8 answer, .pollTransmit 9 []]

theorem Plain.initialKeys_ne (role : Role) (cid cid' : ConnectionId) (h : cid ≠ cid') :
    (initialKeys cid role).sending.packet ≠ (initialKeys cid' role).sending.packet :=
  fun heq => h (initialKeys_injective heq).1

theorem nonces_unique_retriedHandshake :
    ((sealings ((client []).run (retriedHandshake [9])).trace).Pairwise
      fun s s' => s.key ≠ s'.key ∨ s.number ≠ s'.number) ∧
    (sealings ((client []).run (retriedHandshake [9])).trace).length = 4 :=
  ⟨nonces_unique (client_fresh []) _ initialKeys_ne (by decide +kernel)
    (by decide +kernel), by decide +kernel⟩

/-- A Retry that names the client's own choice of connection ID.  The keys stay as they were
and the numbers start over, so the first packet after the Retry is sealed like the first
before it, although the keys of different connection IDs and levels all differ. -/
theorem retry_repeats_nonce : (client []).Fresh ∧
    (∀ role cid cid', cid ≠ cid' → (initialKeys cid role).sending.packet
      ≠ (initialKeys cid' role).sending.packet) ∧ (∀ s ∈ sealings ((client []).run
        (retriedHandshake (client []).initialDcid)).trace,
      ∀ s' ∈ sealings ((client []).run
        (retriedHandshake (client []).initialDcid)).trace,
      s.label.level ≠ s'.label.level → s.key ≠ s'.key) ∧ (sealings ((client []).run
        (retriedHandshake (client []).initialDcid)).trace).map
      (fun s => ((s.key, s.number) : PlainKey × Nat))
    = [(.handshake .client, 0), (.initial (client []).initialDcid .client, 1),
        (.initial (client []).initialDcid .client, 0),
        (.initial (client []).initialDcid .client, 0)] :=
  ⟨client_fresh [], initialKeys_ne, by decide +kernel, by decide +kernel⟩

end OxiQuic
