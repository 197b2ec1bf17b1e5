import OxiQuic.Connection.FillSteps
import OxiQuic.Connection.LedgerMoves
import OxiQuic.Connection.Update

/-!
# Sending moves the ledger

Filling a packet only draws stream data and leaves the rest of the ledger alone; sealing
it uses a packet number and, if it succeeds, records the packet.
-/

namespace OxiQuic

open Lib Ledger

variable {P : Platform} {c : Connection P} {f : Filling P} {kind : SpaceKind} {f' : Filling P}

/-! ## Filling -/

theorem putVarint_ne_nil (n : Nat) : putVarint n ≠ [] := by
  intro hnil
  have hlength := putVarint_length n
  rw [hnil] at hlength
  simp only [varintSize, List.length_nil] at hlength
  split at hlength
  · cases hlength
  split at hlength
  · cases hlength
  · split at hlength <;> cases hlength

namespace Filling

/-- A filling goes on without touching the ledger: it may place frames and record some
that carry no stream data. -/
structure Extends (f f' : Filling P) : Prop where
  ledger : f'.conn.ledger = f.conn.ledger
  eliciting : f.ackEliciting = true → f'.ackEliciting = true
  frames : ∃ extra, f'.frames = f.frames ++ extra ∧
    (∀ frame ∈ extra, frame.isStream = false ∧ frame.isMtuProbe = false) ∧
    (extra ≠ [] → f'.ackEliciting = true)
  payload : f.payload ≠ [] → f'.payload ≠ []

namespace Extends

theorem refl (f : Filling P) : f.Extends f :=
  ⟨rfl, id, ⟨[], (List.append_nil _).symm, by simp, by simp⟩, id⟩

theorem trans {f'' : Filling P} (h : f.Extends f') (h' : f'.Extends f'') : f.Extends f'' := by
  obtain ⟨extra, hextra, hno, hel⟩ := h.frames
  obtain ⟨extra', hextra', hno', hel'⟩ := h'.frames
  refine ⟨h'.ledger.trans h.ledger, h'.eliciting ∘ h.eliciting, ⟨extra ++ extra', ?_, ?_, ?_⟩,
    h'.payload ∘ h.payload⟩
  · rw [hextra', hextra, List.append_assoc]
  · intro frame hframe
    rcases List.mem_append.mp hframe with hframe | hframe
    · exact hno frame hframe
    · exact hno' frame hframe
  intro hne
  by_cases hnil : extra' = []
  · exact h'.eliciting (hel fun hextra => hne (by rw [hextra, hnil]; rfl))
  · exact hel' hnil

theorem conn (h : c.ledger = f.conn.ledger) : f.Extends { f with conn := c } :=
  ⟨h, id, ⟨[], (List.append_nil _).symm, by simp, by simp⟩, id⟩

theorem payload_append (more : List Frame) (h : f.payload ≠ []) :
    (f.placed ++ more).flatMap Frame.encode ≠ [] := by
  rw [List.flatMap_append]
  exact List.append_ne_nil_of_left_ne_nil h _

theorem place (h : c.ledger = f.conn.ledger) (frame : Frame) :
    f.Extends ({ f with conn := c }.place frame) :=
  ⟨h, fun _ => rfl, ⟨[], (List.append_nil _).symm, by simp, by simp⟩, payload_append _⟩

theorem placeRecorded (h : c.ledger = f.conn.ledger)
    (frame : Frame) {sent : SentFrame} (hsent : sent.isStream = false ∧ sent.isMtuProbe = false) :
    f.Extends ({ f with conn := c }.placeRecorded frame sent) :=
  ⟨h, fun _ => rfl, ⟨[sent], rfl, by simpa using hsent, fun _ => rfl⟩, payload_append _⟩

end Extends

/-- What filling has done to a connection: it drew the stream data of the recorded frames,
which are placed and elicit an acknowledgement. -/
structure Filled (c : Connection P) (f : Filling P) : Prop where
  ledger : f.conn.ledger = { c.ledger with streams := f.conn.ledger.streams }
  draws : Draws c.ledger.streams f.conn.ledger.streams f.frames
  eliciting : f.frames ≠ [] → f.ackEliciting = true
  payload : (∃ frame ∈ f.frames, frame.isStream = true) → f.payload ≠ []

/-- The same for a packet that does not probe the path MTU. -/
structure Drawn (c : Connection P) (f : Filling P) : Prop extends Filled c f where
  noProbe : ∀ frame ∈ f.frames, frame.isMtuProbe = false

theorem Draws.append {streams streams' : OrdMap Nat SendStream} {frames extra : List SentFrame}
    (h : Draws streams streams' frames) (hextra : ∀ frame ∈ extra, frame.isStream = false) :
    Draws streams streams' (frames ++ extra) := by
  induction extra generalizing frames with
  | nil => simpa using h
  | cons frame rest ih =>
    rw [← List.singleton_append, ← List.append_assoc]
    exact ih (.other h (hextra frame (by simp))) fun fr hfr => hextra fr (by simp [hfr])

namespace Drawn

theorem start (c : Connection P) : Drawn c { conn := c } :=
  ⟨⟨rfl, .nil, fun h => absurd rfl h, fun ⟨_, h, _⟩ => absurd h (by simp)⟩, by simp⟩

theorem extend (h : Drawn c f) (h' : f.Extends f') : Drawn c f' := by
  obtain ⟨extra, hextra, hno, hel⟩ := h'.frames
  refine ⟨⟨?_, ?_, ?_, ?_⟩, ?_⟩
  · rw [h'.ledger]
    exact h.ledger
  · rw [h'.ledger, hextra]
    exact Draws.append h.draws fun frame hframe => (hno frame hframe).1
  · intro hne
    by_cases hnil : extra = []
    · rw [hextra, hnil, List.append_nil] at hne
      exact h'.eliciting (h.eliciting hne)
    · exact hel hnil
  · rintro ⟨frame, hframe, hstream⟩
    rw [hextra, List.mem_append] at hframe
    rcases hframe with hframe | hframe
    · exact h'.payload (h.payload ⟨frame, hframe, hstream⟩)
    · rw [(hno frame hframe).1] at hstream
      cases hstream
  · intro frame hframe
    rw [hextra, List.mem_append] at hframe
    rcases hframe with hframe | hframe
    · exact h.noProbe frame hframe
    · exact (hno frame hframe).2

theorem take {d : Connection P} (h : Drawn c f) {id max : Nat}
    {s s' : SendStream} {seg : Segment} (hs : f.conn.ledger.streams.get? id = some s)
    (hreset : s.resetCode = none) (htakes : s.Takes max s' seg)
    (hd : d.ledger = { f.conn.ledger with streams := f.conn.ledger.streams.insert id s' }) :
    Drawn c ({ f with conn := d }.placeRecorded (.stream id seg.offset seg.fin seg.data)
      (.stream id seg.offset seg.fin seg.data)) := by
  refine ⟨⟨?_, ?_, fun _ => rfl, fun _ => ?_⟩, ?_⟩
  · show d.ledger = { c.ledger with streams := d.ledger.streams }
    rw [hd, h.ledger]
  · show Draws _ d.ledger.streams _
    rw [hd]
    exact .take h.draws hs hreset htakes
  · show (f.placed ++ [_]).flatMap Frame.encode ≠ []
    rw [List.flatMap_append, List.flatMap_singleton]
    refine List.append_ne_nil_of_right_ne_nil _ fun hnil => ?_
    simp only [Frame.encode, List.append_eq_nil_iff] at hnil
    exact putVarint_ne_nil _ hnil.1.1.1.1
  intro frame hframe
  rcases List.mem_append.mp hframe with hframe | hframe
  · exact h.noProbe frame hframe
  · rw [List.mem_singleton.mp hframe]
    rfl

end Drawn

end Filling

namespace Connection

open Filling

variable (s : PacketSpace P) (delay : Nat)

theorem buildAck_nextPacketNumber : (s.buildAck delay).1.nextPacketNumber = s.nextPacketNumber := by
  simp only [PacketSpace.buildAck]
  split
  · split <;> rfl
  · rfl

theorem buildAck_keys : (s.buildAck delay).1.keys = s.keys := by
  simp only [PacketSpace.buildAck]
  split
  · split <;> rfl
  · rfl

theorem buildAck_ledger (c : Connection P) (kind : SpaceKind) :
    ({ c with spaces := c.spaces.set kind ((c.spaces.get kind).buildAck 0).1 } :
      Connection P).ledger = c.ledger :=
  setSpace_ledger c kind _ (buildAck_nextPacketNumber _ 0)
    (by rw [PacketSpace.hasKeys, buildAck_keys]; rfl)
    fun _ => by rw [PacketSpace.localKeys, buildAck_keys]; rfl

theorem fillAck_extends (f : Filling P) (kind : SpaceKind) : f.Extends (fillAck f kind) := by
  have h := buildAck_ledger f.conn kind
  simp only [fillAck]
  split
  · exact ⟨h, id, ⟨[], (List.append_nil _).symm, by simp, by simp⟩, Extends.payload_append _⟩
  · exact Extends.conn h

variable (c)

theorem setCryptoStream_ledger (kind : SpaceKind) (s : CryptoStream) :
    (c.setCryptoStream kind s).ledger = c.ledger := by
  cases kind <;> rfl

theorem fillCrypto_extends (f : Filling P) (kind : SpaceKind) (budget : Nat) :
    f.Extends (fillCrypto f kind budget) := by
  simp only [fillCrypto]
  split
  · exact .refl f
  split
  · exact Extends.placeRecorded (setCryptoStream_ledger f.conn kind _) _ ⟨rfl, rfl⟩
  · exact Extends.conn (setCryptoStream_ledger f.conn kind _)

variable {c}

theorem fillProbe_extends (f : Filling P) : f.Extends (fillProbe f) := by
  simp only [fillProbe]
  split
  · split
    · exact Extends.conn (by rfl)
    · exact .trans (Extends.placeRecorded (by rfl) .ping ⟨rfl, rfl⟩) (Extends.conn (by rfl))
  · exact .refl f

/-! ## Drawing stream data -/

variable {budget : Nat}

theorem FillStep.drawn (hstep : FillStep kind budget f f') (h : Drawn c f)
    (hnone : f.conn.mtuProbeSize kind = none) : Drawn c f' := by
  cases hstep with
  | mtuProbe hsize => cases hnone.symm.trans hsize
  | stream hs hreset htakes =>
    refine h.take hs hreset htakes ?_
    simp only [chargeFlow]
    split <;> rfl
  | ack hack =>
    have hledger := buildAck_ledger f.conn kind
    rw [hack] at hledger
    exact h.extend ⟨hledger, id, ⟨[], (List.append_nil _).symm, by simp, by simp⟩,
      Extends.payload_append _⟩
  | crypto =>
    exact h.extend (Extends.placeRecorded (setCryptoStream_ledger f.conn kind _) _ ⟨rfl, rfl⟩)
  | probe =>
    dsimp only
    split
    · exact h.extend (Extends.conn (by rfl))
    · exact h.extend (Extends.placeRecorded (by rfl) .ping ⟨rfl, rfl⟩)
  | forgetMtuProbe | dropDataBlocked => exact h.extend (Extends.conn (by rfl))
  | streamFlow | connectionBlocked | streamBlocked =>
    refine h.extend (Extends.conn ?_)
    simp only [ensureStreamSendFlow, noteBlockedConnection, noteBlockedStream]
    repeat' split
    all_goals rfl
  | newConnectionId | retireConnectionId | maxStreams | streamsBlocked | newToken | keepAlive
  | keyUpdate => exact h.extend (Extends.placeRecorded (by rfl) _ ⟨rfl, rfl⟩)
  | _ => exact h.extend (Extends.place (by rfl) _)

theorem FillStep.mtuProbeSize_eq_none (hstep : FillStep kind budget f f')
    (h : f.conn.mtuProbeSize kind = none) : f'.conn.mtuProbeSize kind = none := by
  cases hstep with
  | mtuProbe hsize => cases h.symm.trans hsize
  | forgetMtuProbe => simp [mtuProbeSize, clearMtuProbe]
  | crypto => cases kind <;> exact h
  | streamFlow | stream | connectionBlocked | streamBlocked =>
    simp only [ensureStreamSendFlow, Filling.placeRecorded, Filling.place, chargeFlow,
      noteBlockedConnection, noteBlockedStream]
    repeat' split
    all_goals exact h
  | _ => exact h

/-! ## The whole payload -/

theorem fillCrypto_fillAck_extends (c : Connection P) (kind : SpaceKind) (budget : Nat) :
    Filling.Extends { conn := c } (fillCrypto (fillAck { conn := c } kind) kind budget) :=
  (fillAck_extends _ kind).trans (fillCrypto_extends _ kind budget)

theorem frames_of_extends (h : Filling.Extends { conn := c } f) :
    ∀ frame ∈ f.frames, frame.isStream = false ∧ frame.isMtuProbe = false := by
  obtain ⟨extra, hextra, hno, _⟩ := h.frames
  rw [hextra]
  exact hno

theorem fillMtuProbe_frames (f : Filling P) (size : Nat) :
    (fillMtuProbe f size).frames = f.frames ++ [.mtuProbe size] := by
  simp only [fillMtuProbe]
  split <;> rfl

theorem fillMtuProbe_filled
    (h : Filling.Extends { conn := c } f) (size : Nat) : Filled c (fillMtuProbe f size) := by
  have hframes := fillMtuProbe_frames f size
  have hnone : ∀ frame ∈ (fillMtuProbe f size).frames, frame.isStream = false := by
    intro frame hframe
    rw [hframes, List.mem_append] at hframe
    rcases hframe with hframe | hframe
    · exact (frames_of_extends h frame hframe).1
    · rw [List.mem_singleton.mp hframe]
      rfl
  have hledger : (fillMtuProbe f size).conn.ledger = c.ledger := by
    have hsame : (fillMtuProbe f size).conn.ledger = f.conn.ledger := by
      simp only [fillMtuProbe]
      split <;> rfl
    exact hsame.trans h.ledger
  refine ⟨by rw [hledger], ?_, fun _ => ?_, ?_⟩
  · rw [hledger]
    exact Draws.append .nil hnone
  · simp only [fillMtuProbe]
    split <;> rfl
  rintro ⟨frame, hframe, hstream⟩
  rw [hnone frame hframe] at hstream
  cases hstream

theorem fillRest_drawn (h : Drawn c f) (hnone : f.conn.mtuProbeSize kind = none) :
    Drawn c (fillRest f kind budget) :=
  ((fillRest_fills f).invariant (I := fun g => Drawn c g ∧ g.conn.mtuProbeSize kind = none)
    (fun _ _ hstep hg => ⟨hstep.drawn hg.1 hg.2, hstep.mtuProbeSize_eq_none hg.2⟩) ⟨h, hnone⟩).1

variable (c)

theorem fillPayload_filled (kind : SpaceKind) (budget : Nat) :
    Filled c (c.fillPayload kind budget) := by
  have hstart := fillCrypto_fillAck_extends c kind budget
  simp only [fillPayload]
  split
  · exact fillMtuProbe_filled hstart _
  · rename_i hnone
    exact (fillRest_drawn ((Drawn.start c).extend hstart) hnone).toFilled

theorem fillPayload_no_stream (budget : Nat) (hkind : kind ≠ .application) :
    ∀ frame ∈ (c.fillPayload kind budget).frames, frame.isStream = false := by
  have hstart := fillCrypto_fillAck_extends c kind budget
  have hprobe : ∀ d : Connection P, d.mtuProbeSize kind = none := by
    intro d
    simp [mtuProbeSize, hkind]
  simp only [fillPayload, fillRest, hprobe, if_neg hkind]
  exact fun frame hframe =>
    (frames_of_extends (hstart.trans (fillProbe_extends _)) frame hframe).1

variable (kind)

theorem fillPayload_probe (budget : Nat)
    (h : ∃ frame ∈ (c.fillPayload kind budget).frames, frame.isStream = true) :
    (c.fillPayload kind budget).frames.any (·.isMtuProbe) = false := by
  have hstart := fillCrypto_fillAck_extends c kind budget
  revert h
  simp only [fillPayload]
  split
  · rintro ⟨frame, hframe, hstream⟩
    rw [fillMtuProbe_frames, List.mem_append] at hframe
    rcases hframe with hframe | hframe
    · rw [(frames_of_extends hstart frame hframe).1] at hstream
      cases hstream
    · rw [List.mem_singleton.mp hframe] at hstream
      cases hstream
  · rename_i hnone
    intro _
    rw [List.any_eq_false]
    intro frame hframe
    rw [(fillRest_drawn ((Drawn.start c).extend hstart) hnone).noProbe frame hframe]
    exact Bool.false_ne_true

/-! ## Sealing -/

theorem beforeSeal_ledger (now : Time) : (c.beforeSeal kind now).ledger = c.ledger := by
  obtain ⟨_, keys, hkeys, hbefore⟩ := beforeSeal_conn c kind now
  rw [hbefore]
  exact setSpace_ledger c .application { c.spaces.application with keys := keys } rfl hkeys nofun

theorem allocate_ledger : (c.allocate kind).ledger = c.ledger.skip kind := by
  cases kind <;> rfl

theorem next_eq : (c.spaces.get kind).nextPacketNumber = c.ledger.next.get kind := by
  cases kind <;> rfl

theorem allocate_log_ledger (key : P.PacketKey) :
    ((c.allocate kind).log (.sealed (c.keyLabel kind) key
      (c.spaces.get kind).nextPacketNumber)).ledger = c.ledger.sealWith kind key := by
  rw [log_ledger, allocate_ledger, next_eq]
  cases kind <;> rfl

variable {kind}

variable {c}

theorem localKeys_eq_none (h : (c.spaces.get kind).localKeys = none) :
    kind = .application → c.ledger.appKeys = false := by
  rintro rfl
  simp only [PacketSpace.localKeys, Option.map_eq_none_iff] at h
  show (c.spaces.get .application).hasKeys = false
  rw [PacketSpace.hasKeys, h]
  rfl

variable {keys : DirectionalKeys P.PacketKey P.HeaderKey} {ackEliciting : Bool}

theorem localKeys_eq_some (h : (c.spaces.get kind).localKeys = some keys) :
    kind = .initial → c.ledger.initialKey = some keys.packet := by
  rintro rfl
  show c.spaces.initial.localKeys.map (·.packet) = some keys.packet
  rw [show c.spaces.initial.localKeys = some keys from h]
  rfl

theorem buildPacket_grows {token : Bytes} {pn : Nat} {out payload out' : Bytes}
    (h : c.buildPacket kind token keys pn out payload = (out', .ok ())) :
    out.length < out'.length := by
  cases kind with
  | application => exact buildShortPacket_grows P h
  | initial | handshake => exact buildLongPacket_grows P h

theorem buildPacket_ok (hseals : P.SealsAlways) (c : Connection P) (kind : SpaceKind)
    (token : Bytes) (keys : DirectionalKeys P.PacketKey P.HeaderKey) (pn : Nat)
    (out payload : Bytes) : (c.buildPacket kind token keys pn out payload).2 = .ok () := by
  cases kind with
  | application => exact buildShortPacket_ok P hseals _ _ _ _ _
  | initial | handshake => exact buildLongPacket_ok P hseals _ _ _ _ _

theorem charge_bytesInFlight (cc : CongestionController P.Real) (inFlight : Bool)
    (sentBytes : Nat) (now : Time) : (charge cc inFlight sentBytes now).1.bytesInFlight
      = cc.bytesInFlight + if inFlight then sentBytes else 0 := by
  cases inFlight with
  | true => exact CongestionController.onPacketSent_bytesInFlight cc now sentBytes
  | false => rfl

theorem recordSent_ledger (c : Connection P) (kind : SpaceKind) (now : Time)
    (pn sentBytes : Nat) (frames : List SentFrame) (h : (ackEliciting || !frames.isEmpty) = true) :
    ∃ p : SentPacket, p.packetNumber = pn ∧ p.frames = frames ∧ p.sentBytes = sentBytes ∧
      p.inFlight = countsInFlight frames ackEliciting ∧
      (c.recordSent kind now pn sentBytes frames ackEliciting).ledger = c.ledger.record kind p := by
  simp only [recordSent, h, if_true]
  refine ⟨{
    packetNumber := pn, timeSent := now, ackEliciting := ackEliciting
    inFlight := countsInFlight frames ackEliciting, sentBytes := sentBytes, frames := frames
    rateSample := (charge c.congestion (countsInFlight frames ackEliciting) sentBytes now).2 },
    rfl, rfl, rfl, rfl, ?_⟩
  simp only [ledger, charge_bytesInFlight]
  rfl

theorem recordSent_ledger_of_not (c : Connection P) (kind : SpaceKind) (now : Time)
    (pn sentBytes : Nat) {frames : List SentFrame} (h : (ackEliciting || !frames.isEmpty) = false) :
    (c.recordSent kind now pn sentBytes frames ackEliciting).ledger = c.ledger := by
  obtain ⟨rfl, hframes⟩ := Bool.or_eq_false_iff.mp h
  have hcounts : countsInFlight frames false = false := by
    simp [countsInFlight]
  simp only [recordSent, h, hcounts]
  rfl

theorem sealFilled_moves (h : Filled c f) (now : Time) (out : Bytes)
    (hother : kind ≠ .application → ∀ frame ∈ f.frames, frame.isStream = false)
    (hprobe : (∃ frame ∈ f.frames, frame.isStream = true) → f.frames.any (·.isMtuProbe) = false)
    (hready : kind = .application → c.hs.oneRttReady = true) :
    Moves c.ledger (sealFilled f now kind out).1.ledger := by
  have hbefore := (beforeSeal_ledger f.conn kind now).trans h.ledger
  simp only [sealFilled]
  generalize f.conn.beforeSeal kind now = d at hbefore
  split
  · rename_i hkeys
    rw [allocate_ledger, hbefore]
    refine .single (Move.skip c.ledger h.draws hother fun hkind => ⟨hready hkind, ?_⟩)
    have happ := localKeys_eq_none hkeys hkind
    rw [hbefore] at happ
    exact happ
  · rename_i keys hkeys
    have hkey := localKeys_eq_some hkeys
    have hsealed := allocate_log_ledger d kind keys.packet
    rw [hbefore] at hsealed hkey
    generalize (d.allocate kind).log _ = e at hsealed
    split
    · rename_i hbuilt
      rw [hsealed]
      refine .single (Move.drop c.ledger hkey h.draws ?_)
      intro hseals
      rw [buildPacket_ok hseals] at hbuilt
      cases hbuilt
    · rename_i hbuilt
      rw [log_ledger]
      refine .trans ?_ (.single (.note _ (by simp only [recordSent]; split <;> rfl)))
      cases hrecord : f.ackEliciting || !f.frames.isEmpty with
      | true =>
        obtain ⟨p, hpn, hframes, hbytes, hflight, hp⟩ := recordSent_ledger e kind now
          (d.spaces.get kind).nextPacketNumber
          ((e.buildPacket kind (e.retry.retryToken.getD []) keys
            (d.spaces.get kind).nextPacketNumber out f.payload).1.length - out.length)
          f.frames hrecord
        rw [hp, hsealed]
        rw [next_eq, hbefore] at hpn
        refine .single (Move.send c.ledger hkey ?_ ?_ ?_ hpn)
        · rw [hframes]
          exact h.draws
        · rw [hframes]
          exact hother
        rw [hframes, hflight, hbytes]
        intro hstream
        have hne : f.frames ≠ [] := by
          obtain ⟨frame, hframe, _⟩ := hstream
          exact List.ne_nil_of_mem hframe
        rw [countsInFlight, hprobe hstream]
        exact ⟨h.eliciting hne, Nat.sub_pos_of_lt (buildPacket_grows (Prod.ext rfl hbuilt))⟩
      | false =>
        have hnil : f.frames = [] := by simpa using (Bool.or_eq_false_iff.mp hrecord).2
        have hstreams : f.conn.ledger.streams = c.ledger.streams :=
          h.draws.eq_of_no_stream (by simp [hnil])
        rw [recordSent_ledger_of_not e kind now _ _ hrecord, hsealed, hstreams]
        exact .single (.attempt c.ledger hkey)

variable (c)

variable (now : Time) (out : Bytes) (wroteInitial : Bool)

theorem writeIf_moves (cond : Bool) (c : Connection P) (now : Time) (kind : SpaceKind)
    (out : Bytes) (hready : cond = true → kind = .application → c.hs.oneRttReady = true) :
    Moves c.ledger (writeIf cond c now kind out).1.ledger := by
  refine writeIf_cases (I := fun r => Moves c.ledger r.1.ledger) (.refl _) fun budget hcond => ?_
  have hfilled := fillPayload_filled c kind budget
  split
  · rename_i hempty
    -- nothing was placed, so nothing was drawn
    have hnone : ∀ frame ∈ (c.fillPayload kind budget).frames, frame.isStream = false := by
      intro frame hframe
      by_contra hstream
      exact hfilled.payload ⟨frame, hframe, by simpa using hstream⟩ (List.isEmpty_iff.mp hempty)
    exact .of_eq (by rw [hfilled.ledger, hfilled.draws.eq_of_no_stream hnone])
  · exact sealFilled_moves hfilled now out (fillPayload_no_stream c _)
      (fillPayload_probe c kind _) (hready hcond)

theorem takeClose_ledger : c.takeClose.1.ledger = c.ledger := by
  simp only [takeClose]
  split
  · rfl
  · split <;> rfl

theorem emitClose_moves : Moves c.ledger (c.emitClose out).1.ledger := by
  have hready : c.closeSpace = .application → c.ledger.ready = true := by
    simp only [closeSpace]
    intro h
    split at h
    · rename_i hready
      exact hready
    · split at h <;> cases h
  have htaken := takeClose_ledger c
  simp only [emitClose]
  generalize c.closeSpace = kind at hready
  generalize c.takeClose = taken at htaken
  split
  · exact .of_eq htaken
  split
  · rename_i hkeys
    rw [allocate_ledger, htaken]
    refine .single (Move.skip c.ledger .nil (by simp) fun hkind => ⟨hready hkind, ?_⟩)
    have happ := localKeys_eq_none hkeys hkind
    rw [htaken] at happ
    exact happ
  · rename_i keys hkeys
    have hkey := localKeys_eq_some hkeys
    have hsealed := allocate_log_ledger taken.1 kind keys.packet
    rw [htaken] at hsealed hkey
    refine .trans (.single (.attempt c.ledger hkey)) ?_
    split
    · exact .of_eq hsealed
    · exact .trans (.of_eq hsealed) (.single (.note _ rfl))

theorem advanceRecvFlow_ledger : c.advanceRecvFlow.ledger = c.ledger :=
  advanceRecvFlow_kept (fun _ _ _ _ _ => rfl) c

theorem writeHandshake_moves : Moves c.ledger (c.writeHandshake now out).1.ledger :=
  writeIf_moves _ c now .handshake out fun _ h => by cases h

theorem writeEarly_moves (c : Connection P) (out : Bytes) :
    Moves c.ledger (writeEarly wroteInitial c out).1.ledger := by
  have hattempt : ∀ key, Move c.ledger (c.ledger.sealWith .application key) :=
    fun key => .attempt c.ledger nofun
  exact writeEarly_cases (I := fun r => Moves c.ledger r.1.ledger) (.refl _)
    (fun _ _ _ => .trans (.single (hattempt _)) (.of_eq (allocate_log_ledger c .application _)))
    fun _ _ _ _ => .trans (.single (hattempt _)) (.single (.note _ rfl))

theorem writeApplication_moves (c : Connection P) (now : Time)
    (out : Bytes) : Moves c.ledger (writeApplication wroteInitial c now out).1.ledger := by
  refine writeIf_moves _ c now .application out fun hcond _ => ?_
  simp only [Bool.and_eq_true] at hcond
  exact hcond.1.2

variable {c}

end Connection

end OxiQuic
