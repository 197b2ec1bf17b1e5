import OxiQuic.Connection.Core
import OxiQuic.Connection.Opening
import OxiQuic.Connection.Outlay

/-!
# What a connection does with connection IDs

The two pools, the events for the routing table, the connection ID that packets are sent to, and
the `NEW_CONNECTION_ID` and `RETIRE_CONNECTION_ID` frames that were sent, are in flight or were
taken in: `Connection.cidBook`.  `CidBook.Step` lists what can happen to them, and
`Connection.Update.cidBook` says that an update of a connection does nothing else.
-/

namespace OxiQuic

open Lib

variable {P : Platform} {d : Connection P} {frame : Frame} {f : Filling P} {op : Op}

/-- Whether a frame is about connection IDs. -/
def Frame.isCid : Frame → Bool
  | .newConnectionId .. => true
  | .retireConnectionId .. => true
  | _ => false

def SentFrame.isCid : SentFrame → Bool
  | .newConnectionId .. => true
  | .retireConnectionId .. => true
  | _ => false

/-- The frame about connection IDs that an event took in. -/
def Event.heardCid : Event P → Option Frame
  | .received _ (.newConnectionId seq prior cid token) => some (.newConnectionId seq prior cid token)
  | .received _ (.retireConnectionId seq) => some (.retireConnectionId seq)
  | _ => none

/-- The frames about connection IDs that an event sent. -/
def Event.saidCids : Event P → List Frame
  | .sent _ _ frames => frames.filter Frame.isCid
  | _ => []

/-- The frame that announces a connection ID. -/
def IssuedCid.announcement (issued : IssuedCid) : Frame :=
  .newConnectionId issued.seq 0 issued.cid issued.statelessResetToken

/-- The record of that frame. -/
def IssuedCid.record (issued : IssuedCid) : SentFrame :=
  .newConnectionId issued.seq 0 issued.cid issued.statelessResetToken

/-- What a connection has to do with connection IDs. -/
structure CidBook where
  role : Role
  /-- The connection ID that packets are sent to. -/
  peerCid : ConnectionId
  /-- The connection IDs issued to the peer. -/
  issued : LocalCidPool
  /-- The connection IDs the peer issued. -/
  held : PeerCidPool
  events : List CidEvent
  /-- The packets in flight. -/
  stores : PerSpace SentPackets
  /-- The frames about connection IDs that were taken in, newest first. -/
  heard : List Frame
  /-- Those that were sent. -/
  said : List Frame

namespace CidBook

/-- A frame of a packet in flight. -/
def Tracked (b : CidBook) (frame : SentFrame) : Prop :=
  ∃ kind pn p, (b.stores.get kind).sent.get? pn = some p ∧ frame ∈ p.frames

def hear (b : CidBook) (frame : Frame) : CidBook := { b with heard := frame :: b.heard }

/-- Issue a connection ID. -/
def issue (b : CidBook) (cid : ConnectionId) (token : Bytes) : CidBook :=
  let issued : IssuedCid := ⟨b.issued.nextSeq, cid, token⟩
  { b with
    issued := { b.issued with
      nextSeq := b.issued.nextSeq + 1
      pendingNew := b.issued.pendingNew ++ [issued]
      active := b.issued.active ++ [issued] }
    events := b.events ++ [.register cid] }

/-- The peer retires a connection ID. -/
def retire (b : CidBook) (removed : IssuedCid) (seq : Nat) : CidBook :=
  { b with
    issued := { b.issued with active := b.issued.active.eraseP (·.seq == seq) }
    events := b.events ++ [.unregister removed.cid] }

/-- Queue again what a packet carried. -/
def requeue (b : CidBook) : SentFrame → CidBook
  | .newConnectionId seq _ cid token =>
    { b with issued := { b.issued with pendingNew := b.issued.pendingNew ++ [⟨seq, cid, token⟩] } }
  | .retireConnectionId seq =>
    { b with held := { b.held with pendingRetire := b.held.pendingRetire ++ [seq] } }
  | _ => b

/-- Set what is still to be said. -/
def leave (b : CidBook) (pendingNew : List IssuedCid) (pendingRetire : List Nat) : CidBook :=
  { b with
    issued := { b.issued with pendingNew := pendingNew }
    held := { b.held with pendingRetire := pendingRetire } }

/-- What can happen. -/
inductive Step (b : CidBook) : CidBook → Prop where
  | issue (cid : ConnectionId) (token : Bytes) : b.issued.active.length < b.issued.limit →
      Step b (b.issue cid token)
  /-- A client adopts the connection ID that a packet of the server comes from. -/
  | adopt (cid : ConnectionId) : b.role = .client → Step b { b with peerCid := cid }
  /-- Packets are no longer in flight. -/
  | forget {stores : PerSpace SentPackets} :
      (∀ kind pn p, (stores.get kind).sent.get? pn = some p →
        (b.stores.get kind).sent.get? pn = some p) →
      Step b { b with stores := stores }
  | requeue {frame : SentFrame} : b.Tracked frame → Step b (b.requeue frame)
  /-- A frame is taken in without effect. -/
  | hear (frame : Frame) : Step b (b.hear frame)
  | announce (seq prior : Nat) (cid : ConnectionId) (token : Bytes) :
      Step b ({ b with held := (b.held.receiveNewCid seq prior cid token).1 }.hear
        (.newConnectionId seq prior cid token))
  | retire (seq : Nat) {removed : IssuedCid} :
      b.issued.active.find? (·.seq == seq) = some removed →
      Step b ((b.retire removed seq).hear (.retireConnectionId seq))
  /-- A packet takes from the front of what is to be said.  It is sent or gets lost before that. -/
  | send {announced pendingNew : List IssuedCid} {retired pendingRetire : List Nat}
      {stores : PerSpace SentPackets} {frames : List Frame} :
      b.issued.pendingNew = announced ++ pendingNew →
      b.held.pendingRetire = retired ++ pendingRetire →
      (∀ frame, ({ b with stores := stores } : CidBook).Tracked frame → frame.isCid = true →
        b.Tracked frame ∨ frame ∈ announced.map IssuedCid.record ∨
          frame ∈ retired.map SentFrame.retireConnectionId) →
      (∀ frame ∈ frames, frame ∈ announced.map IssuedCid.announcement ∨
        frame ∈ retired.map Frame.retireConnectionId) →
      Step b { b.leave pendingNew pendingRetire with stores := stores, said := frames ++ b.said }

def Steps : CidBook → CidBook → Prop := Relation.ReflTransGen Step

namespace Steps

variable {a b c : CidBook}

theorem refl (b : CidBook) : Steps b b := Relation.ReflTransGen.refl

theorem of_eq (h : b = a) : Steps a b := h ▸ refl a

theorem single (h : Step a b) : Steps a b := Relation.ReflTransGen.single h

theorem trans (h : Steps a b) (h' : Steps b c) : Steps a c := Relation.ReflTransGen.trans h h'

theorem tail (h : Steps a b) (h' : Step b c) : Steps a c := Relation.ReflTransGen.tail h h'

theorem invariant {I : CidBook → Prop} (hstep : ∀ {a b}, I a → Step a b → I b) (ha : I a)
    (h : Steps a b) : I b := by
  induction h with
  | refl => exact ha
  | tail _ hlast ih => exact hstep ih hlast

end Steps

end CidBook

namespace Connection

def cidBook (c : Connection P) : CidBook where
  role := c.role
  peerCid := c.peerCid
  issued := c.cids.localCidPool
  held := c.cids.peerCidPool
  events := c.cids.pendingCidEvents
  stores := c.sentPackets
  heard := c.trace.filterMap Event.heardCid
  said := c.trace.flatMap Event.saidCids

/-! ## The handshake -/

variable (c : Connection P) (now : Time)

theorem maybeIssueNewCid_cidBook : c.cidBook.Steps c.maybeIssueNewCid.1.cidBook := by
  simp only [maybeIssueNewCid]
  split
  · exact .refl _
  rename_i hcan
  have hroom : c.cids.localCidPool.active.length < c.cids.localCidPool.limit := by
    simpa [LocalCidPool.canIssue] using hcan
  split
  · exact .refl _
  rename_i raw _
  simp only [LocalCidPool.issueNewCid, if_neg (Nat.not_le.mpr hroom)]
  exact .single (.issue raw _ hroom)

theorem refreshHandshakeComplete_cidBook : c.cidBook.Steps c.refreshHandshakeComplete.cidBook := by
  refine refreshHandshakeComplete_completes (R := fun c d => c.cidBook.Steps d.cidBook)
    (fun _ => .refl _) .trans (fun h => ?_) c
  cases h with
  | issue => exact maybeIssueNewCid_cidBook _
  | learn => exact .of_eq (learnPeerParams_kept (fun _ _ => rfl) _)
  | finish | enter | settle | replay | token => exact .refl _

/-! ## Recovery -/

theorem requeueFrame_cidBook (idx : SpaceKind) (frame : SentFrame) :
    (c.requeueFrame idx frame).cidBook = c.cidBook.requeue frame := by
  cases frame with
  | crypto | newToken =>
    simp only [requeueFrame]
    split <;> rfl
  | _ => rfl

/-- What was in flight at the start may be queued again also after it was forgotten, since neither
reads what the other changes. -/
theorem recovers_cidBook :
    Recovers c fun d => d.FewerInFlight c ∧
      c.cidBook.Steps { d.cidBook with stores := c.sentPackets } where
  untimed _ _ _ _ _ h := h
  spaces _ _ h := h
  forget _ _ _ _ htakes h := ⟨h.1.set htakes, h.2⟩
  acked _ _ _ h := h
  lost _ _ _ h := h
  requeue d idx frame hframe h := by
    obtain ⟨pn, p, hp, hmem⟩ := hframe
    refine ⟨?_, ?_⟩
    · rw [FewerInFlight, requeueFrame_sentPackets]
      exact h.1
    have hcommute : { d.cidBook.requeue frame with stores := c.sentPackets }
        = ({ d.cidBook with stores := c.sentPackets } : CidBook).requeue frame := by
      cases frame <;> rfl
    rw [requeueFrame_cidBook, hcommute]
    exact h.2.tail (.requeue ⟨idx, pn, p, hp, hmem⟩)

theorem steps_of_recovered {c : Connection P} (h : d.FewerInFlight c ∧
    c.cidBook.Steps { d.cidBook with stores := c.sentPackets }) : c.cidBook.Steps d.cidBook :=
  h.2.tail (@CidBook.Step.forget { d.cidBook with stores := c.sentPackets } d.sentPackets h.1)

theorem processAck_cidBook (packetType : PacketType)
    (largest delay firstRange : Nat) (ranges : List AckRange) :
    c.cidBook.Steps (c.processAck now packetType largest delay firstRange ranges).cidBook :=
  steps_of_recovered
    ((recovers_cidBook c).processAck ⟨fun _ _ _ hp => hp, .refl _⟩ now packetType _ _ _ _)

/-! ## Frames -/

theorem recvNewConnectionId_cidBook (packetType : PacketType)
    (seq prior : Nat) (cid : ConnectionId) (token : Bytes) :
    c.cidBook.Step ((c.log (.received packetType (.newConnectionId seq prior cid token))
      ).recvNewConnectionId packetType seq prior cid token).1.cidBook := by
  simp only [recvNewConnectionId]
  split
  · exact .hear _
  · split <;> exact .announce seq prior cid token

theorem recvRetireConnectionId_cidBook (packetType : PacketType) (seq : Nat) :
    c.cidBook.Steps ((c.log (.received packetType (.retireConnectionId seq))
      ).recvRetireConnectionId packetType seq).1.cidBook := by
  simp only [recvRetireConnectionId]
  split
  · exact .single (.hear _)
  split
  · exact .single (.hear _)
  cases hfind : c.cids.localCidPool.active.find? (·.seq == seq) with
  | none =>
    simp only [LocalCidPool.handlePeerRetirement, log, hfind]
    exact .single (.hear _)
  | some removed =>
    simp only [LocalCidPool.handlePeerRetirement, log, hfind]
    refine .trans ?_ (maybeIssueNewCid_cidBook _)
    exact .single (.retire seq hfind)

/-- The frames that are not about connection IDs and do not acknowledge anything. -/
theorem takeFrame_cidBook_of_not (packetType : PacketType) (hcid : frame.isCid = false)
    (hack : frame.isCore = false) : (c.takeFrame now packetType frame).1.cidBook = c.cidBook := by
  cases frame with
  | newConnectionId | retireConnectionId => cases hcid
  | ack | crypto => cases hack
  | stopSending | pathResponse | handshakeDone =>
    simp only [takeFrame, handleFrame, recvStopSending, recvPathResponse]
    split <;> rfl
  | stream id offset fin data => exact recvStream_kept (fun _ _ _ _ => rfl) (c.log _) _ _ _ _
  | newToken | datagram =>
    simp only [takeFrame, handleFrame, recvNewToken, recvDatagramFrame]
    split
    · rfl
    · split <;> rfl
  | _ => rfl

theorem takeFrame_cidBook (packetType : PacketType)
    (frame : Frame) : c.cidBook.Steps (c.takeFrame now packetType frame).1.cidBook := by
  by_cases hother : frame.isCid = false ∧ frame.isCore = false
  · exact .of_eq (takeFrame_cidBook_of_not c now packetType hother.1 hother.2)
  cases frame with
  | newConnectionId seq prior cid token =>
    exact .single (recvNewConnectionId_cidBook c packetType seq prior cid token)
  | retireConnectionId seq => exact recvRetireConnectionId_cidBook c packetType seq
  | ack largest delay firstRange ranges =>
    exact processAck_cidBook (c.log (.received packetType (.ack largest delay firstRange ranges)))
      now packetType largest delay firstRange ranges
  | crypto offset data =>
    exact .of_eq (recvCrypto_kept (fun _ _ _ _ => rfl) (c.log _) packetType offset data)
  | _ => exact absurd ⟨rfl, rfl⟩ hother

/-! ## Sending -/

end Connection

/-- The frames about connection IDs in a packet, and the records of them. -/
def Filling.cidStock (f : Filling P) : List Frame × List SentFrame :=
  (f.placed.filter Frame.isCid, f.frames.filter SentFrame.isCid)

namespace Connection

theorem cidStock_place (f : Filling P) (c : Connection P) (hframe : frame.isCid = false) :
    (({ f with conn := c } : Filling P).place frame).cidStock = f.cidStock := by
  simp [Filling.cidStock, Filling.place, hframe]

theorem cidStock_placeRecorded (f : Filling P) (c : Connection P)
    {sent : SentFrame} (hframe : frame.isCid = false) (hsent : sent.isCid = false) :
    (({ f with conn := c } : Filling P).placeRecorded frame sent).cidStock = f.cidStock := by
  simp [Filling.cidStock, Filling.placeRecorded, Filling.place, hframe, hsent]

/-- What one thing that filling does means for connection IDs. -/
inductive Draws (f f' : Filling P) : Prop where
  | none : f'.conn.cidBook = f.conn.cidBook → f'.cidStock = f.cidStock → Draws f f'
  | new (issued : IssuedCid) (rest : List IssuedCid) :
      f.conn.cidBook.issued.pendingNew = issued :: rest →
      f'.conn.cidBook = f.conn.cidBook.leave rest f.conn.cidBook.held.pendingRetire →
      f'.cidStock = (f.cidStock.1 ++ [issued.announcement], f.cidStock.2 ++ [issued.record]) →
      Draws f f'
  | retire (seq : Nat) (rest : List Nat) :
      f.conn.cidBook.held.pendingRetire = seq :: rest →
      f'.conn.cidBook = f.conn.cidBook.leave f.conn.cidBook.issued.pendingNew rest →
      f'.cidStock = (f.cidStock.1 ++ [.retireConnectionId seq],
        f.cidStock.2 ++ [.retireConnectionId seq]) →
      Draws f f'

theorem FillStep.draws {kind : SpaceKind} {budget : Nat} {f' : Filling P}
    (h : FillStep kind budget f f') : Draws f f' := by
  cases h with
  | newConnectionId hpending =>
    exact .new _ _ hpending rfl
      (by simp [Filling.cidStock, Filling.placeRecorded, Filling.place, Frame.isCid,
        SentFrame.isCid, IssuedCid.announcement, IssuedCid.record])
  | retireConnectionId hpending =>
    exact .retire _ _ hpending rfl
      (by simp [Filling.cidStock, Filling.placeRecorded, Filling.place, Frame.isCid,
        SentFrame.isCid])
  | ack hack =>
    obtain ⟨_, _, _, _, rfl⟩ := buildAck_frame hack
    exact .none rfl (by simp [Filling.cidStock, Frame.isCid])
  | crypto =>
    refine .none ?_ (cidStock_placeRecorded _ _ rfl rfl)
    cases kind <;> rfl
  | mtuProbe =>
    simp only [fillMtuProbe]
    split <;> exact .none rfl (by
      simp [Filling.cidStock, Filling.placeRecorded, Filling.place, Frame.isCid, SentFrame.isCid])
  | maxStreams | streamsBlocked | newToken | keepAlive | keyUpdate =>
    exact .none rfl (cidStock_placeRecorded _ _ rfl rfl)
  | streamFlow | connectionBlocked | streamBlocked =>
    refine .none ?_ rfl
    simp only [ensureStreamSendFlow, noteBlockedConnection, noteBlockedStream]
    repeat' split
    all_goals rfl
  | stream =>
    refine .none ?_ (cidStock_placeRecorded _ _ rfl rfl)
    simp only [Filling.placeRecorded, Filling.place, chargeFlow]
    split <;> rfl
  | probe =>
    dsimp only
    split
    · exact .none rfl rfl
    · exact .none rfl (cidStock_placeRecorded _ _ rfl rfl)
  | forgetMtuProbe | dropDataBlocked => exact .none rfl rfl
  | _ => exact .none rfl (cidStock_place _ _ rfl)

/-- What filling a packet has taken from the front of what is to be said. -/
structure Drawn (c : Connection P) (f : Filling P) (announced : List IssuedCid)
    (retired : List Nat) : Prop where
  book : f.conn.cidBook = c.cidBook.leave f.conn.cidBook.issued.pendingNew
    f.conn.cidBook.held.pendingRetire
  new : c.cidBook.issued.pendingNew = announced ++ f.conn.cidBook.issued.pendingNew
  old : c.cidBook.held.pendingRetire = retired ++ f.conn.cidBook.held.pendingRetire
  placed : ∀ frame ∈ f.cidStock.1, frame ∈ announced.map IssuedCid.announcement ∨
    frame ∈ retired.map Frame.retireConnectionId
  recorded : ∀ frame ∈ f.cidStock.2, frame ∈ announced.map IssuedCid.record ∨
    frame ∈ retired.map SentFrame.retireConnectionId

theorem Draws.drawn {c : Connection P} {f' : Filling P} (hstep : Draws f f')
    {announced : List IssuedCid} {retired : List Nat} (h : Drawn c f announced retired) :
    ∃ announced' retired', Drawn c f' announced' retired' := by
  obtain ⟨hbook, hnew, hold, hplaced, hrecorded⟩ := h
  cases hstep with
  | none hsame hstock =>
    refine ⟨announced, retired, ?_, ?_, ?_, hstock ▸ hplaced, hstock ▸ hrecorded⟩
    · rw [hsame]
      exact hbook
    · rw [hsame]
      exact hnew
    · rw [hsame]
      exact hold
  | new issued rest hpending hleft hstock =>
    refine ⟨announced ++ [issued], retired, ?_, ?_, ?_, ?_, ?_⟩
    · rw [hleft, hbook]
      rfl
    · rw [hleft, hnew, hpending, List.append_assoc]
      rfl
    · rw [hleft, hold]
      rfl
    · rw [hstock]
      grind
    · rw [hstock]
      grind
  | retire seq rest hpending hleft hstock =>
    refine ⟨announced, retired ++ [seq], ?_, ?_, ?_, ?_, ?_⟩
    · rw [hleft, hbook]
      rfl
    · rw [hleft, hnew]
      rfl
    · rw [hleft, hold, hpending, List.append_assoc]
      rfl
    · rw [hstock]
      grind
    · rw [hstock]
      grind

variable (c : Connection P)

theorem fillPayload_drawn (kind : SpaceKind) (budget : Nat) :
    ∃ announced retired, Drawn c (c.fillPayload kind budget) announced retired := by
  refine (fillPayload_fills c kind budget).invariant
    (I := fun f => ∃ announced retired, Drawn c f announced retired) ?_ ?_
  · rintro f f' hstep ⟨announced, retired, hf⟩
    exact (FillStep.draws hstep).drawn hf
  · exact ⟨[], [], rfl, rfl, rfl, nofun, nofun⟩

theorem sealFilled_cidBook {c : Connection P} {announced : List IssuedCid}
    {retired : List Nat} (h : Drawn c f announced retired) (now : Time) (kind : SpaceKind)
    (out : Bytes) : c.cidBook.Step (sealFilled f now kind out).1.cidBook := by
  obtain ⟨_, _, _, _, stores, new, hsealed, hnew, htracked⟩ := sealFilled_conn f now kind out
  have hheard : new.filterMap Event.heardCid = [] := by
    refine List.filterMap_eq_nil_iff.mpr fun e he => ?_
    rcases hnew e he with ⟨_, _, _, rfl⟩ | ⟨_, rfl⟩ <;> rfl
  have hbook : (sealFilled f now kind out).1.cidBook = { f.conn.cidBook with
      stores := stores, said := new.flatMap Event.saidCids ++ f.conn.cidBook.said } := by
    simp only [hsealed, cidBook, List.filterMap_append, hheard, List.flatMap_append,
      List.nil_append]
  rw [hbook, h.book]
  refine .send h.new h.old (fun frame hframe hcid => ?_) fun frame hframe => ?_
  · obtain ⟨kind', pn, p, hp, hmem⟩ := hframe
    rcases htracked kind' pn p hp with hsame | ⟨hframes, -⟩
    · exact .inl ⟨kind', pn, p, (congrArg (·.stores) h.book : f.conn.sentPackets = _) ▸ hsame, hmem⟩
    · exact .inr (h.recorded frame (List.mem_filter.mpr ⟨hframes ▸ hmem, hcid⟩))
  obtain ⟨e, he, hmem⟩ := List.mem_flatMap.mp hframe
  rcases hnew e he with ⟨_, _, _, rfl⟩ | ⟨_, rfl⟩
  · cases hmem
  · exact h.placed frame hmem

theorem writeIf_cidBook (cond : Bool) (c : Connection P) (now : Time) (kind : SpaceKind)
    (out : Bytes) : c.cidBook.Steps (writeIf cond c now kind out).1.cidBook := by
  refine writeIf_cases (I := fun r => c.cidBook.Steps r.1.cidBook) (.refl _) fun budget _ => ?_
  obtain ⟨announced, retired, hdrawn⟩ := fillPayload_drawn c kind budget
  split
  · rw [hdrawn.book]
    exact .single (@CidBook.Step.send _ _ _ _ _ c.sentPackets [] hdrawn.new hdrawn.old
      (fun _ hframe _ => .inl hframe) (List.forall_mem_nil _))
  · exact .single (sealFilled_cidBook hdrawn now kind out)

theorem sent_cidBook (dest : SocketAddr) (kind : SpaceKind) {frames : List Frame}
    (h : ∀ frame ∈ frames, frame.isCid = false) :
    (c.log (.sent dest kind frames)).cidBook = c.cidBook := by
  have hnone : frames.filter Frame.isCid = [] :=
    List.filter_eq_nil_iff.mpr fun frame hframe => by simp [h frame hframe]
  have hlog : (c.log (.sent dest kind frames)).cidBook
      = { c.cidBook with said := frames.filter Frame.isCid ++ c.cidBook.said } := rfl
  rw [hlog, hnone]
  rfl

theorem writeEarly_cidBook (wroteInitial : Bool) (c : Connection P) (out : Bytes) :
    (writeEarly wroteInitial c out).1.cidBook = c.cidBook := by
  have hearly : ∀ frame ∈ c.earlyFrames, frame.isCid = false := by
    intro frame hframe
    obtain ⟨early, -, rfl⟩ := List.mem_map.mp hframe
    rfl
  exact writeEarly_cases (I := fun r => r.1.cidBook = c.cidBook) rfl (fun _ _ _ => rfl)
    fun _ _ _ _ => sent_cidBook _ _ .application hearly

theorem emitClose_cidBook (out : Bytes) : (c.emitClose out).1.cidBook = c.cidBook := by
  obtain ⟨_, new, hclosed, -, hnew⟩ := emitClose_conn c out
  rw [hclosed]
  refine append_ignored (f := fun trace => cidBook { c with trace := trace })
    (fun e he trace => ?_) c.trace
  rcases hnew e he with ⟨_, _, _, rfl⟩ | ⟨_, _, _, hframe, rfl⟩
  · rfl
  · obtain ⟨_, _, _, _, rfl⟩ := takeClose_isClose hframe
    rfl

/-! ## Calls and updates -/

theorem step_cidBook (hsimple : op.isSimple = true)
    (hpop : op ≠ .popCidEvent) : (c.step op).cidBook = c.cidBook := by
  by_cases haside : op.isAside = true
  · exact (congrArg cidBook (step_aside c haside) :)
  cases op with
  | openBidi | openUni | sendStream | readStream | pollReadable | pollNewPeerStream | resetStream
  | queueEarlyData | close | initiateKeyUpdate =>
    simp only [step, openBidi, openUni, sendStream, readStream, pollReadable, pollNewPeerStream,
      resetStream, queueEarlyData, close, initiateKeyUpdate]
    repeat' split
    all_goals rfl
  | popCidEvent => exact absurd rfl hpop
  | _ => first | exact absurd rfl haside | cases hsimple

theorem Update.steps_or_call {c : Connection P} (h : Update op c d) :
    c.cidBook.Steps d.cidBook ∨ op.isSimple = true ∧ d = c.step op := by
  by_cases hcall : op.isSimple = true ∧ d = c.step op
  · exact .inr hcall
  refine .inl ?_
  cases h with
  | call c hsimple => exact absurd ⟨hsimple, rfl⟩ hcall
  | pump op c =>
    exact .of_eq (Unkeyed.pumpOnce ⟨fun _ _ _ _ _ => rfl, fun _ _ => rfl, fun _ _ _ _ => rfl⟩ c)
  | refresh op c => exact refreshHandshakeComplete_cidBook c
  | retry c now datagram offset =>
    simp only [recvRetryPacket]
    split
    · exact .refl _
    rename_i scid token hretry
    exact .single (.adopt scid (acceptableRetry_guard hretry).1)
  | adopt c now datagram parsed =>
    simp only [adoptPeerCid]
    split
    · rename_i hadopt
      simp only [Bool.and_eq_true, decide_eq_true_eq] at hadopt
      exact .single (.adopt parsed.scid hadopt.1.1)
    · exact .refl _
  | follow c now datagram =>
    obtain ⟨_, _, -, hfollow⟩ := performKeyUpdate_conn c now
    rw [hfollow]
    exact .refl _
  | frame c now datagram packetType frame => exact takeFrame_cidBook c now packetType frame
  | close c now out => exact .of_eq (emitClose_cidBook c out)
  | advance c now out => exact .of_eq (advanceRecvFlow_kept (fun _ _ _ _ _ => rfl) c)
  | initial c now out buf | handshake c now out buf | application c now out buf =>
    exact writeIf_cidBook _ c now _ buf
  | early c now out buf wroteInitial => exact .of_eq (writeEarly_cidBook wroteInitial c buf)
  | earlyKeys | keepAlive | mtu =>
    simp only [tryInstallZeroRttKeys, keepAliveDue, mtuProbeDue]
    split <;> exact .refl _
  | loss c now =>
    exact steps_of_recovered ((recovers_cidBook c).lossTimerDue ⟨fun _ _ _ hp => hp, .refl _⟩ now)
  | _ => exact .refl _

theorem Update.cidBook {c : Connection P} (h : Update op c d) :
    c.cidBook.Steps d.cidBook ∨ op = .popCidEvent ∧ d = c.step .popCidEvent := by
  rcases h.steps_or_call with hsteps | ⟨hsimple, rfl⟩
  · exact .inl hsteps
  by_cases hpop : op = .popCidEvent
  · subst hpop
    exact .inr ⟨rfl, rfl⟩
  · exact .inl (.of_eq (step_cidBook c hsimple hpop))

theorem popCidEvent_cidBook :
    (c.step .popCidEvent).cidBook = { c.cidBook with events := c.cidBook.events.tail } ∧
      c.popCidEvent.2.toList ++ c.cidBook.events.tail = c.cidBook.events := by
  simp only [step, popCidEvent, cidBook]
  cases hevents : c.cids.pendingCidEvents with
  | nil => exact ⟨by rw [hevents]; rfl, rfl⟩
  | cons event rest => exact ⟨rfl, rfl⟩

section Invariant

variable {I : CidBook → Prop} (hstep : ∀ {a b : CidBook}, I a → a.Step b → I b)
  (hpop : ∀ {b : CidBook}, I b → I { b with events := b.events.tail })
include hstep hpop

/-- What every step keeps and the queue of events has no part in is kept by the updates of a
call. -/
theorem Updates.cidBook {c : Connection P} (hd : Updates op c d) (h : I c.cidBook) :
    I d.cidBook := by
  refine hd.invariant (I := fun d => I d.cidBook) (fun {d e} hd' hupdate => ?_) h
  rcases hupdate.cidBook with hsteps | ⟨-, rfl⟩
  · exact hsteps.invariant hstep hd'
  · rw [(popCidEvent_cidBook d).1]
    exact hpop hd'

theorem run_cidBook {c : Connection P} (h : I c.cidBook) (ops : List Op) : I (c.run ops).cidBook :=
  run_invariant (I := fun d : Connection P => I d.cidBook)
    (fun d op hd => Updates.cidBook hstep hpop (d.step_updates op) hd) ops h

end Invariant

end Connection

end OxiQuic
