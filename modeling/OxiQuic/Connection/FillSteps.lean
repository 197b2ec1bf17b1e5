import Mathlib.Logic.Relation
import OxiQuic.Connection.Fill

/-!
# What filling a packet can do

`FillStep` has one constructor for each thing that a block of `fill_payload` may do, with
the condition under which it does it, and `fillPayload_fills` says that a filled packet
comes about by such steps.  What holds of every packet is then shown step by step, by cases
on the constructors, and no block is looked at again.
-/

namespace OxiQuic

open Lib

variable {P : Platform} (c : Connection P)

def StreamLimit.quiet (l : StreamLimit) : StreamLimit :=
  { l with sentMaxStreams := 0, pendingMaxStreams := none, pendingStreamsBlocked := none }

/-- Whether a frame is a control frame, of those that only the application space carries. -/
def Frame.isControl : Frame → Bool
  | .pathResponse .. => true
  | .pathChallenge .. => true
  | .handshakeDone => true
  | .maxData .. => true
  | .maxStreamData .. => true
  | .dataBlocked .. => true
  | .streamDataBlocked .. => true
  | .resetStream .. => true
  | .stopSending .. => true
  | .newConnectionId .. => true
  | .retireConnectionId .. => true
  | .maxStreams .. => true
  | .streamsBlocked .. => true
  | .newToken .. => true
  | .datagram .. => true
  | _ => false

namespace Connection

/-- A connection that has nothing to say besides stream data. -/
def quiet (c : Connection P) : Connection P :=
  { c with
    spaces := c.spaces.map fun s => { s with ackPending := false }
    initialCrypto := {}
    handshakeCrypto := {}
    hs := { c.hs with handshakeDone := false }
    timers := { c.timers with pendingKeepAlivePing := false }
    recovery := { c.recovery with probesOwed := 0 }
    flow := { c.flow with
      pendingMaxData := none, pendingMaxStreamData := ∅
      pendingDataBlocked := none, pendingStreamDataBlocked := ∅ }
    resets := {}
    path := { c.path with pendingPathResponse := none, pendingPathChallengeSend := false }
    mtu := { c.mtu with pendingMtuProbe := false }
    limits := ⟨StreamLimit.quiet c.limits.bidi, StreamLimit.quiet c.limits.uni⟩
    datagrams := { c.datagrams with sendQueue := [] }
    tokens := { c.tokens with pendingNew := none }
    cids := { c.cids with
      localCidPool := { c.cids.localCidPool with pendingNew := [] }
      peerCidPool := { c.cids.peerCidPool with pendingRetire := [] } } }

/-- One thing that filling a packet of a space within a budget does. -/
inductive FillStep (kind : SpaceKind) (budget : Nat) (f : Filling P) : Filling P → Prop where
  | ack {space : PacketSpace P} {frame : Frame} :
      (f.conn.spaces.get kind).buildAck 0 = (space, some frame) →
      FillStep kind budget f
        { f with
          conn := { f.conn with spaces := f.conn.spaces.set kind space }
          placed := f.placed ++ [frame] }
  | crypto {stream stream' : CryptoStream} {seg : CryptoSegment} :
      f.conn.cryptoStream kind = some stream → stream.Takes (f.room budget - 16) stream' seg →
      FillStep kind budget f
        ({ f with conn := f.conn.setCryptoStream kind stream' }.placeRecorded
          (.crypto seg.offset seg.data) (.crypto seg.offset seg.data))
  | mtuProbe {size : Nat} :
      f.conn.mtuProbeSize kind = some size → FillStep kind budget f (fillMtuProbe f size)
  /-- A request for a probe without a size is dropped. -/
  | forgetMtuProbe : FillStep kind budget f { f with conn := f.conn.clearMtuProbe }
  | pathResponse {data : Bytes} :
      f.conn.path.pendingPathResponse = some data → 9 ≤ f.room budget →
      FillStep kind budget f
        ({ f with conn := { f.conn with
            path := { f.conn.path with pendingPathResponse := none } } }.place (.pathResponse data))
  | pathChallenge {data : Bytes} :
      f.conn.path.pendingPathChallengeSend = true →
      f.conn.path.pendingPathChallenge = some data → 9 ≤ f.room budget →
      FillStep kind budget f
        ({ f with conn := { f.conn with
            path := { f.conn.path with pendingPathChallengeSend := false } } }.place
          (.pathChallenge data))
  | handshakeDone :
      f.conn.handshakeDoneToSend = true →
      FillStep kind budget f
        ({ f with conn := { f.conn with hs := { f.conn.hs with handshakeDone := true } } }.place
          .handshakeDone)
  | maxData {max : Nat} :
      f.conn.flow.pendingMaxData = some max → 16 < f.room budget →
      FillStep kind budget f
        ({ f with conn := { f.conn with
            flow := { f.conn.flow with pendingMaxData := none } } }.place (.maxData max))
  | maxStreamData {id max : Nat} :
      f.conn.flow.pendingMaxStreamData.get? id = some max → 16 < f.room budget →
      FillStep kind budget f
        ({ f with conn := { f.conn with flow := { f.conn.flow with
            pendingMaxStreamData := f.conn.flow.pendingMaxStreamData.erase id } } }.place
          (.maxStreamData id max))
  | dataBlocked {limit : Nat} :
      f.conn.flow.pendingDataBlocked = some limit → 16 < f.room budget →
      FillStep kind budget f
        ({ f with conn := { f.conn with
            flow := { f.conn.flow with pendingDataBlocked := none } } }.place (.dataBlocked limit))
  /-- An announcement that does not fit is dropped. -/
  | dropDataBlocked :
      FillStep kind budget f
        { f with conn := { f.conn with flow := { f.conn.flow with pendingDataBlocked := none } } }
  | streamDataBlocked {id limit : Nat} :
      f.conn.flow.pendingStreamDataBlocked.get? id = some limit → 16 < f.room budget →
      FillStep kind budget f
        ({ f with conn := { f.conn with flow := { f.conn.flow with
            pendingStreamDataBlocked := f.conn.flow.pendingStreamDataBlocked.erase id } } }.place
          (.streamDataBlocked id limit))
  | resetStream {id errorCode finalSize : Nat} :
      f.conn.resets.pendingResetStreams.get? id = some (errorCode, finalSize) →
      24 < f.room budget →
      FillStep kind budget f
        ({ f with conn := { f.conn with resets := { f.conn.resets with
            pendingResetStreams := f.conn.resets.pendingResetStreams.erase id } } }.place
          (.resetStream id errorCode finalSize))
  | stopSending {id errorCode : Nat} :
      f.conn.resets.pendingStopSending.get? id = some errorCode → 16 < f.room budget →
      FillStep kind budget f
        ({ f with conn := { f.conn with resets := { f.conn.resets with
            pendingStopSending := f.conn.resets.pendingStopSending.erase id } } }.place
          (.stopSending id errorCode))
  | newConnectionId {issued : IssuedCid} {rest : List IssuedCid} :
      f.conn.cids.localCidPool.pendingNew = issued :: rest →
      1 + 8 + 8 + 1 + issued.cid.length + 16 ≤ f.room budget →
      FillStep kind budget f
        ({ f with conn := f.conn.setPendingNew rest }.placeRecorded
          (.newConnectionId issued.seq 0 issued.cid issued.statelessResetToken)
          (.newConnectionId issued.seq 0 issued.cid issued.statelessResetToken))
  | retireConnectionId {seq : Nat} {rest : List Nat} :
      f.conn.cids.peerCidPool.pendingRetire = seq :: rest → 9 ≤ f.room budget →
      FillStep kind budget f
        ({ f with conn := f.conn.setPendingRetire rest }.placeRecorded
          (.retireConnectionId seq) (.retireConnectionId seq))
  | maxStreams {dir : Direction} {max : Nat} :
      (f.conn.limit dir).pendingMaxStreams = some max → 16 ≤ f.room budget →
      FillStep kind budget f
        ({ f with conn := f.conn.setLimit dir { f.conn.limit dir with
            pendingMaxStreams := none, sentMaxStreams := max } }.placeRecorded
          (.maxStreams dir max) (.maxStreams dir max))
  | streamsBlocked {dir : Direction} {limit : Nat} :
      (f.conn.limit dir).pendingStreamsBlocked = some limit → 16 ≤ f.room budget →
      FillStep kind budget f
        ({ f with conn := f.conn.setLimit dir { f.conn.limit dir with
            pendingStreamsBlocked := none } }.placeRecorded
          (.streamsBlocked dir limit) (.streamsBlocked dir limit))
  | newToken {token : Bytes} :
      f.conn.tokens.pendingNew = some token →
      1 + varintSize token.length + token.length ≤ f.room budget →
      FillStep kind budget f
        ({ f with conn := { f.conn with tokens := { f.conn.tokens with
            pendingNew := none } } }.placeRecorded (.newToken token) (.newToken token))
  | datagram {data : Bytes} {rest : List Bytes} :
      f.conn.datagrams.sendQueue = data :: rest →
      1 + varintSize data.length + data.length ≤ f.room budget →
      FillStep kind budget f ({ f with conn := f.conn.setSendQueue rest }.place (.datagram data))
  /-- A stream gets its flow control entry before its first segment. -/
  | streamFlow {id : Nat} {s : SendStream} :
      f.conn.sendStreams.get? id = some s →
      FillStep kind budget f { f with conn := f.conn.ensureStreamSendFlow id }
  | stream {id : Nat} {s s' : SendStream} {seg : Segment} :
      f.conn.sendStreams.get? id = some s → s.resetCode = none →
      s.Takes (f.conn.streamAllowance id s (f.room budget - 24)) s' seg →
      0 < f.conn.streamAllowance id s (f.room budget - 24) →
      FillStep kind budget f
        ({ f with
            conn := chargeFlow { f.conn with sendStreams := f.conn.sendStreams.insert id s' } id
              (seg.offset + seg.data.length) }.placeRecorded
          (.stream id seg.offset seg.fin seg.data) (.stream id seg.offset seg.fin seg.data))
  | connectionBlocked : FillStep kind budget f { f with conn := f.conn.noteBlockedConnection }
  | streamBlocked {id : Nat} : FillStep kind budget f { f with conn := f.conn.noteBlockedStream id }
  | probe :
      0 < f.conn.recovery.probesOwed →
      FillStep kind budget f
        { (if f.ackEliciting then f else f.placeRecorded .ping .ping) with
          conn := { f.conn with recovery := { f.conn.recovery with
            probesOwed := f.conn.recovery.probesOwed - 1 } } }
  | keepAlive :
      f.conn.timers.pendingKeepAlivePing = true →
      FillStep kind budget f
        ({ f with conn := { f.conn with timers := { f.conn.timers with
            pendingKeepAlivePing := false } } }.placeRecorded .ping .ping)
  | keyUpdate :
      kind = .application → f.conn.keyUpdate.keyUpdatePending = true → f.ackEliciting = false →
      FillStep kind budget f (f.placeRecorded .ping .ping)

/-- Several such steps. -/
def Fills (kind : SpaceKind) (budget : Nat) : Filling P → Filling P → Prop :=
  Relation.ReflTransGen (FillStep kind budget)

namespace Fills

variable {kind : SpaceKind} {budget : Nat} {f f' : Filling P}

theorem refl (f : Filling P) : Fills kind budget f f := Relation.ReflTransGen.refl

theorem invariant {I : Filling P → Prop}
    (hstep : ∀ ⦃g g' : Filling P⦄, FillStep kind budget g g' → I g → I g')
    (h : Fills kind budget f f') (hI : I f) : I f' := by
  induction h with
  | refl => exact hI
  | tail _ hs ih => exact hstep hs ih

end Fills

/-- A step that says one of the things that are not stream data: it places control frames if any,
and leaves alone what there is besides things to say. -/
structure ControlStep (kind : SpaceKind) (budget : Nat) (f f' : Filling P) : Prop where
  step : FillStep kind budget f f'
  quiet : f'.conn.quiet = f.conn.quiet
  placed : ∃ frames, f'.placed = f.placed ++ frames ∧ ∀ frame ∈ frames, frame.isControl = true

/-- Several such steps. -/
def Controls (kind : SpaceKind) (budget : Nat) : Filling P → Filling P → Prop :=
  Relation.ReflTransGen (ControlStep kind budget)

variable {kind : SpaceKind} {budget : Nat}

namespace ControlStep

variable {f f' : Filling P} {frame : Frame}

theorem single (hstep : FillStep kind budget f f') (hquiet : f'.conn.quiet = f.conn.quiet)
    (hplaced : f'.placed = f.placed ++ [frame]) (hcontrol : frame.isControl = true) :
    ControlStep kind budget f f' where
  step := hstep
  quiet := hquiet
  placed := ⟨[frame], hplaced, by simpa using hcontrol⟩

theorem isControl (h : ControlStep kind budget f f') {more : List Frame}
    (hplaced : f'.placed = f.placed ++ more) (hframe : frame ∈ more) : frame.isControl = true := by
  obtain ⟨frames, hframes, hcontrol⟩ := h.placed
  rw [hplaced] at hframes
  exact hcontrol frame (List.append_cancel_left hframes ▸ hframe)

end ControlStep

namespace Controls

variable {f f' : Filling P}

theorem refl (f : Filling P) : Controls kind budget f f := Relation.ReflTransGen.refl

theorem invariant {I : Filling P → Prop}
    (hstep : ∀ ⦃g g' : Filling P⦄, ControlStep kind budget g g' → I g → I g')
    (h : Controls kind budget f f') (hI : I f) : I f' := by
  induction h with
  | refl => exact hI
  | tail _ hs ih => exact hstep hs ih

theorem fills (h : Controls kind budget f f') : Fills kind budget f f' :=
  h.invariant (I := Fills kind budget f) (fun _ _ hs hfills => hfills.trans (.single hs.step))
    (.refl f)

theorem quiet (h : Controls kind budget f f') : f'.conn.quiet = f.conn.quiet :=
  h.invariant (I := fun g => g.conn.quiet = f.conn.quiet) (fun _ _ hs hI => hs.quiet.trans hI) rfl

end Controls

/-! ## Every block takes such steps -/

theorem buildAck_frame {s s' : PacketSpace P} {delay : Nat} {frame : Frame}
    (h : s.buildAck delay = (s', some frame)) :
    ∃ largest first ranges, frame = .ack largest delay first ranges := by
  simp only [PacketSpace.buildAck, ReceivedPackets.toAckFrame] at h
  split at h
  · split at h
    · rename_i built hbuilt
      split at hbuilt <;> cases hbuilt
      cases h
      exact ⟨_, _, _, rfl⟩
    · cases h
  · cases h

theorem buildAck_eq_self {s : PacketSpace P} {delay : Nat}
    (h : (s.buildAck delay).2 = none) : (s.buildAck delay).1 = s := by
  simp only [PacketSpace.buildAck] at h ⊢
  split
  · rename_i hpending
    rw [if_pos hpending] at h
    split
    · rename_i frame hframe
      rw [hframe] at h
      cases h
    · rfl
  · rfl

variable (f : Filling P)

theorem fillAck_fills : Fills kind budget f (fillAck f kind) := by
  simp only [fillAck]
  cases hframe : ((f.conn.spaces.get kind).buildAck 0).2 with
  | some frame => exact .single (.ack (Prod.ext rfl hframe))
  | none =>
    rw [buildAck_eq_self hframe, PerSpace.set_get_self]
    exact .refl f

theorem setCryptoStream_self {c : Connection P} {stream : CryptoStream}
    (h : c.cryptoStream kind = some stream) : c.setCryptoStream kind stream = c := by
  cases kind <;> cases h <;> rfl

theorem fillCrypto_fills : Fills kind budget f (fillCrypto f kind budget) := by
  simp only [fillCrypto]
  cases hstream : f.conn.cryptoStream kind with
  | none => exact .refl f
  | some stream =>
    dsimp only
    generalize htaken : stream.takeSend (f.room budget - 16) = taken
    obtain ⟨stream', seg⟩ := taken
    cases seg with
    | none =>
      rw [CryptoStream.takeSend_none htaken, setCryptoStream_self hstream]
      exact .refl f
    | some seg => exact .single (.crypto hstream (CryptoStream.takeSend_takes htaken))

theorem fillPathResponse_controls : Controls kind budget f (fillPathResponse f budget) := by
  simp only [fillPathResponse]
  split
  · exact .refl f
  rename_i data hdata
  split
  · rename_i hroom
    exact .single (.single (.pathResponse hdata hroom) rfl rfl rfl)
  · exact .refl f

theorem fillPathChallenge_controls : Controls kind budget f (fillPathChallenge f budget) := by
  simp only [fillPathChallenge]
  split
  · rename_i hsend
    split
    · exact .refl f
    rename_i data hdata
    split
    · rename_i hroom
      exact .single (.single (.pathChallenge hsend hdata hroom) rfl rfl rfl)
    · exact .refl f
  · exact .refl f

theorem fillHandshakeDone_controls : Controls kind budget f (fillHandshakeDone f) := by
  simp only [fillHandshakeDone]
  split
  · rename_i hdone
    exact .single (.single (.handshakeDone hdone) rfl rfl rfl)
  · exact .refl f

theorem fillMaxData_controls : Controls kind budget f (fillMaxData f budget) := by
  simp only [fillMaxData]
  split
  · exact .refl f
  rename_i max hmax
  split
  · rename_i hroom
    exact .single (.single (.maxData hmax hroom) rfl rfl rfl)
  · exact .refl f

theorem foldl_fillMaxStreamData_controls {updates : List (Nat × Nat)} {f : Filling P}
    (h : f.conn.flow.pendingMaxStreamData.Holds updates) :
    Controls kind budget f (updates.foldl (fillMaxStreamData budget) f) := by
  induction updates generalizing f with
  | nil => exact .refl f
  | cons update rest ih =>
    rw [List.foldl_cons, fillMaxStreamData]
    split
    · rename_i hroom
      exact .head (.single (.maxStreamData h.head hroom) rfl rfl rfl) (ih h.erase)
    · exact ih h.tail

theorem fillDataBlocked_controls : Controls kind budget f (fillDataBlocked f budget) := by
  simp only [fillDataBlocked]
  split
  · exact .refl f
  rename_i limit hlimit
  split
  · rename_i hroom
    exact .single (.single (.dataBlocked hlimit hroom) rfl rfl rfl)
  · exact .single ⟨.dropDataBlocked, rfl, [], (List.append_nil _).symm, nofun⟩

theorem foldl_fillStreamDataBlocked_controls {blocked : List (Nat × Nat)} {f : Filling P}
    (h : f.conn.flow.pendingStreamDataBlocked.Holds blocked) :
    Controls kind budget f (blocked.foldl (fillStreamDataBlocked budget) f) := by
  induction blocked generalizing f with
  | nil => exact .refl f
  | cons b rest ih =>
    rw [List.foldl_cons, fillStreamDataBlocked]
    split
    · rename_i hroom
      exact .head (.single (.streamDataBlocked h.head hroom) rfl rfl rfl) (ih h.erase)
    · exact ih h.tail

theorem fillFlowControlFrames_controls : Controls kind budget f (fillFlowControlFrames f budget) :=
  (((fillMaxData_controls f).trans (foldl_fillMaxStreamData_controls (OrdMap.holds_entries _))).trans
    (fillDataBlocked_controls _)).trans
    (foldl_fillStreamDataBlocked_controls (OrdMap.holds_entries _))

theorem fillResetStreams_controls {pending : List (Nat × Nat × Nat)} {f : Filling P}
    (h : f.conn.resets.pendingResetStreams.Holds pending) :
    Controls kind budget f (fillResetStreams budget pending f) := by
  induction pending generalizing f with
  | nil => exact .refl f
  | cons r rest ih =>
    obtain ⟨id, errorCode, finalSize⟩ := r
    simp only [fillResetStreams]
    split
    · rename_i hroom
      exact .head (.single (.resetStream h.head hroom) rfl rfl rfl) (ih h.erase)
    · exact .refl f

theorem fillStopSendings_controls {pending : List (Nat × Nat)} {f : Filling P}
    (h : f.conn.resets.pendingStopSending.Holds pending) :
    Controls kind budget f (fillStopSendings budget pending f) := by
  induction pending generalizing f with
  | nil => exact .refl f
  | cons r rest ih =>
    obtain ⟨id, errorCode⟩ := r
    simp only [fillStopSendings]
    split
    · rename_i hroom
      exact .head (.single (.stopSending h.head hroom) rfl rfl rfl) (ih h.erase)
    · exact .refl f

-- The loops over a queue write back what is left of it only at their end.  They are taken
-- from the state that has the rest of the queue in place.
theorem fillNewConnectionIds_controls_from (pending : List IssuedCid) (f : Filling P) :
    Controls kind budget { f with conn := f.conn.setPendingNew pending }
      (fillNewConnectionIds budget pending f) := by
  induction pending generalizing f with
  | nil => exact .refl _
  | cons issued rest ih =>
    simp only [fillNewConnectionIds]
    split
    · exact .refl _
    rename_i hroom
    exact .head (.single (.newConnectionId rfl (Nat.le_of_not_lt hroom)) rfl rfl rfl)
      (ih (f.placeRecorded _ _))

theorem fillNewConnectionIds_controls :
    Controls kind budget f (fillNewConnectionIds budget f.conn.cids.localCidPool.pendingNew f) :=
  fillNewConnectionIds_controls_from _ f

theorem fillRetireConnectionIds_controls_from (pending : List Nat) (f : Filling P) :
    Controls kind budget { f with conn := f.conn.setPendingRetire pending }
      (fillRetireConnectionIds budget pending f) := by
  induction pending generalizing f with
  | nil => exact .refl _
  | cons seq rest ih =>
    simp only [fillRetireConnectionIds]
    split
    · exact .refl _
    rename_i hroom
    exact .head (.single (.retireConnectionId rfl (Nat.le_of_not_lt hroom)) rfl rfl rfl)
      (ih (f.placeRecorded _ _))

theorem fillRetireConnectionIds_controls :
    Controls kind budget f (fillRetireConnectionIds budget f.conn.cids.peerCidPool.pendingRetire f) :=
  fillRetireConnectionIds_controls_from _ f

theorem fillMaxStreams_controls (dir : Direction) :
    Controls kind budget f (fillMaxStreams f budget dir) := by
  simp only [fillMaxStreams]
  split
  · exact .refl f
  rename_i max hmax
  split
  · rename_i hroom
    exact .single (.single (.maxStreams hmax hroom) (by cases dir <;> rfl) rfl rfl)
  · exact .refl f

theorem fillStreamsBlocked_controls (dir : Direction) :
    Controls kind budget f (fillStreamsBlocked f budget dir) := by
  simp only [fillStreamsBlocked]
  split
  · exact .refl f
  rename_i limit hlimit
  split
  · rename_i hroom
    exact .single (.single (.streamsBlocked hlimit hroom) (by cases dir <;> rfl) rfl rfl)
  · exact .refl f

theorem fillNewToken_controls : Controls kind budget f (fillNewToken f budget) := by
  simp only [fillNewToken]
  split
  · split
    · exact .refl f
    rename_i token htoken
    split
    · rename_i hroom
      exact .single (.single (.newToken htoken hroom) rfl rfl rfl)
    · exact .refl f
  · exact .refl f

theorem fillDatagrams_controls_from (queue : List Bytes) (f : Filling P) :
    Controls kind budget { f with conn := f.conn.setSendQueue queue }
      (fillDatagrams budget queue f) := by
  induction queue generalizing f with
  | nil => exact .refl _
  | cons data rest ih =>
    simp only [fillDatagrams]
    split
    · exact .refl _
    · rename_i hroom
      exact .head (.single (.datagram rfl (Nat.le_of_not_lt hroom)) rfl rfl rfl) (ih (f.place _))

theorem fillDatagrams_controls :
    Controls kind budget f (fillDatagrams budget f.conn.datagrams.sendQueue f) :=
  fillDatagrams_controls_from _ f

theorem ensureStreamSendFlow_sendStreams (id : Nat) :
    (c.ensureStreamSendFlow id).sendStreams = c.sendStreams := by
  simp only [ensureStreamSendFlow]
  split <;> rfl

theorem fillStream_fills {f : Filling P} {id : Nat} {s : SendStream}
    (hs : f.conn.sendStreams.get? id = some s) :
    Fills kind budget f (fillStream f id s (f.room budget - 24)) := by
  have hget : (f.conn.ensureStreamSendFlow id).sendStreams.get? id = some s := by
    rw [ensureStreamSendFlow_sendStreams, hs]
  refine .head (.streamFlow hs) ?_
  simp only [fillStream]
  generalize f.conn.ensureStreamSendFlow id = d at hget
  split
  · exact .refl
  rename_i hallow
  generalize htaken : s.take _ = taken
  obtain ⟨s', seg⟩ := taken
  cases seg with
  | none =>
    rw [SendStream.take_none htaken, OrdMap.insert_of_get?_eq_some hget]
  | some seg =>
    obtain ⟨hreset, htakes⟩ := SendStream.take_takes htaken
    exact .single (.stream (f := { f with conn := d }) hget hreset htakes
      (Nat.pos_of_ne_zero hallow))

theorem fillStreams_fills (ids : List Nat) (f : Filling P) :
    Fills kind budget f (fillStreams budget ids f) := by
  induction ids generalizing f with
  | nil => exact .refl f
  | cons id rest ih =>
    simp only [fillStreams]
    split
    · exact .refl f
    split
    · exact ih f
    rename_i s hs
    split
    · exact ih f
    · exact (fillStream_fills hs).trans (ih _)

theorem noteBlockedStreams_fills :
    Fills kind budget f { f with conn := f.conn.noteBlockedStreams } := by
  have hfold : ∀ (ids : List Nat) (d : Connection P),
      Fills kind budget { f with conn := d } { f with conn := ids.foldl noteBlockedStream d } := by
    intro ids
    induction ids with
    | nil => exact fun d => .refl _
    | cons id rest ih => exact fun d => .head .streamBlocked (ih _)
  exact .head .connectionBlocked (hfold _ _)

/-- The control frames of an application packet. -/
def fillControl (f : Filling P) (budget : Nat) : Filling P :=
  let f := fillPathResponse f budget
  let f := fillPathChallenge f budget
  let f := fillHandshakeDone f
  let f := fillFlowControlFrames f budget
  let f := fillResetStreamFrames f budget
  let f := fillStopSendingFrames f budget
  let f := fillNewConnectionIds budget f.conn.cids.localCidPool.pendingNew f
  let f := fillRetireConnectionIds budget f.conn.cids.peerCidPool.pendingRetire f
  let f := fillMaxStreams f budget .bidirectional
  let f := fillMaxStreams f budget .unidirectional
  let f := fillStreamsBlocked f budget .bidirectional
  let f := fillStreamsBlocked f budget .unidirectional
  let f := fillNewToken f budget
  fillDatagrams budget f.conn.datagrams.sendQueue f

theorem fillApplication_eq (budget : Nat) :
    fillApplication f budget = fillStreamFrames (fillControl f budget) budget := rfl

theorem fillControl_controls (kind : SpaceKind) (f : Filling P) (budget : Nat) :
    Controls kind budget f (fillControl f budget) := by
  simp only [fillControl]
  refine .trans ?_ (fillDatagrams_controls _)
  refine .trans ?_ (fillNewToken_controls _)
  refine .trans ?_ (fillStreamsBlocked_controls _ _)
  refine .trans ?_ (fillStreamsBlocked_controls _ _)
  refine .trans ?_ (fillMaxStreams_controls _ _)
  refine .trans ?_ (fillMaxStreams_controls _ _)
  refine .trans ?_ (fillRetireConnectionIds_controls _)
  refine .trans ?_ (fillNewConnectionIds_controls _)
  refine .trans ?_ (fillStopSendings_controls (OrdMap.holds_entries _))
  refine .trans ?_ (fillResetStreams_controls (OrdMap.holds_entries _))
  refine .trans ?_ (fillFlowControlFrames_controls _)
  refine .trans ?_ (fillHandshakeDone_controls _)
  refine .trans ?_ (fillPathChallenge_controls _)
  exact fillPathResponse_controls f

theorem fillApplication_fills : Fills kind budget f (fillApplication f budget) := by
  rw [fillApplication_eq]
  refine (fillControl_controls kind f budget).fills.trans ?_
  exact (fillStreams_fills _ _).trans (noteBlockedStreams_fills _)

theorem fillProbe_fills : Fills kind budget f (fillProbe f) := by
  simp only [fillProbe]
  split
  · rename_i howed
    have hconn : (if f.ackEliciting then f else f.placeRecorded .ping .ping).conn = f.conn := by
      split <;> rfl
    rw [hconn]
    exact .single (.probe howed)
  · exact .refl f

theorem fillKeepAlive_fills : Fills kind budget f (fillKeepAlive f) := by
  simp only [fillKeepAlive]
  split
  · rename_i hping
    exact .single (.keepAlive hping)
  · exact .refl f

theorem fillKeyUpdatePing_fills (hkind : kind = .application) (f : Filling P) :
    Fills kind budget f (fillKeyUpdatePing f) := by
  simp only [fillKeyUpdatePing]
  split
  · rename_i hping
    rw [Bool.and_eq_true, Bool.not_eq_true'] at hping
    exact .single (.keyUpdate hkind hping.1 hping.2)
  · exact .refl f

theorem fillRest_fills : Fills kind budget f (fillRest f kind budget) := by
  rw [fillRest]
  split
  · rename_i hkind
    exact .head .forgetMtuProbe ((((fillApplication_fills _).trans (fillProbe_fills _)).trans
      (fillKeepAlive_fills _)).trans (fillKeyUpdatePing_fills hkind _))
  · exact fillProbe_fills f

theorem fillPayload_fills_fillAck (kind : SpaceKind) (budget : Nat) :
    Fills kind budget (fillAck { conn := c } kind) (c.fillPayload kind budget) := by
  have hstart : Fills kind budget (fillAck { conn := c } kind)
      (fillCrypto (fillAck { conn := c } kind) kind budget) := fillCrypto_fills _
  simp only [fillPayload]
  split
  · rename_i size hsize
    exact hstart.trans (.single (.mtuProbe hsize))
  · exact hstart.trans (fillRest_fills _)

theorem fillPayload_fills (kind : SpaceKind) (budget : Nat) :
    Fills kind budget { conn := c } (c.fillPayload kind budget) :=
  (fillAck_fills _).trans (fillPayload_fills_fillAck c kind budget)

end Connection

end OxiQuic
