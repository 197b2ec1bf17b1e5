import OxiQuic.Connection.Closure
import OxiQuic.Connection.StreamState

/-!
# The number of streams that the peer may open

A connection advertises how many streams the peer may open in its transport parameters, and means
to raise the limit by the number of the peer's streams that are over when the peer asks for it with
`STREAMS_BLOCKED`.  Nothing counts these streams, so that the limit that it computes is always the
one it has advertised, and no `MAX_STREAMS` frame is ever sent (`Connection.Fresh.run_unraised`).
-/

namespace OxiQuic

open Lib Plain

variable {P : Platform} {c d : Connection P} {frame : SentFrame} {f : Filling P} {op : Op}

/-- No stream of the peer counts as closed, and what was advertised first is advertised still. -/
structure StreamLimit.Unraised (l : StreamLimit) (initial : Nat) : Prop where
  closedPeer : l.closedPeer = 0
  pendingMaxStreams : l.pendingMaxStreams = none
  sentMaxStreams : l.sentMaxStreams = initial
  localMaxStreams : l.localMaxStreams = initial

theorem StreamLimit.Unraised.raise {l : StreamLimit} {initial : Nat} (h : l.Unraised initial) :
    Connection.raiseMaxStreams l = l := by
  simp only [Connection.raiseMaxStreams, h.localMaxStreams, h.closedPeer, h.sentMaxStreams]
  exact if_neg (Nat.lt_irrefl _)

def Frame.isMaxStreams : Frame → Bool
  | .maxStreams _ _ => true
  | _ => false

def SentFrame.isMaxStreams : SentFrame → Bool
  | .maxStreams _ _ => true
  | _ => false

namespace Connection

theorem limit_of_limits (h : d.limits = c.limits) (dir : Direction) :
    d.limit dir = c.limit dir := by
  cases dir <;> simp only [limit, h]

theorem limit_setLimit (c : Connection P) (dir : Direction) (l : StreamLimit) (dir' : Direction) :
    (c.setLimit dir l).limit dir' = if dir' = dir then l else c.limit dir' := by
  cases dir <;> cases dir' <;> rfl

theorem limit_modify {dir : Direction} {g : StreamLimit → StreamLimit}
    (h : d.limits = c.limits.modify dir g) (dir' : Direction) :
    d.limit dir' = if dir' = dir then g (c.limit dir') else c.limit dir' := by
  cases dir <;> cases dir' <;> simp only [limit, h] <;> rfl

/-! ## Limits -/

/-- Both limits are as they were advertised first. -/
def LimitsUnraised (initial : Direction → Nat) (c : Connection P) : Prop :=
  ∀ dir, (c.limit dir).Unraised (initial dir)

variable {initial : Direction → Nat}

theorem LimitsUnraised.of_limits (h : c.LimitsUnraised initial)
    (hlimits : d.limits = c.limits) : d.LimitsUnraised initial :=
  fun dir => (limit_of_limits hlimits dir).symm ▸ h dir

theorem LimitsUnraised.modify (h : c.LimitsUnraised initial) (dir : Direction)
    {g : StreamLimit → StreamLimit} (hlimits : d.limits = c.limits.modify dir g)
    (hg : ∀ l : StreamLimit, l.Unraised (initial dir) → (g l).Unraised (initial dir)) :
    d.LimitsUnraised initial := by
  intro dir'
  rw [limit_modify hlimits dir']
  split
  · rename_i hdir
    subst hdir
    exact hg _ (h dir')
  · exact h dir'

theorem LimitsUnraised.block (h : c.LimitsUnraised initial) (dir : Direction) {limit : Nat}
    (hlimits : d.limits = c.limits.modify dir ({ · with pendingStreamsBlocked := some limit })) :
    d.LimitsUnraised initial := h.modify dir hlimits fun _ hl =>
    ⟨hl.closedPeer, hl.pendingMaxStreams, hl.sentMaxStreams, hl.localMaxStreams⟩

theorem step_limitsUnraised (h : c.LimitsUnraised initial)
    (hdeal : op.isDeal = true) : (c.step op).LimitsUnraised initial := by
  cases op with
  | openBidi =>
    simp only [step, openBidi]
    split
    · exact h.block .bidirectional rfl
    · exact h.of_limits rfl
  | openUni =>
    simp only [step, openUni]
    split
    · exact h.block .unidirectional rfl
    · exact h.of_limits rfl
  | sendStream | queueEarlyData | resetStream =>
    simp only [step, sendStream, queueEarlyData, resetStream]
    split <;> exact h.of_limits rfl
  | _ => cases hdeal

theorem learnPeerParams_limitsUnraised (h : c.LimitsUnraised initial) :
    c.learnPeerParams.LimitsUnraised initial := by
  simp only [learnPeerParams]
  split
  · exact h
  split
  · exact h
  split
  · exact h
  intro dir
  have hdir := h dir
  cases dir <;> exact ⟨hdir.closedPeer, hdir.pendingMaxStreams, hdir.sentMaxStreams,
    hdir.localMaxStreams⟩

theorem takeFrame_limitsUnraised (h : c.LimitsUnraised initial) (now : Time)
    (packetType : PacketType) {frame : Frame} (hdeal : frame.isDeal = true) :
    (c.takeFrame now packetType frame).1.LimitsUnraised initial := by
  cases frame with
  | stopSending streamId errorCode =>
    simp only [takeFrame, handleFrame, recvStopSending]
    split <;> exact h.of_limits rfl
  | stream id offset fin data =>
    exact h.of_limits (recvStream_kept (f := limits) (fun _ _ _ _ => rfl) (c.log _) id offset fin data)
  | maxStreams dir max =>
    refine h.modify dir rfl fun l hl => ?_
    simp only [raisePeerMaxStreams]
    split
    · exact ⟨hl.closedPeer, hl.pendingMaxStreams, hl.sentMaxStreams, hl.localMaxStreams⟩
    · exact hl
  | streamsBlocked dir max => exact h.modify dir rfl fun l hl => hl.raise.symm ▸ hl
  | _ => cases hdeal

theorem requeueFrame_limitsUnraised (h : c.LimitsUnraised initial)
    (idx : SpaceKind) (hframe : frame.isMaxStreams = false) :
    (c.requeueFrame idx frame).LimitsUnraised initial := by
  cases frame with
  | maxStreams dir max => cases hframe
  | streamsBlocked dir limit => exact h.block dir rfl
  | crypto | newToken =>
    simp only [requeueFrame]
    split <;> exact h.of_limits rfl
  | _ => exact h.of_limits rfl

/-- A packet is filled without a `MAX_STREAMS` frame. -/
structure FilledUnraised (initial : Direction → Nat) (f : Filling P) : Prop where
  limits : f.conn.LimitsUnraised initial
  placed : ∀ frame ∈ f.dealt.1, frame.isMaxStreams = false
  frames : ∀ frame ∈ f.dealt.2, frame.isMaxStreams = false

theorem Says.unraised {f' : Filling P} (h : FilledUnraised initial f) (htells : Says f f') :
    FilledUnraised initial f' := by
  have hlimits : ∀ {u : Dealings P}, f'.conn.dealings = u → u.limits = f.conn.limits →
      f'.conn.LimitsUnraised initial :=
    fun hdealings hu => h.limits.of_limits ((congrArg Dealings.limits hdealings).trans hu)
  cases htells with
  | none hdealings hdealt =>
    exact ⟨hlimits hdealings rfl, hdealt ▸ h.placed, hdealt ▸ h.frames⟩
  | reset id errorCode finalSize _ hdealings hdealt =>
    refine ⟨hlimits hdealings rfl, ?_, hdealt ▸ h.frames⟩
    rw [hdealt]
    exact List.forall_mem_append.mpr ⟨h.placed, List.forall_mem_singleton.mpr rfl⟩
  | maxStreams dir max hpending =>
    rw [(h.limits dir).pendingMaxStreams] at hpending
    cases hpending
  | streamsBlocked dir hdealings hdealt =>
    refine ⟨fun dir' => ?_, hdealt ▸ h.placed, hdealt ▸ h.frames⟩
    rw [limit_of_limits (congrArg Dealings.limits hdealings), limit_setLimit]
    split
    · rename_i hdir
      subst hdir
      have hdir := h.limits dir'
      exact ⟨hdir.closedPeer, hdir.pendingMaxStreams, hdir.sentMaxStreams, hdir.localMaxStreams⟩
    · exact h.limits dir'
  | stream id _ _ _ hdealings hdealt =>
    refine ⟨hlimits hdealings rfl, ?_, ?_⟩
    · rw [hdealt]
      exact List.forall_mem_append.mpr ⟨h.placed, List.forall_mem_singleton.mpr rfl⟩
    · rw [hdealt]
      exact List.forall_mem_append.mpr ⟨h.frames, List.forall_mem_singleton.mpr rfl⟩

/-! ## Packets -/

/-- The limits are as they were advertised first, and neither a packet in flight nor one that was
sent has a `MAX_STREAMS` frame. -/
structure Unraised (initial : Direction → Nat) (c : Connection P) : Prop where
  limits : c.LimitsUnraised initial
  inFlight : ∀ idx frame, c.InFlight idx frame → frame.isMaxStreams = false
  packets : ∀ p ∈ c.packets, ∀ frame ∈ p.2.2, frame.isMaxStreams = false

theorem Unraised.of_same (h : c.Unraised initial)
    (hlimits : d.LimitsUnraised initial) (hstores : d.sentPackets = c.sentPackets)
    (hpackets : d.packets = c.packets) : d.Unraised initial where
  limits := hlimits
  inFlight idx frame hframe := by
    rw [InFlight, hstores] at hframe
    exact h.inFlight idx frame hframe
  packets := hpackets ▸ h.packets

theorem recovers_unraised (h : c.Unraised initial) : Recovers c (Unraised initial) where
  untimed _ _ _ _ _ hd := hd.of_same (hd.limits.of_limits rfl) rfl rfl
  spaces _ _ hd := hd.of_same (hd.limits.of_limits rfl) rfl rfl
  forget d idx store out htakes hd := by
    refine ⟨hd.limits.of_limits rfl, fun idx' frame hframe => ?_, hd.packets⟩
    obtain ⟨pn, p, hp, hmem⟩ := hframe
    refine hd.inFlight idx' frame ⟨pn, p, ?_, hmem⟩
    have hfewer : FewerInFlight { d with sentPackets := d.sentPackets.set idx store } d :=
      FewerInFlight.set (fun _ _ _ h => h) htakes
    exact hfewer idx' pn p hp
  acked d idx p hd := hd.of_same (hd.limits.of_limits rfl) rfl (Silent.packets (.of_log rfl rfl))
  lost d idx p hd := hd.of_same (hd.limits.of_limits rfl) rfl (Silent.packets (.of_log rfl rfl))
  requeue d idx frame hframe hd :=
    hd.of_same (requeueFrame_limitsUnraised hd.limits idx (h.inFlight idx frame hframe))
      (requeueFrame_sentPackets d idx frame)
      (Silent.packets (.of_trace (requeueFrame_trace d idx frame)))

variable {kind idx : SpaceKind}

theorem Fills.unraised {budget : Nat}
    (h : c.LimitsUnraised initial) (hfills : Fills kind budget { conn := c } f) :
    FilledUnraised initial f := Fills.tells (fun hg htells => htells.unraised hg) hfills
    ⟨h, List.forall_mem_nil _, List.forall_mem_nil _⟩

theorem FilledUnraised.placed_all (h : FilledUnraised initial f) {frame : Frame}
    (hframe : frame ∈ f.placed) : frame.isMaxStreams = false := by
  cases hdealt : frame.isDealt with
  | true => exact h.placed frame (List.mem_filter.mpr ⟨hframe, hdealt⟩)
  | false =>
    cases frame with
    | maxStreams => cases hdealt
    | _ => rfl

theorem FilledUnraised.frames_all (h : FilledUnraised initial f)
    (hframe : frame ∈ f.frames) : frame.isMaxStreams = false := by
  cases hdealt : frame.isDealt with
  | true => exact h.frames frame (List.mem_filter.mpr ⟨hframe, hdealt⟩)
  | false =>
    cases frame with
    | maxStreams => cases hdealt
    | _ => rfl

theorem Sends.unraised (h : c.LimitsUnraised initial)
    {frames : List Frame} (hsends : Sends c kind frames) :
    ∀ frame ∈ frames, frame.isMaxStreams = false := by
  cases hsends with
  | close kind frame hframe =>
    obtain ⟨_, _, _, _, rfl⟩ := takeClose_isClose hframe
    exact List.forall_mem_singleton.mpr rfl
  | early =>
    intro frame hframe
    obtain ⟨_, _, rfl⟩ := List.mem_map.mp hframe
    rfl
  | fill kind budget f hfills =>
    exact fun frame hframe => (Fills.unraised h hfills).placed_all hframe

theorem Writes.limitsUnraised (h : c.LimitsUnraised initial)
    (hwrites : Writes c d) : d.LimitsUnraised initial := by
  cases hwrites with
  | same hsame => exact h.of_limits (congrArg Dealings.limits hsame)
  | close new hd | early new _ hd => exact h.of_limits (congrArg Dealings.limits hd)
  | fill kind budget f hfills hseals =>
    obtain ⟨stores, new, hd, -⟩ := hseals
    exact (Fills.unraised h hfills).limits.of_limits (congrArg Dealings.limits hd)

theorem Deals.limitsUnraised (h : c.Unraised initial)
    (hdeals : Deals c d op) : d.LimitsUnraised initial := by
  cases hdeals with
  | same hsame => exact h.limits.of_limits (congrArg Dealings.limits hsame)
  | call hdeal hd => exact hd ▸ step_limitsUnraised h.limits hdeal
  | learn hd => exact hd ▸ learnPeerParams_limitsUnraised h.limits
  | replay early hd => exact h.limits.of_limits (hd ▸ rfl)
  | retry now datagram oldDcid newDcid outstanding hd | hear now datagram packetType frame _ hd =>
    exact h.limits.of_limits (congrArg Dealings.limits hd)
  | frame now datagram packetType frame hdeal hd =>
    exact hd ▸ takeFrame_limitsUnraised h.limits now packetType hdeal
  | recover hrecover => exact (hrecover _ (recovers_unraised h) h).limits
  | write now out hwrites => exact hwrites.limitsUnraised h.limits

theorem Writes.inFlightUnraised (h : c.Unraised initial) (hwrites : Writes c d)
    (hframe : d.InFlight idx frame) : frame.isMaxStreams = false := by
  obtain ⟨pn, p, hp, hmem⟩ := hframe
  have hstores : d.sentPackets = c.sentPackets → frame.isMaxStreams = false :=
    fun hsame => h.inFlight idx frame ⟨pn, p, hsame ▸ hp, hmem⟩
  cases hwrites with
  | same hsame => exact hstores (congrArg Dealings.stores hsame)
  | close new hd | early new _ hd => exact hstores (congrArg Dealings.stores hd)
  | fill kind budget f hfills hseals =>
    obtain ⟨stores, new, hd, -, htracked⟩ := hseals
    have hstored : d.sentPackets = stores := congrArg Dealings.stores hd
    rw [hstored] at hp
    rcases htracked idx pn p hp with hold | hnew
    · rw [show f.conn.sentPackets = c.sentPackets from
        congrArg (fun b => b.2.2.1) (Fills.keeps hfills).2] at hold
      exact h.inFlight idx frame ⟨pn, p, hold, hmem⟩
    · exact (Fills.unraised h.limits hfills).frames_all (hnew ▸ hmem)

theorem Deals.inFlightUnraised (h : c.Unraised initial)
    (hdeals : Deals c d op) (hframe : d.InFlight idx frame) : frame.isMaxStreams = false := by
  have hstores : d.sentPackets = c.sentPackets → frame.isMaxStreams = false := by
    intro hsame
    rw [InFlight, hsame] at hframe
    exact h.inFlight idx frame hframe
  have hbooks : d.books.2.2 = c.books.2.2 → frame.isMaxStreams = false :=
    fun hsame => hstores (congrArg Prod.fst hsame)
  cases hdeals with
  | same hsame => exact hstores (congrArg Dealings.stores hsame)
  | call hdeal hd => exact hbooks (hd ▸ congrArg (fun b => b.2.2) (step_books c hdeal))
  | learn hd => exact hbooks (hd ▸ learnPeerParams_books c)
  | replay early hd => exact hbooks (hd ▸ rfl)
  | retry now datagram oldDcid newDcid outstanding hd | hear now datagram packetType frame _ hd =>
    exact hstores (congrArg Dealings.stores hd)
  | frame now datagram packetType frame hdeal hd =>
    exact hbooks (hd ▸ congrArg (fun b => b.2.2) (takeFrame_books c now packetType hdeal))
  | recover hrecover => exact (hrecover _ (recovers_unraised h) h).inFlight idx frame hframe
  | write now out hwrites => exact hwrites.inFlightUnraised h hframe

theorem Deals.unraised (h : c.Unraised initial) (hdeals : Deals c d op) : d.Unraised initial where
  limits := hdeals.limitsUnraised h
  inFlight _ _ hframe := hdeals.inFlightUnraised h hframe
  packets := hdeals.packets_forall (fun hsends => hsends.unraised h.limits) h.packets

theorem Fresh.run_unraised (hfresh : c.Fresh) (ops : List Op) :
    (c.run ops).Unraised fun dir => (c.limit dir).localMaxStreams := by
  refine run_deals (fun hc hdeals => hdeals.unraised hc) ?_ ops
  refine ⟨fun dir => ?_, ?_, ?_⟩
  · cases hfresh <;> cases dir <;> exact ⟨rfl, rfl, rfl, rfl⟩
  · rintro idx frame ⟨pn, p, hp, -⟩
    cases hfresh <;> cases idx <;> cases hp
  · cases hfresh <;> exact List.forall_mem_nil _

/-! ## Streams that are over -/

theorem exists_run_drain (now : Time) (n : Nat) (c : Connection P) :
    ∃ ops, drain now n c = c.run ops := by
  induction n generalizing c with
  | zero => exact ⟨[], rfl⟩
  | succ n ih =>
    simp only [drain]
    split
    · exact ⟨[.pollTransmit now []], rfl⟩
    · obtain ⟨ops, hops⟩ := ih (c.pollTransmit now []).1
      exact ⟨.pollTransmit now [] :: ops, hops⟩

end Connection

/-- Whether the end of a stream was reached and everything before it was read. -/
def RecvStream.isOver (r : RecvStream) : Bool := r.finDelivered && r.ready.isEmpty

/-- Whether the peer says that it is out of streams of a direction. -/
def Event.asksForStreams (dir : Direction) : Event P → Bool
  | .received _ (.streamsBlocked dir' _) => dir' = dir
  | _ => false

/-- Whether everything was sent on a stream, or it was abandoned. -/
def SendStream.isOver (s : SendStream) : Bool := s.isReset || s.finSent && !s.hasPending

namespace Connection

/-- Whether a stream is at its end in both directions.  A unidirectional stream of the peer has
one. -/
def isOver (c : Connection P) (id : StreamId) : Bool :=
  ((c.inbound.streams.get? id).any RecvStream.isOver) &&
    (StreamId.direction id = .unidirectional || (c.sendStreams.get? id).any SendStream.isOver)

/-- The streams of a direction that the peer opened and that are over. -/
def completed (c : Connection P) (dir : Direction) : List StreamId :=
  c.inbound.streams.keys.filter fun id =>
    c.isPeerInitiated id && decide (StreamId.direction id = dir) && c.isOver id

/-- The peer says in a datagram that it is out of streams of a direction. -/
def HearsBlocked (c : Connection P) (dir : Direction) (now : Time) (datagram : Bytes) : Prop :=
  ∃ e ∈ c.news (.handleDatagram now datagram), e.asksForStreams dir = true

/-- Draining sends a `MAX_STREAMS` frame with at least the given limit. -/
def Raises (c : Connection P) (dir : Direction) (now : Time) (limit : Nat) : Prop :=
  ∃ n new, (drain now n c).packets = new ++ c.packets ∧
    ∃ p ∈ new, ∃ max, .maxStreams dir max ∈ p.2.2 ∧ limit ≤ max

theorem Fresh.not_raises (hfresh : c.Fresh) (ops : List Op) (dir : Direction)
    (now : Time) (limit : Nat) : ¬ (c.run ops).Raises dir now limit := by
  rintro ⟨n, new, hpackets, p, hp, max, hframe, -⟩
  obtain ⟨polls, hdrain⟩ := exists_run_drain now n (c.run ops)
  have hunraised := hfresh.run_unraised (ops ++ polls)
  rw [run, run_append] at hunraised
  change Unraised _ ((c.run ops).run polls) at hunraised
  rw [← hdrain] at hunraised
  cases hunraised.packets p (hpackets ▸ List.mem_append_left _ hp) _ hframe

end Connection

/-- A peer that is out of streams is not offered more, whether or not streams of it are over: what
is asked for is granted exactly if nothing is asked for.  What was advertised is the initial limit
throughout, so that it covers the streams that are over exactly if there are none, and it never
decreases. -/
theorem stream_limit_replenished_iff {c : Connection P} (hfresh : c.Fresh) (ops : List Op)
    (dir : Direction) (now now' : Time) (datagram : Bytes) :
    (((c.run ops).HearsBlocked dir now datagram →
        ((c.run ops).step (.handleDatagram now datagram)).Raises dir now'
          ((c.limit dir).localMaxStreams + ((c.run ops).completed dir).length)) ↔
      ¬ (c.run ops).HearsBlocked dir now datagram) ∧
    ((c.limit dir).localMaxStreams + ((c.run ops).completed dir).length
        ≤ ((c.run ops).limit dir).sentMaxStreams ↔ (c.run ops).completed dir = []) ∧
    ∀ op, ((c.run ops).limit dir).sentMaxStreams ≤ (((c.run ops).step op).limit dir).sentMaxStreams := by
  have hadvertised : ∀ ops, ((c.run ops).limit dir).sentMaxStreams = (c.limit dir).localMaxStreams :=
    fun ops => ((hfresh.run_unraised ops).limits dir).sentMaxStreams
  have hstep : ∀ op, (c.run ops).step op = c.run (ops ++ [op]) := by
    intro op
    exact (run_append Connection.step c ops [op]).symm
  refine ⟨⟨fun h hhears => ?_, fun hquiet hhears => absurd hhears hquiet⟩, ?_, fun op => ?_⟩
  · have hraises := h hhears
    rw [hstep] at hraises
    exact hfresh.not_raises _ dir now' _ hraises
  · rw [hadvertised, ← List.length_eq_zero_iff]
    omega
  · rw [hstep, hadvertised, hadvertised]

namespace Plain

/-- A client that lets the server open one unidirectional stream. -/
def stingy : Connection Plain :=
  .newClient (⟨.client, .writeHello, []⟩ : PlainSession) 1 { initialMaxStreamsUni := 1 } {} .newReno
    (0 : Nat)

theorem stingy_fresh : stingy.Fresh := .client ..

/-- The server sends a byte and the end of the stream, and the client reads them. -/
def servesOne : List Op :=
  joins stingy ++ [.handleDatagram 2 (shortPacket (stingy.run (joins stingy)) 0 0 [.stream 3 0 true [7]]),
    .readStream 3]

/-- The server would like to open another stream. -/
def asks : Bytes := shortPacket (stingy.run (joins stingy)) 0 1 [.streamsBlocked .unidirectional 1]

end Plain

theorem stream_limit_replenished_start :
    stingy.completed .unidirectional = [] ∧ (stingy.limit .unidirectional).localMaxStreams + 0
        ≤ (stingy.limit .unidirectional).sentMaxStreams := by
  have hlimit := (stream_limit_replenished_iff stingy_fresh [] .unidirectional 0 0 []).2.1
  have hnone : (stingy.run []).completed .unidirectional = [] := by decide +kernel
  have hle := hlimit.mpr hnone
  rw [hnone] at hle
  exact ⟨hnone, hle⟩

namespace Plain

/-- The client once the server has asked for another stream. -/
def asked : Connection Plain := (stingy.run servesOne).step (.handleDatagram 3 asks)

end Plain

/-- The only stream of the server is over, and the server asks for another one.  Draining sends no
`MAX_STREAMS` frame. -/
theorem streams_blocked_unanswered :
    (stingy.run servesOne).completed .unidirectional = [3] ∧
    ((stingy.run servesOne).news (.handleDatagram 3 asks)).any
      (Event.asksForStreams .unidirectional) = true ∧
    (Connection.drain 3 9 asked).packets.any (fun p => p.2.2.any Frame.isMaxStreams) = false ∧
    ((Connection.drain 3 9 asked).pollTransmit 3 []).2.2 = none := by
  decide +kernel

end OxiQuic
