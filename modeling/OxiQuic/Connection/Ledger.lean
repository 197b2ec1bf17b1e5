import OxiQuic.Connection.Step
import OxiQuic.Stream.Finish
import Mathlib.Logic.Relation

/-!
# The ledger of a connection

An abstract view of a connection: packet numbers, tracked packets, bytes in flight, the
halves of its streams, the route and the history, and nothing else.  `Ledger.Move` lists all that
can happen to them.  That the code does nothing but these moves is proved in
`OxiQuic.Connection.LedgerMoves`, function by function; what holds of every run of a
connection then follows by a case for each kind of move, with `Ledger.Acts.invariant`.
-/

namespace OxiQuic

open Lib

variable {P : Platform}

/-! ## Frames and streams -/

/-- Whether a recorded frame carries stream data. -/
def SentFrame.isStream : SentFrame → Bool
  | .stream .. => true
  | _ => false

/-- Queue what a frame carried on its stream once more. -/
def requeueInto (streams : OrdMap Nat SendStream) (frame : SentFrame) : OrdMap Nat SendStream :=
  match frame with
  | .stream id offset fin data => streams.modify id (·.requeue ⟨offset, data, fin⟩)
  | _ => streams

def requeueAll (streams : OrdMap Nat SendStream) (frames : List SentFrame) :
    OrdMap Nat SendStream :=
  frames.foldl requeueInto streams

/-- The streams give up the data in `frames`, in order.  Frames that carry no stream data
take nothing. -/
inductive Draws (streams : OrdMap Nat SendStream) : OrdMap Nat SendStream → List SentFrame → Prop
    where
  | nil : Draws streams streams []
  | take {streams' : OrdMap Nat SendStream} {frames : List SentFrame} {id max : Nat}
      {s s' : SendStream} {seg : Segment} :
      Draws streams streams' frames → streams'.get? id = some s → s.resetCode = none →
      s.Takes max s' seg →
      Draws streams (streams'.insert id s')
        (frames ++ [.stream id seg.offset seg.fin seg.data])
  | other {streams' : OrdMap Nat SendStream} {frames : List SentFrame} {frame : SentFrame} :
      Draws streams streams' frames → frame.isStream = false →
      Draws streams streams' (frames ++ [frame])

theorem Draws.eq_of_no_stream {streams streams' : OrdMap Nat SendStream}
    {frames : List SentFrame} (h : Draws streams streams' frames)
    (hnone : ∀ frame ∈ frames, frame.isStream = false) : streams' = streams := by
  induction h with
  | nil => rfl
  | take =>
    have := hnone _ (List.mem_append_right _ (List.mem_singleton.mpr rfl))
    cases this
  | other _ _ ih =>
    exact ih fun frame hframe => hnone frame (List.mem_append_left _ hframe)

/-! ## Receive halves -/

/-- What the peer's frames and the application's reads do to the receive halves. -/
inductive Inbound.Step (role : Role) (b : Inbound) : Inbound → Prop where
  /-- A receive half comes into being, and the application may have to be told. -/
  | create {id : StreamId} {s : RecvStream} (noted : Bool) : b.streams.get? id = none →
      RecvStream.Turns {} s → (noted = true → StreamId.initiator id ≠ role.initiator) →
      Step role b { b with
        streams := b.streams.insert id s
        newPeerStreams := b.newPeerStreams ++ if noted then [id] else [] }
  | turn {id : StreamId} {s s' : RecvStream} : b.streams.get? id = some s → s.Turns s' →
      Step role b { b with streams := b.streams.insert id s' }
  | notify (readable : List StreamId) : Step role b { b with readable := readable }
  /-- The application is told of a stream. -/
  | surface {id : StreamId} {rest : List StreamId} : b.newPeerStreams = id :: rest →
      Step role b { b with newPeerStreams := rest }

/-- A stream we open has a receive half if it is bidirectional. -/
def Inbound.openStream (b : Inbound) (id : StreamId) : Direction → Inbound
  | .bidirectional => { b with streams := b.streams.insert id {} }
  | .unidirectional => b

/-! ## The ledger -/

/-- Where packets go, and the address that is being validated. -/
structure Route where
  addr : SocketAddr
  candidate : Option SocketAddr
  /-- The nonce that awaits its echo. -/
  challenge : Option Bytes
  validated : Bool
  deriving DecidableEq

def Path.route (p : Path) : Route :=
  ⟨p.peerAddr, p.candidatePeerAddr, p.pendingPathChallenge, p.pathValidated⟩

/-- The route once the challenge was answered. -/
def Route.settle (r : Route) : Route :=
  { addr := r.candidate.getD r.addr, candidate := none, challenge := none, validated := true }

/-- The echo of a nonce arrives. -/
def Route.respond (r : Route) (data : Bytes) : Route :=
  if r.challenge = some data then r.settle else r

/-- What a connection has to account for. -/
structure Ledger (P : Platform) where
  role : Role
  /-- The next packet number of each space. -/
  next : PerSpace Nat
  /-- The CID the Initial keys are derived from. -/
  dcid : ConnectionId
  /-- The key Initial packets are sealed with. -/
  initialKey : Option P.PacketKey
  retryDone : Bool
  /-- Whether 1-RTT packets may be sent. -/
  ready : Bool
  /-- Whether the application space has keys. -/
  appKeys : Bool
  stores : PerSpace SentPackets
  inFlight : Nat
  streams : OrdMap Nat SendStream
  opened : Opened
  inbound : Inbound
  route : Route
  trace : List (Event P)

/-- The ledger of a connection. -/
def Connection.ledger (c : Connection P) : Ledger P where
  role := c.role
  next := c.spaces.map (·.nextPacketNumber)
  dcid := c.initialDcid
  initialKey := c.spaces.initial.localKeys.map (·.packet)
  retryDone := c.retry.retryDone
  ready := c.hs.oneRttReady
  appKeys := c.spaces.application.hasKeys
  stores := c.sentPackets
  inFlight := c.congestion.bytesInFlight
  streams := c.sendStreams
  opened := c.opened
  inbound := c.inbound
  route := c.path.route
  trace := c.trace

namespace Ledger

def log (l : Ledger P) (e : Event P) : Ledger P := { l with trace := e :: l.trace }

def label (l : Ledger P) : SpaceKind → KeyLabel
  | .initial => .initial l.dcid
  | .handshake => .handshake
  | .application => .application

/-- Use up a packet number. -/
def skip (l : Ledger P) (kind : SpaceKind) : Ledger P :=
  { l with next := l.next.set kind (l.next.get kind + 1) }

/-- Use a packet number for sealing. -/
def sealWith (l : Ledger P) (kind : SpaceKind) (key : P.PacketKey) : Ledger P :=
  (l.skip kind).log (.sealed (l.label kind) key (l.next.get kind))

/-- Track a packet. -/
def record (l : Ledger P) (kind : SpaceKind) (p : SentPacket) : Ledger P :=
  { l with
    stores := l.stores.set kind ((l.stores.get kind).onPacketSent p)
    inFlight := l.inFlight + p.weight }

/-- Stop tracking packets, with one event for each. -/
def release (l : Ledger P) (kind : SpaceKind) (store : SentPackets) (out : List SentPacket)
    (event : SentPacket → Event P) : Ledger P :=
  { l with
    stores := l.stores.set kind store
    inFlight := l.inFlight - (out.map (·.weight)).sum
    trace := (out.map event).reverse ++ l.trace }

/-- The index of the next stream of a direction. -/
def nextIndex (l : Ledger P) : Direction → Nat
  | .bidirectional => l.opened.nextBidiIndex
  | .unidirectional => l.opened.nextUniIndex

/-- The identifier of the next stream of a direction. -/
def nextId (l : Ledger P) (dir : Direction) : StreamId :=
  StreamId.new l.role.initiator dir (l.nextIndex dir)

/-- Count a stream as opened. -/
def bump (o : Opened) : Direction → Opened
  | .bidirectional => { o with nextBidiIndex := o.nextBidiIndex + 1 }
  | .unidirectional => { o with nextUniIndex := o.nextUniIndex + 1 }

/-- Open the next stream of a direction. -/
def openStream (l : Ledger P) (dir : Direction) : Ledger P :=
  { l with
    opened := bump l.opened dir
    streams := l.streams.insert (l.nextId dir) {}
    inbound := l.inbound.openStream (l.nextId dir) dir }.log (.opened (l.nextId dir))

/-- The events that come alone.  Packets go where the route says. -/
def IsNote (l : Ledger P) : Event P → Prop
  | .sent dest _ _ => dest = l.route.addr
  | .received _ (.pathResponse _) => False
  | .received _ _ => True
  | _ => False

/-- A received `ACK` covers a packet number of a space. -/
def Acknowledged (trace : List (Event P)) (kind : SpaceKind) (pn : Nat) : Prop :=
  ∃ packetType largest delay firstRange ranges,
    Event.received packetType (.ack largest delay firstRange ranges) ∈ trace ∧
      spaceIndex packetType = kind ∧
      AckCovers largest firstRange (ranges.map fun r => (r.gap, r.range)) pn

/-- What can happen to a ledger. -/
inductive Move : Ledger P → Ledger P → Prop where
  | note (l : Ledger P) {e : Event P} : l.IsNote e → Move l (l.log e)
  /-- The peer echoes a nonce. -/
  | respond (l : Ledger P) (packetType : PacketType) (data : Bytes) :
      Move l ({ l with route := l.route.respond data }.log
        (.received packetType (.pathResponse data)))
  /-- 1-RTT keys arrive. -/
  | oneRtt (l : Ledger P) : Move l { l with ready := true, appKeys := true }
  /-- A Retry starts the Initial space over; the record of sent packets stays. -/
  | retry (l : Ledger P) (dcid : ConnectionId) : l.retryDone = false →
      Move l ({ l with
        next := l.next.set .initial 0
        dcid := dcid
        initialKey := some (P.initialKeys dcid l.role).sending.packet
        retryDone := true }.log (.retried l.dcid dcid l.stores.initial.sent.size))
  /-- A packet was filled but its space has no keys. -/
  | skip (l : Ledger P) {kind : SpaceKind} {streams : OrdMap Nat SendStream}
      {frames : List SentFrame} : Draws l.streams streams frames →
      (kind ≠ .application → ∀ frame ∈ frames, frame.isStream = false) →
      (kind = .application → l.ready = true ∧ l.appKeys = false) →
      Move l { l.skip kind with streams := streams }
  /-- A packet that loss detection does not track was sealed, or could not be. -/
  | attempt (l : Ledger P) {kind : SpaceKind} {key : P.PacketKey} :
      (kind = .initial → l.initialKey = some key) → Move l (l.sealWith kind key)
  /-- A packet was filled and could not be sealed. -/
  | drop (l : Ledger P) {kind : SpaceKind} {key : P.PacketKey}
      {streams : OrdMap Nat SendStream} {frames : List SentFrame} :
      (kind = .initial → l.initialKey = some key) → Draws l.streams streams frames → ¬ P.SealsAlways →
      Move l { l.sealWith kind key with streams := streams }
  /-- A packet was sent and is tracked. -/
  | send (l : Ledger P) {kind : SpaceKind} {key : P.PacketKey}
      {streams : OrdMap Nat SendStream} {p : SentPacket} :
      (kind = .initial → l.initialKey = some key) → Draws l.streams streams p.frames →
      (kind ≠ .application → ∀ frame ∈ p.frames, frame.isStream = false) →
      ((∃ frame ∈ p.frames, frame.isStream = true) → p.inFlight = true ∧ 0 < p.sentBytes) →
      p.packetNumber = l.next.get kind →
      Move l ({ l.sealWith kind key with streams := streams }.record kind p)
  /-- An acknowledgement. -/
  | ack (l : Ledger P) (kind : SpaceKind) {store : SentPackets} {out : List SentPacket} :
      (l.stores.get kind).Takes store out →
      (∀ p ∈ out, ∃ pn, (l.stores.get kind).sent.get? pn = some p ∧
        Acknowledged l.trace kind pn) →
      Move l (l.release kind store out (.acked kind))
  /-- Packets are lost and their stream data is queued again. -/
  | lose (l : Ledger P) (kind : SpaceKind) {store : SentPackets} {out : List SentPacket} :
      (l.stores.get kind).Takes store out →
      Move l { l.release kind store out (.lost kind) with
        streams := requeueAll l.streams (out.flatMap (·.frames)) }
  /-- Frames are queued again for a probe. -/
  | requeue (l : Ledger P) (frames : List SentFrame) :
      Move l { l with streams := requeueAll l.streams frames }
  | open (l : Ledger P) (dir : Direction) : Move l (l.openStream dir)
  | write (l : Ledger P) {id : StreamId} {s : SendStream} (data : Bytes) (fin : Bool) :
      l.streams.get? id = some s →
      Move l ({ l with streams := l.streams.insert id (s.write data fin) }.log
        (.wrote id data fin))
  /-- The peer's stream data brings a send half into being. -/
  | accept (l : Ledger P) {id : StreamId} {packetType : PacketType} {offset : Nat} {fin : Bool}
      {data : Bytes} {rest : List (Event P)} :
      l.streams.get? id = none →
      l.trace = .received packetType (.stream id offset fin data) :: rest →
      Move l { l with streams := l.streams.insert id {} }
  | deliver (l : Ledger P) {b : Inbound} : l.inbound.Step l.role b →
      Move l { l with inbound := b }
  | replay (l : Ledger P) (id : StreamId) (s : SendStream) :
      Move l ({ l with streams := l.streams.insert id s }.log (.replayed id))
  | reset (l : Ledger P) (id : StreamId) (streams : OrdMap Nat SendStream) :
      Move l ({ l with streams := streams }.log (.reset id))

theorem Move.trace_grows {l l' : Ledger P} (h : Move l l') : ∃ new, l'.trace = new ++ l.trace := by
  cases h with
  | oneRtt | skip | requeue | accept | deliver => exact ⟨[], rfl⟩
  | ack | lose => exact ⟨_, rfl⟩
  | _ => exact ⟨[_], rfl⟩

theorem nextIndex_openStream (l : Ledger P) (dir dir' : Direction) :
    (l.openStream dir).nextIndex dir' =
      if dir' = dir then l.nextIndex dir + 1 else l.nextIndex dir' := by
  cases dir <;> cases dir' <;> rfl

theorem Move.role_eq {l l' : Ledger P} (hmove : Move l l') : l'.role = l.role := by
  cases hmove <;> rfl

theorem Move.nextIndex_le {l l' : Ledger P} (hmove : Move l l') (dir : Direction) :
    l.nextIndex dir ≤ l'.nextIndex dir := by
  cases hmove with
  | «open» dir' =>
    rw [nextIndex_openStream]
    split
    · rename_i hdir
      rw [hdir]
      omega
    · exact Nat.le_refl _
  | _ => cases dir <;> exact Nat.le_refl _

/-- Any number of moves. -/
def Moves : Ledger P → Ledger P → Prop := Relation.ReflTransGen Move

namespace Moves

theorem refl (l : Ledger P) : Moves l l := Relation.ReflTransGen.refl

theorem of_eq {l l' : Ledger P} (h : l' = l) : Moves l l' := h ▸ refl l

theorem single {l l' : Ledger P} (h : Move l l') : Moves l l' := Relation.ReflTransGen.single h

theorem trans {l l' l'' : Ledger P} (h : Moves l l') (h' : Moves l' l'') : Moves l l'' :=
  Relation.ReflTransGen.trans h h'

theorem invariant {I : Ledger P → Prop} (step : ∀ {l l'}, I l → Move l l' → I l')
    {l l' : Ledger P} (h : I l) (hmoves : Moves l l') : I l' := by
  induction hmoves with
  | refl => exact h
  | tail _ hmove ih => exact step ih hmove

end Moves

/-- What a call can do: moves, and the calls that change the route. -/
inductive Act : Ledger P → Ledger P → Prop where
  | move {l l' : Ledger P} : Move l l' → Act l l'
  | reroute (l : Ledger P) (route : Route) : Act l { l with route := route }

/-- Any number of acts. -/
def Acts : Ledger P → Ledger P → Prop := Relation.ReflTransGen Act

namespace Acts

theorem trans {l l' l'' : Ledger P} (h : Acts l l') (h' : Acts l' l'') : Acts l l'' :=
  Relation.ReflTransGen.trans h h'

theorem of_moves {l l' : Ledger P} (h : Moves l l') : Acts l l' := by
  induction h with
  | refl => exact .refl
  | tail _ hmove ih => exact .tail ih (.move hmove)

/-- The rule for what holds only as long as something else does: what a move preserves
whenever it leads to a ledger with `Q`, and a change of the route always, holds after any acts
to such a ledger, if `Q` once lost does not come back. -/
theorem invariant_while {I Q : Ledger P → Prop} (hQ : ∀ {l l'}, Act l l' → Q l' → Q l)
    (step : ∀ {l l'}, I l → Move l l' → Q l' → I l')
    (reroute : ∀ {l : Ledger P} route, I l → I { l with route := route })
    {l l' : Ledger P} (h : I l) (hacts : Acts l l') : Q l' → I l' := by
  induction hacts with
  | refl => exact fun _ => h
  | tail _ hact ih =>
    intro hlast
    have hbefore := ih (hQ hact hlast)
    cases hact with
    | move hmove => exact step hbefore hmove hlast
    | reroute route => exact reroute route hbefore

/-- What every move and every change of the route preserves, any number of acts preserves. -/
theorem invariant {I : Ledger P → Prop} (step : ∀ {l l'}, I l → Move l l' → I l')
    (reroute : ∀ {l : Ledger P} route, I l → I { l with route := route })
    {l l' : Ledger P} (h : I l) (hacts : Acts l l') : I l' :=
  invariant_while (Q := fun _ => True) (fun _ => id) (fun h hmove _ => step h hmove) reroute h
    hacts trivial

end Acts

theorem Act.trace_grows {l l' : Ledger P} (h : Act l l') : ∃ new, l'.trace = new ++ l.trace := by
  cases h with
  | move hmove => exact hmove.trace_grows
  | reroute => exact ⟨[], rfl⟩

theorem Act.forall_of_trace {l l' : Ledger P} (h : Act l l') {q : Event P → Prop}
    (hq : ∀ e ∈ l'.trace, q e) : ∀ e ∈ l.trace, q e := by
  obtain ⟨new, hnew⟩ := h.trace_grows
  exact fun e he => hq e (hnew ▸ List.mem_append_right _ he)

/-- The ledger of a fresh connection. -/
def start (role : Role) (dcid : ConnectionId) (addr : SocketAddr) : Ledger P where
  role := role
  next := .const 0
  dcid := dcid
  initialKey := some (P.initialKeys dcid role).sending.packet
  retryDone := false
  ready := false
  appKeys := false
  stores := .const {}
  inFlight := 0
  streams := ∅
  opened := {}
  inbound := {}
  route := ⟨addr, none, none, false⟩
  trace := []

end Ledger

theorem Connection.Fresh.ledger {c : Connection P} (h : c.Fresh) :
    ∃ role dcid, c.ledger = Ledger.start role dcid c.path.peerAddr := by
  cases h with
  | client tls peerAddr localParams mtuConfig congestionAlgo os =>
    refine ⟨.client, (randomCid P os).2, ?_⟩
    cases congestionAlgo <;> rfl
  | server tls clientDcid clientScid peerAddr localParams mtuConfig congestionAlgo os =>
    refine ⟨.server, clientDcid, ?_⟩
    cases congestionAlgo <;> rfl

end OxiQuic
