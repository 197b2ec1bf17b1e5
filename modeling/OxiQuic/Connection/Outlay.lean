import OxiQuic.Connection.Conservation
import OxiQuic.Connection.Traffic

/-!
# What a connection spends

The send halves of the streams and the credit that the peer grants for them: `Connection.outlay`.
`Outlay.Pays` says how segments leave the streams and are charged to the credit, and
`Outlay.Step` lists all that can happen besides.  That an update of a connection does nothing
else is `Update.outlay`.
-/

namespace OxiQuic

open Lib

variable {P : Platform} {drawn : List (Nat × Segment)} {id : Nat} {op : Op}

/-- Whether a frame carries stream data. -/
def Frame.isStream : Frame → Bool
  | .stream .. => true
  | _ => false

/-- Whether a call writes early data. -/
def Op.isEarly : Op → Bool
  | .queueEarlyData .. => true
  | _ => false

/-- Stream data in a list of segments. -/
def framesOf (drawn : List (Nat × Segment)) : List Frame :=
  drawn.map fun d => .stream d.1 d.2.offset d.2.fin d.2.data

/-- The same as loss detection knows it. -/
def sentFramesOf (drawn : List (Nat × Segment)) : List SentFrame :=
  drawn.map fun d => .stream d.1 d.2.offset d.2.fin d.2.data

/-- What a connection has sent and may send on its streams. -/
structure Outlay (P : Platform) where
  role : Role
  opened : Opened
  streams : OrdMap Nat SendStream
  /-- The credit of the connection. -/
  sendFlow : SendCredit
  /-- The credit of each stream. -/
  credits : OrdMap Nat SendCredit
  peerParams : Option TransportParams
  stores : PerSpace SentPackets
  /-- Early data that is still to be sent or written. -/
  early : List (StreamId × Bytes × Bool)
  trace : List (Event P)

namespace Outlay

variable (u : Outlay P)

def log (e : Event P) : Outlay P := { u with trace := e :: u.trace }

/-- The credit that a stream starts with. -/
def initialLimit : Nat :=
  match u.peerParams with
  | some p => p.initialMaxStreamDataBidiRemote
  | none => 0

/-- A packet that is tracked carries a segment of a stream. -/
def Carried (id : Nat) (seg : Segment) : Prop :=
  ∃ kind pn p, (u.stores.get kind).sent.get? pn = some p ∧ Carries p.frames id seg

def nextIndex : Direction → Nat
  | .bidirectional => u.opened.nextBidiIndex
  | .unidirectional => u.opened.nextUniIndex

/-- The identifier of the next stream of a direction. -/
def nextId (dir : Direction) : StreamId := StreamId.new u.role.initiator dir (u.nextIndex dir)

/-- Open the next stream of a direction. -/
def openStream (dir : Direction) : Outlay P :=
  { u with
    opened := Ledger.bump u.opened dir
    streams := u.streams.insert (u.nextId dir) {}
    credits := u.credits.insert (u.nextId dir) (.new u.initialLimit) }.log (.opened (u.nextId dir))

/-- Adopt the peer's parameters. -/
def learn (p : TransportParams) : Outlay P :=
  { u with
    peerParams := some p
    sendFlow := u.sendFlow.onMaxData p.initialMaxData
    credits := u.credits.mapValues fun _ f => f.onMaxData p.initialMaxStreamDataBidiRemote }

/-- The peer raises the limit of a stream. -/
def grantStream (id max : Nat) : Outlay P :=
  { u with credits :=
      u.credits.insert id (((u.credits.get? id).getD (.new u.initialLimit)).onMaxData max) }

/-- The credit of a stream, made if it is missing. -/
def addCredit (id : Nat) : Outlay P :=
  { u with credits :=
      if u.credits.contains id then u.credits else u.credits.insert id (.new u.initialLimit) }

/-- The send half of a stream, made if it is missing. -/
def addStream (id : Nat) : Outlay P :=
  { u with streams := if u.streams.contains id then u.streams else u.streams.insert id {} }

/-- Data of the peer brings the send half of a bidirectional stream into being. -/
def accept (id : StreamId) : Outlay P :=
  if StreamId.direction id = .bidirectional then (u.addCredit id).addStream id else u

/-- Early data is written to its stream. -/
def replay (data : StreamId × Bytes × Bool) : Outlay P :=
  { u with
    streams := u.streams.insert data.1
      (((u.streams.get? data.1).getD {}).write data.2.1 data.2.2) }.log (.replayed data.1)

/-- A segment leaves a stream and is charged to its credit, by what of it is new. -/
def pay (id : Nat) (s : SendStream) (f : SendCredit) (seg : Segment) : Outlay P :=
  { u with
    streams := u.streams.insert id s
    credits := u.credits.insert id (f.recordHighOffset seg.stop).1
    sendFlow := u.sendFlow.onDataSent (f.recordHighOffset seg.stop).2 }

/-- The segments `drawn` leave the streams, in order.  What is sent for the first time needs
credit. -/
inductive Pays : Outlay P → List (Nat × Segment) → Prop where
  | nil : Pays u []
  | credit {v : Outlay P} {drawn : List (Nat × Segment)} {id : Nat} : Pays v drawn →
      v.credits.get? id = none →
      Pays { v with credits := v.credits.insert id (.new v.initialLimit) } drawn
  | take {v : Outlay P} {drawn : List (Nat × Segment)} {id max : Nat} {s s' : SendStream}
      {f : SendCredit} {seg : Segment} : Pays v drawn → v.streams.get? id = some s →
      v.credits.get? id = some f → s.Takes max s' seg →
      (s.resend = [] → max ≤ v.sendFlow.available ∧ max ≤ f.available) →
      Pays (v.pay id s' f seg) (drawn ++ [(id, seg)])
  /-- Being blocked is noted. -/
  | block {v : Outlay P} {drawn : List (Nat × Segment)} : Pays v drawn →
      Pays { v with sendFlow := v.sendFlow.takeBlocked.1 } drawn
  | blockStream {v : Outlay P} {drawn : List (Nat × Segment)} {id : Nat} {f : SendCredit} :
      Pays v drawn → v.credits.get? id = some f →
      Pays { v with credits := v.credits.insert id f.takeBlocked.1 } drawn

/-- The events that come alone or with stream data that was drawn. -/
def Backed (drawn : List (Nat × Segment)) : Event P → Prop
  | .sent _ _ frames => ∀ id offset fin data, .stream id offset fin data ∈ frames →
      (id, ⟨offset, data, fin⟩) ∈ drawn
  | .received _ (.stream ..) => False
  | .received _ (.maxData _) => False
  | .received _ (.maxStreamData _ _) => False
  | .opened _ => False
  | .wrote _ _ _ => False
  | .replayed _ => False
  | .reset _ => False
  | _ => True

/-- What is tracked was tracked before or carries stream data that was drawn. -/
def Tracks (stores : PerSpace SentPackets) (drawn : List (Nat × Segment)) : Prop :=
  ∀ kind pn p, (stores.get kind).sent.get? pn = some p →
    (u.stores.get kind).sent.get? pn = some p ∨
      ∀ id seg, Carries p.frames id seg → (id, seg) ∈ drawn

/-- What can happen to an outlay.  `E` says that the application writes early data. -/
inductive Step (E : Prop) : Outlay P → Prop where
  /-- Stream data is drawn, perhaps none; packets are sent or forgotten. -/
  | send {v : Outlay P} {drawn : List (Nat × Segment)} {stores : PerSpace SentPackets}
      {new : List (Event P)} : u.Pays v drawn → u.Tracks stores drawn →
      (∀ e ∈ new, Backed drawn e) → Step E { v with stores := stores, trace := new ++ u.trace }
  | requeue {id : Nat} {seg : Segment} : u.Carried id seg →
      Step E { u with streams := u.streams.modify id (·.requeue seg) }
  | «open» (dir : Direction) : Step E (u.openStream dir)
  | write {id : StreamId} {s : SendStream} (data : Bytes) (fin : Bool) :
      u.streams.get? id = some s →
      Step E ({ u with streams := u.streams.insert id (s.write data fin) }.log (.wrote id data fin))
  | reset {id : StreamId} {s s' : SendStream} : u.streams.get? id = some s →
      (s' = s ∨ ∃ code, s' = s.reset code) →
      Step E ({ u with streams := u.streams.insert id s' }.log (.reset id))
  | learn (p : TransportParams) : u.peerParams = none → Step E (u.learn p)
  | grant (packetType : PacketType) (max : Nat) :
      Step E ({ u with sendFlow := u.sendFlow.onMaxData max }.log
        (.received packetType (.maxData max)))
  | grantStream (packetType : PacketType) (id max : Nat) :
      Step E ((u.grantStream id max).log (.received packetType (.maxStreamData id max)))
  | accept (packetType : PacketType) (id offset : Nat) (fin : Bool) (data : Bytes) :
      Step E ((u.accept id).log (.received packetType (.stream id offset fin data)))
  | replay (data : StreamId × Bytes × Bool) : E ∨ u.early ≠ [] → Step E (u.replay data)
  /-- Early data is sent. -/
  | early (key : P.PacketKey) (pn : Nat) (dest : SocketAddr) (frames : List Frame) :
      u.early ≠ [] →
      Step E ((u.log (.sealed .application key pn)).log (.sent dest .application frames))
  | queue (early : List (StreamId × Bytes × Bool)) : E → Step E { u with early := early }
  /-- The fate of the early data is known. -/
  | settle : Step E { u with early := [] }

/-- Any number of steps. -/
def Steps (E : Prop) : Outlay P → Outlay P → Prop := Relation.ReflTransGen fun u v => u.Step E v

variable {u} {v w : Outlay P} {E : Prop}

theorem addCredit_cases (u : Outlay P) (id : Nat) :
    (u.addCredit id = u ∧ u.credits.get? id ≠ none) ∨ (u.credits.get? id = none ∧
      u.addCredit id = { u with credits := u.credits.insert id (.new u.initialLimit) }) := by
  cases hcredit : u.credits.get? id with
  | some f =>
    refine .inl ⟨?_, nofun⟩
    simp [addCredit, OrdMap.contains, hcredit]
  | none =>
    refine .inr ⟨rfl, ?_⟩
    simp [addCredit, OrdMap.contains, hcredit]

theorem addStream_cases (u : Outlay P) (id : Nat) :
    u.addStream id = u ∨ (u.streams.get? id = none ∧
      u.addStream id = { u with streams := u.streams.insert id {} }) := by
  cases hstream : u.streams.get? id with
  | some s =>
    refine .inl ?_
    simp [addStream, OrdMap.contains, hstream]
  | none =>
    refine .inr ⟨rfl, ?_⟩
    simp [addStream, OrdMap.contains, hstream]

theorem Pays.trans {drawn' : List (Nat × Segment)} (h : u.Pays v drawn)
    (h' : v.Pays w drawn') : u.Pays w (drawn ++ drawn') := by
  induction h' with
  | nil => exact (List.append_nil drawn).symm ▸ h
  | credit _ hnone ih => exact .credit ih hnone
  | take _ hs hf htakes hcredit ih =>
    rw [← List.append_assoc]
    exact .take ih hs hf htakes hcredit
  | block _ ih => exact .block ih
  | blockStream _ hf ih => exact .blockStream ih hf

theorem Pays.rest (h : u.Pays v drawn) :
    ∃ streams sendFlow credits,
      v = { u with streams := streams, sendFlow := sendFlow, credits := credits } := by
  induction h with
  | nil => exact ⟨_, _, _, rfl⟩
  | credit _ _ ih | take _ _ _ _ _ ih | block _ ih | blockStream _ _ ih =>
    obtain ⟨_, _, _, rfl⟩ := ih
    exact ⟨_, _, _, rfl⟩

theorem tracks_refl (u : Outlay P) (drawn : List (Nat × Segment)) : u.Tracks u.stores drawn :=
  fun _ _ _ hp => .inl hp

theorem Step.of_pays (hpays : u.Pays v drawn)
    (hw : w = { v with stores := w.stores, trace := w.trace }) (htracks : u.Tracks w.stores drawn)
    (new : List (Event P)) (htrace : w.trace = new ++ u.trace) (hnew : ∀ e ∈ new, Backed drawn e) :
    u.Step E w := by
  rw [hw, htrace]
  exact .send hpays htracks hnew

theorem Step.note {e : Event P} (h : Backed [] e) : u.Step E (u.log e) :=
  .of_pays .nil rfl (u.tracks_refl []) [e] rfl fun _ he => List.mem_singleton.mp he ▸ h

theorem Step.mono {E' : Prop} (h : u.Step E v) (hE : E → E') : u.Step E' v := by
  cases h with
  | send hpays htracks hnew => exact .send hpays htracks hnew
  | requeue hcarried => exact .requeue hcarried
  | «open» dir => exact .open dir
  | write data fin hs => exact .write data fin hs
  | reset hs hs' => exact .reset hs hs'
  | learn p hnone => exact .learn p hnone
  | grant packetType max => exact .grant packetType max
  | grantStream packetType id max => exact .grantStream packetType id max
  | accept packetType id offset fin data => exact .accept packetType id offset fin data
  | replay data h => exact .replay data (h.imp_left hE)
  | early key pn dest frames h => exact .early key pn dest frames h
  | queue early h => exact .queue early (hE h)
  | settle => exact .settle

namespace Steps

theorem refl (u : Outlay P) : Steps E u u := Relation.ReflTransGen.refl

theorem single (h : u.Step E v) : Steps E u v := Relation.ReflTransGen.single h

theorem trans (h : Steps E u v) (h' : Steps E v w) : Steps E u w := Relation.ReflTransGen.trans h h'

theorem mono {E' : Prop} (h : Steps E u v) (hE : E → E') : Steps E' u v := by
  induction h with
  | refl => exact refl u
  | tail _ hstep ih => exact ih.trans (single (hstep.mono hE))

theorem invariant {I : Outlay P → Prop} (step : ∀ {u v}, I u → u.Step E v → I v) (h : I u)
    (hsteps : Steps E u v) : I v := by
  induction hsteps with
  | refl => exact h
  | tail _ hstep ih => exact step ih hstep

end Steps

/-! ### Without sending -/

/-- What can happen besides that stream data is sent.  `E` says that the application writes early
data. -/
inductive Calm (E : Prop) (u : Outlay P) : Outlay P → Prop where
  /-- Packets are forgotten, or the history goes on. -/
  | forget {stores : PerSpace SentPackets} {new : List (Event P)} :
      (∀ kind pn p, (stores.get kind).sent.get? pn = some p →
        (u.stores.get kind).sent.get? pn = some p) →
      (∀ e ∈ new, Backed [] e) → Calm E u { u with stores := stores, trace := new ++ u.trace }
  | requeue {id : Nat} {seg : Segment} : u.Carried id seg →
      Calm E u { u with streams := u.streams.modify id (·.requeue seg) }
  | «open» (dir : Direction) : Calm E u (u.openStream dir)
  | write {id : StreamId} {s : SendStream} (data : Bytes) (fin : Bool) :
      u.streams.get? id = some s →
      Calm E u
        ({ u with streams := u.streams.insert id (s.write data fin) }.log (.wrote id data fin))
  | reset {id : StreamId} {s s' : SendStream} : u.streams.get? id = some s →
      (s' = s ∨ ∃ code, s' = s.reset code) →
      Calm E u ({ u with streams := u.streams.insert id s' }.log (.reset id))
  | learn (p : TransportParams) : u.peerParams = none → Calm E u (u.learn p)
  | grant (packetType : PacketType) (max : Nat) :
      Calm E u ({ u with sendFlow := u.sendFlow.onMaxData max }.log
        (.received packetType (.maxData max)))
  | grantStream (packetType : PacketType) (id max : Nat) :
      Calm E u ((u.grantStream id max).log (.received packetType (.maxStreamData id max)))
  | accept (packetType : PacketType) (id offset : Nat) (fin : Bool) (data : Bytes) :
      Calm E u ((u.accept id).log (.received packetType (.stream id offset fin data)))
  | replay (data : StreamId × Bytes × Bool) : E ∨ u.early ≠ [] → Calm E u (u.replay data)
  | queue (early : List (StreamId × Bytes × Bool)) : E → Calm E u { u with early := early }
  | settle : Calm E u { u with early := [] }

theorem Calm.step (h : u.Calm E v) : u.Step E v := by
  cases h with
  | forget hstores hnew => exact .send .nil (fun kind pn p hp => .inl (hstores kind pn p hp)) hnew
  | requeue hcarried => exact .requeue hcarried
  | «open» dir => exact .open dir
  | write data fin hs => exact .write data fin hs
  | reset hs hs' => exact .reset hs hs'
  | learn p hnone => exact .learn p hnone
  | grant packetType max => exact .grant packetType max
  | grantStream packetType id max => exact .grantStream packetType id max
  | accept packetType id offset fin data => exact .accept packetType id offset fin data
  | replay data h => exact .replay data h
  | queue early h => exact .queue early h
  | settle => exact .settle

theorem Calm.note {e : Event P} (h : Backed [] e) : u.Calm E (u.log e) :=
  @Calm.forget P E u u.stores [e] (fun _ _ _ hp => hp) fun _ he => List.mem_singleton.mp he ▸ h

/-- Any number of such steps. -/
def Calms (E : Prop) : Outlay P → Outlay P → Prop := Relation.ReflTransGen fun u v => u.Calm E v

namespace Calms

theorem refl (u : Outlay P) : Calms E u u := Relation.ReflTransGen.refl

theorem of_eq (h : v = u) : Calms E u v := by
  rw [h]
  exact refl u

theorem single (h : u.Calm E v) : Calms E u v := Relation.ReflTransGen.single h

theorem trans (h : Calms E u v) (h' : Calms E v w) : Calms E u w := Relation.ReflTransGen.trans h h'

theorem steps (h : Calms E u v) : Steps E u v := by
  induction h with
  | refl => exact .refl u
  | tail _ hcalm ih => exact ih.trans (.single hcalm.step)

end Calms

end Outlay

namespace Connection

def outlay (c : Connection P) : Outlay P where
  role := c.role
  opened := c.opened
  streams := c.sendStreams
  sendFlow := c.flow.sendFlow
  credits := c.flow.streamSendFlow
  peerParams := c.hs.peerParams
  stores := c.sentPackets
  early := c.zeroRtt.earlyDataBuf
  trace := c.trace

theorem outlay_of_traffic {c d : Connection P} (h : d.traffic = c.traffic) :
    d.outlay = c.outlay := by
  have hview : ∀ e : Connection P, e.outlay = {
      role := e.traffic.role
      opened := e.traffic.opened
      streams := e.traffic.sendStreams
      sendFlow := e.traffic.flow.sendFlow
      credits := e.traffic.flow.streamSendFlow
      peerParams := e.traffic.peerParams
      stores := e.traffic.sentPackets
      early := e.traffic.early
      trace := e.traffic.trace } := fun _ => rfl
  rw [hview d, hview c, h]

end Connection

/-! ## Filling a packet -/

namespace Filling

/-- The stream data in a packet. -/
def stock (f : Filling P) : List Frame × List SentFrame :=
  (f.placed.filter Frame.isStream, f.frames.filter SentFrame.isStream)

variable (f : Filling P) (c : Connection P) {frame : Frame}

theorem place_stock
    (h : frame.isStream = false) : ({ f with conn := c }.place frame).stock = f.stock := by
  simp [stock, place, h]

theorem placeRecorded_stock {sent : SentFrame}
    (h : frame.isStream = false) (hsent : sent.isStream = false) :
    ({ f with conn := c }.placeRecorded frame sent).stock = f.stock := by
  simp [stock, placeRecorded, place, h, hsent]

/-- A filling goes on and draws stream data. -/
structure Spends (f f' : Filling P) (drawn : List (Nat × Segment)) : Prop where
  pays : f.conn.outlay.Pays f'.conn.outlay drawn
  stock : f'.stock = (f.stock.1 ++ framesOf drawn, f.stock.2 ++ sentFramesOf drawn)

theorem Spends.of_quiet {f f' : Filling P} (hquiet : f'.conn.quiet = f.conn.quiet)
    (hstock : f'.stock = f.stock) : f.Spends f' [] where
  pays := by
    have hsame : f'.conn.outlay = f.conn.outlay := (congrArg Connection.outlay hquiet :)
    exact hsame ▸ .nil
  stock := by
    rw [hstock]
    simp [framesOf, sentFramesOf]

theorem Spends.trans {f f' f'' : Filling P} {drawn' : List (Nat × Segment)}
    (h : f.Spends f' drawn) (h' : f'.Spends f'' drawn') : f.Spends f'' (drawn ++ drawn') where
  pays := h.pays.trans h'.pays
  stock := by
    rw [h'.stock, h.stock]
    simp [framesOf, sentFramesOf]

end Filling

namespace Connection

open Filling

section Fill

variable (f : Filling P) (budget : Nat)

variable (c : Connection P) (kind : SpaceKind)

theorem fillAck_stock : (fillAck f kind).stock = f.stock := by
  simp only [fillAck]
  split
  · rename_i frame hframe
    obtain ⟨_, _, _, rfl⟩ := buildAck_frame (Prod.ext rfl hframe)
    simp [stock, Frame.isStream]
  · rfl

theorem fillCrypto_stock : (fillCrypto f kind budget).stock = f.stock := by
  simp only [fillCrypto]
  split
  · rfl
  split
  · exact placeRecorded_stock f _ rfl rfl
  · rfl

theorem fillProbe_stock : (fillProbe f).stock = f.stock := by
  simp only [fillProbe]
  split
  · split
    · rfl
    · exact placeRecorded_stock f f.conn rfl rfl
  · rfl

theorem fillKeepAlive_stock : (fillKeepAlive f).stock = f.stock := by
  simp only [fillKeepAlive]
  split
  · exact placeRecorded_stock f _ rfl rfl
  · rfl

theorem fillKeyUpdatePing_stock : (fillKeyUpdatePing f).stock = f.stock := by
  simp only [fillKeyUpdatePing]
  split
  · exact placeRecorded_stock f f.conn rfl rfl
  · rfl

theorem fillMtuProbe_stock (size : Nat) : (fillMtuProbe f size).stock = f.stock := by
  have hping : ({ f with conn := f.conn.clearMtuProbe }.placeRecorded .ping
      (.mtuProbe size)).stock = f.stock := placeRecorded_stock f _ rfl rfl
  simp only [fillMtuProbe]
  split
  · refine Eq.trans ?_ hping
    simp [stock, Frame.isStream]
  · exact hping

theorem ControlStep.stock {kind : SpaceKind} {budget : Nat} {f f' : Filling P}
    (h : ControlStep kind budget f f') : f'.stock = f.stock := by
  cases hstep : h.step with
  | stream => cases h.isControl rfl (List.mem_singleton.mpr rfl)
  | ack hack =>
    obtain ⟨_, _, _, rfl⟩ := buildAck_frame hack
    simp [Filling.stock, Frame.isStream]
  | mtuProbe => exact fillMtuProbe_stock f _
  | probe =>
    dsimp only
    split
    · rfl
    · exact placeRecorded_stock f _ rfl rfl
  | forgetMtuProbe | dropDataBlocked | streamFlow | connectionBlocked | streamBlocked => rfl
  | crypto | newConnectionId | retireConnectionId | maxStreams | streamsBlocked | newToken
  | keepAlive | keyUpdate => exact placeRecorded_stock f _ rfl rfl
  | _ => exact place_stock f _ rfl

theorem fillControl_stock : (fillControl f budget).stock = f.stock :=
  (fillControl_controls .application f budget).invariant
    (I := fun g => g.stock = f.stock) (fun _ _ hstep hg => hstep.stock.trans hg) rfl

/-! ### Stream data -/

theorem ensureStreamSendFlow_pays (id : Nat) :
    c.outlay.Pays (c.ensureStreamSendFlow id).outlay [] ∧
      ∃ credit, (c.ensureStreamSendFlow id).flow.streamSendFlow.get? id = some credit := by
  simp only [ensureStreamSendFlow]
  split
  · rename_i credit hcredit
    exact ⟨.nil, credit, hcredit⟩
  · rename_i hnone
    exact ⟨.credit .nil hnone, _, OrdMap.get?_insert_self ..⟩

/-- What is sent for the first time is within the credit of the stream and the connection. -/
theorem streamAllowance_le {credit : SendCredit}
    (hcredit : c.flow.streamSendFlow.get? id = some credit) (s : SendStream) (avail : Nat)
    (hresend : s.resend = []) :
    c.streamAllowance id s avail ≤ c.flow.sendFlow.available ∧
      c.streamAllowance id s avail ≤ credit.available := by
  have hallowance : c.streamAllowance id s avail =
      min avail (min c.flow.sendFlow.available credit.available) := by
    simp [streamAllowance, SendStream.hasResend, hresend, hcredit]
  rw [hallowance]
  omega

theorem fillStream_spends {s : SendStream} (hs : f.conn.sendStreams.get? id = some s)
    (avail : Nat) : ∃ drawn, f.Spends (fillStream f id s avail) drawn := by
  obtain ⟨hpays, credit, hcredit⟩ := ensureStreamSendFlow_pays f.conn id
  have hstreams : (f.conn.ensureStreamSendFlow id).sendStreams = f.conn.sendStreams := by
    simp only [ensureStreamSendFlow]
    split <;> rfl
  simp only [fillStream]
  generalize f.conn.ensureStreamSendFlow id = d at hpays hcredit hstreams
  rw [← hstreams] at hs
  have hnothing : f.Spends { f with conn := d } [] :=
    ⟨hpays, by simp [Filling.stock, framesOf, sentFramesOf]⟩
  split
  · exact ⟨[], hnothing⟩
  rcases htaken : s.take (d.streamAllowance id s avail) with ⟨s', seg⟩
  cases seg with
  | none =>
    have hsame : ({ d with sendStreams := d.sendStreams.insert id s' } : Connection P) = d := by
      rw [SendStream.take_none htaken, OrdMap.insert_of_get?_eq_some hs]
    exact ⟨[], by simpa only [hsame] using hnothing⟩
  | some seg =>
    have htakes := (SendStream.take_takes htaken).2
    refine ⟨[] ++ [(id, seg)], ?_, ?_⟩
    · have hcharged : (({ d with sendStreams := d.sendStreams.insert id s' } :
          Connection P).chargeFlow id (seg.offset + seg.data.length)).outlay
          = d.outlay.pay id s' credit seg := by
        simp only [chargeFlow, hcredit]
        rfl
      have hpaid := Outlay.Pays.take hpays hs hcredit htakes (streamAllowance_le d hcredit s avail)
      rw [← hcharged] at hpaid
      exact hpaid
    · simp [Filling.stock, Filling.placeRecorded, Filling.place, framesOf, sentFramesOf,
        Frame.isStream, SentFrame.isStream]

theorem fillStreams_spends (ids : List Nat) (f : Filling P) :
    ∃ drawn, f.Spends (fillStreams budget ids f) drawn := by
  induction ids generalizing f with
  | nil => exact ⟨[], .of_quiet rfl rfl⟩
  | cons id rest ih =>
    simp only [fillStreams]
    split
    · exact ⟨[], .of_quiet rfl rfl⟩
    split
    · exact ih f
    rename_i s hs
    split
    · exact ih f
    obtain ⟨drawn, hone⟩ := fillStream_spends f hs (f.room budget - 24)
    obtain ⟨drawn', hrest⟩ := ih (fillStream f id s (f.room budget - 24))
    exact ⟨drawn ++ drawn', hone.trans hrest⟩

theorem noteBlockedStream_pays {c : Connection P} {u : Outlay P}
    (h : u.Pays c.outlay drawn) (id : Nat) : u.Pays (c.noteBlockedStream id).outlay drawn := by
  simp only [noteBlockedStream]
  split
  · exact h
  split
  · split
    · exact h
    · rename_i flow hflow
      exact .blockStream h hflow
  · exact h

theorem noteBlockedStreams_pays : c.outlay.Pays c.noteBlockedStreams.outlay [] := by
  have hconn : c.outlay.Pays c.noteBlockedConnection.outlay [] := by
    simp only [noteBlockedConnection]
    split
    · exact .block .nil
    · exact .nil
  have hfold : ∀ (ids : List Nat) (d : Connection P), c.outlay.Pays d.outlay [] →
      c.outlay.Pays (ids.foldl noteBlockedStream d).outlay [] := by
    intro ids
    induction ids with
    | nil => exact fun _ h => h
    | cons id rest ih => exact fun d h => ih _ (noteBlockedStream_pays h id)
  exact hfold _ _ hconn

theorem fillStreamFrames_spends : ∃ drawn, f.Spends (fillStreamFrames f budget) drawn := by
  obtain ⟨drawn, hstreams⟩ := fillStreams_spends budget f.conn.sendStreams.keys f
  refine ⟨drawn ++ [], hstreams.trans ⟨noteBlockedStreams_pays _, ?_⟩⟩
  simp [fillStreamFrames, Filling.stock, framesOf, sentFramesOf]

theorem fillRest_spends : ∃ drawn, f.Spends (fillRest f kind budget) drawn := by
  simp only [fillRest]
  split
  · -- control frames, stream data, and probes
    obtain ⟨drawn, hstreams⟩ :=
      fillStreamFrames_spends (fillControl { f with conn := f.conn.clearMtuProbe } budget) budget
    have hcontrol : f.Spends (fillControl { f with conn := f.conn.clearMtuProbe } budget) [] :=
      .of_quiet (fillControl_quiet _ budget) (fillControl_stock _ budget)
    refine ⟨[] ++ drawn ++ [], (hcontrol.trans hstreams).trans (.of_quiet ?_ ?_)⟩
    · exact (fillKeyUpdatePing_quiet _).trans ((fillKeepAlive_quiet _).trans (fillProbe_quiet _))
    · exact (fillKeyUpdatePing_stock _).trans ((fillKeepAlive_stock _).trans (fillProbe_stock _))
  · exact ⟨[], .of_quiet (fillProbe_quiet f) (fillProbe_stock f)⟩

theorem fillPayload_spends :
    ∃ drawn, ({ conn := c } : Filling P).Spends (c.fillPayload kind budget) drawn := by
  have hstart : ({ conn := c } : Filling P).Spends
      (fillCrypto (fillAck { conn := c } kind) kind budget) [] :=
    .of_quiet ((fillCrypto_quiet _ budget kind).trans (fillAck_quiet _ kind))
      ((fillCrypto_stock _ budget kind).trans (fillAck_stock _ kind))
  simp only [fillPayload]
  split
  · exact ⟨[] ++ [], hstart.trans (.of_quiet (fillMtuProbe_quiet _ _) (fillMtuProbe_stock _ _))⟩
  · obtain ⟨drawn, hrest⟩ := fillRest_spends _ budget kind
    exact ⟨[] ++ drawn, hstart.trans hrest⟩

end Fill

/-! ## Sending -/

theorem mem_drawn_of_placed {placed : List Frame}
    (h : placed.filter Frame.isStream = framesOf drawn) {offset : Nat} {fin : Bool}
    {data : Bytes} (hmem : .stream id offset fin data ∈ placed) :
    (id, ⟨offset, data, fin⟩) ∈ drawn := by
  have hframe : .stream id offset fin data ∈ framesOf drawn := h ▸ List.mem_filter.mpr ⟨hmem, rfl⟩
  obtain ⟨d, hd, heq⟩ := List.mem_map.mp hframe
  cases heq
  exact hd

theorem mem_drawn_of_carries {frames : List SentFrame}
    (h : frames.filter SentFrame.isStream = sentFramesOf drawn) {seg : Segment}
    (hmem : Carries frames id seg) : (id, seg) ∈ drawn := by
  have hframe : .stream id seg.offset seg.fin seg.data ∈ sentFramesOf drawn :=
    h ▸ List.mem_filter.mpr ⟨hmem, rfl⟩
  obtain ⟨⟨id', offset, data, fin⟩, hd, heq⟩ := List.mem_map.mp hframe
  obtain ⟨offset', data', fin'⟩ := seg
  cases heq
  exact hd

variable (c : Connection P) {E : Prop} (buf : List (StreamId × Bytes × Bool)) (idx : SpaceKind)
  (now : Time)

variable (frame : SentFrame) (kind : SpaceKind) {u : Outlay P} (out : Bytes)

theorem sealFilled_outlay {c : Connection P} {f : Filling P}
    (h : ({ conn := c } : Filling P).Spends f drawn) (now : Time)
    (kind : SpaceKind) (out : Bytes) : c.outlay.Step E (sealFilled f now kind out).1.outlay := by
  have hplaced : f.placed.filter Frame.isStream = framesOf drawn := congrArg Prod.fst h.stock
  have hframes : f.frames.filter SentFrame.isStream = sentFramesOf drawn :=
    congrArg Prod.snd h.stock
  obtain ⟨_, _, _, hrest⟩ := h.pays.rest
  have hstores : f.conn.sentPackets = c.sentPackets := congrArg (·.stores) hrest
  have htrace : f.conn.trace = c.trace := congrArg (·.trace) hrest
  obtain ⟨_, _, _, _, stores, new, hsealed, hnew, htracked⟩ := sealFilled_conn f now kind out
  rw [hsealed, htrace]
  rw [hstores] at htracked
  refine .send h.pays (fun kind' pn p hp => ?_) fun e he => ?_
  · rcases htracked kind' pn p hp with hold | ⟨hpframes, -⟩
    · exact .inl hold
    · exact .inr fun id seg hseg => mem_drawn_of_carries hframes (hpframes ▸ hseg)
  rcases hnew e he with ⟨label, key, pn, rfl⟩ | ⟨dest, rfl⟩
  · exact trivial
  · exact fun id offset fin data hmem => mem_drawn_of_placed hplaced hmem

theorem writeIf_outlay (cond : Bool) (c : Connection P) (now : Time) (kind : SpaceKind)
    (out : Bytes) : Outlay.Steps E c.outlay (writeIf cond c now kind out).1.outlay := by
  refine writeIf_cases (I := fun r => Outlay.Steps E c.outlay r.1.outlay) (.refl _)
    fun budget _ => ?_
  obtain ⟨drawn, hfilled⟩ := fillPayload_spends budget c kind
  split
  · obtain ⟨_, _, _, hrest⟩ := hfilled.pays.rest
    have hstores := congrArg (·.stores) hrest
    exact .single (.of_pays hfilled.pays rfl (hstores ▸ c.outlay.tracks_refl drawn) []
      (congrArg (·.trace) hrest) (List.forall_mem_nil _))
  · exact .single (sealFilled_outlay hfilled now kind out)

theorem emitClose_outlay : Outlay.Calms E c.outlay (c.emitClose out).1.outlay := by
  obtain ⟨_, _, hclosed, -, hnew⟩ := emitClose_conn c out
  rw [hclosed]
  refine .single (.forget (fun _ _ _ hp => hp) fun e he => ?_)
  rcases hnew e he with ⟨_, _, _, rfl⟩ | ⟨_, _, _, hframe, rfl⟩
  · exact trivial
  · obtain ⟨_, _, _, _, rfl⟩ := takeClose_isClose hframe
    intro id offset fin data hmem
    cases List.mem_singleton.mp hmem

/-! ## Acknowledgements and loss -/

theorem requeueFrame_outlay :
    (c.requeueFrame idx frame).outlay
      = { c.outlay with streams := requeueInto c.outlay.streams frame } := by
  cases frame with
  | crypto | newToken =>
    simp only [requeueFrame]
    split <;> rfl
  | _ => rfl

/-- What recovery makes of the outlay: frames in flight at the start are queued again, and then
packets are out of flight. -/
def OutlayRecovered (E : Prop) (c d : Connection P) : Prop :=
  ∃ streams new, Outlay.Calms E c.outlay { c.outlay with streams := streams } ∧
    d.outlay = { c.outlay with
      streams := streams, stores := d.sentPackets, trace := new ++ c.trace } ∧
    (∀ e ∈ new, Outlay.Backed [] e) ∧ d.FewerInFlight c

theorem OutlayRecovered.refl : OutlayRecovered E c c :=
  ⟨c.sendStreams, [], .refl _, rfl, List.forall_mem_nil _, fun _ _ _ hp => hp⟩

theorem OutlayRecovered.log {c d : Connection P} (h : OutlayRecovered E c d) {e : Event P}
    (he : Outlay.Backed [] e) : OutlayRecovered E c (d.log e) := by
  obtain ⟨streams, new, hcalms, houtlay, hnew, hfewer⟩ := h
  exact ⟨streams, e :: new, hcalms, congrArg (Outlay.log · e) houtlay,
    List.forall_mem_cons.mpr ⟨he, hnew⟩, hfewer⟩

theorem OutlayRecovered.calms {c d : Connection P} (h : OutlayRecovered E c d) :
    Outlay.Calms E c.outlay d.outlay := by
  obtain ⟨streams, new, hcalms, houtlay, hnew, hfewer⟩ := h
  rw [houtlay]
  exact hcalms.trans (.single (.forget hfewer hnew))

theorem recovers_outlay : Recovers c (OutlayRecovered E c) where
  untimed _ _ _ _ _ h := h
  spaces _ _ h := h
  forget d idx store out htakes h := by
    obtain ⟨streams, new, hcalms, houtlay, hnew, hfewer⟩ := h
    exact ⟨streams, new, hcalms, congrArg (fun u : Outlay P =>
      { u with stores := d.sentPackets.set idx store }) houtlay, hnew, hfewer.set htakes⟩
  acked _ _ _ h := h.log trivial
  lost _ _ _ h := h.log trivial
  requeue d idx frame hframe h := by
    obtain ⟨streams, new, hcalms, houtlay, hnew, hfewer⟩ := h
    have hqueued : Outlay.Calms E c.outlay
        { c.outlay with streams := requeueInto streams frame } := by
      cases frame with
      | stream id offset fin data =>
        obtain ⟨pn, p, hp, hmem⟩ := hframe
        exact hcalms.trans (.single (.requeue ⟨idx, pn, p, hp, hmem⟩))
      | _ => exact hcalms
    have hsame := requeueFrame_sentPackets d idx frame
    refine ⟨_, new, hqueued, ?_, hnew, ?_⟩
    · rw [requeueFrame_outlay, houtlay, hsame]
    · rw [FewerInFlight, hsame]
      exact hfewer

/-! ## The handshake -/

theorem learnPeerParams_outlay : Outlay.Calms E c.outlay c.learnPeerParams.outlay := by
  simp only [learnPeerParams]
  split
  · exact .refl _
  rename_i hunknown
  split
  · exact .refl _
  split
  · exact .refl _
  · rename_i p _
    exact .single (.learn p (Option.not_isSome_iff_eq_none.mp hunknown))

theorem foldl_replayEarlyData_outlay (c : Connection P) :
    (buf.foldl replayEarlyData c).outlay = buf.foldl Outlay.replay c.outlay := by
  induction buf generalizing c with
  | nil => rfl
  | cons early rest ih => exact ih (c.replayEarlyData early)

theorem foldl_replay_calms (hearly : u.early ≠ []) :
    Outlay.Calms E u { buf.foldl Outlay.replay { u with early := [] } with early := u.early } := by
  induction buf generalizing u with
  | nil => exact .refl u
  | cons data rest ih => exact .trans (.single (.replay data (.inr hearly))) (ih hearly)

theorem foldl_replay_early (u : Outlay P) : (buf.foldl Outlay.replay u).early = u.early := by
  induction buf generalizing u with
  | nil => rfl
  | cons data rest ih => exact ih (u.replay data)

theorem settleEarlyData_outlay : Outlay.Calms E c.outlay c.settleEarlyData.outlay := by
  simp only [settleEarlyData]
  split
  · split
    · rw [foldl_replayEarlyData_outlay]
      by_cases hbuf : c.zeroRtt.earlyDataBuf = []
      · rw [hbuf]
        exact .single .settle
      have hreplayed := foldl_replay_early c.zeroRtt.earlyDataBuf { c.outlay with early := [] }
      refine .trans (foldl_replay_calms c.zeroRtt.earlyDataBuf hbuf) ?_
      refine .trans (.single .settle) (.of_eq ?_)
      exact (congrArg (fun early => ({ c.zeroRtt.earlyDataBuf.foldl Outlay.replay
        { c.outlay with early := [] } with early := early } : Outlay P)) hreplayed)
    · exact .single .settle
  · exact .refl _

theorem refreshHandshakeComplete_outlay :
    Outlay.Calms E c.outlay c.refreshHandshakeComplete.outlay := by
  simp only [refreshHandshakeComplete]
  split
  · generalize hd : enterEstablished _ _ = d
    have htraffic : d.traffic = c.traffic := hd ▸ enterEstablished_traffic _ _
    refine .trans (.of_eq (outlay_of_traffic htraffic)) (.trans (learnPeerParams_outlay d) ?_)
    exact (settleEarlyData_outlay _).trans (.of_eq (outlay_of_traffic (queueNewToken_traffic _)))
  · exact .refl _

/-! ## Frames -/

theorem ensureStream_outlay (id : StreamId) : (c.ensureStream id).outlay = c.outlay.accept id := by
  have hnote : (c.noteNewPeerStream id).outlay = c.outlay := by
    simp only [noteNewPeerStream]
    split <;> rfl
  have hhalf : ∀ d : Connection P, (d.ensureSendHalf id).outlay = d.outlay.accept id := by
    intro d
    simp only [ensureSendHalf, Outlay.accept]
    split <;> rfl
  exact (hhalf _).trans (congrArg (·.accept id) hnote)

theorem recvStream_outlay (id offset : Nat) (fin : Bool) (data : Bytes) :
    (c.recvStream id offset fin data).1.outlay = c.outlay.accept id := by
  have hensured := ensureStream_outlay c id
  simp only [recvStream]
  generalize c.ensureStream id = d at hensured
  split
  · exact hensured
  · split <;> exact hensured

theorem recvStopSending_outlay (streamId errorCode : Nat) :
    Outlay.Calms E c.outlay (c.recvStopSending streamId errorCode).outlay := by
  simp only [recvStopSending]
  split
  · exact .refl _
  rename_i s hs
  cases hreset : s.isReset with
  | true =>
    have hsame : c.sendStreams.insert streamId s = c.sendStreams := OrdMap.insert_of_get?_eq_some hs
    have hstep := Outlay.Calm.reset (E := E) (u := c.outlay) hs (.inl rfl)
    change c.outlay.Calm E ({ c.outlay with
      streams := c.sendStreams.insert streamId s }.log (.reset streamId)) at hstep
    rw [hsame] at hstep
    exact .single hstep
  | false => exact .single (.reset hs (.inr ⟨_, rfl⟩))

theorem takeFrame_outlay (packetType : PacketType) (frame : Frame) :
    Outlay.Calms E c.outlay (c.takeFrame now packetType frame).1.outlay := by
  generalize hd : c.log (.received packetType frame) = d
  have hstart : d.outlay = c.outlay.log (.received packetType frame) := hd ▸ rfl
  simp only [takeFrame, hd]
  -- a frame that is heard and leaves the outlay alone
  have hhear {d' : Connection P} (hsame : d'.outlay = d.outlay)
      (hbacked : Outlay.Backed [] (.received (P := P) packetType frame)) :
      Outlay.Calms E c.outlay d'.outlay := by
    rw [hsame, hstart]
    exact .single (.note hbacked)
  cases frame with
  | ack largest delay firstRange ranges =>
    exact .trans (hhear rfl trivial)
      (OutlayRecovered.calms ((recovers_outlay d).processAck (.refl d) now packetType _ _ _ _))
  | stopSending streamId errorCode =>
    exact .trans (hhear rfl trivial) (recvStopSending_outlay d streamId errorCode)
  | crypto offset data =>
    exact hhear (recvCrypto_kept (fun _ _ _ _ => rfl) d packetType offset data) trivial
  | stream id offset fin data =>
    refine .trans (.single (.accept packetType id offset fin data)) (.of_eq ?_)
    show (d.recvStream id offset fin data).1.outlay = _
    rw [recvStream_outlay, hstart]
    simp only [Outlay.accept, Outlay.log]
    split <;> rfl
  | maxData max =>
    subst hd
    exact .single (.grant packetType max)
  | maxStreamData id max =>
    subst hd
    exact .single (.grantStream packetType id max)
  | pathResponse data => exact hhear (outlay_of_traffic (recvPathResponse_traffic d data)) trivial
  | handshakeDone | newConnectionId | retireConnectionId | newToken | datagram =>
    exact hhear (handleFrame_minor (fun _ _ _ _ _ _ => rfl) d now packetType rfl) trivial
  | _ => exact hhear rfl trivial

/-! ## Calls -/

theorem step_outlay (hsimple : op.isSimple = true) :
    Outlay.Calms (op.isEarly = true) c.outlay (c.step op).outlay := by
  by_cases haside : op.isAside = true
  · rw [show (c.step op).outlay = c.outlay from (congrArg outlay (step_aside c haside) :)]
    exact .refl _
  cases op with
  | openBidi =>
    simp only [step, openBidi]
    split
    · exact .refl _
    · exact .single (.open .bidirectional)
  | openUni =>
    simp only [step, openUni]
    split
    · exact .refl _
    · exact .single (.open .unidirectional)
  | sendStream stream data fin =>
    simp only [step, sendStream]
    split
    · exact .refl _
    · rename_i s hs
      exact .single (.write data fin hs)
  | readStream stream =>
    simp only [step, readStream]
    split
    · exact .refl _
    split
    · exact .refl _
    · split <;> exact .refl _
  | pollReadable | pollNewPeerStream | popCidEvent | close =>
    simp only [step, pollReadable, pollNewPeerStream, popCidEvent, close]
    split <;> exact .refl _
  | resetStream stream errorCode =>
    simp only [step, resetStream]
    split
    · exact .refl _
    · rename_i s hs
      exact .single (.reset hs (.inr ⟨errorCode, rfl⟩))
  | queueEarlyData stream data fin =>
    simp only [step, queueEarlyData]
    split
    · exact .single (.replay (stream, data, fin) (.inl rfl))
    · exact .single (.queue _ rfl)
  | initiateKeyUpdate now =>
    simp only [step, initiateKeyUpdate]
    -- once for the cooldown and once for the answer
    split <;> split <;> exact .refl _
  | _ => first | exact absurd rfl haside | cases hsimple

theorem advanceRecvFlow_outlay : c.advanceRecvFlow.outlay = c.outlay :=
  advanceRecvFlow_kept (fun _ _ _ _ _ => rfl) c

/-! ## Updates -/

/-- Whether there are keys to write packets of a space with. -/
def isReady (c : Connection P) : SpaceKind → Bool
  | .initial => c.spaces.initial.hasKeys
  | .handshake => c.hs.handshakeKeysReady
  | .application => c.hs.oneRttReady

/-- An update writes a packet if there are keys for it, or sends no stream data. -/
theorem Update.calm {c d : Connection P} (h : Update op c d) :
    (∃ cond now kind out, (cond = true → c.isReady kind = true) ∧
        d = (writeIf cond c now kind out).1) ∨
      (∃ wroteInitial out, d = (writeEarly wroteInitial c out).1) ∨
      Outlay.Calms (op.isEarly = true) c.outlay d.outlay := by
  cases h with
  | initial c now out buf =>
    exact .inl ⟨_, now, .initial, buf, fun h => (Bool.and_eq_true_iff.mp h).1, rfl⟩
  | handshake c now out buf =>
    exact .inl ⟨_, now, .handshake, buf, fun h => (Bool.and_eq_true_iff.mp h).1, rfl⟩
  | application c now out buf wroteInitial =>
    refine .inl ⟨_, now, .application, buf, fun h => ?_, rfl⟩
    exact (Bool.and_eq_true_iff.mp (Bool.and_eq_true_iff.mp h).1).2
  | early c now out buf wroteInitial => exact .inr (.inl ⟨wroteInitial, buf, rfl⟩)
  | call c hsimple => exact .inr (.inr (step_outlay c hsimple))
  | pump op c => exact .inr (.inr (.of_eq (outlay_of_traffic (pumpOnce_traffic c))))
  | refresh op c => exact .inr (.inr (refreshHandshakeComplete_outlay c))
  | retry c now datagram offset =>
    refine .inr (.inr ?_)
    simp only [recvRetryPacket]
    split
    · exact .refl _
    · exact .single (.note (e := .retried _ _ _) trivial)
  | follow c now datagram =>
    obtain ⟨_, _, -, hfollow⟩ := performKeyUpdate_conn c now
    exact .inr (.inr (.of_eq (hfollow ▸ rfl)))
  | frame c now datagram packetType frame =>
    exact .inr (.inr (takeFrame_outlay c now packetType frame))
  | close c now out => exact .inr (.inr (emitClose_outlay c out))
  | advance c now out => exact .inr (.inr (.of_eq (advanceRecvFlow_outlay c)))
  | earlyKeys | adopt | keepAlive | mtu =>
    refine .inr (.inr ?_)
    simp only [tryInstallZeroRttKeys, adoptPeerCid, keepAliveDue, mtuProbeDue]
    split <;> exact .refl _
  | loss c now =>
    exact .inr (.inr (OutlayRecovered.calms ((recovers_outlay c).lossTimerDue (.refl c) now)))
  | _ => exact .inr (.inr (.refl _))

theorem Update.outlay {c d : Connection P} (h : Update op c d) :
    Outlay.Steps (op.isEarly = true) c.outlay d.outlay := by
  rcases h.calm with ⟨cond, now, kind, out, -, rfl⟩ | ⟨wroteInitial, out, rfl⟩ | hcalm
  · exact writeIf_outlay cond c now kind out
  · exact writeEarly_cases (I := fun r => Outlay.Steps _ c.outlay r.1.outlay) (.refl _)
      (fun _ _ _ => .single (.note trivial)) fun _ _ _ h => .single (.early _ _ _ _ h.buffered)
  · exact hcalm.steps

theorem run_outlay {I : Outlay P → Prop} (step : ∀ {u v}, I u → u.Step True v → I v)
    {c : Connection P} (h : I c.outlay) (ops : List Op) : I (c.run ops).outlay := by
  refine invariant_run (I := fun c => I c.outlay) (Q := fun _ => True) ?_ h fun _ _ => trivial
  intro op c d _ h hupdate
  exact (hupdate.outlay.mono fun _ => trivial).invariant step h

end Connection

end OxiQuic
