import OxiQuic.Connection.Outlay

/-!
# Which bytes of a stream were sent

The history tells which bytes of a stream were ever sent (`wasSent`).  Whatever is to be sent
again was sent before: the segments in the resend queues of the streams, and those that tracked
packets carry and that may return there (`Outlay.Repeats`, `Connection.Fresh.run_repeats`).
-/

namespace OxiQuic

open Lib

variable {P : Platform} {c : Connection P} {trace : List (Event P)} {drawn : List (Nat × Segment)}
    {seg : Segment} {id : Nat}

/-- Whether a frame carries the byte of a stream at a position. -/
def Frame.covers (id pos : Nat) : Frame → Bool
  | .stream id' offset _ data =>
    decide (id' = id) && decide (offset ≤ pos) && decide (pos < offset + data.length)
  | _ => false

/-- Whether an event is that of a packet sent with the byte of a stream at a position. -/
def Event.covers (id pos : Nat) : Event P → Bool
  | .sent _ _ frames => frames.any (Frame.covers id pos)
  | _ => false

/-- Whether the byte of a stream at a position was ever sent. -/
def wasSent (trace : List (Event P)) (id pos : Nat) : Bool := trace.any (Event.covers id pos)

theorem Frame.covers_iff {pos : Nat} {frame : Frame} :
    frame.covers id pos = true ↔
      ∃ offset fin data, frame = .stream id offset fin data ∧ offset ≤ pos ∧
        pos < offset + data.length := by
  cases frame with
  | stream id' offset fin data =>
    simp only [covers, Bool.and_eq_true, decide_eq_true_eq]
    constructor
    · rintro ⟨⟨rfl, hle⟩, hlt⟩
      exact ⟨offset, fin, data, rfl, hle, hlt⟩
    rintro ⟨_, _, _, heq, hle, hlt⟩
    cases heq
    exact ⟨⟨rfl, hle⟩, hlt⟩
  | _ => exact ⟨nofun, fun ⟨_, _, _, heq, _⟩ => by cases heq⟩

theorem wasSent_cons (e : Event P) (trace : List (Event P)) (id pos : Nat) :
    wasSent (e :: trace) id pos = (e.covers id pos || wasSent trace id pos) := List.any_cons

theorem wasSent_append (new trace : List (Event P)) (id pos : Nat) :
    wasSent (new ++ trace) id pos = (wasSent new id pos || wasSent trace id pos) := List.any_append

/-- All bytes of a segment were sent. -/
def Resent (trace : List (Event P)) (id : Nat) (seg : Segment) : Prop :=
  ∀ pos, seg.offset ≤ pos → pos < seg.stop → wasSent trace id pos = true

theorem Resent.append
    (h : Resent trace id seg) (new : List (Event P)) : Resent (new ++ trace) id seg := by
  intro pos hle hlt
  rw [wasSent_append, h pos hle hlt, Bool.or_true]

/-- What leaves a stream that has something to send again was sent before, and so was what
remains. -/
theorem Resent.takes {max : Nat} {s s' : SendStream}
    (htakes : s.Takes max s' seg) (h : ∀ seg ∈ s.resend, Resent trace id seg) :
    (∀ seg ∈ s'.resend, Resent trace id seg) ∧ (s.resend ≠ [] → Resent trace id seg) := by
  cases htakes with
  | @whole _ rest hresend _ _ =>
    rw [hresend] at h
    exact ⟨fun seg hseg => h seg (List.mem_cons_of_mem _ hseg), fun _ => h _ List.mem_cons_self⟩
  | @split front rest hresend _ hlt =>
    rw [hresend] at h
    have hfront := h front List.mem_cons_self
    have hstop : front.stop = front.offset + front.data.length := rfl
    refine ⟨fun seg hseg => ?_, fun _ pos hle hlt' => hfront pos hle ?_⟩
    · rcases List.mem_cons.mp hseg with rfl | hrest
      · intro pos hle hlt'
        simp only [Segment.stop, List.length_drop] at hle hlt'
        exact hfront pos (by omega) (by omega)
      · exact h seg (List.mem_cons_of_mem _ hrest)
    · simp only [Segment.stop, List.length_take] at hlt'
      omega
  | pureFin hresend | fresh hresend => exact ⟨h, fun hne => absurd hresend hne⟩

namespace Outlay

variable {u v w : Outlay P}

/-- What may be sent again was sent before. -/
structure Repeats (u : Outlay P) : Prop where
  /-- The segments that wait to be sent again. -/
  queued : ∀ id s, u.streams.get? id = some s → ∀ seg ∈ s.resend, Resent u.trace id seg
  /-- Those that tracked packets carry. -/
  tracked : ∀ id seg, u.Carried id seg → Resent u.trace id seg

/-- Nothing is sent: packets may be forgotten, what they carry may wait to be sent again, and the
history goes on. -/
structure Tame (u v : Outlay P) : Prop where
  queued : ∀ id s, v.streams.get? id = some s → ∀ seg ∈ s.resend,
    u.Carried id seg ∨ ∃ s', u.streams.get? id = some s' ∧ seg ∈ s'.resend
  tracked : ∀ kind pn p, (v.stores.get kind).sent.get? pn = some p →
    (u.stores.get kind).sent.get? pn = some p
  trace : ∃ new, v.trace = new ++ u.trace

theorem Tame.carried (h : u.Tame v) (hcarried : v.Carried id seg) : u.Carried id seg := by
  obtain ⟨kind, pn, p, hp, hcarries⟩ := hcarried
  exact ⟨kind, pn, p, h.tracked kind pn p hp, hcarries⟩

theorem Tame.refl (u : Outlay P) : u.Tame u where
  queued := fun _ s hs _ hseg => .inr ⟨s, hs, hseg⟩
  tracked := fun _ _ _ hp => hp
  trace := ⟨[], rfl⟩

theorem Tame.trans (h : u.Tame v) (h' : v.Tame w) : u.Tame w where
  queued := by
    intro id s hs seg hseg
    rcases h'.queued id s hs seg hseg with hcarried | ⟨s', hs', hseg'⟩
    · exact .inl (h.carried hcarried)
    · exact h.queued id s' hs' seg hseg'
  tracked := fun kind pn p hp => h.tracked kind pn p (h'.tracked kind pn p hp)
  trace := by
    obtain ⟨new, hnew⟩ := h.trace
    obtain ⟨more, hmore⟩ := h'.trace
    exact ⟨more ++ new, by rw [hmore, hnew, List.append_assoc]⟩

theorem Tame.of_streams (hstreams : v.streams = u.streams) (hstores : v.stores = u.stores)
    (new : List (Event P)) (htrace : v.trace = new ++ u.trace) : u.Tame v where
  queued := fun _ s hs _ hseg => .inr ⟨s, hstreams ▸ hs, hseg⟩
  tracked := fun _ _ _ hp => hstores ▸ hp
  trace := ⟨new, htrace⟩

theorem Tame.insert {s' : SendStream} (hstreams : v.streams = u.streams.insert id s')
    (hstores : v.stores = u.stores) (new : List (Event P)) (htrace : v.trace = new ++ u.trace)
    (hs' : ∀ seg ∈ s'.resend, ∃ s, u.streams.get? id = some s ∧ seg ∈ s.resend) : u.Tame v where
  queued := by
    intro id' s hs seg hseg
    rw [hstreams, OrdMap.get?_insert] at hs
    split at hs
    · rename_i hid
      cases hs
      subst hid
      exact .inr (hs' seg hseg)
    · exact .inr ⟨s, hs, hseg⟩
  tracked := fun _ _ _ hp => hstores ▸ hp
  trace := ⟨new, htrace⟩

theorem replay_tame (u : Outlay P) (data : StreamId × Bytes × Bool) : u.Tame (u.replay data) := by
  refine .insert rfl rfl [.replayed data.1] rfl fun seg hseg => ?_
  cases hs : u.streams.get? data.1 with
  | none =>
    rw [hs] at hseg
    cases hseg
  | some s =>
    rw [hs] at hseg
    exact ⟨s, rfl, hseg⟩

theorem accept_tame (u : Outlay P) (id : StreamId) : u.Tame (u.accept id) := by
  have hcredit : u.Tame (u.addCredit id) := .of_streams rfl rfl [] rfl
  rw [accept]
  split
  · rcases addStream_cases (u.addCredit id) id with hsame | ⟨_, hadded⟩
    · rw [hsame]
      exact hcredit
    · rw [hadded]
      exact hcredit.trans (.insert rfl rfl [] rfl fun _ hseg => by cases hseg)
  · exact .refl u

theorem Calm.tame {E : Prop} (h : u.Calm E v) : u.Tame v := by
  cases h with
  | @forget stores new hstores _ =>
    exact ⟨fun _ s hs _ hseg => .inr ⟨s, hs, hseg⟩, hstores, ⟨new, rfl⟩⟩
  | @requeue id seg hcarried =>
    refine ⟨fun id' s hs seg' hseg' => ?_, fun _ _ _ hp => hp, ⟨[], rfl⟩⟩
    rw [OrdMap.get?_modify] at hs
    split at hs
    · rename_i hid
      subst hid
      obtain ⟨s', hs', rfl⟩ := Option.map_eq_some_iff.mp hs
      rcases List.mem_append.mp hseg' with hold | hnew
      · exact .inr ⟨s', hs', hold⟩
      · rw [List.mem_singleton.mp hnew]
        exact .inl hcarried
    · exact .inr ⟨s, hs, hseg'⟩
  | «open» dir => exact .insert rfl rfl [.opened (u.nextId dir)] rfl fun _ hseg => by cases hseg
  | @write id s data fin hs =>
    exact .insert rfl rfl [.wrote id data fin] rfl fun seg hseg => ⟨s, hs, hseg⟩
  | @reset id s s' hs hs' =>
    refine .insert rfl rfl [.reset id] rfl fun seg hseg => ?_
    rcases hs' with rfl | ⟨code, rfl⟩
    · exact ⟨s', hs, hseg⟩
    · cases hseg
  | grant packetType max =>
    exact .of_streams rfl rfl [.received packetType (.maxData max)] rfl
  | grantStream packetType id max =>
    exact .of_streams rfl rfl [.received packetType (.maxStreamData id max)] rfl
  | accept packetType id offset fin data =>
    exact (accept_tame u id).trans
      (.of_streams rfl rfl [.received packetType (.stream id offset fin data)] rfl)
  | replay data => exact replay_tame u data
  | _ => exact .of_streams rfl rfl [] rfl

theorem Calms.tame {E : Prop} (h : Calms E u v) : u.Tame v := by
  induction h with
  | refl => exact .refl u
  | tail _ hcalm ih => exact ih.trans hcalm.tame

theorem Repeats.of_tame (h : u.Repeats) (htame : u.Tame v) : v.Repeats := by
  obtain ⟨new, hnew⟩ := htame.trace
  rw [show v = { v with trace := new ++ u.trace } by rw [← hnew]]
  refine ⟨fun id s hs seg hseg => ?_, fun id seg hcarried => ?_⟩
  · refine Resent.append ?_ new
    rcases htame.queued id s hs seg hseg with hcarried | ⟨s', hs', hseg'⟩
    · exact h.tracked id seg hcarried
    · exact h.queued id s' hs' seg hseg'
  · exact (h.tracked id seg (htame.carried hcarried)).append new

theorem Pays.queued (hpays : u.Pays v drawn)
    (h : ∀ id s, u.streams.get? id = some s → ∀ seg ∈ s.resend, Resent trace id seg) :
    ∀ id s, v.streams.get? id = some s → ∀ seg ∈ s.resend, Resent trace id seg := by
  induction hpays with
  | nil => exact h
  | credit _ _ ih | block _ ih | blockStream _ _ ih => exact ih
  | @take v drawn id max s s' f seg _ hs _ htakes _ ih =>
    exact OrdMap.forall_insert (Resent.takes htakes (ih _ s hs)).1 ih

end Outlay

namespace Connection

/-! ## Sending -/

theorem resent_of_placed {dest : SocketAddr} {kind : SpaceKind}
    {placed : List Frame} (hsent : .sent dest kind placed ∈ trace)
    (hplaced : .stream id seg.offset seg.fin seg.data ∈ placed) : Resent trace id seg := by
  intro pos hle hlt
  refine List.any_eq_true.mpr ⟨_, hsent, List.any_eq_true.mpr ⟨_, hplaced, ?_⟩⟩
  exact Frame.covers_iff.mpr ⟨seg.offset, seg.fin, seg.data, rfl, hle, hlt⟩

theorem mem_placed_of_carries {f : Filling P}
    (hplaced : f.placed.filter Frame.isStream = framesOf drawn)
    (hframes : f.frames.filter SentFrame.isStream = sentFramesOf drawn)
    (hcarries : Carries f.frames id seg) : .stream id seg.offset seg.fin seg.data ∈ f.placed := by
  have hdrawn := mem_drawn_of_carries hframes hcarries
  have hframe : .stream id seg.offset seg.fin seg.data ∈ framesOf drawn :=
    List.mem_map.mpr ⟨(id, seg), hdrawn, rfl⟩
  exact (List.mem_filter.mp (hplaced ▸ hframe)).1

theorem sealFilled_repeats (h : c.outlay.Repeats) {f : Filling P}
    (hspends : ({ conn := c } : Filling P).Spends f drawn)
    (now : Time) (kind : SpaceKind) (out : Bytes) :
    (sealFilled f now kind out).1.outlay.Repeats := by
  obtain ⟨_, _, _, hrest⟩ := hspends.pays.rest
  have hstores : f.conn.sentPackets = c.sentPackets := congrArg (·.stores) hrest
  have htrace : f.conn.trace = c.trace := congrArg (·.trace) hrest
  obtain ⟨_, _, _, _, stores, new, hsealed, -, htracked⟩ := sealFilled_conn f now kind out
  rw [hsealed, htrace]
  rw [hstores] at htracked
  refine ⟨fun id s hs seg hseg => ?_, ?_⟩
  · exact (hspends.pays.queued h.queued id s hs seg hseg).append new
  rintro id seg ⟨kind', pn, p, hp, hcarries⟩
  rcases htracked kind' pn p hp with hold | ⟨hframes, dest, hsent⟩
  · exact (h.tracked id seg ⟨kind', pn, p, hold, hcarries⟩).append new
  refine resent_of_placed (List.mem_append_left _ hsent) ?_
  exact mem_placed_of_carries (congrArg Prod.fst hspends.stock) (congrArg Prod.snd hspends.stock)
    (hframes ▸ hcarries)

theorem writeIf_repeats (h : c.outlay.Repeats) (cond : Bool) (now : Time)
    (kind : SpaceKind) (out : Bytes) : (writeIf cond c now kind out).1.outlay.Repeats := by
  refine writeIf_cases (I := fun r => r.1.outlay.Repeats) h fun budget _ => ?_
  obtain ⟨drawn, hfilled⟩ := fillPayload_spends budget c kind
  split
  · obtain ⟨_, _, _, hrest⟩ := hfilled.pays.rest
    have hsame : (c.fillPayload kind budget).conn.outlay
        = { (c.fillPayload kind budget).conn.outlay with
          stores := c.sentPackets, trace := c.trace } := by
      rw [hrest]
      rfl
    rw [hsame]
    exact ⟨hfilled.pays.queued h.queued, h.tracked⟩
  · exact sealFilled_repeats h hfilled now kind out

/-! ## Runs -/

theorem Update.repeats {op : Op} {d : Connection P} (hupdate : Update op c d)
    (h : c.outlay.Repeats) : d.outlay.Repeats := by
  rcases hupdate.calm with ⟨cond, now, kind, out, -, rfl⟩ | ⟨wroteInitial, out, rfl⟩ | hcalm
  · exact writeIf_repeats h cond now kind out
  · refine writeEarly_cases (I := fun r => r.1.outlay.Repeats) h (fun _ _ _ => ?_) fun _ _ _ _ => ?_
    · exact h.of_tame (.of_streams rfl rfl [_] rfl)
    · exact h.of_tame (.of_streams rfl rfl [_, _] rfl)
  · exact h.of_tame hcalm.tame

theorem Fresh.repeats (hfresh : c.Fresh) : c.outlay.Repeats := by
  cases hfresh <;>
    exact ⟨nofun, fun _ _ ⟨kind, _, _, hp, _⟩ => by cases kind <;> cases hp⟩

theorem Fresh.run_repeats (hfresh : c.Fresh) (ops : List Op) : (c.run ops).outlay.Repeats :=
  invariant_run (I := fun c => c.outlay.Repeats) (Q := fun _ => True)
    (fun _ hc hupdate => hupdate.repeats hc) hfresh.repeats fun _ _ => trivial

end Connection

end OxiQuic
