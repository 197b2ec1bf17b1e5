import OxiQuic.PlainPlatform

/-!
# Signals of flow control

The frames that raise limits and those that report a blocked sender wait in slots until a packet
has room for them.  `fillFlowControlFrames` empties each slot that it finds room for.  The slot of
`DATA_BLOCKED` it empties in any case, so that this signal is lost in a full packet
(`flow_signal_lost`).  No other one ever is (`flow_signals_kept_iff`).
-/

namespace OxiQuic

open Lib Plain Connection

variable {P : Platform} {f f' g : Filling P}

/-- The frames that are to raise the limits of the peer. -/
def Flow.grants (flow : Flow) : List Frame :=
  (flow.pendingMaxData.map Frame.maxData).toList ++
    flow.pendingMaxStreamData.entries.map fun e => .maxStreamData e.1 e.2

/-- The frames of flow control that are to be sent. -/
def Flow.signals (flow : Flow) : List Frame :=
  flow.grants ++ (flow.pendingDataBlocked.map Frame.dataBlocked).toList ++
    flow.pendingStreamDataBlocked.entries.map fun e => .streamDataBlocked e.1 e.2

/-- What is left of the room in a packet after frames each of which is placed if it finds more than
16 bytes. -/
def roomAfter (room : Nat) (frames : List Frame) : Nat :=
  frames.foldl (fun room frame => if 16 < room then room - (Frame.encode frame).length else room)
    room

theorem mem_erase_of_get? {m : OrdMap Nat Nat} {e : Nat × Nat} (e' : Nat × Nat)
    (h : m.get? e.1 = some e.2) (he' : e' ∈ m.entries) : e' = e ∨ e' ∈ (m.erase e.1).entries := by
  by_cases hkey : e'.1 = e.1
  · have hvalue : m.get? e.1 = some e'.2 := hkey ▸ OrdMap.mem_entries_iff.mp he'
    exact .inl (Prod.ext hkey (Option.some.inj (hvalue.symm.trans h)))
  · exact .inr (OrdMap.mem_erase_entries.mpr ⟨hkey, he'⟩)

namespace Filling

/-- `f'` has `new` placed beyond `f`, and every signal that was pending is there or still
pending. -/
structure Keeps (f f' : Filling P) (new : List Frame) : Prop where
  placed : f'.placed = f.placed ++ new
  kept : ∀ frame ∈ f.conn.flow.signals, frame ∈ new ∨ frame ∈ f'.conn.flow.signals

/-- The same, where the connection's own limit is not spoken of. -/
def Offers (f f' : Filling P) : Prop :=
  f'.conn.flow.pendingDataBlocked = f.conn.flow.pendingDataBlocked ∧
    ∃ new, (∀ limit, Frame.dataBlocked limit ∉ new) ∧ f.Keeps f' new

theorem Keeps.trans {new new' : List Frame} (h : f.Keeps g new) (h' : g.Keeps f' new') :
    f.Keeps f' (new ++ new') := by
  refine ⟨by rw [h'.placed, h.placed, List.append_assoc], fun frame hframe => ?_⟩
  rcases h.kept frame hframe with hnew | hpending
  · exact .inl (List.mem_append_left _ hnew)
  · exact (h'.kept frame hpending).imp_left (List.mem_append_right _)

theorem Offers.refl (f : Filling P) : f.Offers f :=
  ⟨rfl, [], fun _ => List.not_mem_nil, (List.append_nil _).symm, fun _ => .inr⟩

theorem Offers.trans (h : f.Offers g) (h' : g.Offers f') : f.Offers f' := by
  obtain ⟨hsame, new, hno, hkeeps⟩ := h
  obtain ⟨hsame', new', hno', hkeeps'⟩ := h'
  refine ⟨hsame'.trans hsame, new ++ new', fun limit hmem => ?_, hkeeps.trans hkeeps'⟩
  exact (List.mem_append.mp hmem).elim (hno limit) (hno' limit)

/-- One frame is placed, and the others stay pending. -/
theorem Offers.place {c : Connection P} {frame : Frame}
    (hsame : c.flow.pendingDataBlocked = f.conn.flow.pendingDataBlocked)
    (hframe : ∀ limit, .dataBlocked limit ≠ frame)
    (hkept : ∀ s ∈ f.conn.flow.signals, s = frame ∨ s ∈ c.flow.signals) :
    f.Offers ({ f with conn := c }.place frame) :=
  ⟨hsame, [frame], fun limit hmem => hframe limit (List.mem_singleton.mp hmem), rfl,
    fun s hs => (hkept s hs).imp_left List.mem_singleton.mpr⟩

theorem room_place (f : Filling P) (budget : Nat) (c : Connection P) (frame : Frame) :
    ({ f with conn := c }.place frame).room budget
      = f.room budget - (Frame.encode frame).length := by
  simp only [Filling.room, Filling.payload, Filling.place, List.flatMap_append,
    List.length_append, List.flatMap_cons, List.flatMap_nil, List.append_nil]
  omega

theorem fillMaxData_offers (f : Filling P) (budget : Nat) : f.Offers (fillMaxData f budget) := by
  simp only [fillMaxData]
  split
  · exact .refl f
  rename_i max hmax
  split
  · refine .place rfl (fun limit h => by cases h) fun s hs => ?_
    simpa [Flow.signals, Flow.grants, hmax] using hs
  · exact .refl f

theorem foldl_fillMaxStreamData_offers (budget : Nat) {updates : List (Nat × Nat)}
    {f : Filling P} (h : f.conn.flow.pendingMaxStreamData.Holds updates) :
    f.Offers (updates.foldl (fillMaxStreamData budget) f) := by
  induction updates generalizing f with
  | nil => exact .refl f
  | cons update rest ih =>
    rw [List.foldl_cons, fillMaxStreamData]
    split
    · refine .trans ?_ (ih h.erase)
      refine .place rfl (fun limit h => by cases h) fun s hs => ?_
      have herase := fun e => mem_erase_of_get? e h.head
      simp only [Flow.signals, Flow.grants, List.mem_append, List.mem_map] at hs ⊢
      grind
    · exact ih h.tail

theorem foldl_fillStreamDataBlocked_offers (budget : Nat) {blocked : List (Nat × Nat)}
    {f : Filling P} (h : f.conn.flow.pendingStreamDataBlocked.Holds blocked) :
    f.Offers (blocked.foldl (fillStreamDataBlocked budget) f) := by
  induction blocked generalizing f with
  | nil => exact .refl f
  | cons b rest ih =>
    rw [List.foldl_cons, fillStreamDataBlocked]
    split
    · refine .trans ?_ (ih h.erase)
      refine .place rfl (fun limit h => by cases h) fun s hs => ?_
      have herase := fun e => mem_erase_of_get? e h.head
      simp only [Flow.signals, Flow.grants, List.mem_append, List.mem_map] at hs ⊢
      grind
    · exact ih h.tail

/-- The room that the frames before `DATA_BLOCKED` leave. -/
theorem room_grants (f : Filling P) (budget : Nat) :
    ((fillMaxData f budget).conn.flow.pendingMaxStreamData.entries.foldl
      (fillMaxStreamData budget) (fillMaxData f budget)).room budget
      = roomAfter (f.room budget) f.conn.flow.grants := by
  have hfold : ∀ (updates : List (Nat × Nat)) (g : Filling P),
      (updates.foldl (fillMaxStreamData budget) g).room budget
        = roomAfter (g.room budget) (updates.map fun e => .maxStreamData e.1 e.2) := by
    intro updates
    induction updates with
    | nil => exact fun g => rfl
    | cons update rest ih =>
      intro g
      rw [List.foldl_cons, ih, fillMaxStreamData, List.map_cons, roomAfter, roomAfter,
        List.foldl_cons]
      split
      · rw [room_place]
      · rfl
  rw [hfold, Flow.grants, fillMaxData]
  cases f.conn.flow.pendingMaxData with
  | none => rfl
  | some max =>
    simp only [Option.map_some, Option.toList_some, List.singleton_append, roomAfter,
      List.foldl_cons]
    split
    · rw [room_place]
      rfl
    · rfl

end Filling

/-- No signal of flow control is lost exactly if there is nothing to say of the connection's own
limit, or still room for it after the frames that raise limits. -/
theorem flow_signals_kept_iff (f : Filling P) (budget : Nat) :
    (∃ new, f.Keeps (fillFlowControlFrames f budget) new) ↔ f.conn.flow.pendingDataBlocked = none ∨
        16 < roomAfter (f.room budget) f.conn.flow.grants := by
  have hbefore := (f.fillMaxData_offers budget).trans
    (Filling.foldl_fillMaxStreamData_offers budget (OrdMap.holds_entries _))
  rw [← Filling.room_grants]
  simp only [fillFlowControlFrames]
  generalize (fillMaxData f budget).conn.flow.pendingMaxStreamData.entries.foldl
    (fillMaxStreamData budget) (fillMaxData f budget) = g at hbefore
  have hafter := Filling.foldl_fillStreamDataBlocked_offers budget (f := fillDataBlocked g budget)
    (OrdMap.holds_entries _)
  obtain ⟨hsame, new, hno, hkeeps⟩ := hbefore
  obtain ⟨hsame', new', hno', hkeeps'⟩ := hafter
  rw [← hsame]
  cases hblocked : g.conn.flow.pendingDataBlocked with
  | none =>
    have hnothing : fillDataBlocked g budget = g := by simp only [fillDataBlocked, hblocked]
    rw [hnothing] at hkeeps' ⊢
    exact iff_of_true ⟨_, hkeeps.trans hkeeps'⟩ (.inl rfl)
  | some limit =>
    by_cases hroom : 16 < g.room budget
    · have hkeeps'' : g.Keeps (fillDataBlocked g budget) [.dataBlocked limit] := by
        simp only [fillDataBlocked, hblocked]
        rw [if_pos (by exact hroom)]
        refine ⟨rfl, fun s hs => ?_⟩
        simp only [Flow.signals, Flow.grants, hblocked, Option.map_some, Option.toList_some,
          List.mem_append, Filling.place] at hs ⊢
        grind
      exact iff_of_true ⟨_, (hkeeps.trans hkeeps'').trans hkeeps'⟩ (.inr hroom)
    · -- the signal is neither placed nor pending any more
      refine iff_of_false ?_ ?_
      · rintro ⟨all, hall⟩
        have hdropped : (fillDataBlocked g budget).placed = g.placed ∧
            (fillDataBlocked g budget).conn.flow.pendingDataBlocked = none := by
          simp only [fillDataBlocked, hblocked]
          rw [if_neg (by exact hroom)]
          exact ⟨rfl, rfl⟩
        have heq : all = new ++ new' := by
          have hplaced := hall.placed
          rw [hkeeps'.placed, hdropped.1, hkeeps.placed, List.append_assoc] at hplaced
          exact (List.append_cancel_left hplaced).symm
        have hmem : .dataBlocked limit ∈ f.conn.flow.signals := by
          simp [Flow.signals, ← hsame, hblocked]
        rcases hall.kept _ hmem with hnew | hpending
        · rw [heq] at hnew
          exact (List.mem_append.mp hnew).elim (hno limit) (hno' limit)
        · simp [Flow.signals, Flow.grants, hsame', hdropped.2] at hpending
      · simp [hroom]

/-- A client that may not send anything wants to say so in a packet with 16 bytes left. -/
theorem flow_signal_lost :
    let c := (Plain.client []).run (joins (Plain.client []) ++
      [.openBidi, .sendStream 0 [1] false, .pollTransmit 2 [], .pollTransmit 2 []])
    let after := fillFlowControlFrames { conn := c } 16
    c.flow.signals = [.dataBlocked 0, .streamDataBlocked 0 0] ∧ after.placed = [] ∧
      after.conn.flow.signals = [.streamDataBlocked 0 0] := by
  decide +kernel

end OxiQuic
