import OxiQuic.Connection.Conservation
import OxiQuic.Connection.ReceiveLimits

/-!
# Credit for what was received

The connection's window counts what the application has read, and nothing else: what a reset
discards is never returned to it.  Once every stream is read to its end or to its reset, the
count is the sum of the final sizes exactly if the streams that were reset had been read as far
as their resets say (`receive_credit_conserved_iff`).
-/

namespace OxiQuic

open Lib Plain

variable {P : Platform} {s : RecvStream} {c : Connection P} {e : Event P}
    {received consumed id : Nat}

/-! ## Final sizes -/

/-- The final size in the reset that ended a stream, the first of them. -/
def resetSize (id : Nat) : List (Event P) → Option Nat
  | [] => none
  | .received _ (.resetStream id' _ finalSize) :: rest =>
    if id' = id then some ((resetSize id rest).getD finalSize) else resetSize id rest
  | _ :: rest => resetSize id rest

/-- The final size of a stream: where it ends, or what its reset says. -/
def Uptake.finalSize (u : Uptake P) (id : Nat) (s : RecvStream) : Nat :=
  if s.isReset then (resetSize id u.chronicle).getD 0 else s.finalSize.getD 0

/-- The peer uses a stream of this side only when it was opened, and the end of a stream does not
lie below what was received of it. -/
def Event.orderly (role : Role) (rest : List (Event P)) : Event P → Bool
  | .received _ (.stream id offset fin data) =>
    (StreamId.initiator id != role.initiator || wasOpened id rest) &&
      (!fin || decide (((highest rest).get? id).getD 0 ≤ offset + data.length))
  | .received _ (.resetStream id _ _) =>
    StreamId.initiator id != role.initiator || wasOpened id rest
  | _ => true

/-- Every event of a history is orderly. -/
def Ordered (role : Role) : List (Event P) → Prop := Throughout (Event.orderly role)

instance (role : Role) (trace : List (Event P)) : Decidable (Ordered role trace) :=
  inferInstanceAs (Decidable (Throughout _ _))

/-! ## Receive halves -/

namespace RecvStream

theorem turns_takeIn (s : RecvStream) (seg : Segment) : s.Turns (s.takeIn seg) := by
  simp only [takeIn]
  split
  · exact .same
  · rename_i hreset
    exact .recv seg (by simpa using hreset)

/-- What is ready and what was read make up what was delivered. -/
def Balanced (s : RecvStream) (consumed : Nat) : Prop :=
  s.resetCode = none → consumed + s.ready.length = s.readOffset

theorem Balanced.takeIn (h : s.Balanced consumed)
    (seg : Segment) : (s.takeIn seg).Balanced consumed := by
  simp only [RecvStream.takeIn]
  split
  · exact h
  cases hviolates : s.violatesFinalSize seg.stop seg.fin with
  | true => rwa [recv_of_violates hviolates]
  | false =>
    obtain ⟨news, hrecv⟩ := recv_ok hviolates
    have hlength := s.reassembler.accept_length seg.offset seg.data
    rw [hrecv]
    intro hnone
    have hold := h hnone
    show consumed + (s.ready ++ (s.reassembler.accept seg.offset seg.data).2).length
      = (s.reassembler.accept seg.offset seg.data).1.next
    rw [List.length_append, ← hlength]
    show _ = s.readOffset + _
    omega

theorem Balanced.read (h : s.Balanced consumed) : s.read.1.Balanced (consumed + s.ready.length) := h

/-- Nothing was received beyond what the frames say, nor beyond the final size. -/
structure Sized (s : RecvStream) (received : Nat) : Prop where
  received : s.Within received
  finalSize : ∀ fsize, s.finalSize = some fsize → s.Within fsize

theorem sized_empty (received : Nat) : Sized {} received := ⟨within_empty _, nofun⟩

theorem Sized.takeIn (h : s.Sized received) {seg : Segment}
    (hfin : seg.fin = true → received ≤ seg.stop) :
    (s.takeIn seg).Sized (max received seg.stop) := by
  have hmore : s.Within (max received seg.stop) := h.received.mono (Nat.le_max_left ..)
  simp only [RecvStream.takeIn]
  split
  · exact ⟨hmore, h.finalSize⟩
  cases hviolates : s.violatesFinalSize seg.stop seg.fin with
  | true =>
    rw [recv_of_violates hviolates]
    exact ⟨hmore, h.finalSize⟩
  | false =>
    obtain ⟨news, hrecv⟩ := recv_ok hviolates
    rw [hrecv]
    refine ⟨Reassembler.accept_below hmore (Nat.le_max_right ..), fun fsize hfsize => ?_⟩
    cases hseg : seg.fin with
    | true =>
      -- the end comes with this segment
      have hstop : seg.stop = fsize := by simpa [hseg] using hfsize
      subst hstop
      exact Reassembler.accept_below (h.received.mono (hfin hseg)) (Nat.le_refl _)
    | false =>
      have hold : s.finalSize = some fsize := by simpa [hseg] using hfsize
      exact Reassembler.accept_below (h.finalSize fsize hold)
        (finalSize_of_not_violates hviolates hold).2

theorem Sized.applyReset (h : s.Sized received) (code : Nat) : (s.applyReset code).Sized received :=
  ⟨h.received.applyReset code, fun fsize hfsize => (h.finalSize fsize hfsize).applyReset code⟩

theorem Over.finalSize_eq (h : s.Over) (hending : s.Ending)
    (hsized : s.Sized received) (hbalanced : s.Balanced consumed) (hreset : s.resetCode = none) :
    s.finalSize.getD 0 = consumed := by
  obtain ⟨fsize, hfsize, hle⟩ := hending h.finDelivered
  have hge : s.readOffset ≤ fsize := (hsized.finalSize fsize hfsize).next_le
  have hread := hbalanced hreset
  rw [h.ready, List.length_nil] at hread
  rw [hfsize]
  show fsize = consumed
  omega

end RecvStream

/-! ## Which streams there are -/

namespace Uptake

variable {u v : Uptake P}

/-- What a run is assumed to be like at each point. -/
structure Fair (u : Uptake P) : Prop where
  ordered : Ordered u.role u.chronicle
  /-- Stream identifiers have room for this many streams. -/
  room : u.nextBidi ≤ 2 ^ 60

theorem Fair.of_step (h : v.Fair) (hstep : u.Step v) : u.Fair := by
  have hrole : v.role = u.role := by
    cases hstep with
    | frame htakes => cases htakes <;> rfl
    | act hact => cases hact <;> rfl
  have hnext : u.nextBidi ≤ v.nextBidi := by
    cases hstep with
    | frame htakes => cases htakes <;> exact Nat.le_refl _
    | act hact =>
      cases hact with
      | openBidi => exact Nat.le_succ _
      | _ => exact Nat.le_refl _
  refine ⟨?_, Nat.le_trans hnext h.room⟩
  rw [← hrole]
  exact Throughout.of_suffix h.ordered (chronicle_suffix_of_step hstep)

/-- The streams of this side are those that were opened. -/
structure Tracked (u : Uptake P) : Prop where
  known : ∀ id, StreamId.initiator id = u.role.initiator → u.inbound.streams.get? id ≠ none →
    wasOpened id u.chronicle = true
  indexed : ∀ id, wasOpened id u.chronicle = true → StreamId.direction id = .bidirectional →
    StreamId.index id < u.nextBidi

theorem Tracked.insert (h : u.Tracked)
    (hid : StreamId.initiator id = u.role.initiator → wasOpened id (e :: u.chronicle) = true)
    (id' : Nat) (hrole : StreamId.initiator id' = u.role.initiator)
    (hsome : (u.inbound.streams.insert id s).get? id' ≠ none) :
    wasOpened id' (e :: u.chronicle) = true := by
  by_cases heq : id' = id
  · exact heq ▸ hid (heq ▸ hrole)
  · rw [OrdMap.get?_insert_of_ne _ _ heq] at hsome
    exact wasOpened_cons.mpr (.inr (h.known id' hrole hsome))

theorem Tracked.get?_next (h : u.Tracked) (hroom : u.nextBidi < 2 ^ 60) {id : StreamId}
    (hid : id = StreamId.new u.role.initiator .bidirectional u.nextBidi) :
    u.inbound.streams.get? id = none := by
  have hindex : StreamId.index id = u.nextBidi := by
    rw [hid]
    exact StreamId.index_new _ _ (by simp [StreamId.maxIndex]; omega)
  by_contra hsome
  have hopened := h.known id (by rw [hid, StreamId.initiator_new]) hsome
  have hlt := h.indexed id hopened (by rw [hid, StreamId.direction_new])
  omega

theorem tracked_step (h : u.Tracked) (hstep : u.Step v) (hfair : v.Fair) : v.Tracked := by
  cases hstep with
  | frame htakes =>
    cases htakes with
    | hear | announce =>
      exact ⟨fun id hrole hsome => wasOpened_cons.mpr (.inr (h.known id hrole hsome)), h.indexed⟩
    | stream packetType id offset fin data readable newPeerStreams =>
      have horderly := hfair.ordered.1
      simp only [Event.orderly, Bool.and_eq_true, Bool.or_eq_true, bne_iff_ne] at horderly
      refine ⟨h.insert fun hrole => ?_, h.indexed⟩
      exact wasOpened_cons.mpr (.inr (horderly.1.resolve_left (not_not.mpr hrole)))
    | reset packetType id code finalSize readable =>
      have horderly := hfair.ordered.1
      simp only [Event.orderly, Bool.or_eq_true, bne_iff_ne] at horderly
      refine ⟨h.insert fun hrole => ?_, h.indexed⟩
      exact wasOpened_cons.mpr (.inr (horderly.resolve_left (not_not.mpr hrole)))
  | act hact =>
    cases hact with
    | @openUni id hdirection =>
      refine ⟨fun id' hrole hsome => wasOpened_cons.mpr (.inr (h.known id' hrole hsome)),
        fun id' hid hbidi => ?_⟩
      rcases wasOpened_cons.mp hid with heq | hold
      · cases heq
        cases hdirection.symm.trans hbidi
      · exact h.indexed id' hold hbidi
    | @openBidi id hid =>
      refine ⟨h.insert fun _ => wasOpened_cons.mpr (.inl rfl), fun id' hid' hbidi => ?_⟩
      show StreamId.index id' < u.nextBidi + 1
      rcases wasOpened_cons.mp hid' with heq | hold
      · cases heq
        have hroom : u.nextBidi + 1 ≤ 2 ^ 60 := hfair.room
        rw [hid, StreamId.index_new _ _ (by simp [StreamId.maxIndex]; omega)]
        exact Nat.lt_succ_self _
      · exact Nat.lt_succ_of_lt (h.indexed id' hold hbidi)
    | @read id s hs hreset =>
      refine ⟨fun id' hrole hsome => h.known id' hrole ?_, h.indexed⟩
      by_cases heq : id' = id
      · rw [heq, hs]
        exact Option.some_ne_none _
      · exact (OrdMap.get?_insert_of_ne _ _ heq) ▸ hsome
    | notify | raise => exact ⟨h.known, h.indexed⟩

/-! ## Accounts -/

/-- What was read in all and of each stream. -/
structure Accounts (u : Uptake P) : Prop where
  total : u.recvFlow.consumed = u.inbound.streams.sumOver fun id _ => (u.window id).consumed
  balanced : ∀ id, (u.half id).Balanced (u.window id).consumed
  /-- Without a window nothing was delivered. -/
  unread : ∀ id, u.streamRecvFlow.get? id = none → (u.half id).ready = []
  silent : ∀ id, u.inbound.streams.get? id = none → (u.window id).consumed = 0

theorem Accounts.total_insert (h : u.Accounts) (id : Nat) (s : RecvStream) :
    u.recvFlow.consumed =
      (u.inbound.streams.insert id s).sumOver fun id _ => (u.window id).consumed := by
  rw [h.total]
  cases hs : u.inbound.streams.get? id with
  | none => rw [OrdMap.sumOver_insert _ _ hs, h.silent id hs, Nat.zero_add]
  | some s' =>
    have hsum := OrdMap.sumOver_insert_of_get? s (fun id _ => (u.window id).consumed) hs
    exact (Nat.add_right_cancel hsum).symm

theorem Accounts.log (h : u.Accounts) (e : Event P) : (u.log e).Accounts :=
  ⟨h.total, h.balanced, h.unread, h.silent⟩

theorem Accounts.stream (h : u.Accounts) (id : Nat) (seg : Segment)
    (readable newPeerStreams : List StreamId) :
    (u.stream id seg readable newPeerStreams).Accounts where
  total := by
    simp only [window_stream]
    exact h.total_insert id _
  balanced id' := by
    rw [half_stream, window_stream]
    split
    · rename_i hid
      exact hid ▸ (h.balanced id).takeIn seg
    · exact h.balanced id'
  unread id' hnone := by
    obtain ⟨hid, hold⟩ := OrdMap.of_get?_insert_eq_none hnone
    rw [half_stream, if_neg hid]
    exact h.unread id' hold
  silent id' hnone := by
    rw [window_stream]
    exact h.silent id' (OrdMap.of_get?_insert_eq_none hnone).2

theorem Accounts.reset (h : u.Accounts) (id code : Nat) (readable : List StreamId) :
    (u.reset id code readable).Accounts where
  total := h.total_insert id _
  balanced id' := by
    rw [half_reset]
    split
    · exact nofun
    · exact h.balanced id'
  unread id' hnone := by
    rw [half_reset]
    split
    · rfl
    · exact h.unread id' hnone
  silent id' hnone := h.silent id' (OrdMap.of_get?_insert_eq_none hnone).2

theorem Accounts.openBidi (h : u.Accounts) {id : StreamId}
    (hnew : u.inbound.streams.get? id = none) : (u.openBidi id).Accounts where
  total := by
    show u.recvFlow.consumed =
      (u.inbound.streams.insert id {}).sumOver fun id' _ => ((u.openBidi id).window id').consumed
    have hold : u.inbound.streams.sumOver (fun id' _ => ((u.openBidi id).window id').consumed)
        = u.inbound.streams.sumOver fun id' _ => (u.window id').consumed := by
      refine OrdMap.sumOver_congr fun id' s hs => ?_
      have hid : id' ≠ id := by
        rintro rfl
        exact absurd (hnew.symm.trans hs) nofun
      rw [window_openBidi, if_neg hid]
    rw [OrdMap.sumOver_insert _ _ hnew, hold, window_openBidi, if_pos rfl, h.total]
    exact (Nat.zero_add _).symm
  balanced id' := by
    rw [half_openBidi, window_openBidi]
    split
    · exact fun _ => rfl
    · exact h.balanced id'
  unread id' hnone := by
    obtain ⟨hid, hold⟩ := OrdMap.of_get?_insert_eq_none hnone
    rw [half_openBidi, if_neg hid]
    exact h.unread id' hold
  silent id' hnone := by
    obtain ⟨hid, hold⟩ := OrdMap.of_get?_insert_eq_none hnone
    rw [window_openBidi, if_neg hid]
    exact h.silent id' hold

theorem Accounts.consumed_read (h : u.Accounts)
    (hs : u.inbound.streams.get? id = some s) (id' : Nat) :
    ((u.read id s).window id').consumed =
      (u.window id').consumed + if id' = id then s.ready.length else 0 := by
  simp only [window, Uptake.read, OrdMap.get?_modify]
  split
  · rename_i hid
    subst hid
    cases hwindow : u.streamRecvFlow.get? id' with
    | none =>
      have hready := h.unread id' hwindow
      rw [half_of_get? u hs] at hready
      rw [hready]
      rfl
    | some w => rfl
  · rfl

theorem Accounts.read (h : u.Accounts)
    (hs : u.inbound.streams.get? id = some s) : (u.read id s).Accounts where
  total := by
    show u.recvFlow.consumed + s.ready.length = (u.inbound.streams.insert id s.read.1).sumOver
      fun id' _ => ((u.read id s).window id').consumed
    have hgrown : u.inbound.streams.sumOver (fun id' _ => ((u.read id s).window id').consumed)
        = u.inbound.streams.sumOver (fun id' _ => (u.window id').consumed) + s.ready.length := by
      refine OrdMap.sumOver_add hs ?_ fun id' s' hid => ?_
      · rw [h.consumed_read hs, if_pos rfl]
      · rw [h.consumed_read hs, if_neg hid, Nat.add_zero]
    have hsame := OrdMap.sumOver_insert_of_get? s.read.1
      (fun id' _ => ((u.read id s).window id').consumed) hs
    rw [h.total, Nat.add_right_cancel hsame, hgrown]
  balanced id' := by
    rw [half_read, h.consumed_read hs]
    split
    · rename_i hid
      have hbalanced := h.balanced id
      rw [half_of_get? u hs] at hbalanced
      exact hid ▸ hbalanced.read
    · exact h.balanced id'
  unread id' hnone := by
    rw [half_read]
    split
    · rfl
    refine h.unread id' ?_
    have hmodify := OrdMap.get?_modify u.streamRecvFlow id (·.onDataConsumed s.ready.length) id'
    rw [if_neg ‹_›] at hmodify
    exact hmodify.symm.trans hnone
  silent id' hnone := by
    obtain ⟨hid, hold⟩ := OrdMap.of_get?_insert_eq_none hnone
    rw [h.consumed_read hs, if_neg hid]
    exact h.silent id' hold

theorem Accounts.raise (h : u.Accounts) {recvFlow : RecvWindow} {windows : OrdMap Nat RecvWindow}
    (hflow : u.recvFlow.Raises recvFlow)
    (hwindows : ∀ id, Option.Rel RecvWindow.Raises (u.streamRecvFlow.get? id) (windows.get? id)) :
    ({ u with recvFlow := recvFlow, streamRecvFlow := windows } : Uptake P).Accounts := by
  have hconsumed : ∀ id, (({ u with recvFlow := recvFlow, streamRecvFlow := windows } :
      Uptake P).window id).consumed = (u.window id).consumed :=
    fun id => (RecvWindow.raises_getD (hwindows id) _).consumed
  constructor
  · simp only [hconsumed]
    exact hflow.consumed.trans h.total
  · intro id
    rw [hconsumed]
    exact h.balanced id
  · intro id hnone
    have hrel := hwindows id
    rw [show windows.get? id = none from hnone] at hrel
    generalize hold : u.streamRecvFlow.get? id = old at hrel
    cases hrel
    exact h.unread id hold
  · intro id hnone
    rw [hconsumed]
    exact h.silent id hnone

theorem accounts_step (h : u.Accounts) (htracked : u.Tracked) (hstep : u.Step v) (hfair : v.Fair) :
    v.Accounts := by
  cases hstep with
  | frame htakes =>
    refine Accounts.log ?_ _
    cases htakes with
    | hear packetType => exact h
    | stream packetType id offset fin data readable newPeerStreams => exact h.stream ..
    | reset packetType id code finalSize readable => exact h.reset ..
    | announce packetType => exact ⟨h.total, h.balanced, h.unread, h.silent⟩
  | act hact =>
    cases hact with
    | openUni => exact h.log _
    | openBidi hid =>
      have hroom : u.nextBidi + 1 ≤ 2 ^ 60 := hfair.room
      exact (h.openBidi (htracked.get?_next (by omega) hid)).log _
    | read hs => exact h.read hs
    | notify readable newPeerStreams => exact ⟨h.total, h.balanced, h.unread, h.silent⟩
    | raise recvFlow windows hflow hwindows => exact h.raise hflow hwindows

/-! ## Ends -/

/-- Where streams end. -/
structure Ends (u : Uptake P) : Prop where
  ending : ∀ id, (u.half id).Ending
  sized : ∀ id, (u.half id).Sized (((highest u.chronicle).get? id).getD 0)

/-- One half changed, and it is still in order. -/
theorem Ends.of_half (h : u.Ends) (hhighest : highest v.chronicle = highest u.chronicle)
    (hhalf : ∀ id', v.half id' = if id' = id then s else u.half id')
    (hending : s.Ending) (hsized : s.Sized (((highest u.chronicle).get? id).getD 0)) : v.Ends := by
  refine ⟨fun id' => ?_, fun id' => ?_⟩
  · rw [hhalf]
    split
    · exact hending
    · exact h.ending id'
  rw [hhalf, hhighest]
  split
  · rename_i hid
    exact hid ▸ hsized
  · exact h.sized id'

theorem ends_step (h : u.Ends) (hstep : u.Step v) (hfair : v.Fair) : v.Ends := by
  cases hstep with
  | frame htakes =>
    cases htakes with
    | @hear packetType frame haside =>
      have hhighest : highest (.received packetType frame :: u.chronicle)
          = highest u.chronicle := by
        cases frame with
        | stream id offset fin data => cases haside
        | _ => rfl
      refine ⟨h.ending, fun id => ?_⟩
      show (u.half id).Sized (((highest (.received packetType frame :: u.chronicle)).get?
        id).getD 0)
      rw [hhighest]
      exact h.sized id
    | stream packetType id offset fin data readable newPeerStreams =>
      have horderly := hfair.ordered.1
      simp only [Event.orderly, Bool.and_eq_true, Bool.or_eq_true, Bool.not_eq_true',
        decide_eq_true_eq] at horderly
      refine ⟨fun id' => ?_, fun id' => ?_⟩
      · show ((u.stream id ⟨offset, data, fin⟩ readable newPeerStreams).half id').Ending
        rw [half_stream]
        split
        · exact (RecvStream.turns_takeIn _ _).ending (h.ending id)
        · exact h.ending id'
      show ((u.stream id ⟨offset, data, fin⟩ readable newPeerStreams).half id').Sized
        ((((highest u.chronicle).insert id (max (((highest u.chronicle).get? id).getD 0)
          (offset + data.length))).get? id').getD 0)
      rw [half_stream, getD_get?_insert]
      split
      · refine (h.sized id).takeIn fun hseg => ?_
        exact horderly.2.resolve_left fun hnot => absurd (hseg.symm.trans hnot) nofun
      · exact h.sized id'
    | reset packetType id code finalSize readable =>
      exact h.of_half rfl (half_reset u id code readable) (h.ending id) ((h.sized id).applyReset code)
    | announce packetType => exact ⟨h.ending, h.sized⟩
  | act hact =>
    cases hact with
    | @openBidi id _ =>
      exact h.of_half rfl (half_openBidi u id) RecvStream.ending_new (RecvStream.sized_empty _)
    | @read id s hs _ =>
      have hending := h.ending id
      have hsized := h.sized id
      rw [half_of_get? u hs] at hending hsized
      exact h.of_half rfl (half_read id u s) hending ⟨hsized.received, hsized.finalSize⟩
    | _ => exact ⟨h.ending, h.sized⟩

/-! ## Resets -/

/-- The streams that are reset are those with a reset in the history. -/
def Resets (u : Uptake P) : Prop :=
  ∀ id, (resetSize id u.chronicle).isSome = (u.half id).isReset

theorem isReset_takeIn (s : RecvStream) (seg : Segment) : (s.takeIn seg).isReset = s.isReset := by
  simp only [RecvStream.takeIn]
  split
  · rfl
  cases hviolates : s.violatesFinalSize seg.stop seg.fin with
  | true => rw [RecvStream.recv_of_violates hviolates]
  | false =>
    obtain ⟨news, hrecv⟩ := RecvStream.recv_ok hviolates
    rw [hrecv]
    rfl

theorem resets_step (h : u.Resets) (htracked : u.Tracked) (hstep : u.Step v) (hfair : v.Fair) :
    v.Resets := by
  intro id
  cases hstep with
  | frame htakes =>
    cases htakes with
    | @hear packetType frame haside =>
      cases frame with
      | resetStream id' code finalSize => cases haside
      | _ => exact h id
    | stream packetType id' offset fin data readable newPeerStreams =>
      refine (h id).trans ?_
      show _ = ((u.stream id' ⟨offset, data, fin⟩ readable newPeerStreams).half id).isReset
      rw [half_stream]
      split
      · rename_i hid
        rw [isReset_takeIn, hid]
      · rfl
    | reset packetType id' code finalSize readable =>
      show (resetSize id (.received packetType (.resetStream id' code finalSize) ::
        u.chronicle)).isSome = ((u.reset id' code readable).half id).isReset
      rw [half_reset, resetSize]
      by_cases hid : id = id'
      · rw [if_pos hid, if_pos hid.symm]
        rfl
      · rw [if_neg hid, if_neg fun heq => hid heq.symm]
        exact h id
    | announce packetType => exact h id
  | act hact =>
    cases hact with
    | @openBidi id' hid' =>
      have hroom : u.nextBidi + 1 ≤ 2 ^ 60 := hfair.room
      refine (h id).trans ?_
      show _ = ((u.openBidi id').half id).isReset
      rw [half_openBidi]
      split
      · rename_i hid
        rw [hid, half, htracked.get?_next (by omega) hid']
        rfl
      · rfl
    | @read id' s hs _ =>
      refine (h id).trans ?_
      rw [half_read]
      split
      · rename_i hid
        rw [hid, half_of_get? u hs]
        rfl
      · rfl
    | _ => exact h id

/-! ## The books of a connection -/

structure Books (u : Uptake P) : Prop where
  tracked : u.Tracked
  accounts : u.Accounts
  ends : u.Ends
  resets : u.Resets

theorem books_step (h : u.Fair → u.Books) (hstep : u.Step v) (hfair : v.Fair) : v.Books where
  tracked := tracked_step (h (hfair.of_step hstep)).tracked hstep hfair
  accounts :=
    accounts_step (h (hfair.of_step hstep)).accounts (h (hfair.of_step hstep)).tracked hstep hfair
  ends := ends_step (h (hfair.of_step hstep)).ends hstep hfair
  resets :=
    resets_step (h (hfair.of_step hstep)).resets (h (hfair.of_step hstep)).tracked hstep hfair

/-- The streams that were reset. -/
def wasReset (u : Uptake P) : OrdMap Nat RecvStream := u.inbound.streams.filter (·.2.isReset)

/-- Every stream was read to its end or to its reset. -/
def Finished (u : Uptake P) : Prop :=
  ∀ s ∈ u.inbound.streams.values, s.isReset = true ∨ s.Over

instance : Decidable u.Finished := inferInstanceAs (Decidable (∀ s ∈ _, _))

theorem Books.consumed_eq (h : u.Books) (hfinished : u.Finished) :
    u.recvFlow.consumed + u.wasReset.sumOver u.finalSize = u.inbound.streams.sumOver u.finalSize +
        u.wasReset.sumOver fun id _ => (u.window id).consumed := by
  have hrest : (u.inbound.streams.filter fun e => !e.2.isReset).sumOver
      (fun id _ => (u.window id).consumed) =
      (u.inbound.streams.filter fun e => !e.2.isReset).sumOver u.finalSize := by
    refine OrdMap.sumOver_congr fun id s hs => ?_
    obtain ⟨hget, hkept⟩ := OrdMap.get?_filter.mp hs
    have hreset : s.isReset = false := by simpa using hkept
    have hhalf := half_of_get? u hget
    have hover := (hfinished s (OrdMap.mem_values.mpr ⟨id, hget⟩)).resolve_left (by simp [hreset])
    have hsize := hover.finalSize_eq (hhalf ▸ h.ends.ending id) (hhalf ▸ h.ends.sized id)
      (hhalf ▸ h.accounts.balanced id) (by simpa [RecvStream.isReset] using hreset)
    rw [finalSize, if_neg (by simp [hreset]), hsize]
  have hconsumed := u.inbound.streams.sumOver_filter (·.2.isReset)
    fun id _ => (u.window id).consumed
  have hfinal := u.inbound.streams.sumOver_filter (·.2.isReset) u.finalSize
  rw [h.accounts.total]
  simp only [wasReset]
  omega

/-! ## Resets of streams that were read -/

/-- A reset of a stream that is not reset states as its final size what was read of it. -/
def Settles (u : Uptake P) : Event P → Prop
  | .received _ (.resetStream id _ finalSize) =>
    (u.half id).isReset = true ∨ finalSize = (u.window id).consumed
  | _ => True

def settles (u : Uptake P) : Event P → Bool
  | .received _ (.resetStream id _ finalSize) =>
    (u.half id).isReset || finalSize == (u.window id).consumed
  | _ => true

theorem settles_iff : u.settles e = true ↔ u.Settles e := by
  unfold settles Settles
  split
  · rw [Bool.or_eq_true, beq_iff_eq]
  · exact iff_of_true rfl trivial

instance (e : Event P) : Decidable (u.Settles e) := decidable_of_iff _ settles_iff

/-- What was read of the streams that were reset is what their resets say. -/
def Settled (u : Uptake P) : Prop :=
  ∀ id size, resetSize id u.chronicle = some size → (u.window id).consumed = size

theorem Settled.takes (h : u.Settled) (hresets : u.Resets) (htakes : u.Takes e v)
    (hsettles : u.Settles e) : (v.log e).Settled := by
  intro id size hsize
  have hwindow : (v.log e).window id = u.window id := htakes.window_eq id
  rw [hwindow]
  cases htakes with
  | @hear packetType frame haside =>
    cases frame with
    | resetStream id' code finalSize => cases haside
    | _ => exact h id size hsize
  | stream | announce => exact h id size hsize
  | reset packetType id' code finalSize readable =>
    change resetSize id (.received packetType (.resetStream id' code finalSize) ::
      u.chronicle) = _ at hsize
    rw [resetSize] at hsize
    split at hsize
    · rename_i hid
      subst hid
      -- the first reset counts
      cases hold : resetSize id' u.chronicle with
      | some size' =>
        rw [hold] at hsize
        cases hsize
        exact h id' _ hold
      | none =>
        rw [hold] at hsize
        cases hsize
        have hreset := hresets id'
        rw [hold] at hreset
        exact (hsettles.resolve_left fun htrue => absurd (hreset.trans htrue) nofun).symm
    · exact h id size hsize

theorem Settled.act (h : u.Settled) (hbooks : u.Books) (hact : u.Act v) (hfair : v.Fair) :
    v.Settled := by
  intro id size hsize
  cases hact with
  | openUni | notify => exact h id size hsize
  | @openBidi id' hid' =>
    have hroom : u.nextBidi + 1 ≤ 2 ^ 60 := hfair.room
    show ((u.openBidi id').window id).consumed = size
    rw [window_openBidi]
    split
    · -- a new stream has no reset
      rename_i hid
      have hreset := hbooks.resets id
      rw [show resetSize id u.chronicle = some size from hsize, hid, half,
        hbooks.tracked.get?_next (by omega) hid'] at hreset
      cases hreset
    · exact h id size hsize
  | @read id' s hs hnone =>
    rw [hbooks.accounts.consumed_read hs]
    split
    · -- a stream that is reset is not read
      rename_i hid
      have hreset := hbooks.resets id
      rw [show resetSize id u.chronicle = some size from hsize, hid, half_of_get? u hs,
        RecvStream.isReset, hnone] at hreset
      cases hreset
    · exact h id size hsize
  | raise recvFlow windows _ hraises =>
    exact (RecvWindow.raises_getD (hraises id) _).consumed.trans (h id size hsize)

theorem Takes.isReset (h : u.Takes e v) (hreset : (u.half id).isReset = true) :
    (v.half id).isReset = true := by
  cases h with
  | stream packetType id' offset fin data readable newPeerStreams =>
    rw [half_stream]
    split
    · rename_i hid
      rw [isReset_takeIn, ← hid]
      exact hreset
    · exact hreset
  | reset packetType id' code finalSize readable =>
    rw [half_reset]
    split
    · rfl
    · exact hreset
  | _ => exact hreset

theorem Settled.consumed_eq (h : u.Settled) (hbooks : u.Books) :
    (u.wasReset.sumOver fun id _ => (u.window id).consumed) = u.wasReset.sumOver u.finalSize := by
  refine OrdMap.sumOver_congr fun id s hs => ?_
  obtain ⟨hget, hkept⟩ := OrdMap.get?_filter.mp hs
  have hreset : s.isReset = true := hkept
  have hsome := hbooks.resets id
  rw [half_of_get? u hget, hreset] at hsome
  obtain ⟨size, hsize⟩ := Option.isSome_iff_exists.mp hsome
  rw [h id size hsize, finalSize, if_pos hreset, hsize]
  rfl

end Uptake

namespace Connection

/-- The resets that a call takes in come when the streams were read as far as they say. -/
def Settles (c : Connection P) (op : Op) : Prop :=
  ∀ e ∈ since c.chronicle (c.step op).chronicle, c.uptake.Settles e

instance (c : Connection P) (op : Op) : Decidable (c.Settles op) :=
  inferInstanceAs (Decidable (∀ e ∈ _, _))

theorem Fresh.books (hfresh : c.Fresh) : c.uptake.Books ∧ c.uptake.Settled := by
  have hstreams : c.inbound.streams = ∅ := by cases hfresh <;> rfl
  have hchronicle : c.uptake.chronicle = [] := by cases hfresh <;> rfl
  have hwindows : c.flow.streamRecvFlow = ∅ := by cases hfresh <;> rfl
  have hconsumed : c.flow.recvFlow.consumed = 0 := by cases hfresh <;> rfl
  have hhalf : ∀ id, c.uptake.half id = {} := by
    intro id
    show (c.inbound.streams.get? id).getD {} = {}
    rw [hstreams]
    rfl
  have hwindow : ∀ id, (c.uptake.window id).consumed = 0 := by
    intro id
    show ((c.flow.streamRecvFlow.get? id).getD _).consumed = 0
    rw [hwindows]
    rfl
  refine ⟨⟨⟨fun id _ hsome => ?_, fun id hopened => ?_⟩, ⟨?_, fun id => ?_, fun id _ => ?_,
    fun id _ => hwindow id⟩, ⟨fun id => ?_, fun id => ?_⟩, fun id => ?_⟩, fun id size hsize => ?_⟩
  · exact absurd (congrArg (·.get? id) hstreams) hsome
  · rw [hchronicle] at hopened
    cases hopened
  · show c.flow.recvFlow.consumed = c.inbound.streams.sumOver _
    rw [hconsumed, hstreams]
    rfl
  · rw [hhalf, hwindow]
    exact fun _ => rfl
  · rw [hhalf]
  · rw [hhalf]
    exact RecvStream.ending_new
  · rw [hhalf]
    exact RecvStream.sized_empty _
  · rw [hhalf, hchronicle]
    rfl
  · rw [hchronicle] at hsize
    cases hsize

/-- What a datagram does as long as its resets come when their streams were read. -/
theorem handleDatagram_settled (hbooks : c.uptake.Fair → c.uptake.Books)
    (h : c.uptake.Fair → c.uptake.Settled) (now : Time) (datagram : Bytes)
    (hsettles : ∀ e ∈ since c.chronicle (c.handleDatagram now datagram).1.chronicle,
      c.uptake.Settles e) (hfair : (c.handleDatagram now datagram).1.uptake.Fair) :
    (c.handleDatagram now datagram).1.uptake.Settled := by
  -- what was read stays what it was before the datagram
  have hinvariant : ∃ new, (c.handleDatagram now datagram).1.uptake.chronicle = new ++ c.chronicle ∧
      (∀ id, (c.handleDatagram now datagram).1.uptake.window id = c.uptake.window id) ∧
      (∀ id, (c.uptake.half id).isReset = true →
        ((c.handleDatagram now datagram).1.uptake.half id).isReset = true) ∧
      ((c.handleDatagram now datagram).1.uptake.Fair →
        (c.handleDatagram now datagram).1.uptake.Books ∧ ((∀ e ∈ new, c.uptake.Settles e) →
          (c.handleDatagram now datagram).1.uptake.Settled)) := by
    refine handleDatagram_uptake (I := fun u => ∃ new, u.chronicle = new ++ c.chronicle ∧
      (∀ id, u.window id = c.uptake.window id) ∧
      (∀ id, (c.uptake.half id).isReset = true → (u.half id).isReset = true) ∧
      (u.Fair → u.Books ∧ ((∀ e ∈ new, c.uptake.Settles e) → u.Settled)))
      ?_ ⟨[], rfl, fun _ => rfl, fun _ hreset => hreset, fun hfair => ⟨hbooks hfair, fun _ => h hfair⟩⟩
      now datagram
    rintro u e v ⟨new, hnew, hwindows, hresets, hold⟩ htakes
    have hchronicle : v.chronicle = u.chronicle := by
      cases htakes <;> rfl
    refine ⟨e :: new, ?_, fun id => (htakes.window_eq id).trans (hwindows id),
      fun id hreset => htakes.isReset (hresets id hreset), fun hfair => ⟨?_, fun hall => ?_⟩⟩
    · show e :: v.chronicle = _
      rw [hchronicle, hnew, List.cons_append]
    · exact Uptake.books_step (fun hfair => (hold hfair).1) (.frame htakes) hfair
    obtain ⟨hbooks', hsettled⟩ := hold (hfair.of_step (.frame htakes))
    refine (hsettled fun e he => hall e (List.mem_cons_of_mem _ he)).takes hbooks'.resets htakes ?_
    have hsettles := hall e (List.mem_cons_self ..)
    revert hsettles
    simp only [Uptake.Settles]
    split
    · rename_i id code finalSize
      rw [hwindows id]
      exact Or.imp_left (hresets id)
    · exact id
  obtain ⟨new, hnew, _, _, hresult⟩ := hinvariant
  change (c.handleDatagram now datagram).1.chronicle = _ at hnew
  rw [hnew, since_append] at hsettles
  exact (hresult hfair).2 hsettles

theorem Settles.step {op : Op} (hop : c.Settles op)
    (h : c.uptake.Fair → c.uptake.Books ∧ c.uptake.Settled) (hfair : (c.step op).uptake.Fair) :
    (c.step op).uptake.Books ∧ (c.step op).uptake.Settled := by
  cases hdatagram : op.isDatagram with
  | true =>
    cases op with
    | handleDatagram now datagram =>
      refine ⟨handleDatagram_uptake (I := fun u => u.Fair → u.Books)
        (fun h htakes => Uptake.books_step h (.frame htakes)) (fun hfair => (h hfair).1) now
        datagram hfair, ?_⟩
      exact handleDatagram_settled (fun hfair => (h hfair).1) (fun hfair => (h hfair).2) now
        datagram hop hfair
    | _ => cases hdatagram
  | false =>
    refine step_uptake_of_acts (c := c) (I := fun u => u.Fair → u.Books ∧ u.Settled) ?_ h
      hdatagram hfair
    intro u v hold hact hfair
    have hbefore := hold (hfair.of_step (.act hact))
    exact ⟨Uptake.books_step (fun _ => hbefore.1) (.act hact) hfair,
      hbefore.2.act hbefore.1 hact hfair⟩

end Connection

/-- Once every stream is read to its end or to its reset, the connection has counted the final
sizes of all streams exactly if the resets took back nothing in sum.  This is so in every run in
which each stream is reset when it was read as far as the reset says. -/
theorem receive_credit_conserved {c : Connection P} (hfresh : c.Fresh) (ops : List Op)
    (hfair : (c.run ops).uptake.Fair) (hfinished : (c.run ops).uptake.Finished) :
    (Along Connection.step Connection.Settles c ops → (c.run ops).flow.recvFlow.consumed =
        (c.run ops).inbound.streams.sumOver (c.run ops).uptake.finalSize) ∧
    ((c.run ops).flow.recvFlow.consumed =
        (c.run ops).inbound.streams.sumOver (c.run ops).uptake.finalSize ↔
      ((c.run ops).uptake.wasReset.sumOver fun id _ => ((c.run ops).uptake.window id).consumed) =
        (c.run ops).uptake.wasReset.sumOver (c.run ops).uptake.finalSize) := by
  have hbooks := Connection.run_uptake (I := fun u => u.Fair → u.Books)
    (fun h hstep => Uptake.books_step h hstep) (fun _ => hfresh.books.1) ops hfair
  have hsum : (c.run ops).flow.recvFlow.consumed + _ = (c.run ops).inbound.streams.sumOver _ + _ :=
    hbooks.consumed_eq hfinished
  refine ⟨fun halong => ?_, by omega⟩
  have hsettled : (c.run ops).uptake.Fair → (c.run ops).uptake.Books ∧ (c.run ops).uptake.Settled :=
    halong.invariant (I := fun c => c.uptake.Fair → c.uptake.Books ∧ c.uptake.Settled)
      (fun _ _ _ h hop hfair => hop.step h hfair) fun _ => hfresh.books
  have hreset := (hsettled hfair).2.consumed_eq hbooks
  omega

namespace Plain

/-- The server sends three bytes on its first stream and one byte, the last, on its second. -/
def bestows : Op :=
  .handleDatagram 2 (shortPacket narrow 0 0 [.stream 1 0 false [1, 2, 3], .stream 5 0 true [9]])

/-- The server resets its first stream after three bytes. -/
def resets : Op := .handleDatagram 3 (shortPacket narrow 0 1 [.resetStream 1 7 3])

/-- Both streams are read before the first of them is reset. -/
def readsBoth : List Op := joins narrow ++ [bestows, .readStream 1, .readStream 5, resets]

/-- Only the second stream is read before the first is reset. -/
def readsOne : List Op := joins narrow ++ [bestows, .readStream 5, resets]

end Plain

theorem receive_credit_conserved_read : (narrow.run readsBoth).flow.recvFlow.consumed =
      (narrow.run readsBoth).inbound.streams.sumOver
        (narrow.run readsBoth).uptake.finalSize :=
  (receive_credit_conserved narrow_fresh readsBoth
    ⟨by decide +kernel, by decide +kernel⟩ (by decide +kernel)).1 (by decide +kernel)

/-- Three bytes that the application did not read are discarded and never given back. -/
theorem receive_credit_lost :
    ((narrow.run readsOne).readStream 1).2 = .error (Connection.readError 1 (.reset 7)) ∧
    (narrow.run readsOne).uptake.Finished ∧ (narrow.run readsOne).inbound.streams.sumOver
      (narrow.run readsOne).uptake.finalSize = 4 ∧
    (narrow.run readsOne).flow.recvFlow.consumed = 1 := by
  decide +kernel

end OxiQuic
