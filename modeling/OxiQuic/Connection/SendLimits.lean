import OxiQuic.Connection.Outlay

/-!
# Limits on what is sent

A connection without early data, whose peer does not speak on a stream that was not opened, sends
nothing beyond the limits that the peer has granted (`send_limits_kept`).  The invariant is
`Outlay.Solvent`: what a stream has been charged is what has left its buffer, all that is queued
or tracked for retransmission lies below that, and the connection has been charged the sum.
-/

namespace OxiQuic

open Lib

variable {P : Platform} {f : SendCredit} {trace new : List (Event P)} {seg : Segment}

/-! ## Limits -/

/-- The largest limit of a stream that the peer announced. -/
def grantedTo (id : Nat) : List (Event P) → Nat
  | [] => 0
  | .received _ (.maxStreamData id' limit) :: rest =>
    if id' = id then max limit (grantedTo id rest) else grantedTo id rest
  | _ :: rest => grantedTo id rest

/-- The largest limit of the connection that the peer announced. -/
def granted : List (Event P) → Nat
  | [] => 0
  | .received _ (.maxData limit) :: rest => max limit (granted rest)
  | _ :: rest => granted rest

namespace Outlay

variable {u v : Outlay P} {E : Prop} {drawn : List (Nat × Segment)}

/-- The largest limit recorded for a stream: the initial one or one announced since. -/
def streamLimit (u : Outlay P) (id : Nat) : Nat := max u.initialLimit (grantedTo id u.trace)

/-- The largest limit recorded for the connection. -/
def totalLimit (u : Outlay P) : Nat :=
  max (match u.peerParams with
    | some p => p.initialMaxData
    | none => 0) (granted u.trace)

theorem grantedTo_backed (id : Nat)
    (hnew : ∀ e ∈ new, Backed drawn e) : grantedTo id (new ++ trace) = grantedTo id trace := by
  refine append_ignored (fun e he _ => ?_) trace
  cases e with
  | received packetType frame =>
    cases frame with
    | maxStreamData id' max => exact (hnew _ he).elim
    | _ => rfl
  | _ => rfl

theorem granted_backed (hnew : ∀ e ∈ new, Backed drawn e) :
    granted (new ++ trace) = granted trace := by
  refine append_ignored (fun e he _ => ?_) trace
  cases e with
  | received packetType frame =>
    cases frame with
    | maxData max => exact (hnew _ he).elim
    | _ => rfl
  | _ => rfl

/-- The credit of a stream is between its initial limit and the largest one recorded. -/
def Limited (u : Outlay P) : Prop :=
  ∀ id f, u.credits.get? id = some f → u.initialLimit ≤ f.maxData ∧ f.maxData ≤ u.streamLimit id

theorem Limited.insert (h : u.Limited) {id : Nat}
    (hf : u.initialLimit ≤ f.maxData ∧ f.maxData ≤ u.streamLimit id) :
    ({ u with credits := u.credits.insert id f } : Outlay P).Limited := OrdMap.forall_insert hf h

theorem limited_new (u : Outlay P) (id : Nat) :
    u.initialLimit ≤ (SendCredit.new u.initialLimit).maxData ∧
      (SendCredit.new u.initialLimit).maxData ≤ u.streamLimit id :=
  ⟨Nat.le_refl _, Nat.le_max_left ..⟩

variable (f)

theorem maxData_recordHighOffset (n : Nat) : (f.recordHighOffset n).1.maxData = f.maxData := by
  simp only [SendCredit.recordHighOffset]
  split <;> rfl

theorem maxData_takeBlocked : f.takeBlocked.1.maxData = f.maxData := by
  simp only [SendCredit.takeBlocked]
  split <;> rfl

theorem dataSent_takeBlocked : f.takeBlocked.1.dataSent = f.dataSent := by
  simp only [SendCredit.takeBlocked]
  split <;> rfl

theorem maxData_onMaxData (n : Nat) : (f.onMaxData n).maxData = max f.maxData n := by
  simp only [SendCredit.onMaxData]
  split
  · rename_i hlt
    exact (Nat.max_eq_right (Nat.le_of_lt hlt)).symm
  · rename_i hle
    exact (Nat.max_eq_left (Nat.not_lt.mp hle)).symm

theorem dataSent_onMaxData (n : Nat) : (f.onMaxData n).dataSent = f.dataSent := by
  simp only [SendCredit.onMaxData]
  split <;> rfl

variable {f}

theorem Pays.limited (hpays : u.Pays v drawn) (h : u.Limited) : v.Limited := by
  induction hpays with
  | nil => exact h
  | @credit v _ id _ _ ih => exact ih.insert (v.limited_new id)
  | @take v _ id _ _ s' f seg _ _ hf _ _ ih =>
    have hbounds : v.initialLimit ≤ (f.recordHighOffset seg.stop).1.maxData ∧
        (f.recordHighOffset seg.stop).1.maxData ≤ v.streamLimit id :=
      (maxData_recordHighOffset f seg.stop).symm ▸ ih id f hf
    exact fun id' f' hf' => ih.insert hbounds id' f' hf'
  | block _ ih => exact ih
  | @blockStream v _ id f _ hf ih =>
    exact ih.insert ((maxData_takeBlocked f).symm ▸ ih id f hf)

theorem Limited.accept (h : u.Limited) (id : StreamId) : (u.accept id).Limited := by
  have hcredit : (u.addCredit id).Limited := by
    rcases u.addCredit_cases id with ⟨hsame, _⟩ | ⟨_, hadded⟩
    · exact hsame.symm ▸ h
    · exact hadded.symm ▸ h.insert (u.limited_new id)
  rw [Outlay.accept]
  split
  · exact hcredit
  · exact h

theorem limited_step (h : u.Limited) (hstep : u.Step E v) : v.Limited := by
  cases hstep with
  | send hpays _ hnew =>
    intro id f hf
    obtain ⟨_, _, _, hrest⟩ := hpays.rest
    have hbounds := hpays.limited h id f hf
    rw [hrest] at hbounds
    rw [hrest]
    show _ ∧ f.maxData ≤ max _ (grantedTo id (_ ++ u.trace))
    rw [grantedTo_backed id hnew]
    exact hbounds
  | «open» dir => exact fun id f hf => h.insert (u.limited_new _) id f hf
  | learn p hnone =>
    intro id f hf
    change (u.credits.mapValues _).get? id = some f at hf
    rw [OrdMap.get?_mapValues] at hf
    obtain ⟨f', hf', rfl⟩ := Option.map_eq_some_iff.mp hf
    have hbounds := h id f' hf'
    have hlimit : u.streamLimit id = grantedTo id u.trace := by
      rw [streamLimit, initialLimit, hnone]
      exact Nat.max_eq_right (Nat.zero_le _)
    have hlearned : (u.learn p).streamLimit id
        = max p.initialMaxStreamDataBidiRemote (grantedTo id u.trace) := rfl
    have hinitial : (u.learn p).initialLimit = p.initialMaxStreamDataBidiRemote := rfl
    rw [maxData_onMaxData, hlearned, hinitial]
    omega
  | grantStream packetType id limit =>
    intro id' f hf
    change (u.credits.insert id _).get? id' = some f at hf
    have hlimit : ((u.grantStream id limit).log
        (.received packetType (.maxStreamData id limit))).streamLimit id' = max u.initialLimit
          (if id = id' then max limit (grantedTo id' u.trace) else grantedTo id' u.trace) := rfl
    have hinitial : ((u.grantStream id limit).log
        (.received packetType (.maxStreamData id limit))).initialLimit = u.initialLimit := rfl
    rw [hlimit, hinitial]
    rw [OrdMap.get?_insert] at hf
    split at hf
    · rename_i hid
      cases hf
      subst hid
      have hbounds : u.initialLimit ≤ ((u.credits.get? id').getD (.new u.initialLimit)).maxData ∧
          ((u.credits.get? id').getD (.new u.initialLimit)).maxData ≤ u.streamLimit id' := by
        cases hcredit : u.credits.get? id' with
        | none => exact u.limited_new id'
        | some f => exact h id' f hcredit
      rw [maxData_onMaxData, if_pos rfl]
      simp only [streamLimit] at hbounds
      omega
    · rename_i hid
      rw [if_neg fun heq => hid heq.symm]
      exact h id' f hf
  | accept packetType id offset fin data =>
    exact fun id' f hf => h.accept id id' f hf
  | _ => exact h

/-- The credit of the connection is at most the largest limit recorded. -/
def TotalLimited (u : Outlay P) : Prop := u.sendFlow.maxData ≤ u.totalLimit

theorem Pays.maxData_sendFlow (hpays : u.Pays v drawn) :
    v.sendFlow.maxData = u.sendFlow.maxData := by
  induction hpays with
  | block _ ih => exact (maxData_takeBlocked _).trans ih
  | nil => rfl
  | credit _ _ ih | take _ _ _ _ _ ih | blockStream _ _ ih => exact ih

theorem totalLimited_step (h : u.TotalLimited) (hstep : u.Step E v) : v.TotalLimited := by
  cases hstep with
  | @send w _ _ new hpays _ hnew =>
    obtain ⟨_, _, _, hrest⟩ := hpays.rest
    have hparams : w.peerParams = u.peerParams := congrArg (·.peerParams) hrest
    show w.sendFlow.maxData ≤ max (match w.peerParams with
      | some p => p.initialMaxData
      | none => 0) (granted (new ++ u.trace))
    rw [granted_backed hnew, hpays.maxData_sendFlow, hparams]
    exact h
  | learn p hnone =>
    have hlimit : u.totalLimit = granted u.trace := by
      rw [totalLimit, hnone]
      exact Nat.max_eq_right (Nat.zero_le _)
    have hlearned : (u.learn p).totalLimit = max p.initialMaxData (granted u.trace) := rfl
    have hflow : (u.learn p).sendFlow.maxData = max u.sendFlow.maxData p.initialMaxData :=
      maxData_onMaxData ..
    rw [TotalLimited] at h ⊢
    omega
  | grant packetType limit =>
    have hflow := maxData_onMaxData u.sendFlow limit
    have hlimit : ({ u with sendFlow := u.sendFlow.onMaxData limit }.log
        (.received packetType (.maxData limit))).totalLimit = max (match u.peerParams with
          | some p => p.initialMaxData
          | none => 0) (max limit (granted u.trace)) := rfl
    show (u.sendFlow.onMaxData limit).maxData ≤ _
    rw [TotalLimited, totalLimit] at h
    rw [hflow, hlimit]
    omega
  | accept packetType id offset fin data =>
    simp only [Outlay.accept]
    split <;> exact h
  | _ => exact h

end Outlay

/-! ## What was sent -/

/-- The highest offset of each stream, after one more frame. -/
def reach (highest : OrdMap Nat Nat) : Frame → OrdMap Nat Nat
  | .stream id offset _ data =>
    highest.insert id (max ((highest.get? id).getD 0) (offset + data.length))
  | _ => highest

/-- The highest offset sent on each stream. -/
def emitted : List (Event P) → OrdMap Nat Nat
  | [] => ∅
  | .sent _ _ frames :: rest => frames.foldl reach (emitted rest)
  | _ :: rest => emitted rest

/-- The sum over all streams. -/
def totalEmitted (trace : List (Event P)) : Nat := (emitted trace).sumOver fun _ n => n

/-- A stream has handed out all bytes below an offset. -/
def Reached (streams : OrdMap Nat SendStream) (id n : Nat) : Prop :=
  ∃ s, streams.get? id = some s ∧ n ≤ s.base

section Reached

variable {streams : OrdMap Nat SendStream} {id id' n : Nat} {s s' : SendStream}

theorem Reached.insert (h : Reached streams id n) (hs : streams.get? id' = some s)
    (hle : s.base ≤ s'.base) : Reached (streams.insert id' s') id n := by
  obtain ⟨t, ht, hn⟩ := h
  by_cases hid : id = id'
  · subst hid
    cases hs.symm.trans ht
    exact ⟨s', OrdMap.get?_insert_self .., Nat.le_trans hn hle⟩
  · exact ⟨t, (OrdMap.get?_insert_of_ne _ _ hid).trans ht, hn⟩

theorem Reached.insert_new (h : Reached streams id n) (hnone : streams.get? id' = none) :
    Reached (streams.insert id' s') id n := by
  obtain ⟨t, ht, hn⟩ := h
  have hid : id ≠ id' := by
    rintro rfl
    cases hnone.symm.trans ht
  exact ⟨t, (OrdMap.get?_insert_of_ne _ _ hid).trans ht, hn⟩

/-- All that was sent of each stream has left its buffer. -/
def AllReached (streams : OrdMap Nat SendStream) (highest : OrdMap Nat Nat) : Prop :=
  ∀ id n, highest.get? id = some n → Reached streams id n

theorem AllReached.reach {highest : OrdMap Nat Nat} (h : AllReached streams highest) {frame : Frame}
    (hframe : ∀ id offset fin data, frame = .stream id offset fin data →
      Reached streams id (offset + data.length)) : AllReached streams (reach highest frame) := by
  cases frame with
  | stream id offset fin data =>
    refine OrdMap.forall_insert ?_ h
    obtain ⟨s, hs, hnew⟩ := hframe id offset fin data rfl
    refine ⟨s, hs, Nat.max_le.mpr ⟨?_, hnew⟩⟩
    cases hold : highest.get? id with
    | none => exact Nat.zero_le _
    | some m =>
      obtain ⟨t, ht, hm⟩ := h id m hold
      cases hs.symm.trans ht
      exact hm
  | _ => exact h

theorem AllReached.foldl {frames : List Frame} {highest : OrdMap Nat Nat}
    (h : AllReached streams highest)
    (hframes : ∀ id offset fin data, .stream id offset fin data ∈ frames →
      Reached streams id (offset + data.length)) :
    AllReached streams (frames.foldl OxiQuic.reach highest) := by
  induction frames generalizing highest with
  | nil => exact h
  | cons frame rest ih =>
    refine ih (h.reach ?_) fun id offset fin data hmem =>
      hframes id offset fin data (List.mem_cons_of_mem _ hmem)
    rintro id offset fin data rfl
    exact hframes id offset fin data (List.mem_cons_self ..)

theorem AllReached.emitted {drawn : List (Nat × Segment)}
    (h : AllReached streams (emitted trace)) (hnew : ∀ e ∈ new, Outlay.Backed drawn e)
    (hdrawn : ∀ d ∈ drawn, Reached streams d.1 d.2.stop) :
    AllReached streams (OxiQuic.emitted (new ++ trace)) := by
  induction new with
  | nil => exact h
  | cons e rest ih =>
    have hrest := ih fun e he => hnew e (List.mem_cons_of_mem _ he)
    have he := hnew e (List.mem_cons_self ..)
    cases e with
    | sent dest space frames =>
      exact hrest.foldl fun id offset fin data hmem => hdrawn _ (he id offset fin data hmem)
    | _ => exact hrest

end Reached

namespace Outlay

variable {u v : Outlay P} {drawn : List (Nat × Segment)}

/-- What was sent is what was charged, and within the credit. -/
structure Solvent (u : Outlay P) : Prop where
  /-- Every send half has credit, which was charged what has left the buffer. -/
  agree : ∀ id s, u.streams.get? id = some s →
    ∃ f, u.credits.get? id = some f ∧ f.dataSent = s.base
  unspent : ∀ id f, u.credits.get? id = some f → u.streams.get? id = none → f.dataSent = 0
  /-- What is queued again was sent before. -/
  queued : ∀ id s, u.streams.get? id = some s → ∀ seg ∈ s.resend, seg.stop ≤ s.base
  carried : ∀ id seg, u.Carried id seg → Reached u.streams id seg.stop
  sent : AllReached u.streams (emitted u.trace)
  total : u.sendFlow.dataSent = u.credits.sumOver fun _ f => f.dataSent
  within : ∀ id f, u.credits.get? id = some f → f.dataSent ≤ f.maxData
  totalWithin : u.sendFlow.dataSent ≤ u.sendFlow.maxData

variable {id : Nat}

theorem Solvent.touch (h : u.Solvent) {s s' : SendStream}
    (hs : u.streams.get? id = some s) (hbase : s'.base = s.base)
    (hresend : ∀ seg ∈ s'.resend, seg.stop ≤ s.base) :
    ({ u with streams := u.streams.insert id s' } : Outlay P).Solvent where
  agree := OrdMap.forall_insert (hbase.symm ▸ h.agree id s hs) h.agree
  unspent id' f hf hnone := h.unspent id' f hf (OrdMap.of_get?_insert_eq_none hnone).2
  queued := OrdMap.forall_insert (hbase.symm ▸ hresend) h.queued
  carried id' seg hseg := (h.carried id' seg hseg).insert hs (Nat.le_of_eq hbase.symm)
  sent id' n hn := (h.sent id' n hn).insert hs (Nat.le_of_eq hbase.symm)
  total := h.total
  within := h.within
  totalWithin := h.totalWithin

/-- The credit of a stream changes, or comes into being, and was charged as much as before. -/
theorem Solvent.recredit (h : u.Solvent)
    (hsame : f.dataSent = (u.credits.get? id).elim 0 (·.dataSent)) (hle : f.dataSent ≤ f.maxData) :
    ({ u with credits := u.credits.insert id f } : Outlay P).Solvent where
  agree id' s hs := by
    obtain ⟨g, hg, hbase⟩ := h.agree id' s hs
    by_cases hid : id' = id
    · subst hid
      rw [hg] at hsame
      exact ⟨f, OrdMap.get?_insert_self .., hsame.trans hbase⟩
    · exact ⟨g, (OrdMap.get?_insert_of_ne _ _ hid).trans hg, hbase⟩
  unspent := by
    refine OrdMap.forall_insert (fun hnone => ?_) h.unspent
    rw [hsame]
    cases hold : u.credits.get? id with
    | none => rfl
    | some g => exact h.unspent id g hold hnone
  queued := h.queued
  carried := h.carried
  sent := h.sent
  total := by
    show u.sendFlow.dataSent = (u.credits.insert id f).sumOver _
    rw [h.total]
    cases hold : u.credits.get? id with
    | none =>
      rw [hold] at hsame
      rw [OrdMap.sumOver_insert f _ hold, hsame]
      exact (Nat.zero_add _).symm
    | some g =>
      rw [hold] at hsame
      have hsum := OrdMap.sumOver_insert_of_get? f (fun _ f => f.dataSent) hold
      rw [hsame] at hsum
      exact (Nat.add_right_cancel hsum).symm
  within := OrdMap.forall_insert hle h.within
  totalWithin := h.totalWithin

theorem Solvent.create (h : u.Solvent)
    (hnew : u.streams.get? id = none) (hf : u.credits.get? id = some f) :
    ({ u with streams := u.streams.insert id {} } : Outlay P).Solvent where
  agree := OrdMap.forall_insert ⟨f, hf, h.unspent id f hf hnew⟩ h.agree
  unspent id' g hg hnone := h.unspent id' g hg (OrdMap.of_get?_insert_eq_none hnone).2
  queued := OrdMap.forall_insert (List.forall_mem_nil _) h.queued
  carried id' seg hseg := (h.carried id' seg hseg).insert_new hnew
  sent id' n hn := (h.sent id' n hn).insert_new hnew
  total := h.total
  within := h.within
  totalWithin := h.totalWithin

theorem Solvent.charge (h : u.Solvent) {n : Nat} {s s' : SendStream}
    (hs : u.streams.get? id = some s) (hf : u.credits.get? id = some f)
    (hbase : s'.base = s.base + n) (hresend : s'.resend = []) (hflow : n ≤ u.sendFlow.available)
    (hcredit : n ≤ f.available) : ({ u with
      streams := u.streams.insert id s'
      credits := u.credits.insert id { f with dataSent := f.dataSent + n }
      sendFlow := u.sendFlow.onDataSent n } : Outlay P).Solvent where
  agree id' t ht := by
    change (u.streams.insert id s').get? id' = some t at ht
    rw [OrdMap.get?_insert] at ht
    split at ht
    · rename_i hid
      cases ht
      subst hid
      obtain ⟨g, hg, hsent⟩ := h.agree id' s hs
      cases hf.symm.trans hg
      exact ⟨_, OrdMap.get?_insert_self .., by rw [hbase, hsent]⟩
    · rename_i hid
      obtain ⟨g, hg, hsent⟩ := h.agree id' t ht
      exact ⟨g, (OrdMap.get?_insert_of_ne _ _ hid).trans hg, hsent⟩
  unspent id' g hg hnone := by
    obtain ⟨hid, hnone⟩ := OrdMap.of_get?_insert_eq_none hnone
    exact h.unspent id' g ((OrdMap.get?_insert_of_ne _ _ hid).symm.trans hg) hnone
  queued := OrdMap.forall_insert (hresend.symm ▸ List.forall_mem_nil _) h.queued
  carried id' seg hseg := (h.carried id' seg hseg).insert hs (by omega)
  sent id' m hm := (h.sent id' m hm).insert hs (by omega)
  total := by
    have hsum := OrdMap.sumOver_insert_of_get? { f with dataSent := f.dataSent + n }
      (fun _ f => f.dataSent) hf
    have hold := h.total
    show u.sendFlow.dataSent + n = (u.credits.insert id _).sumOver _
    simp only at hsum
    omega
  within := by
    have hwithin := h.within id f hf
    simp only [SendCredit.available] at hcredit
    refine OrdMap.forall_insert ?_ h.within
    show f.dataSent + n ≤ f.maxData
    omega
  totalWithin := by
    have hwithin := h.totalWithin
    simp only [SendCredit.available] at hflow
    show u.sendFlow.dataSent + n ≤ u.sendFlow.maxData
    omega

theorem pay_of_le {s : SendStream} (hf : u.credits.get? id = some f) (hle : seg.stop ≤ f.dataSent) :
    u.pay id s f seg = { u with streams := u.streams.insert id s } := by
  have hrecord : f.recordHighOffset seg.stop = (f, 0) := if_neg (Nat.not_lt.mpr hle)
  simp only [pay, hrecord, OrdMap.insert_of_get?_eq_some hf]
  rfl

theorem Solvent.resent (h : u.Solvent) {max : Nat} {s s' : SendStream}
    (hs : u.streams.get? id = some s) (htakes : s.Takes max s' seg) (hresend : s.resend ≠ []) :
    seg.stop ≤ s.base := by
  have hqueued := h.queued id s hs
  cases htakes with
  | whole hfront => exact hqueued seg (hfront ▸ List.mem_cons_self ..)
  | @split front rest hfront _ hmax =>
    have hstop : front.offset + front.data.length ≤ s.base :=
      hqueued front (hfront ▸ List.mem_cons_self ..)
    simp only [Segment.stop, List.length_take]
    omega
  | pureFin hnil | fresh hnil => exact (hresend hnil).elim

theorem Solvent.pay (h : u.Solvent) {max : Nat} {s s' : SendStream}
    (hs : u.streams.get? id = some s) (hf : u.credits.get? id = some f)
    (htakes : s.Takes max s' seg)
    (hcredit : s.resend = [] → max ≤ u.sendFlow.available ∧ max ≤ f.available) :
    (u.pay id s' f seg).Solvent ∧ s.base ≤ s'.base ∧ seg.stop ≤ s'.base := by
  obtain ⟨g, hg, hagree⟩ := h.agree id s hs
  cases hf.symm.trans hg
  have hqueued := h.queued id s hs
  have hresent := h.resent hs htakes
  cases htakes with
  | @whole _ rest hresend _ _ =>
    have hstop : seg.stop ≤ s.base := hresent (by rw [hresend]; exact nofun)
    rw [hresend] at hqueued
    rw [pay_of_le hf (hagree ▸ hstop)]
    exact ⟨h.touch hs rfl fun seg' hseg' => hqueued seg' (List.mem_cons_of_mem _ hseg'),
      Nat.le_refl _, hstop⟩
  | @split front rest hresend _ hmax =>
    have hstop : Segment.stop ⟨front.offset, front.data.take max, false⟩ ≤ s.base :=
      hresent (by rw [hresend]; exact nofun)
    rw [hresend] at hqueued
    have hfront : front.offset + front.data.length ≤ s.base := hqueued front (List.mem_cons_self ..)
    rw [pay_of_le hf (hagree ▸ hstop)]
    refine ⟨h.touch hs rfl fun seg' hseg' => ?_, Nat.le_refl _, hstop⟩
    rcases List.mem_cons.mp hseg' with rfl | hseg'
    · simp only [Segment.stop, List.length_drop]
      omega
    · exact hqueued seg' (List.mem_cons_of_mem _ hseg')
  | pureFin =>
    have hstop : Segment.stop ⟨s.base, [], true⟩ ≤ s.base := Nat.le_refl _
    rw [pay_of_le hf (hagree ▸ hstop)]
    exact ⟨h.touch hs rfl hqueued, Nat.le_refl _, hstop⟩
  | @fresh n hresend hpos hlen hmax =>
    have hstop : Segment.stop ⟨s.base, s.buf.take n, s.fin && (s.buf.drop n).isEmpty⟩
        = f.dataSent + n := by
      simp only [Segment.stop, List.length_take]
      omega
    have hrecord : f.recordHighOffset (f.dataSent + n)
        = ({ f with dataSent := f.dataSent + n }, n) := by
      rw [SendCredit.recordHighOffset, if_pos (by omega)]
      simp
    obtain ⟨hflow, havailable⟩ := hcredit hresend
    refine ⟨?_, Nat.le_add_right .., by rw [hstop, hagree]⟩
    simp only [Outlay.pay, hstop, hrecord]
    exact h.charge hs hf rfl hresend (Nat.le_trans hmax hflow) (Nat.le_trans hmax havailable)

theorem Pays.solvent (hpays : u.Pays v drawn) (h : u.Solvent) :
    v.Solvent ∧ (∀ d ∈ drawn, Reached v.streams d.1 d.2.stop) ∧
      ∀ id n, Reached u.streams id n → Reached v.streams id n := by
  induction hpays with
  | nil => exact ⟨h, nofun, fun _ _ hn => hn⟩
  | credit _ hnone ih =>
    refine ⟨ih.1.recredit ?_ (Nat.zero_le _), ih.2⟩
    rw [hnone]
    rfl
  | @take v drawn id _ s s' f seg _ hs hf htakes hcredit ih =>
    obtain ⟨hpaid, hbase, hstop⟩ := ih.1.pay hs hf htakes hcredit
    refine ⟨hpaid, fun d hd => ?_, fun id' n hn => (ih.2.2 id' n hn).insert hs hbase⟩
    rcases List.mem_append.mp hd with hd | hd
    · exact (ih.2.1 d hd).insert hs hbase
    · cases List.mem_singleton.mp hd
      exact ⟨s', OrdMap.get?_insert_self .., hstop⟩
  | @block v _ _ ih =>
    refine ⟨⟨ih.1.agree, ih.1.unspent, ih.1.queued, ih.1.carried, ih.1.sent,
      (dataSent_takeBlocked _).trans ih.1.total, ih.1.within, ?_⟩, ih.2⟩
    show v.sendFlow.takeBlocked.1.dataSent ≤ v.sendFlow.takeBlocked.1.maxData
    rw [dataSent_takeBlocked, maxData_takeBlocked]
    exact ih.1.totalWithin
  | @blockStream v _ id f _ hf ih =>
    refine ⟨ih.1.recredit ?_ ?_, ih.2⟩
    · rw [hf]
      exact dataSent_takeBlocked f
    · rw [dataSent_takeBlocked, maxData_takeBlocked]
      exact ih.1.within id f hf

end Outlay

/-! ## Which streams there are -/

/-- The peer speaks on a stream of this side only when it was opened. -/
def Event.awaitsOpening (role : Role) (rest : List (Event P)) : Event P → Bool
  | .received _ (.stream id _ _ _) =>
    StreamId.initiator id != role.initiator || wasOpened id rest
  | _ => true

namespace Outlay

variable {u v : Outlay P} {drawn : List (Nat × Segment)}

/-- What a run is assumed to be like. -/
structure Fair (u : Outlay P) : Prop where
  awaits : Throughout (Event.awaitsOpening u.role) u.trace
  /-- Stream identifiers have room for this many streams. -/
  room : ∀ dir, u.nextIndex dir ≤ 2 ^ 60

variable {E : Prop}

theorem Step.trace_suffix (hstep : u.Step E v) : u.trace <:+ v.trace := by
  cases hstep with
  | send => exact List.suffix_append ..
  | requeue | learn | queue | settle => exact List.suffix_refl _
  | accept packetType id offset fin data =>
    simp only [Outlay.accept]
    split <;> exact List.suffix_cons ..
  | early => exact (List.suffix_cons ..).trans (List.suffix_cons ..)
  | _ => exact List.suffix_cons ..

theorem nextIndex_openStream (u : Outlay P) (dir dir' : Direction) :
    (u.openStream dir).nextIndex dir' =
      if dir' = dir then u.nextIndex dir + 1 else u.nextIndex dir' := by
  cases dir <;> cases dir' <;> rfl

theorem Step.opened (hstep : u.Step E v) :
    v.role = u.role ∧ ∀ dir, u.nextIndex dir ≤ v.nextIndex dir := by
  cases hstep with
  | @send w _ _ _ hpays _ _ =>
    obtain ⟨_, _, _, rfl⟩ := hpays.rest
    exact ⟨rfl, fun _ => Nat.le_refl _⟩
  | «open» dir =>
    refine ⟨rfl, fun dir' => ?_⟩
    rw [nextIndex_openStream]
    split
    · rename_i hdir
      rw [hdir]
      exact Nat.le_succ _
    · exact Nat.le_refl _
  | accept packetType id offset fin data =>
    simp only [Outlay.accept]
    split <;> exact ⟨rfl, fun _ => Nat.le_refl _⟩
  | _ => exact ⟨rfl, fun _ => Nat.le_refl _⟩

theorem Fair.of_step (h : v.Fair) (hstep : u.Step E v) : u.Fair := by
  obtain ⟨hrole, hnext⟩ := hstep.opened
  refine ⟨?_, fun dir => Nat.le_trans (hnext dir) (h.room dir)⟩
  rw [← hrole]
  exact h.awaits.of_suffix hstep.trace_suffix

/-- The streams of this side are those that were opened. -/
structure Known (u : Outlay P) : Prop where
  known : ∀ id, StreamId.initiator id = u.role.initiator → u.streams.get? id ≠ none →
    wasOpened id u.trace = true
  indexed : ∀ id, wasOpened id u.trace = true →
    StreamId.index id < u.nextIndex (StreamId.direction id)

theorem Known.get?_nextId (h : u.Known) {dir : Direction} (hroom : u.nextIndex dir < 2 ^ 60) :
    u.streams.get? (u.nextId dir) = none := by
  have hindex : StreamId.index (u.nextId dir) = u.nextIndex dir :=
    StreamId.index_new _ _ (by simp [StreamId.maxIndex]; omega)
  have hdirection : StreamId.direction (u.nextId dir) = dir := StreamId.direction_new ..
  by_contra hsome
  have hlt := h.indexed _ (h.known (u.nextId dir) (StreamId.initiator_new ..) hsome)
  rw [hindex, hdirection] at hlt
  exact Nat.lt_irrefl _ hlt

theorem Pays.get?_eq_none_iff (hpays : u.Pays v drawn) (id : Nat) :
    v.streams.get? id = none ↔ u.streams.get? id = none := by
  induction hpays with
  | @take v _ id' _ s s' f seg _ hs _ _ _ ih =>
    rw [← ih]
    show (v.streams.insert id' s').get? id = none ↔ _
    rw [OrdMap.get?_insert]
    split
    · rename_i hid
      simp [hid, hs]
    · rfl
  | nil => exact Iff.rfl
  | credit _ _ ih | block _ ih | blockStream _ _ ih => exact ih

theorem wasOpened_backed (id : StreamId)
    (hnew : ∀ e ∈ new, Backed drawn e) : wasOpened id (new ++ trace) = wasOpened id trace := by
  refine append_ignored (fun e he _ => ?_) trace
  cases e with
  | opened id' => exact (hnew _ he).elim
  | _ => rfl

theorem Known.of_same (h : u.Known) (hrole : v.role = u.role) (hopened : v.opened = u.opened)
    (hstreams : ∀ id, u.streams.get? id = none → v.streams.get? id = none)
    (htrace : ∀ id, wasOpened id v.trace = wasOpened id u.trace) : v.Known where
  known id hinitiator hsome := by
    rw [htrace]
    exact h.known id (hrole ▸ hinitiator) fun hnone => hsome (hstreams id hnone)
  indexed id hid := by
    rw [htrace] at hid
    have hnext : v.nextIndex (StreamId.direction id) = u.nextIndex (StreamId.direction id) := by
      cases StreamId.direction id <;> simp [nextIndex, hopened]
    exact hnext ▸ h.indexed id hid

theorem get?_insert_eq_none_iff {β : Type} {m : OrdMap Nat β} {id : Nat} {v : β}
    (h : m.get? id = some v) (w : β) (id' : Nat) :
    (m.insert id w).get? id' = none ↔ m.get? id' = none := by
  rw [OrdMap.get?_insert]
  split
  · next hid => simp [hid, h]
  · rfl

theorem Known.accept (h : u.Known) (packetType : PacketType) (id offset : Nat) (fin : Bool)
    (data : Bytes)
    (hawaits : StreamId.initiator id = u.role.initiator → wasOpened id u.trace = true) :
    ((u.accept id).log (.received packetType (.stream id offset fin data))).Known := by
  -- only the send half matters
  have hview : ∀ w : Outlay P, w.role = u.role → w.opened = u.opened → w.trace = u.trace →
      (∀ id', w.streams.get? id' ≠ none → u.streams.get? id' ≠ none ∨ id' = id) →
      (w.log (.received packetType (.stream id offset fin data))).Known := by
    intro w hrole hopened htrace hstreams
    have hsame : ∀ id', wasOpened id' (w.log (.received packetType
        (.stream id offset fin data))).trace = wasOpened id' u.trace := by
      intro id'
      show wasOpened id' w.trace = _
      rw [htrace]
    refine ⟨fun id' hinitiator hsome => ?_, fun id' hid' => ?_⟩
    · rw [hsame]
      change StreamId.initiator id' = w.role.initiator at hinitiator
      rw [hrole] at hinitiator
      rcases hstreams id' hsome with hold | rfl
      · exact h.known id' hinitiator hold
      · exact hawaits hinitiator
    · rw [hsame] at hid'
      have hnext : (w.log (.received packetType (.stream id offset fin data))).nextIndex
          (StreamId.direction id') = u.nextIndex (StreamId.direction id') := by
        cases StreamId.direction id' <;> simp [nextIndex, log, hopened]
      exact hnext ▸ h.indexed id' hid'
  rw [Outlay.accept]
  split
  · rcases (u.addCredit id).addStream_cases id with hsame | ⟨_, hadded⟩
    · rw [hsame]
      exact hview _ rfl rfl rfl fun _ hsome => .inl hsome
    rw [hadded]
    refine hview _ rfl rfl rfl fun id' hsome => ?_
    by_cases hid : id' = id
    · exact .inr hid
    · exact .inl ((OrdMap.get?_insert_of_ne _ _ hid) ▸ hsome)
  · exact hview _ rfl rfl rfl fun _ hsome => .inl hsome

theorem known_step (h : u.Known) (hearly : u.early = []) (hstep : u.Step False v)
    (hfair : v.Fair) : v.Known := by
  cases hstep with
  | @send w _ _ new hpays _ hnew =>
    have hkeys := hpays.get?_eq_none_iff
    obtain ⟨_, _, _, rfl⟩ := hpays.rest
    exact h.of_same rfl rfl (fun id hnone => (hkeys id).mpr hnone) fun id =>
      wasOpened_backed id hnew
  | @requeue id seg hcarried =>
    refine h.of_same rfl rfl (fun id' hnone => ?_) fun _ => rfl
    show (u.streams.modify id _).get? id' = none
    rw [OrdMap.get?_modify]
    split
    · rename_i hid
      rw [hnone]
      rfl
    · exact hnone
  | «open» dir =>
    have hroom := hfair.room dir
    rw [nextIndex_openStream, if_pos rfl] at hroom
    refine ⟨fun id hinitiator hsome => wasOpened_cons.mpr ?_, fun id hid => ?_⟩
    · by_cases hid : id = u.nextId dir
      · exact .inl (congrArg Event.opened hid.symm)
      · have hold : u.streams.get? id ≠ none := (OrdMap.get?_insert_of_ne _ _ hid) ▸ hsome
        exact .inr (h.known id hinitiator hold)
    rw [nextIndex_openStream]
    rcases wasOpened_cons.mp hid with heq | hold
    · cases heq
      have hindex : StreamId.index (u.nextId dir) = u.nextIndex dir :=
        StreamId.index_new _ _ (by simp [StreamId.maxIndex]; omega)
      rw [hindex, nextId, StreamId.direction_new, if_pos rfl]
      exact Nat.lt_succ_self _
    have hlt := h.indexed id hold
    split
    · rename_i hdir
      rw [hdir] at hlt
      exact Nat.lt_succ_of_lt hlt
    · exact hlt
  | write data fin hs | reset hs => exact h.of_same rfl rfl (fun _ => (get?_insert_eq_none_iff hs _ _).mpr) fun _ => rfl
  | accept packetType id offset fin data =>
    refine h.accept packetType id offset fin data fun hinitiator => ?_
    obtain ⟨hawaits, _⟩ : Throughout (Event.awaitsOpening u.role)
        (.received packetType (.stream id offset fin data) :: u.trace) := by
      have hall := hfair.awaits
      simp only [Outlay.accept] at hall
      split at hall <;> exact hall
    simpa [Event.awaitsOpening, hinitiator] using hawaits
  | replay _ hE => exact (hE.elim id fun hne => hne hearly).elim
  | early _ _ _ _ hne => exact (hne hearly).elim
  | queue _ hE => exact hE.elim
  | _ => exact h.of_same rfl rfl (fun _ hnone => hnone) fun _ => rfl

/-! ## Steps -/

theorem Solvent.log (h : u.Solvent) {e : Event P} (he : emitted (e :: u.trace) = emitted u.trace) :
    (u.log e).Solvent :=
  ⟨h.agree, h.unspent, h.queued, h.carried, he.symm ▸ h.sent, h.total, h.within, h.totalWithin⟩

theorem Solvent.open (h : u.Solvent) {dir : Direction}
    (hnew : u.streams.get? (u.nextId dir) = none) : (u.openStream dir).Solvent := by
  -- credit granted in advance was not used
  have hcredit : ({ u with
      credits := u.credits.insert (u.nextId dir) (.new u.initialLimit) } : Outlay P).Solvent := by
    refine h.recredit ?_ (Nat.zero_le _)
    cases hold : u.credits.get? (u.nextId dir) with
    | none => rfl
    | some f => exact (h.unspent _ f hold hnew).symm
  have hstream := hcredit.create hnew (OrdMap.get?_insert_self ..)
  exact ⟨hstream.agree, hstream.unspent, hstream.queued, hstream.carried, hstream.sent,
    hstream.total, hstream.within, hstream.totalWithin⟩

theorem Solvent.learn (h : u.Solvent) (p : TransportParams) : (u.learn p).Solvent := by
  have hget : ∀ id f, (u.learn p).credits.get? id = some f →
      ∃ g, u.credits.get? id = some g ∧ g.onMaxData p.initialMaxStreamDataBidiRemote = f := by
    intro id f hf
    change (u.credits.mapValues _).get? id = some f at hf
    rw [OrdMap.get?_mapValues] at hf
    exact Option.map_eq_some_iff.mp hf
  refine ⟨fun id s hs => ?_, fun id f hf hnone => ?_, h.queued, h.carried, h.sent, ?_,
    fun id f hf => ?_, ?_⟩
  · obtain ⟨f, hf, hbase⟩ := h.agree id s hs
    refine ⟨f.onMaxData p.initialMaxStreamDataBidiRemote, ?_, (dataSent_onMaxData f _).trans hbase⟩
    show (u.credits.mapValues _).get? id = _
    rw [OrdMap.get?_mapValues, hf]
    rfl
  · obtain ⟨g, hg, rfl⟩ := hget id f hf
    exact (dataSent_onMaxData g _).trans (h.unspent id g hg hnone)
  · simp only [Outlay.learn, OrdMap.sumOver_mapValues, dataSent_onMaxData]
    exact h.total
  · obtain ⟨g, hg, rfl⟩ := hget id f hf
    have hwithin := h.within id g hg
    rw [dataSent_onMaxData, maxData_onMaxData]
    omega
  · have hwithin := h.totalWithin
    show (u.sendFlow.onMaxData _).dataSent ≤ (u.sendFlow.onMaxData _).maxData
    rw [dataSent_onMaxData, maxData_onMaxData]
    omega

theorem Solvent.grant (h : u.Solvent) (limit : Nat) :
    ({ u with sendFlow := u.sendFlow.onMaxData limit } : Outlay P).Solvent := by
  refine ⟨h.agree, h.unspent, h.queued, h.carried, h.sent, (dataSent_onMaxData ..).trans h.total,
    h.within, ?_⟩
  have hwithin := h.totalWithin
  show (u.sendFlow.onMaxData limit).dataSent ≤ (u.sendFlow.onMaxData limit).maxData
  rw [dataSent_onMaxData, maxData_onMaxData]
  omega

theorem Solvent.grantStream (h : u.Solvent) (id limit : Nat) :
    (u.grantStream id limit).Solvent := by
  refine h.recredit ?_ ?_
  · rw [dataSent_onMaxData]
    cases u.credits.get? id with
    | none | some => rfl
  rw [dataSent_onMaxData, maxData_onMaxData]
  cases hold : u.credits.get? id with
  | none => exact Nat.zero_le _
  | some f => exact Nat.le_trans (h.within id f hold) (Nat.le_max_left ..)

theorem Solvent.accept (h : u.Solvent) (id : StreamId) : (u.accept id).Solvent := by
  rw [Outlay.accept]
  split
  · have hcredit : (u.addCredit id).Solvent ∧ (u.addCredit id).credits.get? id ≠ none := by
      rcases u.addCredit_cases id with ⟨hsame, hsome⟩ | ⟨hnone, hadded⟩
      · rw [hsame]
        exact ⟨h, hsome⟩
      rw [hadded]
      refine ⟨h.recredit ?_ (Nat.zero_le _), ?_⟩
      · rw [hnone]
        rfl
      · rw [OrdMap.get?_insert_self]
        exact Option.some_ne_none _
    rcases (u.addCredit id).addStream_cases id with hsame | ⟨hnew, hadded⟩
    · rw [hsame]
      exact hcredit.1
    rw [hadded]
    obtain ⟨f, hf⟩ := Option.ne_none_iff_exists'.mp hcredit.2
    exact hcredit.1.create hnew hf
  · exact h

theorem solvent_step (h : u.Solvent) (hknown : u.Known) (hearly : u.early = [])
    (hstep : u.Step False v) (hfair : v.Fair) : v.Solvent := by
  cases hstep with
  | @send w drawn stores new hpays htracks hnew =>
    obtain ⟨hsolvent, hdrawn, hreached⟩ := hpays.solvent h
    refine ⟨hsolvent.agree, hsolvent.unspent, hsolvent.queued, fun id seg hseg => ?_,
      ?_, hsolvent.total, hsolvent.within, hsolvent.totalWithin⟩
    · obtain ⟨kind, pn, p, hp, hcarries⟩ := hseg
      rcases htracks kind pn p hp with hold | hnew
      · exact hreached _ _ (h.carried id seg ⟨kind, pn, p, hold, hcarries⟩)
      · exact hdrawn (id, seg) (hnew id seg hcarries)
    · exact AllReached.emitted (fun id n hn => hreached id n (h.sent id n hn)) hnew hdrawn
  | @requeue id seg hcarried =>
    obtain ⟨s, hs, hstop⟩ := h.carried id seg hcarried
    have hmodify : u.streams.modify id (·.requeue seg) = u.streams.insert id (s.requeue seg) := by
      refine OrdMap.ext_get? fun id' => ?_
      rw [OrdMap.get?_modify, OrdMap.get?_insert]
      split
      · rename_i hid
        rw [hid, hs]
        rfl
      · rfl
    rw [hmodify]
    refine h.touch hs rfl fun seg' hseg' => ?_
    rcases List.mem_append.mp hseg' with hseg' | hseg'
    · exact h.queued id s hs seg' hseg'
    · exact List.mem_singleton.mp hseg' ▸ hstop
  | «open» dir =>
    have hroom := hfair.room dir
    rw [nextIndex_openStream, if_pos rfl] at hroom
    exact h.open (hknown.get?_nextId (by omega))
  | @write id s data fin hs =>
    have hbase : (s.write data fin).base = s.base := rfl
    exact (h.touch hs hbase (h.queued id s hs)).log rfl
  | @reset id s s' hs hs' =>
    rcases hs' with rfl | ⟨code, rfl⟩
    · exact (h.touch hs rfl (h.queued id s' hs)).log rfl
    · have hbase : (s.reset code).base = s.base := rfl
      exact (h.touch hs hbase fun _ hseg => (List.not_mem_nil hseg).elim).log rfl
  | learn p => exact h.learn p
  | grant packetType limit => exact (h.grant limit).log rfl
  | grantStream packetType id limit => exact (h.grantStream id limit).log rfl
  | accept packetType id offset fin data => exact (h.accept id).log rfl
  | replay _ hE => exact (hE.elim id fun hne => hne hearly).elim
  | early _ _ _ _ hne => exact (hne hearly).elim
  | queue _ hE => exact hE.elim
  | settle =>
    exact ⟨h.agree, h.unspent, h.queued, h.carried, h.sent, h.total, h.within, h.totalWithin⟩

theorem early_step (h : u.early = []) (hstep : u.Step False v) : v.early = [] := by
  cases hstep with
  | send hpays =>
    obtain ⟨_, _, _, rfl⟩ := hpays.rest
    exact h
  | accept packetType id offset fin data =>
    simp only [Outlay.accept]
    split <;> exact h
  | queue _ hE => exact hE.elim
  | settle => rfl
  | _ => exact h

/-- A sender without early data. -/
structure Sound (u : Outlay P) : Prop where
  early : u.early = []
  limited : u.Limited
  totalLimited : u.TotalLimited
  solvent : u.Fair → u.Known ∧ u.Solvent

theorem sound_step (h : u.Sound) (hstep : u.Step False v) : v.Sound where
  early := early_step h.early hstep
  limited := limited_step h.limited hstep
  totalLimited := totalLimited_step h.totalLimited hstep
  solvent hfair := by
    obtain ⟨hknown, hsolvent⟩ := h.solvent (hfair.of_step hstep)
    exact ⟨known_step hknown h.early hstep hfair, solvent_step hsolvent hknown h.early hstep hfair⟩

theorem Sound.drawn_le (h : u.Sound) (hfair : u.Fair) (hpays : u.Pays v drawn)
    {d : Nat × Segment} (hd : d ∈ drawn) : d.2.stop ≤ u.streamLimit d.1 := by
  obtain ⟨hsolvent, hdrawn, _⟩ := hpays.solvent (h.solvent hfair).2
  obtain ⟨s, hs, hstop⟩ := hdrawn d hd
  obtain ⟨f, hf, hbase⟩ := hsolvent.agree d.1 s hs
  obtain ⟨_, _, _, hrest⟩ := hpays.rest
  have hlimit : v.streamLimit d.1 = u.streamLimit d.1 := by
    rw [hrest]
    rfl
  calc d.2.stop ≤ s.base := hstop
    _ = f.dataSent := hbase.symm
    _ ≤ f.maxData := hsolvent.within d.1 f hf
    _ ≤ v.streamLimit d.1 := (hpays.limited h.limited d.1 f hf).2
    _ = u.streamLimit d.1 := hlimit

theorem Sound.emitted_le (h : u.Sound) (hfair : u.Fair) {id n : Nat}
    (hn : (emitted u.trace).get? id = some n) : n ≤ u.streamLimit id := by
  have hsolvent := (h.solvent hfair).2
  obtain ⟨s, hs, hle⟩ := hsolvent.sent id n hn
  obtain ⟨f, hf, hbase⟩ := hsolvent.agree id s hs
  calc n ≤ s.base := hle
    _ = f.dataSent := hbase.symm
    _ ≤ f.maxData := hsolvent.within id f hf
    _ ≤ u.streamLimit id := (h.limited id f hf).2

theorem Sound.totalEmitted_le (h : u.Sound) (hfair : u.Fair) :
    totalEmitted u.trace ≤ u.totalLimit := by
  have hsolvent := (h.solvent hfair).2
  calc totalEmitted u.trace ≤ u.credits.sumOver fun _ f => f.dataSent := by
        refine OrdMap.sumOver_le_sumOver fun id n hn => ?_
        obtain ⟨s, hs, hle⟩ := hsolvent.sent id n hn
        obtain ⟨f, hf, hbase⟩ := hsolvent.agree id s hs
        exact ⟨f, hf, hbase ▸ hle⟩
    _ = u.sendFlow.dataSent := hsolvent.total.symm
    _ ≤ u.sendFlow.maxData := hsolvent.totalWithin
    _ ≤ u.totalLimit := h.totalLimited

end Outlay

/-! ## Runs -/

namespace Connection

open Filling

theorem fillStream_dataSent {f : Filling P} (h : f.conn.outlay.Solvent) {id : Nat} {s : SendStream}
    (hs : f.conn.sendStreams.get? id = some s) (hresend : s.hasResend = true) (avail : Nat) :
    (fillStream f id s avail).conn.flow.sendFlow.dataSent = f.conn.flow.sendFlow.dataSent := by
  obtain ⟨hpays, _⟩ := ensureStreamSendFlow_pays f.conn id
  have hsame : (f.conn.ensureStreamSendFlow id).sendStreams = f.conn.sendStreams ∧
      (f.conn.ensureStreamSendFlow id).flow.sendFlow = f.conn.flow.sendFlow := by
    simp only [ensureStreamSendFlow]
    split <;> exact ⟨rfl, rfl⟩
  have hsolvent := (hpays.solvent h).1
  simp only [fillStream]
  generalize f.conn.ensureStreamSendFlow id = d at hsolvent hsame
  rw [← hsame.1] at hs
  rw [← hsame.2]
  split
  · rfl
  rcases htaken : s.take (d.streamAllowance id s avail) with ⟨s', seg⟩
  cases seg with
  | none => rfl
  | some seg =>
    obtain ⟨credit, hcredit, hbase⟩ := hsolvent.agree id s hs
    have hstop : seg.stop ≤ credit.dataSent := by
      rw [hbase]
      refine hsolvent.resent hs (SendStream.take_takes htaken).2 fun hnil => ?_
      simp [SendStream.hasResend, hnil] at hresend
    have hrecord : credit.recordHighOffset (seg.offset + seg.data.length) = (credit, 0) :=
      if_neg (Nat.not_lt.mpr hstop)
    change d.flow.streamSendFlow.get? id = some credit at hcredit
    simp [placeRecorded, place, chargeFlow, hcredit, hrecord, SendCredit.onDataSent]

theorem Fresh.sound {c : Connection P} (hfresh : c.Fresh) : c.outlay.Sound := by
  have hempty : c.outlay.early = [] ∧ c.outlay.credits = ∅ ∧ c.outlay.streams = ∅ ∧
      c.outlay.trace = [] ∧ c.outlay.sendFlow = .new 0 ∧ (∀ id seg, ¬ c.outlay.Carried id seg) := by
    cases hfresh <;>
      exact ⟨rfl, rfl, rfl, rfl, rfl, fun _ _ ⟨kind, _, _, hp, _⟩ => by cases kind <;> cases hp⟩
  obtain ⟨hearly, hcredits, hstreams, htrace, hflow, hcarried⟩ := hempty
  have hcredit : ∀ id f, c.outlay.credits.get? id ≠ some f := by
    intro id f
    rw [hcredits]
    exact nofun
  have hstream : ∀ id s, c.outlay.streams.get? id ≠ some s := by
    intro id s
    rw [hstreams]
    exact nofun
  refine ⟨hearly, fun id f hf => (hcredit id f hf).elim, ?_, fun _ => ⟨⟨?_, ?_⟩, ?_⟩⟩
  · rw [Outlay.TotalLimited, hflow]
    exact Nat.zero_le _
  · intro id _ hsome
    obtain ⟨s, hs⟩ := Option.ne_none_iff_exists'.mp hsome
    exact (hstream id s hs).elim
  · intro id hopened
    rw [htrace] at hopened
    cases hopened
  refine ⟨fun id s hs => (hstream id s hs).elim, fun id f hf => (hcredit id f hf).elim,
    fun id s hs => (hstream id s hs).elim, fun id seg hseg => (hcarried id seg hseg).elim,
    fun id n hn => ?_, ?_, fun id f hf => (hcredit id f hf).elim, ?_⟩
  · rw [htrace] at hn
    cases hn
  · rw [hflow, hcredits]
    rfl
  · rw [hflow]
    exact Nat.le_refl _

theorem Fresh.run_sound {c d : Connection P} (hfresh : c.Fresh) {ops : List Op} {op : Op}
    (hops : ∀ op ∈ ops, op.isEarly = false) (hop : op.isEarly = false)
    (hd : Updates op (c.run ops) d) : d.outlay.Sound := by
  have step : ∀ {op : Op} {c d : Connection P}, op.isEarly = false → c.outlay.Sound →
      Update op c d → d.outlay.Sound := by
    intro op c d hop hsound hupdate
    have hsteps : Outlay.Steps False c.outlay d.outlay :=
      hupdate.outlay.mono fun hearly => by rw [hop] at hearly; cases hearly
    exact hsteps.invariant Outlay.sound_step hsound
  have hrun : (c.run ops).outlay.Sound :=
    invariant_run (I := fun c => c.outlay.Sound) step hfresh.sound hops
  exact hd.invariant (fun hsound hupdate => step hop hsound hupdate) hrun

end Connection

/-- Stream data that a connection without early data sends is within the limits of the peer.
`d` is any state in the course of a run, also between the parts of one call. -/
theorem send_limits_kept {c d : Connection P} (hfresh : c.Fresh) {ops : List Op} {op : Op}
    (hops : ∀ op ∈ ops, op.isEarly = false) (hop : op.isEarly = false)
    (hd : Connection.Updates op (c.run ops) d) (hfair : d.outlay.Fair) :
    (∀ (f : Filling P) (budget : Nat), f.conn.outlay = d.outlay → ∀ id offset fin data,
      .stream id offset fin data ∈ (Connection.fillStreamFrames f budget).placed →
      .stream id offset fin data ∈ f.placed ∨ offset + data.length ≤ d.outlay.streamLimit id) ∧
    (∀ id n, (emitted d.trace).get? id = some n → n ≤ d.outlay.streamLimit id) ∧
    totalEmitted d.trace ≤ d.outlay.totalLimit ∧
    (∀ (f : Filling P) drawn, d.outlay.Pays f.conn.outlay drawn → ∀ id s avail,
      f.conn.sendStreams.get? id = some s → s.hasResend = true →
      (Connection.fillStream f id s avail).conn.flow.sendFlow.dataSent =
        f.conn.flow.sendFlow.dataSent) ∧
    ∀ id s f, d.sendStreams.get? id = some s → d.flow.streamSendFlow.get? id = some f →
      f.dataSent = s.base := by
  have hsound := hfresh.run_sound hops hop hd
  have hsolvent := (hsound.solvent hfair).2
  refine ⟨?_, fun id n hn => hsound.emitted_le hfair hn, hsound.totalEmitted_le hfair, ?_, ?_⟩
  · intro f budget hf id offset fin data hmem
    obtain ⟨drawn, hpays, hstock⟩ := Connection.fillStreamFrames_spends f budget
    have hframes : (Connection.fillStreamFrames f budget).placed.filter Frame.isStream
        = f.placed.filter Frame.isStream ++ framesOf drawn := congrArg Prod.fst hstock
    have hplaced : .stream id offset fin data ∈ f.placed.filter Frame.isStream ++ framesOf drawn :=
      hframes ▸ List.mem_filter.mpr ⟨hmem, rfl⟩
    rcases List.mem_append.mp hplaced with hold | hnew
    · exact .inl (List.mem_filter.mp hold).1
    obtain ⟨d', hd', heq⟩ := List.mem_map.mp hnew
    cases heq
    exact .inr (hsound.drawn_le hfair (hf ▸ hpays) hd')
  · intro f drawn hpays id s avail hs hresend
    exact Connection.fillStream_dataSent (hpays.solvent hsolvent).1 hs hresend avail
  · intro id s f hs hf
    obtain ⟨f', hf', hbase⟩ := hsolvent.agree id s hs
    cases hf.symm.trans hf'
    exact hbase

namespace Plain

/-- A client that may send ten bytes, and four on each stream. -/
def rationed : Connection Plain := client [0x04, 1, 10, 0x06, 1, 4, 0x08, 1, 3]

/-- It connects and writes six bytes. -/
def writesSix : List Op :=
  joins rationed ++
    [.openBidi, .sendStream 0 [1, 2, 3, 4, 5, 6] false, .pollTransmit 2 [], .pollTransmit 2 []]

end Plain

theorem send_limits_kept_six :
    (emitted (Plain.rationed.run Plain.writesSix).trace).get? 0 = some 4 ∧
    4 ≤ (Plain.rationed.run Plain.writesSix).outlay.streamLimit 0 := by
  have hfair : (Plain.rationed.run Plain.writesSix).outlay.Fair := by
    refine ⟨by decide +kernel, fun dir => ?_⟩
    cases dir <;> decide +kernel
  have hsent : (emitted (Plain.rationed.run Plain.writesSix).trace).get? 0 = some 4 := by
    decide +kernel
  have hkept := send_limits_kept (c := Plain.rationed) (Plain.client_fresh _) (by decide +kernel)
    (show (Op.pollTransmit 2 []).isEarly = false from rfl) (.refl _) hfair
  exact ⟨hsent, hkept.2.1 0 4 hsent⟩

end OxiQuic
