import OxiQuic.Endpoint.Driven

/-!
# Stream handles and their channels

What a read takes from a channel, and what one channel owes to the stream it belongs to: what
was forwarded is delivered in order, and a read finds the end only after the stream or the
task has ended.
-/

namespace OxiQuic

open Lib

namespace RecvStreamHandle

/-- What a reader has yet to get: what is left over of the last chunk, and what is queued. -/
def left (h : RecvStreamHandle) (dataRx : Channel Bytes) : Bytes :=
  h.buf.drop h.bufPos ++ dataRx.queue.flatten

/-- What a read does: it takes some of what is left, or finds the end, or has to wait. -/
inductive Reads (h : RecvStreamHandle) (dataRx : Channel Bytes) (remaining : Nat) :
    RecvStreamHandle → Channel Bytes → Poll Bytes → Prop where
  | got {h' : RecvStreamHandle} {dataRx' : Channel Bytes} {bytes : Bytes} :
      h'.streamId = h.streamId → h.left dataRx = bytes ++ h'.left dataRx' →
      (∀ chunk ∈ dataRx'.queue, chunk ∈ dataRx.queue) → dataRx'.sending = dataRx.sending →
      dataRx'.receiving = dataRx.receiving → (bytes = [] → remaining = 0) →
      Reads h dataRx remaining h' dataRx' (.ready bytes)
  | ended : h.left dataRx = [] → dataRx.sending = false →
      Reads h dataRx remaining h dataRx (.ready [])
  | waiting : Reads h dataRx remaining h dataRx .pending

theorem take_eq_nil {bytes : Bytes} (hne : bytes ≠ []) {remaining : Nat}
    (h : bytes.take (min bytes.length remaining) = []) : remaining = 0 := by
  have hlength := List.length_pos_iff.mpr hne
  rcases List.take_eq_nil_iff.mp h with h | h
  · omega
  · exact absurd h hne

theorem pollRead_reads {h : RecvStreamHandle} {dataRx : Channel Bytes} (remaining : Nat)
    (hchunks : ∀ chunk ∈ dataRx.queue, chunk ≠ []) :
    Reads h dataRx remaining (h.pollRead dataRx remaining).1 (h.pollRead dataRx remaining).2.1
      (h.pollRead dataRx remaining).2.2 := by
  have hpolled := dataRx.pollRecv_polled
  unfold pollRead
  split
  · rename_i hpos
    refine .got rfl ?_ (fun _ => id) rfl rfl (take_eq_nil (by simpa using hpos))
    simp only [left, ← List.append_assoc, ← List.drop_drop, List.take_append_drop]
  rename_i hpos
  have hempty : h.buf.drop h.bufPos = [] := List.drop_eq_nil_of_le (Nat.le_of_not_lt hpos)
  generalize dataRx.pollRecv = polled at hpolled ⊢
  obtain ⟨dataRx', result⟩ := polled
  cases hpolled with
  | @taken _ data hqueue hsending hreceiving =>
    have hdata : data ≠ [] := hchunks data (hqueue ▸ List.mem_cons_self)
    have hrest : ∀ chunk ∈ dataRx'.queue, chunk ∈ dataRx.queue :=
      fun _ hchunk => hqueue ▸ List.mem_cons_of_mem _ hchunk
    have hleft : h.left dataRx = data ++ dataRx'.queue.flatten := by
      rw [left, hempty, hqueue]
      rfl
    simp only
    split
    · refine .got rfl ?_ hrest hsending hreceiving (take_eq_nil hdata)
      rw [hleft, left, ← List.append_assoc, List.take_append_drop]
    rename_i hall
    refine .got rfl ?_ hrest hsending hreceiving (take_eq_nil hdata)
    rw [hleft, List.take_of_length_le (Nat.le_of_not_lt hall)]
    rfl
  | waiting hqueue hsending => exact .waiting
  | ended hqueue hsending =>
    refine .ended ?_ hsending
    rw [left, hempty, hqueue]
    rfl

end RecvStreamHandle

namespace Pipe

/-- What has been forwarded and not been dropped. -/
def content (p : Pipe) : Bytes := p.delivered ++ p.handle.left p.channel

/-- The channel of a stream that has given out `given`, as long as nothing was dropped. -/
structure Faithful (given : Given) (running : Bool) (p : Pipe) : Prop where
  chunks : ∀ chunk ∈ p.channel.queue, chunk ≠ []
  fits : p.overflowed = false → p.content <+: given.bytes
  complete : p.overflowed = false → p.channel.receiving = true → p.content = given.bytes
  /-- The channel is closed by the end of the stream, or by the end of the task. -/
  ended : p.channel.sending = false → given.fin = true ∨ running = false
  eof : p.eof = true → p.overflowed = false →
    p.delivered = given.bytes ∧ (given.fin = true ∨ running = false)

/-- A channel without a reader. -/
structure Silent (p : Pipe) : Prop where
  delivered : p.delivered = []
  eof : p.eof = false
  receiving : p.channel.receiving = false

variable {given : Given} {running : Bool} {p : Pipe}

theorem Faithful.finish (h : p.Faithful given running) :
    p.Faithful { given with fin := true } running where
  chunks := h.chunks
  fits := h.fits
  complete := h.complete
  ended _ := .inl rfl
  eof heof hover := ⟨(h.eof heof hover).1, .inl rfl⟩

theorem Faithful.dropSender (h : p.Faithful given running)
    (hend : given.fin = true ∨ running = false) : p.dropSender.Faithful given running where
  chunks := h.chunks
  fits := h.fits
  complete := h.complete
  ended _ := hend
  eof := h.eof

theorem Faithful.stop (h : p.Faithful given running) : p.dropSender.Faithful given false where
  chunks := h.chunks
  fits := h.fits
  complete := h.complete
  ended _ := .inr rfl
  eof heof hover := ⟨(h.eof heof hover).1, .inr rfl⟩

theorem Faithful.dropHandle (h : p.Faithful given running) :
    p.dropHandle.Faithful given running where
  chunks := nofun
  fits hover := by
    refine List.IsPrefix.trans ?_ (h.fits hover)
    show p.delivered ++ (p.handle.buf.drop p.handle.bufPos ++ []) <+: _
    rw [content, RecvStreamHandle.left, List.append_nil, ← List.append_assoc]
    exact List.prefix_append _ _
  complete _ hreceiving := by cases hreceiving
  ended := h.ended
  eof := h.eof

theorem Faithful.hold (h : p.Faithful given running) :
    ({ p with held := true } : Pipe).Faithful given running :=
  ⟨h.chunks, h.fits, h.complete, h.ended, h.eof⟩

theorem Faithful.forward (h : p.Faithful given true) {bytes : Bytes} (hbytes : bytes ≠ [])
    (hfin : given.fin = false) :
    (p.forward bytes).Faithful { given with bytes := given.bytes ++ bytes } true := by
  have hopen : p.overflowed = false → p.eof = false := by
    intro hover
    by_contra heof
    rcases (h.eof (by simpa using heof) hover).2 with hend | hend
    · rw [hfin] at hend
      cases hend
    · cases hend
  have hsent := p.channel.trySend_sent bytes
  unfold Pipe.forward
  generalize p.channel.trySend bytes = sent at hsent ⊢
  obtain ⟨channel, result⟩ := sent
  cases hsent with
  | queued hreceiving _ hqueue hsending hsame =>
    have hqueue : channel.queue = p.channel.queue ++ [bytes] := hqueue
    have hcontent : p.delivered ++ p.handle.left channel = p.content ++ bytes := by
      simp [content, RecvStreamHandle.left, hqueue]
    have hcomplete : p.overflowed = false →
        p.delivered ++ p.handle.left channel = given.bytes ++ bytes :=
      fun hover => by rw [hcontent, h.complete hover hreceiving]
    refine ⟨fun chunk hchunk => ?_, fun hover => ?_, fun hover _ => ?_, fun hs => ?_,
      fun heof hover => ?_⟩
    · rcases List.mem_append.mp (hqueue ▸ hchunk) with hchunk | hchunk
      · exact h.chunks chunk hchunk
      · exact List.mem_singleton.mp hchunk ▸ hbytes
    · exact (hcomplete (by simpa using hover)) ▸ List.prefix_rfl
    · exact hcomplete (by simpa using hover)
    · exact h.ended (hsending ▸ hs)
    have hnot := hopen (by simpa using hover)
    rw [hnot] at heof
    cases heof
  | full hreceiving hlength =>
    have hlost : ¬ (p.overflowed || true) = false := by simp
    exact ⟨h.chunks, fun hover => absurd hover hlost, fun hover => absurd hover hlost, h.ended,
      fun _ hover => absurd hover hlost⟩
  | closed hreceiving =>
    refine ⟨h.chunks, fun hover => ?_, fun _ hthere => ?_, h.ended, fun heof hover => ?_⟩
    · exact (h.fits (by simpa using hover)).trans (List.prefix_append _ _)
    · rw [hreceiving] at hthere
      cases hthere
    have hnot := hopen (by simpa using hover)
    rw [hnot] at heof
    cases heof

theorem Faithful.read (h : p.Faithful given running) (hreceiving : p.channel.receiving = true)
    (remaining : Nat) : (p.read remaining).Faithful given running := by
  have hreads := p.handle.pollRead_reads remaining h.chunks
  unfold Pipe.read
  generalize p.handle.pollRead p.channel remaining = polled at hreads ⊢
  obtain ⟨handle, channel, result⟩ := polled
  cases hreads with
  | @got _ _ bytes hstream hleft hchunks hsending hsame hroom =>
    have hcontent : p.delivered ++ bytes ++ handle.left channel = p.content := by
      rw [content, hleft, List.append_assoc]
    refine ⟨fun chunk hchunk => h.chunks chunk (hchunks chunk hchunk), fun hover => ?_,
      fun hover _ => ?_, fun hs => h.ended (hsending ▸ hs), fun heof hover => ?_⟩
    · show p.delivered ++ bytes ++ handle.left channel <+: given.bytes
      exact hcontent ▸ h.fits hover
    · exact hcontent.trans (h.complete hover hreceiving)
    have hbefore : p.eof = true := by
      rcases Bool.or_eq_true_iff.mp heof with heof | heof
      · exact heof
      simp only [Bool.and_eq_true, List.isEmpty_iff, decide_eq_true_eq] at heof
      have := hroom heof.1
      omega
    obtain ⟨hdelivered, hend⟩ := h.eof hbefore hover
    -- everything was delivered already
    have hnone : bytes = [] := by
      have hall := h.complete hover hreceiving
      rw [content, hleft, hdelivered, List.append_right_eq_self, List.append_eq_nil_iff] at hall
      exact hall.1
    exact ⟨by simp [hnone, hdelivered], hend⟩
  | ended hleft hsending =>
    refine ⟨h.chunks, fun hover => ?_, fun hover hthere => ?_, h.ended, fun _ hover => ?_⟩
    · simpa [content] using h.fits hover
    · simpa [content] using h.complete hover hthere
    refine ⟨?_, h.ended hsending⟩
    have hall := h.complete hover hreceiving
    rw [content, hleft] at hall
    simpa using hall
  | waiting => exact ⟨h.chunks, h.fits, h.complete, h.ended, h.eof⟩

theorem Silent.forward (h : p.Silent) (bytes : Bytes) : (p.forward bytes).Silent := by
  have hclosed : p.channel.trySend bytes = (p.channel, .error .closed) := if_pos h.receiving
  unfold Pipe.forward
  rw [hclosed]
  exact ⟨h.delivered, h.eof, h.receiving⟩

theorem Silent.dropSender (h : p.Silent) : p.dropSender.Silent := ⟨h.delivered, h.eof, h.receiving⟩

theorem Silent.dropHandle (h : p.Silent) : p.dropHandle.Silent := ⟨h.delivered, h.eof, rfl⟩

theorem Silent.hold (h : p.Silent) : ({ p with held := true } : Pipe).Silent :=
  ⟨h.delivered, h.eof, h.receiving⟩

/-- The channel of a stream is what it should be. -/
structure Sound (given : Given) (running : Bool) (p : Pipe) : Prop where
  silent : p.deaf = true → p.Silent
  faithful : p.deaf = false → p.Faithful given running

/-- A change that leaves a channel with its stream, and does not open it. -/
structure Keeps (p q : Pipe) : Prop where
  stream : q.stream = p.stream
  deaf : q.deaf = p.deaf
  sending : q.channel.sending = true → p.channel.sending = true

theorem Keeps.refl (p : Pipe) : p.Keeps p := ⟨rfl, rfl, id⟩

theorem forward_keeps (p : Pipe) (bytes : Bytes) : p.Keeps (p.forward bytes) := by
  refine ⟨rfl, rfl, fun hs => ?_⟩
  have hsent := p.channel.trySend_sent bytes
  change (p.channel.trySend bytes).1.sending = true at hs
  generalize p.channel.trySend bytes = sent at hsent hs
  obtain ⟨channel, result⟩ := sent
  cases hsent with
  | queued _ _ _ hsending => exact hsending ▸ hs
  | full | closed => exact hs

theorem read_keeps (h : ∀ chunk ∈ p.channel.queue, chunk ≠ []) (remaining : Nat) :
    p.Keeps (p.read remaining) := by
  have hreads := p.handle.pollRead_reads remaining h
  unfold Pipe.read
  generalize p.handle.pollRead p.channel remaining = polled at hreads ⊢
  obtain ⟨handle, channel, result⟩ := polled
  cases hreads with
  | got hstream _ _ hsending => exact ⟨hstream, rfl, fun hs => hsending ▸ hs⟩
  | ended | waiting => exact ⟨rfl, rfl, id⟩

/-! ## Reading from a handle -/

/-- The driver places a chunk or closes the channel, or the application reads. -/
inductive Call where
  | place (chunk : Bytes) (nonempty : chunk ≠ [])
  | close
  | read (remaining : Nat) (room : 0 < remaining)

/-- A channel with the bytes placed in it, and whether it was closed. -/
def call (s : Given × Pipe) : Call → Given × Pipe
  | .place chunk _ =>
    if s.1.fin = false ∧ s.2.channel.queue.length < s.2.channel.capacity then
      ({ s.1 with bytes := s.1.bytes ++ chunk }, s.2.forward chunk)
    else s
  | .close => ({ s.1 with fin := true }, s.2.dropSender)
  | .read remaining _ => (s.1, s.2.read remaining)

/-- Nothing placed is lost while the handle is there. -/
structure Exact (s : Given × Pipe) : Prop where
  faithful : s.2.Faithful s.1 true
  receiving : s.2.channel.receiving = true
  roomy : s.2.overflowed = false

theorem Exact.call {s : Given × Pipe} (h : Exact s) (call : Call) : Exact (Pipe.call s call) := by
  cases call with
  | place chunk hchunk =>
    simp only [Pipe.call]
    split
    · rename_i hopen
      obtain ⟨hfin, hroom⟩ := hopen
      refine ⟨h.faithful.forward hchunk hfin, ?_, ?_⟩
      · simp [Pipe.forward, Channel.trySend, h.receiving, hroom]
      · simp [Pipe.forward, Channel.trySend, h.receiving, hroom, h.roomy]
    · exact h
  | close => exact ⟨h.faithful.finish.dropSender (.inl rfl), h.receiving, h.roomy⟩
  | read remaining =>
    have hfaithful := h.faithful.read h.receiving remaining
    have hreads := s.2.handle.pollRead_reads remaining h.faithful.chunks
    simp only [Pipe.call]
    unfold Pipe.read at hfaithful ⊢
    generalize s.2.handle.pollRead s.2.channel remaining = polled at hreads hfaithful ⊢
    obtain ⟨handle, channel, result⟩ := polled
    cases hreads with
    | got _ _ _ _ hsame => exact ⟨hfaithful, hsame.trans h.receiving, h.roomy⟩
    | ended | waiting => exact ⟨hfaithful, h.receiving, h.roomy⟩

end Pipe

end OxiQuic
