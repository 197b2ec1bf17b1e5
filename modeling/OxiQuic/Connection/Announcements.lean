import OxiQuic.Connection.StreamState

/-!
# Streams of the peer that the application is told of

A `STREAM` frame brings a stream into being and puts it into the queue of streams to tell the
application of, if the stream has no receive half.  A `RESET_STREAM` frame brings the receive half
into being as well, and tells nobody.  So a stream of the peer is announced exactly once if its
first frame was a `STREAM` frame, and never if it was a `RESET_STREAM` frame
(`peer_stream_announced_once_iff`).
-/

namespace OxiQuic

open Lib

variable {P : Platform} (c : Connection P) {told : List StreamId} {d : Connection P} {op : Op}
    (id : StreamId)

/-- Whether an event is the arrival of a `STREAM` frame or, otherwise, of a `RESET_STREAM` frame of a
stream. -/
def Event.arrival (id : StreamId) : Event P → Option Bool
  | .received _ (.stream id' _ _ _) => if id' = id then some true else none
  | .received _ (.resetStream id' _ _) => if id' = id then some false else none
  | _ => none

/-- What the first of these frames was.  The history has the newest event first. -/
def firstArrival (id : StreamId) (trace : List (Event P)) : Option Bool :=
  (trace.filterMap (Event.arrival id)).getLast?

theorem firstArrival_cons (e : Event P) (trace : List (Event P)) :
    firstArrival id (e :: trace) = match e.arrival id with
      | some isStream => some ((firstArrival id trace).getD isStream)
      | none => firstArrival id trace := by
  simp only [firstArrival, List.filterMap_cons]
  split <;> simp_all [List.getLast?_cons]

namespace Connection

theorem firstArrival_chronicle : firstArrival id c.chronicle = firstArrival id c.trace := by
  have hinward : ∀ e : Event P, (if e.isInward = true then e.arrival id else none)
      = e.arrival id := by
    intro e
    cases e <;> rfl
  simp only [firstArrival, chronicle, List.filterMap_filter, hinward]

/-! ## The queue -/

/-- The queue after a frame. -/
def announce (c : Connection P) : Frame → List StreamId
  | .stream id _ _ _ =>
    if !c.inbound.streams.contains id && c.isPeerInitiated id then
      c.inbound.newPeerStreams ++ [id]
    else c.inbound.newPeerStreams
  | _ => c.inbound.newPeerStreams

theorem recvStream_newPeerStreams (id offset : Nat) (fin : Bool) (data : Bytes) :
    (c.recvStream id offset fin data).1.inbound.newPeerStreams
      = c.announce (.stream id offset fin data) := by
  have hensured : (c.ensureStream id).inbound.newPeerStreams
      = c.announce (.stream id offset fin data) := by
    simp only [ensureStream, ensureRecvFlow, ensureSendHalf, noteNewPeerStream, announce]
    split <;> split <;> rfl
  simp only [recvStream]
  split
  · exact hensured
  · split <;> exact hensured

theorem takeFrame_announces (now : Time) (packetType : PacketType) (frame : Frame) :
    (c.takeFrame now packetType frame).1.inbound.newPeerStreams = c.announce frame ∧
      ∀ id, firstArrival id (c.takeFrame now packetType frame).1.trace
        = firstArrival id (.received packetType frame :: c.trace) := by
  obtain ⟨v, htakes, huptake⟩ := takeFrame_uptake c now packetType frame
  have hchronicle : (c.takeFrame now packetType frame).1.chronicle
      = (c.log (.received packetType frame)).chronicle := by
    refine (congrArg Uptake.chronicle huptake).trans ?_
    cases htakes <;> rfl
  constructor
  · cases frame with
    | stream id offset fin data =>
      exact recvStream_newPeerStreams (c.log (.received packetType (.stream id offset fin data)))
        id offset fin data
    | _ =>
      refine (congrArg (fun u : Uptake P => u.inbound.newPeerStreams) huptake).trans ?_
      cases htakes <;> rfl
  · intro id
    rw [← firstArrival_chronicle, hchronicle, firstArrival_chronicle]
    rfl

theorem step_newPeerStreams (hsimple : op.isSimple = true) (hpoll : op ≠ .pollNewPeerStream) :
    (c.step op).inbound.newPeerStreams = c.inbound.newPeerStreams := by
  by_cases haside : op.isAside = true
  · exact congrArg (·.inbound.newPeerStreams) (step_aside c haside)
  cases op with
  | pollNewPeerStream => exact absurd rfl hpoll
  | openBidi | openUni | sendStream | readStream | pollReadable | resetStream | queueEarlyData
  | popCidEvent | close | initiateKeyUpdate =>
    simp only [step, openBidi, openUni, sendStream, readStream, pollReadable, resetStream,
      queueEarlyData, popCidEvent, close, initiateKeyUpdate]
    repeat' split
    all_goals rfl
  | _ => first | exact absurd rfl haside | cases hsimple

theorem step_firstArrival (hsimple : op.isSimple = true)
    (id : StreamId) : firstArrival id (c.step op).trace = firstArrival id c.trace := by
  rw [← firstArrival_chronicle, ← firstArrival_chronicle]
  rcases step_uptake c hsimple with hsame | hact
  · exact congrArg (fun u : Uptake P => firstArrival id u.chronicle) hsame
  change firstArrival id (c.step op).uptake.chronicle = firstArrival id c.uptake.chronicle
  generalize (c.step op).uptake = v at hact
  cases hact <;> rfl

theorem Update.announces (hpoll : op ≠ .pollNewPeerStream) {c : Connection P} (h : Update op c d) :
    (d.inbound.newPeerStreams = c.inbound.newPeerStreams ∧
      ∀ id, firstArrival id d.trace = firstArrival id c.trace) ∨
    ∃ packetType frame, d.inbound.newPeerStreams = c.announce frame ∧
      ∀ id, firstArrival id d.trace = firstArrival id (.received packetType frame :: c.trace) := by
  have hview : ∀ {e : Connection P}, d.uptake = e.uptake →
      d.inbound.newPeerStreams = e.inbound.newPeerStreams ∧
        ∀ id, firstArrival id d.trace = firstArrival id e.trace := by
    intro e huptake
    refine ⟨congrArg (fun u : Uptake P => u.inbound.newPeerStreams) huptake, fun id => ?_⟩
    rw [← firstArrival_chronicle, ← firstArrival_chronicle]
    exact congrArg (fun u : Uptake P => firstArrival id u.chronicle) huptake
  rcases h.uptake_taken with hsame | ⟨-, now, packetType, frame, hframe⟩ | ⟨hsimple, rfl⟩ |
    ⟨now, out, rfl, rfl⟩
  · exact .inl (hview hsame)
  · obtain ⟨hqueue, harrival⟩ := takeFrame_announces c now packetType frame
    obtain ⟨hqueue', harrival'⟩ := hview hframe
    exact .inr ⟨packetType, frame, hqueue'.trans hqueue,
      fun id => (harrival' id).trans (harrival id)⟩
  · exact .inl ⟨step_newPeerStreams c hsimple hpoll, step_firstArrival c hsimple⟩
  · refine .inl ⟨advanceRecvFlow_kept (f := (·.inbound.newPeerStreams)) (fun _ _ _ _ _ => rfl) c,
      fun id => ?_⟩
    exact congrArg (fun l : Ledger P => firstArrival id l.trace) (advanceRecvFlow_ledger c)

/-! ## Announcements and arrivals -/

theorem Documented.contains_iff {c : Connection P} (h : c.Documented) {id : StreamId}
    (hpeer : c.isPeerInitiated id = true) :
    c.inbound.streams.contains id = true ↔ firstArrival id c.trace ≠ none := by
  have hlocal : wasOpened id c.trace ≠ true := by
    intro hopened
    obtain ⟨dir, k, -, rfl⟩ := (h.counted id).mp hopened
    simp only [isPeerInitiated, StreamId.initiator_new, outlay] at hpeer
    simp at hpeer
  have hsource : (∃ e ∈ c.trace, e.recvHalf = some id) ↔ ∃ e ∈ c.trace, e.arrival id ≠ none := by
    refine exists_congr fun e => and_congr_right fun he => ?_
    cases e with
    | received packetType frame =>
      cases frame <;> simp [Event.recvHalf, Event.arrival]
    | opened id' =>
      refine iff_of_false (fun hhalf => hlocal ?_) (fun harrival => harrival rfl)
      simp only [Event.recvHalf] at hhalf
      split at hhalf
      · cases hhalf
        exact List.any_eq_true.mpr ⟨_, he, beq_self_eq_true _⟩
      · cases hhalf
    | _ => simp [Event.recvHalf, Event.arrival]
  rw [Ne, firstArrival, List.getLast?_eq_none_iff, List.filterMap_eq_nil_iff, not_forall]
  simp only [Classical.not_imp]
  rw [← hsource, ← h.recv id, OrdMap.contains, Option.isSome_iff_ne_none]

/-- The streams that the application was told of, and those it is still to be told of, are the
streams of the peer whose first frame was a `STREAM` frame, each once. -/
def AnnouncedOnce (told : List StreamId) (c : Connection P) : Prop :=
  ∀ id, (told ++ c.inbound.newPeerStreams).count id
    = if c.isPeerInitiated id = true ∧ firstArrival id c.trace = some true then 1 else 0

theorem AnnouncedOnce.frame {c d : Connection P} (h : AnnouncedOnce told c)
    (hdocumented : c.Documented) {packetType : PacketType} {frame : Frame} (hrole : d.role = c.role)
    (hqueue : d.inbound.newPeerStreams = c.announce frame)
    (harrival : ∀ id, firstArrival id d.trace
      = firstArrival id (.received packetType frame :: c.trace)) : AnnouncedOnce told d := by
  intro id
  have hpeer : d.isPeerInitiated id = c.isPeerInitiated id := by
    rw [isPeerInitiated, isPeerInitiated, hrole]
  have hbefore := h id
  rw [hqueue, hpeer, harrival, firstArrival_cons]
  cases frame with
  | stream id' offset fin data =>
    by_cases hid : id' = id
    · subst hid
      simp only [Event.arrival, if_true, announce]
      cases hlocal : c.isPeerInitiated id' with
      | false =>
        rw [hlocal] at hbefore
        simpa using hbefore
      | true =>
        have hcontains := hdocumented.contains_iff hlocal
        rw [hlocal] at hbefore
        cases hfirst : firstArrival id' c.trace with
        | none =>
          -- the first frame of the stream, which is announced
          have hnew : c.inbound.streams.contains id' = false := by
            rw [Bool.eq_false_iff]
            exact fun hknown => hcontains.mp hknown hfirst
          rw [hfirst] at hbefore
          rw [hnew, if_pos (show (!false && true) = true from rfl), ← List.append_assoc,
            List.count_append, hbefore]
          simp
        | some isStream =>
          have hknown : c.inbound.streams.contains id' = true :=
            hcontains.mpr (hfirst ▸ Option.some_ne_none _)
          rw [hfirst] at hbefore
          rw [hknown, if_neg (show ¬ (!true && true) = true from Bool.false_ne_true)]
          exact hbefore
    · have hother : (told ++ c.announce (.stream id' offset fin data)).count id
          = (told ++ c.inbound.newPeerStreams).count id := by
        simp only [announce]
        split
        · rw [← List.append_assoc, List.count_append, List.count_singleton,
            if_neg (by simpa using hid), Nat.add_zero]
        · rfl
      simp only [Event.arrival, if_neg hid, hother]
      exact hbefore
  | resetStream id' errorCode finalSize =>
    by_cases hid : id' = id
    · subst hid
      simp only [Event.arrival, if_true, announce]
      rw [hbefore]
      cases firstArrival id' c.trace with
      | none => simp
      | some isStream => rfl
    · simp only [Event.arrival, if_neg hid, announce]
      exact hbefore
  | _ => exact hbefore

theorem AnnouncedOnce.update (hpoll : op ≠ .pollNewPeerStream)
    {c : Connection P} (h : c.Documented ∧ AnnouncedOnce told c) (hupdate : Update op c d) :
    d.Documented ∧ AnnouncedOnce told d := by
  have hrole : d.role = c.role := hupdate.outlay.invariant (I := fun u => u.role = c.role)
      (fun hu hstep => hstep.opened.1.trans hu) rfl
  refine ⟨h.1.update hupdate, ?_⟩
  rcases hupdate.announces hpoll with ⟨hqueue, harrival⟩ | ⟨packetType, frame, hqueue, harrival⟩
  · intro id
    rw [hqueue, harrival, isPeerInitiated, hrole]
    exact h.2 id
  · exact h.2.frame h.1 hrole hqueue harrival

/-- The streams that the calls of a run return as new streams of the peer. -/
def polledPeerStreams (c : Connection P) : List Op → List StreamId
  | [] => []
  | .pollNewPeerStream :: ops =>
    c.pollNewPeerStream.2.toList ++ (c.step .pollNewPeerStream).polledPeerStreams ops
  | op :: ops => (c.step op).polledPeerStreams ops

theorem pollNewPeerStream_told :
    c.pollNewPeerStream.2.toList ++ (c.step .pollNewPeerStream).inbound.newPeerStreams
      = c.inbound.newPeerStreams := by
  simp only [step, pollNewPeerStream]
  split
  · rename_i hempty
    exact hempty.symm ▸ hempty.symm
  · rename_i hqueue
    exact hqueue.symm

theorem run_announced (ops : List Op) {c : Connection P} (h : c.Documented ∧ AnnouncedOnce told c) :
    AnnouncedOnce (told ++ c.polledPeerStreams ops) (c.run ops) := by
  induction ops generalizing c told with
  | nil =>
    rw [polledPeerStreams, List.append_nil]
    exact h.2
  | cons op ops ih =>
    by_cases hop : op = .pollNewPeerStream
    · -- a stream that is polled moves from the queue to those the application was told of
      subst hop
      have hnext : AnnouncedOnce (told ++ c.pollNewPeerStream.2.toList)
          (c.step .pollNewPeerStream) := by
        have hsame : (c.step .pollNewPeerStream).role = c.role ∧
            (c.step .pollNewPeerStream).trace = c.trace := by
          simp only [step, pollNewPeerStream]
          split <;> exact ⟨rfl, rfl⟩
        intro id
        rw [List.append_assoc, pollNewPeerStream_told, isPeerInitiated, hsame.1, hsame.2]
        exact h.2 id
      have hrest := ih ⟨h.1.step _, hnext⟩
      rw [List.append_assoc] at hrest
      exact hrest
    · have hstep := (c.step_updates op).invariant
        (fun hd hupdate => AnnouncedOnce.update hop hd hupdate) h
      have hpolled : c.polledPeerStreams (op :: ops) = (c.step op).polledPeerStreams ops := by
        cases op with
        | pollNewPeerStream => exact absurd rfl hop
        | _ => rfl
      rw [hpolled]
      exact ih hstep

end Connection

/-- A stream of the peer is announced at most once, and is announced exactly if the first of its
`STREAM` and `RESET_STREAM` frames was a `STREAM` frame. -/
theorem peer_stream_announced_once_iff {c : Connection P} (hfresh : c.Fresh) (ops : List Op)
    {id : StreamId} (hpeer : StreamId.initiator id ≠ (c.run ops).role.initiator) :
    (c.polledPeerStreams ops ++ (c.run ops).inbound.newPeerStreams).count id ≤ 1 ∧
    ((c.polledPeerStreams ops ++ (c.run ops).inbound.newPeerStreams).count id = 1 ↔
      firstArrival id (c.run ops).trace = some true) := by
  have hstart : Connection.AnnouncedOnce [] c := by
    obtain ⟨hqueue, htrace⟩ : c.inbound.newPeerStreams = [] ∧ c.trace = [] := by
      cases hfresh <;> exact ⟨rfl, rfl⟩
    intro id
    rw [hqueue, htrace, if_neg (fun h => (by cases h.2))]
    rfl
  have hcount := Connection.run_announced ops ⟨hfresh.documented, hstart⟩ id
  have hinitiated : (c.run ops).isPeerInitiated id = true := decide_eq_true hpeer
  rw [List.nil_append, hinitiated] at hcount
  rw [hcount]
  split
  · rename_i hfirst
    exact ⟨Nat.le_refl 1, iff_of_true rfl hfirst.2⟩
  · rename_i hfirst
    exact ⟨Nat.zero_le 1, iff_of_false Nat.zero_ne_one fun h => hfirst ⟨rfl, h⟩⟩

namespace Plain

/-- A client connects, and takes in 1-RTT packets with the given frames. -/
def overhears (packets : List (List Frame)) : List Op :=
  joins (client []) ++ packets.zipIdx.map fun p =>
    .handleDatagram (2 + p.2) (shortPacket ((client []).run (joins (client []))) 0 p.2 p.1)

end Plain

/-- Data on stream 1, which the server opens, and then its reset. -/
theorem peer_stream_announced_once_data :
    ((Plain.client []).polledPeerStreams
        (Plain.overhears [[.stream 1 0 false [7, 8]], [.resetStream 1 5 2]] ++ [.pollNewPeerStream]) ++
      ((Plain.client []).run (Plain.overhears [[.stream 1 0 false [7, 8]], [.resetStream 1 5 2]] ++
        [.pollNewPeerStream])).inbound.newPeerStreams).count 1 = 1 := by
  refine (peer_stream_announced_once_iff (Plain.client_fresh []) _ ?_).2.mpr ?_
  · decide +kernel
  · decide +kernel

namespace Plain

/-- The reset of stream 1, and then its data. -/
def lateData : List Op := overhears [[.resetStream 1 5 2], [.stream 1 0 false [7, 8]]]

end Plain

/-- The reset of stream 1 arrives before its data.  The stream has a receive half, and the
application is never told of it. -/
theorem reset_stream_not_announced :
    ((Plain.client []).run Plain.lateData).inbound.streams.contains 1 = true ∧
    ((Plain.client []).run Plain.lateData).inbound.newPeerStreams = [] ∧
    (Plain.client []).polledPeerStreams (Plain.lateData ++ [.pollNewPeerStream]) = [] := by
  decide +kernel

end OxiQuic
