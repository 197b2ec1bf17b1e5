import OxiQuic.Connection.Ledger

/-!
# The code moves the ledger

One lemma for each function of the connection: it leaves the ledger as it is, or moves it
by `Ledger.Moves`.  The result is `Connection.run_moves`: every run is a sequence of moves.
-/

namespace OxiQuic

open Lib Ledger

variable {P : Platform} (c : Connection P) (now : Time) (stream : StreamId) (idx : SpaceKind)

namespace Connection

theorem log_ledger (e : Event P) : (c.log e).ledger = c.ledger.log e := rfl

theorem logAll_ledger (es : List (Event P)) :
    (c.logAll es).ledger = { c.ledger with trace := es.reverse ++ c.ledger.trace } := rfl

/-! ## Handshake -/

theorem replayEarlyData_moves (early : StreamId × Bytes × Bool) :
    Moves c.ledger (c.replayEarlyData early).ledger := .single (.replay c.ledger early.1 _)

theorem refreshHandshakeComplete_moves : Moves c.ledger c.refreshHandshakeComplete.ledger := by
  refine refreshHandshakeComplete_completes (R := fun c d => Moves c.ledger d.ledger)
    (fun _ => .refl _) .trans (fun h => ?_) c
  cases h with
  | issue => exact .of_eq (maybeIssueNewCid_kept (fun _ _ _ _ => rfl) _)
  | learn => exact .of_eq (learnPeerParams_kept (fun _ _ => rfl) _)
  | replay early => exact replayEarlyData_moves _ early
  | finish | enter | settle | token => exact .refl _

/-! ## Loss and acknowledgement -/

variable (frame : SentFrame)

theorem requeueFrame_ledger :
    (c.requeueFrame idx frame).ledger
      = { c.ledger with streams := requeueInto c.ledger.streams frame } := by
  cases frame with
  | crypto | newToken =>
    simp only [requeueFrame]
    split <;> rfl
  | _ => rfl

theorem onFrameLost_ledger :
    (c.onFrameLost idx frame).ledger
      = { c.ledger with streams := requeueInto c.ledger.streams frame } := by
  cases frame with
  | mtuProbe size => rfl
  | _ => exact requeueFrame_ledger c idx _

theorem requeue_foldl_ledger {f : Connection P → SentFrame → Connection P}
    (hf : ∀ c frame, (f c frame).ledger
      = { c.ledger with streams := requeueInto c.ledger.streams frame })
    (frames : List SentFrame) (c : Connection P) :
    (frames.foldl f c).ledger
      = { c.ledger with streams := requeueAll c.ledger.streams frames } := by
  induction frames generalizing c with
  | nil => rfl
  | cons frame rest ih =>
    rw [List.foldl_cons, ih, hf]
    rfl

theorem sum_weight_eq (packets : List SentPacket) :
    (packets.map (·.weight)).sum = ((packets.filter (·.inFlight)).map (·.sentBytes)).sum := by
  induction packets with
  | nil => rfl
  | cons p rest ih =>
    rw [List.map_cons, List.sum_cons, ih, SentPacket.weight]
    cases hp : p.inFlight with
    | true | false => simp [hp]

theorem earliestOf_isSome_of_largestOf {l : List Nat} (h : l ≠ []) :
    ∃ newest oldest, largestOf l = some newest ∧ earliestOf l = some oldest := by
  rw [largestOf_eq_max?, earliestOf_eq_min?]
  obtain ⟨newest, hnewest⟩ := Option.ne_none_iff_exists'.mp (mt List.max?_eq_none_iff.mp h)
  obtain ⟨oldest, holdest⟩ := Option.ne_none_iff_exists'.mp (mt List.min?_eq_none_iff.mp h)
  exact ⟨newest, oldest, hnewest, holdest⟩

theorem onPacketsLost_ledger (lost : List SentPacket) (now : Time) :
    (c.onPacketsLost lost now).ledger = { c.ledger with
          inFlight := c.ledger.inFlight - (lost.map (·.weight)).sum } := by
  rw [sum_weight_eq]
  simp only [onPacketsLost]
  by_cases hnone : lost.filter (·.inFlight) = []
  · rw [hnone]
    rfl
  obtain ⟨newest, oldest, hnewest, holdest⟩ := earliestOf_isSome_of_largestOf
    (mt List.map_eq_nil_iff.mp hnone : (lost.filter (·.inFlight)).map (·.timeSent) ≠ [])
  rw [hnewest, holdest]
  simp only [ledger]
  congr 1
  split
  · rw [CongestionController.onPersistentCongestion_bytesInFlight,
      CongestionController.onPacketsLost_bytesInFlight]
  · rw [CongestionController.onPacketsLost_bytesInFlight]

theorem detectAndHandleLoss_moves (now : Time) :
    Moves c.ledger (c.detectAndHandleLoss idx now).ledger := by
  have htakes := (c.sentPackets.get idx).detectLost_takes now c.recovery.rtt.lossDelay
  simp only [detectAndHandleLoss]
  split
  · rename_i hempty
    rw [List.isEmpty_iff] at hempty
    rw [hempty] at htakes
    exact .single (Move.ack c.ledger idx htakes nofun)
  refine .trans (.single (Move.lose c.ledger idx htakes)) (.of_eq ?_)
  rw [logAll_ledger, onPacketsLost_ledger, requeue_foldl_ledger (onFrameLost_ledger · idx)]
  rfl

theorem setLossDetectionTimer_ledger : c.setLossDetectionTimer.ledger = c.ledger := rfl

theorem sampleRtt_ledger (outcome : AckOutcome) (largest delay : Nat) (now : Time) :
    (c.sampleRtt idx outcome largest delay now).ledger = c.ledger := by
  simp only [sampleRtt]
  split
  · split <;> rfl
  · rfl

theorem onPacketsAcked_ledger (acked : List SentPacket) (now : Time) :
    (c.onPacketsAcked acked now).ledger = { c.ledger with
          inFlight := c.ledger.inFlight - (acked.map (·.weight)).sum } := by
  rw [sum_weight_eq]
  simp only [onPacketsAcked]
  split
  · rename_i hempty
    rw [List.isEmpty_iff, List.map_eq_nil_iff] at hempty
    rw [hempty]
    rfl
  · simp only [ledger, CongestionController.onPacketsAcked_bytesInFlight, List.map_map]
    rfl

theorem resetProbes_ledger : c.resetProbes.ledger = c.ledger := rfl

theorem onFrameAcked_ledger (c : Connection P) (frame : SentFrame) :
    (onFrameAcked now c frame).ledger = c.ledger := by
  cases frame <;> rfl

/-- A change of a space that is not to its numbers and does not add or remove keys, nor
change those of the Initial space. -/
theorem setSpace_ledger (kind : SpaceKind) (space : PacketSpace P)
    (hnext : space.nextPacketNumber = (c.spaces.get kind).nextPacketNumber)
    (hkeys : space.hasKeys = (c.spaces.get kind).hasKeys)
    (hinitial : kind = .initial → space.localKeys = (c.spaces.get kind).localKeys) :
    ({ c with spaces := c.spaces.set kind space } : Connection P).ledger = c.ledger := by
  have hmap : (c.spaces.set kind space).map (·.nextPacketNumber)
      = c.spaces.map (·.nextPacketNumber) := PerSpace.map_set_of_eq hnext
  have happ : (c.spaces.set kind space).application.hasKeys = c.spaces.application.hasKeys := by
    cases kind with
    | application => exact hkeys
    | _ => rfl
  have hlocal : (c.spaces.set kind space).initial.localKeys = c.spaces.initial.localKeys := by
    cases kind with
    | initial => exact hinitial rfl
    | _ => rfl
  simp only [ledger, hmap, happ, hlocal]

theorem processAck_moves {packetType : PacketType}
    {largest delay firstRange : Nat} {ranges : List AckRange}
    (h : .received packetType (.ack largest delay firstRange ranges) ∈ c.trace) :
    Moves c.ledger (c.processAck now packetType largest delay firstRange ranges).ledger := by
  have htakes := (c.sentPackets.get (spaceIndex packetType)).onAck_takes largest firstRange
    (ranges.map fun r => (r.gap, r.range))
  have hspace := setSpace_ledger c (spaceIndex packetType)
    ((c.spaces.get (spaceIndex packetType)).onAckReceived largest) rfl rfl fun _ => rfl
  have hcovers : ∀ p ∈ ((c.sentPackets.get (spaceIndex packetType)).onAck largest firstRange
      (ranges.map fun r => (r.gap, r.range))).2.newlyAcked,
      ∃ pn, (c.sentPackets.get (spaceIndex packetType)).sent.get? pn = some p ∧
        Acknowledged c.trace (spaceIndex packetType) pn := by
    intro p hp
    obtain ⟨pn, hget, hcover⟩ := SentPackets.onAck_covers hp
    exact ⟨pn, hget, packetType, largest, delay, firstRange, ranges, h, rfl, hcover⟩
  simp only [processAck]
  generalize hacked : (c.sentPackets.get (spaceIndex packetType)).onAck largest firstRange
    (ranges.map fun r => (r.gap, r.range)) = acked at htakes hcovers
  -- the space and the record of sent packets change first
  have hfirst : ({ c with
      spaces := c.spaces.set (spaceIndex packetType)
        ((c.spaces.get (spaceIndex packetType)).onAckReceived largest)
      sentPackets := c.sentPackets.set (spaceIndex packetType) acked.1 } : Connection P).ledger
      = { c.ledger with stores := c.sentPackets.set (spaceIndex packetType) acked.1 } :=
    congrArg (fun l : Ledger P =>
      { l with stores := c.sentPackets.set (spaceIndex packetType) acked.1 }) hspace
  split
  · rename_i hempty
    rw [List.isEmpty_iff] at hempty
    rw [hempty] at htakes
    exact .trans (.single (Move.ack c.ledger _ htakes nofun)) (.of_eq hfirst)
  refine .trans (.single (Move.ack c.ledger _ htakes hcovers)) ?_
  rw [setLossDetectionTimer_ledger]
  refine .trans (.of_eq ?_) (detectAndHandleLoss_moves _ _ now)
  rw [foldl_kept (onFrameAcked_ledger now)]
  split
  · rw [resetProbes_ledger, logAll_ledger, onPacketsAcked_ledger, sampleRtt_ledger, hfirst]
    rfl
  · rw [logAll_ledger, onPacketsAcked_ledger, sampleRtt_ledger, hfirst]
    rfl

theorem requeueOldest_moves : Moves c.ledger (c.requeueOldest idx).ledger := by
  simp only [requeueOldest]
  split
  · exact .refl _
  · rw [requeue_foldl_ledger (requeueFrame_ledger · idx)]
    exact .single (.requeue c.ledger _)

theorem requeueForProbe_moves : Moves c.ledger c.requeueForProbe.ledger :=
  ((requeueOldest_moves c _).trans (requeueOldest_moves _ _)).trans (requeueOldest_moves _ _)

theorem onProbeTimeout_moves : Moves c.ledger c.onProbeTimeout.ledger := by
  simp only [onProbeTimeout]
  split
  · exact requeueForProbe_moves { c with recovery := { c.recovery with
      loss := c.recovery.loss.increasePtoCount
      probesOwed := min (c.recovery.probesOwed + 2) 4 } }
  · exact .refl _

theorem onLossTimeout_moves : Moves c.ledger (c.onLossTimeout now).ledger := by
  simp only [onLossTimeout]
  split
  · split
    · exact detectAndHandleLoss_moves c _ now
    · exact onProbeTimeout_moves c
  · exact onProbeTimeout_moves c

/-! ## The application's calls -/

theorem openBidi_moves : Moves c.ledger c.openBidi.1.ledger := by
  simp only [openBidi]
  split
  · exact .of_eq rfl
  · exact .single (.open c.ledger .bidirectional)

theorem openUni_moves : Moves c.ledger c.openUni.1.ledger := by
  simp only [openUni]
  split
  · exact .of_eq rfl
  · exact .single (.open c.ledger .unidirectional)

variable (errorCode : Nat) (data : Bytes)

variable (fin : Bool)

theorem sendStream_moves : Moves c.ledger (c.sendStream stream data fin).1.ledger := by
  simp only [sendStream]
  split
  · exact .refl _
  · rename_i s hs
    exact .single (.write c.ledger data fin hs)

theorem readStream_moves : Moves c.ledger (c.readStream stream).1.ledger := by
  simp only [readStream]
  split
  · exact .refl _
  rename_i s hs
  have hread : Move c.ledger { c.ledger with inbound := { c.inbound with
      streams := c.inbound.streams.insert stream s.readChecked.1 } } :=
    .deliver c.ledger (.turn hs .read)
  split
  · exact .single hread
  · split <;> exact .single hread

theorem pollReadable_moves : Moves c.ledger c.pollReadable.1.ledger := by
  simp only [pollReadable]
  split
  · exact .refl _
  · exact .single (.deliver c.ledger (.notify _))

theorem pollNewPeerStream_moves : Moves c.ledger c.pollNewPeerStream.1.ledger := by
  simp only [pollNewPeerStream]
  split
  · exact .refl _
  · rename_i h
    exact .single (.deliver c.ledger (.surface h))

theorem resetStream_moves : Moves c.ledger (c.resetStream stream errorCode).1.ledger := by
  simp only [resetStream]
  split
  · exact .refl _
  · exact .single (.reset c.ledger stream _)

theorem stopSending_ledger : (c.stopSending stream errorCode).1.ledger = c.ledger := by
  simp only [stopSending]
  split <;> rfl

theorem close_ledger (reason : Bytes) : (c.close errorCode reason).ledger = c.ledger := by
  simp only [close]
  split <;> rfl

theorem acts_of_route {c d : Connection P}
    (h : d.ledger = { c.ledger with route := d.path.route }) : Acts c.ledger d.ledger := by
  rw [h]
  exact .single (.reroute _ _)

end Connection

end OxiQuic
