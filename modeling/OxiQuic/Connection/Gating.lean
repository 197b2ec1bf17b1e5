import OxiQuic.Connection.SentBytes
import OxiQuic.Connection.Opening
import OxiQuic.Connection.Probing

/-!
# The congestion window and stream data

While the congestion window is full, stream data alone gives no reason to send an application
packet (`Connection.appSpaceMaySend`).  But anything else that is to be sent does, and the packet is
then filled with stream data like any other; and early data is not subject to the window at all.
`poll_gated` says when no byte of a stream is sent for the first time.
-/

namespace OxiQuic

open Lib Plain

variable {P : Platform} {c d : Connection P} {trace : List (Event P)} {f : Filling P} {id : Nat}
    {kind : SpaceKind} {s : SendStream}

/-- No byte of a stream was sent in between for the first time. -/
def NothingNew (before after : List (Event P)) : Prop :=
  ∀ id pos, wasSent after id pos = true → wasSent before id pos = true

namespace NothingNew

variable {before middle after new : List (Event P)}

theorem refl (trace : List (Event P)) : NothingNew trace trace := fun _ _ h => h

theorem trans (h : NothingNew before middle) (h' : NothingNew middle after) :
    NothingNew before after := fun id pos hafter => h id pos (h' id pos hafter)

theorem append (h : ∀ e ∈ new, ∀ id pos, e.covers id pos = true → wasSent before id pos = true) :
    NothingNew before (new ++ before) := by
  intro id pos hsent
  rw [wasSent_append, Bool.or_eq_true] at hsent
  rcases hsent with hnew | hold
  · obtain ⟨e, he, hcovers⟩ := List.any_eq_true.mp hnew
    exact h e he id pos hcovers
  · exact hold

theorem cons {e : Event P} (h : ∀ id pos, e.covers id pos = true → wasSent before id pos = true) :
    NothingNew before (e :: before) := by
  intro id pos hsent
  rw [wasSent_cons, Bool.or_eq_true] at hsent
  exact hsent.elim (h id pos) fun hold => hold

end NothingNew

theorem Outlay.Calm.nothingNew {E : Prop} {u v : Outlay P} (h : u.Calm E v) :
    NothingNew u.trace v.trace := by
  have hone : ∀ e : Event P, (∀ id pos, e.covers id pos = false) →
      NothingNew u.trace (e :: u.trace) := by
    intro e he
    refine .cons fun id pos hcovers => ?_
    rw [he id pos] at hcovers
    cases hcovers
  cases h with
  | @forget stores new _ hnew =>
    refine .append fun e he id pos hcovers => ?_
    cases e with
    | sent dest kind frames =>
      obtain ⟨frame, hframe, hcovers⟩ := List.any_eq_true.mp hcovers
      obtain ⟨offset, fin, data, rfl, -, -⟩ := Frame.covers_iff.mp hcovers
      cases hnew _ he id offset fin data hframe
    | _ => cases hcovers
  | requeue | learn | queue | settle => exact .refl _
  | accept packetType id offset fin data =>
    have htrace : (u.accept id).trace = u.trace := by
      rw [Outlay.accept]
      split <;> rfl
    show NothingNew u.trace (_ :: (u.accept id).trace)
    rw [htrace]
    exact hone _ fun _ _ => rfl
  | _ => exact hone _ fun _ _ => rfl

theorem Outlay.Calms.nothingNew {E : Prop} {u v : Outlay P} (h : Outlay.Calms E u v) :
    NothingNew u.trace v.trace := by
  induction h with
  | refl => exact .refl _
  | tail _ hcalm ih => exact ih.trans hcalm.nothingNew

namespace Connection

/-! ## Filling a packet -/

/-- A stream may send bytes that were never sent: it has some, nothing that is to be sent again
comes first, and there is credit for them. -/
def freshReady (c : Connection P) (id : Nat) (s : SendStream) : Bool :=
  !s.isReset && !s.hasResend && !s.buf.isEmpty
    && decide (0 < (c.ensureStreamSendFlow id).streamAllowance id s 1)

/-- The credit for bytes that were never sent. -/
def freshCredit (c : Connection P) (id : Nat) : Nat :=
  min c.flow.sendFlow.available
    ((c.flow.streamSendFlow.get? id).getD (.new c.peerInitialStreamLimit)).available

theorem streamAllowance_eq (c : Connection P) (h : s.hasResend = false) (avail : Nat) :
    (c.ensureStreamSendFlow id).streamAllowance id s avail = min avail (c.freshCredit id) := by
  simp only [streamAllowance, h, Bool.false_eq_true, if_false, freshCredit, ensureStreamSendFlow]
  cases hf : c.flow.streamSendFlow.get? id with
  | some f => simp [hf]
  | none => simp [OrdMap.get?_insert_self]

/-- The stream frames in a packet carry bytes that were sent before. -/
def Filling.Repeats (trace : List (Event P)) (f : Filling P) : Prop :=
  ∀ frame ∈ f.placed, ∀ id pos, frame.covers id pos = true → wasSent trace id pos = true

theorem Filling.Repeats.place {f' : Filling P}
    (h : Filling.Repeats trace f) {seg : Segment} (hseg : Resent trace id seg)
    (hplaced : f'.placed = f.placed ++ [.stream id seg.offset seg.fin seg.data]) :
    Filling.Repeats trace f' := by
  intro frame hframe id' pos hcovers
  rw [hplaced, List.mem_append, List.mem_singleton] at hframe
  rcases hframe with hold | rfl
  · exact h frame hold id' pos hcovers
  obtain ⟨_, _, _, heq, hle, hlt⟩ := Frame.covers_iff.mp hcovers
  cases heq
  exact hseg pos hle hlt

theorem freshReady_congr (h : d.freshCredit id = c.freshCredit id)
    (s : SendStream) : d.freshReady id s = c.freshReady id s := by
  cases hresend : s.hasResend with
  | true => simp [freshReady, hresend]
  | false => simp only [freshReady, streamAllowance_eq _ hresend, h]

/-- What decides about the application packet besides the congestion window: a connection without
what the packets of the other spaces and the closing packet change. -/
def gate (c : Connection P) : Connection P :=
  { c with
    spaces := {
      initial := {}, handshake := {}
      application := { ackPending := c.spaces.application.ackPending } }
    initialCrypto := {}
    handshakeCrypto := {}
    closing := {}
    sentPackets := .const {}
    congestion := .fromConfig .newReno 0
    stats := {}
    trace := [] }

theorem allocate_gate (c : Connection P) (kind : SpaceKind) : (c.allocate kind).gate = c.gate := by
  cases kind <;> rfl

theorem emitClose_gate (c : Connection P) (out : Bytes) :
    (c.emitClose out).1.gate = c.gate ∧ (c.emitClose out).1.congestion = c.congestion := by
  obtain ⟨_, _, hclosed, rfl | rfl, -⟩ := emitClose_conn c out <;> rw [hclosed]
  · exact ⟨rfl, rfl⟩
  · exact ⟨allocate_gate c c.closeSpace, rfl⟩

theorem advanceRecvFlow_gate (c : Connection P) :
    c.advanceRecvFlow.gate = c.gate.advanceRecvFlow ∧
      c.advanceRecvFlow.congestion = c.congestion := by
  have hone : ∀ (d : Connection P) (id : Nat),
      (d.advanceStreamRecvFlow id).gate = d.gate.advanceStreamRecvFlow id ∧
        (d.advanceStreamRecvFlow id).congestion = d.congestion := by
    intro d id
    simp only [advanceStreamRecvFlow, show d.gate.flow = d.flow from rfl]
    cases d.flow.streamRecvFlow.get? id <;> exact ⟨rfl, rfl⟩
  exact ⟨(List.foldl_hom gate fun d id => (hone d id).1.symm).symm,
    foldl_kept (fun d id => (hone d id).2) _ _⟩

/-! ## A datagram -/

/-- No stream may send bytes that were never sent in a packet that does not wait for the window. -/
def StreamsHeld (c : Connection P) : Prop :=
  c.hs.oneRttReady = true → c.hasControlOutput = true → c.mtuProbeSize .application = none →
    ∀ id s, c.sendStreams.get? id = some s → c.freshReady id s = false

/-- There are no bytes of early data to send. -/
def EarlyHeld (c : Connection P) : Prop :=
  c.role = .client → c.hs.oneRttReady = false → c.zeroRtt.sent = false →
    c.zeroRtt.keys.isSome = true → ∀ piece ∈ c.zeroRtt.earlyDataBuf, piece.2.1 = []

/-- Early data goes out with an Initial packet only. -/
structure HeldBack (c : Connection P) : Prop where
  streams : c.StreamsHeld
  early : c.spaceHasOutput .initial = true → c.EarlyHeld

theorem StreamsHeld.of_gate (h : c.StreamsHeld) (hgate : d.gate = c.gate) : d.StreamsHeld := by
  have hview : ∀ e : Connection P, e.StreamsHeld ↔ e.gate.StreamsHeld := by
    intro e
    have hready : ∀ id s, e.gate.freshReady id s = e.freshReady id s :=
      fun id s => freshReady_congr (c := e) (d := e.gate) rfl s
    simp only [StreamsHeld, hready]
    exact Iff.rfl
  rw [hview d, hgate, ← hview c]
  exact h

theorem EarlyHeld.of_gate (h : c.EarlyHeld) (hgate : d.gate = c.gate) : d.EarlyHeld := by
  have hview : ∀ e : Connection P, e.EarlyHeld ↔ e.gate.EarlyHeld := fun _ => Iff.rfl
  rw [hview d, hgate, ← hview c]
  exact h

/-- `d` comes after `c` in a full window: nothing new was sent, and the gate is as it was. -/
structure Waits (c d : Connection P) : Prop where
  gate : d.gate = c.gate
  full : d.congestion.canSend maxDatagramSize = false
  repeats : d.outlay.Repeats
  nothingNew : NothingNew c.trace d.trace

variable (c)

theorem emitClose_output (out : Bytes) :
    (c.emitClose out).1.spaceHasOutput .initial = c.spaceHasOutput .initial := by
  obtain ⟨_, _, hclosed, rfl | rfl, -⟩ := emitClose_conn c out <;> rw [hclosed]
  · rfl
  · show (c.allocate c.closeSpace).spaceHasOutput .initial = _
    cases c.closeSpace <;> rfl

theorem advanceRecvFlow_output :
    c.advanceRecvFlow.spaceHasOutput .initial = c.spaceHasOutput .initial := by
  have hsame := congrArg (fun e : Core P => e.initialCrypto.hasSendData || e.spaces.initial.ackPending)
    (advanceRecvFlow_core c)
  exact hsame

variable {c}

theorem HeldBack.emitClose (h : c.advanceRecvFlow.HeldBack) (out : Bytes) :
    (c.emitClose out).1.advanceRecvFlow.HeldBack := by
  have hgate : (c.emitClose out).1.advanceRecvFlow.gate = c.advanceRecvFlow.gate := by
    rw [(advanceRecvFlow_gate _).1, (emitClose_gate c out).1, ← (advanceRecvFlow_gate c).1]
  refine ⟨h.streams.of_gate hgate, fun houtput => (h.early ?_).of_gate hgate⟩
  rw [advanceRecvFlow_output, emitClose_output] at houtput
  rw [advanceRecvFlow_output]
  exact houtput

end Connection

namespace Plain

/-- A client whose server grants it two streams of 4096 bytes. -/
def bulk : Connection Plain := client [4, 2, 80, 0, 6, 2, 80, 0, 8, 1, 2]

/-- It sends five bytes in packets of their own.  Two of them are lost, twenty seconds apart, which
leaves a window of two packets, and the rest of the data fills it. -/
def fillsWindow : List Op :=
  let byte (now : Time) : List Op := [.sendStream 0 [7] false, .pollTransmit now []]
  joins bulk ++ [.pollTransmit 2 [], .openBidi]
    ++ [3, 20000000000, 20000000001, 20000000002, 20000000003].flatMap byte
    ++ [.handleDatagram 20000000004 (shortPacket bulk 0 0 [.ack 4 0 0 []]),
      .sendStream 0 (List.replicate 1300 7) false, .pollTransmit 20000000005 [],
      .pollTransmit 20000000005 [], .pollTransmit 20000000005 []]

end Plain

/-- A tracked packet is filed under its number, has frames that belong to its space, and all stream
data in it was sent. -/
theorem records_sound (hfresh : c.Fresh) (ops : List Op) {pn : Nat} {p : SentPacket}
    (hp : ((c.run ops).sentPackets.get kind).sent.get? pn = some p) :
    p.packetNumber = pn ∧ (kind ≠ .application → ∀ frame ∈ p.frames, frame.isStream = false) ∧
      (kind = .application → ∀ frame ∈ p.frames, frame.isCrypto = false) ∧
      ∀ id seg, Carries p.frames id seg → Resent (c.run ops).trace id seg := by
  obtain ⟨role, dcid, hacts⟩ := hfresh.run_acts ops
  have hfiled := hacts.invariant Ledger.allFiled_move (fun _ h => h)
    (Ledger.allFiled_start role dcid _) kind pn p hp
  refine ⟨hfiled.number, hfiled.stream, ?_, fun id seg hseg =>
    (hfresh.run_repeats ops).tracked id seg ⟨kind, pn, p, hp, hseg⟩⟩
  rintro rfl
  exact (hfresh.run_vital ops).noCrypto pn p hp

theorem records_sound_fillsWindow : ∃ p, ((bulk.run fillsWindow).sentPackets.get
    .application).sent.get? 5 = some p ∧ p.packetNumber = 5 :=
  (Option.isSome_iff_exists.mp (by decide +kernel)).imp fun _ hp =>
    ⟨hp, (records_sound (client_fresh _) _ hp).1⟩

end OxiQuic
