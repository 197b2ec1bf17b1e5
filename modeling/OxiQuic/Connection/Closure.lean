import OxiQuic.Connection.Dealings
import OxiQuic.Connection.Outlay
import OxiQuic.Connection.Settling

/-!
# The end of a connection

A connection goes from handshaking through established and closing to closed, and never back.
When packets can be sealed, the first poll of a closing connection sends the close and nothing
else, and a closed connection sends nothing (`lifecycle_monotone`).

What closes a connection is the application or the peer.  An error of a received frame is returned
to the caller of `handle_datagram`, who is the only one to learn of it: the close of the transport
is never pending, so that no packet carries one (`fatal_error_signalled_iff`).
-/

namespace OxiQuic

open Lib Plain

variable {P : Platform} {c : Connection P} {d : Connection P} {op : Op} {out : Bytes}

namespace Connection

theorem Writes.transportClose (h : Writes c d)
    (hnone : c.closing.pendingTransportClose = none) : d.closing.pendingTransportClose = none := by
  cases h with
  | same hsame => exact (congrArg Dealings.transportClose hsame).trans hnone
  | close new hd => exact congrArg Dealings.transportClose hd
  | early new _ hd => exact (congrArg Dealings.transportClose hd).trans hnone
  | fill kind budget f hfills hseals =>
    obtain ⟨stores, new, hd, -⟩ := hseals
    have hkept := congrArg (fun b => b.2.2.2) (Fills.keeps hfills).2
    exact (congrArg Dealings.transportClose hd).trans (hkept.trans hnone)

theorem Deals.transportClose (h : Deals c d op)
    (hnone : c.closing.pendingTransportClose = none) : d.closing.pendingTransportClose = none := by
  have hbooks : d.books.2.2 = c.books.2.2 → d.closing.pendingTransportClose = none :=
    fun hsame => (congrArg Prod.snd hsame).trans hnone
  cases h with
  | same hsame => exact (congrArg Dealings.transportClose hsame).trans hnone
  | call hdeal hd => exact hbooks (hd ▸ congrArg (fun b => b.2.2) (step_books c hdeal))
  | learn hd => exact hbooks (hd ▸ learnPeerParams_books c)
  | replay early hd =>
    subst hd
    exact hnone
  | retry now datagram oldDcid newDcid outstanding hd | hear now datagram packetType frame _ hd =>
    exact (congrArg Dealings.transportClose hd).trans hnone
  | frame now datagram packetType frame hdeal hd =>
    exact hbooks (hd ▸ congrArg (fun b => b.2.2) (takeFrame_books c now packetType hdeal))
  | recover hrecover =>
    have hclosing : d.closing = c.closing := by
      refine hrecover (fun e => e.closing = c.closing) ?_ rfl
      refine ⟨fun _ _ _ _ _ h => h, fun _ _ h => h, fun _ _ _ _ _ h => h, fun _ _ _ h => h,
        fun _ _ _ h => h, fun _ _ frame _ h => ?_⟩
      cases frame with
      | crypto | newToken =>
        simp only [requeueFrame]
        split <;> exact h
      | _ => exact h
    exact (congrArg Closing.pendingTransportClose hclosing).trans hnone
  | write now out hwrites => exact hwrites.transportClose hnone

end Connection

/-- A close that the transport sends itself. -/
def Frame.isTransportClose : Frame → Bool
  | .connectionClose _ _ application _ => !application
  | _ => false

namespace Connection

variable {addr : SocketAddr} {kind : SpaceKind} {frame : Frame}

theorem Fills.placed_open {budget : Nat} {f : Filling P}
    (h : Fills kind budget { conn := c } f) (hframe : frame ∈ f.placed) :
    frame.isTransportClose = false := by
  have hdealt : ∀ frame ∈ f.dealt.1, frame.isTransportClose = false := by
    refine Fills.tells (I := fun g => ∀ frame ∈ g.dealt.1, frame.isTransportClose = false) ?_ h
      (List.forall_mem_nil _)
    intro g g' hg htells
    cases htells with
    | none _ hsame | streamsBlocked dir _ hsame => exact hsame ▸ hg
    | reset id errorCode finalSize _ _ hplaced
    | maxStreams dir max _ _ hplaced
    | stream id _ _ _ _ hplaced =>
      rw [hplaced]
      exact List.forall_mem_append.mpr ⟨hg, List.forall_mem_singleton.mpr rfl⟩
  cases hclose : frame.isDealt with
  | true => exact hdealt frame (List.mem_filter.mpr ⟨hframe, hclose⟩)
  | false =>
    cases frame with
    | connectionClose => cases hclose
    | _ => rfl

theorem takeClose_frame (hnone : c.closing.pendingTransportClose = none) :
    c.takeClose.2 = c.closing.pendingClose.map fun p => .connectionClose p.1 none true p.2 := by
  simp only [takeClose, hnone]
  cases c.closing.pendingClose <;> rfl

theorem Sends.no_transportClose {frames : List Frame} (h : Sends c kind frames)
    (hnone : c.closing.pendingTransportClose = none) :
    ∀ frame ∈ frames, frame.isTransportClose = false := by
  cases h with
  | close kind frame hframe =>
    rw [takeClose_frame hnone, Option.map_eq_some_iff] at hframe
    obtain ⟨p, -, rfl⟩ := hframe
    exact List.forall_mem_singleton.mpr rfl
  | early =>
    intro frame hframe
    obtain ⟨_, _, rfl⟩ := List.mem_map.mp hframe
    rfl
  | fill kind budget f hfills => exact fun frame hframe => Fills.placed_open hfills hframe

/-- No close of the transport is pending, and none was sent. -/
def NeverCloses (c : Connection P) : Prop :=
  c.closing.pendingTransportClose = none ∧
    ∀ p ∈ c.packets, ∀ frame ∈ p.2.2, frame.isTransportClose = false

theorem Fresh.run_neverCloses (hfresh : c.Fresh) (ops : List Op) : (c.run ops).NeverCloses :=
  run_deals (fun h hdeals => ⟨hdeals.transportClose h.1,
      hdeals.packets_forall (fun hsends => hsends.no_transportClose h.1) h.2⟩)
    (by cases hfresh <;> exact ⟨rfl, List.forall_mem_nil _⟩) ops

/-! ## The close of the application -/

theorem Updates.packets (hop : ∀ now out, op ≠ .pollTransmit now out)
    (h : Updates op c d) : d.packets = c.packets := by
  refine h.invariant (I := fun e => e.packets = c.packets) (fun he hupdate => ?_) rfl
  refine hupdate.deals.invariant (I := fun e => e.packets = c.packets) (fun he hdeals => ?_) he
  rcases hdeals.sends with hsilent | ⟨⟨now, out, hpoll⟩, -⟩
  · exact hsilent.packets.trans he
  · exact absurd hpoll (hop now out)

theorem pumpWriteHs_packets (c : Connection P) : c.pumpWriteHs.packets = c.packets :=
  (pumpWriteHs_updates .takeReceivedToken c).packets fun _ _ h => (by cases h)

theorem emitClose_packets (hframe : c.takeClose.2 = some frame)
    (haddr : (c.emitClose out).2.2 = some addr) :
    (c.emitClose out).1.packets = (addr, c.closeSpace, [frame]) :: c.packets := by
  have htrace : c.takeClose.1.trace = c.trace := congrArg Dealings.trace (takeClose_dealings c)
  have hpackets : c.takeClose.1.packets = c.packets := congrArg (List.filterMap Event.packet) htrace
  simp only [emitClose, hframe] at haddr ⊢
  generalize c.takeClose.1 = d at haddr hpackets
  rw [← hpackets]
  split at haddr
  · cases haddr
  rename_i keys hkeys
  split at haddr
  · cases haddr
  rename_i hbuilt
  cases haddr
  rfl

end Connection

/-- Stream data that is sent or taken in. -/
def Event.carriesStream : Event P → Bool
  | .sent _ _ frames => frames.any Frame.isStream
  | .received _ frame => frame.isStream
  | _ => false

namespace Connection

/-- A fatal error is signalled by a poll: it sends a close of the transport with the code of the
error, the connection is closed then, and streams carry nothing any more. -/
structure Signalled (c : Connection P) (code : TransportErrorCode) (now : Time) (out : Bytes) :
    Prop where
  sent : ∃ new, (c.pollTransmit now out).1.packets = new ++ c.packets ∧ ∃ p ∈ new,
    ∃ frameType reason, .connectionClose code.toU64 frameType false reason ∈ p.2.2
  closed : (c.pollTransmit now out).1.state = .closed
  quiet : ∀ ops, ((c.pollTransmit now out).1.run ops).trace.countP Event.carriesStream
    = (c.pollTransmit now out).1.trace.countP Event.carriesStream

theorem NeverCloses.not_signalled {code : TransportErrorCode} {now : Time}
    (h : (c.pollTransmit now out).1.NeverCloses) : ¬ c.Signalled code now out := by
  intro hsignalled
  obtain ⟨new, hpackets, p, hp, frameType, reason, hframe⟩ := hsignalled.sent
  cases h.2 p (hpackets ▸ List.mem_append_left _ hp) _ hframe

end Connection

/-- A poll after a fatal error never signals it: the errors of a datagram are signalled exactly if
there are none. -/
theorem fatal_error_signalled_iff {c : Connection P} (hfresh : c.Fresh) (ops : List Op)
    (now now' : Time) (datagram out : Bytes) :
    (∀ code frameType reason,
      ((c.run ops).handleDatagram now datagram).2 = .error (.transportError code frameType reason) →
      ((c.run ops).handleDatagram now datagram).1.Signalled code now' out) ↔
    ∀ code frameType reason, ((c.run ops).handleDatagram now datagram).2
      ≠ .error (.transportError code frameType reason) := by
  have hnever := hfresh.run_neverCloses
    (ops ++ [.handleDatagram now datagram, .pollTransmit now' out])
  simp only [Connection.run, run_append] at hnever
  constructor
  · intro h code frameType reason herror
    exact Connection.NeverCloses.not_signalled hnever (h code frameType reason herror)
  · exact fun h code frameType reason herror => absurd herror (h code frameType reason)

theorem fatal_error_signalled_ping :
    (((client []).run []).handleDatagram 0 (initialPacket (client []) 0
      [.ping, .padding 4])).2 = .ok () ∧ ∀ code frameType reason,
      ((client []).handleDatagram 0 (initialPacket (client []) 0
        [.ping, .padding 4])).2 = .error (.transportError code frameType reason) →
      ((client []).handleDatagram 0 (initialPacket (client []) 0
        [.ping, .padding 4])).1.Signalled code 0 [] := by
  have hok : (((client []).run []).handleDatagram 0 (initialPacket (client []) 0
      [.ping, .padding 4])).2 = .ok () := by
    decide +kernel
  refine ⟨hok, (fatal_error_signalled_iff (client_fresh []) [] 0 0 _ []).mpr ?_⟩
  intro code frameType reason herror
  rw [hok] at herror
  cases herror

namespace Plain

/-- A `NEW_CONNECTION_ID` frame in an Initial packet. -/
def misplacedCid : Bytes :=
  initialPacket (client []) 0 [.newConnectionId 1 0 [1, 2, 3, 4] (List.replicate 16 0)]

end Plain

/-- A client refuses a frame as a protocol violation.  The next poll sends no close, and the client
goes on with the handshake. -/
theorem violation_not_signalled :
    ((client []).handleDatagram 0 misplacedCid).2
      = .error (.transportError .protocolViolation (some .newConnectionId)
        "NEW_CONNECTION_ID received in non-1-RTT packet") ∧
    (((client []).handleDatagram 0 misplacedCid).1.pollTransmit 0 []).1.packets.any
      (fun p => p.2.2.any Frame.isTransportClose) = false ∧
    (((client []).handleDatagram 0 misplacedCid).1.pollTransmit 0 []).1.state
      = .handshaking := by
  decide +kernel

end OxiQuic
