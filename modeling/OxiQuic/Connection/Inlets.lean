import OxiQuic.Connection.Core
import OxiQuic.Connection.Dealings
import OxiQuic.PlainPlatform
import OxiQuic.Stream.Completeness

/-!
# CRYPTO bytes that arrive

The CRYPTO stream of the Initial and that of the Handshake level are what the reassembler makes of
the CRYPTO frames that were taken in at the level, for the Initial level since the last Retry
(`Inlet`).  So all their bytes are handed to TLS or kept for it.  There is no such stream for 0-RTT
and 1-RTT packets: their CRYPTO frames are taken in, and dropped, and 1-RTT packets carry none.
-/

namespace OxiQuic

open Lib Plain

variable {P : Platform} {c d : Connection P}

/-! ## What was heard -/

/-- What the reassembler of a kind of packets makes of the history, newest first. -/
def reassembled (packetType : PacketType) : List (Event P) → Reassembler UInt8
  | [] => ⟨0, ∅⟩
  | .received packetType' (.crypto offset data) :: rest =>
    if packetType' = packetType then ((reassembled packetType rest).accept offset data).1
    else reassembled packetType rest
  | .retried .. :: rest => if packetType = .initial then ⟨0, ∅⟩ else reassembled packetType rest
  | _ :: rest => reassembled packetType rest

/-- Whether an event concerns the CRYPTO streams. -/
def Event.isInlet : Event P → Bool
  | .received _ (.crypto _ _) => true
  | .retried .. => true
  | _ => false

theorem reassembled_cons {e : Event P} (h : e.isInlet = false) (packetType : PacketType)
    (rest : List (Event P)) : reassembled packetType (e :: rest) = reassembled packetType rest := by
  cases e with
  | received packetType' frame =>
    cases frame with
    | crypto offset data => cases h
    | _ => rfl
  | retried => cases h
  | _ => rfl

theorem reassembled_append {new : List (Event P)} (h : ∀ e ∈ new, e.isInlet = false)
    (packetType : PacketType) (rest : List (Event P)) :
    reassembled packetType (new ++ rest) = reassembled packetType rest :=
  append_ignored (fun e he => reassembled_cons (h e he) packetType) rest

namespace Connection

/-- The CRYPTO streams are what the reassembler makes of the history. -/
structure Inlet (c : Connection P) : Prop where
  initial : c.initialCrypto.reassembler = reassembled .initial c.trace
  handshake : c.handshakeCrypto.reassembler = reassembled .handshake c.trace

/-- Nothing concerns what the CRYPTO streams receive. -/
structure Deaf (c d : Connection P) : Prop where
  initial : d.initialCrypto.reassembler = c.initialCrypto.reassembler
  handshake : d.handshakeCrypto.reassembler = c.handshakeCrypto.reassembler
  trace : ∃ new, d.trace = new ++ c.trace ∧ ∀ e ∈ new, e.isInlet = false

theorem Inlet.deaf (h : c.Inlet) (hdeaf : Deaf c d) : d.Inlet := by
  obtain ⟨hinitial, hhandshake, new, htrace, hnew⟩ := hdeaf
  refine ⟨?_, ?_⟩
  · rw [hinitial, htrace, reassembled_append hnew, h.initial]
  · rw [hhandshake, htrace, reassembled_append hnew, h.handshake]

theorem Deaf.of_eq (hinitial : d.initialCrypto = c.initialCrypto)
    (hhandshake : d.handshakeCrypto = c.handshakeCrypto) (htrace : d.trace = c.trace) : Deaf c d :=
  ⟨congrArg _ hinitial, congrArg _ hhandshake, [], htrace, List.forall_mem_nil _⟩

/-- The bytes of the handshake that were received. -/
def reassemblers (c : Connection P) : Reassembler UInt8 × Reassembler UInt8 :=
  (c.initialCrypto.reassembler, c.handshakeCrypto.reassembler)

theorem Notes.deaf (h : Notes c d) (hsame : d.reassemblers = c.reassemblers) : Deaf c d := by
  obtain ⟨new, htrace, hnew⟩ := h
  refine ⟨congrArg Prod.fst hsame, congrArg Prod.snd hsame, new, htrace, fun e he => ?_⟩
  have hnote := hnew e he
  cases e with
  | received | retried => cases hnote
  | _ => rfl

variable (c)

variable {c}

theorem takesSend_reassembler {s s' : CryptoStream} {max : Nat} {seg : CryptoSegment}
    (h : s.Takes max s' seg) : s'.reassembler = s.reassembler := by
  cases h <;> rfl

theorem FillStep.reassemblers {kind : SpaceKind} {budget : Nat} {f f' : Filling P}
    (h : FillStep kind budget f f') :
    f'.conn.reassemblers = f.conn.reassemblers := by
  cases h with
  | crypto hstream htakes =>
    cases kind with
    | initial =>
      obtain rfl := Option.some.inj hstream
      exact congrArg (·, _) (takesSend_reassembler htakes)
    | handshake =>
      obtain rfl := Option.some.inj hstream
      exact congrArg (_, ·) (takesSend_reassembler htakes)
    | application => cases hstream
  | mtuProbe =>
    simp only [fillMtuProbe]
    split <;> rfl
  | streamFlow | stream | connectionBlocked | streamBlocked =>
    simp only [ensureStreamSendFlow, Filling.placeRecorded, Filling.place, chargeFlow,
      noteBlockedConnection, noteBlockedStream]
    repeat' split
    all_goals rfl
  | @maxStreams dir max _ _ => cases dir <;> rfl
  | @streamsBlocked dir limit _ _ => cases dir <;> rfl
  | _ => rfl

theorem Writes.unheard (h : Writes c d) :
    ∃ new, d.trace = new ++ c.trace ∧ ∀ e ∈ new, e.isInlet = false := by
  cases h with
  | same hsame => exact ⟨[], congrArg Dealings.trace hsame, List.forall_mem_nil _⟩
  | close new hd hnew =>
    refine ⟨new, congrArg Dealings.trace hd, fun e he => ?_⟩
    rcases hnew e he with ⟨label, key, pn, rfl⟩ | ⟨dest, kind, frame, hframe, rfl⟩ <;> rfl
  | early new _ hd hnew =>
    refine ⟨new, congrArg Dealings.trace hd, fun e he => ?_⟩
    rcases hnew e he with ⟨label, key, pn, rfl⟩ | ⟨dest, rfl⟩ <;> rfl
  | fill kind budget f hfills hseals =>
    obtain ⟨stores, new, hd, hnew, -⟩ := hseals
    refine ⟨new, (congrArg Dealings.trace hd).trans ?_, fun e he => ?_⟩
    · exact congrArg (new ++ ·) (Fills.keeps hfills).1
    · rcases hnew e he with ⟨label, key, pn, rfl⟩ | ⟨dest, rfl⟩ <;> rfl

theorem Writes.deaf (h : Writes c d) (hsame : d.reassemblers = c.reassemblers) : Deaf c d :=
  ⟨congrArg Prod.fst hsame, congrArg Prod.snd hsame, h.unheard⟩

theorem Inlet.crypto (h : c.Inlet) (now : Time) (packetType : PacketType)
    (offset : Nat) (data : Bytes) : (c.takeFrame now packetType (.crypto offset data)).1.Inlet := by
  have htaken : ((c.log (.received packetType (.crypto offset data))).takeCrypto packetType offset
      data).1.Inlet := by
    cases packetType with
    | initial =>
      refine ⟨?_, h.handshake⟩
      show (c.initialCrypto.reassembler.accept offset data).1 = _
      rw [h.initial]
      rfl
    | handshake =>
      refine ⟨h.initial, ?_⟩
      show (c.handshakeCrypto.reassembler.accept offset data).1 = _
      rw [h.handshake]
      rfl
    | _ => exact ⟨h.initial, h.handshake⟩
  simp only [takeFrame, handleFrame, recvCrypto]
  split
  · exact htaken
  · exact ⟨htaken.initial, htaken.handshake⟩

theorem Inlet.retry (h : c.Inlet) (datagram : Bytes) (offset : Nat) :
    (c.recvRetryPacket datagram offset).1.Inlet := by
  simp only [recvRetryPacket]
  split
  · exact h
  · exact ⟨rfl, h.handshake⟩

end Connection

namespace Plain

end Plain

end OxiQuic
