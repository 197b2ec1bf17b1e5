import OxiQuic.Connection.State
import OxiQuic.Lib.Channel
import OxiQuic.Lib.Run
import OxiQuic.Wire.Packet

/-!
# The demultiplexer of a server

`run_server_demux` (`oxiquic-transport/src/endpoint/mod.rs`) forwards each datagram to the task of
one connection, by its destination CID.  A connection is named after the CID that the server draws
for it.  Addresses, the validation of Retry tokens and what comes of building a connection are
parameters.
-/

namespace OxiQuic

open Lib

/-- What a task tells the demultiplexer. -/
inductive RouteEvent where
  | register (cid : ConnectionId)
  | unregister (cid : ConnectionId)
  /-- The handshake of a client's first DCID is over. -/
  | initialRetired (dcid : Bytes)
  deriving DecidableEq

/-- The header of a client's first packet: version, DCID and SCID. -/
def clientInitialIds : Decoder (Nat × Bytes × Bytes) := do
  let version ← Buf.getU32
  let dcidLen ← Buf.getU8
  let dcid ← Buf.getBytes dcidLen.toNat
  let scidLen ← Buf.getU8
  let scid ← Buf.getBytes scidLen.toNat
  return (version, dcid, scid)

def parseClientInitialIds : Bytes → Option (Nat × Bytes × Bytes)
  | [] => none
  | first :: rest =>
    if first &&& 0x80 = 0 then none else (clientInitialIds rest).toOption.map Prod.fst

def parseInitialToken : Bytes → Option Bytes
  | [] => none
  | first :: rest =>
    if first &&& 0x80 = 0 ∨ first &&& 0x30 ≠ 0 then none
    else
      let decoder : Decoder Bytes := do
        let _ ← clientInitialIds
        let tokenLen ← Buf.getVarint
        Buf.getBytes tokenLen
      (decoder rest).toOption.map Prod.fst

/-- The destination CID that routes a datagram. -/
def dcidOf (datagram : Bytes) : Option Bytes :=
  (peekDcid datagram localCidLen).toOption.map Prod.snd

theorem parse_dcidOf {datagram dcid scid : Bytes} {version : Nat}
    (h : parseClientInitialIds datagram = some (version, dcid, scid)) :
    dcidOf datagram = some dcid := by
  cases datagram with
  | nil => cases h
  | cons first rest =>
    simp only [parseClientInitialIds, clientInitialIds, bind, StateT.bind] at h
    simp only [dcidOf, peekDcid, runDecoder, bind]
    by_cases hlong : first &&& 0x80 = 0
    · rw [if_pos hlong] at h
      cases h
    rw [if_neg hlong] at h ⊢
    cases hversion : Buf.getU32 rest with
    | error e => rw [hversion] at h; cases h
    | ok p =>
      simp only [hversion, Except.bind] at h ⊢
      cases hlen : Buf.getU8 p.2 with
      | error e => rw [hlen] at h; cases h
      | ok q =>
        simp only [hlen] at h ⊢
        cases hdcid : Buf.getBytes q.1.toNat q.2 with
        | error e => rw [hdcid] at h; cases h
        | ok r =>
          simp only [hdcid] at h ⊢
          cases hscidLen : Buf.getU8 r.2 with
          | error e => rw [hscidLen] at h; cases h
          | ok u =>
            simp only [hscidLen] at h
            cases hscid : Buf.getBytes u.1.toNat u.2 with
            | error e => rw [hscid] at h; cases h
            | ok v =>
              rw [hscid] at h
              cases h
              rfl

structure DemuxConfig (A : Type) where
  retryEnabled : Bool
  /-- The original DCID of a valid token. -/
  validateRetryToken : Bytes → A → Option Bytes

/-- The routing tables and the inbound channels.  The last three fields are the history. -/
structure Demux (A : Type) where
  initialMap : Bytes → Option Bytes := fun _ => none
  localCidMap : Bytes → Option Bytes := fun _ => none
  inbox : Bytes → Channel (Bytes × A) := fun _ => .new 16384
  /-- The datagrams forwarded, and to which task. -/
  placed : List (Bytes × Bytes × A) := []
  /-- The connections built, and for which DCID. -/
  created : List (Bytes × Bytes) := []
  /-- The original DCIDs and addresses that tokens were made for. -/
  issued : List (Bytes × A) := []

namespace Demux

variable {A : Type}

/-- `try_send` on the inbound channel of a task. -/
def forward (d : Demux A) (tx : Bytes) (datagram : Bytes × A) :
    Demux A × Except TrySendError Unit :=
  let sent := (d.inbox tx).trySend datagram
  ({ d with
      inbox := Function.update d.inbox tx sent.1
      placed := match sent.2 with
        | .ok () => d.placed ++ [(tx, datagram)]
        | .error _ => d.placed }, sent.2)

/-- Forward to the task that a server CID belongs to, and forget it if the task is gone. -/
def forwardLocal (d : Demux A) (cid tx : Bytes) (datagram : Bytes × A) : Demux A :=
  let sent := d.forward tx datagram
  if sent.2 = .error .closed then
    { sent.1 with localCidMap := Function.update d.localCidMap cid none }
  else sent.1

/-- Forward to the task of a client's first DCID, and forget it if the task is gone. -/
def forwardInitial (d : Demux A) (dcid tx : Bytes) (datagram : Bytes × A) : Demux A :=
  let sent := d.forward tx datagram
  if sent.2 = .error .closed then
    { sent.1 with initialMap := Function.update d.initialMap dcid none }
  else sent.1

/-- Enter a new connection in both tables and forward its first datagram. -/
def create (d : Demux A) (dcid cid : Bytes) (datagram : Bytes × A) : Demux A :=
  ({ d with
      initialMap := Function.update d.initialMap dcid (some cid)
      localCidMap := Function.update d.localCidMap cid (some cid)
      created := (cid, dcid) :: d.created }.forward cid datagram).1

/-- An Initial packet of an unknown client.  `built` is what building a connection gives: its
CID, or an error. -/
def welcome (cfg : DemuxConfig A) (d : Demux A) (datagram : Bytes) (sender : A)
    (built : Except OxiQuicError Bytes) : Demux A :=
  match parseClientInitialIds datagram with
  | none => d
  | some (version, dcid, _) =>
    let token := (parseInitialToken datagram).getD []
    if version ≠ quicV1 then d
    else if cfg.retryEnabled = true ∧
        (token = [] ∨ cfg.validateRetryToken token sender = none) then
      -- a Retry is sent
      { d with issued := (dcid, sender) :: d.issued }
    else
      match built with
      | .error _ => d
      | .ok cid => if cid.length = localCidLen then d.create dcid cid (datagram, sender) else d

/-- Route a datagram. -/
def route (cfg : DemuxConfig A) (d : Demux A) (datagram : Bytes) (sender : A)
    (built : Except OxiQuicError Bytes) : Demux A :=
  match peekDcid datagram localCidLen with
  | .error _ => d
  | .ok (packetType, dcid) =>
    match (if dcid.length = localCidLen then d.localCidMap dcid else none) with
    | some tx => d.forwardLocal dcid tx (datagram, sender)
    | none =>
      if packetType ≠ .initial then d
      else
        match d.initialMap dcid with
        | some tx => d.forwardInitial dcid tx (datagram, sender)
        | none => d.welcome cfg datagram sender built

/-- `apply_cid_route_update`. -/
def applyCidRouteUpdate (d : Demux A) (event : RouteEvent) (tx : Bytes) : Demux A :=
  match event with
  | .register cid =>
    if cid.length = localCidLen then
      { d with localCidMap := Function.update d.localCidMap cid (some tx) }
    else d
  | .unregister cid =>
    if cid.length = localCidLen then
      { d with localCidMap := Function.update d.localCidMap cid none }
    else d
  | .initialRetired dcid => { d with initialMap := Function.update d.initialMap dcid none }

/-- A task receives a datagram. -/
def take (d : Demux A) (tx : Bytes) : Demux A :=
  { d with inbox := Function.update d.inbox tx (d.inbox tx).pollRecv.1 }

/-- A task ends. -/
def exit (d : Demux A) (tx : Bytes) : Demux A :=
  { d with inbox := Function.update d.inbox tx (d.inbox tx).dropReceiver }

/-! ## What a datagram does -/

/-- A datagram opens a connection: it is an Initial packet with an unknown DCID `c`, of the right
version and with a valid token if one is due, and the connection can be built. -/
structure Opens (cfg : DemuxConfig A) (d : Demux A) (bytes : Bytes) (sender : A)
    (built : Except OxiQuicError Bytes) (c : Bytes) : Prop where
  peek : peekDcid bytes localCidLen = .ok (.initial, c)
  unknownLocal : c.length = localCidLen → d.localCidMap c = none
  unknownInitial : d.initialMap c = none
  version : ∃ scid, parseClientInitialIds bytes = some (quicV1, c, scid)
  token : cfg.retryEnabled = true → (parseInitialToken bytes).getD [] ≠ [] ∧
    ∃ odcid, cfg.validateRetryToken ((parseInitialToken bytes).getD []) sender = some odcid
  built : ∃ cid, built = .ok cid ∧ cid.length = localCidLen

/-- What routing a datagram can do. -/
inductive Routes (cfg : DemuxConfig A) (d : Demux A) (bytes : Bytes) (sender : A)
    (built : Except OxiQuicError Bytes) : Demux A → Prop where
  | dropped : Routes cfg d bytes sender built d
  | toLocal {c tx : Bytes} : dcidOf bytes = some c → d.localCidMap c = some tx →
      Routes cfg d bytes sender built (d.forwardLocal c tx (bytes, sender))
  | toInitial {c tx : Bytes} : dcidOf bytes = some c → d.initialMap c = some tx →
      Routes cfg d bytes sender built (d.forwardInitial c tx (bytes, sender))
  | retry {c : Bytes} : dcidOf bytes = some c →
      Routes cfg d bytes sender built { d with issued := (c, sender) :: d.issued }
  | create {c cid : Bytes} : dcidOf bytes = some c → Opens cfg d bytes sender built c →
      built = .ok cid → Routes cfg d bytes sender built (d.create c cid (bytes, sender))

theorem route_routes (cfg : DemuxConfig A) (d : Demux A) (bytes : Bytes) (sender : A)
    (built : Except OxiQuicError Bytes) :
    Routes cfg d bytes sender built (d.route cfg bytes sender built) := by
  unfold route
  cases hpeek : peekDcid bytes localCidLen with
  | error e => exact .dropped
  | ok peeked =>
    obtain ⟨packetType, c⟩ := peeked
    have hdcid : dcidOf bytes = some c := by rw [dcidOf, hpeek]; rfl
    simp only
    split
    · rename_i tx htx
      split at htx
      · exact .toLocal hdcid htx
      · cases htx
    rename_i hlocal
    split
    · exact .dropped
    rename_i htype
    split
    · exact .toInitial hdcid ‹_›
    unfold welcome
    split
    · exact .dropped
    rename_i hinitial _ version _ scid hparse
    have hsame := (parse_dcidOf hparse).symm.trans hdcid
    cases hsame
    simp only
    split
    · exact .dropped
    rename_i hversion
    split
    · exact .retry hdcid
    rename_i hvalid
    split
    · exact .dropped
    rename_i cid
    split
    · rename_i hlen
      refine .create hdcid ⟨?_, fun h => ?_, hinitial, ⟨scid, ?_⟩, fun hretry => ?_,
        cid, rfl, hlen⟩ rfl
      · rw [hpeek, not_not.mp htype]
      · rwa [if_pos h] at hlocal
      · rw [hparse, not_not.mp hversion]
      · exact ⟨fun h => hvalid ⟨hretry, .inl h⟩,
          Option.ne_none_iff_exists'.mp fun h => hvalid ⟨hretry, .inr h⟩⟩
    · exact .dropped

theorem forward_receiving (d : Demux A) (tx : Bytes) (x : Bytes × A) (tx' : Bytes) :
    ((d.forward tx x).1.inbox tx').receiving = (d.inbox tx').receiving := by
  show (Function.update d.inbox tx ((d.inbox tx).trySend x).1 tx').receiving = _
  by_cases htx : tx' = tx
  · rw [htx, Function.update_self]
    unfold Channel.trySend
    repeat' split
    all_goals rfl
  · rw [Function.update_of_ne htx]

theorem pollRecv_receiving {α : Type} (c : Channel α) : c.pollRecv.1.receiving = c.receiving := by
  unfold Channel.pollRecv
  repeat' split
  all_goals rfl

theorem forward_closed_iff (d : Demux A) (tx : Bytes) (x : Bytes × A) :
    (d.forward tx x).2 = .error .closed ↔ (d.inbox tx).receiving = false := by
  show ((d.inbox tx).trySend x).2 = _ ↔ _
  unfold Channel.trySend
  split
  · exact iff_of_true rfl ‹_›
  · split <;> exact iff_of_false (fun h => (by cases h)) ‹_›

end Demux

end OxiQuic
