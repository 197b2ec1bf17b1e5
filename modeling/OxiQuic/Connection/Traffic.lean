import OxiQuic.Connection.Footprint

/-!
# What concerns streams

The streams of a connection, their credit and windows, the packets that are tracked and the
history: `Connection.traffic`.  The handshake, the keys and most frames leave all of it alone.
-/

namespace OxiQuic

open Lib

variable {P : Platform} (c : Connection P) (packetType : PacketType)

/-- What a connection has to do with streams, in both directions. -/
structure Traffic (P : Platform) where
  role : Role
  opened : Opened
  sendStreams : OrdMap Nat SendStream
  inbound : Inbound
  flow : Flow
  peerParams : Option TransportParams
  sentPackets : PerSpace SentPackets
  peerCidPool : PeerCidPool
  /-- Early data that is still to be sent or written. -/
  early : List (StreamId × Bytes × Bool)
  trace : List (Event P)

namespace Connection

def traffic (c : Connection P) : Traffic P where
  role := c.role
  opened := c.opened
  sendStreams := c.sendStreams
  inbound := c.inbound
  flow := c.flow
  peerParams := c.hs.peerParams
  sentPackets := c.sentPackets
  peerCidPool := c.cids.peerCidPool
  early := c.zeroRtt.earlyDataBuf
  trace := c.trace

/-! ## The handshake -/

theorem unkeyed_traffic : Unkeyed (traffic : Connection P → Traffic P) :=
  ⟨fun _ _ _ _ _ => rfl, fun _ _ => rfl, fun _ _ _ _ => rfl⟩

theorem pumpOnce_traffic : c.pumpOnce.traffic = c.traffic := unkeyed_traffic.pumpOnce c

theorem enterEstablished_traffic (now : Time) : (c.enterEstablished now).traffic = c.traffic := by
  simp only [enterEstablished]
  split
  · exact issueCids_kept (fun _ _ _ _ => rfl) _ _
  · rfl

theorem queueNewToken_traffic : c.queueNewToken.traffic = c.traffic := by
  simp only [queueNewToken]
  split <;> rfl

/-! ## Frames -/

theorem recvPathResponse_traffic (data : Bytes) :
    (c.recvPathResponse data).traffic = c.traffic := by
  simp only [recvPathResponse]
  split <;> rfl

theorem recvRetireConnectionId_traffic (seq : Nat) :
    (c.recvRetireConnectionId packetType seq).1.traffic = c.traffic := by
  simp only [recvRetireConnectionId]
  split
  · rfl
  split
  · rfl
  split
  · rfl
  · exact maybeIssueNewCid_kept (fun _ _ _ _ => rfl) _

end Connection

end OxiQuic
