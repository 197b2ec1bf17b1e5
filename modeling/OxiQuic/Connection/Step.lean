import OxiQuic.Connection.Recv
import OxiQuic.Connection.Send
import OxiQuic.Lib.Run

/-!
# Runs of a connection

Everything that can be done to a connection, as one type of operations, and runs of
arbitrary operations from a fresh connection.
-/

namespace OxiQuic

variable {P : Platform}

/-- A call into a connection, by the application or by its driver. -/
inductive Op where
  | openBidi
  | openUni
  | sendStream (stream : StreamId) (data : Bytes) (fin : Bool)
  | readStream (stream : StreamId)
  | pollReadable
  | pollNewPeerStream
  | resetStream (stream : StreamId) (errorCode : Nat)
  | stopSending (stream : StreamId) (errorCode : Nat)
  | sendDatagram (data : Bytes)
  | recvDatagram
  | queueEarlyData (stream : StreamId) (data : Bytes) (fin : Bool)
  | takeReceivedToken
  | popCidEvent
  | setKeepAliveInterval (interval : Option Time)
  | close (errorCode : Nat) (reason : Bytes)
  | initiateKeyUpdate (now : Time)
  | initiatePathChallenge
  | setCandidatePeerAddr (addr : SocketAddr)
  | addPath (addr : SocketAddr) (cid : Option ConnectionId)
  | setPreferredPath (index : Nat)
  | pollTransmit (now : Time) (out : Bytes)
  | handleDatagram (now : Time) (datagram : Bytes)
  | handleTimeout (now : Time)

/-- The calls that change where packets go, or which address is being validated. -/
def Op.reroutes : Op → Bool
  | .initiatePathChallenge => true
  | .setCandidatePeerAddr _ => true
  | .setPreferredPath _ => true
  | _ => false

namespace Connection

/-- The connection after a call. -/
def step (c : Connection P) : Op → Connection P
  | .openBidi => c.openBidi.1
  | .openUni => c.openUni.1
  | .sendStream stream data fin => (c.sendStream stream data fin).1
  | .readStream stream => (c.readStream stream).1
  | .pollReadable => c.pollReadable.1
  | .pollNewPeerStream => c.pollNewPeerStream.1
  | .resetStream stream errorCode => (c.resetStream stream errorCode).1
  | .stopSending stream errorCode => (c.stopSending stream errorCode).1
  | .sendDatagram data => (c.sendDatagram data).1
  | .recvDatagram => c.recvDatagram.1
  | .queueEarlyData stream data fin => c.queueEarlyData stream data fin
  | .takeReceivedToken => c.takeReceivedToken.1
  | .popCidEvent => c.popCidEvent.1
  | .setKeepAliveInterval interval => c.setKeepAliveInterval interval
  | .close errorCode reason => c.close errorCode reason
  | .initiateKeyUpdate now => (c.initiateKeyUpdate now).1
  | .initiatePathChallenge => c.initiatePathChallenge.1
  | .setCandidatePeerAddr addr => c.setCandidatePeerAddr addr
  | .addPath addr cid => (c.addPath addr cid).1
  | .setPreferredPath index => (c.setPreferredPath index).1
  | .pollTransmit now out => (c.pollTransmit now out).1
  | .handleDatagram now datagram => (c.handleDatagram now datagram).1
  | .handleTimeout now => c.handleTimeout now

/-- The connection after a sequence of calls. -/
def run (c : Connection P) (ops : List Op) : Connection P := Lib.run step c ops

end Connection

end OxiQuic
