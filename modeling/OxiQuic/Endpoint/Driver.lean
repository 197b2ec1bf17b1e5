import OxiQuic.Connection.Step

/-!
# The connection driver

`ConnectionDriver` owns a connection and shuttles datagrams between it and a socket.  The
clock is an input, and so is what arrives on the socket.
-/

namespace OxiQuic

variable {P : Platform}

/-- Whether an application can make a call through its handle on a connection.  Datagrams
reach the connection through the driver only, and so do new addresses of the peer; the driver
also takes the routing events of connection IDs. -/
def Op.offered : Op → Bool
  | .popCidEvent => false
  | .setCandidatePeerAddr _ => false
  | .addPath .. => false
  | .setPreferredPath _ => false
  | .handleDatagram .. => false
  | _ => true

structure ConnectionDriver (P : Platform) where
  conn : Connection P
  /-- Where the driver takes the peer to be. -/
  peer : Option SocketAddr

namespace ConnectionDriver

/-- Take note of where a datagram comes from, before looking at it.  On an established
connection an address other than the peer's becomes the candidate, and a challenge starts;
that the challenge may fail is ignored. -/
def noteSource (d : ConnectionDriver P) (sender : SocketAddr) : ConnectionDriver P :=
  if d.peer = none then { d with peer := some sender }
  else if d.peer ≠ some sender ∧ d.conn.state = .established then
    { d with conn := (d.conn.setCandidatePeerAddr sender).initiatePathChallenge.1 }
  else d

/-- Take the routing events of connection IDs.  They go to the endpoint's demultiplexer. -/
def drainCidEvents (d : ConnectionDriver P) : ConnectionDriver P :=
  { d with conn := { d.conn with cids := { d.conn.cids with pendingCidEvents := [] } } }

/-- Follow the connection to an address it has validated. -/
def adoptPath (d : ConnectionDriver P) : ConnectionDriver P :=
  if d.conn.path.pathValidated then { d with peer := some d.conn.path.peerAddr } else d

/-- Process a datagram. -/
def handleInboundDatagram (d : ConnectionDriver P) (now : Time) (owned : Bytes)
    (sender : SocketAddr) : ConnectionDriver P × Except OxiQuicError Unit :=
  let d := d.noteSource sender
  let handled := d.conn.handleDatagram now owned
  let d := { d with conn := handled.1 }
  match handled.2 with
  | .error e => (d, .error e)
  | .ok () => (d.adoptPath.drainCidEvents, .ok ())

/-- Send what the connection wants to send, and return it with its destination.  Each turn
of the loop reads the clock once; a send that fails ends the loop, and the readings. -/
def flush (d : ConnectionDriver P) : List Time → ConnectionDriver P × List (SocketAddr × Bytes)
  | [] => (d, [])
  | now :: clock =>
    let polled := d.conn.pollTransmit now []
    let d := { d with conn := polled.1 }
    match polled.2 with
    | ([], _) => (d, [])
    | (_, none) => (d, [])
    | (out, some addr) =>
      let rest := d.flush clock
      (rest.1, (addr, out) :: rest.2)

/-- What a driver does, and what the application does through it. -/
inductive Action where
  | inbound (now : Time) (owned : Bytes) (sender : SocketAddr)
  | flush (clock : List Time)
  | timeout (now : Time)
  | call (op : Op) (offered : op.offered = true)

def step (d : ConnectionDriver P) : Action → ConnectionDriver P
  | .inbound now owned sender => (d.handleInboundDatagram now owned sender).1
  | .flush clock => (d.flush clock).1
  | .timeout now => { d with conn := d.conn.handleTimeout now }
  | .call op _ => { d with conn := d.conn.step op }

/-- The driver after a sequence of actions. -/
def run (d : ConnectionDriver P) (actions : List Action) : ConnectionDriver P :=
  Lib.run step d actions

end ConnectionDriver

end OxiQuic
