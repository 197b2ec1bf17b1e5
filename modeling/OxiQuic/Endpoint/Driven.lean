import OxiQuic.Connection.Step
import OxiQuic.Lib.Channel
import OxiQuic.Stream.Finish

/-!
# Connections driven in the background

`run_driven_connection` services a connection from a task of its own.  The bytes of each
stream reach the application through a bounded channel, which a `RecvStreamHandle` reads.
An action is one turn of the task's loop, or one step of the application; the actions of a
run come in any order.  What arrives on the socket, the clock and whether a send succeeds are
inputs.
-/

namespace OxiQuic

open Lib

variable {P : Platform}

/-! ## Stream handles -/

/-- What a stream handle asks the task to do. -/
inductive WriteCmd where
  | write (data : Bytes) (fin : Bool)
  | reset (errorCode : Nat)
  | stopSending (errorCode : Nat)

/-- The read end of a stream.  `buf` from `bufPos` on is left over from the last chunk. -/
structure RecvStreamHandle where
  streamId : StreamId
  buf : Bytes := []
  bufPos : Nat := 0

/-- Read into a buffer with `remaining` bytes of room. -/
def RecvStreamHandle.pollRead (h : RecvStreamHandle) (dataRx : Channel Bytes) (remaining : Nat) :
    RecvStreamHandle × Channel Bytes × Poll Bytes :=
  if h.bufPos < h.buf.length then
    let available := h.buf.drop h.bufPos
    let toCopy := min available.length remaining
    ({ h with bufPos := h.bufPos + toCopy }, dataRx, .ready (available.take toCopy))
  else
    let polled := dataRx.pollRecv
    match polled.2 with
    | .ready (some data) =>
      let toCopy := min data.length remaining
      let h := if toCopy < data.length then { h with buf := data, bufPos := toCopy }
        else { h with buf := [], bufPos := 0 }
      (h, polled.1, .ready (data.take toCopy))
    | .ready none => (h, polled.1, .ready [])
    | .pending => (h, polled.1, .pending)

/-- A data channel with its handle.  The last three fields are its history, which no function
reads. -/
structure Pipe where
  handle : RecvStreamHandle
  channel : Channel Bytes
  /-- Whether the application was given the handle. -/
  held : Bool := false
  /-- Whether no handle was ever made. -/
  deaf : Bool := false
  /-- What the application has read. -/
  delivered : Bytes := []
  /-- Whether a read has returned nothing although there was room. -/
  eof : Bool := false
  /-- Whether a chunk was dropped because the channel was full. -/
  overflowed : Bool := false

namespace Pipe

def stream (p : Pipe) : StreamId := p.handle.streamId

def dropSender (p : Pipe) : Pipe := { p with channel := p.channel.dropSender }

def dropHandle (p : Pipe) : Pipe := { p with channel := p.channel.dropReceiver }

/-- The application has the handle. -/
def readable (p : Pipe) : Bool := p.held && p.channel.receiving

/-- Forward a chunk; a chunk that does not go through is dropped. -/
def forward (p : Pipe) (bytes : Bytes) : Pipe :=
  let sent := p.channel.trySend bytes
  { p with
    channel := sent.1
    overflowed := p.overflowed || match sent.2 with
      | .error .full => true
      | _ => false }

/-- The application reads. -/
def read (p : Pipe) (remaining : Nat) : Pipe :=
  let polled := p.handle.pollRead p.channel remaining
  match polled.2.2 with
  | .pending => { p with handle := polled.1, channel := polled.2.1 }
  | .ready bytes =>
    { p with
      handle := polled.1
      channel := polled.2.1
      delivered := p.delivered ++ bytes
      eof := p.eof || (bytes.isEmpty && decide (0 < remaining)) }

end Pipe

/-! ## The task -/

/-- Room for chunks in a data channel, and for streams in the channels of accepted streams. -/
def channelCapacity : Nat := 64

/-- The task, its channels and their readers.  `given` records what the receive halves have
given out, and no function reads it. -/
structure Driven (P : Platform) where
  conn : Connection P
  /-- The data channel of each stream that has a sender, by its place in `pipes`. -/
  readSenders : OrdMap Nat Nat := ∅
  pipes : List Pipe := []
  acceptBidi : Channel Nat := .new channelCapacity
  acceptUni : Channel Nat := .new channelCapacity
  /-- Whether the loop has not been left. -/
  running : Bool := true
  given : OrdMap Nat Given := ∅

namespace Driven

def modifyPipe (d : Driven P) (i : Nat) (f : Pipe → Pipe) : Driven P :=
  { d with pipes := d.pipes.modify i f }

/-- Remove the sender of a stream, which closes its channel. -/
def removeSender (d : Driven P) (sid : StreamId) : Driven P :=
  match d.readSenders.get? sid with
  | none => d
  | some i =>
    { d.modifyPipe i Pipe.dropSender with readSenders := d.readSenders.erase sid }

/-- Make a data channel for a stream.  A sender that the stream had is dropped. -/
def register (d : Driven P) (sid : StreamId) (deaf : Bool) : Driven P :=
  let channel := if deaf then (Channel.new channelCapacity).dropReceiver else .new channelCapacity
  let d := d.removeSender sid
  { d with
    readSenders := d.readSenders.insert sid d.pipes.length
    pipes := d.pipes ++ [{ handle := { streamId := sid }, channel := channel, deaf := deaf }] }

/-- Offer a stream that the peer opened to the application.  Without room for it the handle
is dropped. -/
def offer (d : Driven P) (sid : StreamId) : Driven P :=
  let i := d.pipes.length
  let d := d.register sid false
  if StreamId.direction sid = .bidirectional then
    let sent := d.acceptBidi.trySend i
    let d := { d with acceptBidi := sent.1 }
    match sent.2 with
    | .ok () => d
    | .error _ => d.modifyPipe i Pipe.dropHandle
  else
    let sent := d.acceptUni.trySend i
    let d := { d with acceptUni := sent.1 }
    match sent.2 with
    | .ok () => d
    | .error _ => d.modifyPipe i Pipe.dropHandle

/-- Offer all streams that the peer opened.  The loop ends with the queue. -/
def surfaceStreams : Nat → Driven P → Driven P
  | 0, d => d
  | fuel + 1, d =>
    let polled := d.conn.pollNewPeerStream
    match polled.2 with
    | none => d
    | some sid => surfaceStreams fuel ({ d with conn := polled.1 }.offer sid)

/-- What the receive half of a stream has given out. -/
def givenOf (d : Driven P) (sid : StreamId) : Given := (d.given.get? sid).getD {}

def record (d : Driven P) (sid : StreamId) (bytes : Bytes) (fin : Bool) : Driven P :=
  let given := d.givenOf sid
  { d with given := d.given.insert sid ⟨given.bytes ++ bytes, given.fin || fin⟩ }

/-- Forward a chunk to the channel of a stream. -/
def trySend (d : Driven P) (sid : StreamId) (bytes : Bytes) : Driven P :=
  match d.readSenders.get? sid with
  | none => d
  | some i => d.modifyPipe i (·.forward bytes)

/-- Forward what was read from a stream.  A stream without a channel gets one that nobody
reads, and the end of the stream closes the channel. -/
def forward (d : Driven P) (sid : StreamId) (bytes : Bytes) (fin : Bool) : Driven P :=
  let d := if !d.readSenders.contains sid && (!bytes.isEmpty || fin) then d.register sid true else d
  let d := if bytes.isEmpty then d else d.trySend sid bytes
  if fin then d.removeSender sid else d

/-- Read a readable stream and forward what it gives. -/
def drainStream (d : Driven P) (sid : StreamId) : Driven P :=
  let read := d.conn.readStream sid
  let d := { d with conn := read.1 }
  match read.2 with
  | .error _ => d
  | .ok (bytes, fin) => (d.record sid bytes fin).forward sid bytes fin

/-- Read all readable streams.  The loop ends with the queue. -/
def drainReadable : Nat → Driven P → Driven P
  | 0, d => d
  | fuel + 1, d =>
    let polled := d.conn.pollReadable
    match polled.2 with
    | none => d
    | some sid => drainReadable fuel ({ d with conn := polled.1 }.drainStream sid)

/-- Leave the loop.  Every sender there is is in `readSenders`, which is dropped. -/
def exit (d : Driven P) : Driven P :=
  { d with running := false, readSenders := ∅, pipes := d.pipes.map Pipe.dropSender }

/-- Send what the connection wants to send.  Each turn of the loop reads the clock and sends;
the result says whether all sends succeeded. -/
def flushConn (c : Connection P) : List (Time × Bool) → Connection P × Bool
  | [] => (c, true)
  | (now, sent) :: rest =>
    let polled := c.pollTransmit now []
    match polled.2 with
    | ([], _) => (polled.1, true)
    | (_, none) => (polled.1, true)
    | (_, some _) => if sent then flushConn polled.1 rest else (polled.1, false)

/-- Flush at the end of a turn, and leave the loop if a send fails or the connection is
closed. -/
def finishTurn (d : Driven P) (sends : List (Time × Bool)) : Driven P :=
  let flushed := flushConn d.conn sends
  let d := { d with conn := flushed.1 }
  if flushed.2 = false ∨ d.conn.state = .closed then d.exit else d

/-- Carry out what a stream handle asks for; that it may fail is ignored. -/
def writeCmd (c : Connection P) (sid : StreamId) : WriteCmd → Connection P
  | .write data fin => (c.sendStream sid data fin).1
  | .reset errorCode => (c.resetStream sid errorCode).1
  | .stopSending errorCode => (c.stopSending sid errorCode).1

/-- Give a stream to the application that asked for it, if it still waits. -/
def reply (d : Driven P) (i : Nat) (waits : Bool) : Driven P :=
  d.modifyPipe i fun p => if waits then { p with held := true } else p.dropHandle

/-- What happens next: a branch of the task's loop, or a step of the application. -/
inductive Action where
  | datagram (now : Time) (owned : Bytes) (sends : List (Time × Bool))
  /-- Receiving fails; a refused connection does not end the loop. -/
  | recvError (refused : Bool)
  | write (msg : Option (StreamId × WriteCmd)) (sends : List (Time × Bool))
  | openBidi (waits : Bool) (sends : List (Time × Bool))
  | openUni (sends : List (Time × Bool))
  | close (writes : List (StreamId × WriteCmd)) (request : Option (Nat × Bytes))
      (sends sends' : List (Time × Bool))
  | timeout (now : Time) (sends : List (Time × Bool))
  | acceptBidi
  | acceptUni
  | read (i : Nat) (remaining : Nat)
  | dropHandle (i : Nat)

def onDatagram (d : Driven P) (now : Time) (owned : Bytes) (sends : List (Time × Bool)) :
    Driven P :=
  let handled := d.conn.handleDatagram now owned
  let d := { d with conn := handled.1 }
  match handled.2 with
  | .error _ => d.exit
  | .ok () =>
    let d := surfaceStreams d.conn.inbound.newPeerStreams.length d
    let d := drainReadable d.conn.inbound.readable.length d
    d.finishTurn sends

/-- Open a stream with a data channel.  Its receive half is new. -/
def onOpenBidi (d : Driven P) (waits : Bool) (sends : List (Time × Bool)) : Driven P :=
  let opened := d.conn.openBidi
  match opened.2 with
  | .error _ => { d with conn := opened.1 }
  | .ok sid =>
    let d := { d with conn := opened.1, given := d.given.insert sid {} }
    let i := d.pipes.length
    ((d.register sid false).reply i waits).finishTurn sends

/-- Open a stream without a receive half. -/
def onOpenUni (d : Driven P) (sends : List (Time × Bool)) : Driven P :=
  let opened := d.conn.openUni
  let d := { d with conn := opened.1 }
  match opened.2 with
  | .error _ => d
  | .ok _ => d.finishTurn sends

/-- Carry out the writes that are waiting, close, and leave the loop. -/
def onClose (d : Driven P) (writes : List (StreamId × WriteCmd)) (request : Option (Nat × Bytes))
    (sends sends' : List (Time × Bool)) : Driven P :=
  let written := writes.foldl (fun c w => writeCmd c w.1 w.2) d.conn
  let flushed := flushConn written sends
  if flushed.2 = false then { d with conn := flushed.1 }.exit
  else
    let closing := match request with
      | some (code, reason) => flushed.1.close code reason
      | none => flushed.1
    { d with conn := (flushConn closing sends').1 }.exit

def onTimeout (d : Driven P) (now : Time) (sends : List (Time × Bool)) : Driven P :=
  let d := { d with conn := d.conn.handleTimeout now }
  if d.conn.state = .closed then d.exit else d.finishTurn sends

/-- A turn of the task's loop. -/
def turn (d : Driven P) : Action → Driven P
  | .datagram now owned sends => d.onDatagram now owned sends
  | .recvError refused => if refused then d else d.exit
  | .write none _ => d.exit
  | .write (some (sid, cmd)) sends => { d with conn := writeCmd d.conn sid cmd }.finishTurn sends
  | .openBidi waits sends => d.onOpenBidi waits sends
  | .openUni sends => d.onOpenUni sends
  | .close writes request sends sends' => d.onClose writes request sends sends'
  | .timeout now sends => d.onTimeout now sends
  | _ => d

/-- The application takes the next stream from a channel of accepted streams. -/
def accept (d : Driven P) (polled : Poll (Option Nat)) : Driven P :=
  match polled with
  | .ready (some i) => d.modifyPipe i fun p => { p with held := true }
  | _ => d

def step (d : Driven P) (action : Action) : Driven P :=
  match action with
  | .acceptBidi =>
    let polled := d.acceptBidi.pollRecv
    { d with acceptBidi := polled.1 }.accept polled.2
  | .acceptUni =>
    let polled := d.acceptUni.pollRecv
    { d with acceptUni := polled.1 }.accept polled.2
  | .read i remaining => d.modifyPipe i fun p => if p.readable then p.read remaining else p
  | .dropHandle i => d.modifyPipe i fun p => if p.readable then p.dropHandle else p
  | action => if d.running then d.turn action else d

/-- The state after a sequence of actions. -/
def run (d : Driven P) (actions : List Action) : Driven P := Lib.run step d actions

/-- The task when it starts. -/
def start (c : Connection P) : Driven P := { conn := c }

end Driven

end OxiQuic
