import Beale.Library.Eviction
import Beale.Library.JsMap
import Beale.Library.Run

/-!
# The events that the clients of a session get

The events of a session go to its clients that are ready; while there is none they are buffered, and the
client that next says hello gets them.

- `Replay`: the clients, the buffer and its counters. What has come to each client, and all that was emitted
  and dropped, stands beside them.
- `Replay.step`: a connection, a message, the end of a connection, the launch of a worker, an event.
-/

namespace Beale.AppServer

open Beale.Library

def maxReplayBytes : Nat := 4194304

def maxReplayFrames : Nat := 256

/-- A frame, with its place among those that were emitted. -/
structure Frame where
  number : Nat
  byteLength : Nat
deriving DecidableEq

inductive ReadyState where
  | isOpen | closing | closed
deriving DecidableEq

/-- What has come to a client. -/
inductive Received where
  | handshake
  | frame (frame : Frame)
deriving DecidableEq

structure ReplayClient where
  readyState : ReadyState
  receivedClientHello : Bool
  /-- whether it is one of `readyClientSockets` -/
  ready : Bool
  received : List Received
deriving DecidableEq

inductive ClientMessage where
  | tooLarge | invalid | otherSession | hello | control
deriving DecidableEq

structure Replay where
  handshakeFrame : Bool
  clients : JsMap Nat ReplayClient
  nextClient : Nat
  pendingClientFrames : List Frame
  pendingClientBytes : Int
  droppedClientFrames : Nat
  emitted : List Frame
  dropped : List Frame

inductive ReplayEvent where
  | connect
  | message (id : Nat) (message : ClientMessage)
  | leaving (id : Nat)
  | close (id : Nat)
  | launch
  | emit (byteLength : Nat)
  | teardown

/-- `clientSocket.send`; what is sent on a socket that is not open is lost. -/
def ReplayClient.send (client : ReplayClient) (sent : Received) : ReplayClient :=
  if client.readyState = .isOpen then { client with received := client.received ++ [sent] } else client

def ReplayClient.close (client : ReplayClient) : ReplayClient :=
  { client with readyState := if client.readyState = .isOpen then .closing else client.readyState }

/-- A client that gets the events. -/
def ReplayClient.isListening (client : ReplayClient) : Bool := client.ready && client.readyState = .isOpen

/-- The `while` loop of `queueClientFrame`: what it drops, what it leaves, and the bytes of that. -/
def makeRoom (byteLength : Nat) : List Frame → Int → List Frame × List Frame × Int
  | [], bytes => ([], [], bytes)
  | frame :: rest, bytes =>
    if maxReplayFrames ≤ (frame :: rest).length ∨ bytes + byteLength > maxReplayBytes then
      let room := makeRoom byteLength rest (bytes - frame.byteLength)
      (frame :: room.1, room.2)
    else ([], frame :: rest, bytes)

namespace Replay

variable (replay : Replay)

def queueClientFrame (frame : Frame) : Replay :=
  let room := makeRoom frame.byteLength replay.pendingClientFrames replay.pendingClientBytes
  let made : Replay := { replay with
    pendingClientFrames := room.2.1
    pendingClientBytes := room.2.2
    droppedClientFrames := replay.droppedClientFrames + room.1.length
    dropped := replay.dropped ++ room.1 }
  if maxReplayBytes < frame.byteLength then
    { made with
      droppedClientFrames := made.droppedClientFrames + 1
      dropped := made.dropped ++ [frame] }
  else
    { made with
      pendingClientFrames := made.pendingClientFrames ++ [frame]
      pendingClientBytes := made.pendingClientBytes + frame.byteLength }

def deliverClientFrame (frame : Frame) : Replay :=
  let delivered := replay.clients.values.any (·.isListening)
  let sent := { replay with
    clients := replay.clients.mapValues fun client => if client.isListening then client.send (.frame frame) else client }
  if delivered then sent else sent.queueClientFrame frame

/-- The first message of a client: the handshake, and the frames that are buffered. -/
def hello (id : Nat) (client : ReplayClient) : Replay :=
  let greeted := if replay.handshakeFrame then client.send .handshake else client
  let flushed := replay.pendingClientFrames.foldl (fun client frame => client.send (.frame frame)) greeted
  { replay with
    clients := replay.clients.set id { flushed with ready := true, receivedClientHello := true }
    pendingClientFrames := []
    pendingClientBytes := 0 }

/-- `handleDirectClientFrame`. A control changes nothing here. -/
def handleDirectClientFrame (id : Nat) (client : ReplayClient) (message : ClientMessage) : Replay :=
  let closed := { replay with clients := replay.clients.set id client.close }
  match message with
  | .tooLarge | .invalid | .otherSession => closed
  | .hello => if client.receivedClientHello then closed else replay.hello id client
  | .control => if client.receivedClientHello then replay else closed

def step (replay : Replay) : ReplayEvent → Replay
  | .connect => { replay with
      clients := replay.clients.set replay.nextClient ⟨.isOpen, false, false, []⟩
      nextClient := replay.nextClient + 1 }
  | .message id message =>
    match replay.clients.get? id with
    | none => replay
    | some client => if client.readyState = .closed then replay else replay.handleDirectClientFrame id client message
  | .leaving id => { replay with clients := replay.clients.modify id ReplayClient.close }
  | .close id => { replay with
      clients := replay.clients.modify id fun client => { client with readyState := .closed, ready := false } }
  | .launch => { replay with handshakeFrame := true }
  | .emit byteLength =>
    let frame : Frame := ⟨replay.emitted.length, byteLength⟩
    { replay with emitted := replay.emitted ++ [frame] }.deliverClientFrame frame
  | .teardown => { replay with
      clients := replay.clients.mapValues fun client => { client.close with ready := false } }

def new : Replay := ⟨false, .empty, 0, [], 0, 0, [], []⟩

end Replay

end Beale.AppServer
