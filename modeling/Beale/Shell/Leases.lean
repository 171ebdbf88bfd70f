import Beale.Library.JsMap
import Beale.Library.JsString
import Beale.Library.Run

/-!
# Leases of the shell tool

A command of a utility has a slot while a file of the lease directory is its own. The processes that share
the directory create, fill, read, judge and unlink these files in separate steps; each `await` lets the others go on.

- `LeaseDirectory.step`: the next stretch of a command, a release, the clock, or the crash of a process.
-/

namespace Beale.Shell

open Beale.Library

/-! ## Files -/

def maxTimeoutMs : Int := 30 * 60000

def newLeaseGraceMs : Int := 5000

def leaseSettleGraceMs : Int := 15000

/-- A process of the host. -/
structure Process where
  number : Nat
  pid : Nat
  pid_pos : 0 < pid
deriving DecidableEq

/-- What is read of a lease; a time that is no date is absent. -/
structure LeaseRecord where
  pid : Option Nat
  createdAt : Option Int
  expiresAt : Option Int
deriving DecidableEq

/-- A file, whatever its path is now. It has no record where `JSON.parse` fails: until it is written. -/
structure LeaseFile where
  id : Nat
  mtimeMs : Int
  record : Option LeaseRecord
deriving DecidableEq

/-- `${utilityKey}.${slot}.lease` -/
structure LeasePath where
  utilityKey : JsString
  slot : Nat
deriving DecidableEq

/-- The decision of `reclaimStaleLease` on what it has read. -/
def LeaseRecord.isStale (record : LeaseRecord) (now : Int) (processIsAlive : Nat → Bool) : Bool :=
  let expiry := record.expiresAt.or (record.createdAt.map (· + maxTimeoutMs + leaseSettleGraceMs))
  expiry.any (· < now) || !record.pid.any fun pid => pid ≠ 0 && processIsAlive pid

/-! ## Commands -/

/-- Where a command waits. The code does not know which file it is that it removes. -/
inductive LeasePoint where
  | looping
  | opening (slot : Nat)
  | writing (slot file : Nat) (createdAt : Int)
  | closing (slot file : Nat)
  /-- `reclaimStaleLease` -/
  | stating (slot : Nat)
  | reading (slot : Nat)
  | unlinking (slot file : Nat)
  | retrying
  | holding (slot file : Nat)
  | ended
deriving DecidableEq

structure LeaseCommand where
  process : Process
  utility : JsString
  concurrency : Nat
  deadline : Int
  point : LeasePoint
deriving DecidableEq

/-- `expiresAt` of its lease. -/
def LeaseCommand.expiry (command : LeaseCommand) : Int := command.deadline + leaseSettleGraceMs

/-- The slot and the file of a command that has created one. -/
def LeasePoint.own? : LeasePoint → Option (Nat × Nat)
  | .writing slot file _ | .closing slot file | .holding slot file => some (slot, file)
  | _ => none

structure LeaseDirectory where
  files : JsMap LeasePath LeaseFile
  commands : JsMap Nat LeaseCommand
  nextFile : Nat
  nextCommand : Nat
  now : Int
  crashed : List Process

/-- What comes back to a command: whether its signal is aborted, whether the file operation fails, and whether
another program of the host has the process id that is asked for. -/
structure LeaseAnswer where
  aborted : Bool
  failed : Bool
  otherProgram : Bool

inductive LeaseEvent where
  | acquire (process : Process) (utility : JsString) (concurrency : Nat) (deadline : Int)
  | advance (id : Nat) (answer : LeaseAnswer)
  | release (id : Nat) (failed : Bool)
  | clock (now : Int)
  | crash (process : Process)

/-- The next slot of the `for` loop, or the wait after it. -/
def LeaseCommand.trySlot (command : LeaseCommand) (slot : Nat) : LeasePoint :=
  if slot < command.concurrency then .opening slot else .retrying

namespace LeaseDirectory

variable (directory : LeaseDirectory)

def isLive (command : LeaseCommand) : Bool := command.process ∉ directory.crashed

theorem isLive_iff {directory : LeaseDirectory} {command : LeaseCommand} :
    directory.isLive command = true ↔ command.process ∉ directory.crashed :=
  decide_eq_true_iff

theorem isLive_congr {directory directory' : LeaseDirectory} {command command' : LeaseCommand}
    (hproc : command.process = command'.process) (hcrash : directory.crashed = directory'.crashed) :
    directory.isLive command = directory'.isLive command' := by
  unfold isLive
  rw [hproc, hcrash]

def setPoint (id : Nat) (command : LeaseCommand) (point : LeasePoint) : LeaseDirectory :=
  { directory with commands := directory.commands.set id { command with point } }

section

variable (id : Nat) (command : LeaseCommand) (point : LeasePoint)
include id command point

@[simp] theorem setPoint_files :
    (directory.setPoint id command point).files = directory.files := rfl

@[simp] theorem setPoint_nextFile :
    (directory.setPoint id command point).nextFile = directory.nextFile := rfl

@[simp] theorem setPoint_now : (directory.setPoint id command point).now = directory.now := rfl

@[simp] theorem setPoint_crashed :
    (directory.setPoint id command point).crashed = directory.crashed := rfl

theorem setPoint_get? (other : Nat) : (directory.setPoint id command point).commands.get? other =
      if other = id then some { command with point } else directory.commands.get? other := by
  simp only [setPoint, JsMap.get?_set]

end

/-- `process.kill(pid, 0)` -/
def processIsAlive (otherProgram : Bool) (pid : Nat) : Bool :=
  directory.commands.values.any (fun command => command.process.pid = pid && directory.isLive command) || otherProgram

end LeaseDirectory

/-- `sha256` of the utility, cut off. -/
def utilityKey (digest : JsString → JsString) (utility : JsString) : JsString := (digest utility).take 24

def LeaseCommand.path (digest : JsString → JsString) (command : LeaseCommand) (slot : Nat) : LeasePath :=
  ⟨utilityKey digest command.utility, slot⟩

namespace LeaseDirectory

variable (digest : JsString → JsString) (directory : LeaseDirectory)

/-- `open(path, "wx")` -/
def createFile (id : Nat) (command : LeaseCommand) (slot : Nat) : LeaseDirectory :=
  match directory.files.get? (command.path digest slot) with
  | some _ => directory.setPoint id command (.stating slot)
  | none =>
    { directory with
      files := directory.files.set (command.path digest slot) ⟨directory.nextFile, directory.now, none⟩
      nextFile := directory.nextFile + 1 }.setPoint id command (.writing slot directory.nextFile directory.now)

def writeFile (id : Nat) (command : LeaseCommand) (slot file : Nat) (createdAt : Int) : LeaseDirectory :=
  let record : LeaseRecord := ⟨some command.process.pid, some createdAt, some command.expiry⟩
  { directory with
    files := directory.files.modify (command.path digest slot) fun f =>
      if f.id = file then { f with mtimeMs := directory.now, record := some record } else f }.setPoint id command
    (.closing slot file)

def unlink (path : LeasePath) (failed : Bool) : LeaseDirectory :=
  if failed then directory else { directory with files := directory.files.delete path }

/-- `stat` and the grace of a new file. -/
def statFile (id : Nat) (command : LeaseCommand) (slot : Nat) : LeaseDirectory :=
  match directory.files.get? (command.path digest slot) with
  | none => directory.setPoint id command (command.trySlot (slot + 1))
  | some file =>
    if directory.now - file.mtimeMs < newLeaseGraceMs then directory.setPoint id command (command.trySlot (slot + 1))
    else directory.setPoint id command (.reading slot)

/-- `readFile`, and the decision. -/
def readFile (id : Nat) (command : LeaseCommand) (slot : Nat) (otherProgram : Bool) : LeaseDirectory :=
  match directory.files.get? (command.path digest slot) with
  | none => directory.setPoint id command (command.trySlot (slot + 1))
  | some file =>
    if file.record.any fun record => record.isStale directory.now (directory.processIsAlive otherProgram) then
      directory.setPoint id command (.unlinking slot file.id)
    else directory.setPoint id command (command.trySlot (slot + 1))

/-- The next stretch of `acquireLease`. -/
def advance (id : Nat) (command : LeaseCommand) (answer : LeaseAnswer) : LeaseDirectory :=
  match command.point with
  | .looping =>
    if command.deadline ≤ directory.now then directory.setPoint id command .ended
    else if answer.aborted then directory.setPoint id command .ended
    else directory.setPoint id command (command.trySlot 0)
  | .opening slot =>
    if answer.failed then directory.setPoint id command .ended else directory.createFile digest id command slot
  | .writing slot file createdAt =>
    if answer.failed then directory.setPoint id command .ended
    else directory.writeFile digest id command slot file createdAt
  | .closing slot file =>
    if answer.failed then directory.setPoint id command .ended
    else directory.setPoint id command (.holding slot file)
  | .stating slot =>
    if answer.failed then directory.setPoint id command (command.trySlot (slot + 1))
    else directory.statFile digest id command slot
  | .reading slot =>
    if answer.failed then directory.setPoint id command (command.trySlot (slot + 1))
    else directory.readFile digest id command slot answer.otherProgram
  | .unlinking slot _ =>
    (directory.unlink (command.path digest slot) answer.failed).setPoint id command (command.trySlot (slot + 1))
  | .retrying =>
    if answer.aborted then directory.setPoint id command .ended else directory.setPoint id command .looping
  | .holding _ _ | .ended => directory

/-- `release()`, once the command is over. -/
def releaseLease (id : Nat) (command : LeaseCommand) (failed : Bool) : LeaseDirectory :=
  match command.point with
  | .holding slot _ => (directory.unlink (command.path digest slot) failed).setPoint id command .ended
  | _ => directory

def step (directory : LeaseDirectory) : LeaseEvent → LeaseDirectory
  | .acquire process utility concurrency deadline => { directory with
      commands := directory.commands.set directory.nextCommand ⟨process, utility, concurrency, deadline, .looping⟩
      nextCommand := directory.nextCommand + 1 }
  | .advance id answer =>
    match directory.commands.get? id with
    | none => directory
    | some command => if directory.isLive command then directory.advance digest id command answer else directory
  | .release id failed =>
    match directory.commands.get? id with
    | none => directory
    | some command => if directory.isLive command then directory.releaseLease digest id command failed else directory
  | .clock now => { directory with now }
  | .crash process => { directory with crashed := process :: directory.crashed }

theorem step_advance {directory : LeaseDirectory} {id : Nat} {command : LeaseCommand}
    (hget : directory.commands.get? id = some command) (hlive : directory.isLive command = true) (answer : LeaseAnswer) :
    directory.step digest (.advance id answer) = directory.advance digest id command answer := by
  simp only [step, hget, hlive, ↓reduceIte]

def new (now : Int) : LeaseDirectory := ⟨.empty, .empty, 0, 0, now, []⟩

end LeaseDirectory

end Beale.Shell
