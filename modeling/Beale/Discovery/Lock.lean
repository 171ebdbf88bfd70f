import Beale.Library.JsMap
import Beale.Library.Run

/-!
# The lock file of the app server

The steps of `acquireDiscoveryLock` and `releaseDiscoveryLock` in several processes. `writeFileSync` creates the file
and writes it in two steps, and what a process has read is tested and acted on later.

- `LockFile`: a lock file with its process id, once this is written, and the process it belongs to.
- `LockHost.step`: a process starts, dies, or takes its next step.
-/

namespace Beale.Discovery

open Beale.Library

structure LockFile where
  number : Nat
  owner : Nat
  /-- what `readDiscoveryLockPid` finds -/
  pid : Option Nat
deriving DecidableEq

def maxAttempts : Nat := 3

/-- Where a process is. It remembers the file that it read. -/
inductive Phase where
  | idle
  | creating (attempt : Nat)
  | writing (file : Nat)
  | reading (attempt : Nat)
  | testing (attempt : Nat) (seen : Option LockFile) (ownerPid : Nat)
  | unlinking (attempt : Nat) (seen : Option LockFile)
  | releasing
  | releaseUnlinking (seen : Option LockFile)
deriving DecidableEq

structure Process where
  pid : Nat
  alive : Bool
  phase : Phase
  holds : Bool
deriving DecidableEq

structure LockHost where
  processes : JsMap Nat Process
  lock : Option LockFile
  next : Nat

inductive LockEvent where
  | spawn (pid : Nat)
  | crash (process : Nat)
  /-- a call of `acquireDiscoveryLock` -/
  | acquire (process : Nat)
  /-- a call of `releaseDiscoveryLock` -/
  | release (process : Nat)
  | advance (process : Nat)
  | fail (process : Nat)
deriving DecidableEq

namespace LockHost

variable (host : LockHost)

def isProcessAlive (pid : Nat) : Bool := host.processes.entries.any fun entry => entry.2.alive && entry.2.pid == pid

def put (number : Nat) (process : Process) : LockHost :=
  { host with processes := host.processes.set number process }

/-- A process with an id that no live process has. -/
def spawn (pid : Nat) : LockHost :=
  if pid = 0 ∨ host.isProcessAlive pid then host
  else
    { host with
      processes := host.processes.set host.next { pid := pid, alive := true, phase := .idle, holds := false }
      next := host.next + 1 }

section Process

variable (number : Nat) (process : Process)

/-- `writeFileSync` with `wx` -/
def create (attempt : Nat) : LockHost :=
  match host.lock with
  | none =>
    { host.put number { process with phase := .writing host.next } with
      lock := some { number := host.next, owner := number, pid := none }
      next := host.next + 1 }
  | some _ => host.put number { process with phase := .reading attempt }

/-- The content is written, into the file that the process has created. -/
def write (file : Nat) : LockHost :=
  { host.put number { process with phase := .idle, holds := true } with
    lock := host.lock.map fun lock => if lock.number = file then { lock with pid := some process.pid } else lock }

/-- `readDiscoveryLockPid` in `acquireDiscoveryLock` -/
def read (attempt : Nat) : LockHost :=
  match host.lock with
  | none => host.put number { process with phase := .unlinking attempt none }
  | some lock =>
    match lock.pid with
    | none => host.put number { process with phase := .unlinking attempt (some lock) }
    | some ownerPid =>
      if ownerPid = process.pid then
        { host.put number { process with phase := .idle, holds := true } with lock := some { lock with owner := number } }
      else host.put number { process with phase := .testing attempt (some lock) ownerPid }

def test (attempt : Nat) (seen : Option LockFile) (ownerPid : Nat) : LockHost :=
  host.put number
    { process with phase := if host.isProcessAlive ownerPid then .idle else .unlinking attempt seen }

def unlink (attempt : Nat) : LockHost :=
  { host.put number { process with phase := if attempt + 1 < maxAttempts then .creating (attempt + 1) else .idle } with
    lock := none }

/-- `readDiscoveryLockPid` in `releaseDiscoveryLock` -/
def releaseRead : LockHost :=
  host.put number
    { process with
      phase := if host.lock.bind LockFile.pid = some process.pid then .releaseUnlinking host.lock else .idle }

def releaseUnlink : LockHost :=
  { host.put number { process with phase := .idle, holds := process.holds && host.lock.isNone } with lock := none }

/-- The next step of a process. -/
def advance : LockHost :=
  match process.phase with
  | .idle => host
  | .creating attempt => host.create number process attempt
  | .writing file => host.write number process file
  | .reading attempt => host.read number process attempt
  | .testing attempt seen ownerPid => host.test number process attempt seen ownerPid
  | .unlinking attempt _ => host.unlink number process attempt
  | .releasing => host.releaseRead number process
  | .releaseUnlinking _ => host.releaseUnlink number process

/-- An error ends the call. -/
def fail : LockHost :=
  match process.phase with
  | .writing _ | .unlinking _ _ | .releaseUnlinking _ => host.put number { process with phase := .idle }
  | _ => host

def call (phase : Phase) : LockHost :=
  if process.phase = .idle then host.put number { process with phase := phase } else host

end Process

/-- A step of a process that lives. -/
def act (number : Nat) (action : Nat → Process → LockHost) : LockHost :=
  match host.processes.get? number with
  | some process => if process.alive then action number process else host
  | none => host

def step (host : LockHost) : LockEvent → LockHost
  | .spawn pid => host.spawn pid
  | .crash number => host.act number fun number process => host.put number { process with alive := false }
  | .acquire number => host.act number fun number process => host.call number process (.creating 0)
  | .release number => host.act number fun number process => host.call number process .releasing
  | .advance number => host.act number host.advance
  | .fail number => host.act number host.fail

def new : LockHost := ⟨.empty, none, 0⟩

end LockHost

end Beale.Discovery
