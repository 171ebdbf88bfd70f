import Beale.Library.JsMap
import Beale.Library.JsString
import Beale.Library.Run
import Mathlib.Data.List.Sort

/-!
# The model broker's spool

`FleetModelBrokerQueue` keeps the model requests of guest sessions as files: of a request
`id` there are `id.request.json`, `id.state.json`, `id.part` and `id.result.json`. Temporary
files are not modelled, since nothing reads them; what a crash leaves of a `submit` is a
prefix of its writes.
-/

namespace Beale.Fleet

open Beale.Library

abbrev Bytes := List UInt8

/-! ## Files -/

/-- `state` of a `BrokerState`. -/
inductive Progress where
  | pending
  | done
deriving DecidableEq, Repr

/-- A `BrokerState`. `randomUUID` gives an id that has not been given before: a number. -/
structure BrokerState where
  leaseId : Option Nat
  leaseUntil : Nat
  state : Progress
deriving DecidableEq, Repr

structure RequestFiles where
  request : Option JsString
  state : Option BrokerState
  part : Option Bytes
  result : Option Bytes
deriving DecidableEq, Repr

def RequestFiles.none : RequestFiles := ⟨.none, .none, .none, .none⟩

/-- The directory of a session: the token of `session.json`, and the files of its requests. -/
structure SessionDirectory where
  token : JsString
  requests : JsMap JsString RequestFiles

/-- What the queue takes from outside: requests, JSON, and the encodings of Node.js. -/
structure BrokerPlatform (R : Type) where
  id : R → JsString
  provider : R → JsString
  modelId : R → JsString
  /-- `request.context && typeof request.context === "object"` -/
  hasContext : R → Bool
  stringify : R → JsString
  parse : JsString → R
  byteLength : JsString → Nat
  /-- `Buffer.from(data, "base64")` and `bytes.toString("base64")` -/
  fromBase64 : JsString → Bytes
  toBase64 : Bytes → JsString
  sha256 : Bytes → JsString
  /-- `JSON.parse(bytes.toString("utf8"))`, and the `state` of its value, where there is one -/
  parseResult : Bytes → Option (Option JsString)

/-- What was done to a request, or to a session. -/
inductive Event where
  | leased (session id : JsString) (lease : Nat)
  | began (session id : JsString) (lease : Nat)
  | accepted (session id : JsString) (lease : Nat) (bytes : Bytes)
  | sealedWith (session id : JsString) (lease : Nat) (sha256 : JsString)
  | removed (session : JsString)
deriving DecidableEq, Repr

/-- The spool directory, the number of lease ids given out, and what was done. -/
structure Spool where
  sessions : JsMap JsString SessionDirectory
  issued : Nat
  log : List Event

namespace Spool

/-- `new FleetModelBrokerQueue(root)` on an empty directory. -/
def new : Spool where
  sessions := .empty
  issued := 0
  log := []

def files (s : Spool) (session id : JsString) : RequestFiles :=
  match s.sessions.get? session with
  | some directory => (directory.requests.get? id).getD .none
  | none => .none

def write (s : Spool) (session id : JsString) (f : RequestFiles) : Spool :=
  { s with sessions := s.sessions.modify session fun directory =>
      { directory with requests := directory.requests.set id f } }

def record (s : Spool) (e : Event) : Spool := { s with log := s.log ++ [e] }

/-! ## Checks -/

/-- `/^[A-Za-z0-9][A-Za-z0-9._-]{0,127}$/u`. -/
def isId (text : JsString) : Bool :=
  let alphanumeric : UInt16 → Bool := fun u =>
    (0x30 ≤ u && u ≤ 0x39) || (0x41 ≤ u && u ≤ 0x5A) || (0x61 ≤ u && u ≤ 0x7A)
  match text with
  | [] => false
  | first :: rest =>
    alphanumeric first && rest.length ≤ 127 &&
      rest.all fun u => alphanumeric u || u = 0x2E || u = 0x5F || u = 0x2D

def leaseMs : Nat := 30000
def maxRequestBytes : Nat := 16 * 1024 * 1024
def maxResultBytes : Nat := 16 * 1024 * 1024
def maxRequestsPerSession : Nat := 5000

/-- `sessionDirectory(id)`, and what is there. -/
def directory (s : Spool) (session : JsString) : Except JsString (Option SessionDirectory) :=
  if isId session then .ok (s.sessions.get? session)
  else .error (js "Invalid broker session ID.")

def safeId (id : JsString) : Except JsString Unit :=
  if isId id then .ok () else .error (js "Invalid broker request ID.")

/-- `authorize(sessionId, token)`: the directory. -/
def authorize (s : Spool) (session token : JsString) : Except JsString SessionDirectory := do
  match ← s.directory session with
  | some directory =>
    if !directory.token.isEmpty && token = directory.token then .ok directory
    else .error (js "Invalid model broker session token.")
  | none => .error (js "Invalid model broker session token.")

def readState (s : Spool) (session id : JsString) : Except JsString BrokerState := do
  let _ ← s.directory session
  safeId id
  match (s.files session id).state with
  | some state => .ok state
  | none => .error (js "Unknown model broker request.")

/-- `requireLease(sessionId, requestId, leaseId)`, at the time `now`. -/
def requireLease (s : Spool) (session id : JsString) (lease now : Nat) :
    Except JsString BrokerState := do
  let state ← s.readState session id
  if state.state ≠ .pending ∨ state.leaseId ≠ some lease ∨ state.leaseUntil < now then
    .error (js "Model broker lease has expired.")
  else .ok state

/-! ## Requests -/

/-- A write of `submit`: of the request file, of a temporary file, and the renaming of that
one to the state file. -/
inductive Write where
  | request (serialized : JsString)
  | temporary
  | state (state : BrokerState)
deriving DecidableEq, Repr

def Write.apply (f : RequestFiles) : Write → RequestFiles
  | .request serialized => { f with request := some serialized }
  | .temporary => f
  | .state next => { f with state := some next }

/-- The writes of a request that is not there yet. -/
def newWrites (serialized : JsString) : List Write :=
  [.request serialized, .temporary, .state { leaseId := none, leaseUntil := 0, state := .pending }]

/-- The number of `.request.json` files of a directory. -/
def requestCount (directory : SessionDirectory) : Nat :=
  directory.requests.values.countP (·.request.isSome)

/-- The writes of `submit(sessionId, token, request)`, once its checks have passed. -/
def submitWrites {R : Type} (env : BrokerPlatform R) (s : Spool) (session token : JsString)
    (request : R) : Except JsString (List Write) := do
  let directory ← s.authorize session token
  if !isId (env.id request) || !isId (env.provider request) || !isId (env.modelId request) ||
      !env.hasContext request then
    .error (js "Invalid model broker request.")
  let serialized := env.stringify request
  if env.byteLength serialized > maxRequestBytes then
    .error (js "Model broker request exceeds its size limit.")
  match (s.files session (env.id request)).request with
  | some existing =>
    if existing ≠ serialized then
      .error (js "Model broker request ID was reused with different content.")
    else .ok []
  | none =>
    if requestCount directory ≥ maxRequestsPerSession then
      .error (js "Model broker session request limit reached.")
    else .ok (newWrites serialized)

/-- `submit`, of which a crash leaves the first `writes` writes. -/
def submit {R : Type} (env : BrokerPlatform R) (s : Spool) (session token : JsString) (request : R)
    (writes : Nat) : Except JsString Spool := do
  let plan ← s.submitWrites env session token request
  let f := (plan.take writes).foldl Write.apply (s.files session (env.id request))
  .ok (s.write session (env.id request) f)

/-- The writes a `submit` makes that is not cut short. -/
def allWrites : Nat := 3

/-- What `result` returns: `{ state: "pending" }`, or the bytes it parses. -/
inductive Outcome where
  | pending
  | value (bytes : Bytes)
deriving DecidableEq, Repr

def result (s : Spool) (session token id : JsString) : Except JsString Outcome := do
  let _ ← s.authorize session token
  let state ← s.readState session id
  if state.state ≠ .done then .ok .pending
  else
    match (s.files session id).result with
    | some bytes => .ok (.value bytes)
    | none => .error (js "ENOENT")

/-! ## Leases -/

def requestFileName (id : JsString) : JsString := id ++ js ".request.json"

/-- The requests that `readdirSync(directory)…sort()` names. -/
def listed (directory : SessionDirectory) : List JsString :=
  ((directory.requests.entries.filter (·.2.request.isSome)).map Prod.fst).insertionSort
    fun a b => requestFileName a ≤ requestFileName b

/-- The loop of `poll` over the listed requests: the first that may be leased, and how often the
clock has been read. -/
def pollFrom (s : Spool) (session : JsString) (now : Nat → Nat) :
    Nat → List JsString → Except JsString (Option (JsString × Nat))
  | _, [] => .ok none
  | readings, id :: rest =>
    match s.readState session id with
    | .error error => .error error
    | .ok state =>
      if state.state = .done then s.pollFrom session now readings rest
      else if now readings < state.leaseUntil then s.pollFrom session now (readings + 1) rest
      else .ok (some (id, readings + 1))

/-- `poll(sessionId)`: the request id and the lease. `now k` is the `k`-th reading of the clock. -/
def poll (s : Spool) (session : JsString) (now : Nat → Nat) :
    Except JsString (Spool × Option (JsString × Nat)) := do
  match ← s.directory session with
  | none => .error (js "Model broker session is unavailable.")
  | some directory =>
    match ← s.pollFrom session now 0 (listed directory) with
    | none => .ok (s, none)
    | some (id, readings) =>
      let lease := s.issued
      let state : BrokerState :=
        { leaseId := some lease, leaseUntil := now readings + leaseMs, state := .pending }
      let s' := s.write session id { s.files session id with state := some state }
      .ok ({ s' with issued := lease + 1 }.record (.leased session id lease), some (id, lease))

def renew (s : Spool) (session id : JsString) (lease : Nat) (now : Nat → Nat) :
    Except JsString Spool := do
  let state ← s.requireLease session id lease (now 0)
  .ok (s.write session id { s.files session id with
    state := some { state with leaseUntil := now 1 + leaseMs } })

/-! ## Results -/

def beginResult (s : Spool) (session id : JsString) (lease now : Nat) : Except JsString Spool := do
  let _ ← s.requireLease session id lease now
  .ok ((s.write session id { s.files session id with part := some [] }).record
    (.began session id lease))

/-- `Number.MAX_SAFE_INTEGER`. -/
def maxSafeInteger : Nat := 2 ^ 53 - 1

/-- `appendResult(sessionId, requestId, leaseId, offset, data)`. An `offset` that is no integer
fails the check as a negative one does. -/
def appendResult {R : Type} (env : BrokerPlatform R) (s : Spool) (session id : JsString)
    (lease now : Nat) (offset : Int) (data : JsString) : Except JsString Spool := do
  let _ ← s.requireLease session id lease now
  if offset < 0 ∨ offset > maxSafeInteger ∨ data.length > 256 * 1024 then
    .error (js "Invalid broker result chunk.")
  let bytes := env.fromBase64 data
  if env.toBase64 bytes ≠ data ∨ bytes.length > 192 * 1024 then
    .error (js "Invalid broker result encoding.")
  match (s.files session id).part with
  | none => .error (js "Broker result chunk is out of sequence.")
  | some part =>
    if (part.length : Int) ≠ offset ∨ part.length + bytes.length > maxResultBytes then
      .error (js "Broker result chunk is out of sequence.")
    else
      .ok ((s.write session id { s.files session id with part := some (part ++ bytes) }).record
        (.accepted session id lease bytes))

def sealResult {R : Type} (env : BrokerPlatform R) (s : Spool) (session id : JsString)
    (lease now : Nat) (sha256 : JsString) : Except JsString Spool := do
  let _ ← s.requireLease session id lease now
  match (s.files session id).part with
  | none => .error (js "ENOENT")
  | some bytes =>
    if env.sha256 bytes ≠ sha256 then .error (js "Broker result integrity check failed.")
    match env.parseResult bytes with
    | none => .error (js "SyntaxError")
    | some state =>
      if state ≠ some (js "done") ∧ state ≠ some (js "error") then
        .error (js "Invalid broker result.")
      else
        .ok ((s.write session id { s.files session id with
          result := some bytes
          state := some { leaseId := none, leaseUntil := 0, state := .done } }).record
            (.sealedWith session id lease sha256))

/-! ## Sessions -/

/-- `register(sessionId)`, with the token that `randomBytes` would give a new session. -/
def register (s : Spool) (session token : JsString) : Except JsString Spool := do
  match ← s.directory session with
  | some _ => .ok s
  | none => .ok { s with sessions := s.sessions.set session { token := token, requests := .empty } }

def remove (s : Spool) (session : JsString) : Except JsString Spool := do
  let _ ← s.directory session
  .ok ({ s with sessions := s.sessions.delete session }.record (.removed session))

/-! ## Steps -/

/-- A call, with what the clock says and what is random. -/
inductive Input (R : Type) where
  | register (session token : JsString)
  | submit (session token : JsString) (request : R)
  | crashedSubmit (session token : JsString) (request : R) (writes : Nat)
  | result (session token id : JsString)
  | poll (session : JsString) (now : Nat → Nat)
  | renew (session id : JsString) (lease : Nat) (now : Nat → Nat)
  | beginResult (session id : JsString) (lease now : Nat)
  | appendResult (session id : JsString) (lease now : Nat) (offset : Int) (data : JsString)
  | sealResult (session id : JsString) (lease now : Nat) (sha256 : JsString)
  | remove (session : JsString)

/-- What a call does to the spool; every check stands before the first write. -/
def perform {R : Type} (env : BrokerPlatform R) (s : Spool) : Input R → Except JsString Spool
  | .register session token => s.register session token
  | .submit session token request => s.submit env session token request allWrites
  | .crashedSubmit session token request writes => s.submit env session token request writes
  | .result session token id => (s.result session token id).map fun _ => s
  | .poll session now => (s.poll session now).map Prod.fst
  | .renew session id lease now => s.renew session id lease now
  | .beginResult session id lease now => s.beginResult session id lease now
  | .appendResult session id lease now offset data =>
    s.appendResult env session id lease now offset data
  | .sealResult session id lease now sha256 => s.sealResult env session id lease now sha256
  | .remove session => s.remove session

/-- One step: a call that fails changes nothing. -/
def step {R : Type} (env : BrokerPlatform R) (s : Spool) (i : Input R) : Spool :=
  match s.perform env i with
  | .ok s' => s'
  | .error _ => s

end Spool

end Beale.Fleet
