import Beale.Library.JsString
import Mathlib.Data.List.Basic

/-!
# Requests of a brokered worker database

A runtime worker has no SQLite of its own: it posts its operations to the app-server,
which executes them on its own connections. This module is the vocabulary of that
exchange.
-/

namespace Beale.WorkerDatabase

open Beale.Library

/-! ## The messages -/

inductive Operation where
  | openDatabase
  | exec
  | all
  | get
  | run
  | close
deriving DecidableEq, Repr

/-- A request. `V` are the values of SQLite, `O` the options of a connection. A
`connectionId` that is no integer fails the checks as one that is not positive does. -/
structure WorkerDatabaseRequest (V O : Type) where
  connectionId : Option Int
  operation : Operation
  databasePath : Option JsString
  options : Option O
  sql : Option JsString
  parameters : Option (List V)
deriving DecidableEq, Repr

/-- The `error` of a response. -/
structure ResponseError where
  message : JsString
  code : Option JsString
  requiredBytes : Option Nat
deriving DecidableEq, Repr

/-- What an operation returns. -/
inductive Value (V : Type) where
  | undefined
  | connectionId (id : Nat)
  | data (value : V)
deriving DecidableEq, Repr

/-- A response: `{ ok: true, value }` or `{ ok: false, error }`. -/
inductive Response (V : Type) where
  | ok (value : Value V)
  | failed (error : ResponseError)
deriving DecidableEq, Repr

/-- A `SharedArrayBuffer` a worker has made for its responses: the `index`-th of its client. -/
structure SharedBuffer where
  client : Nat
  index : Nat
  byteLength : Nat
deriving DecidableEq, Repr

/-- A message `database.request`. Nothing reads `posting`: it tells apart messages that
are equal otherwise, as the identity of the objects does. -/
structure Message (V O : Type) where
  request : WorkerDatabaseRequest V O
  responseBuffer : SharedBuffer
  posting : Nat
deriving DecidableEq, Repr

/-- `new Error(message)`, as a response reports it. -/
def thrown (message : JsString) : ResponseError where
  message := message
  code := none
  requiredBytes := none

/-! ## The checks of a request -/

variable {V O : Type}

def requiredText (value : Option JsString) (name : JsString) : Except ResponseError JsString :=
  match value with
  | some text => if isBlank text then .error (thrown (name ++ js " is required.")) else .ok text
  | none => .error (thrown (name ++ js " is required."))

def requiredConnectionId (value : Option Int) : Except ResponseError Nat :=
  match value with
  | some id =>
    if id ≤ 0 then .error (thrown (js "A valid app-server database connection ID is required."))
    else .ok id.toNat
  | none => .error (thrown (js "A valid app-server database connection ID is required."))

def requestConnectionId (request : WorkerDatabaseRequest V O) : Option Nat :=
  match request.connectionId with
  | some id => if 0 < id then some id.toNat else none
  | none => none

theorem requiredConnectionId_ok {value : Option Int} {id : Nat}
    (h : requiredConnectionId value = .ok id) : ∃ i : Int, value = some i ∧ 0 < i ∧ i.toNat = id := by
  cases value with
  | none => cases h
  | some i =>
    rw [requiredConnectionId] at h
    split at h
    · cases h
    · next hpos => exact ⟨i, rfl, Int.not_le.mp hpos, Except.ok.inj h⟩

theorem requestConnectionId_of_ok {request : WorkerDatabaseRequest V O} {id : Nat}
    (h : requiredConnectionId request.connectionId = .ok id) :
    requestConnectionId request = some id := by
  obtain ⟨i, hvalue, hpos, rfl⟩ := requiredConnectionId_ok h
  rw [requestConnectionId, hvalue]
  exact if_pos hpos

/-! ## Transaction boundaries -/

/-- What `explicitTransactionBoundary` recognises: `'begin'` or `'end'`. -/
inductive Boundary where
  | begins
  | ends
deriving DecidableEq, Repr

/-- `s.replace(/;\s*$/, "")`. -/
def stripTerminator (s : JsString) : JsString :=
  if (trimEnd s).getLast? = some 0x3B then (trimEnd s).dropLast else s

/-- The case folding of a pattern with the flag `i`: no unit outside ASCII folds into it. -/
def foldCase (u : UInt16) : UInt16 := if 0x61 ≤ u ∧ u ≤ 0x7A then u - 0x20 else u

/-- The parts of a string between runs of white space. -/
def splitWhitespace (s : JsString) : List JsString :=
  (s.splitOnP isWhitespace).filter (· ≠ [])

/-- `BEGIN [DEFERRED | IMMEDIATE | EXCLUSIVE] [TRANSACTION]`. -/
def beginsTransaction : List JsString → Bool
  | [] => false
  | first :: rest =>
    first = js "BEGIN" &&
      let rest := match rest with
        | mode :: rest' =>
          if mode ∈ [js "DEFERRED", js "IMMEDIATE", js "EXCLUSIVE"] then rest' else rest
        | [] => []
      rest = [] || rest = [js "TRANSACTION"]

/-- `COMMIT | END | ROLLBACK [TRANSACTION]`. -/
def endsTransaction : List JsString → Bool
  | [] => false
  | first :: rest =>
    first ∈ [js "COMMIT", js "END", js "ROLLBACK"] && (rest = [] || rest = [js "TRANSACTION"])

/-- The boundary that the text of an `exec` is. -/
def sqlBoundary (sql : JsString) : Option Boundary :=
  let words := splitWhitespace ((trim (stripTerminator (trim sql))).map foldCase)
  if beginsTransaction words then some .begins
  else if endsTransaction words then some .ends
  else none

def explicitTransactionBoundary (request : WorkerDatabaseRequest V O) : Option Boundary :=
  match request.operation, request.sql with
  | .exec, some sql => sqlBoundary sql
  | _, _ => none

example : sqlBoundary (js " begin  Immediate ;\n") = some .begins := by decide

/-! ## SQLite -/

/-- A `DatabaseSync`: the connection that a broker knows under an id. -/
structure Connection where
  broker : Nat
  connectionId : Nat
deriving DecidableEq, Repr

/-- The call of the SQLite module that an operation makes. `prepare` and the method of
the statement are one call. -/
inductive SqliteCall (V O : Type) where
  | create (databasePath : JsString) (options : Option O)
  | exec (sql : JsString)
  | statement (method : Operation) (sql : JsString) (parameters : List V)
  | close
deriving DecidableEq, Repr

/-- What the broker gets from outside: SQLite with the files under it (`σ`), the operations
that the host passes to `runWhenAvailable` (`H`), and the normal form of a path. -/
structure SqlitePlatform (σ V O H : Type) where
  call : σ → Connection → SqliteCall V O → σ × Except ResponseError V
  /-- whether the connection is inside a transaction -/
  inTransaction : σ → Connection → Bool
  /-- runs a host operation until it awaits or ends: whether its promise is settled then -/
  runHost : σ → H → σ × Bool
  normalizePath : JsString → JsString

/-- What SQLite documents. A connection's transaction is its own; a host operation opens
connections of its own. -/
structure SqlitePlatform.Lawful {σ V O H : Type} (env : SqlitePlatform σ V O H) : Prop where
  call_frame : ∀ db c call c', c' ≠ c →
    env.inTransaction (env.call db c call).1 c' = env.inTransaction db c'
  host_frame : ∀ db operation c,
    env.inTransaction (env.runHost db operation).1 c = env.inTransaction db c
  /-- a new connection is in autocommit mode -/
  create_clear : ∀ db c databasePath options,
    env.inTransaction (env.call db c (.create databasePath options)).1 c = false
  /-- `BEGIN` starts a transaction, or fails -/
  begin_opens : ∀ db c sql value, sqlBoundary sql = some .begins →
    (env.call db c (.exec sql)).2 = .ok value →
    env.inTransaction (env.call db c (.exec sql)).1 c = true
  /-- `COMMIT` and `ROLLBACK` end it, or fail -/
  end_closes : ∀ db c sql value, sqlBoundary sql = some .ends →
    (env.call db c (.exec sql)).2 = .ok value →
    env.inTransaction (env.call db c (.exec sql)).1 c = false
  /-- closing a connection rolls its transaction back; it fails if the database is not open -/
  close_clear : ∀ db c, env.inTransaction (env.call db c .close).1 c = false
  close_fails : ∀ db c error, (env.call db c .close).2 = .error error →
    env.inTransaction db c = false

end Beale.WorkerDatabase
