import Beale.WorkerDatabase.Request
import Beale.Library.JsMap
import Beale.Library.Run

/-!
# The database coordinator and its brokers

One `AppServerWorkerDatabaseCoordinator` with the brokers that share it, as a machine over
what the event loop of the app-server does. The loop `drain` is the one part that takes
more than one step: each turn of it is a step, and while it runs (`draining`) nothing else
happens.
-/

namespace Beale.WorkerDatabase

open Beale.Library

variable {σ V O H : Type}

/-! ## A broker -/

/-- An `AppServerWorkerDatabaseBroker`. The `DatabaseSync` of the connection `id` of broker
`b` is `⟨b, id⟩`, so the map of the connections is the list of their ids. -/
structure Broker where
  allowedDatabasePath : JsString
  databaseKey : JsString
  connections : List Nat
  closed : Bool
  nextConnectionId : Nat
deriving DecidableEq, Repr

def memoryPath : JsString := js ":memory:"

def sameDatabasePath (env : SqlitePlatform σ V O H) (candidate allowed : JsString) : Bool :=
  if candidate = memoryPath ∨ allowed = memoryPath then candidate = allowed
  else env.normalizePath candidate = env.normalizePath allowed

def normalizedDatabaseKey (env : SqlitePlatform σ V O H) (path : JsString) : JsString :=
  if path = memoryPath then path else env.normalizePath path

namespace Broker

/-- `new AppServerWorkerDatabaseBroker(allowedDatabasePath, coordinator)`. -/
def new (env : SqlitePlatform σ V O H) (allowedDatabasePath : JsString) : Broker where
  allowedDatabasePath := allowedDatabasePath
  databaseKey := normalizedDatabaseKey env allowedDatabasePath
  connections := []
  closed := false
  nextConnectionId := 1

/-- `execute` of an `open` request. The id is taken before the connection is made. -/
def executeOpen (env : SqlitePlatform σ V O H) (self : Nat) (b : Broker) (db : σ)
    (request : WorkerDatabaseRequest V O) : σ × Broker × Except ResponseError (Value V) :=
  match requiredText request.databasePath (js "databasePath") with
  | .error error => (db, b, .error error)
  | .ok databasePath =>
    if !sameDatabasePath env databasePath b.allowedDatabasePath then
      (db, b, .error (thrown
        (js "The runtime worker requested storage outside its app-server-owned database.")))
    else
      let id := b.nextConnectionId
      let b := { b with nextConnectionId := id + 1 }
      match env.call db ⟨self, id⟩ (.create databasePath request.options) with
      | (db, .error error) => (db, b, .error error)
      | (db, .ok _) =>
        (db, { b with connections := b.connections ++ [id] }, .ok (.connectionId id))

/-- The number in an error message. -/
def idText (id : Nat) : JsString := js (toString id)

/-- `execute` of a request on the open connection `id`. -/
def executeOn (env : SqlitePlatform σ V O H) (self : Nat) (b : Broker) (db : σ) (id : Nat)
    (request : WorkerDatabaseRequest V O) : σ × Broker × Except ResponseError (Value V) :=
  if request.operation = .close then
    match env.call db ⟨self, id⟩ .close with
    | (db, .error error) => (db, b, .error error)
    | (db, .ok _) =>
      (db, { b with connections := b.connections.filter (· ≠ id) }, .ok .undefined)
  else
    match requiredText request.sql (js "sql") with
    | .error error => (db, b, .error error)
    | .ok sql =>
      if request.operation = .exec then
        match env.call db ⟨self, id⟩ (.exec sql) with
        | (db, .error error) => (db, b, .error error)
        | (db, .ok _) => (db, b, .ok .undefined)
      else
        match env.call db ⟨self, id⟩
            (.statement request.operation sql (request.parameters.getD [])) with
        | (db, .error error) => (db, b, .error error)
        | (db, .ok value) => (db, b, .ok (.data value))

/-- `execute(request)`: the value, or what is thrown. -/
def execute (env : SqlitePlatform σ V O H) (self : Nat) (b : Broker) (db : σ)
    (request : WorkerDatabaseRequest V O) : σ × Broker × Except ResponseError (Value V) :=
  if request.operation = .openDatabase then b.executeOpen env self db request
  else
    match requiredConnectionId request.connectionId with
    | .error error => (db, b, .error error)
    | .ok id =>
      if id ∈ b.connections then b.executeOn env self db id request
      else
        (db, b, .error (thrown
          (js "The app-server database connection " ++ idText id ++ js " is not open.")))

end Broker

/-! ## The state -/

/-- A queued request: of a worker, by its broker, or of the host. -/
inductive PendingRequest (V O H : Type) where
  | worker (broker : Nat) (message : Message V O)
  | host (id : Nat) (operation : H)
deriving DecidableEq, Repr

structure CoordinatedDatabaseState (V O H : Type) where
  owner : Option Connection
  pending : List (PendingRequest V O H)
  draining : Bool
deriving DecidableEq, Repr

/-- `{ owner: null, pending: [], draining: false }`. -/
def CoordinatedDatabaseState.fresh : CoordinatedDatabaseState V O H where
  owner := none
  pending := []
  draining := false

/-- What happened. An execution is logged with the connections to the same database that
are in a transaction when it starts. -/
inductive Event (V O : Type) where
  | arrived (broker : Nat) (message : Message V O)
  | executed (broker : Nat) (message : Message V O) (transactions : List Connection)
      (response : Response V)
  | rejected (broker : Nat) (message : Message V O) (response : Response V)
  | hostRan (id : Nat) (transactions : List Connection)
deriving DecidableEq, Repr

/-- A host operation whose promise is not settled. -/
structure RunningHost (H : Type) where
  id : Nat
  databaseKey : JsString
  operation : H
deriving DecidableEq, Repr

/-- The coordinator, its brokers, and SQLite. The coordinator does not keep `running`. -/
structure BrokerSystem (σ V O H : Type) where
  databases : JsMap JsString (CoordinatedDatabaseState V O H)
  brokers : JsMap Nat Broker
  db : σ
  running : List (RunningHost H)
  brokerCount : Nat
  hostCount : Nat
  log : List (Event V O)

namespace BrokerSystem

def new (db : σ) : BrokerSystem σ V O H where
  databases := .empty
  brokers := .empty
  db := db
  running := []
  brokerCount := 0
  hostCount := 0
  log := []

def transactionsOf (env : SqlitePlatform σ V O H) (db : σ) (self : Nat) (b : Broker) :
    List Connection :=
  (b.connections.map (Connection.mk self)).filter (env.inTransaction db)

/-- The connections to a database that are in a transaction. -/
def openTransactions (env : SqlitePlatform σ V O H) (s : BrokerSystem σ V O H) (key : JsString) :
    List Connection :=
  s.brokers.entries.flatMap fun e =>
    if e.2.databaseKey = key then transactionsOf env s.db e.1 e.2 else []

def stateFor (s : BrokerSystem σ V O H) (key : JsString) : CoordinatedDatabaseState V O H :=
  (s.databases.get? key).getD .fresh

def setState (s : BrokerSystem σ V O H) (key : JsString) (state : CoordinatedDatabaseState V O H) :
    BrokerSystem σ V O H :=
  { s with databases := s.databases.set key state }

/-- `if (!state.owner && state.pending.length === 0) this.databases.delete(databaseKey)`. -/
def deleteIdle (s : BrokerSystem σ V O H) (key : JsString) : BrokerSystem σ V O H :=
  if (s.stateFor key).owner = none ∧ (s.stateFor key).pending.isEmpty then
    { s with databases := s.databases.delete key }
  else s

def record (s : BrokerSystem σ V O H) (e : Event V O) : BrokerSystem σ V O H :=
  { s with log := s.log ++ [e] }

/-! ## The coordinator -/

def sameOwner (owner : Connection) (broker : Nat) (connectionId : Option Nat) : Bool :=
  owner.broker = broker && some owner.connectionId = connectionId

def admits (state : CoordinatedDatabaseState V O H) (broker : Nat) (connectionId : Option Nat) :
    Bool :=
  match state.owner with
  | none => true
  | some owner => sameOwner owner broker connectionId

def ownedConnection (state : CoordinatedDatabaseState V O H) (broker : Nat)
    (connectionId : Option Nat) : Bool :=
  match state.owner with
  | some owner => sameOwner owner broker connectionId
  | none => false

def respond : Except ResponseError (Value V) → Response V
  | .ok value => .ok value
  | .error error => .failed error

/-- `executeAndRespond(message)`: whether it has succeeded. -/
def executeAndRespond (env : SqlitePlatform σ V O H) (s : BrokerSystem σ V O H) (self : Nat)
    (b : Broker) (message : Message V O) : BrokerSystem σ V O H × Bool :=
  let transactions := s.openTransactions env b.databaseKey
  let (db, b, result) := b.execute env self s.db message.request
  ({ s with
      db := db
      brokers := s.brokers.set self b
      log := s.log ++ [.executed self message transactions (respond result)] },
    result.isOk)

/-- `drain(databaseKey, state)`, up to its loop. -/
def drain (s : BrokerSystem σ V O H) (key : JsString) : BrokerSystem σ V O H :=
  if (s.stateFor key).draining then s
  else s.setState key { s.stateFor key with draining := true }

/-- `execute(request, state, connectionId)` of the coordinator. -/
def execute (env : SqlitePlatform σ V O H) (s : BrokerSystem σ V O H) (key : JsString)
    (self : Nat) (b : Broker) (message : Message V O) : BrokerSystem σ V O H :=
  let connectionId := requestConnectionId message.request
  let transactionBoundary := explicitTransactionBoundary message.request
  let (s, succeeded) := s.executeAndRespond env self b message
  if !succeeded then s
  else
    match transactionBoundary, connectionId with
    | some .begins, some id =>
      s.setState key { s.stateFor key with owner := some ⟨self, id⟩ }
    | _, _ =>
      if ownedConnection (s.stateFor key) self connectionId &&
          (transactionBoundary = some .ends || message.request.operation = .close)
      then (s.setState key { s.stateFor key with owner := none }).drain key
      else s

def dispatch (env : SqlitePlatform σ V O H) (s : BrokerSystem σ V O H) (self : Nat) (b : Broker)
    (message : Message V O) : BrokerSystem σ V O H :=
  let state := s.stateFor b.databaseKey
  if admits state self (requestConnectionId message.request) then
    (s.execute env b.databaseKey self b message).deleteIdle b.databaseKey
  else
    s.setState b.databaseKey { state with pending := state.pending ++ [.worker self message] }

/-- A host operation runs, up to its first `await` or its end. -/
def executeHost (env : SqlitePlatform σ V O H) (s : BrokerSystem σ V O H) (key : JsString)
    (id : Nat) (operation : H) : BrokerSystem σ V O H :=
  let (db, settled) := env.runHost s.db operation
  let s' := s.record (.hostRan id (s.openTransactions env key))
  { s' with
    db := db
    running := if settled then s.running else s.running ++ [⟨id, key, operation⟩] }

def runWhenAvailable (env : SqlitePlatform σ V O H) (s : BrokerSystem σ V O H)
    (databasePath : JsString) (operation : H) : BrokerSystem σ V O H :=
  let key := normalizedDatabaseKey env databasePath
  let id := s.hostCount
  let s := { s with hostCount := id + 1 }
  let state := s.stateFor key
  if state.owner.isSome then
    s.setState key { state with pending := state.pending ++ [.host id operation] }
  else (s.executeHost env key id operation).deleteIdle key

/-- The continuation of a running host operation runs, up to its next `await` or its end. -/
def resumeHost (env : SqlitePlatform σ V O H) (s : BrokerSystem σ V O H) (host : RunningHost H) :
    BrokerSystem σ V O H :=
  { s with running := s.running.filter (·.id ≠ host.id) }.executeHost env host.databaseKey host.id
    host.operation

/-- One turn of the loop of `drain`, or its end. -/
def drainTurn (env : SqlitePlatform σ V O H) (s : BrokerSystem σ V O H) (key : JsString) :
    BrokerSystem σ V O H :=
  let state := s.stateFor key
  match state.owner, state.pending with
  | none, request :: rest =>
    let s := s.setState key { state with pending := rest }
    match request with
    | .host id operation => s.executeHost env key id operation
    | .worker self message =>
      match s.brokers.get? self with
      | some b => s.execute env key self b message
      | none => s
  | _, _ => (s.setState key { state with draining := false }).deleteIdle key

/-! ## The brokers -/

def PendingRequest.ofBroker (self : Nat) : PendingRequest V O H → Option (Message V O)
  | .worker broker message => if broker = self then some message else none
  | .host _ _ => none

def closedBeforeRun : Response V :=
  .failed (thrown
    (js "The app-server database broker closed before the queued operation could run."))

def brokerClosed : Response V :=
  .failed (thrown (js "The app-server database broker is closed."))

def unregister (s : BrokerSystem σ V O H) (self : Nat) (key : JsString) : BrokerSystem σ V O H :=
  let state := s.stateFor key
  let withdrawn := state.pending.filterMap (PendingRequest.ofBroker self)
  let retained := state.pending.filter fun request => (PendingRequest.ofBroker self request).isNone
  let owner := match state.owner with
    | some owner => if owner.broker = self then none else some owner
    | none => none
  let s := { s with log := s.log ++ withdrawn.map fun message => Event.rejected self message closedBeforeRun }
  (s.setState key { state with owner := owner, pending := retained }).drain key

/-- `handle(message)` of the broker. -/
def handle (env : SqlitePlatform σ V O H) (s : BrokerSystem σ V O H) (self : Nat) (b : Broker)
    (message : Message V O) : BrokerSystem σ V O H :=
  let s := s.record (.arrived self message)
  if b.closed then s.record (.rejected self message brokerClosed)
  else s.dispatch env self b message

/-- The connections are closed, whatever each `close` throws. -/
def closeConnections (env : SqlitePlatform σ V O H) (db : σ) (self : Nat) (connections : List Nat) :
    σ :=
  connections.foldl (fun db id => (env.call db ⟨self, id⟩ .close).1) db

/-- `close()` of the broker. -/
def close (env : SqlitePlatform σ V O H) (s : BrokerSystem σ V O H) (self : Nat) (b : Broker) :
    BrokerSystem σ V O H :=
  if b.closed then s
  else
    { s with
      db := closeConnections env s.db self b.connections
      brokers := s.brokers.set self { b with closed := true, connections := [] } }.unregister
      self b.databaseKey

/-! ## Steps -/

/-- What the event loop does next. -/
inductive Input (V O H : Type) where
  | createBroker (allowedDatabasePath : JsString)
  | message (broker : Nat) (message : Message V O)
  | closeBroker (broker : Nat)
  | runWhenAvailable (databasePath : JsString) (operation : H)
  | resumeHost (id : Nat)
  | drainTurn (key : JsString)
deriving DecidableEq, Repr

/-- A loop of `drain` is running. -/
def looping (s : BrokerSystem σ V O H) : Bool := s.databases.values.any (·.draining)

def executes (s : BrokerSystem σ V O H) : Input V O H → Option (Nat × Broker × Message V O)
  | .message self message =>
    match s.brokers.get? self with
    | some b =>
      if !s.looping && !b.closed &&
          admits (s.stateFor b.databaseKey) self (requestConnectionId message.request)
      then some (self, b, message)
      else none
    | none => none
  | .drainTurn key =>
    match (s.stateFor key).draining, (s.stateFor key).owner, (s.stateFor key).pending with
    | true, none, .worker self message :: _ =>
      (s.brokers.get? self).map fun b => (self, b, message)
    | _, _, _ => none
  | _ => none

/-- What an input other than a turn of the loop does. -/
def deliver (env : SqlitePlatform σ V O H) (s : BrokerSystem σ V O H) :
    Input V O H → BrokerSystem σ V O H
  | .createBroker allowedDatabasePath =>
    { s with
      brokers := s.brokers.set s.brokerCount (.new env allowedDatabasePath)
      brokerCount := s.brokerCount + 1 }
  | .message self message =>
    match s.brokers.get? self with
    | some b => s.handle env self b message
    | none => s
  | .closeBroker self =>
    match s.brokers.get? self with
    | some b => s.close env self b
    | none => s
  | .runWhenAvailable databasePath operation => s.runWhenAvailable env databasePath operation
  | .resumeHost id =>
    match s.running.find? (·.id = id) with
    | some host => s.resumeHost env host
    | none => s
  | .drainTurn _ => s

/-- One step. While a loop runs, its turns are all that happens. -/
def step (env : SqlitePlatform σ V O H) (s : BrokerSystem σ V O H) (i : Input V O H) :
    BrokerSystem σ V O H :=
  match i with
  | .drainTurn key => if (s.stateFor key).draining then s.drainTurn env key else s
  | i => if s.looping then s else s.deliver env i

theorem step_cases (env : SqlitePlatform σ V O H) (s : BrokerSystem σ V O H) (i : Input V O H) :
    s.step env i = s ∨
      (∃ key, i = .drainTurn key ∧ (s.stateFor key).draining = true ∧
        s.step env i = s.drainTurn env key) ∨
      (s.looping = false ∧ s.step env i = s.deliver env i) := by
  have hdeliver : ∀ s' : BrokerSystem σ V O H, (if s.looping then s else s') = s ∨
      (s.looping = false ∧ (if s.looping then s else s') = s') := by
    intro s'
    cases s.looping with
    | true => exact .inl rfl
    | false => exact .inr ⟨rfl, rfl⟩
  cases i with
  | drainTurn key =>
    unfold step
    by_cases hdrain : (s.stateFor key).draining = true
    · exact .inr (.inl ⟨key, rfl, hdrain, if_pos hdrain⟩)
    · exact .inl (if_neg hdrain)
  | _ => exact (hdeliver _).imp_right .inr

/-! ## What the small operations leave alone -/

section

variable (s : BrokerSystem σ V O H) (key key' : JsString)
include s key key'

theorem stateFor_setState (state : CoordinatedDatabaseState V O H) :
    (s.setState key state).stateFor key' = if key' = key then state else s.stateFor key' := by
  unfold setState stateFor
  rw [JsMap.get?_set]
  split <;> rfl

theorem stateFor_deleteIdle : (s.deleteIdle key).stateFor key' = s.stateFor key' ∨
      (s.stateFor key').owner = none ∧ (s.stateFor key').pending = [] ∧
        (s.deleteIdle key).stateFor key' = .fresh := by
  unfold deleteIdle
  split
  · next hidle =>
    by_cases hkey : key' = key
    · subst hkey
      refine .inr ⟨hidle.1, List.isEmpty_iff.mp hidle.2, ?_⟩
      unfold stateFor
      rw [JsMap.get?_delete, if_pos rfl]
      rfl
    · left
      unfold stateFor
      rw [JsMap.get?_delete, if_neg hkey]
  · exact .inl rfl

@[simp] theorem deleteIdle_owner :
    ((s.deleteIdle key).stateFor key').owner = (s.stateFor key').owner := by
  rcases stateFor_deleteIdle s key key' with h | ⟨howner, -, h⟩
  · rw [h]
  · rw [h, howner]
    rfl

@[simp] theorem deleteIdle_pending :
    ((s.deleteIdle key).stateFor key').pending = (s.stateFor key').pending := by
  rcases stateFor_deleteIdle s key key' with h | ⟨-, hpend, h⟩
  · rw [h]
  · rw [h, hpend]
    rfl

end

/-- The fields apart from the databases. -/
structure SameBrokers (s s' : BrokerSystem σ V O H) : Prop where
  brokers : s'.brokers = s.brokers
  db : s'.db = s.db
  running : s'.running = s.running
  brokerCount : s'.brokerCount = s.brokerCount
  log : s'.log = s.log

theorem SameBrokers.refl (s : BrokerSystem σ V O H) : SameBrokers s s := ⟨rfl, rfl, rfl, rfl, rfl⟩

theorem SameBrokers.trans {s s' s'' : BrokerSystem σ V O H} (h : SameBrokers s s')
    (h' : SameBrokers s' s'') : SameBrokers s s'' where
  brokers := h'.brokers.trans h.brokers
  db := h'.db.trans h.db
  running := h'.running.trans h.running
  brokerCount := h'.brokerCount.trans h.brokerCount
  log := h'.log.trans h.log

section

variable (s : BrokerSystem σ V O H)
include s

theorem setState_same (key : JsString)
    (state : CoordinatedDatabaseState V O H) : SameBrokers s (s.setState key state) :=
  ⟨rfl, rfl, rfl, rfl, rfl⟩

theorem deleteIdle_same (key : JsString) : SameBrokers s (s.deleteIdle key) := by
  unfold deleteIdle
  split
  · exact ⟨rfl, rfl, rfl, rfl, rfl⟩
  · exact .refl s

theorem drain_same (key : JsString) : SameBrokers s (s.drain key) := by
  unfold drain
  split
  · exact .refl s
  · exact setState_same s key _

theorem stateFor_drain (key key' : JsString) : (s.drain key).stateFor key' =
      if key' = key then { s.stateFor key with draining := true } else s.stateFor key' := by
  unfold drain
  split
  · next hdrain =>
    split
    · next hkey => rw [hkey, ← hdrain]
    · rfl
  · exact stateFor_setState s key key' _

@[simp] theorem drain_owner (key key' : JsString) :
    ((s.drain key).stateFor key').owner = (s.stateFor key').owner := by
  rw [stateFor_drain]
  split
  · next hkey => rw [hkey]
  · rfl

@[simp] theorem drain_pending (key key' : JsString) :
    ((s.drain key).stateFor key').pending = (s.stateFor key').pending := by
  rw [stateFor_drain]
  split
  · next hkey => rw [hkey]
  · rfl

end

/-- While no loop runs, no database is draining. -/
theorem not_draining {s : BrokerSystem σ V O H} (h : s.looping = false) (key : JsString) :
    (s.stateFor key).draining = false := by
  unfold stateFor
  cases hget : s.databases.get? key with
  | none => rfl
  | some state =>
    unfold looping at h
    rw [List.any_eq_false] at h
    simpa using h state (JsMap.mem_values_of_get? hget)

end BrokerSystem

end Beale.WorkerDatabase
