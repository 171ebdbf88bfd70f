import Beale.WorkerDatabase.Accounting

/-!
# The transaction lease

While a connection is in a transaction, the coordinator should let nobody else run. It does
not ask SQLite: it reads the texts of the requests, and whether they succeed.

- `Broker.execute_effect`, `execute_leaseInv`: what one request does to the transactions, and that the
  owner follows.
- `reached_leaseDiscipline`: runs whose steps meet the condition.
- `reached_queuesKept`: no request is lost, in any run.
- `rolled_back_lease_is_kept`: a statement that rolls the transaction back leaves the lease.
-/

namespace Beale.WorkerDatabase

open Beale.Library

variable {σ V O H : Type} {env : SqlitePlatform σ V O H}

/-! ## The condition -/

/-- The call of SQLite that a request on an open connection makes, if its text is there. -/
def requestCall (request : WorkerDatabaseRequest V O) : Option (SqliteCall V O) :=
  match request.operation, requiredText request.sql (js "sql") with
  | .openDatabase, _ => none
  | .close, _ => some .close
  | _, .error _ => none
  | .exec, .ok sql => some (.exec sql)
  | method, .ok sql => some (.statement method sql (request.parameters.getD []))

/-- The call succeeds as a boundary that the coordinator recognises, or leaves the
connection in a transaction if and only if it was in one. -/
def LeavesTransaction (env : SqlitePlatform σ V O H) (db : σ) (c : Connection) :
    SqliteCall V O → Prop
  | .exec sql =>
    ((sqlBoundary sql).isSome ∧ (env.call db c (.exec sql)).2.isOk) ∨
      env.inTransaction (env.call db c (.exec sql)).1 c = env.inTransaction db c
  | .statement method sql parameters =>
    env.inTransaction (env.call db c (.statement method sql parameters)).1 c
      = env.inTransaction db c
  | .create .. | .close => True

/-- Where the call is a `BEGIN` that succeeds, no host operation on the database is running. -/
def BeginsApart (env : SqlitePlatform σ V O H) (s : BrokerSystem σ V O H) (key : JsString)
    (c : Connection) : SqliteCall V O → Prop
  | .exec sql =>
    sqlBoundary sql = some .begins → (env.call s.db c (.exec sql)).2.isOk →
      ∀ host ∈ s.running, host.databaseKey ≠ key
  | _ => True

def callOn (b : Broker) (request : WorkerDatabaseRequest V O) : Option (Nat × SqliteCall V O) :=
  match requestConnectionId request, requestCall request with
  | some id, some call => if id ∈ b.connections then some (id, call) else none
  | _, _ => none

/-- SQLite does with the request of a step what the coordinator reads off its text. -/
def ExecutionSafe (env : SqlitePlatform σ V O H) (s : BrokerSystem σ V O H) (self : Nat) (b : Broker)
    (message : Message V O) : Prop :=
  ∀ called ∈ callOn b message.request,
    LeavesTransaction env s.db ⟨self, called.1⟩ called.2 ∧
      BeginsApart env s b.databaseKey ⟨self, called.1⟩ called.2

/-- No request of the owner arrives while an earlier one of the same connection is queued. -/
def ArrivalSafe (s : BrokerSystem σ V O H) : BrokerSystem.Input V O H → Prop
  | .message self message =>
    ∀ b ∈ s.brokers.get? self, ∀ owner ∈ (s.stateFor b.databaseKey).owner,
      BrokerSystem.sameOwner owner self (requestConnectionId message.request) = true →
        ∀ w ∈ s.waitingOf self, requestConnectionId w.request ≠ requestConnectionId message.request
  | _ => True

/-- The condition on a step. -/
def LeaseSafe (env : SqlitePlatform σ V O H) (s : BrokerSystem σ V O H)
    (i : BrokerSystem.Input V O H) : Prop :=
  (∀ executed ∈ s.executes i, ExecutionSafe env s executed.1 executed.2.1 executed.2.2) ∧
    ArrivalSafe s i

instance (db : σ) (c : Connection) (call : SqliteCall V O) :
    Decidable (LeavesTransaction env db c call) := by
  cases call <;> unfold LeavesTransaction <;> infer_instance

instance (s : BrokerSystem σ V O H) (key : JsString) (c : Connection) (call : SqliteCall V O) :
    Decidable (BeginsApart env s key c call) := by
  cases call <;> unfold BeginsApart <;> infer_instance

instance (s : BrokerSystem σ V O H) (self : Nat) (b : Broker) (message : Message V O) :
    Decidable (ExecutionSafe env s self b message) :=
  inferInstanceAs (Decidable (∀ called ∈ callOn b message.request, _ ∧ _))

instance (s : BrokerSystem σ V O H) (i : BrokerSystem.Input V O H) :
    Decidable (ArrivalSafe s i) := by
  cases i <;> unfold ArrivalSafe <;> infer_instance

instance (s : BrokerSystem σ V O H) (i : BrokerSystem.Input V O H) :
    Decidable (LeaseSafe env s i) :=
  inferInstanceAs (Decidable (_ ∧ _))

/-! ## What a request does to the transactions of its broker -/

/-- The connection of a broker is open, and in a transaction. -/
def Broker.Transacting (env : SqlitePlatform σ V O H) (self : Nat) (b : Broker) (db : σ)
    (id : Nat) : Prop :=
  id ∈ b.connections ∧ env.inTransaction db ⟨self, id⟩ = true

/-- What a request does to the transactions: nothing, where it fails or is no boundary; or
it begins or ends the one of its connection. -/
inductive Effect (request : WorkerDatabaseRequest V O) (succeeded : Bool)
    (before after : Nat → Prop) : Prop where
  | quiet
    (h : succeeded = true → explicitTransactionBoundary request = none ∧ request.operation ≠ .close)
    (same : ∀ id, after id ↔ before id)
  | begins (id : Nat) (hid : requestConnectionId request = some id) (hs : succeeded = true)
    (hbegin : explicitTransactionBoundary request = some .begins)
    (now : ∀ id', after id' ↔ id' = id ∨ before id')
  | ends (id : Nat) (hid : requestConnectionId request = some id) (hs : succeeded = true)
    (hbegin : explicitTransactionBoundary request ≠ some .begins)
    (hend : explicitTransactionBoundary request = some .ends ∨ request.operation = .close)
    (now : ∀ id', after id' ↔ id' ≠ id ∧ before id')

theorem Broker.execute_others (law : env.Lawful) (self : Nat) (b : Broker) (db : σ)
    (request : WorkerDatabaseRequest V O) {c : Connection} (hc : c.broker ≠ self) :
    env.inTransaction (b.execute env self db request).1 c = env.inTransaction db c := by
  have hne : ∀ id, c ≠ ⟨self, id⟩ := fun id h => hc (by rw [h])
  unfold Broker.execute Broker.executeOpen Broker.executeOn
  split
  next =>
    split
    next => rfl
    next =>
      split
      next => rfl
      next =>
        simp only
        have hframe := law.call_frame db ⟨self, b.nextConnectionId⟩
          (.create ‹_› request.options) c (hne _)
        split <;> simp_all
  next =>
    split
    next => rfl
    next id _ =>
      split
      next =>
        have hframe : ∀ call, env.inTransaction (env.call db ⟨self, id⟩ call).1 c
            = env.inTransaction db c := fun call => law.call_frame db ⟨self, id⟩ call c (hne _)
        split
        next =>
          have := hframe .close
          split <;> simp_all
        next =>
          split
          next => rfl
          next sql _ =>
            have hexec := hframe (.exec sql)
            have hstmt := hframe (.statement request.operation sql (request.parameters.getD []))
            split
            all_goals split <;> simp_all
      next => rfl

variable {request : WorkerDatabaseRequest V O}

theorem explicitTransactionBoundary_of_ne
    (h : request.operation ≠ .exec) : explicitTransactionBoundary request = none := by
  unfold explicitTransactionBoundary
  cases hop : request.operation <;> first | rfl | exact absurd hop h

theorem requiredText_ok {value : Option JsString} {name text : JsString}
    (h : requiredText value name = .ok text) : value = some text := by
  unfold requiredText at h
  split at h
  next text' =>
    split at h
    · cases h
    · rw [Except.ok.inj h]
  next => cases h

variable {self : Nat} {b : Broker}

variable {db : σ}

/-- A flag that a call of one connection leaves stands for all connections of the broker. -/
theorem transacting_of_same (law : env.Lawful) {id : Nat} {call : SqliteCall V O}
    (hsame : env.inTransaction (env.call db ⟨self, id⟩ call).1 ⟨self, id⟩
      = env.inTransaction db ⟨self, id⟩) (id' : Nat) :
    b.Transacting env self (env.call db ⟨self, id⟩ call).1 id' ↔ b.Transacting env self db id' := by
  unfold Broker.Transacting
  by_cases hid : id' = id
  · rw [hid, hsame]
  · rw [law.call_frame db ⟨self, id⟩ call ⟨self, id'⟩ (by simpa using hid)]

theorem Broker.executeOpen_effect (law : env.Lawful) (hnum : b.Numbered)
    (hopen : request.operation = .openDatabase) :
    Effect request (b.executeOpen env self db request).2.2.isOk (b.Transacting env self db)
      ((b.executeOpen env self db request).2.1.Transacting env self
        (b.executeOpen env self db request).1) := by
  have hquiet : ∀ succeeded : Bool, succeeded = true →
      explicitTransactionBoundary request = none ∧ request.operation ≠ .close := fun _ _ =>
    ⟨explicitTransactionBoundary_of_ne (by simp [hopen]), by simp [hopen]⟩
  refine .quiet (hquiet _) fun id => ?_
  unfold Broker.executeOpen
  split
  next => exact Iff.rfl
  next databasePath _ =>
    split
    next => exact Iff.rfl
    next =>
      -- the new connection is in no transaction, and the others are other connections
      simp only
      have hclear := law.create_clear db ⟨self, b.nextConnectionId⟩ databasePath request.options
      have hframe := law.call_frame db ⟨self, b.nextConnectionId⟩
        (.create databasePath request.options)
      generalize env.call db ⟨self, b.nextConnectionId⟩ (.create databasePath request.options)
        = r at hclear hframe
      obtain ⟨db', result⟩ := r
      have hold : id ∈ b.connections →
          env.inTransaction db' ⟨self, id⟩ = env.inTransaction db ⟨self, id⟩ := fun hid =>
        hframe ⟨self, id⟩ (by simpa using (hnum id hid).ne)
      cases result with
      | error error =>
        show id ∈ b.connections ∧ env.inTransaction db' ⟨self, id⟩ = true ↔
          id ∈ b.connections ∧ env.inTransaction db ⟨self, id⟩ = true
        exact and_congr_right fun hid => by rw [hold hid]
      | ok value =>
        show id ∈ b.connections ++ [b.nextConnectionId] ∧ env.inTransaction db' ⟨self, id⟩ = true ↔
          id ∈ b.connections ∧ env.inTransaction db ⟨self, id⟩ = true
        constructor
        · rintro ⟨hid, htrue⟩
          rcases List.mem_append.mp hid with hid | hid
          · exact ⟨hid, (hold hid) ▸ htrue⟩
          · rw [List.mem_singleton.mp hid] at htrue
            rw [hclear] at htrue
            cases htrue
        · rintro ⟨hid, htrue⟩
          exact ⟨List.mem_append_left _ hid, (hold hid).symm ▸ htrue⟩

theorem Broker.executeOn_effect (law : env.Lawful) {id : Nat} (hid : id ∈ b.connections)
    (hconn : requestConnectionId request = some id)
    (hopen : request.operation ≠ .openDatabase)
    (hleaves : ∀ call, requestCall request = some call → LeavesTransaction env db ⟨self, id⟩ call) :
    Effect request (b.executeOn env self db id request).2.2.isOk (b.Transacting env self db)
      ((b.executeOn env self db id request).2.1.Transacting env self
        (b.executeOn env self db id request).1) := by
  unfold Broker.executeOn
  split
  next hclose =>
    have hclear := law.close_clear db ⟨self, id⟩
    have hframe := law.call_frame db ⟨self, id⟩ .close
    have hfails := law.close_fails db ⟨self, id⟩
    generalize env.call db ⟨self, id⟩ .close = r at hclear hframe hfails
    obtain ⟨db', result⟩ := r
    have hrest : ∀ id', id' ≠ id →
        env.inTransaction db' ⟨self, id'⟩ = env.inTransaction db ⟨self, id'⟩ := fun id' hne =>
      hframe ⟨self, id'⟩ (by simpa using hne)
    cases result with
    | error error =>
      -- it was not open, so it was in no transaction
      refine .quiet (by simp [Except.isOk, Except.toBool]) fun id' => and_congr_right fun _ => ?_
      by_cases hne : id' = id
      · rw [hne]
        show env.inTransaction db' ⟨self, id⟩ = true ↔ _
        rw [hclear, hfails error rfl]
      · show env.inTransaction db' ⟨self, id'⟩ = true ↔ _
        rw [hrest id' hne]
    | ok value =>
      refine .ends id hconn rfl ?_ (.inr hclose) fun id' => ?_
      · rw [explicitTransactionBoundary_of_ne (by simp [hclose])]
        simp
      · show id' ∈ b.connections.filter (· ≠ id) ∧ env.inTransaction db' ⟨self, id'⟩ = true ↔ _
        rw [List.mem_filter]
        unfold Broker.Transacting
        constructor
        · rintro ⟨⟨hmem, hne⟩, htrue⟩
          have hne : id' ≠ id := by simpa using hne
          exact ⟨hne, hmem, hrest id' hne ▸ htrue⟩
        · rintro ⟨hne, hmem, htrue⟩
          exact ⟨⟨hmem, by simpa using hne⟩, (hrest id' hne).symm ▸ htrue⟩
  next hclose =>
    split
    next => exact .quiet (by simp [Except.isOk, Except.toBool]) fun _ => Iff.rfl
    next sql hsql =>
      split
      next hexec =>
        have hcall : requestCall request = some (.exec sql) := by
          unfold requestCall
          rw [hexec, hsql]
        have hboundary : explicitTransactionBoundary request = sqlBoundary sql := by
          unfold explicitTransactionBoundary
          rw [hexec, requiredText_ok hsql]
        have hleaves : ((sqlBoundary sql).isSome ∧ (env.call db ⟨self, id⟩ (.exec sql)).2.isOk) ∨
            env.inTransaction (env.call db ⟨self, id⟩ (.exec sql)).1 ⟨self, id⟩
              = env.inTransaction db ⟨self, id⟩ := hleaves _ hcall
        have hsame := fun hflag : env.inTransaction (env.call db ⟨self, id⟩ (.exec sql)).1 ⟨self, id⟩
            = env.inTransaction db ⟨self, id⟩ => transacting_of_same (b := b) law hflag
        have hbegins := law.begin_opens db ⟨self, id⟩ sql
        have hends := law.end_closes db ⟨self, id⟩ sql
        have hframe := law.call_frame db ⟨self, id⟩ (.exec sql)
        generalize env.call db ⟨self, id⟩ (.exec sql) = r at hleaves hsame hbegins hends hframe
        obtain ⟨db', result⟩ := r
        cases result with
        | error error =>
          rcases hleaves with ⟨-, hok⟩ | hflag
          · cases hok
          · exact .quiet (by simp [Except.isOk, Except.toBool]) (hsame hflag)
        | ok value =>
          have hrest : ∀ id', id' ≠ id →
              env.inTransaction db' ⟨self, id'⟩ = env.inTransaction db ⟨self, id'⟩ := fun id' hne =>
            hframe ⟨self, id'⟩ (by simpa using hne)
          cases hsqlBoundary : sqlBoundary sql with
          | none =>
            rcases hleaves with ⟨hsome, -⟩ | hflag
            · rw [hsqlBoundary] at hsome
              cases hsome
            · exact .quiet (fun _ => ⟨hboundary.trans hsqlBoundary, hclose⟩) (hsame hflag)
          | some boundary =>
            cases boundary with
            | begins =>
              have htrue := hbegins value hsqlBoundary rfl
              refine .begins id hconn rfl (hboundary.trans hsqlBoundary) fun id' => ?_
              by_cases hne : id' = id
              · exact ⟨fun _ => .inl hne, fun _ => by rw [hne]; exact ⟨hid, htrue⟩⟩
              · show id' ∈ b.connections ∧ env.inTransaction db' ⟨self, id'⟩ = true ↔ _
                rw [hrest id' hne]
                exact ⟨.inr, fun h => h.resolve_left hne⟩
            | ends =>
              have hfalse := hends value hsqlBoundary rfl
              refine .ends id hconn rfl ?_ (.inl (hboundary.trans hsqlBoundary)) fun id' => ?_
              · rw [hboundary, hsqlBoundary]
                simp
              · show id' ∈ b.connections ∧ env.inTransaction db' ⟨self, id'⟩ = true ↔ _
                by_cases hne : id' = id
                · rw [hne, hfalse]
                  simp
                · rw [hrest id' hne]
                  exact ⟨fun h => ⟨hne, h⟩, fun h => h.2⟩
      next hexec =>
        have hcall : requestCall request
            = some (.statement request.operation sql (request.parameters.getD [])) := by
          unfold requestCall
          rw [hsql]
          cases hop : request.operation <;> simp_all
        have hflag : env.inTransaction (env.call db ⟨self, id⟩
            (.statement request.operation sql (request.parameters.getD []))).1 ⟨self, id⟩
              = env.inTransaction db ⟨self, id⟩ := hleaves _ hcall
        have hsame := transacting_of_same (b := b) law hflag
        generalize env.call db ⟨self, id⟩
          (.statement request.operation sql (request.parameters.getD [])) = r at hsame
        obtain ⟨db', result⟩ := r
        have hquiet := explicitTransactionBoundary_of_ne hexec
        cases result with
        | error error => exact .quiet (fun _ => ⟨hquiet, hclose⟩) hsame
        | ok value => exact .quiet (fun _ => ⟨hquiet, hclose⟩) hsame

theorem Broker.execute_effect (law : env.Lawful) (hnum : b.Numbered)
    (hleaves : ∀ called ∈ callOn b request, LeavesTransaction env db ⟨self, called.1⟩ called.2) :
    Effect request (b.execute env self db request).2.2.isOk (b.Transacting env self db)
      ((b.execute env self db request).2.1.Transacting env self
        (b.execute env self db request).1) := by
  unfold Broker.execute
  split
  next hopen => exact Broker.executeOpen_effect law hnum hopen
  next hopen =>
    split
    next => exact .quiet (by simp [Except.isOk, Except.toBool]) fun _ => Iff.rfl
    next id hok =>
      have hconn := requestConnectionId_of_ok hok
      split
      next hid =>
        refine Broker.executeOn_effect law hid hconn hopen fun call hcall => ?_
        refine hleaves (id, call) ?_
        unfold callOn
        rw [hconn, hcall]
        exact if_pos hid
      next => exact .quiet (by simp [Except.isOk, Except.toBool]) fun _ => Iff.rfl

theorem Broker.execute_begin (hok : (b.execute env self db request).2.2.isOk = true)
    (hbegin : explicitTransactionBoundary request = some .begins) :
    ∃ id sql, callOn b request = some (id, .exec sql) ∧ sqlBoundary sql = some .begins ∧
      (env.call db ⟨self, id⟩ (.exec sql)).2.isOk = true := by
  have hexec : request.operation = .exec := by
    by_contra hne
    rw [explicitTransactionBoundary_of_ne hne] at hbegin
    cases hbegin
  unfold Broker.execute at hok
  rw [if_neg (by simp [hexec])] at hok
  split at hok
  next => cases hok
  next id hid =>
    split at hok
    next hmem =>
      unfold Broker.executeOn at hok
      rw [if_neg (by simp [hexec])] at hok
      split at hok
      next => cases hok
      next sql hsql =>
        rw [if_pos hexec] at hok
        refine ⟨id, sql, ?_, ?_, ?_⟩
        · unfold callOn requestCall
          rw [requestConnectionId_of_ok hid, hexec, hsql]
          exact if_pos hmem
        · unfold explicitTransactionBoundary at hbegin
          rw [hexec, requiredText_ok hsql] at hbegin
          exact hbegin
        · split at hok
          next => cases hok
          next db' value hcall =>
            rw [hcall]
            rfl
    next => cases hok

/-! ## The owner follows -/

/-- Other connections of the database are in no transaction when a request runs, and none
is when the host runs. -/
def Event.Exclusive : Event V O → Prop
  | .executed broker message transactions _ =>
    ∀ c ∈ transactions, c.broker = broker ∧
      requestConnectionId message.request = some c.connectionId
  | .hostRan _ transactions => transactions = []
  | _ => True

namespace BrokerSystem

variable {key key' : JsString} {c : Connection}

variable {s : BrokerSystem σ V O H}

theorem mem_openTransactions :
    c ∈ s.openTransactions env key ↔ ∃ b, s.brokers.get? c.broker = some b ∧
      b.databaseKey = key ∧ b.Transacting env c.broker s.db c.connectionId := by
  unfold openTransactions transactionsOf Broker.Transacting
  rw [List.mem_flatMap]
  constructor
  · rintro ⟨⟨self, b⟩, hmem, hc⟩
    split at hc
    next hkey =>
      obtain ⟨hc, htrue⟩ := List.mem_filter.mp hc
      obtain ⟨id, hid, rfl⟩ := List.mem_map.mp hc
      exact ⟨b, JsMap.get?_of_mem hmem, hkey, hid, htrue⟩
    next => cases hc
  · rintro ⟨b, hb, hkey, hid, htrue⟩
    refine ⟨(c.broker, b), JsMap.mem_of_get? hb, ?_⟩
    rw [if_pos hkey]
    exact List.mem_filter.mpr ⟨List.mem_map.mpr ⟨c.connectionId, hid, rfl⟩, htrue⟩

variable {self : Nat} {b : Broker} {message : Message V O}

theorem execute_quiet (h : (b.execute env self s.db message.request).2.2.isOk = true →
      explicitTransactionBoundary message.request = none ∧ message.request.operation ≠ .close) :
    s.execute env key self b message = (s.executeAndRespond env self b message).1 := by
  have hsucc : (s.executeAndRespond env self b message).2
      = (b.execute env self s.db message.request).2.2.isOk := rfl
  unfold execute
  simp only [hsucc]
  cases hok : (b.execute env self s.db message.request).2.2.isOk with
  | false => rfl
  | true =>
    obtain ⟨hboundary, hclose⟩ := h hok
    simp [hboundary, hclose]

theorem execute_begins {id : Nat} (hid : requestConnectionId message.request = some id)
    (hok : (b.execute env self s.db message.request).2.2.isOk = true)
    (hbegin : explicitTransactionBoundary message.request = some .begins) :
    s.execute env key self b message =
      (s.executeAndRespond env self b message).1.setState key
        { s.stateFor key with owner := some ⟨self, id⟩ } := by
  have hsucc : (s.executeAndRespond env self b message).2
      = (b.execute env self s.db message.request).2.2.isOk := rfl
  unfold execute
  simp only [hsucc, hok, hbegin, hid]
  rfl

theorem execute_ends (hok : (b.execute env self s.db message.request).2.2.isOk = true)
    (hbegin : explicitTransactionBoundary message.request ≠ some .begins)
    (hend : explicitTransactionBoundary message.request = some .ends ∨
      message.request.operation = .close) :
    s.execute env key self b message =
      if ownedConnection (s.stateFor key) self (requestConnectionId message.request) then
        ((s.executeAndRespond env self b message).1.setState key
          { s.stateFor key with owner := none }).drain key
      else (s.executeAndRespond env self b message).1 := by
  have hsucc : (s.executeAndRespond env self b message).2
      = (b.execute env self s.db message.request).2.2.isOk := rfl
  have hstate : (s.executeAndRespond env self b message).1.stateFor key = s.stateFor key := rfl
  unfold execute
  simp only [hsucc, hok, hstate]
  have hcond : (decide (explicitTransactionBoundary message.request = some .ends) ||
      decide (message.request.operation = .close)) = true := by simpa using hend
  rw [hcond, Bool.and_true]
  cases hboundary : explicitTransactionBoundary message.request with
  | none => rfl
  | some boundary =>
    cases boundary with
    | begins => exact absurd hboundary hbegin
    | ends => rfl

/-- The owner is the connection in a transaction. -/
def Leased (env : SqlitePlatform σ V O H) (s : BrokerSystem σ V O H) : Prop :=
  ∀ key c, (s.stateFor key).owner = some c ↔ c ∈ s.openTransactions env key

/-- Owners, transactions and running host operations of a state, and its log. -/
structure LeaseInv (env : SqlitePlatform σ V O H) (s : BrokerSystem σ V O H) : Prop where
  leased : s.Leased env
  hostsApart : ∀ host ∈ s.running, (s.stateFor host.databaseKey).owner = none
  exclusive : ∀ e ∈ s.log, e.Exclusive

theorem mem_openTransactions_execute (law : env.Lawful) {s' : BrokerSystem σ V O H}
    {request : WorkerDatabaseRequest V O} (hb : s.brokers.get? self = some b)
    (hbrokers : s'.brokers = s.brokers.set self (b.execute env self s.db request).2.1)
    (hdb : s'.db = (b.execute env self s.db request).1) (key : JsString) (c : Connection) :
    c ∈ s'.openTransactions env key ↔
      if c.broker = self then
        b.databaseKey = key ∧ (b.execute env self s.db request).2.1.Transacting env self
          (b.execute env self s.db request).1 c.connectionId
      else c ∈ s.openTransactions env key := by
  rw [mem_openTransactions, hbrokers, hdb, JsMap.get?_set]
  split
  next hself =>
    rw [hself]
    have hkey := (b.execute_after env self s.db request).databaseKey
    constructor
    · rintro ⟨b', hb', rfl, htransacting⟩
      cases hb'
      exact ⟨hkey.symm, htransacting⟩
    · rintro ⟨rfl, htransacting⟩
      exact ⟨_, rfl, hkey, htransacting⟩
  next hself =>
    rw [mem_openTransactions]
    unfold Broker.Transacting
    rw [show env.inTransaction (b.execute env self s.db request).1 ⟨c.broker, c.connectionId⟩ = _
      from Broker.execute_others law self b s.db request hself]

theorem owner_of_admits
    {connectionId : Option Nat} (h : admits (s.stateFor key) self connectionId = true)
    (hc : (s.stateFor key).owner = some c) :
    c.broker = self ∧ connectionId = some c.connectionId := by
  unfold admits at h
  rw [hc] at h
  unfold sameOwner at h
  simp only [Bool.and_eq_true, decide_eq_true_eq] at h
  exact ⟨h.1, h.2.symm⟩

/-- An admitted request keeps the owner in step with SQLite. -/
theorem execute_leaseInv (law : env.Lawful) (hwf : s.WellFormed)
    (h : s.LeaseInv env) (hb : s.brokers.get? self = some b)
    (hadmits : admits (s.stateFor b.databaseKey) self (requestConnectionId message.request) = true)
    (hsafe : ExecutionSafe env s self b message) :
    (s.execute env b.databaseKey self b message).LeaseInv env := by
  have heff := Broker.execute_effect law (hwf.brokers self b hb).2
    fun called hcalled => (hsafe called hcalled).1
  obtain ⟨hframe, -⟩ := execute_frame env s b.databaseKey self b message
  have htransactions := fun key c => mem_openTransactions_execute law hb hframe.brokers hframe.db
    key c
  have hexclusive : ∀ e ∈ (s.execute env b.databaseKey self b message).log, e.Exclusive := by
    intro e he
    rw [hframe.log] at he
    rcases List.mem_append.mp he with he | he
    · exact h.exclusive e he
    · rw [List.mem_singleton.mp he]
      intro c hc
      obtain ⟨hself, hid⟩ := owner_of_admits hadmits ((h.leased b.databaseKey c).mpr hc)
      exact ⟨hself, hid⟩
  have hbef : ∀ key c, c ∈ s.openTransactions env key →
      c.broker = self → b.databaseKey = key ∧ b.Transacting env self s.db c.connectionId := by
    rintro key c hc hself
    obtain ⟨b', hb', hkey, htransacting⟩ := mem_openTransactions.mp hc
    rw [hself, hb] at hb'
    cases hb'
    exact ⟨hkey, hself ▸ htransacting⟩
  -- at the other databases nothing changes
  have helsewhere : ∀ key, key ≠ b.databaseKey → ∀ c,
      (s.stateFor key).owner = some c ↔
        c ∈ (s.execute env b.databaseKey self b message).openTransactions env key := by
    intro key hkey c
    rw [htransactions, h.leased]
    split
    next hself =>
      exact ⟨fun hc => absurd (hbef key c hc hself).1.symm hkey, fun hc => absurd hc.1.symm hkey⟩
    next => rfl
  have hadmitted : ∀ c ∈ s.openTransactions env b.databaseKey, c.broker = self ∧
      requestConnectionId message.request = some c.connectionId := fun c hc =>
    owner_of_admits hadmits ((h.leased _ c).mpr hc)
  have hrun : (s.execute env b.databaseKey self b message).running = s.running := hframe.running
  cases heff with
  | quiet hquiet hsame =>
    have hexecute : s.execute env b.databaseKey self b message
        = (s.executeAndRespond env self b message).1 := execute_quiet hquiet
    have hstate : ∀ key, (s.execute env b.databaseKey self b message).stateFor key
        = s.stateFor key := fun key => by rw [hexecute]; rfl
    refine ⟨fun key c => ?_, fun host hhost => ?_, hexclusive⟩
    · rw [hstate, h.leased, htransactions]
      split
      next hself =>
        rw [hsame]
        refine ⟨fun hc => hbef key c hc hself, fun hc => ?_⟩
        refine mem_openTransactions.mpr ⟨b, hself ▸ hb, hc.1, hself ▸ hc.2⟩
      next => rfl
    · rw [hstate]
      exact h.hostsApart host (hrun ▸ hhost)
  | begins id hid hok hbegin hnow =>
    have hexecute : s.execute env b.databaseKey self b message = _ :=
      execute_begins hid hok hbegin
    have hstate : ∀ key, ((s.execute env b.databaseKey self b message).stateFor key).owner
        = if key = b.databaseKey then some ⟨self, id⟩ else (s.stateFor key).owner := by
      intro key
      rw [hexecute, stateFor_setState]
      split <;> rfl
    refine ⟨fun key c => ?_, fun host hhost => ?_, hexclusive⟩
    · rw [hstate]
      split
      next hkey =>
        subst hkey
        rw [htransactions]
        constructor
        · rintro hc
          cases hc
          rw [if_pos rfl, hnow]
          exact ⟨rfl, .inl rfl⟩
        · intro hc
          -- whoever was in a transaction was this connection
          have hc' : c.broker = self ∧ c.connectionId = id := by
            split at hc
            next hself =>
              refine ⟨hself, ?_⟩
              rcases (hnow _).mp hc.2 with hc | hc
              · exact hc
              · have hadm := hadmitted c (mem_openTransactions.mpr ⟨b, hself ▸ hb, rfl, hself ▸ hc⟩)
                exact (Option.some.inj (hid.symm.trans hadm.2)).symm
            next hself => exact absurd (hadmitted c hc).1 hself
          rw [← hc'.1, ← hc'.2]
      next hkey => exact helsewhere key hkey c
    · obtain ⟨id', sql, hcall, hsql, hsucceeds⟩ := Broker.execute_begin hok hbegin
      have hapart := (hsafe _ hcall).2 hsql hsucceeds host (hrun ▸ hhost)
      rw [hstate, if_neg hapart]
      exact h.hostsApart host (hrun ▸ hhost)
  | ends id hid hok hbegin hend hnow =>
    have hexecute : s.execute env b.databaseKey self b message = _ :=
      execute_ends hok hbegin hend
    have hstate : ∀ key, ((s.execute env b.databaseKey self b message).stateFor key).owner
        = if key = b.databaseKey then none else (s.stateFor key).owner := by
      intro key
      rw [hexecute]
      split
      next howned =>
        rw [drain_owner, stateFor_setState]
        split <;> rfl
      next howned =>
        show (s.stateFor key).owner = _
        split
        next hkey =>
          -- an owner that is admitted is the owner that ends
          rw [hkey]
          cases howner : (s.stateFor b.databaseKey).owner with
          | none => rfl
          | some c =>
            obtain ⟨rfl, hconn⟩ := owner_of_admits hadmits howner
            unfold ownedConnection sameOwner at howned
            rw [howner, hconn] at howned
            simp at howned
        next => rfl
    refine ⟨fun key c => ?_, fun host hhost => ?_, hexclusive⟩
    · rw [hstate]
      split
      next hkey =>
        subst hkey
        rw [htransactions]
        constructor
        · intro hc
          cases hc
        · intro hc
          split at hc
          next hself =>
            obtain ⟨hne, hc⟩ := (hnow _).mp hc.2
            have hadm := hadmitted c (mem_openTransactions.mpr ⟨b, hself ▸ hb, rfl, hself ▸ hc⟩)
            exact absurd (Option.some.inj (hadm.2.symm.trans hid)) hne
          next hself => exact absurd (hadmitted c hc).1 hself
      next hkey => exact helsewhere key hkey c
    · rw [hstate]
      split
      next => rfl
      next => exact h.hostsApart host (hrun ▸ hhost)

/-! ## Nothing waits without an owner -/

/-- A database that has no owner, and whose queue nobody is emptying. -/
def Idle (s : BrokerSystem σ V O H) (key : JsString) : Prop :=
  (s.stateFor key).draining = false ∧ (s.stateFor key).owner = none

/-- Nothing is queued for an idle database. -/
def NoneQueued (s : BrokerSystem σ V O H) : Prop :=
  ∀ key, s.Idle key → (s.stateFor key).pending = []

theorem idle_of_drain (h : (s.drain key).Idle key') : key' ≠ key ∧ s.Idle key' := by
  unfold Idle at h
  rw [stateFor_drain] at h
  split at h
  next => cases h.1
  next hkey => exact ⟨hkey, h⟩

variable {state : CoordinatedDatabaseState V O H}

theorem idle_of_setState (h : (s.setState key state).Idle key')
    (hkey : key' ≠ key) : s.Idle key' := by
  unfold Idle at h
  rw [stateFor_setState, if_neg hkey] at h
  exact h

/-- A request that takes the owner away starts the loop. -/
theorem idle_of_execute (h : (s.execute env key self b message).Idle key') : s.Idle key' := by
  have hbase : ∀ key', (s.executeAndRespond env self b message).1.stateFor key'
      = s.stateFor key' := fun _ => rfl
  generalize hs' : s.execute env key self b message = s' at h
  unfold execute at hs'
  generalize s.executeAndRespond env self b message = answered at hs' hbase
  have hanswered : answered.1.Idle key' → s.Idle key' := by
    unfold Idle
    rw [hbase]
    exact id
  simp only at hs'
  split at hs'
  next => exact hanswered (hs' ▸ h)
  next =>
    split at hs'
    next =>
      subst hs'
      unfold Idle at h
      rw [stateFor_setState] at h
      split at h
      next => cases h.2
      next => exact hanswered h
    next =>
      split at hs'
      next =>
        subst hs'
        obtain ⟨hkey, hidle⟩ := idle_of_drain h
        exact hanswered (idle_of_setState hidle hkey)
      next => exact hanswered (hs' ▸ h)

section

variable (h : s.NoneQueued)
include h

theorem execute_noneQueued (key : JsString) (self : Nat) (b : Broker) (message : Message V O) :
    (s.execute env key self b message).NoneQueued := by
  intro key' hidle
  rw [(execute_frame env s key self b message).2]
  exact h key' (idle_of_execute hidle)

theorem deleteIdle_noneQueued (key : JsString) : (s.deleteIdle key).NoneQueued := by
  intro key' hidle
  rcases stateFor_deleteIdle s key key' with hsame | ⟨-, -, hfresh⟩
  · unfold Idle at hidle
    rw [hsame] at hidle ⊢
    exact h key' hidle
  · rw [hfresh]
    rfl

/-- A state may be written that is not idle, or has an empty queue. -/
theorem setState_noneQueued
    (hstate : state.draining = false → state.owner = none → state.pending = []) :
    (s.setState key state).NoneQueued := by
  intro key' hidle
  unfold Idle at hidle
  rw [stateFor_setState] at hidle ⊢
  split
  next hkey =>
    rw [if_pos hkey] at hidle
    exact hstate hidle.1 hidle.2
  next hkey =>
    rw [if_neg hkey] at hidle
    exact h key' hidle

theorem executeHost_noneQueued (key : JsString)
    (id : Nat) (operation : H) : (s.executeHost env key id operation).NoneQueued := h

theorem handle_noneQueued (self : Nat) (b : Broker)
    (message : Message V O) : (s.handle env self b message).NoneQueued := by
  unfold handle
  simp only
  split
  next => exact h
  next =>
    unfold dispatch
    simp only
    split
    next =>
      refine deleteIdle_noneQueued (execute_noneQueued ?_ _ self b message) _
      exact h
    next hadmits =>
      have hrec : (s.record (.arrived self message)).NoneQueued := h
      refine setState_noneQueued hrec fun _ hnone => ?_
      -- without an owner every request is let through
      unfold admits at hadmits
      rw [show ((s.record (.arrived self message)).stateFor b.databaseKey).owner = none from hnone]
        at hadmits
      exact absurd rfl hadmits

theorem close_noneQueued (self : Nat) (b : Broker) : (s.close env self b).NoneQueued := by
  unfold close
  split
  next => exact h
  next =>
    intro key hidle
    unfold unregister at hidle ⊢
    simp only at hidle ⊢
    obtain ⟨hkey, hidle⟩ := idle_of_drain hidle
    rw [drain_pending, stateFor_setState, if_neg hkey]
    exact h key (idle_of_setState hidle hkey)

theorem drainTurn_noneQueued (key : JsString)
    (hdrain : (s.stateFor key).draining = true) : (s.drainTurn env key).NoneQueued := by
  unfold drainTurn
  simp only
  split
  next request rest howner hpend =>
    have hset : (s.setState key { s.stateFor key with pending := rest }).NoneQueued := by
      refine setState_noneQueued h fun hfalse _ => ?_
      rw [show (s.stateFor key).draining = false from hfalse] at hdrain
      cases hdrain
    split
    next => exact hset
    next =>
      split
      next => exact execute_noneQueued hset _ _ _ _
      next => exact hset
  next hend =>
    refine deleteIdle_noneQueued (setState_noneQueued h fun _ hnone => ?_) _
    cases hpend : (s.stateFor key).pending with
    | nil => rfl
    | cons request rest => exact (hend request rest hnone hpend).elim

theorem step_noneQueued (i : Input V O H) : (s.step env i).NoneQueued := by
  rcases step_cases env s i with hsame | ⟨key, rfl, hdrain, hturn⟩ | ⟨-, hdeliver⟩
  · rw [hsame]
    exact h
  · rw [hturn]
    exact drainTurn_noneQueued h key hdrain
  · rw [hdeliver]
    cases i with
    | createBroker allowedDatabasePath => exact h
    | message self message =>
      unfold deliver
      simp only
      split
      next b _ => exact handle_noneQueued h self b message
      next => exact h
    | closeBroker self =>
      unfold deliver
      simp only
      split
      next b _ => exact close_noneQueued h self b
      next => exact h
    | runWhenAvailable databasePath operation =>
      show (s.runWhenAvailable env databasePath operation).NoneQueued
      have hcount : ({ s with hostCount := s.hostCount + 1 } : BrokerSystem σ V O H).NoneQueued := h
      unfold runWhenAvailable
      simp only
      split
      next howner =>
        refine setState_noneQueued hcount fun _ hnone => ?_
        rw [Option.isSome_iff_ne_none] at howner
        exact absurd hnone howner
      next => exact deleteIdle_noneQueued (executeHost_noneQueued hcount _ _ operation) _
    | resumeHost id =>
      unfold deliver
      simp only
      split
      next => exact h
      next => exact h
    | drainTurn key => exact h

end

/-! ## Every step keeps the owner -/

section

variable (h : s.LeaseInv env)
include h

/-- The states of the databases may change otherwise; what counts is the owner. -/
theorem LeaseInv.transfer {s' : BrokerSystem σ V O H} (hsame : SameBrokers s s')
    (howner : ∀ key, (s'.stateFor key).owner = (s.stateFor key).owner) : s'.LeaseInv env where
  leased := by
    intro key c
    rw [howner, h.leased]
    unfold openTransactions
    rw [hsame.brokers, hsame.db]
  hostsApart := by
    intro host hhost
    rw [howner]
    exact h.hostsApart host (hsame.running ▸ hhost)
  exclusive := by
    rw [hsame.log]
    exact h.exclusive

theorem deleteIdle_leaseInv (key : JsString) : (s.deleteIdle key).LeaseInv env :=
  h.transfer (deleteIdle_same s key) (deleteIdle_owner s key)

theorem setState_leaseInv (howner : state.owner = (s.stateFor key).owner) :
    (s.setState key state).LeaseInv env := by
  refine h.transfer (setState_same s key state) fun key' => ?_
  rw [stateFor_setState]
  split
  next hkey => rw [hkey, howner]
  next => rfl

theorem record_leaseInv {e : Event V O} (he : e.Exclusive) : (s.record e).LeaseInv env where
  leased := h.leased
  hostsApart := h.hostsApart
  exclusive := by
    intro e' he'
    rcases List.mem_append.mp he' with he' | he'
    · exact h.exclusive e' he'
    · exact List.mem_singleton.mp he' ▸ he

theorem LeaseInv.openTransactions_eq_nil
    (hnone : (s.stateFor key).owner = none) : s.openTransactions env key = [] := by
  refine List.eq_nil_iff_forall_not_mem.mpr fun c hc => ?_
  have howner := (h.leased key c).mpr hc
  rw [hnone] at howner
  cases howner

end

theorem executeHost_leaseInv (law : env.Lawful) (h : s.LeaseInv env)
    (hnone : (s.stateFor key).owner = none) (id : Nat) (operation : H) :
    (s.executeHost env key id operation).LeaseInv env := by
  have hframe := law.host_frame s.db operation
  unfold executeHost
  generalize env.runHost s.db operation = r at hframe
  obtain ⟨db, settled⟩ := r
  refine ⟨fun key' c => ?_, fun host hhost => ?_, ?_⟩
  · -- the host's connections are its own
    refine (h.leased key' c).trans (mem_openTransactions.trans (Iff.trans ?_
      mem_openTransactions.symm))
    unfold Broker.Transacting
    simp only [hframe]
    rfl
  · simp only at hhost
    split at hhost
    next => exact h.hostsApart host hhost
    next =>
      rcases List.mem_append.mp hhost with hhost | hhost
      · exact h.hostsApart host hhost
      · rw [List.mem_singleton.mp hhost]
        exact hnone
  · exact (record_leaseInv h (e := .hostRan id (s.openTransactions env key))
      (h.openTransactions_eq_nil hnone)).exclusive

theorem closeConnections_others (law : env.Lawful)
    (hc : c.broker ≠ self) (connections : List Nat) (db : σ) :
    env.inTransaction (closeConnections env db self connections) c = env.inTransaction db c := by
  unfold closeConnections
  induction connections generalizing db with
  | nil => rfl
  | cons id rest ih =>
    rw [List.foldl_cons, ih]
    exact law.call_frame db ⟨self, id⟩ .close c fun h => hc (by rw [h])

theorem close_leaseInv (law : env.Lawful) (h : s.LeaseInv env) (hb : s.brokers.get? self = some b) :
    (s.close env self b).LeaseInv env := by
  unfold close
  split
  next => exact h
  next =>
    generalize hs₁ : { s with
      db := closeConnections env s.db self b.connections
      brokers := s.brokers.set self { b with closed := true, connections := [] } } = s₁
    have hbrokers : s₁.brokers = s.brokers.set self { b with closed := true, connections := [] } := by
      rw [← hs₁]
    have hdb : s₁.db = closeConnections env s.db self b.connections := by rw [← hs₁]
    have hstate : ∀ key, s₁.stateFor key = s.stateFor key := by
      intro key
      rw [← hs₁]
      rfl
    -- the transactions that are left are those of the other brokers
    have hleft : ∀ key c, c ∈ (s₁.unregister self b.databaseKey).openTransactions env key ↔
        c.broker ≠ self ∧ c ∈ s.openTransactions env key := by
      intro key c
      obtain ⟨hsame, hsamedb, -⟩ := unregister_brokers s₁ self b.databaseKey
      rw [mem_openTransactions, hsame, hsamedb, hbrokers, hdb, JsMap.get?_set]
      split
      next hself =>
        constructor
        · rintro ⟨b', hb', -, hid, -⟩
          rw [← Option.some.inj hb'] at hid
          cases hid
        · rintro ⟨hne, -⟩
          exact absurd hself hne
      next hself =>
        rw [mem_openTransactions]
        unfold Broker.Transacting
        rw [closeConnections_others law (c := ⟨c.broker, c.connectionId⟩) hself]
        exact (and_iff_right hself).symm
    have howner : ∀ key, ((s₁.unregister self b.databaseKey).stateFor key).owner =
        if key = b.databaseKey then (s.stateFor key).owner.filter (·.broker ≠ self)
        else (s.stateFor key).owner := by
      intro key
      unfold unregister
      simp only
      rw [drain_owner, stateFor_setState]
      split
      next hkey =>
        subst hkey
        rw [← hstate]
        cases (s₁.stateFor b.databaseKey).owner <;> simp [Option.filter]
      next => exact congrArg _ (hstate key)
    refine ⟨fun key c => ?_, fun host hhost => ?_, ?_⟩
    · rw [hleft, howner, ← h.leased]
      split
      next hkey =>
        cases hown : (s.stateFor key).owner with
        | none => simp
        | some owner =>
          simp only [Option.filter, ne_eq, decide_not, Bool.not_eq_true', decide_eq_false_iff_not, ite_not]
          split
          next hself =>
            constructor
            · rintro ⟨⟩
            · rintro ⟨hne, hc⟩
              exact absurd (Option.some.inj hc ▸ hself) hne
          next hself =>
            exact ⟨fun hc => ⟨Option.some.inj hc ▸ hself, hc⟩, And.right⟩
      next hkey =>
        refine ⟨fun hc => ⟨fun hself => hkey ?_, hc⟩, And.right⟩
        -- an owner of another database is of another broker
        obtain ⟨b', hb', hkey', -⟩ := mem_openTransactions.mp ((h.leased key c).mp hc)
        rw [hself, hb] at hb'
        rw [← hkey', Option.some.inj hb']
    · rw [(unregister_brokers s₁ self b.databaseKey).2.2.1, ← hs₁] at hhost
      have hnone := h.hostsApart host hhost
      rw [howner, hnone]
      split <;> rfl
    · intro e he
      unfold unregister at he
      simp only at he
      rw [(drain_same _ _).log] at he
      rcases List.mem_append.mp he with he | he
      · rw [← hs₁] at he
        exact h.exclusive e he
      · obtain ⟨message, -, rfl⟩ := List.mem_map.mp he
        trivial

theorem handle_leaseInv (law : env.Lawful) (hwf : s.WellFormed)
    (h : s.LeaseInv env) (hb : s.brokers.get? self = some b)
    (hsafe : b.closed = false →
      admits (s.stateFor b.databaseKey) self (requestConnectionId message.request) = true →
      ExecutionSafe env s self b message) :
    (s.handle env self b message).LeaseInv env := by
  have hrec : (s.record (.arrived self message)).LeaseInv env := record_leaseInv h trivial
  have hrecordWf : (s.record (.arrived self message)).WellFormed := ⟨hwf.brokers, hwf.queued⟩
  unfold handle
  simp only
  split
  next => exact record_leaseInv hrec trivial
  next hopen =>
    unfold dispatch
    simp only
    split
    next hadmits =>
      exact deleteIdle_leaseInv (execute_leaseInv law hrecordWf hrec hb hadmits
        (hsafe (by simpa using hopen) hadmits)) _
    next => exact setState_leaseInv hrec rfl

theorem drainTurn_leaseInv (law : env.Lawful) (hwf : s.WellFormed)
    (h : s.LeaseInv env) (hdrain : (s.stateFor key).draining = true)
    (hsafe : ∀ executed ∈ s.executes (.drainTurn key),
      ExecutionSafe env s executed.1 executed.2.1 executed.2.2) :
    (s.drainTurn env key).LeaseInv env := by
  unfold drainTurn
  simp only
  split
  next request rest howner hpend =>
    have hset : (s.setState key { s.stateFor key with pending := rest }).LeaseInv env :=
      setState_leaseInv h rfl
    have hnone : ((s.setState key { s.stateFor key with pending := rest }).stateFor key).owner
        = none := by
      rw [stateFor_setState, if_pos rfl]
      exact howner
    cases request with
    | host id operation => exact executeHost_leaseInv law hset hnone id operation
    | worker self message =>
      have hsetWf : (s.setState key { s.stateFor key with pending := rest }).WellFormed := by
        refine setState_wellFormed hwf fun self' message' hmem => hwf.queued key self' message' ?_
        rw [hpend]
        exact List.mem_cons_of_mem _ hmem
      obtain ⟨b, hb, hkey⟩ := hwf.keyed key self message (by rw [hpend]; simp)
      subst hkey
      have hget : (s.setState b.databaseKey
          { s.stateFor b.databaseKey with pending := rest }).brokers.get? self = some b := hb
      simp only [hget]
      refine execute_leaseInv law hsetWf hset hget ?_ ?_
      · unfold admits
        rw [hnone]
      · refine hsafe (self, b, message) ?_
        unfold executes
        simp [hdrain, howner, hpend, hb]
  next =>
    refine deleteIdle_leaseInv (setState_leaseInv h ?_) _
    rfl

variable {i : Input V O H}

/-- Steps that meet the condition keep the owner in step with SQLite. -/
theorem step_leaseInv (law : env.Lawful) (hwf : s.WellFormed)
    (h : s.LeaseInv env) (hsafe : LeaseSafe env s i) :
    (s.step env i).LeaseInv env := by
  rcases step_cases env s i with hsame | ⟨key, rfl, hdrain, hturn⟩ | ⟨hloop, hdeliver⟩
  · rw [hsame]
    exact h
  · rw [hturn]
    exact drainTurn_leaseInv law hwf h hdrain hsafe.1
  · rw [hdeliver]
    cases i with
    | createBroker allowedDatabasePath =>
      refine ⟨fun key c => ?_, h.hostsApart, h.exclusive⟩
      refine (h.leased key c).trans ?_
      rw [mem_openTransactions, mem_openTransactions]
      show _ ↔ ∃ b, (s.brokers.set s.brokerCount _).get? c.broker = some b ∧ _
      rw [JsMap.get?_set]
      split
      next hself =>
        -- a new broker has no connections
        rw [hself, hwf.fresh]
        constructor
        · rintro ⟨b, hb, -⟩
          cases hb
        · rintro ⟨b, hb, -, hid, -⟩
          rw [← Option.some.inj hb] at hid
          cases hid
      next => rfl
    | message self message =>
      unfold deliver
      simp only
      split
      next b hb =>
        refine handle_leaseInv law hwf h hb fun hopen hadmits => hsafe.1 (self, b, message) ?_
        unfold executes
        simp [hb, hloop, hopen, hadmits]
      next => exact h
    | closeBroker self =>
      unfold deliver
      simp only
      split
      next b hb => exact close_leaseInv law h hb
      next => exact h
    | runWhenAvailable databasePath operation =>
      show (s.runWhenAvailable env databasePath operation).LeaseInv env
      have hcount : ({ s with hostCount := s.hostCount + 1 } : BrokerSystem σ V O H).LeaseInv env :=
        ⟨h.leased, h.hostsApart, h.exclusive⟩
      unfold runWhenAvailable
      simp only
      split
      next => exact setState_leaseInv hcount rfl
      next hnone =>
        refine deleteIdle_leaseInv (executeHost_leaseInv law hcount ?_ _ operation) _
        simpa using hnone
    | resumeHost id =>
      unfold deliver
      simp only
      split
      next host hfind =>
        have hmem := List.mem_of_find?_eq_some hfind
        have hrest : ({ s with running := s.running.filter (·.id ≠ host.id) } :
            BrokerSystem σ V O H).LeaseInv env :=
          ⟨h.leased, fun other hother => h.hostsApart other (List.mem_filter.mp hother).1,
            h.exclusive⟩
        exact executeHost_leaseInv law hrest (h.hostsApart host hmem) _ _
      next => exact h
    | drainTurn key => exact h

/-! ## Order, and the end of the loop -/

def connectionOf (message : Message V O) : Option Nat := requestConnectionId message.request

/-- A message that is let through passes no earlier one of its connection. -/
theorem mayPass_of_arrivalSafe (hwf : s.WellFormed)
    (hqueue : s.NoneQueued) (hloop : s.looping = false) (h : ArrivalSafe s i)
    (self : Nat) :
    s.MayPass (fun waiting a => ∀ w ∈ waiting, connectionOf w ≠ connectionOf a) self i := by
  cases i with
  | message broker message =>
    rintro rfl b hb (hclose | hadmits)
    · rw [hwf.waiting_closed hb hclose]
      exact fun w hw => absurd hw (by simp)
    · cases howner : (s.stateFor b.databaseKey).owner with
      | none =>
        -- without an owner nothing waits
        rw [waitingOf_eq hb, hqueue b.databaseKey ⟨not_draining hloop _, howner⟩]
        exact fun w hw => absurd hw (by simp)
      | some owner =>
        unfold admits at hadmits
        rw [howner] at hadmits
        exact h b hb owner howner hadmits
  | _ => trivial

theorem step_inOrder (hwf : s.WellFormed) (hqueue : s.NoneQueued) (h : ArrivalSafe s i)
    (horder : (s.books self).InOrder connectionOf) :
    ((s.step env i).books self).InOrder connectionOf :=
  (step_books hwf i self fun hloop => mayPass_of_arrivalSafe hwf hqueue hloop h self).inOrder horder

/-- A turn of the loop ends it, or takes a request off the queue. -/
theorem drainTurn_progress (env : SqlitePlatform σ V O H) (s : BrokerSystem σ V O H) (key : JsString) :
    ((s.drainTurn env key).stateFor key).draining = false ∨
      ∃ request, (s.stateFor key).pending
        = request :: ((s.drainTurn env key).stateFor key).pending := by
  unfold drainTurn
  simp only
  split
  next request rest howner hpend =>
    refine .inr ⟨request, ?_⟩
    have hset : ((s.setState key { s.stateFor key with pending := rest }).stateFor key).pending
        = rest := by
      rw [stateFor_setState, if_pos rfl]
    rw [hpend]
    congr 1
    split
    next => exact hset.symm
    next =>
      split
      next => rw [(execute_frame env _ _ _ _ _).2, hset]
      next => exact hset.symm
  next =>
    left
    rcases stateFor_deleteIdle (s.setState key { s.stateFor key with draining := false }) key key
      with hsame | ⟨-, -, hfresh⟩
    · rw [hsame, stateFor_setState, if_pos rfl]
    · rw [hfresh]
      rfl

theorem drain_ends (env : SqlitePlatform σ V O H) (s : BrokerSystem σ V O H) (key : JsString) :
    ∃ turns, ((runSteps (step env) s (List.replicate turns (.drainTurn key))).stateFor
      key).draining = false := by
  -- induction on the length of the queue
  generalize hlen : (s.stateFor key).pending.length = length
  induction length using Nat.strong_induction_on generalizing s with
  | _ length ih =>
    by_cases hdrain : (s.stateFor key).draining = true
    · have hstep : s.step env (.drainTurn key) = s.drainTurn env key := if_pos hdrain
      rcases drainTurn_progress env s key with hend | ⟨request, hpend⟩
      · exact ⟨1, by rw [← hend, List.replicate_one, runSteps_cons, hstep, runSteps_nil]⟩
      · have hlt : ((s.drainTurn env key).stateFor key).pending.length < length := by
          rw [← hlen, hpend]
          exact Nat.lt_succ_self _
        obtain ⟨turns, hturns⟩ := ih _ hlt (s.drainTurn env key) rfl
        refine ⟨turns + 1, ?_⟩
        rw [List.replicate_succ, runSteps_cons, hstep]
        exact hturns
    · exact ⟨0, by simpa using hdrain⟩

end BrokerSystem

/-! ## The lease over whole runs -/

open BrokerSystem

structure LeaseDiscipline (env : SqlitePlatform σ V O H) (s : BrokerSystem σ V O H) : Prop where
  /-- while a connection is in a transaction, no other connection's request and no part of a
  host operation has run -/
  exclusive : ∀ e ∈ s.log, e.Exclusive
  /-- and no host operation is under way -/
  hostsApart : ∀ host ∈ s.running, s.openTransactions env host.databaseKey = []
  /-- the lease is held by the connection in a transaction, for as long as it is in one -/
  lease : ∀ key c, (s.stateFor key).owner = some c ↔ c ∈ s.openTransactions env key
  /-- without a lease nothing is queued, -/
  noneQueued : s.looping = false → ∀ key, (s.stateFor key).owner = none →
    (s.stateFor key).pending = []
  /-- once the loop that empties the queue has ended, as it does -/
  loopEnds : ∀ key, ∃ turns, ((runSteps (step env) s (List.replicate turns
    (.drainTurn key))).stateFor key).draining = false
  /-- each message is executed or rejected once or waits once, those of one connection in order -/
  once : ∀ self, (s.books self).Accounted
  inOrder : ∀ self, (s.books self).InOrder connectionOf

/-- In every run whose steps meet the condition, the lease is what it is for. -/
theorem reached_leaseDiscipline (law : env.Lawful) (db : σ) (is : List (Input V O H))
    (hsafe : RunMeets (step env) (LeaseSafe env) (new db) is) :
    LeaseDiscipline env (runSteps (step env) (new db) is) := by
  have hinv : (runSteps (step env) (new db) is).WellFormed ∧
      (runSteps (step env) (new db) is).NoneQueued ∧
      (runSteps (step env) (new db) is).LeaseInv env ∧
      ∀ self, ((runSteps (step env) (new db) is).books self).InOrder connectionOf := by
    refine runSteps_invariant_of_meets (C := LeaseSafe env)
      (I := fun s : BrokerSystem σ V O H => s.WellFormed ∧ s.NoneQueued ∧ s.LeaseInv env ∧
        ∀ self, (s.books self).InOrder connectionOf) ?_ ?_ hsafe
    · rintro s i ⟨hwf, hqueued, hlease, horder⟩ hmeets
      exact ⟨step_wellFormed hwf i, step_noneQueued hqueued i, step_leaseInv law hwf hlease hmeets,
        fun self => step_inOrder hwf hqueued hmeets.2 (horder self)⟩
    · refine ⟨new_wellFormed db, fun key _ => rfl, ⟨fun key c => ?_, ?_, ?_⟩, fun self k => rfl⟩
      · exact ⟨fun hc => (by cases hc), fun hc => absurd hc (by simp [openTransactions, new, JsMap.empty])⟩
      · exact fun host hhost => absurd hhost (by simp [new])
      · exact fun e he => absurd he (by simp [new])
  obtain ⟨hwf, hqueued, hlease, horder⟩ := hinv
  constructor
  · exact hlease.exclusive
  · exact fun host hhost => hlease.openTransactions_eq_nil (hlease.hostsApart host hhost)
  · exact hlease.leased
  · exact fun hloop key hnone => hqueued key ⟨not_draining hloop key, hnone⟩
  · exact drain_ends env _
  · exact reached_accounted env db is
  · exact horder

/-- What the queues keep to whatever the statements do to the transactions. -/
structure QueuesKept (env : SqlitePlatform σ V O H) (s : BrokerSystem σ V O H) : Prop where
  once : ∀ self, (s.books self).Accounted
  /-- a queue is emptied, as far as the leases let it -/
  empties : ∀ key, ∃ turns, ∀ s', s' = runSteps (step env) s (.replicate turns (.drainTurn key)) →
    (s'.stateFor key).draining = false ∧
      ((s'.stateFor key).owner = none → (s'.stateFor key).pending = [])

theorem runSteps_noneQueued {s : BrokerSystem σ V O H} (h : s.NoneQueued) (is : List (Input V O H)) :
    (runSteps (step env) s is).NoneQueued :=
  runSteps_invariant (I := NoneQueued) (fun _ i hs => step_noneQueued hs i) h is

theorem reached_queuesKept (env : SqlitePlatform σ V O H) (db : σ) (is : List (Input V O H)) :
    QueuesKept env (runSteps (step env) (new db) is) := by
  have hqueued : (runSteps (step env) (new db) is).NoneQueued := runSteps_noneQueued (fun _ _ => rfl) is
  refine ⟨reached_accounted env db is, fun key => ?_⟩
  obtain ⟨turns, hends⟩ := drain_ends env (runSteps (step env) (new db) is) key
  refine ⟨turns, ?_⟩
  rintro s' rfl
  exact ⟨hends, fun hnone => runSteps_noneQueued hqueued _ key ⟨hends, hnone⟩⟩

/-! ## A small SQLite -/

/-- A statement that fails and rolls the transaction back. -/
def conflictingInsert : JsString := js "INSERT OR ROLLBACK INTO t VALUES (1)"

/-- Executing a text that is this boundary, or the conflicting insert, or another. -/
def sampleExec (db : List Connection) (c : Connection) (boundary : Option Boundary)
    (conflicts : Bool) : List Connection × Except ResponseError Unit :=
  match boundary with
  | some .begins =>
    if c ∈ db then (db, .error (thrown (js "cannot start a transaction within a transaction")))
    else (c :: db, .ok ())
  | some .ends =>
    if c ∈ db then (db.filter (· ≠ c), .ok ())
    else (db, .error (thrown (js "cannot commit - no transaction is active")))
  | none =>
    if conflicts then (db.filter (· ≠ c), .error (thrown (js "UNIQUE constraint failed: t.id")))
    else (db, .ok ())

/-- A SQLite that knows which connections are in a transaction, and no more. -/
def sampleCall (db : List Connection) (c : Connection) :
    SqliteCall Unit Unit → List Connection × Except ResponseError Unit
  | .create .. => (db.filter (· ≠ c), .ok ())
  | .exec sql => sampleExec db c (sqlBoundary sql) (sql = conflictingInsert)
  | .statement .. => (db, .ok ())
  | .close => (db.filter (· ≠ c), .ok ())

def samplePlatform : SqlitePlatform (List Connection) Unit Unit Unit where
  call := sampleCall
  inTransaction := fun db c => c ∈ db
  runHost := fun db _ => (db, true)
  normalizePath := id

theorem samplePlatform_inTransaction (db : List Connection) (c : Connection) :
    samplePlatform.inTransaction db c = decide (c ∈ db) := rfl

theorem samplePlatform_call : samplePlatform.call = sampleCall := rfl

theorem sampleCall_exec (db : List Connection) (c : Connection) (sql : JsString) :
    sampleCall db c (.exec sql) = sampleExec db c (sqlBoundary sql) (sql = conflictingInsert) := by
  rw [sampleCall]

theorem sampleExec_frame (db : List Connection) (c : Connection) (boundary : Option Boundary)
    (conflicts : Bool) {c' : Connection} (hne : c' ≠ c) :
    c' ∈ (sampleExec db c boundary conflicts).1 ↔ c' ∈ db := by
  unfold sampleExec
  split
  all_goals
    split
    all_goals simp [hne]

theorem samplePlatform_lawful : samplePlatform.Lawful where
  call_frame db c call c' hne := by
    rw [samplePlatform_inTransaction, samplePlatform_inTransaction, samplePlatform_call,
      decide_eq_decide]
    cases call with
    | exec sql =>
      rw [sampleCall_exec]
      exact sampleExec_frame db c _ _ hne
    | create | close =>
      rw [sampleCall]
      simp [hne]
    | statement method sql parameters => rw [sampleCall]
  host_frame _ _ _ := rfl
  create_clear db c databasePath options := by
    rw [samplePlatform_inTransaction, samplePlatform_call, sampleCall]
    simp
  begin_opens db c sql value hbegin hok := by
    rw [samplePlatform_call, sampleCall_exec, hbegin] at hok
    rw [samplePlatform_inTransaction, samplePlatform_call, sampleCall_exec, hbegin,
      decide_eq_true_eq]
    unfold sampleExec at hok ⊢
    by_cases hmem : c ∈ db <;> simp_all
  end_closes db c sql value hend hok := by
    rw [samplePlatform_call, sampleCall_exec, hend] at hok
    rw [samplePlatform_inTransaction, samplePlatform_call, sampleCall_exec, hend,
      decide_eq_false_iff_not]
    unfold sampleExec at hok ⊢
    by_cases hmem : c ∈ db <;> simp_all
  close_clear db c := by
    rw [samplePlatform_inTransaction, samplePlatform_call, sampleCall]
    simp
  close_fails db c error h := by
    rw [samplePlatform_call, sampleCall] at h
    cases h

/-- A request of the connection 1 of a client, in its buffer. -/
def sampleMessage (client posting : Nat) (operation : Operation) (text : String) :
    Message Unit Unit where
  request :=
    { connectionId := if operation = .openDatabase then none else some 1
      operation := operation
      databasePath := if operation = .openDatabase then some (js text) else none
      options := none
      sql := if operation = .openDatabase then none else some (js text)
      parameters := none }
  responseBuffer := ⟨client, 0, 1024⟩
  posting := posting

/-- One worker's insert waits for another worker's transaction, and so does the host. -/
def leaseRun : List (Input Unit Unit Unit) :=
  [.createBroker (js "a"), .createBroker (js "a"),
    .message 0 (sampleMessage 0 0 .openDatabase "a"),
    .message 1 (sampleMessage 1 1 .openDatabase "a"),
    .message 0 (sampleMessage 0 2 .exec "BEGIN IMMEDIATE"),
    .message 1 (sampleMessage 1 3 .run "INSERT INTO t VALUES (2)"),
    .runWhenAvailable (js "a") (),
    .message 0 (sampleMessage 0 4 .exec "COMMIT"),
    .drainTurn (js "a"), .drainTurn (js "a"), .drainTurn (js "a")]

theorem reached_leaseDiscipline_queuedInsert :
    LeaseDiscipline samplePlatform (runSteps (step samplePlatform) (new []) leaseRun) :=
  reached_leaseDiscipline samplePlatform_lawful [] leaseRun (by decide +kernel)

/-- A worker's transaction is rolled back by a statement that fails. -/
def rolledBackRun : List (Input Unit Unit Unit) :=
  [.createBroker (js "a"),
    .message 0 (sampleMessage 0 0 .openDatabase "a"),
    .message 0 (sampleMessage 0 1 .exec "BEGIN"),
    .message 0 (sampleMessage 0 2 .exec "INSERT OR ROLLBACK INTO t VALUES (1)")]

/-- SQLite has ended the transaction, and the lease is still held. -/
theorem rolled_back_lease_is_kept :
    ¬∀ is, LeaseDiscipline samplePlatform (runSteps (step samplePlatform) (new []) is) := by
  intro h
  have howner := ((h rolledBackRun).lease (js "a") ⟨0, 1⟩).mp (by decide +kernel)
  have hnone : (runSteps (step samplePlatform) (new []) rolledBackRun).openTransactions
      samplePlatform (js "a") = [] := by decide +kernel
  rw [hnone] at howner
  cases howner

end Beale.WorkerDatabase
