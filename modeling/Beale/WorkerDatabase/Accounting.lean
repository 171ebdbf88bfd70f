import Beale.WorkerDatabase.Broker
import Beale.Library.Queue

/-!
# What arrives is answered once

Each broker keeps the books of a queue: the messages that have arrived, those answered, and
those that wait in the state of its database.

- `execute_frame`: what executing a request leaves alone.
- `step_books`: a step does to the books of each broker one of the things a queue can do.
-/

namespace Beale.WorkerDatabase

open Beale.Library

variable {σ V O H : Type} {env : SqlitePlatform σ V O H}

/-! ## A broker -/

/-- The ids of a broker's connections have been given out. -/
def Broker.Numbered (b : Broker) : Prop := ∀ id ∈ b.connections, id < b.nextConnectionId

/-- What a request leaves of its broker. -/
structure Broker.After (b b' : Broker) : Prop where
  databaseKey : b'.databaseKey = b.databaseKey
  closed : b'.closed = b.closed
  numbered : b.Numbered → b'.Numbered

theorem Broker.After.refl (b : Broker) : b.After b := ⟨rfl, rfl, id⟩

theorem Broker.executeOpen_after (self : Nat) (b : Broker) (db : σ)
    (request : WorkerDatabaseRequest V O) :
    b.After (b.executeOpen env self db request).2.1 := by
  unfold Broker.executeOpen
  split
  next => exact .refl b
  next =>
    split
    next => exact .refl b
    next =>
      simp only
      split
      next => exact ⟨rfl, rfl, fun h id hid => Nat.lt_succ_of_lt (h id hid)⟩
      next =>
        refine ⟨rfl, rfl, fun h id hid => ?_⟩
        rcases List.mem_append.mp hid with hid | hid
        · exact Nat.lt_succ_of_lt (h id hid)
        · rw [List.mem_singleton.mp hid]
          exact Nat.lt_succ_self _

theorem Broker.executeOn_after (self : Nat) (b : Broker) (db : σ) (id : Nat)
    (request : WorkerDatabaseRequest V O) :
    b.After (b.executeOn env self db id request).2.1 := by
  unfold Broker.executeOn
  split
  next =>
    split
    next => exact .refl b
    next => exact ⟨rfl, rfl, fun h id' hid => h id' (List.mem_filter.mp hid).1⟩
  next =>
    split
    next => exact .refl b
    next =>
      split
      all_goals
        split
        all_goals exact .refl b

theorem Broker.execute_after (env : SqlitePlatform σ V O H) (self : Nat) (b : Broker) (db : σ)
    (request : WorkerDatabaseRequest V O) :
    b.After (b.execute env self db request).2.1 := by
  unfold Broker.execute
  split
  next => exact b.executeOpen_after self db request
  next =>
    split
    next => exact .refl b
    next =>
      split
      next => exact b.executeOn_after self db _ request
      next => exact .refl b

namespace BrokerSystem

/-! ## What executing leaves alone -/

/-- The coordinator's `execute` answers the message, and queues and unqueues nothing. -/
theorem execute_frame (env : SqlitePlatform σ V O H) (s : BrokerSystem σ V O H) (key : JsString) (self : Nat) (b : Broker)
    (message : Message V O) :
    SameBrokers (s.executeAndRespond env self b message).1 (s.execute env key self b message) ∧
      ∀ key', ((s.execute env key self b message).stateFor key').pending
        = (s.stateFor key').pending := by
  have hbase : ∀ key', (s.executeAndRespond env self b message).1.stateFor key'
      = s.stateFor key' := fun _ => rfl
  generalize hs' : s.execute env key self b message = s'
  unfold execute at hs'
  generalize s.executeAndRespond env self b message = answered at hs' hbase ⊢
  simp only at hs'
  split at hs'
  next => exact hs' ▸ ⟨.refl _, fun key' => congrArg _ (hbase key')⟩
  next =>
    split at hs'
    next =>
      subst hs'
      refine ⟨setState_same _ _ _, fun key' => ?_⟩
      rw [stateFor_setState]
      split
      next hkey => rw [hkey, hbase]
      next => rw [hbase]
    next =>
      split at hs'
      next =>
        subst hs'
        refine ⟨(setState_same _ _ _).trans (drain_same _ _), fun key' => ?_⟩
        rw [stateFor_drain, stateFor_setState, stateFor_setState, if_pos rfl]
        split
        next hkey => rw [hkey, hbase]
        next => rw [hbase]
      next => exact hs' ▸ ⟨.refl _, fun key' => congrArg _ (hbase key')⟩

/-! ## The books -/

def arrivedOf (self : Nat) : Event V O → Option (Message V O)
  | .arrived broker message => if broker = self then some message else none
  | _ => none

def answeredOf (self : Nat) : Event V O → Option (Message V O)
  | .executed broker message _ _ | .rejected broker message _ =>
    if broker = self then some message else none
  | _ => none

def waitingOf (s : BrokerSystem σ V O H) (self : Nat) : List (Message V O) :=
  match s.brokers.get? self with
  | some b => (s.stateFor b.databaseKey).pending.filterMap (PendingRequest.ofBroker self)
  | none => []

def books (s : BrokerSystem σ V O H) (self : Nat) : QueueBooks (Message V O) where
  arrived := s.log.filterMap (arrivedOf self)
  answered := s.log.filterMap (answeredOf self)
  waiting := s.waitingOf self

/-- What is queued for a database is of its brokers. -/
def Keyed (s : BrokerSystem σ V O H) : Prop :=
  ∀ key self message, .worker self message ∈ (s.stateFor key).pending →
    ∃ b, s.brokers.get? self = some b ∧ b.databaseKey = key

/-- Brokers are numbered, and what is queued for a database is of its open brokers. -/
structure WellFormed (s : BrokerSystem σ V O H) : Prop where
  brokers : ∀ self b, s.brokers.get? self = some b → self < s.brokerCount ∧ b.Numbered
  queued : ∀ key self message, .worker self message ∈ (s.stateFor key).pending →
    ∃ b, s.brokers.get? self = some b ∧ b.databaseKey = key ∧ b.closed = false

variable {s s' : BrokerSystem σ V O H}

theorem WellFormed.keyed (h : s.WellFormed) : s.Keyed := by
  intro key self message hmem
  obtain ⟨b, hb, hkey, -⟩ := h.queued key self message hmem
  exact ⟨b, hb, hkey⟩

theorem new_wellFormed (db : σ) : (new db : BrokerSystem σ V O H).WellFormed where
  brokers := by
    intro self b h
    cases h
  queued := by
    intro key self message h
    cases h

theorem WellFormed.fresh (h : s.WellFormed) : s.brokers.get? s.brokerCount = none := by
  cases hget : s.brokers.get? s.brokerCount with
  | none => rfl
  | some b => exact absurd (h.brokers _ b hget).1 (Nat.lt_irrefl _)

variable {self : Nat} {b : Broker} {key : JsString}

theorem Keyed.waiting_elsewhere (h : s.Keyed)
    (hb : s.brokers.get? self = some b) (hkey : key ≠ b.databaseKey) :
    (s.stateFor key).pending.filterMap (PendingRequest.ofBroker self) = [] := by
  rw [List.filterMap_eq_nil_iff]
  intro request hreq
  cases request with
  | host id operation => rfl
  | worker broker message =>
    obtain ⟨b', hb', rfl⟩ := h key broker message hreq
    unfold PendingRequest.ofBroker
    refine if_neg fun hself => hkey ?_
    rw [hself, hb] at hb'
    rw [Option.some.inj hb']

theorem WellFormed.waiting_closed (h : s.WellFormed)
    (hb : s.brokers.get? self = some b) (hclose : b.closed = true) :
    s.waitingOf self = [] := by
  unfold waitingOf
  rw [hb]
  show List.filterMap _ _ = []
  rw [List.filterMap_eq_nil_iff]
  intro request hreq
  cases request with
  | host id operation => rfl
  | worker broker message =>
    obtain ⟨b', hb', -, hopen⟩ := h.queued _ broker message hreq
    unfold PendingRequest.ofBroker
    refine if_neg fun hself => ?_
    rw [hself, hb] at hb'
    rw [← Option.some.inj hb', hclose] at hopen
    cases hopen

/-! ## States that differ little -/

/-- The brokers of `s'` are those of `s`, with what requests leave of them. -/
def BrokersAfter (s s' : BrokerSystem σ V O H) : Prop :=
  ∀ self, s.brokers.get? self = none ∧ s'.brokers.get? self = none ∨
    ∃ b b', s.brokers.get? self = some b ∧ s'.brokers.get? self = some b' ∧ b.After b'

theorem BrokersAfter.of_eq (h : s'.brokers = s.brokers) : BrokersAfter s s' := by
  intro self
  rw [h]
  cases hget : s.brokers.get? self with
  | none => exact .inl ⟨rfl, rfl⟩
  | some b => exact .inr ⟨b, b, rfl, rfl, .refl b⟩

theorem BrokersAfter.of_set {b' : Broker} (hb : s.brokers.get? self = some b) (hafter : b.After b')
    (h : s'.brokers = s.brokers.set self b') : BrokersAfter s s' := by
  intro id
  rw [h, JsMap.get?_set]
  by_cases hid : id = self
  · rw [if_pos hid, hid]
    exact .inr ⟨b, b', hb, rfl, hafter⟩
  · rw [if_neg hid]
    cases hget : s.brokers.get? id with
    | none => exact .inl ⟨rfl, rfl⟩
    | some b₁ => exact .inr ⟨b₁, b₁, rfl, rfl, .refl b₁⟩

theorem BrokersAfter.get? (h : BrokersAfter s s') (hb : s.brokers.get? self = some b) :
    ∃ b', s'.brokers.get? self = some b' ∧ b.After b' := by
  rcases h self with ⟨hnone, -⟩ | ⟨b₁, b', hb₁, hb', hafter⟩
  · rw [hb] at hnone
    cases hnone
  · rw [hb] at hb₁
    exact ⟨b', hb', Option.some.inj hb₁ ▸ hafter⟩

theorem WellFormed.transfer (h : s.WellFormed)
    (hbrokers : BrokersAfter s s') (hcount : s'.brokerCount = s.brokerCount)
    (hpend : ∀ key, (s'.stateFor key).pending ⊆ (s.stateFor key).pending) : s'.WellFormed where
  brokers := by
    intro self b' hb'
    rcases hbrokers self with ⟨-, hnone⟩ | ⟨b, b₁, hb, hb₁, hafter⟩
    · rw [hb'] at hnone
      cases hnone
    · obtain rfl := Option.some.inj (hb'.symm.trans hb₁)
      obtain ⟨hlt, hnum⟩ := h.brokers self b hb
      exact ⟨hcount ▸ hlt, hafter.numbered hnum⟩
  queued := by
    intro key self message hmem
    obtain ⟨b, hb, hkey, hopen⟩ := h.queued key self message (hpend key hmem)
    obtain ⟨b', hb', hafter⟩ := hbrokers.get? hb
    exact ⟨b', hb', hafter.databaseKey.trans hkey, hafter.closed.trans hopen⟩

theorem waitingOf_congr (hbrokers : BrokersAfter s s')
    (hpend : ∀ key, (s'.stateFor key).pending = (s.stateFor key).pending) (self : Nat) :
    s'.waitingOf self = s.waitingOf self := by
  unfold waitingOf
  rcases hbrokers self with ⟨hnone, hnone'⟩ | ⟨b, b', hb, hb', hafter⟩
  · rw [hnone, hnone']
  · rw [hb, hb']
    show List.filterMap _ _ = List.filterMap _ _
    rw [hafter.databaseKey, hpend]

section

variable (s : BrokerSystem σ V O H) (key : JsString) (self : Nat) (b : Broker)
  (message : Message V O)

theorem execute_brokers : (s.execute env key self b message).brokers
      = s.brokers.set self (b.execute env self s.db message.request).2.1 :=
  (execute_frame env s key self b message).1.brokers

theorem execute_log : (s.execute env key self b message).log = s.log ++ [.executed self message
      (s.openTransactions env b.databaseKey)
      (respond (b.execute env self s.db message.request).2.2)] :=
  (execute_frame env s key self b message).1.log

end

theorem execute_brokersAfter
    (hb : s.brokers.get? self = some b) (key : JsString) (message : Message V O) :
    BrokersAfter s (s.execute env key self b message) :=
  .of_set hb (b.execute_after env self s.db message.request) (execute_brokers s key self b message)

theorem execute_books
    (hb : s.brokers.get? self = some b) (key : JsString) (message : Message V O) (self' : Nat) :
    (s.execute env key self b message).books self' =
      { s.books self' with
        answered := (s.books self').answered ++ if self = self' then [message] else [] } := by
  have hframe := (execute_frame env s key self b message).2
  ext1
  · show List.filterMap _ _ = List.filterMap _ _
    rw [execute_log, List.filterMap_append]
    exact List.append_nil _
  · show List.filterMap _ _ = List.filterMap _ _ ++ _
    rw [execute_log, List.filterMap_append]
    congr 1
    unfold answeredOf
    by_cases hself : self = self' <;> simp [hself]
  · exact waitingOf_congr (execute_brokersAfter hb key message) hframe self'

theorem executeHost_books (s : BrokerSystem σ V O H) (key : JsString) (id : Nat) (operation : H)
    (self : Nat) : (s.executeHost env key id operation).books self = s.books self := by
  ext1
  · show List.filterMap _ (s.log ++ [_]) = List.filterMap _ _
    rw [List.filterMap_append]
    exact List.append_nil _
  · show List.filterMap _ (s.log ++ [_]) = List.filterMap _ _
    rw [List.filterMap_append]
    exact List.append_nil _
  · rfl

theorem SameBrokers.books (h : SameBrokers s s')
    (hpend : ∀ key, (s'.stateFor key).pending = (s.stateFor key).pending) (self : Nat) :
    s'.books self = s.books self := by
  ext1
  · show List.filterMap _ _ = List.filterMap _ _
    rw [h.log]
  · show List.filterMap _ _ = List.filterMap _ _
    rw [h.log]
  · exact waitingOf_congr (.of_eq h.brokers) hpend self

theorem deleteIdle_books (s : BrokerSystem σ V O H) (key : JsString) (self : Nat) :
    (s.deleteIdle key).books self = s.books self :=
  (deleteIdle_same s key).books (deleteIdle_pending s key) self

/-! ## Steps -/

/-- The books of a step: what a queue can do, if a message may pass what waits of its broker
where the coordinator lets it through. -/
def MayPass (P : List (Message V O) → Message V O → Prop) (s : BrokerSystem σ V O H) (self : Nat) :
    Input V O H → Prop
  | .message broker message =>
    broker = self → ∀ b, s.brokers.get? self = some b →
      b.closed = true ∨ admits (s.stateFor b.databaseKey) self
        (requestConnectionId message.request) = true →
      P (s.waitingOf self) message
  | _ => True

variable {P : List (Message V O) → Message V O → Prop}

theorem record_books (s : BrokerSystem σ V O H) (e : Event V O) (self : Nat) :
    (s.record e).books self =
      { s.books self with
        arrived := (s.books self).arrived ++ (arrivedOf self e).toList
        answered := (s.books self).answered ++ (answeredOf self e).toList } := by
  ext1
  · show List.filterMap _ (s.log ++ [e]) = List.filterMap _ _ ++ _
    rw [List.filterMap_append]
    cases h : arrivedOf self e <;> simp [h]
  · show List.filterMap _ (s.log ++ [e]) = List.filterMap _ _ ++ _
    rw [List.filterMap_append]
    cases h : answeredOf self e <;> simp [h]
  · rfl

theorem waitingOf_eq (hb : s.brokers.get? self = some b) :
    s.waitingOf self
      = (s.stateFor b.databaseKey).pending.filterMap (PendingRequest.ofBroker self) := by
  unfold waitingOf
  rw [hb]

theorem Keyed.waiting_cases (h : s.Keyed) (key : JsString) (self : Nat) :
    (s.waitingOf self = (s.stateFor key).pending.filterMap (PendingRequest.ofBroker self) ∧
      ∀ state, (s.setState key state).waitingOf self
        = state.pending.filterMap (PendingRequest.ofBroker self)) ∨
    ((s.stateFor key).pending.filterMap (PendingRequest.ofBroker self) = [] ∧
      (∀ b, s.brokers.get? self = some b → b.databaseKey ≠ key) ∧
      ∀ state, (s.setState key state).waitingOf self = s.waitingOf self) := by
  cases hget : s.brokers.get? self with
  | none =>
    refine .inr ⟨?_, fun b hb => ?_, fun state => ?_⟩
    · rw [List.filterMap_eq_nil_iff]
      intro request hreq
      cases request with
      | host id operation => rfl
      | worker broker message =>
        obtain ⟨b, hb, -⟩ := h key broker message hreq
        refine if_neg fun hself => ?_
        rw [hself, hget] at hb
        cases hb
    · cases hb
    · unfold waitingOf
      rw [show (s.setState key state).brokers.get? self = none from hget, hget]
  | some b =>
    by_cases hkey : b.databaseKey = key
    · subst hkey
      refine .inl ⟨waitingOf_eq hget, fun state => ?_⟩
      rw [waitingOf_eq (s := s.setState _ state) hget, stateFor_setState, if_pos rfl]
    · refine .inr ⟨h.waiting_elsewhere hget (Ne.symm hkey), fun b' hb' => ?_, fun state => ?_⟩
      · exact Option.some.inj hb' ▸ hkey
      · rw [waitingOf_eq (s := s.setState key state) hget, stateFor_setState, if_neg hkey,
          waitingOf_eq hget]

theorem setState_books (s : BrokerSystem σ V O H) (key : JsString)
    (state : CoordinatedDatabaseState V O H) (self : Nat) :
    (s.setState key state).books self =
      { s.books self with waiting := (s.setState key state).waitingOf self } := rfl

theorem ofBroker_worker (self broker : Nat) (message : Message V O) :
    [(PendingRequest.worker broker message : PendingRequest V O H)].filterMap
      (PendingRequest.ofBroker self) = if broker = self then [message] else [] := by
  by_cases h : broker = self <;> simp [PendingRequest.ofBroker, h]

theorem handle_books (h : s.WellFormed)
    (hb : s.brokers.get? self = some b) (message : Message V O) (self' : Nat)
    (hpass : s.MayPass P self' (.message self message)) :
    QueueStep P (s.books self') ((s.handle env self b message).books self') := by
  have harrived : (arrivedOf self' (Event.arrived self message)).toList
      = if self = self' then [message] else [] := by
    by_cases hself : self = self' <;> simp [arrivedOf, hself]
  unfold handle
  simp only
  split
  next hclose =>
    rw [record_books, record_books, harrived]
    by_cases hself : self = self'
    · -- a closed broker answers at once
      subst hself
      simpa [arrivedOf, answeredOf, books] using
        QueueStep.direct (b := s.books self) message (hpass rfl b hb (.inl hclose))
    · simpa [arrivedOf, answeredOf, hself] using QueueStep.quiet
  next hopen =>
    unfold dispatch
    simp only
    split
    next hadmits =>
      rw [deleteIdle_books, execute_books (s := s.record _) hb, record_books, harrived]
      by_cases hself : self = self'
      · subst hself
        simpa [answeredOf, books] using
          QueueStep.direct (b := s.books self) message (hpass rfl b hb (.inr hadmits))
      · simpa [answeredOf, hself] using QueueStep.quiet
    next =>
      rw [setState_books, record_books, harrived]
      have hkeyed : (s.record (.arrived self message)).Keyed := h.keyed
      have hrec : (s.record (.arrived self message)).waitingOf self' = s.waitingOf self' := rfl
      rcases hkeyed.waiting_cases b.databaseKey self' with ⟨hsame, hwrite⟩ | ⟨-, hother, hwrite⟩
      · rw [hwrite, List.filterMap_append, ofBroker_worker, ← hsame, hrec]
        by_cases hself : self = self'
        · subst hself
          simpa [answeredOf, books] using QueueStep.enqueue (P := P) (b := s.books self) message
        · simpa [answeredOf, books, hself] using QueueStep.quiet (P := P) (b := s.books self')
      · have hself : self ≠ self' := by
          rintro rfl
          exact hother b hb rfl
        rw [hwrite, hrec]
        simpa [answeredOf, books, hself] using QueueStep.quiet (P := P) (b := s.books self')

theorem withdrawn_books (log : List (Event V O)) (self self' : Nat)
    (withdrawn : List (Message V O)) (response : Response V) :
    (log ++ withdrawn.map fun message => Event.rejected self message response).filterMap
        (arrivedOf self') = log.filterMap (arrivedOf self') ∧
      (log ++ withdrawn.map fun message => Event.rejected self message response).filterMap
        (answeredOf self') =
          log.filterMap (answeredOf self') ++ if self = self' then withdrawn else [] := by
  constructor
  · rw [List.filterMap_append, List.filterMap_map]
    simp [Function.comp_def, arrivedOf]
  · rw [List.filterMap_append, List.filterMap_map]
    by_cases hself : self = self' <;> simp [Function.comp_def, answeredOf, hself]

/-- Taking a broker's messages out of a queue. -/
theorem retained_filterMap (self self' : Nat) (pending : List (PendingRequest V O H)) :
    (pending.filter fun request => (PendingRequest.ofBroker self request).isNone).filterMap
        (PendingRequest.ofBroker self') =
      if self = self' then [] else pending.filterMap (PendingRequest.ofBroker self') := by
  induction pending with
  | nil => simp
  | cons request rest ih =>
    cases request with
    | host id operation =>
      rw [List.filter_cons_of_pos (by simp [PendingRequest.ofBroker]), List.filterMap_cons, ih,
        List.filterMap_cons]
      rfl
    | worker broker message =>
      by_cases hbroker : broker = self
      · rw [List.filter_cons_of_neg (by simp [PendingRequest.ofBroker, hbroker]), ih]
        by_cases hself : self = self'
        · rw [if_pos hself, if_pos hself]
        · rw [if_neg hself, if_neg hself, List.filterMap_cons]
          simp [PendingRequest.ofBroker, hbroker, hself]
      · rw [List.filter_cons_of_pos (by simp [PendingRequest.ofBroker, hbroker]),
          List.filterMap_cons, ih]
        by_cases hself : self = self'
        · simp [PendingRequest.ofBroker, hself ▸ hbroker, hself]
        · rw [if_neg hself, if_neg hself, List.filterMap_cons]

/-- The loop of `drain` is no matter of the books before its first turn. -/
theorem drain_books (s : BrokerSystem σ V O H) (key : JsString) (self : Nat) :
    (s.drain key).books self = s.books self :=
  (drain_same s key).books (drain_pending s key) self

theorem unregister_books (h : s.Keyed) (hb : s.brokers.get? self = some b) (self' : Nat) :
    QueueStep P (s.books self') ((s.unregister self b.databaseKey).books self') := by
  unfold unregister
  simp only
  rw [drain_books, setState_books]
  have hwait := waitingOf_eq hb
  obtain ⟨harrived, hanswered⟩ := withdrawn_books s.log self self'
    ((s.stateFor b.databaseKey).pending.filterMap (PendingRequest.ofBroker self))
    (closedBeforeRun : Response V)
  unfold books
  simp only
  rw [harrived, hanswered, ← hwait]
  have hafter : ∀ owner draining, (s.setState b.databaseKey
      { owner := owner
        pending := (s.stateFor b.databaseKey).pending.filter fun request =>
          (PendingRequest.ofBroker self request).isNone
        draining := draining }).waitingOf self'
      = if self = self' then [] else s.waitingOf self' := by
    intro owner draining
    rcases h.waiting_cases b.databaseKey self' with ⟨hsame, hwrite⟩ | ⟨-, hother, hwrite⟩
    · rw [hwrite, retained_filterMap, hsame]
    · have hself : self ≠ self' := by
        rintro rfl
        exact hother b hb rfl
      rw [hwrite, if_neg hself]
  have hlog : ∀ log state, ({ s with log := log }.setState b.databaseKey state).waitingOf self'
      = (s.setState b.databaseKey state).waitingOf self' := fun _ _ => rfl
  rw [hlog, hafter]
  by_cases hself : self = self'
  · subst hself
    rw [if_pos rfl, if_pos rfl]
    exact .flush (b := s.books self)
  · rw [if_neg hself, if_neg hself, List.append_nil]
    exact .quiet

theorem close_books (h : s.WellFormed) (hb : s.brokers.get? self = some b) (self' : Nat) :
    QueueStep P (s.books self') ((s.close env self b).books self') := by
  unfold close
  split
  next => exact .quiet
  next =>
    -- closing the connections leaves the queues, and the keys of the brokers
    generalize hs₁ : { s with
      db := closeConnections env s.db self b.connections
      brokers := s.brokers.set self { b with closed := true, connections := [] } } = s₁
    have hbrokers : s₁.brokers = s.brokers.set self { b with closed := true, connections := [] } := by
      rw [← hs₁]
    have hpend : ∀ key, s₁.stateFor key = s.stateFor key := by
      intro key
      rw [← hs₁]
      rfl
    have hself : s₁.brokers.get? self = some { b with closed := true, connections := [] } := by
      rw [hbrokers, JsMap.get?_set_self]
    have hkeyed : s₁.Keyed := by
      intro key broker message hmem
      rw [hpend] at hmem
      obtain ⟨b', hb', hkey⟩ := h.keyed key broker message hmem
      by_cases hbroker : broker = self
      · refine ⟨_, hbroker ▸ hself, ?_⟩
        rw [hbroker, hb] at hb'
        exact Option.some.inj hb' ▸ hkey
      · refine ⟨b', ?_, hkey⟩
        rw [hbrokers, JsMap.get?_set, if_neg hbroker]
        exact hb'
    have hbooks : s₁.books self' = s.books self' := by
      ext1
      · rw [← hs₁]
        rfl
      · rw [← hs₁]
        rfl
      · show s₁.waitingOf self' = s.waitingOf self'
        unfold waitingOf
        rw [hbrokers, JsMap.get?_set]
        by_cases hid : self' = self
        · rw [if_pos hid, hid, hb]
          exact congrArg _ (congrArg _ (hpend _))
        · rw [if_neg hid]
          simp only [hpend]
    rw [← hbooks]
    exact unregister_books hkeyed hself self'

theorem drainTurn_books (h : s.WellFormed) (key : JsString)
    (self : Nat) : QueueStep P (s.books self) ((s.drainTurn env key).books self) := by
  unfold drainTurn
  simp only
  split
  next request rest howner hpend =>
    have hcases := h.keyed.waiting_cases key self
    rw [hpend] at hcases
    have hset : ∀ state : CoordinatedDatabaseState V O H, state.pending = rest →
        QueueStep P (s.books self) { s.books self with
          answered := (s.books self).answered ++ (PendingRequest.ofBroker self request).toList
          waiting := (s.setState key state).waitingOf self } := by
      intro state hrest
      rcases hcases with ⟨hsame, hwrite⟩ | ⟨hnone, -, hwrite⟩
      · rw [hwrite, hrest]
        rw [List.filterMap_cons] at hsame
        cases hof : PendingRequest.ofBroker self request with
        | none =>
          rw [hof] at hsame
          rw [Option.toList_none, List.append_nil]
          exact Eq.mp (congrArg (QueueStep P _ <| QueueBooks.mk _ _ ·) hsame) .quiet
        | some message =>
          rw [hof] at hsame
          exact .serve (b := s.books self) message _ hsame
      · have hof : PendingRequest.ofBroker self request = none := by
          rw [List.filterMap_eq_nil_iff] at hnone
          exact hnone request (by simp)
        rw [hof, hwrite, Option.toList_none, List.append_nil]
        exact .quiet
    cases request with
    | host id operation =>
      simp only
      rw [executeHost_books, setState_books]
      simpa [PendingRequest.ofBroker] using hset { s.stateFor key with pending := rest } rfl
    | worker broker message =>
      have hmem : PendingRequest.worker broker message ∈ (s.stateFor key).pending := by
        rw [hpend]
        exact List.mem_cons_self
      obtain ⟨b, hb, -⟩ := h.keyed key broker message hmem
      have hget : (s.setState key { s.stateFor key with pending := rest }).brokers.get? broker
          = some b := hb
      simp only
      split
      next b' hb' =>
        have hstep := hset { s.stateFor key with pending := rest } rfl
        rw [execute_books hb', setState_books]
        unfold PendingRequest.ofBroker at hstep
        by_cases hself : broker = self <;> simpa [hself] using hstep
      next hnone =>
        rw [hget] at hnone
        cases hnone
  next =>
    rw [deleteIdle_books, (setState_same s key _).books (fun key' => ?_) self]
    · exact .quiet
    · rw [stateFor_setState]
      split
      next hkey => rw [hkey]
      next => rfl

theorem runWhenAvailable_books (h : s.WellFormed)
    (databasePath : JsString) (operation : H) (self : Nat) :
    (s.runWhenAvailable env databasePath operation).books self = s.books self := by
  unfold runWhenAvailable
  simp only
  generalize normalizedDatabaseKey env databasePath = key
  have hkeyed : ({ s with hostCount := s.hostCount + 1 } : BrokerSystem σ V O H).Keyed := h.keyed
  split
  next =>
    rw [setState_books]
    rcases hkeyed.waiting_cases key self with ⟨hsame, hwrite⟩ | ⟨-, -, hwrite⟩
    · rw [hwrite, List.filterMap_append, ← hsame]
      exact congrArg (QueueBooks.mk _ _) (List.append_nil _)
    · rw [hwrite]
      rfl
  next =>
    rw [deleteIdle_books, executeHost_books]
    rfl

theorem createBroker_books (h : s.WellFormed) (b : Broker) (self : Nat) :
    ({ s with brokers := s.brokers.set s.brokerCount b, brokerCount := s.brokerCount + 1 } :
      BrokerSystem σ V O H).books self = s.books self := by
  ext1
  · rfl
  · rfl
  · show waitingOf _ self = waitingOf _ self
    by_cases hself : self = s.brokerCount
    · subst hself
      rw [waitingOf_eq (b := b) (JsMap.get?_set_self _ _ _)]
      unfold waitingOf
      rw [h.fresh, List.filterMap_eq_nil_iff]
      intro request hreq
      cases request with
      | host id operation => rfl
      | worker broker message =>
        obtain ⟨b', hb', -⟩ := h.keyed _ broker message hreq
        refine if_neg fun hbroker => ?_
        rw [hbroker, h.fresh] at hb'
        cases hb'
    · unfold waitingOf
      simp only [JsMap.get?_set, if_neg hself]
      rfl

theorem step_books (h : s.WellFormed) (i : Input V O H) (self : Nat)
    (hpass : s.looping = false → s.MayPass P self i) :
    QueueStep P (s.books self) ((s.step env i).books self) := by
  rcases step_cases env s i with hsame | ⟨key, rfl, -, hturn⟩ | ⟨hloop, hdeliver⟩
  · rw [hsame]
    exact .quiet
  · rw [hturn]
    exact drainTurn_books h key self
  · rw [hdeliver]
    have hpass := hpass hloop
    cases i with
    | createBroker allowedDatabasePath =>
      unfold deliver
      rw [createBroker_books h]
      exact .quiet
    | message broker message =>
      unfold deliver
      simp only
      split
      next b hb => exact handle_books h hb message self hpass
      next => exact .quiet
    | closeBroker broker =>
      unfold deliver
      simp only
      split
      next b hb => exact close_books h hb self
      next => exact .quiet
    | runWhenAvailable databasePath operation =>
      show QueueStep P _ ((s.runWhenAvailable env databasePath operation).books self)
      rw [runWhenAvailable_books h]
      exact .quiet
    | resumeHost id =>
      unfold deliver
      simp only
      split
      next host _ =>
        unfold resumeHost
        rw [executeHost_books]
        exact .quiet
      next => exact .quiet
    | drainTurn key => exact .quiet

/-! ## Well-formedness -/

theorem execute_wellFormed (h : s.WellFormed)
    (hb : s.brokers.get? self = some b) (key : JsString) (message : Message V O) :
    (s.execute env key self b message).WellFormed := by
  refine h.transfer (execute_brokersAfter hb key message) ?_ fun key' => ?_
  · exact (execute_frame env s key self b message).1.brokerCount
  · rw [(execute_frame env s key self b message).2 key']
    exact fun _ hmem => hmem

theorem SameBrokers.wellFormed (hsame : SameBrokers s s')
    (h : s.WellFormed) (hpend : ∀ key, (s'.stateFor key).pending ⊆ (s.stateFor key).pending) :
    s'.WellFormed :=
  h.transfer (.of_eq hsame.brokers) hsame.brokerCount hpend

theorem deleteIdle_wellFormed (h : s.WellFormed) (key : JsString) : (s.deleteIdle key).WellFormed :=
  (deleteIdle_same s key).wellFormed h fun key' => by
    rw [deleteIdle_pending]
    exact fun _ hmem => hmem

/-- A state may be written whose queue holds what is of open brokers of the database. -/
theorem setState_wellFormed (h : s.WellFormed) {state : CoordinatedDatabaseState V O H}
    (hqueue : ∀ self message, .worker self message ∈ state.pending →
      ∃ b, s.brokers.get? self = some b ∧ b.databaseKey = key ∧ b.closed = false) :
    (s.setState key state).WellFormed where
  brokers := h.brokers
  queued := by
    intro key' self message hmem
    rw [stateFor_setState] at hmem
    split at hmem
    next hkey =>
      subst hkey
      exact hqueue self message hmem
    next => exact h.queued key' self message hmem

theorem executeHost_wellFormed (h : s.WellFormed) (key : JsString)
    (id : Nat) (operation : H) : (s.executeHost env key id operation).WellFormed :=
  ⟨h.brokers, h.queued⟩

theorem handle_wellFormed (h : s.WellFormed)
    (hb : s.brokers.get? self = some b) (message : Message V O) :
    (s.handle env self b message).WellFormed := by
  have hrec : ∀ e, (s.record e).WellFormed := fun e => ⟨h.brokers, h.queued⟩
  unfold handle
  simp only
  split
  next => exact ⟨h.brokers, h.queued⟩
  next hopen =>
    unfold dispatch
    simp only
    split
    next => exact deleteIdle_wellFormed (execute_wellFormed (hrec _) hb _ message) _
    next =>
      refine setState_wellFormed (hrec _) fun self' message' hmem => ?_
      rcases List.mem_append.mp hmem with hmem | hmem
      · exact h.queued _ self' message' hmem
      · obtain ⟨rfl, rfl⟩ := PendingRequest.worker.inj (List.mem_singleton.mp hmem)
        exact ⟨b, hb, rfl, by simpa using hopen⟩

/-- What a closing broker leaves queued: what is not its own, in the state of its database. -/
theorem unregister_queued {key' : JsString} {request : PendingRequest V O H}
    (h : request ∈ ((s.unregister self key).stateFor key').pending) :
    request ∈ (s.stateFor key').pending ∧
      (key' = key → PendingRequest.ofBroker self request = none) := by
  unfold unregister at h
  simp only at h
  rw [drain_pending, stateFor_setState] at h
  split at h
  next hkey =>
    subst hkey
    obtain ⟨hmem, hnone⟩ := List.mem_filter.mp h
    exact ⟨hmem, fun _ => Option.isNone_iff_eq_none.mp hnone⟩
  next hkey => exact ⟨h, fun hkey' => absurd hkey' hkey⟩

theorem unregister_brokers (s : BrokerSystem σ V O H) (self : Nat) (key : JsString) :
    (s.unregister self key).brokers = s.brokers ∧ (s.unregister self key).db = s.db ∧
      (s.unregister self key).running = s.running ∧
      (s.unregister self key).brokerCount = s.brokerCount := by
  unfold unregister
  simp only
  refine ⟨(drain_same _ _).brokers, (drain_same _ _).db, (drain_same _ _).running,
    (drain_same _ _).brokerCount⟩

theorem close_wellFormed (h : s.WellFormed)
    (hb : s.brokers.get? self = some b) : (s.close env self b).WellFormed := by
  unfold close
  split
  next => exact h
  next =>
    refine ⟨fun self' b' hb' => ?_, fun key self' message hmem => ?_⟩
    · rw [(unregister_brokers _ self b.databaseKey).1, JsMap.get?_set] at hb'
      rw [(unregister_brokers _ self b.databaseKey).2.2.2]
      split at hb'
      next hself =>
        cases hb'
        exact ⟨hself ▸ (h.brokers self b hb).1, fun id hid => absurd hid (by simp)⟩
      next => exact h.brokers self' b' hb'
    · obtain ⟨hmem, hof⟩ := unregister_queued hmem
      obtain ⟨b', hb', hkey, hopen⟩ := h.queued key self' message hmem
      -- what is still queued is not of the broker that closes
      have hself : self' ≠ self := by
        rintro rfl
        obtain rfl := Option.some.inj (hb'.symm.trans hb)
        have hnone := hof hkey.symm
        simp [PendingRequest.ofBroker] at hnone
      refine ⟨b', ?_, hkey, hopen⟩
      rw [(unregister_brokers _ self b.databaseKey).1, JsMap.get?_set, if_neg hself]
      exact hb'

theorem drainTurn_wellFormed (h : s.WellFormed) (key : JsString) :
    (s.drainTurn env key).WellFormed := by
  unfold drainTurn
  simp only
  split
  next request rest howner hpend =>
    have hset : (s.setState key { s.stateFor key with pending := rest }).WellFormed := by
      refine setState_wellFormed h fun self message hmem => h.queued key self message ?_
      rw [hpend]
      exact List.mem_cons_of_mem _ hmem
    split
    next => exact executeHost_wellFormed hset _ _ _
    next =>
      split
      next b hb => exact execute_wellFormed hset hb _ _
      next => exact hset
  next =>
    refine deleteIdle_wellFormed (setState_wellFormed h fun self message hmem => ?_) _
    exact h.queued key self message hmem

theorem step_wellFormed (h : s.WellFormed) (i : Input V O H) : (s.step env i).WellFormed := by
  rcases step_cases env s i with hsame | ⟨key, rfl, -, hturn⟩ | ⟨-, hdeliver⟩
  · rw [hsame]
    exact h
  · rw [hturn]
    exact drainTurn_wellFormed h key
  · rw [hdeliver]
    cases i with
    | createBroker allowedDatabasePath =>
      refine ⟨fun self b hb => ?_, fun key self message hmem => ?_⟩
      · rw [deliver, JsMap.get?_set] at hb
        split at hb
        next hself =>
          subst hself
          cases hb
          exact ⟨Nat.lt_succ_self _, fun id hid => absurd hid (by simp [Broker.new])⟩
        next => exact ⟨Nat.lt_succ_of_lt (h.brokers self b hb).1, (h.brokers self b hb).2⟩
      · obtain ⟨b, hb, hkey, hopen⟩ := h.queued key self message hmem
        refine ⟨b, ?_, hkey, hopen⟩
        rw [deliver, JsMap.get?_set, if_neg (h.brokers self b hb).1.ne]
        exact hb
    | message self message =>
      unfold deliver
      simp only
      split
      next b hb => exact handle_wellFormed h hb message
      next => exact h
    | closeBroker self =>
      unfold deliver
      simp only
      split
      next b hb => exact close_wellFormed h hb
      next => exact h
    | runWhenAvailable databasePath operation =>
      show (s.runWhenAvailable env databasePath operation).WellFormed
      have hcount : ({ s with hostCount := s.hostCount + 1 } : BrokerSystem σ V O H).WellFormed :=
        ⟨h.brokers, h.queued⟩
      unfold runWhenAvailable
      simp only
      split
      next =>
        refine setState_wellFormed hcount fun self message hmem => ?_
        rcases List.mem_append.mp hmem with hmem | hmem
        · exact h.queued _ self message hmem
        · cases List.mem_singleton.mp hmem
      next => exact deleteIdle_wellFormed (executeHost_wellFormed hcount _ _ _) _
    | resumeHost id =>
      unfold deliver
      simp only
      split
      next => exact ⟨h.brokers, h.queued⟩
      next => exact h
    | drainTurn key => exact h

/-- In every run, each message of each broker has been answered once or waits once. -/
theorem reached_accounted (env : SqlitePlatform σ V O H) (db : σ) (is : List (Input V O H))
    (self : Nat) : ((runSteps (step env) (new db) is).books self).Accounted := by
  have hrun : (runSteps (step env) (new db) is).WellFormed ∧
      ((runSteps (step env) (new db) is).books self).Accounted := by
    refine runSteps_invariant (I := fun s : BrokerSystem σ V O H => s.WellFormed ∧ (s.books self).Accounted) ?_
      ⟨new_wellFormed db, QueueBooks.accounted_empty⟩ is
    rintro s i ⟨hwf, hbooks⟩
    refine ⟨step_wellFormed hwf i, ?_⟩
    refine (step_books (P := fun _ _ => True) hwf i self fun _ => ?_).accounted hbooks
    cases i <;> simp [MayPass]
  exact hrun.2

end BrokerSystem

end Beale.WorkerDatabase
