import Mathlib.Data.List.Perm.Lattice
import Beale.Desktop.WriteQueue

/-!
# What becomes of the writes of a run

- `RunKept`: the invariant of the queue of a run; one lemma for each thing that happens to it.
-/

namespace Beale.Desktop

open Beale.Library

/-! ## Trimming -/

@[simp] theorem tracesOf_append (writes writes' : List QueuedWrite) :
    tracesOf (writes ++ writes') = tracesOf writes ++ tracesOf writes' := List.filterMap_append

@[simp] theorem eventsOf_append (writes writes' : List QueuedWrite) :
    eventsOf (writes ++ writes') = eventsOf writes ++ eventsOf writes' := List.filterMap_append

@[simp] theorem eventsOf_event (event : SessionEvent) (rest : List QueuedWrite) :
    eventsOf (.event event :: rest) = event :: eventsOf rest := rfl

@[simp] theorem tracesOf_nil : tracesOf [] = [] := rfl

@[simp] theorem eventsOf_nil : eventsOf [] = [] := rfl

variable {writes : List QueuedWrite}

theorem splitFirstTrace_eq_none (h : splitFirstTrace writes = none) : tracesOf writes = [] := by
  induction writes with
  | nil => rfl
  | cons write rest ih =>
    cases write with
    | trace record => cases h
    | event event => exact ih (Option.map_eq_none_iff.mp h)

theorem splitFirstTrace_eq_some {rest : List QueuedWrite} {record : TraceRecord}
    (h : splitFirstTrace writes = some (record, rest)) :
    tracesOf writes = record :: tracesOf rest ∧ eventsOf writes = eventsOf rest := by
  induction writes generalizing rest with
  | nil => cases h
  | cons write others ih =>
    cases write with
    | trace first =>
      cases h
      exact ⟨rfl, rfl⟩
    | event event =>
      obtain ⟨⟨first, others'⟩, hfound, heq⟩ := Option.map_eq_some_iff.mp h
      cases heq
      obtain ⟨htraces, hevents⟩ := ih hfound
      exact ⟨htraces, congrArg (event :: ·) hevents⟩

/-- The first traces are trimmed, and nothing else. -/
theorem trimTraces_spec (n : Nat) (writes : List QueuedWrite) :
    tracesOf writes = (trimTraces n writes).1 ++ tracesOf (trimTraces n writes).2 ∧
      eventsOf (trimTraces n writes).2 = eventsOf writes ∧
      (trimTraces n writes).1.length = min n (tracesOf writes).length := by
  induction n generalizing writes with
  | zero => exact ⟨rfl, rfl, (Nat.zero_min _).symm⟩
  | succ n ih =>
    rw [trimTraces]
    split
    · next hnone =>
      have hnil := splitFirstTrace_eq_none hnone
      exact ⟨rfl, rfl, by rw [hnil]; simp⟩
    · next record rest hsome =>
      obtain ⟨htraces, hevents⟩ := splitFirstTrace_eq_some hsome
      obtain ⟨hkept, hsame, hlen⟩ := ih rest
      refine ⟨?_, hsame.trans hevents.symm, ?_⟩
      · rw [htraces, hkept]
        rfl
      · rw [htraces, List.length_cons, List.length_cons, hlen]
        omega

theorem trimQueuedTraces_spec (writes : List QueuedWrite) :
    tracesOf writes = (trimQueuedTraces writes).1 ++ tracesOf (trimQueuedTraces writes).2 ∧
      eventsOf (trimQueuedTraces writes).2 = eventsOf writes ∧
      ((trimQueuedTraces writes).1 ≠ [] → (tracesOf (trimQueuedTraces writes).2).length = sessionTraceMaxPending) := by
  obtain ⟨htraces, hevents, hlen⟩ := trimTraces_spec ((tracesOf writes).length - sessionTraceMaxPending) writes
  refine ⟨htraces, hevents, fun hsome => ?_⟩
  have hpositive := List.length_pos_iff.mpr hsome
  have hsum := congrArg List.length htraces
  rw [List.length_append] at hsum
  simp only [trimQueuedTraces] at hpositive ⊢
  omega

/-! ## Batches -/

/-- The writes of an append: one event, or some traces. -/
def IsBatch (writes : List QueuedWrite) : Prop :=
  (∃ event, writes = [.event event]) ∨ writes ≠ [] ∧ eventsOf writes = []

theorem eventsOf_of_traces (h : ∀ write ∈ writes, write.trace?.isSome) : eventsOf writes = [] := by
  induction writes with
  | nil => rfl
  | cons write rest ih =>
    cases write with
    | trace record => exact ih fun other hmem => h other (List.mem_cons_of_mem _ hmem)
    | event event => cases h _ List.mem_cons_self

/-- What `start` takes is the front of the queue. -/
theorem RunWrites.batch_spec {writes : RunWrites} (h : writes.pending ≠ []) :
    IsBatch writes.batch ∧ writes.pending = writes.batch ++ writes.pending.drop writes.batch.length := by
  cases hpend : writes.pending with
  | nil => exact absurd hpend h
  | cons write rest =>
    cases write with
    | event event =>
      have hbatch : writes.batch = [.event event] := by simp [RunWrites.batch, hpend]
      rw [hbatch]
      exact ⟨.inl ⟨event, rfl⟩, rfl⟩
    | trace record =>
      let front := ((QueuedWrite.trace record :: rest).take sessionTraceBatchSize).takeWhile fun write => write.trace?.isSome
      have hsize : sessionTraceBatchSize = 255 + 1 := rfl
      have hfront : front = .trace record :: ((rest.take 255).takeWhile fun write => write.trace?.isSome) := by
        simp only [front, hsize, List.take_succ_cons, List.takeWhile_cons, QueuedWrite.trace?, Option.isSome_some, ↓reduceIte]
      have hstart : front <+: QueuedWrite.trace record :: rest :=
        (List.takeWhile_prefix _).trans (List.take_prefix _ _)
      have hcount : consecutiveTraceWriteCount (.trace record :: rest) = front.length := by
        have hpos : 1 ≤ front.length := by rw [hfront]; exact Nat.succ_pos _
        exact Nat.max_eq_right hpos
      have hbatch : writes.batch = front := by
        simp only [RunWrites.batch, hpend, hcount]
        exact (List.prefix_iff_eq_take.mp hstart).symm
      rw [hbatch]
      refine ⟨.inr ⟨by rw [hfront]; exact List.cons_ne_nil _ _, eventsOf_of_traces fun other hmem => ?_⟩, ?_⟩
      · exact List.mem_takeWhile_imp (p := fun write : QueuedWrite => write.trace?.isSome) hmem
      · obtain ⟨others, hrest⟩ := hstart
        rw [← hrest, List.drop_left]

theorem queuedAppServerEvent_spec (h : IsBatch writes) (number : Nat) :
    (∃ event, writes = [.event event] ∧ queuedAppServerEvent number writes = .event event) ∨
      eventsOf writes = [] ∧ queuedAppServerEvent number writes = .batch number (tracesOf writes) := by
  rcases h with ⟨event, rfl⟩ | ⟨-, hnone⟩
  · exact .inl ⟨event, rfl, rfl⟩
  · refine .inr ⟨hnone, ?_⟩
    unfold queuedAppServerEvent
    split
    · next event => cases hnone
    · rfl

/-! ## What is stored -/

def AppendedEvent.event? : AppendedEvent → Option SessionEvent
  | .event appended => some appended
  | .batch _ _ => none

def AppendedEvent.records : AppendedEvent → List TraceRecord
  | .event _ => []
  | .batch _ records => records

def storedEvents (stored : List AppendedEvent) : List SessionEvent := stored.filterMap AppendedEvent.event?

def storedRecords (stored : List AppendedEvent) : List TraceRecord := stored.flatMap AppendedEvent.records

/-- What was queued is stored, is left to be stored, or was trimmed. An event that is left may be stored already: it
is appended again, and ignored. -/
structure Balanced (queued : List QueuedWrite) (stored : List AppendedEvent) (left : List QueuedWrite)
    (trimmed : List TraceRecord) : Prop where
  events : eventsOf queued = storedEvents stored ++ (eventsOf left).filter fun event => event ∉ storedEvents stored
  traces : (storedRecords stored ++ tracesOf left).Sublist (tracesOf queued)
  kept : (trimmed ++ (storedRecords stored ++ tracesOf left)).Perm (tracesOf queued)

section Balanced

variable {queued left rest : List QueuedWrite} {stored : List AppendedEvent} {trimmed : List TraceRecord}

variable {event : SessionEvent}

theorem Balanced.mem_queued (h : Balanced queued stored left trimmed)
    (hstore : event ∈ storedEvents stored) : event ∈ eventsOf queued := by
  rw [h.events]
  exact List.mem_append_left _ hstore

theorem Balanced.enqueue (h : Balanced queued stored left trimmed) {write : QueuedWrite}
    (hnew : ∀ event, write = .event event → event ∉ storedEvents stored) :
    Balanced (queued ++ [write]) stored (left ++ [write]) trimmed := by
  refine ⟨?_, ?_, ?_⟩
  · have hkept : (eventsOf [write]).filter (fun event => event ∉ storedEvents stored) = eventsOf [write] := by
      rw [List.filter_eq_self]
      intro event hmem
      cases write with
      | trace record => cases hmem
      | event other =>
        rw [List.mem_singleton.mp hmem]
        simpa using hnew other rfl
    rw [eventsOf_append, eventsOf_append, List.filter_append, hkept, ← List.append_assoc, ← h.events]
  · rw [tracesOf_append, tracesOf_append, ← List.append_assoc]
    exact h.traces.append (List.Sublist.refl _)
  · rw [tracesOf_append, tracesOf_append, ← List.append_assoc, ← List.append_assoc]
    refine List.Perm.append_right _ ?_
    rw [List.append_assoc]
    exact h.kept

variable {front : List QueuedWrite}

theorem Balanced.trim {pending kept : List QueuedWrite} (h : Balanced queued stored (front ++ pending) trimmed)
    {gone : List TraceRecord} (htraces : tracesOf pending = gone ++ tracesOf kept)
    (hevents : eventsOf kept = eventsOf pending) : Balanced queued stored (front ++ kept) (trimmed ++ gone) := by
  refine ⟨?_, ?_, ?_⟩
  · rw [eventsOf_append, hevents, ← eventsOf_append]
    exact h.events
  · refine List.Sublist.trans ?_ h.traces
    rw [tracesOf_append, tracesOf_append, htraces]
    exact (List.Sublist.refl _).append ((List.Sublist.refl _).append (List.sublist_append_right _ _))
  · refine List.Perm.trans ?_ h.kept
    rw [tracesOf_append, tracesOf_append, htraces, List.append_assoc]
    refine List.Perm.append_left _ ?_
    have hmoved : (gone ++ ((storedRecords stored ++ tracesOf front) ++ tracesOf kept)).Perm
        ((storedRecords stored ++ tracesOf front) ++ (gone ++ tracesOf kept)) := List.perm_append_comm_assoc _ _ _
    simpa only [List.append_assoc] using hmoved

section

variable (stored : List AppendedEvent)

@[simp] theorem storedEvents_event (event : SessionEvent) :
    storedEvents (stored ++ [.event event]) = storedEvents stored ++ [event] := List.filterMap_append

@[simp] theorem storedEvents_batch (id : Nat) (records : List TraceRecord) :
    storedEvents (stored ++ [.batch id records]) = storedEvents stored := by
  simp [storedEvents, AppendedEvent.event?]

@[simp] theorem storedRecords_event (event : SessionEvent) :
    storedRecords (stored ++ [.event event]) = storedRecords stored := by
  simp [storedRecords, AppendedEvent.records]

@[simp] theorem storedRecords_batch (id : Nat) (records : List TraceRecord) :
    storedRecords (stored ++ [.batch id records]) = storedRecords stored ++ records := by
  simp [storedRecords, AppendedEvent.records]

end

theorem Balanced.store (h : Balanced queued stored (.event event :: rest) trimmed)
    (hnodup : (eventsOf queued).Nodup) (hnew : event ∉ storedEvents stored) :
    Balanced queued (stored ++ [.event event]) rest trimmed := by
  have hevents : eventsOf queued = storedEvents stored ++
      (event :: (eventsOf rest).filter fun other => other ∉ storedEvents stored) := by
    rw [h.events, eventsOf_event, List.filter_cons, if_pos (by simpa using hnew)]
  refine ⟨?_, ?_, ?_⟩
  · -- the event is left only once
    have honce : event ∉ (eventsOf rest).filter fun other => other ∉ storedEvents stored := by
      rw [hevents] at hnodup
      exact (List.nodup_cons.mp (List.nodup_append.mp hnodup).2.1).1
    rw [hevents, storedEvents_event, List.append_assoc, List.singleton_append]
    congr 2
    refine List.filter_congr fun other hmem => ?_
    have hother : other ∉ storedEvents stored → other ≠ event := by
      rintro hnot rfl
      exact honce (List.mem_filter.mpr ⟨hmem, by simpa using hnot⟩)
    simp only [List.mem_append, List.mem_singleton, not_or, decide_eq_decide]
    exact ⟨fun hnot => ⟨hnot, hother hnot⟩, fun hboth => hboth.1⟩
  · rw [storedRecords_event]
    exact h.traces
  · rw [storedRecords_event]
    exact h.kept

theorem Balanced.again (hstore : event ∈ storedEvents stored) :
    Balanced queued stored (.event event :: rest) trimmed ↔ Balanced queued stored rest trimmed := by
  have hsame : (eventsOf (.event event :: rest)).filter (fun other => other ∉ storedEvents stored) =
      (eventsOf rest).filter fun other => other ∉ storedEvents stored := by
    rw [eventsOf_event, List.filter_cons, if_neg (by simpa using hstore)]
  constructor
  · intro h
    exact ⟨hsame ▸ h.events, h.traces, h.kept⟩
  · intro h
    exact ⟨hsame.symm ▸ h.events, h.traces, h.kept⟩

theorem Balanced.storeBatch (h : Balanced queued stored (front ++ rest) trimmed)
    (hfront : eventsOf front = []) (id : Nat) : Balanced queued (stored ++ [.batch id (tracesOf front)]) rest trimmed := by
  refine ⟨?_, ?_, ?_⟩
  · rw [storedEvents_batch, h.events, eventsOf_append, hfront, List.nil_append]
  · rw [storedRecords_batch, List.append_assoc, ← tracesOf_append]
    exact h.traces
  · rw [storedRecords_batch, List.append_assoc, ← tracesOf_append]
    exact h.kept

end Balanced

/-! ## The queue of a run -/

def QueuedWrite.id : QueuedWrite → Nat
  | .trace record => record.id
  | .event queued => queued.id

/-- The writes of the appends that the store has not committed. -/
def RunWrites.uncommitted (writes : RunWrites) : List QueuedWrite :=
  (writes.operations.filter fun operation => operation.phase = .appending).flatMap Operation.writes

/-- The append that has not come to its end. -/
structure IsCurrent (next : Nat) (writes : RunWrites) (operation : Operation) : Prop where
  operations : writes.operations = [operation]
  inFlight : writes.inFlight = some ⟨operation.number, operation.writes⟩
  number : operation.number < next
  batch : IsBatch operation.writes
  event : operation.event = queuedAppServerEvent operation.number operation.writes
  fresh : operation.phase = .appending → ∀ records, .batch operation.number records ∉ writes.stored
  committed : operation.phase = .committed → ∀ event, operation.writes = [.event event] →
    event ∈ storedEvents writes.stored

/-- What holds of a run but for its timer. -/
structure WriteBooks (next : Nat) (writes : RunWrites) : Prop where
  numbered : ∀ write ∈ writes.queued, write.id < next
  nodup : (writes.queued.map QueuedWrite.id).Nodup
  batches : ∀ id records, .batch id records ∈ writes.stored → id < next
  current : writes.operations = [] ∧ writes.inFlight = none ∨ ∃ operation, IsCurrent next writes operation
  balanced : Balanced writes.queued writes.stored (writes.uncommitted ++ writes.pending) writes.trimmed

structure RunKept (next : Nat) (writes : RunWrites) : Prop where
  books : WriteBooks next writes
  awake : writes.pending ≠ [] → writes.operations ≠ [] ∨ writes.timer.isSome = true

section Run

variable {next : Nat} {writes : RunWrites} {operation : Operation}

theorem RunKept.empty : RunKept next .empty where
  books := by
    refine ⟨nofun, List.nodup_nil, nofun, .inl ⟨rfl, rfl⟩, rfl, List.Sublist.refl _, List.Perm.refl _⟩
  awake h := absurd rfl h

variable {next' : Nat}

theorem IsCurrent.mono (h : IsCurrent next writes operation) (hle : next ≤ next') :
    IsCurrent next' writes operation :=
  ⟨h.operations, h.inFlight, Nat.lt_of_lt_of_le h.number hle, h.batch, h.event, h.fresh, h.committed⟩

theorem WriteBooks.mono (h : WriteBooks next writes) (hle : next ≤ next') : WriteBooks next' writes where
  numbered write hmem := Nat.lt_of_lt_of_le (h.numbered write hmem) hle
  nodup := h.nodup
  batches id records hmem := Nat.lt_of_lt_of_le (h.batches id records hmem) hle
  current := h.current.imp_right fun ⟨operation, hcur⟩ => ⟨operation, hcur.mono hle⟩
  balanced := h.balanced

theorem RunKept.mono (h : RunKept next writes) (hle : next ≤ next') : RunKept next' writes :=
  ⟨h.books.mono hle, h.awake⟩

/-- The append is the same, whatever waits behind it. -/
theorem IsCurrent.congr (h : IsCurrent next writes operation) {writes' : RunWrites}
    (hops : writes'.operations = writes.operations) (hinFlight : writes'.inFlight = writes.inFlight)
    (hstore : writes'.stored = writes.stored) : IsCurrent next writes' operation :=
  ⟨hops.trans h.operations, hinFlight.trans h.inFlight, h.number, h.batch, h.event, hstore ▸ h.fresh,
    hstore ▸ h.committed⟩

theorem WriteBooks.setTimer (h : WriteBooks next writes) (timer retryDelay : Option Nat) :
    WriteBooks next { writes with timer, retryDelay } :=
  ⟨h.numbered, h.nodup, h.batches,
    h.current.imp_right fun ⟨operation, hcur⟩ => ⟨operation, hcur.congr rfl rfl rfl⟩, h.balanced⟩

theorem uncommitted_singleton (h : writes.operations = [operation]) :
    writes.uncommitted = if operation.phase = .appending then operation.writes else [] := by
  rw [RunWrites.uncommitted, h]
  split
  · next hphase => simp [hphase]
  · next hphase => simp [hphase]

theorem IsCurrent.uncommitted (h : IsCurrent next writes operation) :
    writes.uncommitted = if operation.phase = .appending then operation.writes else [] :=
  uncommitted_singleton h.operations

theorem RunWrites.uncommitted_eq_nil (h : writes.operations = []) : writes.uncommitted = [] := by
  rw [RunWrites.uncommitted, h]
  rfl

theorem ids_eventsOf (queued : List QueuedWrite) :
    ((eventsOf queued).map SessionEvent.id).Sublist (queued.map QueuedWrite.id) := by
  induction queued with
  | nil => exact List.Sublist.refl _
  | cons write rest ih =>
    cases write with
    | trace record => exact ih.trans (List.sublist_cons_self _ _)
    | event event => exact ih.cons_cons _

theorem ids_tracesOf (queued : List QueuedWrite) :
    ((tracesOf queued).map TraceRecord.id).Sublist (queued.map QueuedWrite.id) := by
  induction queued with
  | nil => exact List.Sublist.refl _
  | cons write rest ih =>
    cases write with
    | trace record => exact ih.cons_cons _
    | event event => exact ih.trans (List.sublist_cons_self _ _)

theorem WriteBooks.nodup_events (h : WriteBooks next writes) : (eventsOf writes.queued).Nodup :=
  (h.nodup.sublist (ids_eventsOf _)).of_map

theorem WriteBooks.nodup_traces (h : WriteBooks next writes) : (tracesOf writes.queued).Nodup :=
  (h.nodup.sublist (ids_tracesOf _)).of_map

variable {queued : List QueuedWrite} {event : SessionEvent}

theorem mem_queued_of_event (h : event ∈ eventsOf queued) : .event event ∈ queued := by
  obtain ⟨write, hmem, hwrite⟩ := List.mem_filterMap.mp h
  cases write with
  | trace record => cases hwrite
  | event other =>
    cases hwrite
    exact hmem

/-! ## Something is queued -/

variable {write : QueuedWrite}

theorem WriteBooks.enqueue (h : WriteBooks next writes) (hid : write.id = next)
    {kept : List QueuedWrite} {gone : List TraceRecord}
    (htraces : tracesOf (writes.pending ++ [write]) = gone ++ tracesOf kept)
    (hevents : eventsOf kept = eventsOf (writes.pending ++ [write])) :
    WriteBooks (next + 1) { writes with
      pending := kept
      queued := writes.queued ++ [write]
      trimmed := writes.trimmed ++ gone } := by
  have hmono := h.mono (Nat.le_succ next)
  refine ⟨fun other hmem => ?_, ?_, hmono.batches,
    hmono.current.imp_right fun ⟨operation, hcur⟩ => ⟨operation, hcur.congr rfl rfl rfl⟩, ?_⟩
  · rcases List.mem_append.mp hmem with hmem | hmem
    · exact hmono.numbered other hmem
    · rw [List.mem_singleton.mp hmem, hid]
      exact Nat.lt_succ_self _
  · rw [List.map_append]
    refine List.nodup_append.mpr ⟨h.nodup, List.nodup_singleton _, ?_⟩
    intro id hold id' hnew heq
    obtain ⟨other, hmem, rfl⟩ := List.mem_map.mp hold
    have hlast : id' = write.id := List.mem_singleton.mp hnew
    exact Nat.ne_of_lt (h.numbered other hmem) (heq.trans (hlast.trans hid))
  · -- a new event is not stored
    have hnew : ∀ event, write = .event event → event ∉ storedEvents writes.stored := by
      rintro event rfl hstore
      have hlt := h.numbered _ (mem_queued_of_event (h.balanced.mem_queued hstore))
      exact Nat.ne_of_lt hlt hid
    have hqueue := h.balanced.enqueue hnew
    rw [List.append_assoc] at hqueue
    exact hqueue.trim htraces hevents

variable {trim : List TraceRecord × List QueuedWrite}

theorem RunKept.enqueued (h : RunKept next writes) (hid : write.id = next)
    (htraces : tracesOf (writes.pending ++ [write]) = trim.1 ++ tracesOf trim.2)
    (hevents : eventsOf trim.2 = eventsOf (writes.pending ++ [write])) :
    RunKept (next + 1) (writes.enqueued write trim) := by
  have hbooks := h.books.enqueue hid htraces hevents
  unfold RunWrites.enqueued
  dsimp only
  split
  · exact ⟨hbooks.setTimer _ _, fun _ => .inr rfl⟩
  · split
    · exact ⟨hbooks.setTimer _ _, fun _ => .inr rfl⟩
    · next hrun =>
      refine ⟨hbooks, fun _ => ?_⟩
      rcases h.books.current with ⟨-, hnone⟩ | ⟨operation, hcur⟩
      · -- nothing is in flight, so there is a timer
        have htimer : writes.timer ≠ none := fun hthere => hrun ⟨by rw [hthere]; rfl, by rw [hnone]; rfl⟩
        exact .inr (Option.isSome_iff_ne_none.mpr htimer)
      · exact .inl (by rw [hcur.operations]; exact List.cons_ne_nil _ _)

theorem RunKept.enqueue (h : RunKept next writes) (hid : write.id = next) :
    RunKept (next + 1) (writes.enqueue write) := by
  obtain ⟨htraces, hevents, -⟩ := trimQueuedTraces_spec (writes.pending ++ [write])
  exact h.enqueued hid htraces hevents

/-! ## Appends -/

/-- What is taken for an append is left until the store commits it. -/
theorem balanced_started (hops : writes.operations = [operation]) (hphase : operation.phase = .appending)
    (h : Balanced writes.queued writes.stored (operation.writes ++ writes.pending) writes.trimmed) :
    Balanced writes.queued writes.stored (writes.uncommitted ++ writes.pending) writes.trimmed := by
  rw [uncommitted_singleton hops, if_pos hphase]
  exact h

/-- An append begins where none is in flight. -/
theorem RunKept.push (h : RunKept next writes) : RunKept (next + 1) (writes.push next) := by
  have hbooks : WriteBooks (next + 1) { writes with timer := none } := (h.books.mono (Nat.le_succ next)).setTimer none _
  unfold RunWrites.push RunWrites.start
  split
  · next hrun =>
    refine ⟨hbooks, fun _ => .inl ?_⟩
    rcases h.books.current with ⟨-, hnone⟩ | ⟨operation, hcur⟩
    · rw [hnone] at hrun
      cases hrun
    · show writes.operations ≠ []
      rw [hcur.operations]
      exact List.cons_ne_nil _ _
  · next hidle =>
    split
    · next hempty => exact ⟨hbooks, fun hsome => absurd hempty hsome⟩
    · next hsome =>
      obtain ⟨hbatch, hsplit⟩ := RunWrites.batch_spec hsome
      rcases h.books.current with ⟨hops, -⟩ | ⟨operation, hcur⟩
      · have hopen : writes.uncommitted = [] := RunWrites.uncommitted_eq_nil hops
        have hleft := h.books.balanced
        rw [hopen, List.nil_append] at hleft
        let operation : Operation := ⟨next, writes.batch, queuedAppServerEvent next writes.batch, .appending⟩
        have hstart : writes.operations ++ [operation] = [operation] := by rw [hops, List.nil_append]
        refine ⟨⟨hbooks.numbered, hbooks.nodup, hbooks.batches, .inr ⟨operation, hstart, rfl, Nat.lt_succ_self _,
          hbatch, rfl, fun _ records hmem => ?_, nofun⟩, ?_⟩, fun _ => .inl ?_⟩
        · exact Nat.lt_irrefl _ (h.books.batches next records hmem)
        · exact balanced_started hstart rfl ((show writes.pending = writes.batch ++ _ from hsplit) ▸ hleft)
        · show writes.operations ++ [operation] ≠ []
          rw [hstart]
          exact List.cons_ne_nil _ _
      · exact absurd (by rw [show writes.inFlight = _ from hcur.inFlight]; rfl) hidle

/-- The append of a run that is found is the only one. -/
theorem WriteBooks.current_of_mem (h : WriteBooks next writes) (hmem : operation ∈ writes.operations) :
    IsCurrent next writes operation := by
  rcases h.current with ⟨hnone, -⟩ | ⟨current, hcur⟩
  · rw [hnone] at hmem
    cases hmem
  · rw [hcur.operations, List.mem_singleton] at hmem
    exact hmem ▸ hcur

theorem setPhase_singleton (h : writes.operations = [operation]) (phase : AppendPhase) :
    writes.setPhase operation.number phase = [{ operation with phase }] := by
  rw [RunWrites.setPhase, h, List.map_singleton, if_pos rfl]

theorem RunKept.commit (h : RunKept next writes) (hmem : operation ∈ writes.operations)
    (hphase : operation.phase = .appending) : RunKept next (writes.commit operation) := by
  have hcur := h.books.current_of_mem hmem
  have hops : (writes.commit operation).operations = [{ operation with phase := .committed }] :=
    setPhase_singleton hcur.operations _
  have hleft := h.books.balanced
  rw [hcur.uncommitted, if_pos hphase] at hleft
  have hopen : (writes.commit operation).uncommitted = [] := by
    rw [uncommitted_singleton hops, if_neg (by simp)]
  -- what the store holds then
  have hstore : (∀ id records, .batch id records ∈ (writes.commit operation).stored → id < next) ∧
      (∀ event, operation.writes = [.event event] → event ∈ storedEvents (writes.commit operation).stored) ∧
        Balanced writes.queued (writes.commit operation).stored writes.pending writes.trimmed := by
    simp only [RunWrites.commit, hcur.event]
    rcases queuedAppServerEvent_spec hcur.batch operation.number with ⟨event, hwrites, hevent⟩ | ⟨hnone, hevent⟩
    · rw [hwrites, List.singleton_append] at hleft
      rw [hevent, insertEvent]
      split
      · next hthere =>
        -- an event with its id is the event itself
        have hevent : event ∈ storedEvents writes.stored := by
          obtain ⟨other, hother, hid⟩ := List.any_eq_true.mp hthere
          rw [decide_eq_true_eq] at hid
          cases other with
          | batch id records => cases hid
          | event found =>
            have hfound : found ∈ storedEvents writes.stored := List.mem_filterMap.mpr ⟨_, hother, rfl⟩
            have hqueue : event ∈ eventsOf writes.queued := by
              by_contra hnot
              have hnew : event ∉ storedEvents writes.stored := fun hmem => hnot (h.books.balanced.mem_queued hmem)
              have hall := hleft.events
              rw [eventsOf_event, List.filter_cons, if_pos (by simpa using hnew)] at hall
              exact hnot (hall ▸ List.mem_append_right _ List.mem_cons_self)
            have hsame : found = event :=
              List.inj_on_of_nodup_map (h.books.nodup.sublist (ids_eventsOf _)) (h.books.balanced.mem_queued hfound) hqueue
                (EventId.event.inj hid)
            exact hsame ▸ hfound
        exact ⟨h.books.batches, fun other hother => by cases hwrites.symm.trans hother; exact hevent,
          (Balanced.again hevent).mp hleft⟩
      · next hnot =>
        have hnew : event ∉ storedEvents writes.stored := by
          intro hmem
          obtain ⟨other, hother, hfound⟩ := List.mem_filterMap.mp hmem
          refine hnot (List.any_eq_true.mpr ⟨other, hother, ?_⟩)
          cases other with
          | batch id records => cases hfound
          | event found =>
            cases hfound
            simp
        refine ⟨fun id records hmem => ?_, fun other hother => ?_, hleft.store h.books.nodup_events hnew⟩
        · rcases List.mem_append.mp hmem with hmem | hmem
          · exact h.books.batches id records hmem
          · cases List.mem_singleton.mp hmem
        · cases hwrites.symm.trans hother
          rw [storedEvents_event]
          exact List.mem_append_right _ (List.mem_singleton_self _)
    · have hfresh : ¬ (writes.stored.any fun other => other.id = AppendedEvent.id (.batch operation.number (tracesOf operation.writes))) = true := by
        intro hthere
        obtain ⟨other, hother, hid⟩ := List.any_eq_true.mp hthere
        rw [decide_eq_true_eq] at hid
        cases other with
        | event found => cases hid
        | batch id records =>
          have hsame : id = operation.number := EventId.traceBatch.inj hid
          exact hcur.fresh hphase records (hsame ▸ hother)
      rw [hevent, insertEvent, if_neg hfresh]
      refine ⟨fun id records hmem => ?_, fun other hother => ?_, hleft.storeBatch hnone operation.number⟩
      · rcases List.mem_append.mp hmem with hmem | hmem
        · exact h.books.batches id records hmem
        · cases List.mem_singleton.mp hmem
          exact hcur.number
      · rw [hother] at hnone
        cases hnone
  refine ⟨⟨h.books.numbered, h.books.nodup, hstore.1, .inr ⟨{ operation with phase := .committed }, hops,
    hcur.inFlight, hcur.number, hcur.batch, hcur.event, nofun, fun _ => hstore.2.1⟩, ?_⟩, fun _ => .inl ?_⟩
  · rw [hopen]
    exact hstore.2.2
  · rw [hops]
    exact List.cons_ne_nil _ _

/-- The `then` of an append that the store has committed. -/
theorem RunKept.succeed (h : RunKept next writes) (hmem : operation ∈ writes.operations)
    (hphase : operation.phase = .committed) : RunKept next (writes.succeed operation) := by
  have hcur := h.books.current_of_mem hmem
  have hops : (writes.succeed operation).operations = [{ operation with phase := .settled }] :=
    setPhase_singleton hcur.operations _
  have hopen : (writes.succeed operation).uncommitted = [] := by
    rw [uncommitted_singleton hops, if_neg (by simp)]
  have hleft := h.books.balanced
  rw [hcur.uncommitted, if_neg (by simp [hphase])] at hleft
  refine ⟨⟨h.books.numbered, h.books.nodup, h.books.batches, .inr ⟨{ operation with phase := .settled }, hops,
    hcur.inFlight, hcur.number, hcur.batch, hcur.event, nofun, nofun⟩, ?_⟩, fun _ => .inl ?_⟩
  · rw [hopen]
    exact hleft
  · rw [hops]
    exact List.cons_ne_nil _ _

theorem WriteBooks.retried (h : WriteBooks next writes) (hcur : IsCurrent next writes operation)
    (hleft : Balanced writes.queued writes.stored (operation.writes ++ writes.pending) writes.trimmed)
    (htraces : tracesOf (operation.writes ++ writes.pending) = trim.1 ++ tracesOf trim.2)
    (hevents : eventsOf trim.2 = eventsOf (operation.writes ++ writes.pending)) :
    WriteBooks next (writes.retried operation trim) := by
  have hops := setPhase_singleton hcur.operations .settled
  refine ⟨h.numbered, h.nodup, h.batches, .inr ⟨{ operation with phase := .settled }, hops,
    hcur.inFlight, hcur.number, hcur.batch, hcur.event, nofun, nofun⟩, ?_⟩
  have hopen : (writes.retried operation trim).uncommitted = [] := by
    rw [uncommitted_singleton hops, if_neg (by simp)]
  rw [hopen]
  have hpend : Balanced writes.queued writes.stored ([] ++ (operation.writes ++ writes.pending)) writes.trimmed := hleft
  exact hpend.trim htraces hevents

theorem RunKept.putBack (h : RunKept next writes) (hmem : operation ∈ writes.operations)
    (hphase : operation.phase ≠ .settled)
    (hkept : operation.phase = .committed → tracesOf operation.writes = []) : RunKept next (writes.putBack operation) := by
  have hcur := h.books.current_of_mem hmem
  have hops : (writes.putBack operation).operations = [{ operation with phase := .settled }] :=
    setPhase_singleton hcur.operations _
  have hopen : (writes.putBack operation).uncommitted = [] := by
    rw [uncommitted_singleton hops, if_neg (by simp)]
  have hleft : Balanced writes.queued writes.stored (operation.writes ++ writes.pending) writes.trimmed := by
    have hbalanced := h.books.balanced
    rw [hcur.uncommitted] at hbalanced
    cases hwas : operation.phase with
    | appending =>
      rw [if_pos hwas] at hbalanced
      exact hbalanced
    | committed =>
      rw [if_neg (by simp [hwas]), List.nil_append] at hbalanced
      rcases hcur.batch with ⟨event, hwrites⟩ | ⟨hsome, hnone⟩
      · rw [hwrites]
        exact (Balanced.again (hcur.committed hwas event hwrites)).mpr hbalanced
      · -- traces that are committed are not put back
        exfalso
        obtain ⟨write, rest, hwrites⟩ := List.exists_cons_of_ne_nil hsome
        have hempty := hkept hwas
        rw [hwrites] at hempty hnone
        cases write with
        | trace record => cases hempty
        | event event => cases hnone
    | settled => exact absurd hwas hphase
  obtain ⟨htraces, hevents, -⟩ := trimQueuedTraces_spec (operation.writes ++ writes.pending)
  exact ⟨h.books.retried hcur hleft htraces hevents, fun _ => .inr rfl⟩

/-- The `finally` of an append. -/
theorem RunKept.finish (h : RunKept next writes) (hmem : operation ∈ writes.operations)
    (hphase : operation.phase = .settled) : RunKept next (writes.finish operation) := by
  have hcur := h.books.current_of_mem hmem
  have hleft := h.books.balanced
  rw [hcur.uncommitted, if_neg (by simp [hphase])] at hleft
  let finished : RunWrites := { writes with
    inFlight := writes.inFlight.filter fun current => current.operation ≠ operation.number
    operations := writes.operations.filter fun other => other.number ≠ operation.number }
  have hops : finished.operations = [] := by simp [finished, hcur.operations]
  have hinFlight : finished.inFlight = none := by simp [finished, hcur.inFlight]
  have hbooks : WriteBooks next finished := by
    refine ⟨h.books.numbered, h.books.nodup, h.books.batches, .inl ⟨hops, hinFlight⟩, ?_⟩
    rw [RunWrites.uncommitted_eq_nil hops]
    exact hleft
  unfold RunWrites.finish
  dsimp only
  split
  · exact ⟨hbooks.setTimer _ _, fun _ => .inr rfl⟩
  · next hnone =>
    refine ⟨hbooks, fun hsome => .inr ?_⟩
    have htimer : writes.timer ≠ none := fun hthere => hnone ⟨hsome, by rw [hthere]; rfl⟩
    exact Option.isSome_iff_ne_none.mpr htimer

/-! ## What follows -/

/-- The writes of a run: what is stored and what is not, in the order of queueing. -/
structure RunSound (writes : RunWrites) : Prop where
  /-- the events that are stored are the first ones, each once -/
  events : storedEvents writes.stored <+: eventsOf writes.queued
  eventsOnce : (storedEvents writes.stored).Nodup
  records : (storedRecords writes.stored).Sublist (tracesOf writes.queued)
  recordsOnce : (storedRecords writes.stored).Nodup
  overlay : ∀ event ∈ eventsOf writes.queued, event ∉ storedEvents writes.stored → event ∈ writes.overlayEvents
  /-- a trace is stored, was trimmed, or waits: only one of these -/
  trimmed : ∀ record ∈ writes.trimmed, record ∈ tracesOf writes.queued ∧ record ∉ storedRecords writes.stored
  traces : ∀ record ∈ tracesOf writes.queued, record ∈ storedRecords writes.stored ∨ record ∈ writes.trimmed ∨
    record ∈ tracesOf ((writes.inFlight.elim [] InFlight.writes) ++ writes.pending)
  single : writes.operations.length ≤ 1
  awake : writes.pending ≠ [] → writes.operations ≠ [] ∨ writes.timer.isSome = true

/-- What an append has not committed is in flight. -/
theorem WriteBooks.uncommitted_subset (h : WriteBooks next writes)
    (hmem : write ∈ writes.uncommitted ++ writes.pending) :
    write ∈ (writes.inFlight.elim [] InFlight.writes) ++ writes.pending := by
  rcases List.mem_append.mp hmem with hmem | hmem
  · rcases h.current with ⟨hnone, -⟩ | ⟨operation, hcur⟩
    · rw [RunWrites.uncommitted_eq_nil hnone] at hmem
      cases hmem
    · rw [hcur.uncommitted] at hmem
      split at hmem
      · rw [hcur.inFlight]
        exact List.mem_append_left _ hmem
      · cases hmem
  · exact List.mem_append_right _ hmem

theorem mem_tracesOf {record : TraceRecord} :
    record ∈ tracesOf queued ↔ .trace record ∈ queued := by
  refine List.mem_filterMap.trans ⟨?_, fun hmem => ⟨_, hmem, rfl⟩⟩
  rintro ⟨write, hmem, hwrite⟩
  cases write with
  | trace other =>
    cases hwrite
    exact hmem
  | event event => cases hwrite

theorem mem_eventsOf : event ∈ eventsOf queued ↔ .event event ∈ queued :=
  ⟨mem_queued_of_event, fun hmem => List.mem_filterMap.mpr ⟨_, hmem, rfl⟩⟩

theorem RunKept.sound (h : RunKept next writes) : RunSound writes := by
  obtain ⟨hevents, htraces, hkept⟩ := h.books.balanced
  have hnodup := h.books.nodup_events
  have hrecords := (List.sublist_append_left _ _).trans htraces
  have hparts := (hkept.nodup_iff.mpr h.books.nodup_traces)
  refine ⟨⟨_, hevents.symm⟩, ?_, hrecords, h.books.nodup_traces.sublist hrecords, fun event hmem hnot => ?_,
    fun record hmem => ⟨hkept.subset (List.mem_append_left _ hmem), fun hstore => ?_⟩, fun record hmem => ?_, ?_, h.awake⟩
  · rw [hevents] at hnodup
    exact (List.nodup_append.mp hnodup).1
  · rw [hevents] at hmem
    have hleft := (List.mem_filter.mp ((List.mem_append.mp hmem).resolve_left hnot)).1
    exact mem_eventsOf.mpr (h.books.uncommitted_subset (mem_eventsOf.mp hleft))
  · exact (List.nodup_append.mp hparts).2.2 record hmem record (List.mem_append_left _ hstore) rfl
  · rcases List.mem_append.mp (hkept.symm.subset hmem) with hgone | hrest
    · exact .inr (.inl hgone)
    · rcases List.mem_append.mp hrest with hstore | hleft
      · exact .inl hstore
      · exact .inr (.inr (mem_tracesOf.mpr (h.books.uncommitted_subset (mem_tracesOf.mp hleft))))
  · rcases h.books.current with ⟨hnone, -⟩ | ⟨operation, hcur⟩
    · rw [hnone]
      exact Nat.zero_le _
    · rw [hcur.operations]
      exact Nat.le_refl _

end Run

end Beale.Desktop
