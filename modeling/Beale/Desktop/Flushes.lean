import Beale.Desktop.StoredWrites

/-!
# The runs of the write queue

- `QueueKept`: the invariant of all runs and of the calls of `flush`.
- `writes_sound`: after every step of a run that meets the condition, each event is stored once and in order,
  each trace too unless it was trimmed as one of the oldest, and a flush that has come to its end left nothing.
-/

namespace Beale.Desktop

open Beale.Library

/-! ## What a step adds -/

/-- What happens to a run; what is queued has a number from `next` on. -/
structure Grows (next : Nat) (writes writes' : RunWrites) : Prop where
  queued : ∃ added, writes'.queued = writes.queued ++ added ∧ ∀ write ∈ added, next ≤ write.id
  stored : writes.stored <+: writes'.stored
  trimmed : writes.trimmed <+: writes'.trimmed

/-- What was queued with a number below `since` is stored, or was trimmed. -/
def SettledBefore (since : Nat) (writes : RunWrites) : Prop :=
  ∀ write ∈ writes.queued, write.id < since →
    match write with
    | .event event => event ∈ storedEvents writes.stored
    | .trace record => record ∈ storedRecords writes.stored ∨ record ∈ writes.trimmed

section Grows

variable {next next' since : Nat} {writes writes' writes'' : RunWrites} {operation : Operation}

theorem Grows.of_same (hqueue : writes'.queued = writes.queued) (hstore : writes.stored <+: writes'.stored)
    (htrimmed : writes.trimmed <+: writes'.trimmed) : Grows next writes writes' :=
  ⟨⟨[], by rw [hqueue, List.append_nil], nofun⟩, hstore, htrimmed⟩

theorem Grows.refl (next : Nat) (writes : RunWrites) : Grows next writes writes :=
  .of_same rfl (List.prefix_refl _) (List.prefix_refl _)

theorem Grows.trans (h : Grows next writes writes') (h' : Grows next' writes' writes'') (hle : next ≤ next') :
    Grows next writes writes'' := by
  obtain ⟨added, hadded, hnew⟩ := h.queued
  obtain ⟨added', hadded', hnew'⟩ := h'.queued
  refine ⟨⟨added ++ added', by rw [hadded', hadded, List.append_assoc], fun write hmem => ?_⟩,
    h.stored.trans h'.stored, h.trimmed.trans h'.trimmed⟩
  rcases List.mem_append.mp hmem with hmem | hmem
  · exact hnew write hmem
  · exact Nat.le_trans hle (hnew' write hmem)

/-- What `enqueue` changes but for the timer. -/
theorem enqueued_same (writes : RunWrites) (write : QueuedWrite) (trim : List TraceRecord × List QueuedWrite) :
    (writes.enqueued write trim).queued = writes.queued ++ [write] ∧ (writes.enqueued write trim).stored = writes.stored ∧
      (writes.enqueued write trim).trimmed = writes.trimmed ++ trim.1 ∧ (writes.enqueued write trim).pending = trim.2 := by
  unfold RunWrites.enqueued
  dsimp only
  split
  · exact ⟨rfl, rfl, rfl, rfl⟩
  · split <;> exact ⟨rfl, rfl, rfl, rfl⟩

theorem Grows.enqueue {write : QueuedWrite} (hid : write.id = next) (writes : RunWrites) :
    Grows next writes (writes.enqueue write) := by
  obtain ⟨hqueue, hstore, htrimmed, -⟩ := enqueued_same writes write (trimQueuedTraces (writes.pending ++ [write]))
  refine ⟨⟨[write], hqueue, fun other hmem => ?_⟩, ?_, ?_⟩
  · rw [List.mem_singleton.mp hmem, hid]
  · exact ⟨[], (List.append_nil _).trans hstore.symm⟩
  · exact ⟨_, htrimmed.symm⟩

/-- To start an append adds nothing yet. -/
theorem push_same (number : Nat) (writes : RunWrites) :
    (writes.push number).queued = writes.queued ∧ (writes.push number).stored = writes.stored ∧
      (writes.push number).trimmed = writes.trimmed := by
  unfold RunWrites.push RunWrites.start
  split
  · exact ⟨rfl, rfl, rfl⟩
  · split <;> exact ⟨rfl, rfl, rfl⟩

theorem Grows.push (number : Nat) (writes : RunWrites) : Grows next writes (writes.push number) := by
  obtain ⟨hqueue, hstore, htrimmed⟩ := push_same number writes
  exact .of_same hqueue (hstore ▸ List.prefix_refl _) (htrimmed ▸ List.prefix_refl _)

theorem prefix_insertEvent (stored : List AppendedEvent) (event : AppendedEvent) : stored <+: insertEvent stored event := by
  unfold insertEvent
  split
  · exact List.prefix_refl _
  · exact List.prefix_append _ _

section

variable (writes : RunWrites) (operation : Operation)

theorem Grows.commit : Grows next writes (writes.commit operation) :=
  .of_same rfl (prefix_insertEvent _ _) (List.prefix_refl _)

theorem Grows.succeed : Grows next writes (writes.succeed operation) :=
  .of_same rfl (List.prefix_refl _) (List.prefix_refl _)

theorem Grows.retried (trim : List TraceRecord × List QueuedWrite) :
    Grows next writes (writes.retried operation trim) := .of_same rfl (List.prefix_refl _) (List.prefix_append _ _)

theorem finish_same :
    (writes.finish operation).queued = writes.queued ∧ (writes.finish operation).stored = writes.stored ∧
      (writes.finish operation).trimmed = writes.trimmed := by
  unfold RunWrites.finish
  dsimp only
  split <;> exact ⟨rfl, rfl, rfl⟩

theorem Grows.finish : Grows next writes (writes.finish operation) := by
  obtain ⟨hqueue, hstore, htrimmed⟩ := finish_same writes operation
  exact .of_same hqueue (hstore ▸ List.prefix_refl _) (htrimmed ▸ List.prefix_refl _)

end

theorem SettledBefore.grows (h : SettledBefore since writes) (hgrows : Grows next writes writes') (hle : since ≤ next) :
    SettledBefore since writes' := by
  intro write hmem hlt
  obtain ⟨added, hadded, hnew⟩ := hgrows.queued
  rw [hadded] at hmem
  have hold : write ∈ writes.queued := by
    refine (List.mem_append.mp hmem).resolve_right fun hmem => ?_
    have hge := hnew write hmem
    omega
  have hdone := h write hold hlt
  have hsub := hgrows.stored.sublist.subset
  cases write with
  | event event =>
    obtain ⟨appended, hthere, hevent⟩ := List.mem_filterMap.mp hdone
    exact List.mem_filterMap.mpr ⟨appended, hsub hthere, hevent⟩
  | trace record =>
    refine hdone.imp (fun hstore => ?_) fun hgone => hgrows.trimmed.sublist.subset hgone
    obtain ⟨appended, hthere, hrec⟩ := List.mem_flatMap.mp hstore
    exact List.mem_flatMap.mpr ⟨appended, hsub hthere, hrec⟩

theorem RunKept.settled (h : RunKept next writes) (hpend : writes.pending = []) (hinFlight : writes.inFlight = none) :
    SettledBefore since writes := by
  have hops : writes.operations = [] := by
    rcases h.books.current with ⟨hnone, -⟩ | ⟨operation, hcur⟩
    · exact hnone
    · cases hinFlight.symm.trans hcur.inFlight
  obtain ⟨hevents, -, hkept⟩ := h.books.balanced
  rw [RunWrites.uncommitted_eq_nil hops, hpend, List.append_nil] at hevents hkept
  intro write hmem _
  cases write with
  | event event =>
    rw [eventsOf_nil, List.filter_nil, List.append_nil] at hevents
    exact hevents ▸ mem_eventsOf.mpr hmem
  | trace record =>
    rw [tracesOf_nil, List.append_nil] at hkept
    exact (List.mem_append.mp (hkept.symm.subset (mem_tracesOf.mpr hmem))).symm

/-- After `start` nothing waits where nothing is in flight. -/
def IsIdle (writes : RunWrites) : Prop := writes.inFlight = none → writes.pending = []

theorem isIdle_push (number : Nat) (writes : RunWrites) : IsIdle (writes.push number) := by
  unfold RunWrites.push RunWrites.start
  split
  · next hrun =>
    intro hnone
    rw [hnone] at hrun
    cases hrun
  · split
    · next hempty => exact fun _ => hempty
    · exact nofun

end Grows

/-! ## What is trimmed -/

/-- Only where the traces that wait are as many as may wait; and older ones than these. -/
def TrimsOldest (writes writes' : RunWrites) : Prop :=
  ∃ gone, writes'.trimmed = writes.trimmed ++ gone ∧
    (gone ≠ [] → (tracesOf writes'.pending).length = sessionTraceMaxPending ∧
      (gone ++ tracesOf writes'.pending).Sublist (tracesOf writes'.queued))

section Trim

variable {next : Nat} {writes writes' : RunWrites} {operation : Operation}

theorem TrimsOldest.of_same (h : writes'.trimmed = writes.trimmed) : TrimsOldest writes writes' :=
  ⟨[], by rw [h, List.append_nil], fun hsome => absurd rfl hsome⟩

theorem RunKept.sublist_pending (h : RunKept next writes) : (tracesOf writes.pending).Sublist (tracesOf writes.queued) := by
  refine List.Sublist.trans ?_ h.books.balanced.traces
  rw [tracesOf_append]
  exact (List.sublist_append_right _ _).trans (List.sublist_append_right _ _)

section Spec

variable {pending : List QueuedWrite} {trim : List TraceRecord × List QueuedWrite}

theorem TrimsOldest.of_trim (htrimmed : writes'.trimmed = writes.trimmed ++ trim.1) (hpend : writes'.pending = trim.2)
    (htraces : tracesOf pending = trim.1 ++ tracesOf trim.2)
    (hlen : trim.1 ≠ [] → (tracesOf trim.2).length = sessionTraceMaxPending)
    (hqueue : (tracesOf pending).Sublist (tracesOf writes'.queued)) : TrimsOldest writes writes' := by
  refine ⟨_, htrimmed, fun hsome => ?_⟩
  rw [hpend, ← htraces]
  exact ⟨hlen hsome, hqueue⟩

theorem RunKept.trims_enqueued (h : RunKept next writes) {write : QueuedWrite}
    (htraces : tracesOf (writes.pending ++ [write]) = trim.1 ++ tracesOf trim.2)
    (hlen : trim.1 ≠ [] → (tracesOf trim.2).length = sessionTraceMaxPending) :
    TrimsOldest writes (writes.enqueued write trim) := by
  obtain ⟨hqueue, -, htrimmed, hpend⟩ := enqueued_same writes write trim
  refine .of_trim htrimmed hpend htraces hlen ?_
  rw [hqueue, tracesOf_append, tracesOf_append]
  exact h.sublist_pending.append (List.Sublist.refl _)

theorem RunKept.trims_retried (h : RunKept next writes) (hmem : operation ∈ writes.operations)
    (hphase : operation.phase ≠ .settled) (hkept : operation.phase = .committed → tracesOf operation.writes = [])
    (htraces : tracesOf (operation.writes ++ writes.pending) = trim.1 ++ tracesOf trim.2)
    (hlen : trim.1 ≠ [] → (tracesOf trim.2).length = sessionTraceMaxPending) :
    TrimsOldest writes (writes.retried operation trim) := by
  have hcur := h.books.current_of_mem hmem
  have hqueue : (tracesOf (operation.writes ++ writes.pending)).Sublist (tracesOf writes.queued) := by
    cases hwas : operation.phase with
    | appending =>
      have hleft := h.books.balanced.traces
      rw [hcur.uncommitted, if_pos hwas] at hleft
      exact (List.sublist_append_right _ _).trans hleft
    | committed =>
      rw [tracesOf_append, hkept hwas, List.nil_append]
      exact h.sublist_pending
    | settled => exact absurd hwas hphase
  exact .of_trim rfl rfl htraces hlen hqueue

end Spec

theorem RunKept.trims_enqueue (h : RunKept next writes) (write : QueuedWrite) :
    TrimsOldest writes (writes.enqueue write) := by
  obtain ⟨htraces, -, hlen⟩ := trimQueuedTraces_spec (writes.pending ++ [write])
  exact h.trims_enqueued htraces hlen

theorem RunKept.trims_putBack (h : RunKept next writes) (hmem : operation ∈ writes.operations)
    (hphase : operation.phase ≠ .settled) (hkept : operation.phase = .committed → tracesOf operation.writes = []) :
    TrimsOldest writes (writes.putBack operation) := by
  obtain ⟨htraces, -, hlen⟩ := trimQueuedTraces_spec (operation.writes ++ writes.pending)
  exact h.trims_retried hmem hphase hkept htraces hlen

end Trim

/-! ## All runs -/

/-- An append of traces that the store has committed is not put back. -/
def WritesKept (queue : WriteQueue) : WriteEvent → Bool
  | .settle runId number false =>
    (queue.operation? runId number).all fun operation => operation.phase ≠ .committed || (tracesOf operation.writes).isEmpty
  | _ => true

def Flush.covers (flush : Flush) (runId : JsString) : Prop := flush.runId = none ∨ flush.runId = some runId

/-- A run that a call of `flush` does not wait for, or not any more, has nothing left from before the call. -/
def FlushKept (queue : WriteQueue) (flush : Flush) : Prop :=
  flush.since ≤ queue.next ∧ ∀ runId, flush.covers runId → flush.awaited.get? runId = none →
    SettledBefore flush.since (queue.run runId)

structure QueueKept (queue : WriteQueue) : Prop where
  runs : ∀ runId, RunKept queue.next (queue.run runId)
  flushes : ∀ number flush, queue.flushes.get? number = some flush → FlushKept queue flush

/-- From one state of all runs to another. -/
structure QueueGrows (queue queue' : WriteQueue) : Prop where
  next : queue.next ≤ queue'.next
  runs : ∀ runId, Grows queue.next (queue.run runId) (queue'.run runId)

section Queue

variable {queue queue' queue'' : WriteQueue} {runId : JsString}

theorem run_update (queue : WriteQueue) (runId other : JsString) (change : Nat → RunWrites → RunWrites) :
    (queue.update runId change).run other =
      if other = runId then change queue.next (queue.run runId) else queue.run other := by
  unfold WriteQueue.update WriteQueue.run
  rw [JsMap.get?_set]
  split <;> rfl

theorem QueueGrows.refl (queue : WriteQueue) : QueueGrows queue queue := ⟨Nat.le_refl _, fun _ => .refl _ _⟩

theorem QueueGrows.trans (h : QueueGrows queue queue') (h' : QueueGrows queue' queue'') : QueueGrows queue queue'' :=
  ⟨Nat.le_trans h.next h'.next, fun runId => (h.runs runId).trans (h'.runs runId) h.next⟩

theorem QueueGrows.update {change : Nat → RunWrites → RunWrites}
    (hchange : Grows queue.next (queue.run runId) (change queue.next (queue.run runId))) :
    QueueGrows queue (queue.update runId change) := by
  refine ⟨Nat.le_succ _, fun other => ?_⟩
  rw [run_update]
  split
  · next hsame => rw [hsame]; exact hchange
  · exact .refl _ _

theorem FlushKept.grows {flush : Flush} (h : FlushKept queue flush) (hgrows : QueueGrows queue queue') :
    FlushKept queue' flush :=
  ⟨Nat.le_trans h.1 hgrows.next, fun runId hcovers hnone => (h.2 runId hcovers hnone).grows (hgrows.runs runId) h.1⟩

theorem QueueKept.update (h : QueueKept queue) (change : Nat → RunWrites → RunWrites)
    (hkept : RunKept (queue.next + 1) (change queue.next (queue.run runId)))
    (hgrows : Grows queue.next (queue.run runId) (change queue.next (queue.run runId))) :
    QueueKept (queue.update runId change) := by
  refine ⟨fun other => ?_, fun number flush hget => (h.flushes number flush hget).grows (.update hgrows)⟩
  rw [run_update]
  split
  · exact hkept
  · exact (h.runs other).mono (Nat.le_succ _)

theorem QueueKept.push (h : QueueKept queue) (runId : JsString) :
    QueueKept (queue.update runId fun number writes => writes.push number) :=
  h.update (fun number writes => writes.push number) (h.runs runId).push (.push _ _)

theorem QueueKept.enqueue (h : QueueKept queue) (runId : JsString) (write : Nat → QueuedWrite)
    (hid : ∀ number, (write number).id = number) :
    QueueKept (queue.update runId fun number writes => writes.enqueue (write number)) :=
  h.update (fun number writes => writes.enqueue (write number)) ((h.runs runId).enqueue (hid _)) (.enqueue (hid _) _)

/-! ## A call of flush -/

theorem QueueKept.pushAll (h : QueueKept queue) (runIds : List JsString) : QueueKept (queue.pushAll runIds) := by
  induction runIds generalizing queue with
  | nil => exact h
  | cons runId rest ih => exact ih (h.push runId)

theorem QueueGrows.pushAll (queue : WriteQueue) (runIds : List JsString) : QueueGrows queue (queue.pushAll runIds) := by
  induction runIds generalizing queue with
  | nil => exact .refl _
  | cons runId rest ih => exact QueueGrows.trans (.update (.push _ _)) (ih _)

/-- Each run is pushed, and stays so while the others are. -/
theorem isIdle_pushAll {runIds : List JsString} (h : runId ∈ runIds ∨ IsIdle (queue.run runId)) :
    IsIdle ((queue.pushAll runIds).run runId) := by
  induction runIds generalizing queue with
  | nil =>
    rcases h with hmem | hidle
    · cases hmem
    · exact hidle
  | cons first rest ih =>
    refine ih ?_
    rw [run_update]
    split
    · exact .inr (isIdle_push _ _)
    · next hother =>
      rcases h with hmem | hidle
      · exact .inl ((List.mem_cons.mp hmem).resolve_left hother)
      · exact .inr hidle

section

variable (queue : WriteQueue)

theorem flushes_pushAll (runIds : List JsString) : (queue.pushAll runIds).flushes = queue.flushes := by
  induction runIds generalizing queue with
  | nil => rfl
  | cons runId rest ih => exact ih _

theorem trimmed_pushAll (runIds : List JsString) (runId : JsString) :
    ((queue.pushAll runIds).run runId).trimmed = (queue.run runId).trimmed := by
  induction runIds generalizing queue with
  | nil => rfl
  | cons first rest ih =>
    refine (ih _).trans ?_
    rw [run_update]
    split
    · next hsame => rw [hsame]; exact (push_same _ _).2.2
    · rfl

theorem get?_awaitRun (runId other : JsString) (awaited : JsMap JsString Nat) :
    (queue.awaitRun runId awaited).get? other =
      if other = runId then (queue.run runId).inFlight.map InFlight.operation else awaited.get? other := by
  unfold WriteQueue.awaitRun
  cases (queue.run runId).inFlight with
  | none => exact JsMap.get?_delete _ _ _
  | some current => exact JsMap.get?_set _ _ _ _

theorem get?_awaitAll (runIds : List JsString) (awaited : JsMap JsString Nat) (runId : JsString) :
    (runIds.foldl (fun awaited candidate => queue.awaitRun candidate awaited) awaited).get? runId =
      if runId ∈ runIds then (queue.run runId).inFlight.map InFlight.operation else awaited.get? runId := by
  induction runIds generalizing awaited with
  | nil => rfl
  | cons first rest ih =>
    rw [List.foldl_cons, ih, get?_awaitRun]
    by_cases hrest : runId ∈ rest
    · rw [if_pos hrest, if_pos (List.mem_cons_of_mem _ hrest)]
    · by_cases hfirst : runId = first
      · rw [if_neg hrest, if_pos hfirst, if_pos (hfirst ▸ List.mem_cons_self), hfirst]
      · rw [if_neg hrest, if_neg hfirst, if_neg (by simp [hfirst, hrest])]

end

/-- A run that a call does not look at has nothing left. -/
theorem QueueKept.settled_of_not_candidate (h : QueueKept queue) {wanted : Option JsString}
    (hcovers : wanted = none ∨ wanted = some runId) (hnot : runId ∉ queue.candidates wanted) (since : Nat) :
    SettledBefore since (queue.run runId) := by
  rcases hcovers with rfl | rfl
  · by_cases hkey : runId ∈ queue.runs.keys
    · have hleft : ¬ ((queue.run runId).pending ≠ [] ∨ (queue.run runId).inFlight.isSome) := by
        intro hleft
        exact hnot (List.mem_filter.mpr ⟨hkey, by simpa using hleft⟩)
      rw [not_or, ne_eq, Decidable.not_not, Bool.not_eq_true, Option.isSome_eq_false_iff, Option.isNone_iff_eq_none] at hleft
      exact (h.runs runId).settled hleft.1 hleft.2
    · have hempty : queue.run runId = .empty := by rw [WriteQueue.run, JsMap.get?_eq_none.mpr hkey]; rfl
      rw [hempty]
      nofun
  · exact absurd (List.mem_singleton_self _) hnot

/-- What is in flight no more has left nothing. -/
theorem QueueKept.settled_of_idle (h : QueueKept queue) (hidle : IsIdle (queue.run runId))
    (hnone : (queue.run runId).inFlight.map InFlight.operation = none) (since : Nat) :
    SettledBefore since (queue.run runId) := by
  have hinFlight := Option.map_eq_none_iff.mp hnone
  exact (h.runs runId).settled (hidle hinFlight) hinFlight

theorem QueueKept.flush (h : QueueKept queue) (wanted : Option JsString) : QueueKept (queue.step (.flush wanted)) := by
  have hpushed := h.pushAll (queue.candidates wanted)
  have hgrows := QueueGrows.pushAll queue (queue.candidates wanted)
  refine ⟨fun runId => (hpushed.runs runId).mono (Nat.le_succ _), fun number flush hget => ?_⟩
  have hnext : FlushKept (queue.pushAll (queue.candidates wanted)) flush := by
    simp only [WriteQueue.step] at hget
    rw [JsMap.get?_set] at hget
    split at hget
    · cases hget
      refine ⟨hgrows.next, fun runId hcovers hnone => ?_⟩
      rw [get?_awaitAll] at hnone
      split at hnone
      · next hmem => exact hpushed.settled_of_idle (isIdle_pushAll (.inl hmem)) hnone _
      · next hnot =>
        exact (h.settled_of_not_candidate hcovers hnot _).grows (hgrows.runs runId) (Nat.le_refl _)
    · rw [flushes_pushAll] at hget
      exact (h.flushes number flush hget).grows hgrows
  exact ⟨Nat.le_succ_of_le hnext.1, hnext.2⟩

/-- A flush goes on with a run after what it has awaited there. -/
theorem QueueKept.resume (h : QueueKept queue) (number : Nat) (runId : JsString) :
    QueueKept (queue.step (.resume number runId)) := by
  simp only [WriteQueue.step]
  split
  · exact h
  · next flush hflush =>
    split
    · exact h
    · split
      · exact h
      · have hpushed := h.push runId
        have hgrows : QueueGrows queue (queue.update runId fun number writes => writes.push number) := .update (.push _ _)
        refine ⟨hpushed.runs, fun number' flush' hget => ?_⟩
        dsimp only at hget
        rw [JsMap.get?_set] at hget
        split at hget
        · cases hget
          have hold := (h.flushes number flush hflush).grows hgrows
          refine ⟨hold.1, fun other hcovers hnone => ?_⟩
          rw [get?_awaitRun] at hnone
          split at hnone
          · next hsame =>
            subst hsame
            refine hpushed.settled_of_idle ?_ hnone _
            rw [run_update, if_pos rfl]
            exact isIdle_push _ _
          · exact hold.2 other hcovers hnone
        · have hold := (h.flushes number' flush' hget).grows hgrows
          exact ⟨hold.1, hold.2⟩

/-! ## Every step -/

variable {operation : Operation}

theorem operation?_spec {number : Nat} (h : queue.operation? runId number = some operation) :
    operation ∈ (queue.run runId).operations := List.mem_of_find?_eq_some h

theorem WritesKept.tracesOf_eq {number : Nat}
    (hkept : WritesKept queue (.settle runId number false) = true)
    (hfound : queue.operation? runId number = some operation) (hphase : operation.phase = .committed) :
    tracesOf operation.writes = [] := by
  simpa [WritesKept, hfound, hphase] using hkept

variable {event : WriteEvent}

theorem QueueKept.step (h : QueueKept queue) (hkept : WritesKept queue event = true) :
    QueueKept (queue.step event) := by
  cases event with
  | enqueueTrace runId content => exact h.enqueue runId (fun number => .trace ⟨number, content⟩) fun _ => rfl
  | enqueueEvent runId content => exact h.enqueue runId (fun number => .event ⟨number, content⟩) fun _ => rfl
  | timer runId =>
    simp only [WriteQueue.step]
    split
    · exact h.push runId
    · exact h
  | commit runId number =>
    simp only [WriteQueue.step]
    split
    · next operation hfound =>
      split
      · next hphase =>
        have hcommit := (h.runs runId).commit (operation?_spec hfound) hphase
        exact h.update (fun _ writes => writes.commit operation) (hcommit.mono (Nat.le_succ _)) (.commit _ _)
      · exact h
    · exact h
  | settle runId number succeeded =>
    simp only [WriteQueue.step]
    split
    · next operation hfound =>
      split
      · exact h
      · next hphase =>
        cases succeeded with
        | true =>
          rw [if_pos rfl]
          split
          · next hcommit =>
            have hdone := (h.runs runId).succeed (operation?_spec hfound) hcommit
            exact h.update (fun _ writes => writes.succeed operation) (hdone.mono (Nat.le_succ _)) (.succeed _ _)
          · exact h
        | false =>
          have hback := (h.runs runId).putBack (operation?_spec hfound) hphase (WritesKept.tracesOf_eq hkept hfound)
          exact h.update (fun _ writes => writes.putBack operation) (hback.mono (Nat.le_succ _)) (.retried _ _ _)
    · exact h
  | finish runId number =>
    simp only [WriteQueue.step]
    split
    · next operation hfound =>
      split
      · next hphase =>
        have hdone := (h.runs runId).finish (operation?_spec hfound) hphase
        exact h.update (fun _ writes => writes.finish operation) (hdone.mono (Nat.le_succ _)) (.finish _ _)
      · exact h
    · exact h
  | flush runId => exact h.flush runId
  | resume number runId => exact h.resume number runId

theorem TrimsOldest.update (change : Nat → RunWrites → RunWrites) (other : JsString)
    (h : TrimsOldest (queue.run runId) (change queue.next (queue.run runId))) :
    TrimsOldest (queue.run other) ((queue.update runId change).run other) := by
  rw [run_update]
  split
  · next hsame => rw [hsame]; exact h
  · exact .of_same rfl

theorem QueueKept.trims (h : QueueKept queue) (hkept : WritesKept queue event = true)
    (other : JsString) : TrimsOldest (queue.run other) ((queue.step event).run other) := by
  have hsame : TrimsOldest (queue.run other) (queue.run other) := .of_same rfl
  have hpushed : ∀ runId, TrimsOldest (queue.run other)
      ((queue.update runId fun number writes => writes.push number).run other) := fun runId =>
    .update (fun number writes => writes.push number) other (.of_same (push_same _ _).2.2)
  cases event with
  | enqueueTrace runId content =>
    exact .update (fun number writes => writes.enqueue (.trace ⟨number, content⟩)) other ((h.runs runId).trims_enqueue _)
  | enqueueEvent runId content =>
    exact .update (fun number writes => writes.enqueue (.event ⟨number, content⟩)) other ((h.runs runId).trims_enqueue _)
  | timer runId =>
    simp only [WriteQueue.step]
    split
    · exact hpushed runId
    · exact hsame
  | commit runId number =>
    simp only [WriteQueue.step]
    split
    · next operation hfound =>
      split
      · exact .update (fun _ writes => writes.commit operation) other (.of_same rfl)
      · exact hsame
    · exact hsame
  | settle runId number succeeded =>
    simp only [WriteQueue.step]
    split
    · next operation hfound =>
      split
      · exact hsame
      · next hphase =>
        cases succeeded with
        | true =>
          rw [if_pos rfl]
          split
          · exact .update (fun _ writes => writes.succeed operation) other (.of_same rfl)
          · exact hsame
        | false =>
          have hback := (h.runs runId).trims_putBack (operation?_spec hfound) hphase (WritesKept.tracesOf_eq hkept hfound)
          exact .update (fun _ writes => writes.putBack operation) other hback
    · exact hsame
  | finish runId number =>
    simp only [WriteQueue.step]
    split
    · next operation hfound =>
      split
      · exact .update (fun _ writes => writes.finish operation) other (.of_same (finish_same _ _).2.2)
      · exact hsame
    · exact hsame
  | flush runId => exact .of_same (trimmed_pushAll _ _ _)
  | resume number runId =>
    simp only [WriteQueue.step]
    split
    · exact hsame
    · split
      · exact hsame
      · split
        · exact hsame
        · exact hpushed runId

theorem QueueKept.new : QueueKept .new := ⟨fun _ => .empty, nofun⟩

/-- What holds of all runs, and of each call of `flush` that waits for nothing any more. -/
structure WritesSound (queue : WriteQueue) : Prop where
  runs : ∀ runId, RunSound (queue.run runId)
  flushes : ∀ number flush, queue.flushes.get? number = some flush → flush.awaited.keys = [] →
    ∀ runId, flush.covers runId → SettledBefore flush.since (queue.run runId)

theorem QueueKept.sound (h : QueueKept queue) : WritesSound queue where
  runs runId := (h.runs runId).sound
  flushes number flush hget hnil runId hcovers := by
    refine (h.flushes number flush hget).2 runId hcovers (JsMap.get?_eq_none.mpr ?_)
    rw [hnil]
    nofun

end Queue

/-- In a run in which no append of traces fails after the store has committed it, every event and every trace that is
not trimmed is stored once and in order, the oldest are trimmed, and a flush that has resolved left nothing. -/
theorem writes_sound {events : List WriteEvent}
    (hkept : RunMeets WriteQueue.step (fun queue event => WritesKept queue event = true) .new events) :
    RunMeets WriteQueue.step (fun queue event => WritesSound (queue.step event) ∧
      ∀ runId, TrimsOldest (queue.run runId) ((queue.step event).run runId)) .new events :=
  RunMeets.of_invariant (I := QueueKept) (fun _ _ h hkept => h.step hkept)
    (fun _ _ h hkept => ⟨(h.step hkept).sound, h.trims hkept⟩) .new hkept

/-- An event is appended again after an append that failed, and the flush waits for the trace behind it too. -/
def retriedRun : List WriteEvent :=
  [.enqueueEvent (js "a") (js "x"), .enqueueTrace (js "a") (js "y"), .flush (some (js "a")),
    .commit (js "a") 2, .settle (js "a") 2 false, .finish (js "a") 2, .resume 3 (js "a"),
    .commit (js "a") 7, .settle (js "a") 7 true, .finish (js "a") 7, .resume 3 (js "a"),
    .commit (js "a") 11, .settle (js "a") 11 true, .finish (js "a") 11, .resume 3 (js "a")]

theorem writes_sound_retriedRun :
    RunMeets WriteQueue.step (fun queue event => WritesSound (queue.step event) ∧
      ∀ runId, TrimsOldest (queue.run runId) ((queue.step event).run runId)) .new retriedRun :=
  writes_sound (by decide +kernel)

/-- The store has committed the batch, but its append fails: the trace is appended again in another batch. -/
def doubledRun : List WriteEvent :=
  [.enqueueTrace (js "a") (js "x"), .timer (js "a"), .commit (js "a") 1, .settle (js "a") 1 false, .finish (js "a") 1,
    .timer (js "a")]

theorem trace_stored_twice :
    ¬ RunMeets WriteQueue.step (fun queue event => WritesSound (queue.step event) ∧
      ∀ runId, TrimsOldest (queue.run runId) ((queue.step event).run runId)) .new (doubledRun ++ [.commit (js "a") 5]) := by
  intro hmeets
  have hsound := hmeets.last.1
  have hdoubled : ¬ (storedRecords (((runSteps WriteQueue.step .new doubledRun).step (.commit (js "a") 5)).run (js "a")).stored).Nodup := by
    decide +kernel
  exact hdoubled (hsound.runs (js "a")).recordsOnce

end Beale.Desktop
