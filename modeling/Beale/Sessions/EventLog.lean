import Beale.Sessions.Store

/-!
# The event log of a session

- `EventLog`: a log, and the metrics that are kept beside it.
- `reached_logged`: both in every run of the store, where the logs only grow.
-/

namespace Beale.Sessions

open Beale.Library EventTables

variable {env : SessionPlatform}

/-- A log is numbered from zero on, has no event twice, and comes to the metrics beside it. -/
structure EventLog (env : SessionPlatform) (rows : List SessionEventRow) (kept : SummaryMetrics) :
    Prop where
  offsets : rows.map (·.eventOffset) = List.range rows.length
  distinct : (rows.map (·.event.id)).Nodup
  metrics : kept = rows.foldl (fun metrics row => metrics.after env row.event) .new

section

variable {rows : List SessionEventRow} {kept : SummaryMetrics} (h : EventLog env rows kept)
include h

theorem EventLog.concat {sessionId : Text} {event : AppServerSessionEvent}
    (hnew : ∀ row ∈ rows, row.event.id ≠ event.id) :
    EventLog env (rows ++ [⟨sessionId, rows.length, event⟩]) (kept.after env event) where
  offsets := by simp [h.offsets, List.range_succ]
  distinct := by simpa [List.nodup_append, h.distinct] using hnew
  metrics := by
    rw [h.metrics, List.foldl_append]
    rfl

/-- The last number of a log is the largest one. -/
theorem EventLog.next : (rows.map (·.eventOffset + 1)).foldl max 0 = rows.length := by
  rw [show rows.map (·.eventOffset + 1) = (List.range rows.length).map (· + 1) by
    rw [← h.offsets, List.map_map]; rfl]
  induction rows.length with
  | zero => rfl
  | succ n ih =>
    rw [List.range_succ, List.map_append, List.foldl_append, ih]
    exact Nat.max_eq_right (Nat.le_succ n)

end

/-! ## Insertion -/

variable {before : List SessionEventRow} {db : EventTables} {sessionId : Text} {event : AppServerSessionEvent}

/-- Every session has its log, and no row has changed. -/
structure Logged (env : SessionPlatform) (before : List SessionEventRow) (db : EventTables) : Prop where
  log : ∀ id, EventLog env (db.eventsOf id) ((db.metrics.get? id).getD .new)
  grown : before <+: db.events

theorem updateSessionSummaryMetrics_events :
    (updateSessionSummaryMetrics env db sessionId event).events = db.events := by
  unfold updateSessionSummaryMetrics
  split <;> rfl

/-- An event that is passed over would have left the metrics as they are. -/
theorem updateSessionSummaryMetrics_metrics (id : Text) :
    ((updateSessionSummaryMetrics env db sessionId event).metrics.get? id).getD .new =
      if id = sessionId then ((db.metrics.get? id).getD .new).after env event
      else (db.metrics.get? id).getD .new := by
  unfold updateSessionSummaryMetrics
  split
  next hplain =>
    obtain ⟨hupd, htran, hturn⟩ := hplain
    simp [SummaryMetrics.after, hupd, htran, hturn]
  next =>
    rw [JsMap.get?_set]
    split
    next hid => rw [hid, Option.getD_some]
    next => rfl

theorem insertEvent_logged (state : EventTables × Nat) (event : AppServerSessionEvent)
    (h : Logged env before state.1 ∧ state.2 = (state.1.eventsOf sessionId).length) :
    Logged env before (insertEvent env sessionId state event).1 ∧
      (insertEvent env sessionId state event).2 =
        ((insertEvent env sessionId state event).1.eventsOf sessionId).length := by
  obtain ⟨db, offset⟩ := state
  obtain ⟨hlog, hoffset⟩ := h
  unfold insertEvent
  dsimp only at *
  split
  next => exact ⟨hlog, hoffset⟩
  next hknown =>
    have hrows : ∀ id, eventsOf (updateSessionSummaryMetrics env
        { db with events := db.events ++ [⟨sessionId, offset, event⟩] } sessionId event) id =
          db.eventsOf id ++ if id = sessionId then [⟨sessionId, offset, event⟩] else [] := by
      intro id
      rw [eventsOf, updateSessionSummaryMetrics_events, List.filter_append, eventsOf]
      by_cases hid : id = sessionId
      · simp [hid]
      · simp [hid, Ne.symm hid]
    refine ⟨⟨fun id => ?_, ?_⟩, ?_⟩
    · rw [hrows, updateSessionSummaryMetrics_metrics]
      split
      next hid =>
        subst hid
        rw [hoffset]
        exact (hlog.log id).concat fun row hrow heq =>
          hknown (List.any_eq_true.mpr ⟨row, hrow, decide_eq_true heq⟩)
      next =>
        rw [List.append_nil]
        exact hlog.log id
    · rw [updateSessionSummaryMetrics_events]
      exact hlog.grown.trans (List.prefix_append _ _)
    · rw [hrows, if_pos rfl, List.length_append, ← hoffset]
      rfl

theorem insertEvents_logged (h : Logged env before db) (sessionId : Text)
    (events : List AppServerSessionEvent) : Logged env before (db.insertEvents env sessionId events) :=
  (List.foldlRecOn events _ ⟨h, (h.log sessionId).next⟩
    fun state hstate event _ => insertEvent_logged state event hstate).1

/-! ## Runs -/

/-- A call inserts events, or leaves the logs as they are. -/
theorem step_logged (store : SessionTables) (i : SessionCall × Text)
    (h : Logged env before store.toEventTables) : Logged env before (step env store i).toEventTables := by
  obtain ⟨call, clock⟩ := i
  unfold step
  split
  next store' hok =>
    have hmutate : ∀ {id revision update}, mutate env store id revision clock.1 update = .ok store' →
        Logged env before store'.toEventTables := by
      intro id revision update hok
      obtain ⟨session, updated, -, -, -, rfl⟩ := mutate_ok.mp hok
      exact insertEvents_logged h _ _
    cases call with
    | create input =>
      obtain ⟨record, hcreate⟩ := create_ok hok
      rw [hcreate.stored]
      exact h
    | beginAttempt sessionId input => exact hmutate hok
    | transition sessionId input => exact hmutate hok
    | appendEvent sessionId event =>
      obtain ⟨session, title, events, -, rfl⟩ := appendEvent_ok hok
      exact insertEvents_logged h _ _
    | importCapture sessionId input =>
      obtain ⟨capture, -, hok⟩ := Client.exceptBind_ok.mp hok
      exact hmutate hok
    | recoverInterrupted input =>
      obtain ⟨workspaceId, -, hok⟩ := Client.exceptBind_ok.mp hok
      refine Client.exceptFoldl_keeps (P := fun t : SessionTables => Logged env before t.toEventTables)
        (fun t session _ t' ht hturn => ?_) h hok
      obtain ⟨-, summary, events, rfl⟩ := recoverSession_ok hturn
      exact insertEvents_logged ht _ _
  next => exact h

/-- In every run each session has its log, and what calls follow only adds to it. -/
theorem reached_logged (env : SessionPlatform) (calls more : List (SessionCall × Text)) :
    Logged env (runSteps (step env) .new calls).events
      (runSteps (step env) .new (calls ++ more)).toEventTables := by
  have hnew : Logged env [] SessionTables.new.toEventTables :=
    ⟨fun _ => ⟨rfl, List.nodup_nil, rfl⟩, List.nil_prefix⟩
  have hlog := runSteps_invariant (I := fun store : SessionTables => Logged env [] store.toEventTables)
    step_logged hnew calls
  rw [runSteps_append]
  exact runSteps_invariant (I := fun store : SessionTables => Logged env _ store.toEventTables) step_logged
    ⟨hlog.log, List.prefix_refl _⟩ more

end Beale.Sessions
