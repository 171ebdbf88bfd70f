import Beale.Sessions.Store

/-!
# The import of captures

`importCapture` refuses an attempt that has a capture, but it asks the stored document, which has no
captures. A second import passes: it finds the row of the first, leaves it, and writes the status,
the summary and the disposition of its own capture over those of the first.

- `imports_once_iff`: every second import is rejected exactly in the runs in which the other checks
  refuse it.
-/

namespace Beale.Sessions

open Beale.Library

variable {env : SessionPlatform}

/-- The attempt has a row in `app_server_session_captures`. -/
def hasCapture (db : SessionTables) (sessionId attemptId : JsString) : Bool :=
  db.captures.any fun row => row.sessionId.1 = sessionId && row.attemptId.1 = attemptId

def Bare (session : AppServerSessionRecord) : Prop := ∀ a ∈ session.attempts, a.capture = none

/-- A document is stored under its id, and has no captures. -/
def Stored (db : SessionTables) : Prop :=
  ∀ id session, db.sessions.get? id = some session → session.id = id ∧ Bare session

theorem storedSessionDocument_bare (session : AppServerSessionRecord) :
    Bare (storedSessionDocument session) := by
  intro a ha
  obtain ⟨attempt, -, rfl⟩ := List.mem_map.mp ha
  rfl

variable {db db' : SessionTables}

theorem Stored.set (h : Stored db) (next : AppServerSessionRecord)
    (hset : db'.sessions = db.sessions.set next.id (storedSessionDocument next)) : Stored db' := by
  intro id session hget
  rw [hset, JsMap.get?_set] at hget
  split at hget
  · next hid =>
    cases Option.some.inj hget
    exact ⟨hid.symm, storedSessionDocument_bare next⟩
  · exact h id session hget

theorem stored_new : Stored .new := by
  intro id session hget
  rw [show SessionTables.new.sessions.get? id = none from JsMap.get?_empty id] at hget
  cases hget

/-! ## What a transaction adds to the captures -/

theorem hasCapture_committed (db : SessionTables) (next : AppServerSessionRecord)
    (sessionId attemptId : JsString) :
    hasCapture (committed env db next) sessionId attemptId = true ↔
      hasCapture db sessionId attemptId = true ∨ (next.id.1 = sessionId ∧
        ∃ a ∈ next.attempts, a.id.1 = attemptId ∧ a.capture.isSome = true) := by
  have hstore : ∀ id : Text, ((db.captures.filter (·.sessionId = next.id)).map (·.attemptId)).contains
      id = true ↔ hasCapture db next.id.1 id.1 = true := by
    intro id
    simp only [List.contains_iff_mem, List.mem_map, List.mem_filter, decide_eq_true_eq, hasCapture,
      List.any_eq_true, Bool.and_eq_true, Subtype.ext_iff, and_assoc]
  simp only [hasCapture, committed, insertCaptures, List.any_append, Bool.or_eq_true, List.any_eq_true,
    List.mem_filterMap, Bool.and_eq_true, decide_eq_true_eq]
  constructor
  · rintro (hold | ⟨row, ⟨a, ha, hrow⟩, hsess, hatt⟩)
    · exact .inl hold
    · cases hcapt : a.capture with
      | none =>
        rw [hcapt] at hrow
        cases hrow
      | some capture =>
        rw [hcapt] at hrow
        simp only at hrow
        split at hrow
        · cases hrow
        · cases hrow
          exact .inr ⟨hsess, a, ha, hatt, by rw [hcapt]; rfl⟩
  · rintro (hold | ⟨hsess, a, ha, hatt, hcapt⟩)
    · exact .inl hold
    · obtain ⟨capture, hcapt⟩ := Option.isSome_iff_exists.mp hcapt
      by_cases hthere : hasCapture db next.id.1 a.id.1 = true
      · obtain ⟨row, hrow, hmatch⟩ := List.any_eq_true.mp hthere
        simp only [Bool.and_eq_true, decide_eq_true_eq] at hmatch
        exact .inl ⟨row, hrow, hmatch.1.trans hsess, hmatch.2.trans hatt⟩
      · refine .inr ⟨⟨next.id, a.id, capture⟩, ⟨a, ha, ?_⟩, hsess, hatt⟩
        rw [hcapt]
        exact if_neg fun h => hthere ((hstore a.id).mp h)

/-- A record without captures adds none. -/
theorem hasCapture_committed_bare {next : AppServerSessionRecord} (h : Bare next)
    (sessionId attemptId : JsString) :
    hasCapture (committed env db next) sessionId attemptId = true ↔
      hasCapture db sessionId attemptId = true := by
  rw [hasCapture_committed]
  constructor
  · rintro (hold | ⟨-, a, ha, -, hcapt⟩)
    · exact hold
    · rw [h a ha] at hcapt
      cases hcapt
  · exact .inl

/-! ## What a call adds to the captures -/

def importOf : SessionCall → List (JsString × JsString)
  | .importCapture sessionId input => [(trim sessionId, input.attemptId)]
  | _ => []

theorem textOf?_eq_some {s : JsString} {t : Text} (h : textOf? s = some t) : t.1 = trim s := by
  rw [textOf?] at h
  split at h
  · exact congrArg Subtype.val (Option.some.inj h).symm
  · cases h

/-- What a call that succeeds leaves: documents under their ids, and the captures there were with
the one it imports. -/
structure CapturesAfter (db db' : SessionTables) (imported : List (JsString × JsString)) : Prop where
  stored : Stored db'
  captures : ∀ sessionId attemptId, hasCapture db' sessionId attemptId = true ↔
    hasCapture db sessionId attemptId = true ∨ (sessionId, attemptId) ∈ imported

theorem CapturesAfter.of_same (h : Stored db')
    (hcaptures : db'.captures = db.captures) : CapturesAfter db db' [] := by
  refine ⟨h, fun sessionId attemptId => ?_⟩
  rw [hasCapture, hcaptures, ← hasCapture]
  simp

variable {clock sessionId : JsString}

/-- A change of a record that has no captures adds none. -/
theorem mutate_captures (h : Stored db) {expectedRevision : Option Nat}
    {update : AppServerSessionRecord → Except JsString AppServerSessionRecord}
    (hbare : ∀ session updated, Bare session → update session = .ok updated → Bare updated)
    (hok : mutate env db sessionId expectedRevision clock update = .ok db') :
    CapturesAfter db db' [] := by
  obtain ⟨session, updated, hget, -, hupd, rfl⟩ := mutate_ok.mp hok
  obtain ⟨id, -, hget⟩ := getSessionCore_ok.mp hget
  have hupdated : Bare (written updated clock) := hbare session updated (h id session hget).2 hupd
  refine ⟨h.set _ rfl, fun sessionId attemptId => ?_⟩
  rw [hasCapture_committed_bare hupdated]
  simp

variable {session updated : AppServerSessionRecord}

theorem beginAttempt_bare {input : BeginAppServerSessionAttemptInput} (h : Bare session)
    (hok : beginAttemptUpdate input clock session = .ok updated) : Bare updated := by
  obtain ⟨-, summary, id, rfl⟩ := beginAttemptUpdate_ok hok
  intro a ha
  rcases List.mem_append.mp ha with ha | ha
  · exact h a ha
  · rw [List.mem_singleton.mp ha]

theorem mem_modify {α : Type} {l : List α} {index : Nat} {f : α → α} {b : α}
    (h : b ∈ l.modify index f) : b ∈ l ∨ ∃ a, l[index]? = some a ∧ b = f a := by
  obtain ⟨i, hi⟩ := List.mem_iff_getElem?.mp h
  rw [List.getElem?_modify] at hi
  obtain ⟨a, ha, hb⟩ := Option.map_eq_some_iff.mp hi
  by_cases hindex : index = i
  · rw [if_pos hindex] at hb
    exact .inr ⟨a, hindex ▸ ha, hb.symm⟩
  · rw [if_neg hindex] at hb
    exact .inl (hb ▸ List.mem_iff_getElem?.mpr ⟨i, ha⟩)

theorem transition_bare {input : AppServerSessionTransitionInput} (h : Bare session)
    (hok : transitionUpdate input clock session = .ok updated) : Bare updated := by
  obtain ⟨summary, endedAt, hatts⟩ := (transitionUpdate_ok hok).attempts
  intro a ha
  rw [hatts] at ha
  split at ha
  · rcases mem_modify ha with ha | ⟨attempt, hatt, rfl⟩
    · exact h a ha
    · exact h attempt (List.mem_of_getElem? hatt)
  · exact h a ha

variable {input : ImportAppServerSessionCaptureInput}

theorem import_captures (h : Stored db) {capture : List (JsString × Json)} {clock : Text}
    (hok : mutate env db sessionId input.expectedRevision clock.1 (importUpdate env input capture clock)
      = .ok db') : CapturesAfter db db' [(trim sessionId, input.attemptId)] := by
  obtain ⟨session, updated, hget, -, hupd, rfl⟩ := mutate_ok.mp hok
  obtain ⟨id, hid, hget⟩ := getSessionCore_ok.mp hget
  obtain ⟨index, attempt, htgt, hatt, -, -, rfl⟩ := importUpdate_ok.mp hupd
  obtain ⟨hsess, hbare⟩ := h id session hget
  have hname : attempt.id.1 = input.attemptId := by
    obtain ⟨hlt, hfound, -⟩ := List.findIdx?_eq_some_iff_getElem.mp (importTarget_ok.mp htgt)
    rw [List.getElem?_eq_getElem hlt] at hatt
    rw [← Option.some.inj hatt]
    simpa using hfound
  have hkey : session.id.1 = trim sessionId := by
    rw [hsess]
    exact textOf?_eq_some hid
  refine ⟨h.set _ rfl, fun sessionId' attemptId => ?_⟩
  rw [hasCapture_committed, List.mem_singleton, Prod.mk.injEq]
  refine or_congr_right ⟨?_, ?_⟩
  · rintro ⟨hsess', a, ha, rfl, hcapt⟩
    refine ⟨hsess'.symm.trans hkey, ?_⟩
    rcases mem_modify ha with ha | ⟨attempt', hatt', rfl⟩
    · rw [hbare a ha] at hcapt
      cases hcapt
    · rw [hatt] at hatt'
      cases Option.some.inj hatt'
      exact hname
  · rintro ⟨rfl, rfl⟩
    obtain ⟨f, hf, hid, hcapt⟩ : ∃ f : AppServerSessionAttempt → AppServerSessionAttempt,
        (importedRecord session index attempt.id capture input.fresh clock).attempts
          = session.attempts.modify index f ∧ (∀ a, (f a).id = a.id) ∧
            ∀ a, (f a).capture.isSome = true := ⟨_, rfl, fun _ => rfl, fun _ => rfl⟩
    refine ⟨hkey, f attempt, ?_, (congrArg Subtype.val (hid attempt)).trans hname, hcapt attempt⟩
    show f attempt ∈ (importedRecord session index attempt.id capture input.fresh clock).attempts
    rw [hf]
    refine List.mem_of_getElem? (i := index) ?_
    rw [List.getElem?_modify_eq, hatt]
    rfl

theorem recover_captures (h : Stored db) {input : RecoverInput}
    (hok : recoverInterrupted env db input clock = .ok db') :
    CapturesAfter db db' [] := by
  obtain ⟨workspaceId, -, hok⟩ := Client.exceptBind_ok.mp hok
  have hkept : Stored db' ∧ db'.captures = db.captures := by
    refine Client.exceptFoldl_keeps (P := fun t => Stored t ∧ t.captures = db.captures) ?_ ⟨h, rfl⟩ hok
    rintro t session - t' ⟨ht, hcaptures⟩ hturn
    obtain ⟨-, summary, events, rfl⟩ := recoverSession_ok hturn
    exact ⟨ht.set (recoveredRecord _ _ summary session) rfl, hcaptures⟩
  exact .of_same hkept.1 hkept.2

theorem apply_captures (h : Stored db) {call : SessionCall} {clock : Text}
    (hok : apply env db call clock = .ok db') : CapturesAfter db db' (importOf call) := by
  cases call with
  | create input =>
    obtain ⟨record, hcreate⟩ := create_ok hok
    rw [hcreate.stored]
    exact .of_same (h.set record rfl) rfl
  | beginAttempt sessionId input =>
    exact mutate_captures h (fun _ _ hbare => beginAttempt_bare hbare) hok
  | transition sessionId input =>
    exact mutate_captures h (fun _ _ hbare => transition_bare hbare) hok
  | appendEvent sessionId event =>
    obtain ⟨session, title, events, -, rfl⟩ := appendEvent_ok hok
    exact .of_same (h.set
      { session with title, revision := session.revision + 1, updatedAt := clock.1 } rfl) rfl
  | importCapture sessionId input =>
    obtain ⟨capture, -, hok⟩ := Client.exceptBind_ok.mp hok
    exact import_captures h hok
  | recoverInterrupted input => exact recover_captures h hok

/-! ## Histories -/

/-- A store with the imports that succeeded. -/
structure History where
  db : SessionTables
  imports : List (JsString × JsString)

def History.new : History := ⟨.new, []⟩

variable (env)

/-- A call of the store. What it imports is recorded if it succeeds. -/
def History.step (h : History) (i : SessionCall × Text) : History :=
  match apply env h.db i.1 i.2 with
  | .ok db => ⟨db, h.imports ++ importOf i.1⟩
  | .error _ => h

/-- A call that imports the capture of an attempt again fails, and changes nothing. -/
def SecondImportRejected (h : History) (i : SessionCall × Text) : Prop :=
  (∃ key ∈ importOf i.1, key ∈ h.imports) →
    (apply env h.db i.1 i.2).isOk = false ∧ History.step env h i = h

/-- An import passes every check but the guard against a second one: the capture is one, the session
and the attempt exist, the revision is the expected one and the profile is that of the session. -/
def OtherChecksPass (db : SessionTables) (sessionId : JsString)
    (input : ImportAppServerSessionCaptureInput) : Prop :=
  ∃ capture session index, decodeCapture input.capture = .ok capture ∧
    getSessionCore db sessionId = .ok session ∧
    input.expectedRevision.any (· ≠ session.revision) = false ∧
    importTarget input session = .ok index ∧
    validateCaptureResearchProfile env capture session = .ok ()

/-- No import of an attempt that has a capture gets past the other checks. -/
def NoSecondImport (h : History) (i : SessionCall × Text) : Prop :=
  match i.1 with
  | .importCapture sessionId input =>
    hasCapture h.db (trim sessionId) input.attemptId = true → ¬OtherChecksPass env h.db sessionId input
  | _ => True

/-- What runs keep: the captures are those of the imports. -/
structure Recorded (h : History) : Prop where
  stored : Stored h.db
  imports : ∀ sessionId attemptId,
    (sessionId, attemptId) ∈ h.imports ↔ hasCapture h.db sessionId attemptId = true

variable {env}

theorem recorded_new : Recorded .new :=
  ⟨stored_new, fun _ _ => by simp [History.new, hasCapture, SessionTables.new]⟩

variable {h : History}

theorem step_recorded (hrec : Recorded h) (i : SessionCall × Text) : Recorded (h.step env i) := by
  unfold History.step
  cases hok : apply env h.db i.1 i.2 with
  | error message => exact hrec
  | ok db' =>
    obtain ⟨hstore, hcaptures⟩ := apply_captures hrec.stored hok
    refine ⟨hstore, fun sessionId attemptId => ?_⟩
    rw [hcaptures, List.mem_append, hrec.imports]

/-- The guard of an import reads a document without captures, so that it never fails. -/
theorem apply_importCapture_isOk (h : Stored db)
    {clock : Text} : (apply env db (.importCapture sessionId input) clock).isOk = true ↔
      OtherChecksPass env db sessionId input := by
  constructor
  · intro hok
    cases happly : apply env db (.importCapture sessionId input) clock with
    | error message =>
      rw [happly] at hok
      cases hok
    | ok db' =>
      obtain ⟨capture, hdecode, hmutate⟩ := Client.exceptBind_ok.mp happly
      obtain ⟨session, updated, hget, hrev, hupd, -⟩ := mutate_ok.mp hmutate
      obtain ⟨index, attempt, htgt, -, -, hprofile, -⟩ := importUpdate_ok.mp hupd
      exact ⟨capture, session, index, hdecode, hget, hrev, htgt, hprofile⟩
  · rintro ⟨capture, session, index, hdecode, hget, hrev, htgt, hprofile⟩
    obtain ⟨id, -, hstore⟩ := getSessionCore_ok.mp hget
    obtain ⟨hlt, -⟩ := List.findIdx?_eq_some_iff_getElem.mp (importTarget_ok.mp htgt)
    have hatt : session.attempts[index]? = some session.attempts[index] :=
      List.getElem?_eq_getElem hlt
    have hbare : session.attempts[index].capture.isSome = false := by
      rw [(h id session hstore).2 _ (List.getElem_mem hlt)]
      rfl
    have hupd : importUpdate env input capture clock session = .ok _ := importUpdate_ok.mpr
      ⟨index, _, htgt, hatt, hbare, hprofile, rfl⟩
    have hmutate : mutate env db sessionId input.expectedRevision clock.1 _ = .ok _ := mutate_ok.mpr
      ⟨session, _, hget, hrev, hupd, rfl⟩
    have happly : apply env db (.importCapture sessionId input) clock = .ok _ :=
      Client.exceptBind_ok.mpr ⟨capture, hdecode, hmutate⟩
    rw [happly]
    rfl

theorem secondImportRejected_iff (hrec : Recorded h) (i : SessionCall × Text) :
    SecondImportRejected env h i ↔ NoSecondImport env h i := by
  obtain ⟨call, clock⟩ := i
  cases call with
  | importCapture sessionId input =>
    have hsecond : (∃ key ∈ importOf (.importCapture sessionId input), key ∈ h.imports) ↔
        hasCapture h.db (trim sessionId) input.attemptId = true := by
      simp [importOf, hrec.imports]
    have hrejected : (apply env h.db (.importCapture sessionId input) clock).isOk = false ↔
        ¬OtherChecksPass env h.db sessionId input := by
      rw [← apply_importCapture_isOk hrec.stored, Bool.not_eq_true]
    show (_ → _ ∧ _) ↔ (_ → _)
    rw [hsecond, ← hrejected]
    refine imp_congr_right fun _ => and_iff_left_of_imp fun hfail => ?_
    unfold History.step
    cases happly : apply env h.db (.importCapture sessionId input) clock with
    | error message => simp only [happly]
    | ok db' =>
      rw [happly] at hfail
      cases hfail
  | _ => exact ⟨fun _ => trivial, fun _ hkey => by simp [importOf] at hkey⟩

theorem step_imports_nodup (hnodup : h.imports.Nodup) {i : SessionCall × Text}
    (hreject : SecondImportRejected env h i) : (h.step env i).imports.Nodup := by
  unfold History.step
  cases hok : apply env h.db i.1 i.2 with
  | error message => exact hnodup
  | ok db' =>
    refine List.Nodup.append hnodup ?_ ?_
    · cases i.1 with
      | importCapture sessionId input => exact List.nodup_singleton _
      | _ => exact List.nodup_nil
    · intro key hold hnew
      have hfail := (hreject ⟨key, hnew, hold⟩).1
      rw [hok] at hfail
      cases hfail

/-- The capture of an attempt is imported at most once, and every further import is rejected and
changes nothing, exactly in the runs in which no import of an attempt that has a capture gets past
the other checks. -/
theorem imports_once_iff (env : SessionPlatform) (calls : List (SessionCall × Text)) :
    (RunMeets (History.step env) (SecondImportRejected env) .new calls ∧
        (runSteps (History.step env) .new calls).imports.Nodup) ↔
      RunMeets (History.step env) (NoSecondImport env) .new calls := by
  have hruns : RunMeets (History.step env) (SecondImportRejected env) .new calls ↔
      RunMeets (History.step env) (NoSecondImport env) .new calls :=
    runMeets_iff_of_invariant (I := Recorded)
      (fun h i hrecorded => secondImportRejected_iff hrecorded i)
      (fun h i hrecorded _ => step_recorded hrecorded i) recorded_new calls
  have honce : RunMeets (History.step env) (SecondImportRejected env) .new calls →
      (runSteps (History.step env) .new calls).imports.Nodup := fun hmeets =>
    runSteps_invariant_of_meets (I := fun h => h.imports.Nodup)
      (fun h i hnodup hreject => step_imports_nodup hnodup hreject) List.nodup_nil hmeets
  rw [← hruns]
  exact and_iff_left_of_imp honce

/-- A platform for runs without numbers, dates and profiles. -/
def plainPlatform : SessionPlatform where
  numberOf _ := 0
  sqlTextNumber _ := 0
  dateParse _ := none
  profileSnapshot _ := .error (js "A research profile is required.")

def captureOf (agentStatus : JsString) : Json :=
  .obj [(js "schemaVersion", .num (.integer 5)), (js "request", .obj []),
    (js "agent", .obj [(js "status", .str agentStatus)])]

def importTime : Text := ⟨js "2026-07-01T00:00:00.000Z", by decide⟩

/-- A session is created, and the capture of its attempt is imported: of an agent that is complete,
and then of one that was stopped. -/
def importedTwice : List (SessionCall × Text) :=
  let clock := importTime
  [(.create {
      id := js "session", workspaceId := js "workspace", attemptId := js "attempt"
      title := js "Title", prompt := js "Prompt", provider := none, model := js "model"
      reasoningEffort := js "high", workflowId := none, profile := none, metadata := []
      attemptMetadata := [], createdAt := none }, clock),
    (.importCapture (js "session")
      ⟨js "attempt", captureOf (js "complete"), none, fun _ => clock⟩, clock),
    (.importCapture (js "session")
      ⟨js "attempt", captureOf (js "stopped"), none, fun _ => clock⟩, clock)]

/-- The second import succeeds, and the session that was completed is stopped. -/
theorem second_import_overwrites :
    ¬(RunMeets (History.step plainPlatform) (SecondImportRejected plainPlatform) .new importedTwice ∧
        (runSteps (History.step plainPlatform) .new importedTwice).imports.Nodup) ∧
      (runSteps (History.step plainPlatform) .new (importedTwice.take 2)).db.sessions.values.map
        (·.status) = [.completed] ∧
      (runSteps (History.step plainPlatform) .new importedTwice).db.sessions.values.map (·.status)
        = [.stopped] := by
  have himports : (runSteps (History.step plainPlatform) .new importedTwice).imports =
      [(js "session", js "attempt"), (js "session", js "attempt")] := by decide +kernel
  refine ⟨fun h => ?_, by decide +kernel, by decide +kernel⟩
  have hnodup := h.2
  rw [himports] at hnodup
  simp at hnodup

end Beale.Sessions
