import Beale.Fleet.Turns

/-!
# Which changes of the configuration are lost

`configure` reads the configuration, waits, and writes it back as a whole; the cloning operations write in
between, outside the queue.

- `changes_present`: in a run that meets it, each change is there, or an operation that has started no earlier
  has replaced it.
-/

namespace Beale.FleetService

open Beale.Library Beale.Library.Client

/-! ## The condition -/

/-- The entry that the next stretch of a call can write. -/
def Service.target (service : Service) (digest : JsString → JsString) (id : Nat) (call : Call) (awaited : Awaited) :
    Option FleetEntry :=
  match service.pointWrite digest awaited call.point, call.point with
  | some (machineId, _), _ => some (.machine machineId)
  | none, .exclusive turn .queued =>
    if turn.work.writesAtOnce ∧ service.queue.head? = some id then some turn.work.entry else none
  | none, .exclusive turn (.awaiting _) => some turn.work.entry
  | none, _ => none

/-- No setting was written since `configure` has read the configuration, but where it writes itself. -/
def isFresh (config : FleetConfiguration) : CallPoint → Bool
  | .exclusive turn (.awaiting view) =>
    match turn.work with
    | .configure action => (view.machines.keys ++ config.machines.keys).all fun machineId =>
      action.entry = .machine machineId || view.machines.get? machineId = config.machines.get? machineId
    | _ => true
  | _ => true

/-- The condition on a step. A call writes no entry that one after it has written; and no cloning operation has
written settings since `configure`, which now writes, has read the configuration. -/
def UpdatesKept (digest : JsString → JsString) (service : Service) : FleetEvent → Bool
  | .request _ => true
  | .advance id awaited => (service.calls.get? id).all fun call =>
    isFresh service.config call.point && (service.target digest id call awaited).all fun entry =>
      service.changes.all fun change => change.entry ≠ entry || change.started ≤ call.started

/-! ## What the calls write -/

/-- What `configure` has read is there where nothing has changed since. -/
theorem get_of_isFresh {view config : FleetConfiguration} (hview : { view with machines := config.machines } = config)
    {turn : ExclusiveCall} {action : FleetAction} (hwork : turn.work = .configure action)
    (hfresh : isFresh config (.exclusive turn (.awaiting view))) {entry : FleetEntry} (hentry : entry ≠ action.entry) :
    view.get entry = config.get entry := by
  cases entry with
  | machine machineId =>
    simp only [isFresh, hwork, List.all_eq_true, Bool.or_eq_true, decide_eq_true_eq] at hfresh
    have hsame : view.machines.get? machineId = config.machines.get? machineId := by
      by_cases hmem : machineId ∈ view.machines.keys ++ config.machines.keys
      · exact (hfresh machineId hmem).resolve_left fun heq => hentry heq.symm
      · rw [List.mem_append, not_or] at hmem
        rw [JsMap.get?_eq_none.mpr hmem.1, JsMap.get?_eq_none.mpr hmem.2]
    simp [FleetConfiguration.get, hsame]
  | _ => rw [← hview]; rfl

/-- A call of the queue leaves what it does not change. -/
theorem workResult_get {turn : ExclusiveCall} {view config config' : FleetConfiguration} {awaited : Awaited}
    (h : workResult turn.work view config awaited = .ok config')
    (hread : ∀ action, turn.work = .configure action → ∀ entry, entry ≠ action.entry → view.get entry = config.get entry)
    {entry : FleetEntry} (hentry : entry ≠ turn.work.entry) : config'.get entry = config.get entry := by
  cases hwork : turn.work with
  | configure action =>
    rw [hwork] at h hentry
    exact (configureAction_get h hentry).trans (hread action hwork entry hentry)
  | reserve machineId owner =>
    rw [hwork] at h hentry
    obtain ⟨-, -, -, -, rfl⟩ := reserveMachine_ok h
    cases entry with
    | owner id =>
      have hid : id ≠ machineId := fun heq => hentry (congrArg FleetEntry.owner heq)
      simp [FleetConfiguration.get, JsMap.get?_set, hid]
    | _ => rfl
  | release machineId owner =>
    rw [hwork] at h hentry
    obtain ⟨-, rfl⟩ := releaseMachine_ok h
    cases entry with
    | owner id =>
      have hid : id ≠ machineId := fun heq => hentry (congrArg FleetEntry.owner heq)
      simp [FleetConfiguration.get, JsMap.get?_delete, hid]
    | _ => rfl

/-- The changes that are recorded, under the turns. -/
structure Logged (service : Service) : Prop where
  turns : TurnsKept service
  recorded : Recorded service.config.get service.changes

section Steps

variable {digest : JsString → JsString} {service service' : Service} {id : Nat} {call : Call} {awaited : Awaited}

theorem recorded_quiet (h : Recorded service.config.get service.changes) (hquiet : Quiet id service service') :
    Recorded service'.config.get service'.changes := by
  rw [hquiet.config, hquiet.changes]
  exact h

/-- What no later operation has changed can be written. -/
theorem started_le_of_kept {entry : FleetEntry} (hget : service.calls.get? id = some call)
    (hkept : UpdatesKept digest service (.advance id awaited))
    (htgt : service.target digest id call awaited = some entry) :
    ∀ change ∈ service.changes, change.entry = entry → change.started ≤ call.started := by
  intro change hmem hentry
  simp only [UpdatesKept, hget, Option.all_some, htgt, Bool.and_eq_true, List.all_eq_true] at hkept
  have hone := hkept.2 change hmem
  simpa [hentry] using hone

theorem recorded_settings (h : Recorded service.config.get service.changes) {machineId : JsString}
    (settings : FleetMachineConfig) {started : Nat}
    (hstart : ∀ change ∈ service.changes, change.entry = .machine machineId → change.started ≤ started) :
    Recorded (service.writeSettings started machineId settings).config.get
      (service.writeSettings started machineId settings).changes := by
  refine h.write rfl (fun entry hentry => ?_) hstart
  cases entry with
  | machine id =>
    have hid : id ≠ machineId := fun heq => hentry (congrArg FleetEntry.machine heq)
    simp [FleetConfiguration.get, Service.writeSettings, Service.write, JsMap.get?_set, hid]
  | _ => rfl

/-- What each stretch writes is recorded. -/
theorem Logged.effect (h : Logged service) (hget : service.calls.get? id = some call)
    (hkept : UpdatesKept digest service (.advance id awaited))
    (heff : Effect digest service id call awaited service') :
    Recorded service'.config.get service'.changes := by
  have hcall : service.pointOf id = some call.point := by rw [Service.pointOf, hget]; rfl
  have hgiven : service.Given id := ⟨h.turns.numbered id _ hcall, h.turns.numbered⟩
  cases heff with
  | same => exact h.recorded
  | quiet hquiet => exact recorded_quiet h.recorded hquiet
  | @settings machineId settings _ hwrite hquiet =>
    refine recorded_quiet (recorded_settings h.recorded settings (started_le_of_kept hget hkept ?_)) hquiet
    simp only [Service.target, hwrite]
  | turn hturn =>
    cases hturn with
    | same => exact h.recorded
    | wait hpoint hhead hvalid hrelease => exact h.recorded
    | @commit turn view config hhead horigin hres =>
      have hfresh : isFresh service.config call.point := by
        simp only [UpdatesKept, hget, Option.all_some, Bool.and_eq_true] at hkept
        exact hkept.1
      have hread : ∀ action, turn.work = .configure action → ∀ entry, entry ≠ action.entry →
          view.get entry = service.config.get entry := by
        intro action hwork entry hentry
        rcases horigin with ⟨-, rfl, -⟩ | ⟨hpoint, -⟩
        · rfl
        · exact get_of_isFresh (h.turns.view id turn view action (hpoint ▸ hcall) hwork) hwork (hpoint ▸ hfresh) hentry
      have htgt : service.target digest id call awaited = some turn.work.entry := by
        rcases horigin with ⟨hpoint, -, honce⟩ | ⟨hpoint, -⟩
        · simp [Service.target, Service.pointWrite, hpoint, honce, hhead]
        · simp [Service.target, Service.pointWrite, hpoint]
      obtain ⟨hconfig, hchanges, -⟩ := noteOwner_same (service.write call.started turn.work.entry config) id turn
      have hwr : Recorded (service.write call.started turn.work.entry config).config.get
          (service.write call.started turn.work.entry config).changes :=
        h.recorded.write rfl (fun entry hentry => workResult_get hres hread hentry)
          (started_le_of_kept hget hkept htgt)
      simp only [Service.commit, Service.setPoint, hconfig, hchanges]
      exact hwr
    | unlock hhead hpoint =>
      have hpassed : ({ service with queue := service.queue.tail } : Service).Given id := hgiven.of_same rfl rfl
      have hquiet := quiet_resume hpassed call.started
      have hrec : Recorded ({ service with queue := service.queue.tail } : Service).config.get
          ({ service with queue := service.queue.tail } : Service).changes := h.recorded
      exact recorded_quiet hrec (hquiet _ _)

theorem Logged.step (h : Logged service) {event : FleetEvent} (hkept : UpdatesKept digest service event) :
    Logged (service.step digest event) := by
  refine ⟨h.turns.step event, ?_⟩
  cases event with
  | request request => exact recorded_quiet h.recorded (quiet_start h.turns.numbered request)
  | advance id awaited =>
    simp only [Service.step]
    split
    · exact h.recorded
    · next call hget => exact h.effect hget hkept (advance_effect h.turns hget)

end Steps

/-- In a run whose steps meet the condition, each change is there, or an operation that has started no earlier
has replaced it. -/
theorem changes_present {digest : JsString → JsString} {config : FleetConfiguration} {events : List FleetEvent}
    (hkept : RunMeets (Service.step digest) (fun s e => UpdatesKept digest s e) (.new config) events) :
    Present (runSteps (Service.step digest) (.new config) events).config.get
      (runSteps (Service.step digest) (.new config) events).changes := by
  have hlogged : Logged (runSteps (Service.step digest) (.new config) events) :=
    runSteps_invariant_of_meets (I := Logged) (fun _ _ h hone => h.step hone) ⟨.new config, .nil _⟩ hkept
  exact hlogged.recorded.present

/-! ## Two calls -/

/-- A host with a base VM. -/
def hostConfig : FleetConfiguration where
  machineId := js "host"
  role := .primary
  enabled := true
  primary := none
  requiredWorkspaceIds := []
  optionalWorkspaceIds := []
  lastMachineByWorkspace := .empty
  workspaceTargets := .empty
  browserEnabled := .empty
  browserHomePage := js "https://example.com/"
  machines := .set .empty (js "tart:base") ⟨true, false, true, .darwin, false, .standard, none, some (js "admin"), none, none⟩
  appServers := .empty
  owners := .empty

def beforeCopy : Awaited := ⟨[⟨js "tart:base", js "base", .stopped⟩], [], true⟩

def afterCopy (name : String) : Awaited :=
  ⟨[⟨js "tart:base", js "base", .stopped⟩, ⟨js "tart:" ++ js name, js name, .stopped⟩], [], true⟩

def sampleDigest : JsString → JsString := fun _ => js "0123456789abcdef"

/-- The targets of a workspace are set; then a session prepares a clone, and releases it. -/
def preparedRun : List FleetEvent :=
  let cloned := afterCopy "beale-base-0123456789abcdef"
  .request (.configure (.setWorkspaceTargets (js "ws") [.clone (js "tart:base")])) ::
    List.replicate 3 (.advance 0 beforeCopy) ++
  [.request (.prepareSessionTarget (.clone (js "tart:base")) (js "ws") (js "session") true), .advance 1 beforeCopy] ++
    List.replicate 3 (.advance 2 beforeCopy) ++ List.replicate 6 (.advance 2 cloned) ++
    List.replicate 3 (.advance 1 cloned) ++
  [.request (.releaseSessionTarget (js "tart:beale-base-0123456789abcdef") (js "session"))] ++
    List.replicate 3 (.advance 3 cloned)

theorem changes_present_preparedRun :
    Present (runSteps (Service.step sampleDigest) (.new hostConfig) preparedRun).config.get
      (runSteps (Service.step sampleDigest) (.new hostConfig) preparedRun).changes :=
  changes_present (by decide +kernel)

/-- A VM is cloned while `set-workspace-targets` waits for the inventory. -/
def overwrittenClone : List FleetEvent :=
  [.request (.configure (.setWorkspaceTargets (js "ws") [])), .request (.clone (js "tart:base") (js "copy")),
    .advance 1 beforeCopy, .advance 1 beforeCopy, .advance 0 beforeCopy, .advance 1 (afterCopy "copy"),
    .advance 1 (afterCopy "copy"), .advance 0 (afterCopy "copy"), .advance 0 (afterCopy "copy")]

/-- Whether a call has returned. -/
def Service.hasSucceeded (service : Service) (id : Nat) : Bool :=
  match service.pointOf id with
  | some (.ended succeeded) => succeeded
  | _ => false

/-- Both calls succeed, and the settings of the new VM are gone. -/
theorem clone_settings_lost :
    (runSteps (Service.step sampleDigest) (.new hostConfig) overwrittenClone).hasSucceeded 0 ∧
      (runSteps (Service.step sampleDigest) (.new hostConfig) overwrittenClone).hasSucceeded 1 ∧
      ¬ Present (runSteps (Service.step sampleDigest) (.new hostConfig) overwrittenClone).config.get
        (runSteps (Service.step sampleDigest) (.new hostConfig) overwrittenClone).changes := by
  refine ⟨by decide +kernel, by decide +kernel, fun hpresent => ?_⟩
  have hlog : (runSteps (Service.step sampleDigest) (.new hostConfig) overwrittenClone).changes =
      [⟨0, .targets (js "ws"), .targets (some [])⟩] ++
        ⟨1, .machine (js "tart:copy"), .machine (some ⟨false, true, false, .darwin, false, .standard, none,
          some (js "admin"), none, none⟩)⟩ :: [] := by decide +kernel
  rcases hpresent _ _ _ hlog with hthere | ⟨later, hmem, hentry, -⟩
  · revert hthere
    decide +kernel
  · rw [List.mem_singleton] at hmem
    rw [hmem] at hentry
    cases hentry

end Beale.FleetService
