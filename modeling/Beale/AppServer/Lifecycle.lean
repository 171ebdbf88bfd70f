import Beale.AppServer.Runtime

/-!
# The life of a session runtime

- `Lifecycle`: where a runtime is, with what lives and what the host was told there.
- `LifecycleMove`: what an event does to its runtime and to the mark of its session.
-/

namespace Beale.AppServer

open Beale.Library
open SessionRuntime

def RuntimeTask.workers : RuntimeTask → List Nat
  | .spawning worker _ => [worker]
  | _ => []

/-- A worker lives, or its exit is being inspected. -/
def SessionRuntime.isActive (runtime : SessionRuntime) : Bool :=
  !runtime.live.isEmpty || runtime.task = some .inspecting

inductive Lifecycle (runtime : SessionRuntime) : Prop where
  | waiting {task : RuntimeTask} (state : runtime.isTerminal = false) (awaits : runtime.task = some task)
      (notFailing : task ≠ .failing) (session : runtime.session = none) (live : runtime.live = task.workers)
      (stop : runtime.stopRequested = true → task = .inspecting) (recorded : runtime.recorded = [])
  | working {worker : Nat} (state : runtime.isTerminal = false) (awaits : runtime.task = none)
      (session : runtime.session = some worker) (live : runtime.live = [worker]) (recorded : runtime.recorded = [])
  | failing (state : runtime.state = .failed) (awaits : runtime.task = some .failing) (session : runtime.session = none)
      (live : runtime.live = []) (recorded : runtime.recorded = [])
  | stopped {task : RuntimeTask} (state : runtime.state = .stopped) (awaits : runtime.task = some task)
      (notFailing : task ≠ .failing) (notTimer : task ≠ .recoveryTimer) (session : runtime.session = none)
      (live : runtime.live = task.workers) (stop : runtime.stopRequested = true) (recorded : runtime.recorded = [.stopped])
  | ended (state : runtime.isTerminal = true) (awaits : runtime.task = none) (session : runtime.session = none)
      (live : runtime.live.length ≤ 1) (recorded : runtime.recorded = [runtime.state])

section Runtime

variable {runtime runtime' : SessionRuntime}

theorem isTerminal_of_stopped (h : runtime.state = .stopped) : runtime.isTerminal = true := by
  rw [isTerminal, h]
  rfl

theorem isTerminal_of_failed (h : runtime.state = .failed) : runtime.isTerminal = true := by
  rw [isTerminal, h]
  rfl

theorem length_workers (task : RuntimeTask) : task.workers.length ≤ 1 := by
  cases task <;> simp [RuntimeTask.workers]

theorem Lifecycle.length_live (h : Lifecycle runtime) : runtime.live.length ≤ 1 := by
  cases h with
  | waiting _ _ _ _ live => exact live ▸ length_workers _
  | working _ _ _ live => exact live ▸ Nat.le_refl 1
  | failing _ _ _ live => exact live ▸ Nat.zero_le 1
  | stopped _ _ _ _ _ live => exact live ▸ length_workers _
  | ended _ _ _ live => exact live

/-- What a runtime is that awaits something, other than the report of a failed launch. -/
theorem Lifecycle.of_task (h : Lifecycle runtime) {task : RuntimeTask} (htask : runtime.task = some task)
    (hnot : task ≠ .failing) :
    runtime.session = none ∧ runtime.live = task.workers ∧
      (runtime.isTerminal = false ∧ (runtime.stopRequested = true → task = .inspecting) ∧ runtime.recorded = [] ∨
        runtime.state = .stopped ∧ task ≠ .recoveryTimer ∧ runtime.stopRequested = true ∧
          runtime.recorded = [.stopped]) := by
  cases h with
  | waiting state awaits _ session live stop recorded =>
    cases htask.symm.trans awaits
    exact ⟨session, live, .inl ⟨state, stop, recorded⟩⟩
  | working _ awaits => cases htask.symm.trans awaits
  | failing _ awaits =>
    cases htask.symm.trans awaits
    exact absurd rfl hnot
  | stopped state awaits _ notTimer session live stop recorded =>
    cases htask.symm.trans awaits
    exact ⟨session, live, .inr ⟨state, notTimer, stop, recorded⟩⟩
  | ended _ awaits => cases htask.symm.trans awaits

theorem Lifecycle.of_session (h : Lifecycle runtime) {worker : Nat} (hsess : runtime.session = some worker) :
    runtime.isTerminal = false ∧ runtime.task = none ∧ runtime.live = [worker] ∧ runtime.recorded = [] := by
  cases h with
  | waiting _ _ _ session | failing _ _ session | stopped _ _ _ _ session | ended _ _ session =>
    cases hsess.symm.trans session
  | working state awaits session live recorded =>
    cases hsess.symm.trans session
    exact ⟨state, awaits, live, recorded⟩

/-- What the host is told of a runtime. -/
theorem Lifecycle.recorded (h : Lifecycle runtime) :
    if runtime.isTerminal then
      runtime.recorded = [runtime.state] ∨ runtime.recorded = [] ∧ runtime.state = .failed ∧ runtime.task = some .failing
    else runtime.recorded = [] := by
  cases h with
  | waiting state _ _ _ _ _ recorded => rwa [if_neg (by rw [state]; nofun)]
  | working state _ _ _ recorded => rwa [if_neg (by rw [state]; nofun)]
  | failing state awaits _ _ recorded =>
    rw [if_pos (isTerminal_of_failed state)]
    exact .inr ⟨recorded, state, awaits⟩
  | stopped state _ _ _ _ _ _ recorded =>
    rw [if_pos (isTerminal_of_stopped state), state]
    exact .inl recorded
  | ended state _ _ _ recorded =>
    rw [if_pos state]
    exact .inl recorded

theorem isActive_of_live {worker : Nat} (h : runtime.live = [worker]) : runtime.isActive = true := by
  simp [isActive, h]

theorem isActive_of_none (hlive : runtime.live = []) (htask : runtime.task ≠ some .inspecting) : runtime.isActive = false := by
  simp [isActive, hlive, htask]

/-- Only a worker is of interest of what a runtime waits for. -/
theorem Lifecycle.congr (h : Lifecycle runtime) (hsess : runtime'.session = runtime.session)
    (hterm : runtime'.isTerminal = runtime.isTerminal) (hstate : runtime.isTerminal = true → runtime'.state = runtime.state)
    (hstop : runtime'.stopRequested = runtime.stopRequested) (htask : runtime'.task = runtime.task)
    (hlive : runtime'.live = runtime.live) (hrec : runtime'.recorded = runtime.recorded) : Lifecycle runtime' := by
  cases h with
  | waiting state awaits notFailing session live stop recorded =>
    exact .waiting (hterm.trans state) (htask.trans awaits) notFailing (hsess.trans session) (hlive.trans live)
      (fun h => stop (hstop.symm.trans h)) (hrec.trans recorded)
  | working state awaits session live recorded =>
    exact .working (hterm.trans state) (htask.trans awaits) (hsess.trans session) (hlive.trans live)
      (hrec.trans recorded)
  | failing state awaits session live recorded =>
    exact .failing ((hstate (isTerminal_of_failed state)).trans state) (htask.trans awaits) (hsess.trans session)
      (hlive.trans live) (hrec.trans recorded)
  | stopped state awaits notFailing notTimer session live stop recorded =>
    exact .stopped ((hstate (isTerminal_of_stopped state)).trans state) (htask.trans awaits) notFailing notTimer
      (hsess.trans session) (hlive.trans live) (hstop.trans stop) (hrec.trans recorded)
  | ended state awaits session live recorded =>
    exact .ended (hterm.trans state) (htask.trans awaits) (hsess.trans session) (hlive ▸ live)
      (by rw [hrec, recorded, hstate state])

end Runtime

/-! ## The condition -/

namespace AppServer

variable (server : AppServer)

/-- Another runtime of the session has a worker. -/
def OtherLive (number : Nat) (sessionId : JsString) : Prop :=
  ∃ other runtime, other ≠ number ∧ server.runtimes.get? other = some runtime ∧ runtime.sessionId = sessionId ∧
    runtime.live ≠ []

/-- Another runtime of the session has a worker, or its exit is being inspected. -/
def OtherActive (number : Nat) (sessionId : JsString) : Prop :=
  ∃ other runtime, other ≠ number ∧ server.runtimes.get? other = some runtime ∧ runtime.sessionId = sessionId ∧
    runtime.isActive = true

def Undisturbed (number : Nat) (runtime : SessionRuntime) : RuntimeEvent → Prop
  | .launch =>
    match runtime.task with
    | some (.launching _) =>
      if server.isGone number runtime then ¬ server.OtherActive number runtime.sessionId
      else ¬ server.OtherLive number runtime.sessionId
    | _ => True
  | .launchFailed => runtime.task = some (.launching .start) → runtime.isTerminal = false
  | .spawnFailed =>
    match runtime.task with
    | some (.spawning _ launch) =>
      (launch = .start → runtime.isTerminal = false) ∧ ¬ server.OtherActive number runtime.sessionId
    | _ => True
  | .exit worker =>
    -- the worker was stopped before it could be registered
    worker ∈ runtime.live ∧ runtime.isSpawning worker = false ∧ runtime.session ≠ some worker →
      ¬ server.OtherActive number runtime.sessionId
  | .inspected _ =>
    match runtime.task with
    | some .inspecting =>
      (runtime.isTerminal = true → server.isCurrent number runtime = false) ∧
        ¬ server.OtherActive number runtime.sessionId
    | _ => True
  | .recoveryFailureRecorded =>
    match runtime.task with
    | some (.recoveryFailed _) => runtime.isTerminal = false
    | _ => True
  | .stop => runtime.isTerminal = false
  | _ => True

end AppServer

/-! ## What an event does -/

section Moves

variable (server : AppServer)

inductive MarkMove (number : Nat) (runtime runtime' : SessionRuntime) (active' : JsMap JsString Unit) : Prop where
  | same (mark : active' = server.active) (activity : runtime'.isActive = runtime.isActive)
  | set (mark : active' = server.active.set runtime.sessionId ()) (activity : runtime'.isActive = true)
  | clear (mark : active' = server.active.delete runtime.sessionId) (activity : runtime'.isActive = false)
      (others : ¬ server.OtherActive number runtime.sessionId)

structure RuntimeMove (number : Nat) (runtime : SessionRuntime) (server' : AppServer) (runtime' : SessionRuntime) :
    Prop where
  runtimes : server'.runtimes = server.runtimes.set number runtime'
  sessions : server'.sessions = server.sessions
  next : server.next ≤ server'.next
  sessionId : runtime'.sessionId = runtime.sessionId
  life : Lifecycle runtime'
  final : runtime.isTerminal = true → runtime'.state = runtime.state
  live : runtime'.live ⊆ runtime.live ∨ runtime.isTerminal = false ∧ ¬ server.OtherLive number runtime.sessionId
  mark : MarkMove server number runtime runtime' server'.active

inductive LifecycleMove (number : Nat) (runtime : SessionRuntime) (server' : AppServer) : Prop where
  | unchanged (same : server' = server)
  | removed (terminal : runtime.isTerminal = true) (current : server.isCurrent number runtime = true)
      (same : server' = { server with sessions := server.sessions.delete runtime.sessionId })
  | moved {runtime' : SessionRuntime} (move : RuntimeMove server number runtime server' runtime')

variable {server} {number : Nat} {runtime runtime' : SessionRuntime} {task : RuntimeTask}

section

variable (hid : runtime'.sessionId = runtime.sessionId) (hlife : Lifecycle runtime')
  (hfinal : runtime.isTerminal = true → runtime'.state = runtime.state)
  (hlive : runtime'.live ⊆ runtime.live)
include hid hlife hfinal hlive

theorem LifecycleMove.put (hact : runtime'.isActive = runtime.isActive) :
    LifecycleMove server number runtime (server.put number runtime') :=
  .moved ⟨rfl, rfl, Nat.le_refl _, hid, hlife, hfinal, .inl hlive, .same rfl hact⟩

theorem LifecycleMove.putCleared
    (hact : runtime'.isActive = false) (hrest : ¬ server.OtherActive number runtime.sessionId) :
    LifecycleMove server number runtime ((server.setActive runtime.sessionId false).put number runtime') :=
  .moved ⟨rfl, rfl, Nat.le_refl _, hid, hlife, hfinal, .inl hlive, .clear rfl hact hrest⟩

end

section

variable (h : Lifecycle runtime)
  (hreg : runtime.isTerminal = false → server.isCurrent number runtime = true)
include h hreg

/-- A runtime that awaits something, and whether its continuation gives up. -/
theorem Lifecycle.of_continuation {task : RuntimeTask}
    (htask : runtime.task = some task) (hnot : task ≠ .failing) (hinspecting : task ≠ .inspecting) :
    runtime.session = none ∧ runtime.live = task.workers ∧
      (runtime.isTerminal = false ∧ server.isGone number runtime = false ∧ runtime.stopRequested = false ∧
          runtime.recorded = [] ∨
        runtime.state = .stopped ∧ server.isGone number runtime = true ∧ task ≠ .recoveryTimer ∧
          runtime.stopRequested = true ∧ runtime.recorded = [.stopped]) := by
  obtain ⟨hsess, hlive, ⟨hstate, hstop, hrec⟩ | ⟨hstate, htimer, hstop, hrec⟩⟩ := h.of_task htask hnot
  · have hnostop : runtime.stopRequested = false := by
      cases hreq : runtime.stopRequested with
      | true => exact absurd (hstop hreq) hinspecting
      | false => rfl
    refine ⟨hsess, hlive, .inl ⟨hstate, ?_, hnostop, hrec⟩⟩
    simp [AppServer.isGone, hnostop, hreg hstate]
  · refine ⟨hsess, hlive, .inr ⟨hstate, ?_, htimer, hstop, hrec⟩⟩
    simp [AppServer.isGone, hstop]

theorem LifecycleMove.launch (hcond : server.Undisturbed number runtime .launch) :
    LifecycleMove server number runtime (server.launch number runtime) := by
  unfold AppServer.launch
  split
  · next launch htask =>
    simp only [AppServer.Undisturbed, htask] at hcond
    obtain ⟨hsess, hlive, ⟨hstate, hgone, hstop, hrec⟩ | ⟨hstate, hgone, -, hstop, hrec⟩⟩ :=
      h.of_continuation hreg htask nofun nofun
    · rw [if_neg (by rw [hgone]; nofun)] at hcond ⊢
      have hspawn : runtime.live ++ [server.next] = [server.next] := by rw [hlive]; rfl
      refine .moved ⟨rfl, rfl, Nat.le_succ _, rfl, ?_, fun _ => rfl, .inr ⟨hstate, hcond⟩, .set rfl ?_⟩
      · exact .waiting hstate rfl nofun hsess hspawn
          (fun hreq => by rw [hstop] at hreq; cases hreq) hrec
      · exact isActive_of_live hspawn
    · rw [if_pos hgone] at hcond ⊢
      have hnone : runtime.live = [] := hlive
      refine .putCleared rfl ?_ (fun _ => rfl) (List.Subset.refl _) (isActive_of_none hnone nofun) hcond
      exact .ended (isTerminal_of_stopped hstate) rfl hsess (hnone ▸ Nat.zero_le 1) (hstate ▸ hrec)
  · exact .unchanged rfl

end

/-- An error out of `launchPreparedSession`, once nothing lives. -/
theorem Lifecycle.launchError (runtime : SessionRuntime) (launch : Launch) (hsess : runtime.session = none) (hlive : runtime.live = [])
    (hplace : runtime.isTerminal = false ∧ runtime.stopRequested = false ∧ runtime.recorded = [] ∨
      runtime.state = .stopped ∧ runtime.stopRequested = true ∧ runtime.recorded = [.stopped])
    (hstart : launch = .start → runtime.isTerminal = false) :
    Lifecycle (runtime.launchError launch) ∧
      (runtime.isTerminal = true → (runtime.launchError launch).state = runtime.state) ∧
        (runtime.launchError launch).isActive = false := by
  have hrecovery : ∀ restarting, Lifecycle { runtime with task := some (.recoveryFailed restarting) } := by
    intro restarting
    rcases hplace with ⟨hstate, hstop, hrec⟩ | ⟨hstate, hstop, hrec⟩
    · exact .waiting hstate rfl nofun hsess hlive (fun hreq => by cases hstop.symm.trans hreq) hrec
    · exact .stopped hstate rfl nofun nofun hsess hlive hstop hrec
  cases launch with
  | start =>
    rcases hplace with ⟨hstate, hstop, hrec⟩ | ⟨hstate, hstop, hrec⟩
    · refine ⟨.failing rfl rfl hsess hlive hrec, fun hterm => ?_, isActive_of_none hlive nofun⟩
      cases hstate.symm.trans hterm
    · cases (hstart rfl).symm.trans (isTerminal_of_stopped hstate)
  | recovery => exact ⟨hrecovery false, fun _ => rfl, isActive_of_none hlive nofun⟩
  | restart => exact ⟨hrecovery true, fun _ => rfl, isActive_of_none hlive nofun⟩

/-- A runtime whose launch or spawn fails: what is left of `of_continuation`. -/
theorem failed_place
    (hplace : runtime.isTerminal = false ∧ server.isGone number runtime = false ∧ runtime.stopRequested = false ∧
        runtime.recorded = [] ∨
      runtime.state = .stopped ∧ server.isGone number runtime = true ∧ task ≠ .recoveryTimer ∧
        runtime.stopRequested = true ∧ runtime.recorded = [.stopped]) :
    runtime.isTerminal = false ∧ runtime.stopRequested = false ∧ runtime.recorded = [] ∨
      runtime.state = .stopped ∧ runtime.stopRequested = true ∧ runtime.recorded = [.stopped] := by
  rcases hplace with ⟨hstate, -, hstop, hrec⟩ | ⟨hstate, -, -, hstop, hrec⟩
  · exact .inl ⟨hstate, hstop, hrec⟩
  · exact .inr ⟨hstate, hstop, hrec⟩

section

variable (h : Lifecycle runtime)
  (hreg : runtime.isTerminal = false → server.isCurrent number runtime = true)
include h hreg

theorem LifecycleMove.launchFailed (hcond : server.Undisturbed number runtime .launchFailed) :
    LifecycleMove server number runtime (server.launchFailed number runtime) := by
  unfold AppServer.launchFailed
  split
  · next launch htask =>
    obtain ⟨hsess, hlive, hplace⟩ := h.of_continuation hreg htask nofun nofun
    have hnone : runtime.live = [] := hlive
    obtain ⟨hlife, hstate, hact⟩ := Lifecycle.launchError { runtime with task := none } launch
      hsess hnone (failed_place hplace) (fun hstart => hcond (hstart ▸ htask))
    refine .put ?_ hlife hstate ?_ (hact.trans (isActive_of_none hnone ?_).symm)
    · cases launch <;> rfl
    · cases launch <;> exact List.Subset.refl _
    · rw [htask]
      nofun
  · exact .unchanged rfl

theorem LifecycleMove.spawned :
    LifecycleMove server number runtime (server.spawned number runtime) := by
  unfold AppServer.spawned
  split
  · next worker launch htask =>
    obtain ⟨hsess, hlive, ⟨hstate, hgone, hstop, hrec⟩ | ⟨hstate, hgone, -, hstop, hrec⟩⟩ :=
      h.of_continuation hreg htask nofun nofun
    all_goals have hact : runtime.isActive = true := isActive_of_live hlive
    · rw [if_neg (by rw [hgone]; nofun)]
      refine .put rfl (.working rfl rfl rfl hlive hrec) (fun hterm => ?_) (List.Subset.refl _) ?_
      · cases hstate.symm.trans hterm
      · exact Eq.trans (isActive_of_live hlive) hact.symm
    · rw [if_pos hgone]
      refine .put rfl ?_ (fun _ => rfl) (List.Subset.refl _) ?_
      · exact .ended (isTerminal_of_stopped hstate) rfl hsess (hlive ▸ Nat.le_refl 1) (hstate ▸ hrec)
      · exact Eq.trans (isActive_of_live hlive) hact.symm
  · exact .unchanged rfl

theorem LifecycleMove.spawnFailed (hcond : server.Undisturbed number runtime .spawnFailed) :
    LifecycleMove server number runtime (server.spawnFailed number runtime) := by
  unfold AppServer.spawnFailed
  split
  · next worker launch htask =>
    simp only [AppServer.Undisturbed, htask] at hcond
    obtain ⟨hsess, hlive, hplace⟩ := h.of_continuation hreg htask nofun nofun
    have hnone : runtime.live.erase worker = [] := by
      rw [hlive]
      exact List.erase_cons_head worker []
    obtain ⟨hlife, hstate, hact⟩ := Lifecycle.launchError
      { runtime with task := none, live := runtime.live.erase worker } launch hsess hnone (failed_place hplace) hcond.1
    refine .putCleared ?_ hlife hstate ?_ hact hcond.2
    · cases launch <;> rfl
    · cases launch <;> exact List.erase_sublist.subset
  · exact .unchanged rfl

end

section

variable (h : Lifecycle runtime)
include h

theorem LifecycleMove.works {worker : Nat} (hsess : runtime.session = some worker)
    (hid : runtime'.sessionId = runtime.sessionId) (hstate : runtime'.isTerminal = false)
    (hsess' : runtime'.session = runtime.session) (htask : runtime'.task = runtime.task)
    (hlive : runtime'.live = runtime.live) (hrec : runtime'.recorded = runtime.recorded) :
    LifecycleMove server number runtime (server.put number runtime') := by
  obtain ⟨hold, hnone, hone, hnil⟩ := h.of_session hsess
  refine .put hid (.working hstate (htask.trans hnone) (hsess'.trans hsess) (hlive.trans hone)
    (hrec.trans hnil)) (fun hterm => ?_) (hlive ▸ List.Subset.refl _) ?_
  · cases hold.symm.trans hterm
  · rw [isActive_of_live hone, isActive_of_live (hlive.trans hone)]

theorem LifecycleMove.ready (worker : Nat) :
    LifecycleMove server number runtime (server.ready number runtime worker) := by
  unfold AppServer.ready
  split
  · exact .unchanged rfl
  · next hready =>
    rw [not_or, ne_eq, Decidable.not_not] at hready
    exact .works h hready.1 rfl rfl rfl rfl rfl rfl

theorem LifecycleMove.startupFailed (worker : Nat) :
    LifecycleMove server number runtime (server.startupFailed number runtime worker) := by
  unfold AppServer.startupFailed
  split
  · exact .unchanged rfl
  · next hready =>
    rw [not_or, ne_eq, Decidable.not_not] at hready
    exact .works h hready.1 rfl (h.of_session hready.1).1 rfl rfl rfl rfl

/-- What lives is a worker that is spawned, that works, or that was stopped before it could be registered. -/
theorem Lifecycle.of_live {worker : Nat} (hmem : worker ∈ runtime.live)
    (hspawning : runtime.isSpawning worker = false) (hsess : runtime.session ≠ some worker) :
    runtime.isTerminal = true ∧ runtime.task = none ∧ runtime.session = none ∧ runtime.live = [worker] ∧
      runtime.recorded = [runtime.state] := by
  have hspawn : ∀ task, runtime.task = some task → runtime.live ≠ task.workers := by
    intro task htask hlive
    rw [hlive] at hmem
    cases task with
    | spawning spawned launch =>
      simp [SessionRuntime.isSpawning, htask, List.mem_singleton.mp hmem] at hspawning
    | _ => cases hmem
  cases h with
  | waiting _ awaits _ _ live => exact absurd live (hspawn _ awaits)
  | working _ _ session live =>
    rw [live] at hmem
    exact absurd (List.mem_singleton.mp hmem ▸ session) hsess
  | failing _ _ _ live =>
    rw [live] at hmem
    cases hmem
  | stopped _ awaits _ _ _ live => exact absurd live (hspawn _ awaits)
  | ended state awaits session live recorded =>
    obtain ⟨other, hone⟩ := List.length_eq_one_iff.mp (Nat.le_antisymm live (List.length_pos_of_mem hmem))
    rw [hone] at hmem
    exact ⟨state, awaits, session, List.mem_singleton.mp hmem ▸ hone, recorded⟩

theorem LifecycleMove.exit
    (hreg : runtime.isTerminal = false → server.isCurrent number runtime = true) {worker : Nat}
    (hcond : server.Undisturbed number runtime (.exit worker)) :
    LifecycleMove server number runtime (server.exit number runtime worker) := by
  unfold AppServer.exit
  split
  · exact .unchanged rfl
  · next hends =>
    rw [not_or, Decidable.not_not, Bool.not_eq_true] at hends
    obtain ⟨hmem, hspawning⟩ := hends
    split
    · next hsess =>
      obtain ⟨hstate, htask, hlive, hrec⟩ := h.of_session hsess
      have hnone : runtime.live.erase worker = [] := by
        rw [hlive]
        exact List.erase_cons_head worker []
      have hact : runtime.isActive = true := isActive_of_live hlive
      rw [if_pos (hreg hstate)]
      refine .put rfl (.waiting hstate rfl nofun rfl hnone (fun _ => rfl) hrec) (fun _ => rfl)
        List.erase_sublist.subset ?_
      rw [hact]
      simp [SessionRuntime.isActive]
    · next hsess =>
      obtain ⟨hstate, htask, hnone, hlive, hrec⟩ := h.of_live hmem hspawning hsess
      have hempty : runtime.live.erase worker = [] := by
        rw [hlive]
        exact List.erase_cons_head worker []
      refine .putCleared rfl (.ended hstate htask hnone ?_ hrec) (fun _ => rfl) List.erase_sublist.subset
        (isActive_of_none hempty ?_) (hcond ⟨hmem, hspawning, hsess⟩)
      · exact hempty ▸ Nat.zero_le 1
      · rw [htask]
        nofun

end

/-- The end of a runtime that waits for nothing any more. -/
theorem Lifecycle.finishRuntime (runtime : SessionRuntime) (htask : runtime.task = none) (hsess : runtime.session = none)
    (hlive : runtime.live = []) (hrec : runtime.recorded = []) {state : SessionState} (hstate : state.isTerminal = true) :
    Lifecycle (runtime.finishRuntime state) ∧ (runtime.finishRuntime state).isActive = false := by
  have hnil : (runtime.finishRuntime state).task = none := by
    simp [SessionRuntime.finishRuntime, htask]
  have hone : (runtime.finishRuntime state).recorded = [state] := by
    simp [SessionRuntime.finishRuntime, hrec]
  refine ⟨.ended hstate hnil hsess ?_ hone, isActive_of_none hlive ?_⟩
  · exact Nat.le_trans (Nat.le_of_eq (congrArg List.length hlive)) (Nat.zero_le 1)
  · rw [hnil]
    nofun

theorem Lifecycle.afterExit (runtime : SessionRuntime) (htask : runtime.task = none) (hsess : runtime.session = none)
    (hstate : runtime.isTerminal = false) (hlive : runtime.live = []) (hrec : runtime.recorded = [])
    (maxRecoveryAttempts : Nat) (completion : Completion) :
    Lifecycle (runtime.afterExit maxRecoveryAttempts completion) ∧
      (runtime.afterExit maxRecoveryAttempts completion).isActive = false := by
  have hends : ∀ {state : SessionState}, state.isTerminal = true →
      Lifecycle (runtime.finishRuntime state) ∧ (runtime.finishRuntime state).isActive = false :=
    Lifecycle.finishRuntime runtime htask hsess hlive hrec
  unfold SessionRuntime.afterExit
  split
  · exact hends rfl
  · split
    · exact hends rfl
    · next hstop =>
      cases completion with
      | succeeded => exact hends rfl
      | recoverable =>
        dsimp only
        split
        · exact ⟨.waiting hstate rfl nofun hsess hlive (fun hreq => absurd hreq hstop) hrec,
            isActive_of_none hlive nofun⟩
        · exact hends rfl
      | failed => exact hends rfl

theorem afterExit_same (runtime : SessionRuntime) (maxRecoveryAttempts : Nat) (completion : Completion) :
    (runtime.afterExit maxRecoveryAttempts completion).sessionId = runtime.sessionId ∧
      (runtime.afterExit maxRecoveryAttempts completion).live = runtime.live := by
  unfold afterExit
  split
  · exact ⟨rfl, rfl⟩
  · split
    · exact ⟨rfl, rfl⟩
    · cases completion with
      | succeeded => exact ⟨rfl, rfl⟩
      | recoverable =>
        dsimp only
        split <;> exact ⟨rfl, rfl⟩
      | failed => exact ⟨rfl, rfl⟩

section

variable (h : Lifecycle runtime)
  (hreg : runtime.isTerminal = false → server.isCurrent number runtime = true)
include h hreg

theorem LifecycleMove.inspected {completion : Completion}
    (hcond : server.Undisturbed number runtime (.inspected completion)) :
    LifecycleMove server number runtime (server.inspected number runtime completion) := by
  unfold AppServer.inspected
  split
  · next htask =>
    simp only [AppServer.Undisturbed, htask] at hcond
    obtain ⟨hsess, hlive, ⟨hstate, -, hrec⟩ | ⟨hstate, -, -, hrec⟩⟩ := h.of_task htask nofun
    · have hnone : runtime.live = [] := hlive
      obtain ⟨hid, hsame⟩ := afterExit_same { runtime with task := none } server.maxRecoveryAttempts completion
      obtain ⟨hlife, hact⟩ := Lifecycle.afterExit { runtime with task := none } rfl hsess hstate hnone hrec
        server.maxRecoveryAttempts completion
      rw [if_pos (hreg hstate)]
      refine .putCleared hid hlife (fun hterm => ?_) (hsame.symm ▸ List.Subset.refl _) hact hcond.2
      cases hstate.symm.trans hterm
    · have hnone : runtime.live = [] := hlive
      have hterm := isTerminal_of_stopped hstate
      rw [if_neg (by rw [hcond.1 hterm]; nofun)]
      refine .putCleared rfl (.ended hterm rfl hsess ?_ (hstate ▸ hrec)) (fun _ => rfl) (List.Subset.refl _)
        (isActive_of_none hnone nofun) hcond.2
      exact hnone ▸ Nat.zero_le 1
  · exact .unchanged rfl

theorem LifecycleMove.recover :
    LifecycleMove server number runtime (server.recover number runtime) := by
  unfold AppServer.recover
  split
  · next htask =>
    obtain ⟨hsess, hlive, ⟨hstate, hgone, hstop, hrec⟩ | ⟨-, -, htimer, -⟩⟩ :=
      h.of_continuation hreg htask nofun nofun
    · rw [if_neg (by rw [hgone]; nofun)]
      refine .put rfl (.waiting hstate rfl nofun hsess hlive (fun hreq => ?_) hrec) (fun _ => rfl)
        (List.Subset.refl _) ?_
      · cases hstop.symm.trans hreq
      · have hidle : runtime.isActive = false := isActive_of_none hlive (by rw [htask]; nofun)
        rw [hidle]
        exact isActive_of_none hlive nofun
    · exact absurd rfl htimer
  · exact .unchanged rfl

/-- A continuation goes on, or ends what was stopped. -/
theorem LifecycleMove.recoveryPrepared :
    LifecycleMove server number runtime (server.recoveryPrepared number runtime) := by
  unfold AppServer.recoveryPrepared
  split
  · next htask =>
    obtain ⟨hsess, hlive, hplace⟩ := h.of_continuation hreg htask nofun nofun
    have hidle : runtime.isActive = false := isActive_of_none hlive (by rw [htask]; nofun)
    rcases hplace with ⟨hstate, hgone, hstop, hrec⟩ | ⟨hstate, hgone, -, hstop, hrec⟩
    · rw [if_neg (by rw [hgone]; nofun)]
      refine .put rfl (.waiting hstate rfl nofun hsess hlive (fun hreq => ?_) hrec) (fun _ => rfl)
        (List.Subset.refl _) ?_
      · cases hstop.symm.trans hreq
      · rw [hidle]
        exact isActive_of_none hlive nofun
    · rw [if_pos hgone]
      refine .put rfl (.ended (isTerminal_of_stopped hstate) rfl hsess ?_ (hstate ▸ hrec)) (fun _ => rfl)
        (List.Subset.refl _) ?_
      · exact hlive ▸ Nat.zero_le 1
      · rw [hidle]
        exact isActive_of_none hlive nofun
  · exact .unchanged rfl

theorem LifecycleMove.recoveryPrepareFailed :
    LifecycleMove server number runtime (server.recoveryPrepareFailed number runtime) := by
  unfold AppServer.recoveryPrepareFailed
  split
  · next htask =>
    obtain ⟨hsess, hlive, hplace⟩ := h.of_continuation hreg htask nofun nofun
    have hidle : runtime.isActive = false := isActive_of_none hlive (by rw [htask]; nofun)
    refine .put rfl ?_ (fun _ => rfl) (List.Subset.refl _) ?_
    · rcases hplace with ⟨hstate, hgone, hstop, hrec⟩ | ⟨hstate, hgone, -, hstop, hrec⟩
      · refine .waiting hstate rfl nofun hsess hlive (fun hreq => ?_) hrec
        cases hstop.symm.trans hreq
      · exact .stopped hstate rfl nofun nofun hsess hlive hstop hrec
    · rw [hidle]
      exact isActive_of_none hlive nofun
  · exact .unchanged rfl

end

theorem LifecycleMove.recoveryFailureRecorded (h : Lifecycle runtime)
    (hcond : server.Undisturbed number runtime .recoveryFailureRecorded) :
    LifecycleMove server number runtime (server.recoveryFailureRecorded number runtime) := by
  unfold AppServer.recoveryFailureRecorded
  split
  · next restarting htask =>
    simp only [AppServer.Undisturbed, htask] at hcond
    obtain ⟨hsess, hlive, ⟨hstate, -, hrec⟩ | ⟨hstate, -⟩⟩ := h.of_task htask nofun
    · have hidle : runtime.isActive = false := isActive_of_none hlive (by rw [htask]; nofun)
      have hends : ∀ {state : SessionState}, state.isTerminal = true →
          LifecycleMove server number runtime (server.put number ({ runtime with task := none }.finishRuntime state)) := by
        intro state hend
        obtain ⟨hlife, hact⟩ :=
          Lifecycle.finishRuntime { runtime with task := none } rfl hsess hlive hrec hend
        refine .put rfl hlife (fun hterm => ?_) (List.Subset.refl _) (hact.trans hidle.symm)
        cases hstate.symm.trans hterm
      split
      · exact hends rfl
      · split <;> exact hends rfl
    · cases hcond.symm.trans (isTerminal_of_stopped hstate)
  · exact .unchanged rfl

theorem LifecycleMove.failureRecorded (h : Lifecycle runtime) :
    LifecycleMove server number runtime (server.failureRecorded number runtime) := by
  unfold AppServer.failureRecorded
  split
  · next htask =>
    cases h with
    | waiting _ awaits notFailing | stopped _ awaits notFailing =>
      cases htask.symm.trans awaits
      exact absurd rfl notFailing
    | working _ awaits => cases htask.symm.trans awaits
    | failing state _ session live recorded =>
      have hidle : runtime.isActive = false := isActive_of_none live (by rw [htask]; nofun)
      refine .put rfl (.ended (isTerminal_of_failed state) rfl session (live ▸ Nat.zero_le 1) ?_) (fun _ => rfl)
        (List.Subset.refl _) ?_
      · rw [recorded, state]
        rfl
      · rw [hidle]
        exact isActive_of_none live nofun
    | ended _ awaits => cases htask.symm.trans awaits
  · exact .unchanged rfl

theorem LifecycleMove.stop (h : Lifecycle runtime) (hcond : runtime.isTerminal = false) :
    LifecycleMove server number runtime (server.put number runtime.requestStop) := by
  cases h with
  | @waiting task state awaits notFailing session live stop recorded =>
    have hstops : runtime.requestStop = { runtime with stopRequested := true }.finishRuntime .stopped := by
      simp [SessionRuntime.requestStop, session]
    have hrec : runtime.requestStop.recorded = [.stopped] := by
      simp [hstops, SessionRuntime.finishRuntime, recorded]
    have hstate : runtime.requestStop.state = .stopped := by rw [hstops]; rfl
    have hsess : runtime.requestStop.session = none := by rw [hstops]; exact session
    have hlive : runtime.requestStop.live = runtime.live := by rw [hstops]; rfl
    have hid : runtime.requestStop.sessionId = runtime.sessionId := by rw [hstops]; rfl
    have hfinal : runtime.isTerminal = true → runtime.requestStop.state = runtime.state := fun hterm => by
      cases state.symm.trans hterm
    by_cases htimer : task = .recoveryTimer
    · subst htimer
      have htask : runtime.requestStop.task = none := by
        simp [hstops, SessionRuntime.finishRuntime, awaits]
      have hidle : runtime.isActive = false := isActive_of_none live (by rw [awaits]; nofun)
      refine .put hid (.ended (isTerminal_of_stopped hstate) htask hsess ?_ (hstate ▸ hrec)) hfinal
        (hlive ▸ List.Subset.refl _) ?_
      · rw [hlive, live]
        exact length_workers _
      · rw [hidle]
        exact isActive_of_none (hlive.trans live) (by rw [htask]; nofun)
    · have htask : runtime.requestStop.task = runtime.task := by
        simp [hstops, SessionRuntime.finishRuntime, awaits, htimer]
      have hreq : runtime.requestStop.stopRequested = true := by rw [hstops]; rfl
      refine .put hid (.stopped hstate (htask.trans awaits) notFailing htimer hsess (hlive.trans live) hreq hrec)
        hfinal (hlive ▸ List.Subset.refl _) ?_
      simp only [SessionRuntime.isActive, hlive, htask]
  | working state awaits session live recorded =>
    have hstops : runtime.requestStop = { runtime with stopRequested := true } := by
      simp [SessionRuntime.requestStop, session]
    rw [hstops]
    exact .works (.working state awaits session live recorded) session rfl state rfl rfl rfl rfl
  | failing state => cases hcond.symm.trans (isTerminal_of_failed state)
  | stopped state => cases hcond.symm.trans (isTerminal_of_stopped state)
  | ended state => cases hcond.symm.trans state

theorem LifecycleMove.remove : LifecycleMove server number runtime (server.remove number runtime) := by
  unfold AppServer.remove
  split
  · next hends => exact .removed hends.1 hends.2 rfl
  · exact .unchanged rfl

theorem LifecycleMove.aside (h : Lifecycle runtime) (hid : runtime'.sessionId = runtime.sessionId)
    (hsess : runtime'.session = runtime.session) (hstate : runtime'.state = runtime.state)
    (hstop : runtime'.stopRequested = runtime.stopRequested) (htask : runtime'.task = runtime.task)
    (hlive : runtime'.live = runtime.live) (hrec : runtime'.recorded = runtime.recorded) :
    LifecycleMove server number runtime (server.put number runtime') := by
  have hterm : runtime'.isTerminal = runtime.isTerminal := by
    simp only [SessionRuntime.isTerminal, hstate]
  refine .put hid (h.congr hsess hterm (fun _ => hstate) hstop htask hlive hrec) (fun _ => hstate)
    (hlive ▸ List.Subset.refl _) ?_
  simp only [SessionRuntime.isActive, hlive, htask]

theorem LifecycleMove.control (h : Lifecycle runtime) (content : JsString) :
    LifecycleMove server number runtime (server.put number (runtime.control content)) := by
  have hqueue : ∀ control : Control, LifecycleMove server number runtime
      (server.put number ({ runtime with accepted := runtime.accepted ++ [control] }.queueControl control)) := by
    intro control
    unfold SessionRuntime.queueControl
    split <;> exact .aside h rfl rfl rfl rfl rfl rfl rfl
  unfold SessionRuntime.control
  dsimp only
  split
  · split
    · exact .aside h rfl rfl rfl rfl rfl rfl rfl
    · exact hqueue _
  · exact hqueue _

/-- An event under the condition. -/
theorem lifecycleMove_handle (h : Lifecycle runtime)
    (hreg : runtime.isTerminal = false → server.isCurrent number runtime = true) {event : RuntimeEvent}
    (hcond : server.Undisturbed number runtime event) :
    LifecycleMove server number runtime (server.handle number runtime event) := by
  cases event with
  | launch => exact .launch h hreg hcond
  | launchFailed => exact .launchFailed h hreg hcond
  | spawned => exact .spawned h hreg
  | spawnFailed => exact .spawnFailed h hreg hcond
  | ready worker => exact .ready h worker
  | startupFailed worker => exact .startupFailed h worker
  | exit worker => exact .exit h hreg hcond
  | inspected completion => exact .inspected h hreg hcond
  | recover => exact .recover h hreg
  | recoveryPrepared => exact .recoveryPrepared h hreg
  | recoveryPrepareFailed => exact .recoveryPrepareFailed h hreg
  | recoveryFailureRecorded => exact .recoveryFailureRecorded h hcond
  | failureRecorded => exact .failureRecorded h
  | stop => exact .stop h hcond
  | remove => exact .remove
  | persisted => exact .aside h rfl rfl rfl rfl rfl rfl rfl
  | control content => exact .control h content

end Moves

end Beale.AppServer
