import Beale.AppServer.Runtime

/-!
# What becomes of the controls

- `ControlsSound`: the controls that were handed to workers were accepted in this order, each is handed once, is
  dropped, or waits, and none is handed to a worker before it is ready; what was accepted before a worker became
  ready waits no more.
- `controls_sound`: this holds of every runtime after every step of every run; what was accepted before a worker
  became ready was handed to one or dropped.
- `crowdedStart_loses`: the oldest of 129 controls that waited is not handed to a worker.
-/

namespace Beale.AppServer

open Beale.Library
open AppServer

/-! ## One runtime -/

structure ControlsSound (runtime : SessionRuntime) : Prop where
  numbers : runtime.accepted.map Control.number = List.range runtime.accepted.length
  order : (runtime.handed.map Prod.snd ++ runtime.pendingControls).Sublist runtime.accepted
  once : (runtime.dropped ++ (runtime.handed.map Prod.snd ++ runtime.pendingControls)).Perm runtime.accepted
  ready : ∀ entry ∈ runtime.handed, entry.1 ∈ runtime.readied
  flushed : ∀ control ∈ runtime.pendingControls, runtime.flushed ≤ control.number

/-- The oldest control that waits is dropped for a new one, behind as many as may wait. -/
def DropsOldest (runtime runtime' : SessionRuntime) : Prop :=
  runtime'.dropped = runtime.dropped ∨ ∃ oldest rest control, runtime.pendingControls = oldest :: rest ∧
    runtime'.dropped = runtime.dropped ++ [oldest] ∧ runtime'.pendingControls = rest ++ [control] ∧
      maxPendingControls ≤ (rest ++ [control]).length

/-- And nothing waits where a worker is ready. -/
structure ControlBooks (runtime : SessionRuntime) : Prop where
  sound : ControlsSound runtime
  flushedLe : runtime.flushed ≤ runtime.accepted.length
  idle : ∀ worker, runtime.session = some worker → runtime.state = .running →
    runtime.pendingControls = [] ∧ worker ∈ runtime.readied

def SessionRuntime.controls (runtime : SessionRuntime) :=
  (runtime.pendingControls, runtime.accepted, runtime.handed, runtime.dropped, runtime.flushed, runtime.readied)

/-- A step that does nothing to the controls: no other worker becomes ready. -/
structure QuietStep (runtime runtime' : SessionRuntime) : Prop where
  controls : runtime'.controls = runtime.controls
  idle : ∀ worker, runtime'.session = some worker → runtime'.state = .running →
    runtime.session = some worker ∧ runtime.state = .running

section Runtime

variable {runtime runtime' : SessionRuntime}

theorem ControlBooks.quiet (h : ControlBooks runtime) (hquiet : QuietStep runtime runtime') : ControlBooks runtime' := by
  obtain ⟨hcontrols, hidle⟩ := hquiet
  simp only [SessionRuntime.controls, Prod.mk.injEq] at hcontrols
  obtain ⟨hpend, hacc, hhanded, hdrop, hflushed, hreadied⟩ := hcontrols
  refine ⟨⟨?_, ?_, ?_, ?_, ?_⟩, ?_, fun worker hsess hstate => ?_⟩
  · rw [hacc]
    exact h.sound.numbers
  · rw [hhanded, hpend, hacc]
    exact h.sound.order
  · rw [hdrop, hhanded, hpend, hacc]
    exact h.sound.once
  · rw [hhanded, hreadied]
    exact h.sound.ready
  · rw [hpend, hflushed]
    exact h.sound.flushed
  · rw [hflushed, hacc]
    exact h.flushedLe
  · rw [hpend, hreadied]
    obtain ⟨hold, hrun⟩ := hidle worker hsess hstate
    exact h.idle worker hold hrun

theorem numbers_concat {accepted : List Control} (h : accepted.map Control.number = List.range accepted.length)
    {control : Control} (hnumber : control.number = accepted.length) :
    (accepted ++ [control]).map Control.number = List.range (accepted ++ [control]).length := by
  rw [List.map_append, h, List.length_append, List.length_singleton, List.range_succ, List.map_singleton, hnumber]

/-- The worker becomes ready: all that waits is handed to it. -/
theorem ControlBooks.flush (h : ControlBooks runtime) {worker : Nat} (hsess : runtime.session = some worker) :
    ControlBooks (runtime.flushControls worker) := by
  have hhanded : (runtime.flushControls worker).handed.map Prod.snd ++ (runtime.flushControls worker).pendingControls =
      runtime.handed.map Prod.snd ++ runtime.pendingControls := by
    simp [SessionRuntime.flushControls, Function.comp_def]
  have hready : worker ∈ (runtime.flushControls worker).readied := List.mem_append_right _ (List.mem_singleton_self _)
  refine ⟨⟨h.sound.numbers, ?_, ?_, fun entry hmem => ?_, nofun⟩, Nat.le_refl _, fun other hother _ => ⟨rfl, ?_⟩⟩
  · rw [hhanded]
    exact h.sound.order
  · rw [hhanded]
    exact h.sound.once
  · rcases List.mem_append.mp hmem with hmem | hmem
    · exact List.mem_append_left _ (h.sound.ready entry hmem)
    · obtain ⟨control, -, rfl⟩ := List.mem_map.mp hmem
      exact hready
  · cases hsess.symm.trans hother
    exact hready

theorem ControlBooks.queueControl (h : ControlBooks runtime) {control : Control}
    (hnumber : control.number = runtime.accepted.length)
    (hidle : ∀ worker, runtime.session = some worker → runtime.state ≠ .running) :
    ControlBooks ({ runtime with accepted := runtime.accepted ++ [control] }.queueControl control) := by
  have hnumbers := numbers_concat h.sound.numbers hnumber
  have hlen : runtime.flushed ≤ (runtime.accepted ++ [control]).length := by
    rw [List.length_append]
    exact Nat.le_add_right_of_le h.flushedLe
  have hfresh : runtime.flushed ≤ control.number := hnumber ▸ h.flushedLe
  unfold SessionRuntime.queueControl
  split
  · next hfull =>
    -- the oldest one is dropped
    obtain ⟨oldest, rest, hpend⟩ : ∃ oldest rest, runtime.pendingControls = oldest :: rest := by
      refine List.exists_cons_of_ne_nil fun hnil => ?_
      simp [hnil, maxPendingControls] at hfull
    have horder := h.sound.order
    have honce := h.sound.once
    have hflushed := h.sound.flushed
    simp only [hpend, List.take_succ_cons, List.take_zero, List.drop_succ_cons, List.drop_zero] at horder honce hflushed ⊢
    refine ⟨⟨hnumbers, ?_, ?_, h.sound.ready, fun other hmem => ?_⟩, hlen, fun worker hsess hstate => ?_⟩
    · have hrest : (runtime.handed.map Prod.snd ++ rest).Sublist runtime.accepted :=
        ((List.Sublist.refl _).append (List.sublist_cons_self _ _)).trans horder
      rw [← List.append_assoc]
      exact hrest.append (List.Sublist.refl _)
    · have hmoved : (runtime.dropped ++ [oldest] ++ (runtime.handed.map Prod.snd ++ rest)).Perm runtime.accepted := by
        refine List.Perm.trans ?_ honce
        rw [List.append_assoc, List.singleton_append]
        exact List.Perm.append_left _ List.perm_middle.symm
      have hall := hmoved.append_right [control]
      rwa [List.append_assoc, List.append_assoc (runtime.handed.map Prod.snd)] at hall
    · rcases List.mem_append.mp hmem with hmem | hmem
      · exact hflushed other (List.mem_cons_of_mem _ hmem)
      · rw [List.mem_singleton.mp hmem]
        exact hfresh
    · exact absurd hstate (hidle worker hsess)
  · refine ⟨⟨hnumbers, ?_, ?_, h.sound.ready, fun other hmem => ?_⟩, hlen, fun worker hsess hstate => ?_⟩
    · rw [← List.append_assoc]
      exact h.sound.order.append (List.Sublist.refl _)
    · have hall := h.sound.once.append_right [control]
      rwa [List.append_assoc, List.append_assoc (runtime.handed.map Prod.snd)] at hall
    · rcases List.mem_append.mp hmem with hmem | hmem
      · exact h.sound.flushed other hmem
      · rw [List.mem_singleton.mp hmem]
        exact hfresh
    · exact absurd hstate (hidle worker hsess)

theorem ControlBooks.control (h : ControlBooks runtime) (content : JsString) : ControlBooks (runtime.control content) := by
  unfold SessionRuntime.control
  dsimp only
  split
  · next worker hsess =>
    split
    · next hstate =>
      obtain ⟨hpend, hready⟩ := h.idle worker hsess hstate
      have horder := h.sound.order
      have honce := h.sound.once
      rw [hpend, List.append_nil] at horder honce
      refine ⟨⟨numbers_concat h.sound.numbers rfl, ?_, ?_, fun entry hmem => ?_, ?_⟩, ?_, h.idle⟩
      · simp only [hpend, List.append_nil, List.map_append, List.map_cons, List.map_nil]
        exact horder.append (List.Sublist.refl _)
      · simp only [hpend, List.append_nil, List.map_append, List.map_cons, List.map_nil, ← List.append_assoc]
        exact honce.append_right _
      · rcases List.mem_append.mp hmem with hmem | hmem
        · exact h.sound.ready entry hmem
        · rw [List.mem_singleton.mp hmem]
          exact hready
      · simp only [hpend]
        nofun
      · simp only [List.length_append]
        exact Nat.le_add_right_of_le h.flushedLe
    · next hstate => exact h.queueControl rfl fun _ _ => hstate
  · next hnone => exact h.queueControl rfl fun worker hsess => by cases hnone.symm.trans hsess

theorem dropsOldest_control (runtime : SessionRuntime) (content : JsString) : DropsOldest runtime (runtime.control content) := by
  have hqueue : ∀ control : Control,
      DropsOldest runtime ({ runtime with accepted := runtime.accepted ++ [control] }.queueControl control) := by
    intro control
    unfold SessionRuntime.queueControl
    split
    · next hfull =>
      obtain ⟨oldest, rest, hpend⟩ : ∃ oldest rest, runtime.pendingControls = oldest :: rest := by
        refine List.exists_cons_of_ne_nil fun hnil => ?_
        simp [hnil, maxPendingControls] at hfull
      simp only [hpend, List.length_cons] at hfull
      refine .inr ⟨oldest, rest, control, hpend, ?_, ?_, ?_⟩
      · simp [hpend]
      · simp [hpend]
      · rw [List.length_append, List.length_singleton]
        exact hfull
    · exact .inl rfl
  unfold SessionRuntime.control
  dsimp only
  split
  · split
    · exact .inl rfl
    · exact hqueue _
  · exact hqueue _

theorem QuietStep.of_notRunning (hcontrols : runtime'.controls = runtime.controls) (hstate : runtime'.state ≠ .running) :
    QuietStep runtime runtime' :=
  ⟨hcontrols, fun _ _ hrun => absurd hrun hstate⟩

theorem QuietStep.same (hcontrols : runtime'.controls = runtime.controls) (hsess : runtime'.session = runtime.session)
    (hstate : runtime'.state = runtime.state) : QuietStep runtime runtime' :=
  ⟨hcontrols, fun _ hthere hrun => ⟨hsess.symm.trans hthere, hstate.symm.trans hrun⟩⟩

theorem QuietStep.trans {runtime'' : SessionRuntime} (h : QuietStep runtime runtime') (h' : QuietStep runtime' runtime'') :
    QuietStep runtime runtime'' := by
  refine ⟨h'.controls.trans h.controls, fun worker hsess hstate => ?_⟩
  obtain ⟨hsess, hstate⟩ := h'.idle worker hsess hstate
  exact h.idle worker hsess hstate

section

variable (runtime : SessionRuntime)

theorem QuietStep.finishRuntime {state : SessionState} (hstate : state ≠ .running) :
    QuietStep runtime (runtime.finishRuntime state) := .of_notRunning rfl hstate

theorem QuietStep.launchError (launch : Launch) :
    QuietStep runtime (runtime.launchError launch) := by
  cases launch with
  | start => exact .of_notRunning rfl nofun
  | recovery => exact .same rfl rfl rfl
  | restart => exact .same rfl rfl rfl

theorem QuietStep.afterExit (maxRecoveryAttempts : Nat) (completion : Completion) :
    QuietStep runtime (runtime.afterExit maxRecoveryAttempts completion) := by
  unfold SessionRuntime.afterExit
  split
  · exact .finishRuntime runtime nofun
  · split
    · exact .finishRuntime runtime nofun
    · cases completion with
      | succeeded => exact .finishRuntime runtime nofun
      | recoverable =>
        dsimp only
        split
        · exact .same rfl rfl rfl
        · exact .finishRuntime runtime nofun
      | failed => exact .finishRuntime runtime nofun

theorem QuietStep.requestStop : QuietStep runtime runtime.requestStop := by
  unfold SessionRuntime.requestStop
  dsimp only
  split
  · exact .of_notRunning rfl nofun
  · exact .same rfl rfl rfl

end

end Runtime

/-! ## All runtimes -/

inductive ControlStep (runtime : SessionRuntime) : SessionRuntime → Prop where
  | quiet {runtime' : SessionRuntime} (h : QuietStep runtime runtime') : ControlStep runtime runtime'
  | flush {worker : Nat} (h : runtime.session = some worker) : ControlStep runtime (runtime.flushControls worker)
  | control (content : JsString) : ControlStep runtime (runtime.control content)

section Handle

variable {server : AppServer} {number : Nat} {runtime : SessionRuntime}

/-- The runtimes after an event: its own has changed in such a step, if any has. -/
def ControlsMove (server : AppServer) (number : Nat) (runtime : SessionRuntime) (server' : AppServer) : Prop :=
  server'.runtimes = server.runtimes ∨
    ∃ runtime', server'.runtimes = server.runtimes.set number runtime' ∧ ControlStep runtime runtime'

variable {runtime' : SessionRuntime}

theorem ControlsMove.quiet {server' : AppServer}
    (hruntimes : server'.runtimes = server.runtimes.set number runtime') (h : QuietStep runtime runtime') :
    ControlsMove server number runtime server' := .inr ⟨runtime', hruntimes, .quiet h⟩

theorem controlsMove_handle (server : AppServer) (number : Nat) (runtime : SessionRuntime) (event : RuntimeEvent) :
    ControlsMove server number runtime (server.handle number runtime event) := by
  have hidle : QuietStep runtime { runtime with task := none } := .same rfl rfl rfl
  have hnil : ControlsMove server number runtime server := .inl rfl
  cases event with
  | launch =>
    simp only [handle, AppServer.launch]
    split
    · split
      · exact .quiet rfl hidle
      · exact .quiet rfl (.same rfl rfl rfl)
    · exact hnil
  | launchFailed =>
    simp only [handle, AppServer.launchFailed]
    split
    · exact .quiet rfl (hidle.trans (.launchError _ _))
    · exact hnil
  | spawned =>
    simp only [handle, AppServer.spawned]
    split
    · split
      · exact .quiet rfl hidle
      · exact .quiet rfl (.of_notRunning rfl nofun)
    · exact hnil
  | spawnFailed =>
    simp only [handle, AppServer.spawnFailed]
    split
    · next worker launch _ =>
      have hended : QuietStep runtime { runtime with task := none, live := runtime.live.erase worker } := .same rfl rfl rfl
      exact .quiet rfl (hended.trans (.launchError _ _))
    · exact hnil
  | ready worker =>
    simp only [handle, AppServer.ready]
    split
    · exact hnil
    · next hready =>
      rw [not_or, ne_eq, Decidable.not_not] at hready
      exact .inr ⟨_, rfl, .flush hready.1⟩
  | startupFailed worker =>
    simp only [handle, AppServer.startupFailed]
    split
    · exact hnil
    · exact .quiet rfl (.same rfl rfl rfl)
  | exit worker =>
    simp only [handle, AppServer.exit]
    split
    · exact hnil
    · split
      · split
        · exact .quiet rfl ⟨rfl, nofun⟩
        · exact .quiet rfl (.same rfl rfl rfl)
      · exact .quiet rfl (.same rfl rfl rfl)
  | inspected completion =>
    simp only [handle, AppServer.inspected]
    split
    · refine .quiet rfl ?_
      split
      · exact hidle.trans (.afterExit _ _ _)
      · exact hidle
    · exact hnil
  | recover =>
    simp only [handle, AppServer.recover]
    split
    · split
      · refine .quiet rfl ?_
        split
        · exact hidle.trans (.finishRuntime _ nofun)
        · exact hidle
      · exact .quiet rfl (.same rfl rfl rfl)
    · exact hnil
  | recoveryPrepared =>
    simp only [handle, AppServer.recoveryPrepared]
    split
    · exact .quiet rfl (.same rfl rfl rfl)
    · exact hnil
  | recoveryPrepareFailed =>
    simp only [handle, AppServer.recoveryPrepareFailed]
    split
    · exact .quiet rfl (.same rfl rfl rfl)
    · exact hnil
  | recoveryFailureRecorded =>
    simp only [handle, AppServer.recoveryFailureRecorded]
    split
    · refine .quiet rfl (hidle.trans (.finishRuntime _ ?_))
      split
      · nofun
      · split <;> nofun
    · exact hnil
  | failureRecorded =>
    simp only [handle, AppServer.failureRecorded]
    split
    · exact .quiet rfl (.same rfl rfl rfl)
    · exact hnil
  | stop => exact .quiet rfl (.requestStop runtime)
  | remove =>
    simp only [handle, AppServer.remove]
    split <;> exact hnil
  | persisted => exact .quiet rfl (.same rfl rfl rfl)
  | control content => exact .inr ⟨_, rfl, .control content⟩

theorem ControlStep.books (hstep : ControlStep runtime runtime') (h : ControlBooks runtime) :
    ControlBooks runtime' := by
  cases hstep with
  | quiet hquiet => exact h.quiet hquiet
  | flush hsess => exact h.flush hsess
  | control content => exact h.control content

theorem ControlStep.dropsOldest (hstep : ControlStep runtime runtime') :
    DropsOldest runtime runtime' := by
  cases hstep with
  | quiet hquiet =>
    have hcontrols := hquiet.controls
    simp only [SessionRuntime.controls, Prod.mk.injEq] at hcontrols
    exact .inl hcontrols.2.2.2.1
  | flush hsess => exact .inl rfl
  | control content => exact dropsOldest_control _ content

theorem ControlBooks.new (sessionId : JsString) (launch : Launch) : ControlBooks (.new sessionId launch) :=
  ⟨⟨rfl, List.Sublist.refl _, List.Perm.refl _, nofun, nofun⟩, Nat.le_refl _, nofun⟩

end Handle

/-! ## Runs -/

/-- The runtimes have the books of their controls, under numbers below the next. -/
structure AllControls (server : AppServer) : Prop where
  books : ∀ number runtime, server.runtimes.get? number = some runtime → ControlBooks runtime
  numbers : ∀ number runtime, server.runtimes.get? number = some runtime → number < server.next

/-- What a runtime was before a step, if it was there. -/
def DropsOldestFrom (server : AppServer) (number : Nat) (runtime' : SessionRuntime) : Prop :=
  ∀ runtime, server.runtimes.get? number = some runtime → DropsOldest runtime runtime'

variable {server : AppServer}

theorem AllControls.create {server' : AppServer} (h : AllControls server) {sessionId : JsString} {launch : Launch}
    (hruntimes : server'.runtimes = server.runtimes.set server.next (.new sessionId launch))
    (hnext : server'.next = server.next + 1) :
    AllControls server' ∧ ∀ number runtime', server'.runtimes.get? number = some runtime' →
      DropsOldestFrom server number runtime' := by
  have hcases : ∀ {number runtime'}, server'.runtimes.get? number = some runtime' →
      number = server.next ∧ runtime' = .new sessionId launch ∨ server.runtimes.get? number = some runtime' := by
    intro number runtime' hget
    rw [hruntimes, JsMap.get?_set] at hget
    split at hget
    · next hsame =>
      cases hget
      exact .inl ⟨hsame, rfl⟩
    · exact .inr hget
  refine ⟨⟨fun number runtime' hget => ?_, fun number runtime' hget => ?_⟩, fun number runtime' hget runtime hold => ?_⟩
  · rcases hcases hget with ⟨-, rfl⟩ | hget
    · exact .new sessionId launch
    · exact h.books number runtime' hget
  · rw [hnext]
    rcases hcases hget with ⟨rfl, -⟩ | hget
    · exact Nat.lt_succ_self _
    · exact Nat.lt_succ_of_lt (h.numbers number runtime' hget)
  · rcases hcases hget with ⟨rfl, -⟩ | hget
    · exact absurd (h.numbers _ runtime hold) (Nat.lt_irrefl _)
    · cases hold.symm.trans hget
      exact .inl rfl

theorem AllControls.unchanged (h : AllControls server) :
    AllControls server ∧ ∀ number runtime', server.runtimes.get? number = some runtime' →
      DropsOldestFrom server number runtime' := by
  refine ⟨h, fun number runtime' hget runtime hold => ?_⟩
  cases hold.symm.trans hget
  exact .inl rfl

theorem next_handle_le (server : AppServer) (number : Nat) (runtime : SessionRuntime) (event : RuntimeEvent) :
    server.next ≤ (server.handle number runtime event).next := by
  have hsame : server.next ≤ server.next := Nat.le_refl _
  cases event with
  | launch =>
    simp only [handle, AppServer.launch]
    split
    · split
      · exact hsame
      · exact Nat.le_succ _
    · exact hsame
  | launchFailed =>
    simp only [handle, AppServer.launchFailed]
    split <;> exact hsame
  | spawned =>
    simp only [handle, AppServer.spawned]
    split
    · split <;> exact hsame
    · exact hsame
  | spawnFailed =>
    simp only [handle, AppServer.spawnFailed]
    split <;> exact hsame
  | ready worker =>
    simp only [handle, AppServer.ready]
    split <;> exact hsame
  | startupFailed worker =>
    simp only [handle, AppServer.startupFailed]
    split <;> exact hsame
  | exit worker =>
    simp only [handle, AppServer.exit]
    split
    · exact hsame
    · split
      · split <;> exact hsame
      · exact hsame
  | inspected completion =>
    simp only [handle, AppServer.inspected]
    split <;> exact hsame
  | recover =>
    simp only [handle, AppServer.recover]
    split
    · split <;> exact hsame
    · exact hsame
  | recoveryPrepared =>
    simp only [handle, AppServer.recoveryPrepared]
    split <;> exact hsame
  | recoveryPrepareFailed =>
    simp only [handle, AppServer.recoveryPrepareFailed]
    split <;> exact hsame
  | recoveryFailureRecorded =>
    simp only [handle, AppServer.recoveryFailureRecorded]
    split <;> exact hsame
  | failureRecorded =>
    simp only [handle, AppServer.failureRecorded]
    split <;> exact hsame
  | stop | persisted | control => exact hsame
  | remove =>
    simp only [handle, AppServer.remove]
    split <;> exact hsame

theorem AllControls.handle (h : AllControls server) {number : Nat} {runtime : SessionRuntime}
    (hget : server.runtimes.get? number = some runtime) (event : RuntimeEvent) :
    AllControls (server.handle number runtime event) ∧
      ∀ other runtime', (server.handle number runtime event).runtimes.get? other = some runtime' →
        DropsOldestFrom server other runtime' := by
  have hnext := next_handle_le server number runtime event
  rcases controlsMove_handle server number runtime event with hsame | ⟨changed, hset, hstep⟩
  · refine ⟨⟨?_, fun other found hfound => ?_⟩, fun other found hfound old hold => ?_⟩
    · rw [hsame]
      exact h.books
    · rw [hsame] at hfound
      exact Nat.lt_of_lt_of_le (h.numbers other found hfound) hnext
    · rw [hsame] at hfound
      cases hold.symm.trans hfound
      exact .inl rfl
  · have hcases : ∀ {other found}, (server.handle number runtime event).runtimes.get? other = some found →
        other = number ∧ found = changed ∨ server.runtimes.get? other = some found := by
      intro other found hfound
      rw [hset, JsMap.get?_set] at hfound
      split at hfound
      · next hsame =>
        cases hfound
        exact .inl ⟨hsame, rfl⟩
      · exact .inr hfound
    refine ⟨⟨fun other found hfound => ?_, fun other found hfound => ?_⟩, fun other found hfound old hold => ?_⟩
    · rcases hcases hfound with ⟨-, rfl⟩ | hfound
      · exact hstep.books (h.books number runtime hget)
      · exact h.books other found hfound
    · refine Nat.lt_of_lt_of_le ?_ hnext
      rcases hcases hfound with ⟨rfl, -⟩ | hfound
      · exact h.numbers _ runtime hget
      · exact h.numbers other found hfound
    · rcases hcases hfound with ⟨rfl, rfl⟩ | hfound
      · cases hget.symm.trans hold
        exact hstep.dropsOldest
      · cases hold.symm.trans hfound
        exact .inl rfl

theorem AllControls.step (h : AllControls server) (event : AppServerEvent) :
    AllControls (server.step event) ∧ ∀ number runtime', (server.step event).runtimes.get? number = some runtime' →
      DropsOldestFrom server number runtime' := by
  cases event with
  | register sessionId =>
    simp only [AppServer.step, AppServer.register]
    split
    · split
      · exact h.unchanged
      · exact h.create rfl rfl
    · exact h.create rfl rfl
  | restore sessionId =>
    simp only [AppServer.step, AppServer.restore]
    split
    · exact h.unchanged
    · exact h.create rfl rfl
  | runtime number event =>
    simp only [AppServer.step]
    split
    · next runtime hget => exact h.handle hget event
    · exact h.unchanged

theorem AllControls.new (maxRecoveryAttempts : Nat) : AllControls (.new maxRecoveryAttempts) := ⟨nofun, nofun⟩

/-- What was accepted before a worker became ready was handed to a worker or dropped. -/
def HandedOrDropped (runtime : SessionRuntime) : Prop :=
  ∀ control ∈ runtime.accepted, control.number < runtime.flushed →
    control ∈ runtime.handed.map Prod.snd ∨ control ∈ runtime.dropped

theorem ControlsSound.handedOrDropped {runtime : SessionRuntime} (h : ControlsSound runtime) : HandedOrDropped runtime := by
  intro control hmem hlt
  have haccounted := h.once.mem_iff.mpr hmem
  rw [List.mem_append, List.mem_append] at haccounted
  rcases haccounted with hdrop | hhanded | hpend
  · exact .inr hdrop
  · exact .inl hhanded
  · exact absurd hlt (Nat.not_lt.mpr (h.flushed control hpend))

theorem controls_sound (maxRecoveryAttempts : Nat) (events : List AppServerEvent) :
    RunMeets AppServer.step (fun server event =>
      ∀ number runtime', (server.step event).runtimes.get? number = some runtime' →
        ControlsSound runtime' ∧ HandedOrDropped runtime' ∧ DropsOldestFrom server number runtime')
      (.new maxRecoveryAttempts) events := by
  have hall : RunMeets AppServer.step (fun _ _ => True) (.new maxRecoveryAttempts) events :=
    runMeets_of_forall (fun _ _ _ => trivial) _
  refine hall.of_invariant (I := AllControls) (fun _ event h _ => (h.step event).1) (fun server event h _ => ?_)
    (AllControls.new maxRecoveryAttempts)
  obtain ⟨hnext, hdrops⟩ := h.step event
  intro number runtime' hget
  have hsound := (hnext.books number runtime' hget).sound
  exact ⟨hsound, hsound.handedOrDropped, hdrops number runtime' hget⟩

/-! ## More controls than may wait -/

/-- What was accepted before a worker became ready was handed to a worker. -/
def AllHanded (server : AppServer) : Prop :=
  ∀ entry ∈ server.runtimes.entries, ∀ control ∈ entry.2.accepted, control.number < entry.2.flushed →
    control ∈ entry.2.handed.map Prod.snd

instance (server : AppServer) : Decidable (AllHanded server) :=
  inferInstanceAs (Decidable (∀ entry ∈ server.runtimes.entries, ∀ control ∈ entry.2.accepted,
    control.number < entry.2.flushed → control ∈ entry.2.handed.map Prod.snd))

/-- A worker of a session starts, and becomes ready after one control more than may wait. -/
def crowdedStart : List AppServerEvent :=
  [.register (js "session"), .runtime 0 .launch, .runtime 0 .spawned] ++
    List.replicate 129 (.runtime 0 (.control (js "pause"))) ++ [.runtime 0 (.ready 1)]

theorem crowdedStart_loses : ¬ ∀ events, AllHanded (runSteps AppServer.step (.new 3) events) := by
  intro h
  have hrun : ¬ AllHanded (runSteps AppServer.step (.new 3) crowdedStart) := by decide +kernel
  exact hrun (h crowdedStart)

end Beale.AppServer
