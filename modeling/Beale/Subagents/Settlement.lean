import Beale.Subagents.Spawning

/-!
# Settlement of subagent runs

A session that was interrupted and started again has an old run that may still
settle. Only the settlement of the most recent launch may count.

- `runHandler_handled`, `step_spec`: what a step does to the sessions and the runs.
- `SettlesMostRecent`, `reached_settlesMostRecent`: under it, only the most recent
  launch settles a session, and the live runs stay within the limit.
- `stale_return_frees_slot`: without it, they do not.
-/

namespace Beale.Subagents

open Beale.Library
open SubagentManager

variable {env : SubagentPlatform}

/-! ## Messages and interrupts -/

variable {s : SubagentManager}

theorem resolveTarget_ok {author target : SubagentSession} {value : JsString}
    (h : s.resolveTarget author value = .ok target) :
    ∃ id, s.sessions.get? id = some target := by
  unfold resolveTarget at h
  split at h
  next session hget => exact ⟨value, Except.ok.inj h ▸ hget⟩
  next =>
    simp only at h
    split at h
    next exact' hfind =>
      exact JsMap.exists_get?_of_mem_values (Except.ok.inj h ▸ List.mem_of_find?_eq_some hfind)
    next =>
      split at h
      next only honly =>
        have hmem : only ∈ s.sessions.values.filter fun session => session.taskName = value := by
          rw [honly]
          exact List.mem_singleton_self only
        exact JsMap.exists_get?_of_mem_values (Except.ok.inj h ▸ (List.mem_filter.mp hmem).1)
      next => cases h

theorem sendMessage_spec (h : RunInv env s) (authorId : JsString) (input : Json)
    (triggerTurn : Bool) (answers : LaunchAnswers) (now : Nat) :
    RunInv env (s.sendMessage authorId input triggerTurn answers now).2 ∧
      (s.sendMessage authorId input triggerTurn answers now).2.maxThreads = s.maxThreads := by
  unfold sendMessage
  simp only
  split
  next => exact ⟨h, rfl⟩
  next author target message hcheck =>
    split
    next hidle =>
      rw [Bool.and_eq_true, decide_eq_true_eq] at hidle
      obtain ⟨htrigger, hidle⟩ := hidle
      -- the checks have found the target among the sessions, and it is not the lead agent
      have htgt : s.sessions.get? target.id = some target ∧ target.id ≠ rootId := by
        simp only [bind, Except.bind, throw, throwThe, MonadExceptOf.throw, pure, Except.pure,
          htrigger, Bool.true_and] at hcheck
        split at hcheck
        · cases hcheck
        split at hcheck
        · cases hcheck
        split at hcheck
        · cases hcheck
        next target' hresolved =>
          obtain ⟨id, hget⟩ := resolveTarget_ok hresolved
          split at hcheck
          · cases hcheck
          split at hcheck
          · cases hcheck
          next hroot =>
            split at hcheck
            · cases hcheck
            cases hcheck
            refine ⟨?_, by simpa using hroot⟩
            rw [h.keyed id target hget]
            exact hget
      split
      · exact ⟨h, rfl⟩
      next hcap =>
        have hfree := hasThreadCapacity_iff.mp (by simpa using hcap)
        have hlaunch := h.launch htgt.1 htgt.2 hidle hfree message target.messages answers
        split
        next heq =>
          have hsecond := congrArg Prod.snd heq
          simp only at hsecond
          rw [← hsecond]
          exact ⟨hlaunch, rfl⟩
        next heq =>
          have hsecond := congrArg Prod.snd heq
          simp only at hsecond
          rw [← hsecond]
          exact ⟨hlaunch, rfl⟩
    next =>
      have hsent := (pushMailbox_undisturbed s target.id
        (agentMessages author.path author.model message now)).trans
          (flushMailboxWaiter_undisturbed _ target.id)
      exact ⟨h.undisturbed hsent, hsent.maxThreads⟩

theorem abortWaits_undisturbed (s : SubagentManager) (signal : WaitSignal) :
    Undisturbed s (s.abortWaits signal) :=
  .of_eq rfl rfl rfl (Nat.le_refl _)

theorem abortRun_closed (h : RunInv env s) (number : Nat) :
    RunInv env (s.abortRun number) ∧
      ∀ run, (s.abortRun number).runs[number]? = some run → run.isOpen = false := by
  refine ⟨(h.closeRun number (g := fun run => { run with aborted := true }) (fun _ => rfl)
    ?_).undisturbed (abortWaits_undisturbed _ _), ?_⟩
  · intro run hopen
    simp [SubagentRun.isOpen] at hopen
  · intro run hrun
    have hmod : (s.runs.modify number fun run => { run with aborted := true })[number]?
        = some run := hrun
    rw [List.getElem?_modify] at hmod
    obtain ⟨before, -, hafter⟩ := Option.map_eq_some_iff.mp hmod
    rw [if_pos rfl] at hafter
    rw [← hafter]
    simp [SubagentRun.isOpen]

theorem RunInv.halt (h : RunInv env s) {id : JsString}
    {session target : SubagentSession} (hget : s.sessions.get? id = some session)
    (hid : target.id = id) (hctl : target.controller = session.controller) :
    RunInv env (s.haltSession target) := by
  unfold haltSession
  rw [hid, hctl]
  cases hnumber : session.controller with
  | none =>
    refine h.settleSession id (fun _ => ⟨rfl, rfl, nofun⟩) fun run hrun hopen hsame => ?_
    -- an open run would be the controller's
    obtain ⟨number, hrun⟩ := List.getElem?_of_mem hrun
    obtain ⟨-, session', hsess', -, hcur⟩ := h.current number run hrun hopen
    rw [hsame, hget] at hsess'
    rw [← Option.some.inj hsess', hnumber] at hcur
    cases hcur
  | some number =>
    obtain ⟨hinv, hclose⟩ := abortRun_closed h number
    refine hinv.settleSession id (f := fun session => { session with status := .interrupted })
      (fun _ => ⟨rfl, rfl, nofun⟩) fun run hrun hopen hsame => ?_
    obtain ⟨index, hrun⟩ := List.getElem?_of_mem hrun
    obtain ⟨-, session', hsess', -, hcur⟩ := hinv.current index run hrun hopen
    have hold : s.sessions.get? run.sessionId = some session' := hsess'
    rw [hsame, hget] at hold
    rw [← Option.some.inj hold, hnumber, Option.some.injEq] at hcur
    rw [← hcur] at hrun
    exact absurd (hopen.symm.trans (hclose run hrun)) (by decide)

theorem interrupt_spec (h : RunInv env s) (authorId : JsString) (input : Json) (now : Nat) :
    RunInv env (s.interrupt authorId input now).2 ∧
      (s.interrupt authorId input now).2.maxThreads = s.maxThreads := by
  unfold interrupt
  simp only
  split
  next => exact ⟨h, rfl⟩
  next target hcheck =>
    have htgt : ∃ id, s.sessions.get? id = some target := by
      simp only [bind, Except.bind, throw, throwThe, MonadExceptOf.throw, pure,
        Except.pure] at hcheck
      split at hcheck
      · cases hcheck
      split at hcheck
      · cases hcheck
      split at hcheck
      · cases hcheck
      next hresolved =>
        split at hcheck
        · cases hcheck
        cases hcheck
        exact resolveTarget_ok hresolved
    obtain ⟨id, hget⟩ := htgt
    split
    next =>
      have hhalted := h.halt hget (h.keyed id target hget) rfl
      have hrel : Undisturbed (s.haltSession target)
          ((s.haltSession target).releaseContextsForAgent target.id) :=
        .of_eq rfl rfl rfl (Nat.le_refl _)
      have htold := hrel.trans (enqueueParentNotification_undisturbed _ target
        (js "Agent " ++ target.path ++ js " was interrupted.") now)
      refine ⟨hhalted.undisturbed htold, htold.maxThreads.trans ?_⟩
      unfold haltSession
      split <;> rfl
    next => exact ⟨h, rfl⟩

theorem haltSession_controllers (s : SubagentManager) (target : SubagentSession) (id : JsString) :
    ((s.haltSession target).sessions.get? id).map (fun x => (x.id, x.controller))
      = (s.sessions.get? id).map fun x => (x.id, x.controller) := by
  have hmodify : ((s.sessions.modify target.id fun session =>
      { session with status := .interrupted }).get? id).map (fun x => (x.id, x.controller))
        = (s.sessions.get? id).map fun x => (x.id, x.controller) := by
    rw [JsMap.get?_modify]
    split
    next hid =>
      rw [hid, Option.map_map]
      rfl
    next => rfl
  unfold haltSession
  split
  · exact hmodify
  · exact hmodify

theorem haltAll_spec (targets : List SubagentSession) (h : RunInv env s)
    (hthere : ∀ target ∈ targets, ∃ session, s.sessions.get? target.id = some session ∧
      target.controller = session.controller) :
    RunInv env (targets.foldl haltSession s) ∧
      (targets.foldl haltSession s).maxThreads = s.maxThreads := by
  induction targets generalizing s with
  | nil => exact ⟨h, rfl⟩
  | cons target rest ih =>
    obtain ⟨session, hget, hctl⟩ := hthere target List.mem_cons_self
    have hmax : (s.haltSession target).maxThreads = s.maxThreads := by
      unfold haltSession
      split <;> rfl
    obtain ⟨hinv, hrest⟩ := ih (h.halt hget rfl hctl) fun other hother => by
      obtain ⟨session', hget', hctl'⟩ := hthere other (List.mem_cons_of_mem _ hother)
      have hsame := haltSession_controllers s target other.id
      rw [hget', Option.map_some] at hsame
      obtain ⟨session'', hget'', hpair⟩ := Option.map_eq_some_iff.mp hsame
      exact ⟨session'', hget'', hctl'.trans (Prod.ext_iff.mp hpair).2.symm⟩
    exact ⟨hinv, hrest.trans hmax⟩

theorem interruptAll_spec (h : RunInv env s) :
    RunInv env s.interruptAll ∧ s.interruptAll.maxThreads = s.maxThreads := by
  have hcleared : Undisturbed s { s with
      stopped := true
      foundationQueue := []
      foundationScouts := .empty
      contextSnapshots := .empty } :=
    .of_eq rfl rfl rfl (Nat.le_refl _)
  refine haltAll_spec _ (h.undisturbed hcleared) fun target htgt => ?_
  obtain ⟨id, hget⟩ := JsMap.exists_get?_of_mem_values (List.mem_filter.mp htgt).1
  exact ⟨target, by rw [h.keyed id target hget]; exact hget, rfl⟩

/-! ## What follows a run -/

theorem settleRun_spec (h : RunInv env s) (number : Nat) (outcome : RunOutcome) :
    RunInv env (s.settleRun number outcome) := by
  refine h.closeRun number (fun run => ?_) fun run hopen => ?_
  · split <;> rfl
  · revert hopen
    cases hphase : run.phase <;> simp [SubagentRun.isOpen, hphase]

/-- The `then` callback of a run runs while the run is not aborted, or its session is
interrupted. -/
def HandlesFresh (s : SubagentManager) (number : Nat) : Prop :=
  match s.runs[number]? with
  | some run =>
    match run.phase, run.aborted, s.sessions.get? run.sessionId with
    | .settled (.fulfilled _), true, some session => session.status = .interrupted
    | _, _, _ => True
  | none => True

instance (s : SubagentManager) (number : Nat) : Decidable (HandlesFresh s number) := by
  dsimp only [HandlesFresh]
  generalize s.runs[number]? = found
  rcases found with _ | run
  · exact instDecidableTrue
  · dsimp only
    generalize run.phase = phase, run.aborted = aborted, s.sessions.get? run.sessionId = session
    rcases phase with _ | ⟨_ | _⟩ | _ <;> rcases aborted with _ | _ <;> rcases session with _ | _ <;>
      (dsimp only; infer_instance)

/-- The run has handed over its outcome. -/
def markHandled (run : SubagentRun) : SubagentRun := { run with phase := .handled }

theorem markHandled_closed (run : SubagentRun) : (markHandled run).isOpen = false := by
  simp [SubagentRun.isOpen, markHandled]

/-- What the callback for an outcome does: nothing, nothing to any session, or the end of its
own session by a run that is open. -/
inductive Handled (s : SubagentManager) (number now : Nat) (s' : SubagentManager) : Prop where
  | idle (h : s' = s)
  | ignored (h : s' = s.modifyRun number markHandled)
  | ended (run : SubagentRun) (session : SubagentSession) (f : SubagentSession → SubagentSession)
      (text : JsString) (hrun : s.runs[number]? = some run) (hopen : run.isOpen = true)
      (hget : s.sessions.get? run.sessionId = some session)
      (hf : ∀ before, (f before).id = before.id ∧ (f before).controller = before.controller ∧
        (f before).status ≠ .running)
      (h : s' = ((s.modifyRun number markHandled).modifySession session.id f
        ).enqueueParentNotification session text now)

variable {number : Nat}

theorem runHandler_handled (hfresh : HandlesFresh s number)
    (now : Nat) : Handled s number now (s.runHandler number now) := by
  unfold HandlesFresh at hfresh
  unfold runHandler
  cases hrun : s.runs[number]? with
  | none => exact .idle rfl
  | some run =>
    simp only [hrun] at hfresh
    simp only
    split
    next result session hphase hget =>
      unfold completeRun
      by_cases hinterrupted : session.status = .interrupted
      · rw [if_pos hinterrupted]
        exact .ignored rfl
      · rw [if_neg hinterrupted]
        -- an aborted run would find its session interrupted
        have hopen : run.isOpen = true := by
          cases habort : run.aborted with
          | true =>
            rw [hphase, habort, hget] at hfresh
            exact absurd hfresh hinterrupted
          | false => simp [SubagentRun.isOpen, habort, hphase]
        refine .ended run session _ _ hrun hopen hget ?_ rfl
        exact fun _ => ⟨rfl, rfl, (by rintro ⟨⟩)⟩
    next message session hphase hget =>
      unfold failRun
      by_cases hignored : (session.status = .interrupted || run.aborted) = true
      · rw [if_pos (by simpa using hignored)]
        exact .ignored rfl
      · rw [if_neg (by simpa using hignored)]
        have hopen : run.isOpen = true := by
          have habort : run.aborted = false := by
            cases habort : run.aborted with
            | true => simp [habort] at hignored
            | false => rfl
          simp [SubagentRun.isOpen, habort, hphase]
        refine .ended run session _ _ hrun hopen hget ?_ rfl
        exact fun _ => ⟨rfl, rfl, (by rintro ⟨⟩)⟩
    next => exact .ignored rfl
    next => exact .idle rfl

theorem runHandler_spec (h : RunInv env s) (hfresh : HandlesFresh s number) (now : Nat) :
    RunInv env (s.runHandler number now) ∧ (s.runHandler number now).maxThreads = s.maxThreads := by
  have hmarked : RunInv env (s.modifyRun number markHandled) :=
    h.closeRun number (fun _ => rfl) fun run hopen =>
      absurd (hopen.symm.trans (markHandled_closed run)) (by decide)
  cases runHandler_handled hfresh now with
  | idle heq => rw [heq]; exact ⟨h, rfl⟩
  | ignored heq => rw [heq]; exact ⟨hmarked, rfl⟩
  | ended run session f text hrun hopen hget hf heq =>
    have hid : session.id = run.sessionId := h.keyed _ session hget
    have htold := enqueueParentNotification_undisturbed
      ((s.modifyRun number markHandled).modifySession session.id f) session text now
    rw [heq]
    refine ⟨RunInv.undisturbed (hmarked.settleSession session.id hf ?_) htold, htold.maxThreads⟩
    -- the run was its session's only open one, and it is not open any more
    intro other hother hopenOther hsame
    obtain ⟨index, hindex⟩ := List.getElem?_of_mem hother
    obtain ⟨-, session', hsess', -, hcur'⟩ := hmarked.current index other hindex hopenOther
    obtain ⟨-, session'', hsess'', -, hcur⟩ := h.current number run hrun hopen
    have hold : s.sessions.get? other.sessionId = some session' := hsess'
    rw [hsame, hid, hsess''] at hold
    rw [← Option.some.inj hold, hcur, Option.some.injEq] at hcur'
    have hmod : (s.runs.modify number markHandled)[index]? = some other := hindex
    rw [← hcur', List.getElem?_modify, hrun] at hmod
    rw [← Option.some.inj hmod] at hopenOther
    simp [markHandled, SubagentRun.isOpen] at hopenOther

theorem runFinally_spec (h : RunInv env s) (number : Nat)
    (answers : Nat → FirstTouch) : SpawnSpec env s (s.runFinally env number answers) := by
  have hsame : SpawnSpec env s s := ⟨h, .of_undisturbed (.rfl s)⟩
  unfold runFinally
  split
  · exact hsame
  next run hrun =>
    split
    next session hphase hget =>
      simp only
      have hfinished : SpawnSpec env s
          (s.modifyRun number fun run => { run with phase := .finished }) := by
        refine ⟨h.closeRun number (g := fun run => { run with phase := .finished }) (fun _ => rfl)
          fun run hopen => ?_, ⟨rfl, fun id session hget => ⟨session, hget, rfl⟩⟩⟩
        simp [SubagentRun.isOpen] at hopen
      generalize hrel : (((s.modifyRun number fun run => { run with phase := .finished }
          ).releaseContextsForAgent session.id).modifySession session.id fun session =>
        { session with promise := if session.promise = some number then none else session.promise })
          = released
      have hfreed : SpawnSpec env s released := by
        rw [← hrel]
        refine hfinished.undisturbed (Undisturbed.trans ?_ (.modifySession _ session.id fun _ => rfl))
        exact .of_eq rfl rfl rfl (Nat.le_refl _)
      split
      · have hdeleted : SpawnSpec env s { released with
            foundationScouts := released.foundationScouts.delete (session.surfaceId.getD []) } :=
          hfreed.undisturbed (.of_eq rfl rfl rfl (Nat.le_refl _))
        have hdrained := drainFoundationQueue_spec answers hdeleted.inv
        exact ⟨hdrained.inv, hdeleted.keeps.trans hdrained.keeps⟩
      · have hdrained := drainFoundationQueue_spec answers hfreed.inv
        exact ⟨hdrained.inv, hfreed.keeps.trans hdrained.keeps⟩
    next => exact hsame

/-! ## Every run -/

/-- Fulfilled runs that were aborted find their session interrupted, and a spawn's first touch
does not take the slot of the child. -/
def SettlesFresh (s : SubagentManager) : ManagerInput → Prop
  | .handler number _ => HandlesFresh s number
  | .spawnAgent _ _ input _ touch => SlotLeft s (input.field? (js "surface_id")) touch
  | .spawnTrackWorker assignment _ touch => SlotLeft s (assignment.surfaceId.map Json.str) touch
  | _ => True

instance (s : SubagentManager) (i : ManagerInput) : Decidable (SettlesFresh s i) := by
  rcases i with _ | _ <;> (dsimp only [SettlesFresh]; infer_instance)

theorem trackInput_surfaceId (env : SubagentPlatform) (s : SubagentManager)
    (role : SubagentDelegationRole) (assignment : TrackWorkerAssignment) :
    optionalString ((s.trackInput env role assignment).field? (js "surface_id"))
      = optionalString (assignment.surfaceId.map Json.str) := by
  cases hsurface : assignment.surfaceId with
  | none =>
    unfold trackInput
    rw [hsurface]
    rfl
  | some surface =>
    unfold trackInput
    rw [hsurface]
    cases surface with
    | nil => rfl
    | cons u rest => rfl

theorem step_spec (h : RunInv env s) (i : ManagerInput) (hi : SettlesFresh s i) :
    RunInv env (step env s i) ∧ (step env s i).maxThreads = s.maxThreads := by
  have of_undisturbed : ∀ {s'}, Undisturbed s s' → RunInv env s' ∧ s'.maxThreads = s.maxThreads :=
    fun hs => ⟨h.undisturbed hs, hs.maxThreads⟩
  have of_spec : ∀ {s'}, SpawnSpec env s s' → RunInv env s' ∧ s'.maxThreads = s.maxThreads :=
    fun hs => ⟨hs.inv, hs.keeps.maxThreads⟩
  cases i with
  | captureContext agentId toolCallId messages =>
    refine of_undisturbed ?_
    show Undisturbed s (s.captureContext agentId toolCallId messages)
    unfold SubagentManager.captureContext
    split
    · exact .of_eq rfl rfl rfl (Nat.le_refl _)
    · exact .rfl s
  | releaseContext toolCallId => exact of_undisturbed (.of_eq rfl rfl rfl (Nat.le_refl _))
  | spawnAgent parentId toolCallId input answers touch =>
    exact of_spec (spawnAgent_spec h parentId (.tool toolCallId) input answers touch hi)
  | spawnTrackWorker assignment answers touch =>
    refine of_spec ?_
    show SpawnSpec env s (s.spawnTrackWorker env assignment answers touch).2
    unfold SubagentManager.spawnTrackWorker
    split
    · exact ⟨h, .of_undisturbed (.rfl s)⟩
    · split
      · exact ⟨h, .of_undisturbed (.rfl s)⟩
      next role hrole =>
        have hdrawn : Undisturbed s { s with uuids := s.uuids + 1 } :=
          .of_eq rfl rfl rfl (Nat.le_succ _)
        refine .after hdrawn (spawnAgent_spec (h.undisturbed hdrawn) rootId .track _ answers touch ?_)
        unfold SlotLeft
        rw [trackInput_surfaceId]
        exact hi
  | firstTouch surfaceId firstAgentId touch =>
    exact of_spec (spawnFoundationScout_spec h surfaceId firstAgentId touch)
  | sendMessage authorId input triggerTurn answers now =>
    exact sendMessage_spec h authorId input triggerTurn answers now
  | interrupt authorId input now => exact interrupt_spec h authorId input now
  | interruptAll => exact interruptAll_spec h
  | settle number outcome => exact ⟨settleRun_spec h number outcome, rfl⟩
  | handler number now => exact runHandler_spec h hi now
  | finalizer number answers => exact of_spec (runFinally_spec h number answers)
  | drain answers => exact of_spec (drainFoundationQueue_spec answers h)
  | takeMailbox agentId => exact of_undisturbed (takeMailbox_undisturbed s agentId)
  | waitForMailbox agentId signal aborted =>
    exact of_undisturbed (waitForMailbox_undisturbed s agentId signal aborted)
  | abortWaits number => exact of_undisturbed (abortWaits_undisturbed s (.other number))
  | broadcastHostSteering messages =>
    exact of_undisturbed (broadcastHostSteering_undisturbed s messages)

theorem new_runInv (env : SubagentPlatform) (options : CreateSubagentManagerOptions) :
    RunInv env (new options) := by
  have hsesss : ∀ id session, (new options).sessions.get? id = some session →
      id = rootId ∧ session = rootSession options := by
    intro id session hget
    have hset : (JsMap.empty.set rootId (rootSession options)).get? id = some session := hget
    rw [JsMap.get?_set] at hset
    split at hset
    next hid => exact ⟨hid, (Option.some.inj hset).symm⟩
    next => cases hset
  have hruns : ∀ number : Nat, (new options).runs[number]? = none := fun _ => rfl
  refine ⟨?_, ?_, ?_, ?_, ?_⟩
  · intro id session hget
    obtain ⟨rfl, rfl⟩ := hsesss id session hget
    rfl
  · exact fun id session hget => Or.inl (hsesss id session hget).1
  · exact Nat.zero_le _
  · intro number run hrun
    rw [hruns] at hrun
    cases hrun
  · intro id session number _ _ later run hrun
    rw [hruns] at hrun
    cases hrun

/-! ## Settlements and live runs -/

/-- The run whose promise the input settles, or whose callback it runs. -/
def ManagerInput.settled? : ManagerInput → Option Nat
  | .settle number _ => some number
  | .handler number _ => some number
  | .finalizer number _ => some number
  | _ => none

def SubagentManager.IsMostRecent (s : SubagentManager) (number : Nat) (id : JsString) : Prop :=
  (∃ run, s.runs[number]? = some run ∧ run.sessionId = id) ∧
    ∀ later run, s.runs[later]? = some run → run.sessionId = id → later ≤ number

/-- A settlement changes the status, output, error and messages of no session but the one whose
most recent launch it settles. -/
def SettlesMostRecent (env : SubagentPlatform) (s : SubagentManager) (i : ManagerInput) : Prop :=
  ∀ number, i.settled? = some number → ∀ id session, s.sessions.get? id = some session →
    ¬s.IsMostRecent number id →
      ∃ session', (step env s i).sessions.get? id = some session' ∧
        session'.status = session.status ∧ session'.output = session.output ∧
        session'.error = session.error ∧ session'.messages = session.messages

/-- A run is live until its promise settles or its session is interrupted. -/
def SubagentRun.isLive (run : SubagentRun) : Bool :=
  !run.aborted && match run.phase with
    | .running => true
    | _ => false

def SubagentManager.liveRuns (s : SubagentManager) : Nat := s.runs.countP (·.isLive)

theorem isOpen_of_isLive {run : SubagentRun} (h : run.isLive = true) : run.isOpen = true := by
  unfold SubagentRun.isLive at h
  unfold SubagentRun.isOpen
  cases hphase : run.phase <;> simp_all

/-- Open runs belong to different sessions, and these are active. -/
theorem RunInv.liveRuns_le (h : RunInv env s) : s.liveRuns ≤ s.activeThreadCount := by
  have hdist : ((s.runs.filter (·.isLive)).map (·.sessionId)).Nodup := by
    rw [List.Nodup, List.pairwise_map, List.pairwise_filter, List.pairwise_iff_getElem]
    intro i j hi hj hij hlive hlive' hsame
    obtain ⟨-, session, hsess, -, hcur⟩ :=
      h.current i _ (List.getElem?_eq_getElem hi) (isOpen_of_isLive hlive)
    obtain ⟨-, session', hsess', -, hcur'⟩ :=
      h.current j _ (List.getElem?_eq_getElem hj) (isOpen_of_isLive hlive')
    rw [hsame, hsess'] at hsess
    rw [Option.some.inj hsess, hcur, Option.some.injEq] at hcur'
    omega
  have hact : (s.runs.filter (·.isLive)).map (·.sessionId)
      ⊆ (s.sessions.entries.filter fun e => isActive e.2).map Prod.fst := by
    intro id hid
    obtain ⟨run, hrun, rfl⟩ := List.mem_map.mp hid
    obtain ⟨hmem, hlive⟩ := List.mem_filter.mp hrun
    obtain ⟨number, hnumber⟩ := List.getElem?_of_mem hmem
    obtain ⟨hroot, session, hsess, hrunning, -⟩ :=
      h.current number run hnumber (isOpen_of_isLive hlive)
    refine List.mem_map.mpr ⟨(run.sessionId, session), List.mem_filter.mpr
      ⟨JsMap.mem_of_get? hsess, ?_⟩, rfl⟩
    simp [isActive, hrunning, h.keyed _ session hsess, hroot]
  have hlen := (List.subperm_of_subset hdist hact).length_le
  rw [List.length_map, List.length_map, ← List.countP_eq_length_filter,
    ← List.countP_eq_length_filter] at hlen
  rw [activeThreadCount, JsMap.values, List.countP_map]
  exact hlen

theorem RunInv.closed_of_stale (h : RunInv env s)
    {run : SubagentRun} (hrun : s.runs[number]? = some run)
    (hstale : ¬s.IsMostRecent number run.sessionId) : run.isOpen = false := by
  by_contra hopen
  obtain ⟨-, session, hsess, -, hcur⟩ := h.current number run hrun (by simpa using hopen)
  exact hstale ⟨⟨run, hrun, rfl⟩, h.latest _ session number hsess hcur⟩

theorem step_settlesMostRecent (h : RunInv env s) (i : ManagerInput)
    (hi : SettlesFresh s i) : SettlesMostRecent env s i := by
  intro number hdone id session hget hstale
  have of_core : ∀ {s' : SubagentManager}, (∃ session', s'.sessions.get? id = some session' ∧
      session'.core = session.core) → ∃ session', s'.sessions.get? id = some session' ∧
        session'.status = session.status ∧ session'.output = session.output ∧
        session'.error = session.error ∧ session'.messages = session.messages := by
    rintro s' ⟨session', hget', hcore⟩
    exact ⟨session', hget', congrArg SessionCore.status hcore, congrArg SessionCore.output hcore,
      congrArg SessionCore.error hcore, congrArg SessionCore.messages hcore⟩
  cases i with
  | settle n outcome => exact ⟨session, hget, rfl, rfl, rfl, rfl⟩
  | finalizer n answers => exact of_core ((runFinally_spec h n answers).keeps.sessions id session hget)
  | handler n now =>
    obtain rfl : n = number := Option.some.inj hdone
    show ∃ session', (s.runHandler n now).sessions.get? id = some session' ∧ _
    cases runHandler_handled hi now with
    | idle heq => rw [heq]; exact ⟨session, hget, rfl, rfl, rfl, rfl⟩
    | ignored heq => rw [heq]; exact ⟨session, hget, rfl, rfl, rfl, rfl⟩
    | ended run own f text hrun hopen hown hf heq =>
      -- the run ends its own session, whose most recent launch it is
      have hother : id ≠ own.id := by
        rintro rfl
        rw [h.keyed _ own hown] at hstale
        exact absurd (hopen.symm.trans (h.closed_of_stale hrun hstale)) (by decide)
      have hkept : ((s.modifyRun n markHandled).modifySession own.id f).sessions.get? id
          = some session := by
        show (s.sessions.modify own.id f).get? id = some session
        rw [JsMap.get?_modify, if_neg hother, hget]
      rw [heq]
      exact of_core ((Keeps.of_undisturbed (enqueueParentNotification_undisturbed _ own text
        now)).sessions id session hkept)
  | _ => cases hdone

/-- **Stale settlements are ignored**: in every run whose steps meet the condition, only the most
recent launch of a session settles it, and the live runs stay within the limit. -/
theorem reached_settlesMostRecent (env : SubagentPlatform) (options : CreateSubagentManagerOptions)
    (inputs : List ManagerInput)
    (h : RunMeets (step env) SettlesFresh (SubagentManager.new options) inputs) :
    RunMeets (step env) (SettlesMostRecent env) (SubagentManager.new options) inputs ∧
      (reached env options inputs).liveRuns ≤ (SubagentManager.new options).maxThreads := by
  have hnew : RunInv env (SubagentManager.new options) ∧
      (SubagentManager.new options).maxThreads = (SubagentManager.new options).maxThreads :=
    ⟨new_runInv env options, rfl⟩
  have hstep : ∀ s i, RunInv env s ∧ s.maxThreads = (SubagentManager.new options).maxThreads →
      SettlesFresh s i →
        RunInv env (step env s i) ∧
          (step env s i).maxThreads = (SubagentManager.new options).maxThreads := by
    rintro s i ⟨hinv, hmax⟩ hi
    obtain ⟨hinv', hmax'⟩ := step_spec hinv i hi
    exact ⟨hinv', hmax'.trans hmax⟩
  obtain ⟨hinv, hmax⟩ := runSteps_invariant_of_meets hstep hnew h
  refine ⟨h.of_invariant hstep (fun s i hs hi => step_settlesMostRecent hs.1 i hi) hnew, ?_⟩
  rw [← hmax]
  exact Nat.le_trans hinv.liveRuns_le hinv.bounded

/-! ## A stale settlement -/

/-- The last part of a UUID: a digit, for the first ones. -/
def uuidEnd (n : Nat) : JsString := if n < 16 then [hexDigit n] else List.replicate n 48

theorem uuidEnd_injective : Function.Injective uuidEnd := by
  intro a b h
  have hdigits : ∀ i j : Fin 16, hexDigit i.1 = hexDigit j.1 → i = j := by decide
  unfold uuidEnd at h
  split at h <;> split at h
  next ha hb =>
    exact congrArg Fin.val (hdigits ⟨a, ha⟩ ⟨b, hb⟩ (List.singleton_inj.mp h))
  next ha hb =>
    have hlen := congrArg List.length h
    simp at hlen
    omega
  next ha hb =>
    have hlen := congrArg List.length h
    simp at hlen
    omega
  next ha hb =>
    simpa using congrArg List.length h

theorem withoutDashes_uuidEnd (n : Nat) : withoutDashes (uuidEnd n) = uuidEnd n := by
  have hdigits : ∀ i : Fin 16, hexDigit i.1 ≠ 45 := by decide
  refine List.filter_eq_self.mpr fun u hu => ?_
  unfold uuidEnd at hu
  split at hu
  next hn =>
    rw [List.mem_singleton.mp hu]
    simpa using hdigits ⟨n, hn⟩
  next => simp [List.eq_of_mem_replicate hu]

/-- A platform that lowers ASCII letters, reads single digits, and draws UUIDs in order. -/
def asciiPlatform : SubagentPlatform where
  toLowerCase s := s.map fun u => if 65 ≤ u ∧ u ≤ 90 then u + 32 else u
  positiveSafeInteger? s :=
    match s with
    | [u] => if 49 ≤ u ∧ u ≤ 57 then some (u.toNat - 48) else none
    | _ => none
  randomUUID n := js "00000000-0000-4000-8000-00000000000" ++ uuidEnd n
  randomUUID_injective := by
    intro a b h
    simp only [withoutDashes, List.filter_append, List.append_cancel_left_eq] at h
    have ha := withoutDashes_uuidEnd a
    have hb := withoutDashes_uuidEnd b
    rw [withoutDashes] at ha hb
    rw [ha, hb] at h
    exact uuidEnd_injective h

/-- One thread, and nothing else out of the ordinary. -/
def oneThread : CreateSubagentManagerOptions where
  rootProvider := js "provider"
  rootModel := js "model"
  rootReasoning := none
  maxThreads := some (.integer 1)
  maxDepth := none
  maxChildrenPerNonRootAgent := none
  maxConcurrentRooms := none
  maxMembersPerRoom := none
  delegationRoles := []
  providerPreferences := []
  hasSurfaceStore := false

def quietLaunch : LaunchAnswers := ⟨[], none⟩
def quietSpawn : SpawnAnswers := ⟨none, none, quietLaunch⟩

/-- The lead agent spawns a child. -/
def spawnTask (taskName : JsString) : ManagerInput :=
  .spawnAgent rootId (js "call") (.obj [(js "task_name", .str taskName), (js "message", .str (js "go"))])
    quietSpawn none

def interruptTask (taskName : JsString) : ManagerInput :=
  .interrupt rootId (.obj [(js "target", .str taskName)]) 0

def followupTask (taskName : JsString) : ManagerInput :=
  .sendMessage rootId (.obj [(js "target", .str taskName), (js "message", .str (js "again"))]) true
    quietLaunch 0

def returns (number : Nat) (text : JsString) : ManagerInput :=
  .settle number (.fulfilled ⟨[], text, 1, 0, []⟩)

/-- A child is interrupted and started again; then its first run returns, and another child
is spawned. -/
def staleReturn : List ManagerInput :=
  [spawnTask (js "a"), interruptTask (js "a"), followupTask (js "a"), returns 0 (js "old"),
    .handler 0 0, spawnTask (js "b")]

/-- The first run is rejected instead, and then the second one returns. -/
def staleRejection : List ManagerInput :=
  [spawnTask (js "a"), interruptTask (js "a"), followupTask (js "a"),
    .settle 0 (.rejected (js "aborted")), .handler 0 0, returns 1 (js "done"), .handler 1 0]

theorem reached_settlesMostRecent_staleRejection :
    RunMeets (step asciiPlatform) (SettlesMostRecent asciiPlatform) (SubagentManager.new oneThread)
      staleRejection ∧
      (reached asciiPlatform oneThread staleRejection).liveRuns
        ≤ (SubagentManager.new oneThread).maxThreads :=
  reached_settlesMostRecent asciiPlatform oneThread staleRejection (by decide +kernel)

/-- The first run's return marks the second one completed, which frees its slot. -/
theorem stale_return_frees_slot :
    ¬((reached asciiPlatform oneThread staleReturn).liveRuns
        ≤ (SubagentManager.new oneThread).maxThreads) := by
  decide +kernel

end Beale.Subagents
