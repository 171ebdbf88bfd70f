import Beale.Subagents.Manager

/-!
# What every state of a subagent manager keeps

A step leaves the runs and the cores of the sessions alone, or at least every session
that was there; what the manager does to them keeps the limit.
-/

namespace Beale.Subagents

open Beale.Library

variable {env : SubagentPlatform}

/-! ## Frames -/

/-- What a run may change of its session, with the controller it runs under. -/
structure SessionCore where
  id : JsString
  status : SubagentStatus
  output : Option JsString
  error : Option JsString
  messages : List AgentMessage
  controller : Option Nat

def SubagentSession.core (session : SubagentSession) : SessionCore where
  id := session.id
  status := session.status
  output := session.output
  error := session.error
  messages := session.messages
  controller := session.controller

variable {session' session : SubagentSession}

theorem isActive_of_core (h : session'.core = session.core) :
    SubagentManager.isActive session' = SubagentManager.isActive session := by
  have hid : session'.id = session.id := congrArg SessionCore.id h
  have hst : session'.status = session.status := congrArg SessionCore.status h
  rw [SubagentManager.isActive, SubagentManager.isActive, hid, hst]

/-- The step has left the runs and the cores of the sessions. -/
structure Undisturbed (s s' : SubagentManager) : Prop where
  maxThreads : s'.maxThreads = s.maxThreads
  runs : s'.runs = s.runs
  sessions : ∀ id, (s'.sessions.get? id).map (·.core) = (s.sessions.get? id).map (·.core)
  active : s'.activeThreadCount = s.activeThreadCount
  uuids : s.uuids ≤ s'.uuids

namespace Undisturbed

variable {s s' s'' : SubagentManager}

theorem rfl (s : SubagentManager) : Undisturbed s s :=
  ⟨Eq.refl _, Eq.refl _, fun _ => Eq.refl _, Eq.refl _, Nat.le_refl _⟩

theorem trans (h : Undisturbed s s') (h' : Undisturbed s' s'') : Undisturbed s s'' :=
  ⟨h'.maxThreads.trans h.maxThreads, h'.runs.trans h.runs,
    fun id => (h'.sessions id).trans (h.sessions id), h'.active.trans h.active,
    Nat.le_trans h.uuids h'.uuids⟩

/-- Only what lies outside the runs and the sessions has changed. -/
theorem of_eq (hmax : s'.maxThreads = s.maxThreads) (hruns : s'.runs = s.runs)
    (hsesss : s'.sessions = s.sessions) (huuids : s.uuids ≤ s'.uuids) : Undisturbed s s' :=
  ⟨hmax, hruns, fun id => by rw [hsesss],
    by rw [SubagentManager.activeThreadCount, SubagentManager.activeThreadCount, hsesss], huuids⟩

theorem modifySession (s : SubagentManager) (id : JsString) {f : SubagentSession → SubagentSession}
    (hf : ∀ session, (f session).core = session.core) : Undisturbed s (s.modifySession id f) := by
  refine ⟨Eq.refl _, Eq.refl _, fun id' => ?_, ?_, Nat.le_refl _⟩
  · show ((s.sessions.modify id f).get? id').map _ = _
    rw [JsMap.get?_modify]
    split
    next hid =>
      rw [hid, Option.map_map]
      congr 1
      funext session
      exact hf session
    next => rfl
  · exact JsMap.countP_values_modify_of_same fun session _ => isActive_of_core (hf session)

end Undisturbed

section

variable (s : SubagentManager) (id : JsString)
include s id

theorem pushMailbox_undisturbed (messages : List AgentMessage) :
    Undisturbed s (s.pushMailbox id messages) := by
  have hmod : Undisturbed s (s.modifySession id fun session =>
      { session with mailbox := session.mailbox ++ messages }) :=
    .modifySession s id fun _ => rfl
  exact hmod.trans (.of_eq rfl rfl rfl (Nat.le_refl _))

theorem takeMailbox_undisturbed : Undisturbed s (s.takeMailbox id) := by
  unfold SubagentManager.takeMailbox
  split
  · exact .rfl s
  · refine (Undisturbed.modifySession s id (f := fun session => { session with mailbox := [] })
      fun _ => rfl).trans (.of_eq rfl rfl rfl (Nat.le_refl _))

theorem flushMailboxWaiter_undisturbed : Undisturbed s (s.flushMailboxWaiter id) := by
  unfold SubagentManager.flushMailboxWaiter
  split
  · split
    · exact .rfl s
    · refine Undisturbed.trans ?_ (takeMailbox_undisturbed _ id)
      exact .of_eq rfl rfl rfl (Nat.le_refl _)
  · exact .rfl s

theorem waitForMailbox_undisturbed (signal : Option WaitSignal)
    (aborted : Bool) : Undisturbed s (s.waitForMailbox id signal aborted) := by
  unfold SubagentManager.waitForMailbox
  split
  · exact .rfl s
  · split
    · exact takeMailbox_undisturbed s id
    · split
      · exact .rfl s
      · split
        · exact .rfl s
        · exact .of_eq rfl rfl rfl (Nat.le_refl _)

end

theorem enqueueParentNotification_undisturbed (s : SubagentManager) (session : SubagentSession)
    (text : JsString) (now : Nat) : Undisturbed s (s.enqueueParentNotification session text now) := by
  unfold SubagentManager.enqueueParentNotification
  split
  · exact pushMailbox_undisturbed s _ _
  · exact .rfl s

theorem broadcastHostSteering_undisturbed (s : SubagentManager) (messages : List AgentMessage) :
    Undisturbed s (s.broadcastHostSteering messages) := by
  unfold SubagentManager.broadcastHostSteering
  split
  · exact .rfl s
  · generalize s.sessions.values.filter SubagentManager.isLive = sessions
    induction sessions generalizing s with
    | nil => exact .rfl s
    | cons session rest ih =>
      exact ((pushMailbox_undisturbed s session.id messages).trans
        (flushMailboxWaiter_undisturbed _ session.id)).trans (ih _)

/-- The start of a scout is a spawn, after which the lead agent may be told. -/
theorem startFoundationScout_eq (env : SubagentPlatform) (s : SubagentManager) (surfaceId firstAgentId : JsString)
    (now : Nat) (answers : SpawnAnswers) : ∃ scouts scouts' told,
      (told = (SubagentManager.spawn env { s with foundationScouts := scouts, uuids := s.uuids + 1 } rootId .foundation
          (s.foundationInput env surfaceId) answers id).2 ∨
        ∃ messages, told = ((SubagentManager.spawn env { s with foundationScouts := scouts, uuids := s.uuids + 1 } rootId
          .foundation (s.foundationInput env surfaceId) answers id).2.pushMailbox rootId messages).flushMailboxWaiter
            rootId) ∧
      (s.startFoundationScout env surfaceId firstAgentId now answers).2 = { told with foundationScouts := scouts' } := by
  unfold SubagentManager.startFoundationScout
  refine ⟨s.foundationScouts.set surfaceId ⟨.queued, none, some (js "Starting the foundation scout.")⟩, ?_⟩
  dsimp only
  generalize SubagentManager.spawn env _ rootId .foundation (s.foundationInput env surfaceId) answers id = result
  obtain ⟨error | child, spawned⟩ := result
  · exact ⟨_, spawned, .inl rfl, rfl⟩
  · dsimp only
    split
    · exact ⟨_, spawned, .inl rfl, rfl⟩
    · exact ⟨_, _, .inr ⟨_, rfl⟩, rfl⟩

/-- What each round keeps, and telling the lead agent, is kept by all rounds. -/
theorem drainRounds_invariant {P : SubagentManager → Prop} (answers : Nat → FirstTouch)
    (hround : ∀ s rest surfaceId firstAgentId now spawning, s.hasThreadCapacity = true → P s →
      P (SubagentManager.startFoundationScout env { s with foundationQueue := rest } surfaceId firstAgentId now
        spawning).2)
    (htold : ∀ s messages, P s → P (s.pushMailbox rootId messages)) (fuel : Nat) {s : SubagentManager} (hs : P s) :
    P (SubagentManager.drainRounds env answers fuel s) := by
  induction fuel generalizing s with
  | zero => exact hs
  | succ fuel ih =>
    unfold SubagentManager.drainRounds
    split
    · exact hs
    next next rest _ =>
      split
      · exact hs
      next hcap =>
        have hstart := hround s rest next.surfaceId next.firstAgentId (answers fuel).now (answers fuel).answers
          (by simpa using hcap) hs
        dsimp only
        split
        · exact ih (htold _ _ hstart)
        · exact ih hstart

/-! ## What holds in every state -/

/-- Whether a run has neither been aborted nor handed over its outcome. -/
def SubagentRun.isOpen (run : SubagentRun) : Bool :=
  !run.aborted && match run.phase with
    | .running => true
    | .settled _ => true
    | _ => false

/-- An open run is the one its session runs under, and the sessions that run are within the
limit. -/
structure RunInv (env : SubagentPlatform) (s : SubagentManager) : Prop where
  keyed : ∀ id session, s.sessions.get? id = some session → session.id = id
  ids : ∀ id session, s.sessions.get? id = some session →
    id = rootId ∨ ∃ n, n < s.uuids ∧ id = agentId env n
  bounded : s.activeThreadCount ≤ s.maxThreads
  current : ∀ number run, s.runs[number]? = some run → run.isOpen = true →
    run.sessionId ≠ rootId ∧ ∃ session, s.sessions.get? run.sessionId = some session ∧
      session.status = .running ∧ session.controller = some number
  latest : ∀ id session number, s.sessions.get? id = some session →
    session.controller = some number → ∀ later run, s.runs[later]? = some run →
      run.sessionId = id → later ≤ number

variable {s : SubagentManager} {s' : SubagentManager}

theorem get?_of_core {id : JsString}
    (h : (s'.sessions.get? id).map (·.core) = (s.sessions.get? id).map (·.core))
    (hget : s'.sessions.get? id = some session') :
    ∃ session, s.sessions.get? id = some session ∧ session'.core = session.core := by
  rw [hget, Option.map_some] at h
  obtain ⟨session, hsess, hcore⟩ := Option.map_eq_some_iff.mp h.symm
  exact ⟨session, hsess, hcore.symm⟩

theorem RunInv.undisturbed (h : RunInv env s) (hs : Undisturbed s s') : RunInv env s' := by
  refine ⟨?_, ?_, ?_, ?_, ?_⟩
  · intro id session' hget
    obtain ⟨session, hsess, hcore⟩ := get?_of_core (hs.sessions id) hget
    exact (congrArg SessionCore.id hcore).trans (h.keyed id session hsess)
  · intro id session' hget
    obtain ⟨session, hsess, -⟩ := get?_of_core (hs.sessions id) hget
    refine (h.ids id session hsess).imp_right fun ⟨n, hn, hid⟩ => ?_
    exact ⟨n, Nat.lt_of_lt_of_le hn hs.uuids, hid⟩
  · rw [hs.active, hs.maxThreads]
    exact h.bounded
  · intro number run hrun hopen
    rw [hs.runs] at hrun
    obtain ⟨hroot, session, hsess, hst, hctl⟩ := h.current number run hrun hopen
    obtain ⟨session', hsess', hcore⟩ := get?_of_core (hs.sessions run.sessionId).symm hsess
    refine ⟨hroot, session', hsess', ?_, ?_⟩
    · exact (congrArg SessionCore.status hcore).symm.trans hst
    · exact (congrArg SessionCore.controller hcore).symm.trans hctl
  · intro id session' number hget hctl later run hrun hid
    rw [hs.runs] at hrun
    obtain ⟨session, hsess, hcore⟩ := get?_of_core (hs.sessions id) hget
    exact h.latest id session number hsess
      ((congrArg SessionCore.controller hcore).symm.trans hctl) later run hrun hid

/-! ## The sessions that stay -/

/-- Every session that was there is there, with the same core. -/
structure Keeps (s s' : SubagentManager) : Prop where
  maxThreads : s'.maxThreads = s.maxThreads
  sessions : ∀ id session, s.sessions.get? id = some session →
    ∃ session', s'.sessions.get? id = some session' ∧ session'.core = session.core

namespace Keeps

variable {s s' s'' : SubagentManager}

theorem trans (h : Keeps s s') (h' : Keeps s' s'') : Keeps s s'' := by
  refine ⟨h'.maxThreads.trans h.maxThreads, fun id session hget => ?_⟩
  obtain ⟨session', hget', hcore⟩ := h.sessions id session hget
  obtain ⟨session'', hget'', hcore'⟩ := h'.sessions id session' hget'
  exact ⟨session'', hget'', hcore'.trans hcore⟩

theorem of_undisturbed (h : Undisturbed s s') : Keeps s s' :=
  ⟨h.maxThreads, fun id _ hget => get?_of_core (h.sessions id).symm hget |>.imp
    fun _ ⟨hsess, hcore⟩ => ⟨hsess, hcore.symm⟩⟩

end Keeps

/-! ## Registering, launching and removing a session -/

theorem agentId_ne_rootId (env : SubagentPlatform) (n : Nat) : agentId env n ≠ rootId := by
  intro h
  have hhead := congrArg List.head? h
  exact absurd hhead (by simp [agentId, js, rootId, utf16])

theorem agentId_injective (env : SubagentPlatform) : Function.Injective (agentId env) :=
  fun _ _ h => env.randomUUID_injective (List.append_cancel_left h)

/-- The next UUID makes a new id. -/
theorem RunInv.fresh (h : RunInv env s) : s.sessions.get? (agentId env s.uuids) = none := by
  cases hget : s.sessions.get? (agentId env s.uuids) with
  | none => rfl
  | some session =>
    rcases h.ids _ session hget with hroot | ⟨n, hn, hid⟩
    · exact absurd hroot (agentId_ne_rootId env _)
    · exact absurd (agentId_injective env hid) (by omega)

theorem RunInv.register (h : RunInv env s) {child : SubagentSession}
    (hid : child.id = agentId env s.uuids) (hst : child.status = .pending)
    (hctl : child.controller = none) :
    RunInv env { s with uuids := s.uuids + 1, sessions := s.sessions.set child.id child } := by
  have hfresh : s.sessions.get? child.id = none := hid ▸ h.fresh
  have hget : ∀ id session, (s.sessions.set child.id child).get? id = some session →
      (id = child.id ∧ session = child) ∨ (id ≠ child.id ∧ s.sessions.get? id = some session) := by
    intro id session hget
    rw [JsMap.get?_set] at hget
    split at hget
    next hsame => exact Or.inl ⟨hsame, (Option.some.inj hget).symm⟩
    next hother => exact Or.inr ⟨hother, hget⟩
  refine ⟨?_, ?_, ?_, ?_, ?_⟩
  · intro id session hsess
    rcases hget id session hsess with ⟨rfl, rfl⟩ | ⟨-, hsess⟩
    · rfl
    · exact h.keyed id session hsess
  · intro id session hsess
    rcases hget id session hsess with ⟨rfl, rfl⟩ | ⟨-, hsess⟩
    · exact Or.inr ⟨s.uuids, Nat.lt_succ_self _, hid⟩
    · refine (h.ids id session hsess).imp_right fun ⟨n, hn, hid⟩ => ?_
      exact ⟨n, Nat.lt_succ_of_lt hn, hid⟩
  · show (s.sessions.set child.id child).values.countP _ ≤ s.maxThreads
    have hidle : SubagentManager.isActive child = false := by
      simp [SubagentManager.isActive, hst]
    rw [JsMap.values_set_new _ hfresh, List.countP_append, List.countP_singleton, hidle]
    exact h.bounded
  · intro number run hrun hopen
    obtain ⟨hroot, session, hsess, hrunning⟩ := h.current number run hrun hopen
    refine ⟨hroot, session, ?_, hrunning⟩
    rw [JsMap.get?_set, if_neg, hsess]
    rintro hsame
    rw [hsame, hfresh] at hsess
    cases hsess
  · intro id session number hsess hnumber later run hrun hlater
    rcases hget id session hsess with ⟨rfl, rfl⟩ | ⟨-, hsess⟩
    · rw [hctl] at hnumber
      cases hnumber
    · exact h.latest id session number hsess hnumber later run hrun hlater

theorem launch_eq (s : SubagentManager) (session : SubagentSession) (prompt : JsString)
    (inherited : List AgentMessage) (answers : LaunchAnswers) :
    ∃ (f : SubagentSession → SubagentSession) (run : SubagentRun),
      (s.launch session prompt inherited answers).2
        = { s with sessions := s.sessions.modify session.id f, runs := s.runs ++ [run] } ∧
      (s.launch session prompt inherited answers).1 = answers.error ∧
      run.sessionId = session.id ∧ (answers.error ≠ none → run.isOpen = false) ∧
      ∀ before, (f before).id = before.id ∧ (f before).status = .running ∧
        (f before).controller = some s.runs.length := by
  refine ⟨_, _, rfl, rfl, rfl, fun herror => ?_, fun _ => ⟨rfl, rfl, rfl⟩⟩
  simp [SubagentRun.isOpen, Option.isSome_iff_ne_none.mpr herror]

/-- A launch of an idle session, within the limit. -/
theorem RunInv.launch (h : RunInv env s) {target : SubagentSession}
    (hget : s.sessions.get? target.id = some session) (hroot : target.id ≠ rootId)
    (hidle : session.status ≠ .running) (hcap : s.activeThreadCount < s.maxThreads)
    (prompt : JsString) (inherited : List AgentMessage) (answers : LaunchAnswers) :
    RunInv env (s.launch target prompt inherited answers).2 := by
  obtain ⟨f, run, heq, -, hrunId, -, hf⟩ := launch_eq s target prompt inherited answers
  rw [heq]
  have hsesss : ∀ id session', (s.sessions.modify target.id f).get? id = some session' →
      (id = target.id ∧ session' = f session) ∨ (id ≠ target.id ∧ s.sessions.get? id = some session') := by
    intro id session' hget'
    rw [JsMap.get?_modify, hget] at hget'
    split at hget'
    next hsame => exact Or.inl ⟨hsame, (Option.some.inj hget').symm⟩
    next hother => exact Or.inr ⟨hother, hget'⟩
  -- a run in the list is an old one or the new one
  have hruns : ∀ number run', (s.runs ++ [run])[number]? = some run' →
      s.runs[number]? = some run' ∨ (number = s.runs.length ∧ run' = run) := by
    intro number run' hrun
    rcases Nat.lt_trichotomy number s.runs.length with hlt | heq | hgt
    · rw [List.getElem?_append_left hlt] at hrun
      exact Or.inl hrun
    · rw [heq, List.getElem?_concat_length] at hrun
      exact Or.inr ⟨heq, (Option.some.inj hrun).symm⟩
    · rw [List.getElem?_eq_none (by simp; omega)] at hrun
      cases hrun
  refine ⟨?_, ?_, ?_, ?_, ?_⟩
  · intro id session' hget'
    rcases hsesss id session' hget' with ⟨rfl, rfl⟩ | ⟨-, hold⟩
    · exact (hf session).1.trans (h.keyed _ session hget)
    · exact h.keyed id session' hold
  · intro id session' hget'
    rcases hsesss id session' hget' with ⟨rfl, -⟩ | ⟨-, hold⟩
    · exact h.ids _ session hget
    · exact h.ids id session' hold
  · show (s.sessions.modify target.id f).values.countP _ ≤ s.maxThreads
    have hcount := JsMap.countP_values_modify f SubagentManager.isActive hget
    have hinactive : SubagentManager.isActive session = false := by
      simp [SubagentManager.isActive, hidle]
    rw [hinactive, if_neg (by simp)] at hcount
    have hone : (if SubagentManager.isActive (f session) = true then 1 else 0) ≤ 1 := by
      split <;> omega
    rw [SubagentManager.activeThreadCount] at hcap
    omega
  · intro number run' hrun hopen
    rcases hruns number run' hrun with hold | ⟨rfl, rfl⟩
    · obtain ⟨hne, session', hsess', hrunning, hctl⟩ := h.current number run' hold hopen
      refine ⟨hne, session', ?_, hrunning, hctl⟩
      -- the launched session was idle, so no open run was its own
      have hother : run'.sessionId ≠ target.id := by
        intro hsame
        rw [hsame, hget] at hsess'
        exact hidle (Option.some.inj hsess' ▸ hrunning)
      show (s.sessions.modify target.id f).get? run'.sessionId = some session'
      rw [JsMap.get?_modify, if_neg hother, hsess']
    · refine ⟨hrunId ▸ hroot, f session, ?_, (hf session).2.1, (hf session).2.2⟩
      show (s.sessions.modify target.id f).get? run'.sessionId = _
      rw [JsMap.get?_modify, if_pos hrunId, hget]
      rfl
  · intro id session' number hget' hctl later run' hrun hlater
    have hbound : later ≤ s.runs.length := by
      rcases hruns later run' hrun with hold | ⟨rfl, -⟩
      · exact Nat.le_of_lt (List.getElem?_eq_some_iff.mp hold).1
      · exact Nat.le_refl _
    rcases hsesss id session' hget' with ⟨rfl, rfl⟩ | ⟨hother, hold⟩
    · rw [(hf session).2.2] at hctl
      rw [← Option.some.inj hctl]
      exact hbound
    · rcases hruns later run' hrun with hrunOld | ⟨rfl, rfl⟩
      · exact h.latest id session' number hold hctl later run' hrunOld hlater
      · exact absurd (hlater.symm.trans hrunId) hother

theorem RunInv.remove (h : RunInv env s) (id : JsString)
    (hclose : ∀ run ∈ s.runs, run.isOpen = true → run.sessionId ≠ id) :
    RunInv env { s with sessions := s.sessions.delete id } := by
  have hsesss : ∀ id' session, (s.sessions.delete id).get? id' = some session →
      s.sessions.get? id' = some session := by
    intro id' session hget
    rw [JsMap.get?_delete] at hget
    split at hget
    next => cases hget
    next => exact hget
  refine ⟨?_, ?_, ?_, ?_, ?_⟩
  · exact fun id' session hget => h.keyed id' session (hsesss id' session hget)
  · exact fun id' session hget => h.ids id' session (hsesss id' session hget)
  · show (s.sessions.delete id).values.countP _ ≤ s.maxThreads
    refine Nat.le_trans ?_ h.bounded
    cases hget : s.sessions.get? id with
    | none => rw [JsMap.delete_of_none hget]; exact Nat.le_refl _
    | some session =>
      rw [SubagentManager.activeThreadCount, ← JsMap.countP_values_delete _ hget]
      exact Nat.le_add_right _ _
  · intro number run hrun hopen
    obtain ⟨hroot, session, hsess, hrunning⟩ := h.current number run hrun hopen
    refine ⟨hroot, session, ?_, hrunning⟩
    rw [JsMap.get?_delete, if_neg (hclose run (List.mem_of_getElem? hrun) hopen), hsess]
  · intro id' session number hget
    exact h.latest id' session number (hsesss id' session hget)

/-! ## Closing a run and settling a session -/

/-- A run changed so that it is open only if it was. -/
theorem RunInv.closeRun (h : RunInv env s) (number : Nat)
    {g : SubagentRun → SubagentRun} (hid : ∀ run, (g run).sessionId = run.sessionId)
    (hopen : ∀ run, (g run).isOpen = true → run.isOpen = true) :
    RunInv env (s.modifyRun number g) := by
  have hruns : ∀ (index : Nat) (run' : SubagentRun), (s.runs.modify number g)[index]? = some run' →
      ∃ run, s.runs[index]? = some run ∧ run'.sessionId = run.sessionId ∧
        (run'.isOpen = true → run.isOpen = true) := by
    intro index run' hrun
    rw [List.getElem?_modify] at hrun
    obtain ⟨run, hold, hnew⟩ := Option.map_eq_some_iff.mp hrun
    refine ⟨run, hold, ?_⟩
    split at hnew
    · exact ⟨hnew ▸ hid run, fun h' => hopen run (hnew ▸ h')⟩
    · exact ⟨hnew ▸ rfl, fun h' => hnew ▸ h'⟩
  refine ⟨h.keyed, h.ids, h.bounded, ?_, ?_⟩
  · intro index run' hrun hopen'
    obtain ⟨run, hold, hsame, hwas⟩ := hruns index run' hrun
    rw [hsame]
    exact h.current index run hold (hwas hopen')
  · intro id session index hget hctl later run' hrun hlater
    obtain ⟨run, hold, hsame, -⟩ := hruns later run' hrun
    exact h.latest id session index hget hctl later run hold (hsame ▸ hlater)

variable {f : SubagentSession → SubagentSession}

theorem modifySession_activeThreadCount_le (s : SubagentManager) (id : JsString)
    (hf : ∀ session, SubagentManager.isActive (f session) = true →
      SubagentManager.isActive session = true) :
    (s.modifySession id f).activeThreadCount ≤ s.activeThreadCount := by
  show (s.sessions.modify id f).values.countP _ ≤ s.sessions.values.countP _
  cases hget : s.sessions.get? id with
  | none => rw [JsMap.modify, hget]
  | some session =>
    have hcount := JsMap.countP_values_modify f SubagentManager.isActive hget
    have hsess := hf session
    by_cases hact : SubagentManager.isActive (f session) = true
    · rw [if_pos hact, if_pos (hsess hact)] at hcount
      omega
    · rw [if_neg hact] at hcount
      omega

theorem RunInv.settleSession (h : RunInv env s) (id : JsString)
    (hf : ∀ session, (f session).id = session.id ∧ (f session).controller = session.controller ∧
      (f session).status ≠ .running)
    (hclose : ∀ run ∈ s.runs, run.isOpen = true → run.sessionId ≠ id) :
    RunInv env (s.modifySession id f) := by
  have hsesss : ∀ id' session', (s.sessions.modify id f).get? id' = some session' →
      ∃ session, s.sessions.get? id' = some session ∧ session'.id = session.id ∧
        session'.controller = session.controller := by
    intro id' session' hget
    rw [JsMap.get?_modify] at hget
    split at hget
    next hsame =>
      obtain ⟨session, hold, hnew⟩ := Option.map_eq_some_iff.mp hget
      exact ⟨session, hsame ▸ hold, hnew ▸ (hf session).1, hnew ▸ (hf session).2.1⟩
    next => exact ⟨session', hget, rfl, rfl⟩
  refine ⟨?_, ?_, ?_, ?_, ?_⟩
  · intro id' session' hget
    obtain ⟨session, hold, hid, -⟩ := hsesss id' session' hget
    exact hid.trans (h.keyed id' session hold)
  · intro id' session' hget
    obtain ⟨session, hold, -⟩ := hsesss id' session' hget
    exact h.ids id' session hold
  · exact Nat.le_trans (modifySession_activeThreadCount_le s id fun session hact =>
      absurd hact (by simp [SubagentManager.isActive, (hf session).2.2])) h.bounded
  · intro number run hrun hopen
    obtain ⟨hroot, session, hsess, hrunning⟩ := h.current number run hrun hopen
    refine ⟨hroot, session, ?_, hrunning⟩
    show (s.sessions.modify id f).get? run.sessionId = some session
    rw [JsMap.get?_modify, if_neg (hclose run (List.mem_of_getElem? hrun) hopen), hsess]
  · intro id' session' number hget hctl
    obtain ⟨session, hold, -, hsame⟩ := hsesss id' session' hget
    exact h.latest id' session number hold (hsame ▸ hctl)

end Beale.Subagents
