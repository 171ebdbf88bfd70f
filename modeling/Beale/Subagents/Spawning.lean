import Beale.Subagents.Invariant

/-!
# Spawning

- `startChild_spec`, `spawn_spec`, `drainFoundationQueue_spec`: every spawn keeps
  the invariant and the sessions that were there.
-/

namespace Beale.Subagents

open Beale.Library
open SubagentManager

variable {env : SubagentPlatform}

/-! ## Starting a child -/

variable {s : SubagentManager}

/-- A spawn that passes its checks found a free slot. -/
theorem spawnRequest_capacity {parentId : JsString} {input : Json}
    {track : Bool} {requireError : Option JsString} {request : SpawnRequest}
    (h : s.spawnRequest env parentId input track requireError = .ok request) :
    s.activeThreadCount < s.maxThreads := by
  by_contra hfull
  have hfull : s.maxThreads ≤ s.activeThreadCount := Nat.le_of_not_lt hfull
  unfold spawnRequest at h
  simp only [bind, Except.bind, throw, throwThe, MonadExceptOf.throw, if_pos hfull] at h
  -- every check before the limit throws, or the limit does
  repeat (split at h; · cases h)
  cases h

/-- What the handler of a first touch may do, where a child has been registered: it keeps the
sessions, and leaves the slot that the child was given. -/
def TouchSafe (env : SubagentPlatform) (s : SubagentManager)
    (onFirstTouch : SubagentManager → SubagentManager) : Prop :=
  ∀ t, RunInv env t → t.maxThreads = s.maxThreads → t.activeThreadCount = s.activeThreadCount →
    t.stopped = s.stopped → t.foundationScouts = s.foundationScouts →
      RunInv env (onFirstTouch t) ∧ Keeps t (onFirstTouch t) ∧
        (onFirstTouch t).activeThreadCount < s.maxThreads

variable {child : SubagentSession}

theorem register_activeThreadCount
    (hfresh : s.sessions.get? child.id = none) (hstatus : child.status = .pending) :
    (s.sessions.set child.id child).values.countP isActive = s.activeThreadCount := by
  have hidle : isActive child = false := by
    simp [isActive, hstatus]
  rw [JsMap.values_set_new _ hfresh, List.countP_append, List.countP_singleton, hidle]
  rfl

namespace Keeps

variable {s t : SubagentManager} {child : SubagentSession}

theorem ne_of_fresh {id : JsString} {session : SubagentSession}
    (hfresh : s.sessions.get? child.id = none) (hget : s.sessions.get? id = some session) :
    id ≠ child.id := by
  rintro rfl
  rw [hfresh] at hget
  cases hget

theorem register (hfresh : s.sessions.get? child.id = none) :
    Keeps s { s with uuids := s.uuids + 1, sessions := s.sessions.set child.id child } := by
  refine ⟨rfl, fun id session hget => ⟨session, ?_, rfl⟩⟩
  rw [JsMap.get?_set, if_neg (ne_of_fresh hfresh hget), hget]

theorem remove (h : Keeps s t) (hfresh : s.sessions.get? child.id = none) :
    Keeps s { t with sessions := t.sessions.delete child.id } := by
  refine ⟨h.maxThreads, fun id session hget => ?_⟩
  obtain ⟨session', hget', hcore⟩ := h.sessions id session hget
  refine ⟨session', ?_, hcore⟩
  rw [JsMap.get?_delete, if_neg (ne_of_fresh hfresh hget), hget']

theorem launch (h : Keeps s t) (hfresh : s.sessions.get? child.id = none) (prompt : JsString)
    (inherited : List AgentMessage) (answers : LaunchAnswers) :
    Keeps s (t.launch child prompt inherited answers).2 := by
  obtain ⟨f, run, hlaunch, -⟩ := launch_eq t child prompt inherited answers
  rw [hlaunch]
  refine ⟨h.maxThreads, fun id session hget => ?_⟩
  obtain ⟨session', hget', hcore⟩ := h.sessions id session hget
  refine ⟨session', ?_, hcore⟩
  show (t.sessions.modify child.id f).get? id = some session'
  rw [JsMap.get?_modify, if_neg (ne_of_fresh hfresh hget), hget']

end Keeps

variable {session : SubagentSession}

theorem RunInv.closed_of_idle (h : RunInv env s) {id : JsString}
    (hget : s.sessions.get? id = some session) (hidle : session.status ≠ .running) :
    ∀ run ∈ s.runs, run.isOpen = true → run.sessionId ≠ id := by
  intro run hrun hopen hsame
  obtain ⟨number, hnumber⟩ := List.getElem?_of_mem hrun
  obtain ⟨-, session', hsess', hrunning, -⟩ := h.current number run hnumber hopen
  rw [hsame, hget] at hsess'
  exact hidle (Option.some.inj hsess' ▸ hrunning)

theorem RunInv.closed_of_throw (h : RunInv env s) (hget : s.sessions.get? child.id = some session)
    (hidle : session.status ≠ .running) {prompt : JsString} {inherited : List AgentMessage}
    {answers : LaunchAnswers} (hthrew : answers.error ≠ none) :
    ∀ run ∈ (s.launch child prompt inherited answers).2.runs, run.isOpen = true →
      run.sessionId ≠ child.id := by
  obtain ⟨f, launched, hlaunch, -, -, hclose, -⟩ := launch_eq s child prompt inherited answers
  rw [hlaunch]
  intro run hrun hopen
  rcases List.mem_append.mp hrun with hold | hnew
  · exact h.closed_of_idle hget hidle run hold hopen
  · rw [List.mem_singleton.mp hnew, hclose hthrew] at hopen
    cases hopen

variable {onFirstTouch : SubagentManager → SubagentManager}

section

variable (h : RunInv env s) (hid : child.id = agentId env s.uuids)
  (hstatus : child.status = .pending) (hcontroller : child.controller = none)
include h hid hstatus hcontroller

/-- The focus of a registered child: the child is still idle, and a slot is free. -/
theorem focus_spec
    (hsafe : TouchSafe env s onFirstTouch) (hcap : s.activeThreadCount < s.maxThreads)
    (touches : Bool) {focused : SubagentManager} (hfocus : focused = if touches then
        onFirstTouch { s with uuids := s.uuids + 1, sessions := s.sessions.set child.id child }
      else { s with uuids := s.uuids + 1, sessions := s.sessions.set child.id child }) :
    RunInv env focused ∧ Keeps s focused ∧ focused.activeThreadCount < s.maxThreads ∧
      ∃ session, focused.sessions.get? child.id = some session ∧ session.status ≠ .running := by
  have hfresh : s.sessions.get? child.id = none := hid ▸ h.fresh
  have hregister := h.register hid hstatus hcontroller
  have hkeeps := Keeps.register hfresh
  have hact := register_activeThreadCount hfresh hstatus
  have hthere : (s.sessions.set child.id child).get? child.id = some child :=
    JsMap.get?_set_self _ _ _
  cases touches with
  | true =>
    rw [hfocus, if_pos rfl]
    obtain ⟨hinv, hkeep, hfree⟩ := hsafe _ hregister rfl hact rfl rfl
    obtain ⟨session, hsess, hcore⟩ := hkeep.sessions child.id child hthere
    refine ⟨hinv, hkeeps.trans hkeep, hfree, session, hsess, ?_⟩
    rw [show session.status = child.status from congrArg SessionCore.status hcore, hstatus]
    decide
  | false =>
    rw [hfocus, if_neg (by decide)]
    refine ⟨hregister, hkeeps, Nat.lt_of_le_of_lt (Nat.le_of_eq hact) hcap, child, hthere, ?_⟩
    rw [hstatus]
    decide

theorem startChild_spec (message : JsString) (answers : SpawnAnswers)
    (hsafe : TouchSafe env s onFirstTouch) (hcap : s.activeThreadCount < s.maxThreads) :
    RunInv env (startChild { s with uuids := s.uuids + 1 } child message answers onFirstTouch).2 ∧
    Keeps s (startChild { s with uuids := s.uuids + 1 } child message answers onFirstTouch).2 := by
  have hfresh : s.sessions.get? child.id = none := hid ▸ h.fresh
  have hroot : child.id ≠ rootId := hid ▸ agentId_ne_rootId env _
  unfold startChild
  simp only
  generalize hfocus : (if child.surfaceId.isSome then
      onFirstTouch { s with uuids := s.uuids + 1, sessions := s.sessions.set child.id child }
    else { s with uuids := s.uuids + 1, sessions := s.sessions.set child.id child }) = focused
  obtain ⟨hinv, hkeep, hfree, session, hsess, hidle⟩ := focus_spec h hid hstatus hcontroller
    hsafe hcap child.surfaceId.isSome hfocus.symm
  have hlaunch : RunInv env (focused.launch child message child.messages answers.launch).2 :=
    hinv.launch hsess hroot hidle (hkeep.maxThreads.symm ▸ hfree) message child.messages
      answers.launch
  have hlaunchedKeeps := hkeep.launch hfresh message child.messages answers.launch
  split
  · -- the focus has thrown: the child is removed again
    exact ⟨hinv.remove child.id (hinv.closed_of_idle hsess hidle), hkeep.remove hfresh⟩
  · split
    next error launched hfail =>
      have hthrew : answers.launch.error ≠ none := by
        have herror : answers.launch.error = some error := congrArg Prod.fst hfail
        exact herror ▸ Option.some_ne_none error
      obtain rfl : (focused.launch child message child.messages answers.launch).2 = launched :=
        congrArg Prod.snd hfail
      exact ⟨hlaunch.remove child.id (hinv.closed_of_throw hsess hidle hthrew),
        hlaunchedKeeps.remove hfresh⟩
    next launched hstart =>
      obtain rfl : (focused.launch child message child.messages answers.launch).2 = launched :=
        congrArg Prod.snd hstart
      exact ⟨hlaunch, hlaunchedKeeps⟩

end

theorem delete_activeThreadCount_le (s : SubagentManager) (id : JsString) :
    activeThreadCount { s with sessions := s.sessions.delete id } ≤ s.activeThreadCount := by
  show (s.sessions.delete id).values.countP _ ≤ s.sessions.values.countP _
  cases hget : s.sessions.get? id with
  | none => rw [JsMap.delete_of_none hget]
  | some session => rw [← JsMap.countP_values_delete _ hget]; exact Nat.le_add_right _ _

theorem launch_activeThreadCount_le (s : SubagentManager) (session : SubagentSession)
    (prompt : JsString) (inherited : List AgentMessage) (answers : LaunchAnswers) :
    (s.launch session prompt inherited answers).2.activeThreadCount ≤ s.activeThreadCount + 1 := by
  obtain ⟨f, run, hlaunch, -⟩ := launch_eq s session prompt inherited answers
  rw [hlaunch]
  show (s.sessions.modify session.id f).values.countP _ ≤ s.sessions.values.countP _ + 1
  cases hget : s.sessions.get? session.id with
  | none =>
    rw [JsMap.modify, hget]
    exact Nat.le_add_right _ _
  | some before =>
    have hcount := JsMap.countP_values_modify f isActive hget
    have hone : (if isActive (f before) = true then 1 else 0) ≤ 1 := by
      split <;> omega
    omega

/-- A child takes one slot at most, of those that its focus leaves. -/
theorem startChild_activeThreadCount_le {slots : Nat}
    (hreg : activeThreadCount { s with sessions := s.sessions.set child.id child } < slots)
    (hfocus : (onFirstTouch { s with sessions := s.sessions.set child.id child }).activeThreadCount
      < slots)
    (message : JsString) (answers : SpawnAnswers) :
    (s.startChild child message answers onFirstTouch).2.activeThreadCount ≤ slots := by
  unfold startChild
  simp only
  generalize ({ s with sessions := s.sessions.set child.id child } : SubagentManager) = registered
    at hreg hfocus ⊢
  have hcount : (if child.surfaceId.isSome then onFirstTouch registered else registered
      ).activeThreadCount < slots := by
    split
    · exact hfocus
    · exact hreg
  generalize (if child.surfaceId.isSome then onFirstTouch registered else registered) = focused
    at hcount
  have hlaunch : (focused.launch child message child.messages answers.launch).2.activeThreadCount
      ≤ slots :=
    Nat.le_trans (launch_activeThreadCount_le focused child message child.messages answers.launch)
      hcount
  split
  · exact Nat.le_trans (delete_activeThreadCount_le focused child.id) (Nat.le_of_lt hcount)
  · split
    next error launched hfail =>
      rw [hfail] at hlaunch
      exact Nat.le_trans (delete_activeThreadCount_le launched child.id) hlaunch
    next launched hstart =>
      rw [hstart] at hlaunch
      exact hlaunch

/-- What a spawn leaves before it starts its child, if it comes to that. -/
structure BeforeChild (s before : SubagentManager) : Prop where
  undisturbed : Undisturbed s before
  uuids : before.uuids = s.uuids
  stopped : before.stopped = s.stopped
  foundationScouts : before.foundationScouts = s.foundationScouts
  foundationQueue : before.foundationQueue = s.foundationQueue

/-- The ways a spawn ends: its checks, the choice of a route or the room fail, or it starts its
child. -/
inductive SpawnEnd (env : SubagentPlatform) (s : SubagentManager) (parentId : JsString)
    (kind : SubagentManager.SpawnKind) (input : Json) (answers : SpawnAnswers)
    (onFirstTouch : SubagentManager → SubagentManager) :
    Except JsString SubagentSession × SubagentManager → Prop
  | refused (error : JsString)
      (hrequest : (s.spawnContext parentId kind).2.2.spawnRequest env parentId input (kind = .track)
        answers.requireError = .error error) :
      SpawnEnd env s parentId kind input answers onFirstTouch
        (.error error, (s.spawnContext parentId kind).2.2)
  | unrouted (request : SpawnRequest) (error : JsString)
      (hrequest : (s.spawnContext parentId kind).2.2.spawnRequest env parentId input (kind = .track)
        answers.requireError = .ok request) :
      SpawnEnd env s parentId kind input answers onFirstTouch
        (.error error, (s.spawnContext parentId kind).2.2)
  | roomless (request : SpawnRequest) (preference : Option SubagentProviderPreference)
      (cursor : Nat) (error : JsString)
      (hrequest : (s.spawnContext parentId kind).2.2.spawnRequest env parentId input (kind = .track)
        answers.requireError = .ok request)
      (hroute : (s.spawnContext parentId kind).2.2.spawnPreference request
        (kind = .foundation || kind = .track) = .ok (preference, cursor)) :
      SpawnEnd env s parentId kind input answers onFirstTouch
        (.error error, { (s.spawnContext parentId kind).2.2 with providerPreferenceCursor := cursor })
  | started (request : SpawnRequest) (preference : Option SubagentProviderPreference)
      (cursor : Nat) (child : SubagentSession)
      (hrequest : (s.spawnContext parentId kind).2.2.spawnRequest env parentId input (kind = .track)
        answers.requireError = .ok request)
      (hroute : (s.spawnContext parentId kind).2.2.spawnPreference request
        (kind = .foundation || kind = .track) = .ok (preference, cursor))
      (hid : child.id = agentId env s.uuids) (hpath : child.path = request.path)
      (hparent : child.parentId = some parentId) (hdepth : child.depth = request.parent.depth + 1)
      (hstatus : child.status = .pending) (hcontroller : child.controller = none)
      (hmailbox : child.mailbox = []) :
      SpawnEnd env s parentId kind input answers onFirstTouch
        (SubagentManager.startChild { (s.spawnContext parentId kind).2.2 with
          providerPreferenceCursor := cursor
          uuids := s.uuids + 1 } child request.message answers onFirstTouch)

section

variable (s : SubagentManager) (parentId : JsString) (kind : SubagentManager.SpawnKind)

/-- A spawn takes at most the snapshot of its tool call first. -/
theorem spawnContext_before : BeforeChild s (s.spawnContext parentId kind).2.2 := by
  cases kind <;> exact ⟨.of_eq rfl rfl rfl (Nat.le_refl _), rfl, rfl, rfl, rfl⟩

theorem spawnContext_uuids : (s.spawnContext parentId kind).2.2.uuids = s.uuids :=
  (spawnContext_before s parentId kind).uuids

end

section

variable (env : SubagentPlatform) (s : SubagentManager) (parentId : JsString)
  (kind : SubagentManager.SpawnKind) (input : Json) (answers : SpawnAnswers)
  (onFirstTouch : SubagentManager → SubagentManager)

theorem spawn_end : SpawnEnd env s parentId kind input answers onFirstTouch
      (s.spawn env parentId kind input answers onFirstTouch) := by
  unfold spawn
  have huuids := spawnContext_uuids s parentId kind
  cases hrequest : (s.spawnContext parentId kind).2.2.spawnRequest env parentId input
      (kind = .track) answers.requireError with
  | error error =>
    simp only [hrequest]
    exact .refused error hrequest
  | ok request =>
    simp only [hrequest]
    cases hroute : (s.spawnContext parentId kind).2.2.spawnPreference request
        (kind = .foundation || kind = .track) with
    | error error => exact .unrouted request error hrequest
    | ok route =>
      obtain ⟨preference, cursor⟩ := route
      simp only
      split
      next error hroom => exact .roomless request preference cursor error hrequest hroute
      next room hroom =>
        rw [huuids]
        exact .started request preference cursor _ hrequest hroute rfl rfl rfl rfl rfl rfl rfl

theorem spawn_cases : ∃ before, BeforeChild s before ∧
      ((∃ error, s.spawn env parentId kind input answers onFirstTouch = (.error error, before)) ∨
        ∃ child message, child.id = agentId env s.uuids ∧ child.status = .pending ∧
          child.controller = none ∧ s.activeThreadCount < s.maxThreads ∧
          s.spawn env parentId kind input answers onFirstTouch
            = startChild { before with uuids := before.uuids + 1 } child message
              answers onFirstTouch) := by
  have htaken : ∀ cursor, BeforeChild s
      { (s.spawnContext parentId kind).2.2 with providerPreferenceCursor := cursor } := by
    intro cursor
    cases kind <;> exact ⟨.of_eq rfl rfl rfl (Nat.le_refl _), rfl, rfl, rfl, rfl⟩
  have hsame := spawnContext_before s parentId kind
  have hend := spawn_end env s parentId kind input answers onFirstTouch
  generalize s.spawn env parentId kind input answers onFirstTouch = result at hend
  cases hend with
  | refused error hrequest => exact ⟨_, hsame, Or.inl ⟨error, rfl⟩⟩
  | unrouted request error hrequest => exact ⟨_, hsame, Or.inl ⟨error, rfl⟩⟩
  | roomless request preference cursor error hrequest hroute =>
    exact ⟨_, htaken cursor, Or.inl ⟨error, rfl⟩⟩
  | started request preference cursor child hrequest hroute hid hpath hparent hdepth hstatus
      hcontroller hmailbox =>
    have hcap := spawnRequest_capacity hrequest
    rw [hsame.undisturbed.active, hsame.undisturbed.maxThreads] at hcap
    refine ⟨_, htaken cursor, Or.inr ⟨child, request.message, hid, hstatus, hcontroller, hcap, ?_⟩⟩
    rw [show ({ (s.spawnContext parentId kind).2.2 with providerPreferenceCursor := cursor } :
      SubagentManager).uuids = s.uuids from hsame.uuids]

end

/-- What a spawn keeps, and how many slots it takes. -/
structure SpawnSpec (env : SubagentPlatform) (s s' : SubagentManager) : Prop where
  inv : RunInv env s'
  keeps : Keeps s s'

theorem spawn_spec (h : RunInv env s) (parentId : JsString)
    (kind : SubagentManager.SpawnKind) (input : Json) (answers : SpawnAnswers)
    (hsafe : s.activeThreadCount < s.maxThreads → TouchSafe env s onFirstTouch) :
    SpawnSpec env s (s.spawn env parentId kind input answers onFirstTouch).2 := by
  obtain ⟨before, hbef, ⟨error, herror⟩ | ⟨child, message, hid, hstatus, hcontroller, hcap,
    hchild⟩⟩ := spawn_cases env s parentId kind input answers onFirstTouch
  · rw [herror]
    exact ⟨h.undisturbed hbef.undisturbed, .of_undisturbed hbef.undisturbed⟩
  · rw [hchild]
    have hinv := h.undisturbed hbef.undisturbed
    have hsafe' : TouchSafe env before onFirstTouch := by
      intro t ht hmax hact hstop hscouts
      rw [hbef.undisturbed.maxThreads]
      exact hsafe hcap t ht (hmax.trans hbef.undisturbed.maxThreads)
        (hact.trans hbef.undisturbed.active) (hstop.trans hbef.stopped)
        (hscouts.trans hbef.foundationScouts)
    have hfree : before.activeThreadCount < before.maxThreads := by
      rw [hbef.undisturbed.active, hbef.undisturbed.maxThreads]
      exact hcap
    obtain ⟨hres, hkeeps⟩ := startChild_spec hinv (hid.trans (by rw [hbef.uuids])) hstatus
      hcontroller message answers hsafe' hfree
    exact ⟨hres, (Keeps.of_undisturbed hbef.undisturbed).trans hkeeps⟩

/-- A spawn whose focus starts no scout takes one slot at most. -/
theorem spawn_activeThreadCount_le
    (hfresh : s.sessions.get? (agentId env s.uuids) = none) (parentId : JsString)
    (kind : SubagentManager.SpawnKind) (input : Json) (answers : SpawnAnswers) :
    (s.spawn env parentId kind input answers id).2.activeThreadCount ≤ s.activeThreadCount + 1 := by
  obtain ⟨before, hbef, ⟨error, herror⟩ | ⟨child, message, hid, hstatus, -, -, hchild⟩⟩ :=
    spawn_cases env s parentId kind input answers id
  · rw [herror, hbef.undisturbed.active]
    exact Nat.le_add_right _ _
  · have hnone : before.sessions.get? child.id = none := by
      have hcore := hbef.undisturbed.sessions child.id
      rw [hid, hfresh, Option.map_none, Option.map_eq_none_iff] at hcore
      rw [hid]
      exact hcore
    have hreg : activeThreadCount { before with
        uuids := before.uuids + 1
        sessions := before.sessions.set child.id child } < s.activeThreadCount + 1 := by
      rw [← hbef.undisturbed.active]
      exact Nat.lt_succ_of_le (Nat.le_of_eq (register_activeThreadCount hnone hstatus))
    rw [hchild]
    refine startChild_activeThreadCount_le ?_ ?_ message answers
    · exact hreg
    · exact hreg

/-! ## Foundation scouts -/

theorem touchSafe_id (hfree : s.activeThreadCount < s.maxThreads) : TouchSafe env s id :=
  fun t ht _ hact _ _ => ⟨ht, .of_undisturbed (.rfl t), hact ▸ hfree⟩

theorem spawnFoundationScout_of_known {surfaceId : JsString}
    (h : s.stopped = true ∨ s.foundationScouts.has surfaceId = true) (firstAgentId : JsString)
    (touch : FirstTouch) : (s.spawnFoundationScout env surfaceId firstAgentId touch).2 = s := by
  unfold spawnFoundationScout
  rcases h with hstop | hknown
  · rw [if_pos hstop]
  · obtain ⟨scout, hscout⟩ := Option.isSome_iff_exists.mp hknown
    rw [hscout]
    split <;> rfl

variable {s'' s' : SubagentManager}

theorem SpawnSpec.undisturbed (h : SpawnSpec env s s')
    (h' : Undisturbed s' s'') : SpawnSpec env s s'' :=
  ⟨h.inv.undisturbed h', h.keeps.trans (.of_undisturbed h')⟩

theorem SpawnSpec.after (h : Undisturbed s s') (h' : SpawnSpec env s' s'') : SpawnSpec env s s'' :=
  ⟨h'.inv, (Keeps.of_undisturbed h).trans h'.keeps⟩

theorem startFoundationScout_activeThreadCount_le
    (hfresh : s.sessions.get? (agentId env (s.uuids + 1)) = none) (surfaceId firstAgentId : JsString)
    (now : Nat) (answers : SpawnAnswers) :
    (s.startFoundationScout env surfaceId firstAgentId now answers).2.activeThreadCount
      ≤ s.activeThreadCount + 1 := by
  obtain ⟨scouts, scouts', told, htold, heq⟩ := startFoundationScout_eq env s surfaceId firstAgentId now answers
  have hspawn : (spawn env { s with foundationScouts := scouts, uuids := s.uuids + 1 } rootId .foundation
      (s.foundationInput env surfaceId) answers id).2.activeThreadCount ≤ s.activeThreadCount + 1 :=
    spawn_activeThreadCount_le hfresh rootId .foundation _ answers
  rw [heq]
  refine Nat.le_trans (Nat.le_of_eq ?_) hspawn
  rcases htold with rfl | ⟨messages, rfl⟩
  · rfl
  · exact ((pushMailbox_undisturbed _ rootId messages).trans (flushMailboxWaiter_undisturbed _ rootId)).active

theorem startFoundationScout_spec (h : RunInv env s)
    (hfree : s.activeThreadCount < s.maxThreads) (surfaceId firstAgentId : JsString) (now : Nat)
    (answers : SpawnAnswers) :
    SpawnSpec env s (s.startFoundationScout env surfaceId firstAgentId now answers).2 := by
  obtain ⟨scouts, scouts', told, htold, heq⟩ := startFoundationScout_eq env s surfaceId firstAgentId now answers
  have hcalm : Undisturbed s { s with foundationScouts := scouts, uuids := s.uuids + 1 } :=
    .of_eq rfl rfl rfl (Nat.le_succ _)
  have hspec := SpawnSpec.after hcalm (spawn_spec (h.undisturbed hcalm) rootId .foundation
    (s.foundationInput env surfaceId) answers fun _ => touchSafe_id hfree)
  have htells : SpawnSpec env s told := by
    rcases htold with rfl | ⟨messages, rfl⟩
    · exact hspec
    · exact hspec.undisturbed ((pushMailbox_undisturbed _ rootId messages).trans (flushMailboxWaiter_undisturbed _ rootId))
  rw [heq]
  exact htells.undisturbed (.of_eq rfl rfl rfl (Nat.le_refl _))

theorem hasThreadCapacity_iff :
    s.hasThreadCapacity = true ↔ s.activeThreadCount < s.maxThreads := by
  unfold hasThreadCapacity
  rw [decide_eq_true_iff]
  exact Nat.lt_iff_add_one_le.symm

theorem spawnFoundationScout_activeThreadCount_le
    (hfresh : s.sessions.get? (agentId env (s.uuids + 1)) = none) (surfaceId firstAgentId : JsString)
    (touch : FirstTouch) :
    (s.spawnFoundationScout env surfaceId firstAgentId touch).2.activeThreadCount
      ≤ s.activeThreadCount + 1 := by
  unfold spawnFoundationScout
  split
  · exact Nat.le_add_right _ _
  · split
    · exact Nat.le_add_right _ _
    · split
      · exact Nat.le_add_right _ _
      · exact startFoundationScout_activeThreadCount_le hfresh surfaceId firstAgentId touch.now
          touch.answers

theorem spawnFoundationScout_spec (h : RunInv env s)
    (surfaceId firstAgentId : JsString) (touch : FirstTouch) :
    SpawnSpec env s (s.spawnFoundationScout env surfaceId firstAgentId touch).2 := by
  have hsame : SpawnSpec env s s := ⟨h, .of_undisturbed (.rfl s)⟩
  unfold spawnFoundationScout
  split
  · exact hsame
  · split
    · exact hsame
    · split
      · exact hsame.undisturbed (.of_eq rfl rfl rfl (Nat.le_refl _))
      next hcap =>
        exact startFoundationScout_spec h (hasThreadCapacity_iff.mp (by simpa using hcap))
          surfaceId firstAgentId touch.now touch.answers

theorem drainRounds_spec (answers : Nat → FirstTouch) (fuel : Nat)
    (h : RunInv env s) : SpawnSpec env s (drainRounds env answers fuel s) := by
  refine drainRounds_invariant (P := SpawnSpec env s) answers
    (fun t rest surfaceId firstAgentId now spawning hcap ht => ?_)
    (fun t messages ht => ht.undisturbed (pushMailbox_undisturbed t rootId messages)) fuel ⟨h, .of_undisturbed (.rfl s)⟩
  have htaken : Undisturbed t { t with foundationQueue := rest } := .of_eq rfl rfl rfl (Nat.le_refl _)
  have hstart := SpawnSpec.after htaken (startFoundationScout_spec (ht.inv.undisturbed htaken)
    (hasThreadCapacity_iff.mp hcap) surfaceId firstAgentId now spawning)
  exact ⟨hstart.inv, ht.keeps.trans hstart.keeps⟩

theorem drainFoundationQueue_spec (answers : Nat → FirstTouch)
    (h : RunInv env s) : SpawnSpec env s (s.drainFoundationQueue env answers) := by
  unfold drainFoundationQueue
  split
  · exact ⟨h, .of_undisturbed (.rfl s)⟩
  · exact drainRounds_spec answers _ h

def SlotLeft (s : SubagentManager) (surfaceId : Option Json) (touch : Option FirstTouch) : Prop :=
  match touch, optionalString surfaceId with
  | some _, some surfaceId =>
    s.stopped = true ∨ s.foundationScouts.has surfaceId = true ∨
      s.activeThreadCount + 2 ≤ s.maxThreads
  | _, _ => True

instance (s : SubagentManager) (surfaceId : Option Json) (touch : Option FirstTouch) :
    Decidable (SlotLeft s surfaceId touch) := by
  unfold SlotLeft
  split <;> infer_instance

variable {touch : Option FirstTouch} {surfaceId : Option Json}

theorem focusSurface_slot {t : SubagentManager} (hslot : SlotLeft s surfaceId touch)
    (hfree : s.activeThreadCount < s.maxThreads) (hact : t.activeThreadCount = s.activeThreadCount)
    (hstopped : t.stopped = s.stopped) (hscouts : t.foundationScouts = s.foundationScouts)
    (hfresh : t.sessions.get? (agentId env (t.uuids + 1)) = none) (agentId : JsString) :
    (t.focusSurface env agentId surfaceId touch).activeThreadCount < s.maxThreads := by
  unfold focusSurface
  unfold SlotLeft at hslot
  split
  next touch surface hsurface =>
    rw [hsurface] at hslot
    have hcount := spawnFoundationScout_activeThreadCount_le hfresh surface agentId touch
    -- the scout is known, or starts and leaves a slot
    rcases hslot with hstop | hknown | hroom
    · rw [spawnFoundationScout_of_known (Or.inl (hstopped.trans hstop)) agentId touch]
      omega
    · rw [spawnFoundationScout_of_known (Or.inr (hscouts ▸ hknown)) agentId touch]
      omega
    · omega
  next => omega

theorem focusSurface_safe (hfree : s.activeThreadCount < s.maxThreads)
    (hslot : SlotLeft s surfaceId touch) (agentId : JsString) :
    TouchSafe env s fun t => t.focusSurface env agentId surfaceId touch := by
  intro t ht _ hact hstop hscouts
  have hdrawn : Undisturbed t { t with uuids := t.uuids + 1 } :=
    .of_eq rfl rfl rfl (Nat.le_succ _)
  have hleft := focusSurface_slot hslot hfree hact hstop hscouts
    (ht.undisturbed hdrawn).fresh agentId
  have hspec : SpawnSpec env t (t.focusSurface env agentId surfaceId touch) := by
    unfold focusSurface
    split
    · exact spawnFoundationScout_spec ht _ agentId _
    · exact ⟨ht, .of_undisturbed (.rfl t)⟩
  exact ⟨hspec.inv, hspec.keeps, hleft⟩

theorem spawnAgent_spec (h : RunInv env s) (parentId : JsString)
    (kind : SubagentManager.SpawnKind) (input : Json) (answers : SpawnAnswers)
    (touch : Option FirstTouch) (hslot : SlotLeft s (input.field? (js "surface_id")) touch) :
    SpawnSpec env s (s.spawnAgent env parentId kind input answers touch).2 :=
  spawn_spec h parentId kind input answers fun hfree => focusSurface_safe hfree hslot _

end Beale.Subagents
