import Beale.Library.Client
import Beale.Subagents.Settlement

/-!
# The limits of the agent tree

- `TreeInv`, `step_treeStep`: paths are unique, no session is too deep, and no session
  has too many children, whatever happens.
- `Undone`, `spawnAgent_undone`: what a spawn that fails leaves behind.
- `reached_treeLimits`: all of it, in every reachable state.
-/

namespace Beale.Subagents

open Beale.Library
open SubagentManager

variable {env : SubagentPlatform}

/-! ## Places -/

/-- Where a session stands in the tree. -/
structure SessionPlace where
  path : JsString
  parentId : Option JsString
  depth : Nat

def SubagentSession.place (session : SubagentSession) : SessionPlace where
  path := session.path
  parentId := session.parentId
  depth := session.depth

def SubagentManager.places (s : SubagentManager) : List SessionPlace :=
  s.sessions.values.map (·.place)

def SubagentManager.limits (s : SubagentManager) : Nat × Nat × Option Nat :=
  (s.maxThreads, s.maxDepth, s.maxChildrenPerNonRootAgent)

/-- Paths are unique, no session is deeper than the limit, and no session but the lead agent has
more children than the limit. -/
structure TreeLimits (s : SubagentManager) : Prop where
  paths : (s.places.map (·.path)).Nodup
  depth : ∀ place ∈ s.places, place.depth ≤ s.maxDepth
  children : ∀ parentId limit, parentId ≠ rootId → s.maxChildrenPerNonRootAgent = some limit →
    s.places.countP (fun place => place.parentId = some parentId) ≤ limit

/-- The limits, and ids that come from the UUIDs drawn so far. -/
structure TreeInv (env : SubagentPlatform) (s : SubagentManager) : Prop extends TreeLimits s where
  ids : ∀ id ∈ s.sessions.keys, id = rootId ∨ ∃ n, n < s.uuids ∧ id = agentId env n

/-- No session has moved, come or gone. -/
structure SameTree (s s' : SubagentManager) : Prop where
  limits : s'.limits = s.limits
  keys : s'.sessions.keys = s.sessions.keys
  places : s'.places = s.places
  uuids : s.uuids ≤ s'.uuids

namespace SameTree

variable {s s' s'' : SubagentManager}

theorem rfl (s : SubagentManager) : SameTree s s :=
  ⟨Eq.refl _, Eq.refl _, Eq.refl _, Nat.le_refl _⟩

theorem trans (h : SameTree s s') (h' : SameTree s' s'') : SameTree s s'' :=
  ⟨h'.limits.trans h.limits, h'.keys.trans h.keys, h'.places.trans h.places,
    Nat.le_trans h.uuids h'.uuids⟩

/-- Only what lies outside the sessions has changed. -/
theorem of_eq (hlimits : s'.limits = s.limits) (hsesss : s'.sessions = s.sessions)
    (huuids : s.uuids ≤ s'.uuids) : SameTree s s' :=
  ⟨hlimits, congrArg JsMap.keys hsesss,
    congrArg (fun sessions => sessions.values.map SubagentSession.place) hsesss, huuids⟩

theorem modifySession (s : SubagentManager) (id : JsString) {f : SubagentSession → SubagentSession}
    (hf : ∀ session, (f session).place = session.place) : SameTree s (s.modifySession id f) :=
  ⟨Eq.refl _, JsMap.keys_modify _ id f, JsMap.map_values_modify _ id hf, Nat.le_refl _⟩

theorem treeInv (h : SameTree s s') (hs : TreeInv env s) : TreeInv env s' := by
  obtain ⟨hthreads, hlimits⟩ := Prod.ext_iff.mp h.limits
  obtain ⟨hdepth, hkids⟩ := Prod.ext_iff.mp hlimits
  refine ⟨⟨?_, ?_, ?_⟩, ?_⟩
  · rw [h.places]
    exact hs.paths
  · intro place hplace
    rw [h.places] at hplace
    exact Nat.le_trans (hs.depth place hplace) (Nat.le_of_eq hdepth.symm)
  · intro parentId limit hroot hlimit
    rw [h.places]
    exact hs.children parentId limit hroot (hkids.symm.trans hlimit)
  · intro id hid
    rw [h.keys] at hid
    exact (hs.ids id hid).imp_right fun ⟨n, hn, heq⟩ => ⟨n, Nat.lt_of_lt_of_le hn h.uuids, heq⟩

end SameTree

variable {s : SubagentManager} {s' : SubagentManager}

theorem TreeInv.outside (h : TreeInv env s) (hlimits : s'.limits = s.limits)
    (hsesss : s'.sessions = s.sessions) (huuids : s.uuids ≤ s'.uuids) : TreeInv env s' :=
  (SameTree.of_eq hlimits hsesss huuids).treeInv h

/-- The operation keeps the limits, and what they bound. -/
structure TreeStep (env : SubagentPlatform) (s s' : SubagentManager) : Prop where
  limits : s'.limits = s.limits
  inv : TreeInv env s → TreeInv env s'

namespace TreeStep

variable {s s' s'' : SubagentManager}

theorem of_same (h : SameTree s s') : TreeStep env s s' :=
  ⟨h.limits, h.treeInv⟩

theorem rfl (s : SubagentManager) : TreeStep env s s :=
  .of_same (.rfl s)

theorem trans (h : TreeStep env s s') (h' : TreeStep env s' s'') : TreeStep env s s'' :=
  ⟨h'.limits.trans h.limits, fun hs => h'.inv (h.inv hs)⟩

theorem same (h : TreeStep env s s') (h' : SameTree s' s'') : TreeStep env s s'' :=
  h.trans (.of_same h')

theorem remove (s : SubagentManager) (id : JsString) :
    TreeStep env s { s with sessions := s.sessions.delete id } := by
  have hplaces : ((s.sessions.delete id).values.map SubagentSession.place).Sublist s.places :=
    (JsMap.values_delete_sublist s.sessions id).map _
  refine ⟨Eq.refl _, fun hs => ⟨⟨?_, ?_, ?_⟩, ?_⟩⟩
  · exact hs.paths.sublist (hplaces.map _)
  · exact fun place hplace => hs.depth place (hplaces.subset hplace)
  · intro parentId limit hroot hlimit
    exact Nat.le_trans hplaces.countP_le (hs.children parentId limit hroot hlimit)
  · exact fun id' hid => hs.ids id' ((JsMap.keys_delete_sublist s.sessions id).subset hid)

end TreeStep

/-! ## What moves no session -/

section

variable (s : SubagentManager)

theorem pushMailbox_sameTree (id : JsString) (messages : List AgentMessage) :
    SameTree s (s.pushMailbox id messages) := by
  have hmod : SameTree s (s.modifySession id fun session =>
      { session with mailbox := session.mailbox ++ messages }) :=
    .modifySession s id fun _ => rfl
  exact hmod.trans (.of_eq rfl rfl (Nat.le_refl _))

theorem takeMailbox_sameTree (id : JsString) : SameTree s (s.takeMailbox id) := by
  unfold takeMailbox
  split
  · exact .rfl s
  · refine (SameTree.modifySession s id (f := fun session => { session with mailbox := [] })
      fun _ => rfl).trans (.of_eq rfl rfl (Nat.le_refl _))

theorem flushMailboxWaiter_sameTree (id : JsString) : SameTree s (s.flushMailboxWaiter id) := by
  unfold flushMailboxWaiter
  split
  · split
    · exact .rfl s
    · refine SameTree.trans ?_ (takeMailbox_sameTree _ id)
      exact .of_eq rfl rfl (Nat.le_refl _)
  · exact .rfl s

theorem waitForMailbox_sameTree (id : JsString) (signal : Option WaitSignal)
    (aborted : Bool) : SameTree s (s.waitForMailbox id signal aborted) := by
  unfold waitForMailbox
  split
  · exact .rfl s
  · split
    · exact takeMailbox_sameTree s id
    · split
      · exact .rfl s
      · split
        · exact .rfl s
        · exact .of_eq rfl rfl (Nat.le_refl _)

theorem enqueueParentNotification_sameTree (session : SubagentSession)
    (text : JsString) (now : Nat) : SameTree s (s.enqueueParentNotification session text now) := by
  unfold enqueueParentNotification
  split
  · exact pushMailbox_sameTree s _ _
  · exact .rfl s

theorem broadcastHostSteering_sameTree (messages : List AgentMessage) :
    SameTree s (s.broadcastHostSteering messages) := by
  unfold broadcastHostSteering
  split
  · exact .rfl s
  · generalize s.sessions.values.filter isLive = sessions
    induction sessions generalizing s with
    | nil => exact .rfl s
    | cons session rest ih =>
      exact ((pushMailbox_sameTree s session.id messages).trans
        (flushMailboxWaiter_sameTree _ session.id)).trans (ih _)

theorem launch_sameTree (session : SubagentSession) (prompt : JsString)
    (inherited : List AgentMessage) (answers : LaunchAnswers) :
    SameTree s (s.launch session prompt inherited answers).2 :=
  ⟨rfl, JsMap.keys_modify _ session.id _, JsMap.map_values_modify _ session.id fun _ => rfl,
    Nat.le_refl _⟩

theorem haltSession_sameTree (session : SubagentSession) : SameTree s (s.haltSession session) := by
  have hhalted : SameTree s (s.modifySession session.id fun session =>
      { session with status := .interrupted }) :=
    .modifySession s session.id fun _ => rfl
  unfold haltSession
  split
  · exact hhalted.trans (.of_eq rfl rfl (Nat.le_refl _))
  · exact hhalted

theorem runHandler_sameTree (number now : Nat) : SameTree s (s.runHandler number now) := by
  unfold runHandler
  split
  · exact .rfl s
  next run hrun =>
    have hmarked : SameTree s (s.modifyRun number fun run => { run with phase := .handled }) :=
      .of_eq rfl rfl (Nat.le_refl _)
    split
    next result session _ _ =>
      refine hmarked.trans ?_
      unfold completeRun
      split
      · exact .rfl _
      · refine SameTree.trans ?_ (enqueueParentNotification_sameTree _ session _ now)
        exact .modifySession _ session.id fun _ => rfl
    next message session _ _ =>
      refine hmarked.trans ?_
      unfold failRun
      split
      · exact .rfl _
      · refine SameTree.trans ?_ (enqueueParentNotification_sameTree _ session _ now)
        exact .modifySession _ session.id fun _ => rfl
    next => exact hmarked
    next => exact .rfl s

theorem interrupt_sameTree (authorId : JsString) (input : Json) (now : Nat) :
    SameTree s (s.interrupt authorId input now).2 := by
  unfold interrupt
  simp only
  split
  · exact .rfl s
  next target _ =>
    split
    · refine ((haltSession_sameTree s target).trans ?_).trans
        (enqueueParentNotification_sameTree _ target _ now)
      exact .of_eq rfl rfl (Nat.le_refl _)
    · exact .rfl s

end

theorem haltAll_sameTree (targets : List SubagentSession) (s : SubagentManager) :
    SameTree s (targets.foldl haltSession s) := by
  induction targets generalizing s with
  | nil => exact .rfl s
  | cons target rest ih => exact (haltSession_sameTree s target).trans (ih _)

theorem interruptAll_sameTree (s : SubagentManager) : SameTree s s.interruptAll := by
  have hcleared : SameTree s { s with
      stopped := true
      foundationQueue := []
      foundationScouts := .empty
      contextSnapshots := .empty } :=
    .of_eq rfl rfl (Nat.le_refl _)
  exact hcleared.trans (haltAll_sameTree _ _)

theorem sendMessage_sameTree (s : SubagentManager) (authorId : JsString) (input : Json)
    (triggerTurn : Bool) (answers : LaunchAnswers) (now : Nat) :
    SameTree s (s.sendMessage authorId input triggerTurn answers now).2 := by
  unfold sendMessage
  simp only
  split
  · exact .rfl s
  next author target message _ =>
    have hlaunch := launch_sameTree s target message target.messages answers
    split
    · split
      · exact .rfl s
      · split
        next heq => exact (congrArg Prod.snd heq : _ = _) ▸ hlaunch
        next heq => exact (congrArg Prod.snd heq : _ = _) ▸ hlaunch
    · exact (pushMailbox_sameTree s target.id _).trans (flushMailboxWaiter_sameTree _ target.id)

/-! ## Spawning -/

/-- What the checks of a spawn have found. -/
structure RequestChecked (s : SubagentManager) (parentId : JsString) (input : Json)
    (request : SpawnRequest) : Prop where
  parent : s.sessions.get? parentId = some request.parent
  depth : request.parent.depth < s.maxDepth
  path : ∀ session ∈ s.sessions.values, session.path ≠ request.path
  children : s.hasReachedChildLimit parentId = false
  provider : request.provider = optionalString (input.field? (js "provider"))
  model : request.model = optionalString (input.field? (js "model"))

theorem ensureSession_ok {id : JsString} {session : SubagentSession}
    (h : s.ensureSession id = .ok session) : s.sessions.get? id = some session := by
  unfold ensureSession at h
  split at h
  next found hget => rw [hget, Except.ok.inj h]
  next => cases h

variable {parentId : JsString} {request : SpawnRequest}

theorem spawnRequest_checked {input : Json} {track : Bool} {requireError : Option JsString}
    (h : s.spawnRequest env parentId input track requireError = .ok request) :
    RequestChecked s parentId input request := by
  unfold spawnRequest at h
  obtain ⟨parent, hpar, h⟩ := Client.exceptBind_ok.mp h
  obtain ⟨hdepth, h⟩ := Client.exceptGuard_ok.mp h
  obtain ⟨taskName, -, h⟩ := Client.exceptBind_ok.mp h
  obtain ⟨-, h⟩ := Client.exceptGuard_ok.mp h
  obtain ⟨hpath, h⟩ := Client.exceptGuard_ok.mp h
  obtain ⟨hkids, h⟩ := Client.exceptGuard_ok.mp h
  obtain ⟨-, h⟩ := Client.exceptGuard_ok.mp h
  obtain ⟨message, -, h⟩ := Client.exceptBind_ok.mp h
  -- what follows does not look at the tree
  have hlast : ∃ surfaceId forkTurns requestedRole delegationRole, request = {
      parent, taskName, path := parent.path ++ js "/" ++ taskName, message, surfaceId, forkTurns
      provider := optionalString (input.field? (js "provider"))
      model := optionalString (input.field? (js "model"))
      reasoning := optionalReasoning (input.field? (js "reasoning_effort"))
      requestedRole, delegationRole } := by
    obtain ⟨surfaceId, h⟩ := Client.exceptChoice_ok h
    cases surfaceId <;> cases requireError
    case some.some => cases h
    all_goals
      obtain ⟨forkTurns, -, h⟩ := Client.exceptBind_ok.mp h
      obtain ⟨delegationRole, h⟩ := Client.exceptEither_ok h
      obtain ⟨-, h⟩ := Client.exceptGuard_ok.mp h
      exact ⟨_, _, _, _, (Except.ok.inj h).symm⟩
  obtain ⟨surfaceId, forkTurns, requestedRole, delegationRole, rfl⟩ := hlast
  refine ⟨ensureSession_ok hpar, Nat.lt_of_not_le hdepth, ?_, by simpa using hkids, rfl, rfl⟩
  simpa using hpath

/-- A UUID that has not been drawn yet makes a new id. -/
theorem TreeInv.unused (h : TreeInv env s) {n : Nat} (hn : s.uuids ≤ n) :
    s.sessions.get? (agentId env n) = none := by
  rw [JsMap.get?_eq_none]
  intro hmem
  rcases h.ids _ hmem with hroot | ⟨m, hm, hid⟩
  · exact agentId_ne_rootId env _ hroot
  · have hsame := agentId_injective env hid
    omega

theorem TreeInv.register {t : SubagentManager} (h : TreeInv env s) {child : SubagentSession}
    (hid : child.id = agentId env s.uuids)
    (hpath : ∀ session ∈ s.sessions.values, session.path ≠ child.path)
    (hpar : child.parentId = some parentId) (hdepth : child.depth ≤ s.maxDepth)
    (hkids : s.hasReachedChildLimit parentId = false) (hlimits : t.limits = s.limits)
    (huuids : t.uuids = s.uuids + 1) (hsesss : t.sessions = s.sessions.set child.id child) :
    TreeInv env t := by
  have hfresh : s.sessions.get? child.id = none := hid ▸ h.unused (Nat.le_refl _)
  have hplaces : t.places = s.places ++ [child.place] := by
    rw [places, hsesss, JsMap.values_set_new _ hfresh, List.map_append, List.map_singleton]
    rfl
  obtain ⟨hthreads, hlimits⟩ := Prod.ext_iff.mp hlimits
  obtain ⟨hmaxDepth, hmaxChildren⟩ := Prod.ext_iff.mp hlimits
  refine ⟨⟨?_, ?_, ?_⟩, ?_⟩
  · rw [hplaces, List.map_append, List.map_singleton]
    refine List.nodup_append.mpr ⟨h.paths, List.nodup_singleton _, ?_⟩
    rintro path hold path' hnew rfl
    rw [List.mem_singleton] at hnew
    obtain ⟨place, hplace, hsame⟩ := List.mem_map.mp hold
    obtain ⟨session, hsess, rfl⟩ := List.mem_map.mp hplace
    exact hpath session hsess (hsame.trans hnew)
  · intro place hplace
    rw [hplaces, List.mem_append, List.mem_singleton] at hplace
    show place.depth ≤ t.maxDepth
    rw [show t.maxDepth = s.maxDepth from hmaxDepth]
    rcases hplace with hold | rfl
    · exact h.depth place hold
    · exact hdepth
  · intro otherId limit hroot hlimit
    have hlimit : s.maxChildrenPerNonRootAgent = some limit := hmaxChildren.symm.trans hlimit
    rw [hplaces, List.countP_append, List.countP_singleton]
    have hold := h.children otherId limit hroot hlimit
    by_cases hsame : parentId = otherId
    · -- the parent's limit was not reached
      subst hsame
      unfold hasReachedChildLimit at hkids
      rw [decide_eq_true hroot, hlimit] at hkids
      have hroom : s.sessions.values.countP (fun session => session.parentId = some parentId)
          < limit := by simpa using hkids
      have hcount : s.places.countP (fun place => place.parentId = some parentId)
          = s.sessions.values.countP (fun session => session.parentId = some parentId) :=
        List.countP_map
      split <;> omega
    · rw [if_neg]
      · exact hold
      · simp [SubagentSession.place, hpar, hsame]
  · intro id hmem
    rw [hsesss, JsMap.keys_set_new _ hfresh, List.mem_append, List.mem_singleton] at hmem
    rw [huuids]
    rcases hmem with hold | rfl
    · refine (h.ids id hold).imp_right fun ⟨n, hn, heq⟩ => ⟨n, ?_, heq⟩
      omega
    · exact Or.inr ⟨s.uuids, Nat.lt_succ_self _, hid⟩

variable {onFirstTouch : SubagentManager → SubagentManager}

theorem startChild_treeStep (s : SubagentManager) (child : SubagentSession) (message : JsString)
    (answers : SpawnAnswers)
    (htouch : ∀ t, TreeStep env t (onFirstTouch t)) :
    TreeStep env { s with sessions := s.sessions.set child.id child }
      (s.startChild child message answers onFirstTouch).2 := by
  unfold startChild
  simp only
  generalize hreg : ({ s with sessions := s.sessions.set child.id child } : SubagentManager)
    = registered
  have hfocus : TreeStep env registered
      (if child.surfaceId.isSome then onFirstTouch registered else registered) := by
    split
    · exact htouch registered
    · exact .rfl registered
  generalize (if child.surfaceId.isSome then onFirstTouch registered else registered) = focused
    at hfocus
  have hlaunch := hfocus.same (launch_sameTree focused child message child.messages answers.launch)
  split
  · exact hfocus.trans (.remove focused child.id)
  · split
    next error launched hfail =>
      rw [hfail] at hlaunch
      exact hlaunch.trans (.remove launched child.id)
    next launched hstart =>
      rw [hstart] at hlaunch
      exact hlaunch

section

variable (s : SubagentManager) (parentId : JsString) (kind : SubagentManager.SpawnKind)

theorem spawnContext_sameTree : SameTree s (s.spawnContext parentId kind).2.2 := by
  cases kind <;> exact .of_eq rfl rfl (Nat.le_refl _)

theorem spawn_treeStep (input : Json) (answers : SpawnAnswers)
    (htouch : ∀ t, TreeStep env t (onFirstTouch t)) :
    TreeStep env s (s.spawn env parentId kind input answers onFirstTouch).2 := by
  have hend := spawn_end env s parentId kind input answers onFirstTouch
  have hsame := spawnContext_sameTree s parentId kind
  have huuids := spawnContext_uuids s parentId kind
  generalize s.spawn env parentId kind input answers onFirstTouch = result at hend
  cases hend with
  | refused error hreq => exact .of_same hsame
  | unrouted request error hreq => exact .of_same hsame
  | roomless request preference cursor error hreq hroute =>
    exact .of_same (hsame.trans (.of_eq rfl rfl (Nat.le_refl _)))
  | started request preference cursor child hreq hroute hid hpath hpar hdepth hst hctl hmailbox =>
    generalize (s.spawnContext parentId kind).2.2 = taken at hsame huuids hreq hroute ⊢
    have hcheck := spawnRequest_checked hreq
    have hstart := startChild_treeStep
      { taken with providerPreferenceCursor := cursor, uuids := s.uuids + 1 } child request.message
      answers htouch
    refine ⟨hstart.limits.trans hsame.limits, fun hs => hstart.inv ?_⟩
    refine TreeInv.register (hsame.treeInv hs) (by rw [hid, huuids]) ?_ hpar ?_
      hcheck.children rfl (by rw [huuids]) rfl
    · intro session hsess
      rw [hpath]
      exact hcheck.path session hsess
    · rw [hdepth]
      exact hcheck.depth

end

/-! ## Scouts and track workers -/

section

variable (s : SubagentManager)

theorem startFoundationScout_treeStep (surfaceId firstAgentId : JsString)
    (now : Nat) (answers : SpawnAnswers) :
    TreeStep env s (s.startFoundationScout env surfaceId firstAgentId now answers).2 := by
  obtain ⟨scouts, scouts', told, htold, heq⟩ := startFoundationScout_eq env s surfaceId firstAgentId now answers
  have hdrawn : SameTree s { s with foundationScouts := scouts, uuids := s.uuids + 1 } := .of_eq rfl rfl (Nat.le_succ _)
  have hspawn : TreeStep env s (spawn env _ rootId .foundation (s.foundationInput env surfaceId) answers id).2 :=
    (TreeStep.of_same hdrawn).trans (spawn_treeStep _ rootId .foundation _ answers (.rfl ·))
  have htells : TreeStep env s told := by
    rcases htold with rfl | ⟨messages, rfl⟩
    · exact hspawn
    · exact hspawn.same ((pushMailbox_sameTree _ rootId messages).trans (flushMailboxWaiter_sameTree _ rootId))
  rw [heq]
  exact htells.same (.of_eq rfl rfl (Nat.le_refl _))

theorem spawnFoundationScout_treeStep (surfaceId firstAgentId : JsString) (touch : FirstTouch) :
    TreeStep env s (s.spawnFoundationScout env surfaceId firstAgentId touch).2 := by
  unfold spawnFoundationScout
  split
  · exact .rfl s
  · split
    · exact .rfl s
    · split
      · exact .of_same (.of_eq rfl rfl (Nat.le_refl _))
      · exact startFoundationScout_treeStep s surfaceId firstAgentId touch.now touch.answers

theorem focusSurface_treeStep (agentId : JsString) (surfaceId : Option Json)
    (touch : Option FirstTouch) : TreeStep env s (s.focusSurface env agentId surfaceId touch) := by
  unfold focusSurface
  split
  · exact spawnFoundationScout_treeStep s _ agentId _
  · exact .rfl s

theorem spawnAgent_treeStep (parentId : JsString)
    (kind : SubagentManager.SpawnKind) (input : Json) (answers : SpawnAnswers)
    (touch : Option FirstTouch) :
    TreeStep env s (s.spawnAgent env parentId kind input answers touch).2 :=
  spawn_treeStep s parentId kind input answers fun t => focusSurface_treeStep t _ _ touch

theorem spawnTrackWorker_treeStep (assignment : TrackWorkerAssignment)
    (answers : SpawnAnswers) (touch : Option FirstTouch) :
    TreeStep env s (s.spawnTrackWorker env assignment answers touch).2 := by
  unfold spawnTrackWorker
  split
  · exact .rfl s
  · split
    · exact .rfl s
    next role _ =>
      have hdrawn : SameTree s { s with uuids := s.uuids + 1 } :=
        .of_eq rfl rfl (Nat.le_succ _)
      exact (TreeStep.of_same hdrawn).trans (spawnAgent_treeStep _ rootId .track _ answers touch)

end

theorem drainRounds_treeStep (answers : Nat → FirstTouch) (fuel : Nat) (s : SubagentManager) :
    TreeStep env s (drainRounds env answers fuel s) := by
  refine drainRounds_invariant (P := TreeStep env s) answers (fun t rest surfaceId firstAgentId now spawning _ h => ?_)
    (fun t messages h => h.same (pushMailbox_sameTree t rootId messages)) fuel (.rfl s)
  have htaken : SameTree t { t with foundationQueue := rest } := .of_eq rfl rfl (Nat.le_refl _)
  exact (h.same htaken).trans (startFoundationScout_treeStep _ _ _ _ _)

theorem drainFoundationQueue_treeStep (s : SubagentManager) (answers : Nat → FirstTouch) :
    TreeStep env s (s.drainFoundationQueue env answers) := by
  unfold drainFoundationQueue
  split
  · exact .rfl s
  · exact drainRounds_treeStep answers _ s

theorem runFinally_treeStep (s : SubagentManager) (number : Nat) (answers : Nat → FirstTouch) :
    TreeStep env s (s.runFinally env number answers) := by
  unfold runFinally
  split
  · exact .rfl s
  next run hrun =>
    split
    next session hphase hget =>
      simp only
      have hrel : SameTree s (((s.modifyRun number fun run => { run with phase := .finished }
          ).releaseContextsForAgent session.id).modifySession session.id fun session =>
            { session with
              promise := if session.promise = some number then none else session.promise }) := by
        refine SameTree.trans ?_ (.modifySession _ session.id fun _ => rfl)
        exact .of_eq rfl rfl (Nat.le_refl _)
      split
      · refine TreeStep.trans (.of_same (hrel.trans ?_)) (drainFoundationQueue_treeStep _ answers)
        exact .of_eq rfl rfl (Nat.le_refl _)
      · exact TreeStep.trans (.of_same hrel) (drainFoundationQueue_treeStep _ answers)
    next => exact .rfl s

/-! ## Every step -/

theorem step_treeStep (s : SubagentManager) (i : ManagerInput) : TreeStep env s (step env s i) := by
  cases i with
  | captureContext agentId toolCallId messages =>
    refine .of_same ?_
    show SameTree s (s.captureContext agentId toolCallId messages)
    unfold SubagentManager.captureContext
    split
    · exact .of_eq rfl rfl (Nat.le_refl _)
    · exact .rfl s
  | releaseContext | settle | abortWaits => exact .of_same (.of_eq rfl rfl (Nat.le_refl _))
  | spawnAgent parentId toolCallId input answers touch =>
    exact spawnAgent_treeStep s parentId (.tool toolCallId) input answers touch
  | spawnTrackWorker assignment answers touch =>
    exact spawnTrackWorker_treeStep s assignment answers touch
  | firstTouch surfaceId firstAgentId touch =>
    exact spawnFoundationScout_treeStep s surfaceId firstAgentId touch
  | sendMessage authorId input triggerTurn answers now =>
    exact .of_same (sendMessage_sameTree s authorId input triggerTurn answers now)
  | interrupt authorId input now => exact .of_same (interrupt_sameTree s authorId input now)
  | interruptAll => exact .of_same (interruptAll_sameTree s)
  | handler number now => exact .of_same (runHandler_sameTree s number now)
  | finalizer number answers => exact runFinally_treeStep s number answers
  | drain answers => exact drainFoundationQueue_treeStep s answers
  | takeMailbox agentId => exact .of_same (takeMailbox_sameTree s agentId)
  | waitForMailbox agentId signal aborted =>
    exact .of_same (waitForMailbox_sameTree s agentId signal aborted)
  | broadcastHostSteering messages => exact .of_same (broadcastHostSteering_sameTree s messages)

theorem new_treeInv (env : SubagentPlatform) (options : CreateSubagentManagerOptions) :
    TreeInv env (new options) := by
  have hplaces : (new options).places = [(rootSession options).place] := rfl
  refine ⟨⟨?_, ?_, ?_⟩, ?_⟩
  · rw [hplaces]
    exact List.nodup_singleton _
  · intro place hplace
    rw [hplaces, List.mem_singleton] at hplace
    rw [hplace]
    exact Nat.zero_le _
  · intro parentId limit _ _
    rw [hplaces]
    exact Nat.zero_le _
  · intro id hid
    exact Or.inl (List.mem_singleton.mp hid)

/-! ## Running sessions -/

/-- The first touch of a spawn finds the scout, or leaves a slot for the child. -/
def LeavesSlot (s : SubagentManager) : ManagerInput → Prop
  | .spawnAgent _ _ input _ touch => SlotLeft s (input.field? (js "surface_id")) touch
  | .spawnTrackWorker assignment _ touch => SlotLeft s (assignment.surfaceId.map Json.str) touch
  | _ => True

instance (s : SubagentManager) (i : ManagerInput) : Decidable (LeavesSlot s i) := by
  rcases i with _ | _ <;> (dsimp only [LeavesSlot]; infer_instance)

theorem haltSession_activeThreadCount_le (s : SubagentManager) (session : SubagentSession) :
    (s.haltSession session).activeThreadCount ≤ s.activeThreadCount := by
  have hhalted : (s.modifySession session.id fun session =>
      { session with status := .interrupted }).activeThreadCount ≤ s.activeThreadCount :=
    modifySession_activeThreadCount_le s session.id fun _ hact =>
      absurd hact (by simp [isActive])
  unfold haltSession
  split
  · exact hhalted
  · exact hhalted

theorem haltAll_activeThreadCount_le (targets : List SubagentSession) (s : SubagentManager) :
    (targets.foldl haltSession s).activeThreadCount ≤ s.activeThreadCount := by
  induction targets generalizing s with
  | nil => exact Nat.le_refl _
  | cons target rest ih => exact Nat.le_trans (ih _) (haltSession_activeThreadCount_le s target)

theorem interrupt_activeThreadCount_le (s : SubagentManager) (authorId : JsString) (input : Json)
    (now : Nat) : (s.interrupt authorId input now).2.activeThreadCount ≤ s.activeThreadCount := by
  unfold interrupt
  simp only
  split
  · exact Nat.le_refl _
  next target _ =>
    split
    · rw [(enqueueParentNotification_undisturbed _ target _ now).active]
      exact haltSession_activeThreadCount_le s target
    · exact Nat.le_refl _

theorem runHandler_activeThreadCount_le (s : SubagentManager) (number now : Nat) :
    (s.runHandler number now).activeThreadCount ≤ s.activeThreadCount := by
  unfold runHandler
  split
  · exact Nat.le_refl _
  · split
    next result session _ _ =>
      unfold completeRun
      split
      · exact Nat.le_refl _
      · rw [(enqueueParentNotification_undisturbed _ session _ now).active]
        exact modifySession_activeThreadCount_le _ session.id fun _ hact =>
          absurd hact (by simp [isActive])
    next message session _ _ =>
      unfold failRun
      split
      · exact Nat.le_refl _
      · rw [(enqueueParentNotification_undisturbed _ session _ now).active]
        exact modifySession_activeThreadCount_le _ session.id fun _ hact =>
          absurd hact (by simp [isActive])
    next => exact Nat.le_refl _
    next => exact Nat.le_refl _

theorem sendMessage_bounded (hbound : s.activeThreadCount ≤ s.maxThreads)
    (authorId : JsString) (input : Json) (triggerTurn : Bool) (answers : LaunchAnswers) (now : Nat) :
    (s.sendMessage authorId input triggerTurn answers now).2.activeThreadCount ≤ s.maxThreads := by
  unfold sendMessage
  simp only
  split
  · exact hbound
  next author target message _ =>
    split
    · split
      · exact hbound
      next hcap =>
        have hfree := hasThreadCapacity_iff.mp (by simpa using hcap)
        have hlaunch := launch_activeThreadCount_le s target message target.messages answers
        split
        next heq =>
          rw [heq] at hlaunch
          exact Nat.le_trans hlaunch hfree
        next heq =>
          rw [heq] at hlaunch
          exact Nat.le_trans hlaunch hfree
    · have hsent := (pushMailbox_undisturbed s target.id
        (agentMessages author.path author.model message now)).trans
          (flushMailboxWaiter_undisturbed _ target.id)
      rw [hsent.active]
      exact hbound

variable {touch : Option FirstTouch}

theorem spawnAgent_bounded (h : TreeInv env s)
    (hbound : s.activeThreadCount ≤ s.maxThreads) (parentId : JsString)
    (kind : SubagentManager.SpawnKind) (input : Json) (answers : SpawnAnswers)
    (hslot : SlotLeft s (input.field? (js "surface_id")) touch) :
    (s.spawnAgent env parentId kind input answers touch).2.activeThreadCount ≤ s.maxThreads := by
  have hend := spawn_end env s parentId kind input answers fun registered =>
    registered.focusSurface env (agentId env s.uuids) (input.field? (js "surface_id")) touch
  have hbef := spawnContext_before s parentId kind
  have hact := hbef.undisturbed.active
  unfold spawnAgent
  generalize s.spawn env parentId kind input answers _ = result at hend ⊢
  cases hend with
  | refused error hreq => exact Nat.le_trans (Nat.le_of_eq hact) hbound
  | unrouted request error hreq => exact Nat.le_trans (Nat.le_of_eq hact) hbound
  | roomless request preference cursor error hreq hroute =>
    exact Nat.le_trans (Nat.le_of_eq hact) hbound
  | started request preference cursor child hreq hroute hid hpath hpar hdepth hst hctl hmailbox =>
    have hfree := spawnRequest_capacity hreq
    rw [hact, hbef.undisturbed.maxThreads] at hfree
    have hkeys := (spawnContext_sameTree s parentId kind).keys
    -- neither this UUID nor the ones of a scout have been drawn
    have hunused : ∀ n, s.uuids ≤ n →
        (s.spawnContext parentId kind).2.2.sessions.get? (agentId env n) = none := by
      intro n hn
      rw [JsMap.get?_eq_none, hkeys, ← JsMap.get?_eq_none]
      exact h.unused hn
    have hreg := register_activeThreadCount (hid ▸ hunused _ (Nat.le_refl _)) hst
    refine startChild_activeThreadCount_le ?_ ?_ request.message answers
    · exact Nat.lt_of_le_of_lt (Nat.le_of_eq (hreg.trans hact)) hfree
    · refine focusSurface_slot hslot hfree ?_ ?_ ?_ ?_ _
      · exact hreg.trans hact
      · exact hbef.stopped
      · exact hbef.foundationScouts
      show ((s.spawnContext parentId kind).2.2.sessions.set child.id child).get?
        (agentId env (s.uuids + 1 + 1)) = none
      rw [JsMap.get?_set, if_neg, hunused _ (by omega)]
      rw [hid]
      intro hsame
      have hnumbers := agentId_injective env hsame
      omega

theorem spawnFoundationScout_bounded (h : TreeInv env s)
    (hbound : s.activeThreadCount ≤ s.maxThreads) (surfaceId firstAgentId : JsString)
    (touch : FirstTouch) :
    (s.spawnFoundationScout env surfaceId firstAgentId touch).2.activeThreadCount ≤ s.maxThreads := by
  unfold spawnFoundationScout
  split
  · exact hbound
  · split
    · exact hbound
    · split
      · exact hbound
      next hcap =>
        have hfree := hasThreadCapacity_iff.mp (by simpa using hcap)
        exact Nat.le_trans (startFoundationScout_activeThreadCount_le (h.unused (Nat.le_succ _))
          surfaceId firstAgentId touch.now touch.answers) hfree

theorem maxThreads_of_limits (h : s'.limits = s.limits) : s'.maxThreads = s.maxThreads :=
  (Prod.ext_iff.mp h).1

theorem drainRounds_bounded (answers : Nat → FirstTouch) (fuel : Nat)
    (h : TreeInv env s) (hbound : s.activeThreadCount ≤ s.maxThreads) :
    (drainRounds env answers fuel s).activeThreadCount ≤ s.maxThreads := by
  refine (drainRounds_invariant (P := fun t => TreeInv env t ∧ t.activeThreadCount ≤ s.maxThreads ∧
    t.maxThreads = s.maxThreads) answers (fun t rest surfaceId firstAgentId now spawning hcap ht => ?_)
    (fun t messages ht => ?_) fuel ⟨h, hbound, rfl⟩).2.1
  · obtain ⟨hinv, -, hmax⟩ := ht
    have htaken : TreeInv env { t with foundationQueue := rest } := hinv.outside rfl rfl (Nat.le_refl _)
    have hstart : TreeStep env _ (startFoundationScout env { t with foundationQueue := rest } surfaceId firstAgentId now
        spawning).2 := startFoundationScout_treeStep { t with foundationQueue := rest } _ _ _ _
    have hfree : t.activeThreadCount + 1 ≤ t.maxThreads := hasThreadCapacity_iff.mp hcap
    refine ⟨hstart.inv htaken, ?_, (maxThreads_of_limits hstart.limits).trans hmax⟩
    exact (startFoundationScout_activeThreadCount_le (htaken.unused (Nat.le_succ _)) surfaceId firstAgentId now
      spawning).trans (hfree.trans (Nat.le_of_eq hmax))
  · have htold := pushMailbox_undisturbed t rootId messages
    refine ⟨(pushMailbox_sameTree t rootId messages).treeInv ht.1, ?_, htold.maxThreads.trans ht.2.2⟩
    rw [htold.active]
    exact ht.2.1

section

variable (h : TreeInv env s) (hbound : s.activeThreadCount ≤ s.maxThreads)
include h hbound

theorem drainFoundationQueue_bounded (answers : Nat → FirstTouch) :
    (s.drainFoundationQueue env answers).activeThreadCount ≤ s.maxThreads := by
  unfold drainFoundationQueue
  split
  · exact hbound
  · exact drainRounds_bounded answers _ h hbound

theorem runFinally_bounded (number : Nat) (answers : Nat → FirstTouch) :
    (s.runFinally env number answers).activeThreadCount ≤ s.maxThreads := by
  unfold runFinally
  split
  · exact hbound
  next run hrun =>
    split
    next session hphase hget =>
      simp only
      generalize hfinished : ((s.modifyRun number fun run => { run with phase := .finished }
        ).releaseContextsForAgent session.id) = finished
      have hsame : SameTree s finished := by
        rw [← hfinished]
        exact .of_eq rfl rfl (Nat.le_refl _)
      have hcount : finished.activeThreadCount = s.activeThreadCount := by
        rw [← hfinished]
        rfl
      generalize hrel : finished.modifySession session.id (fun session =>
        { session with promise := if session.promise = some number then none else session.promise })
          = released
      have hfreed : SameTree s released := by
        rw [← hrel]
        exact hsame.trans (.modifySession _ session.id fun _ => rfl)
      have hquiet : Undisturbed finished released := by
        rw [← hrel]
        exact .modifySession finished session.id fun _ => rfl
      have hact := hquiet.active.trans hcount
      have hmax := maxThreads_of_limits hfreed.limits
      rw [← hact, ← hmax] at hbound
      rw [← hmax]
      split
      · refine drainFoundationQueue_bounded (s := { released with
          foundationScouts := released.foundationScouts.delete (session.surfaceId.getD []) })
          ((hfreed.treeInv h).outside rfl rfl (Nat.le_refl _)) hbound answers
      · exact drainFoundationQueue_bounded (hfreed.treeInv h) hbound answers
    next => exact hbound

/-- One step keeps the sessions that run within the limit. -/
theorem step_bounded {i : ManagerInput} (hi : LeavesSlot s i) :
    (step env s i).activeThreadCount ≤ s.maxThreads := by
  have of_undisturbed : ∀ {s'}, Undisturbed s s' → s'.activeThreadCount ≤ s.maxThreads := by
    intro s' hs
    rw [hs.active]
    exact hbound
  cases i with
  | captureContext agentId toolCallId messages =>
    refine of_undisturbed ?_
    show Undisturbed s (s.captureContext agentId toolCallId messages)
    unfold SubagentManager.captureContext
    split
    · exact .of_eq rfl rfl rfl (Nat.le_refl _)
    · exact .rfl s
  | releaseContext | settle | abortWaits => exact hbound
  | spawnAgent parentId toolCallId input answers touch =>
    exact spawnAgent_bounded h hbound parentId (.tool toolCallId) input answers hi
  | spawnTrackWorker assignment answers touch =>
    show (s.spawnTrackWorker env assignment answers touch).2.activeThreadCount ≤ s.maxThreads
    unfold SubagentManager.spawnTrackWorker
    split
    · exact hbound
    · split
      · exact hbound
      next role hrole =>
        have hdrawn : TreeInv env { s with uuids := s.uuids + 1 } :=
          h.outside rfl rfl (Nat.le_succ _)
        refine spawnAgent_bounded hdrawn hbound rootId .track _ answers ?_
        unfold SlotLeft
        rw [trackInput_surfaceId]
        exact hi
  | firstTouch surfaceId firstAgentId touch =>
    exact spawnFoundationScout_bounded h hbound surfaceId firstAgentId touch
  | sendMessage authorId input triggerTurn answers now =>
    exact sendMessage_bounded hbound authorId input triggerTurn answers now
  | interrupt authorId input now =>
    exact Nat.le_trans (interrupt_activeThreadCount_le s authorId input now) hbound
  | interruptAll => exact Nat.le_trans (haltAll_activeThreadCount_le _ _) hbound
  | handler number now => exact Nat.le_trans (runHandler_activeThreadCount_le s number now) hbound
  | finalizer number answers => exact runFinally_bounded h hbound number answers
  | drain answers => exact drainFoundationQueue_bounded h hbound answers
  | takeMailbox agentId => exact of_undisturbed (takeMailbox_undisturbed s agentId)
  | waitForMailbox agentId signal aborted =>
    exact of_undisturbed (waitForMailbox_undisturbed s agentId signal aborted)
  | broadcastHostSteering messages =>
    exact of_undisturbed (broadcastHostSteering_undisturbed s messages)

end

/-! ## Failed spawns -/

/-- The request draws its route from the rotation: it names none, and is not one that takes its
parent's because no preference serves its role. -/
def SpawnRequest.DrawsRoute (s : SubagentManager) (request : SpawnRequest) (automatic : Bool) :
    Prop :=
  s.providerPreferences ≠ [] ∧ request.provider = none ∧ request.model = none ∧
    (automatic = true → ∀ role, request.delegationRole = some role →
      s.providerPreferences.any (fun candidate => candidate.serves role.id) = true)

/-- The spawn passes its checks, and draws its route from the rotation. -/
def DrawsRoute (env : SubagentPlatform) (s : SubagentManager) (parentId : JsString)
    (kind : SubagentManager.SpawnKind) (input : Json) (answers : SpawnAnswers) : Prop :=
  ∃ request, (s.spawnContext parentId kind).2.2.spawnRequest env parentId input (kind = .track)
    answers.requireError = .ok request ∧ request.DrawsRoute s (kind = .foundation || kind = .track)

def TouchesFirst (s : SubagentManager) (surfaceId : Option Json) (touch : Option FirstTouch) : Prop :=
  match touch, optionalString surfaceId with
  | some _, some surface => s.stopped = false ∧ s.foundationScouts.has surface = false
  | _, _ => False

/-- A route that is not drawn from the rotation leaves the cursor. -/
theorem selectProviderPreference_cursor {preferences : List SubagentProviderPreference} {cursor : Nat}
    {provider model role : Option JsString} {parent : SubagentSession}
    {route : Option SubagentProviderPreference × Nat}
    (h : selectProviderPreference preferences cursor provider model parent role = .ok route)
    (hnamed : ¬(preferences ≠ [] ∧ provider = none ∧ model = none)) : route.2 = cursor := by
  unfold selectProviderPreference at h
  split at h
  next hnone =>
    cases hroute : requestedRoute provider model parent with
    | error error => rw [hroute] at h; cases h
    | ok preference => rw [hroute] at h; cases h; rfl
  next hsome =>
    simp only at h
    split at h
    · cases h
    · split at h
      · -- a provider is named
        repeat' split at h
        all_goals cases h
        all_goals rfl
      · split at h
        · repeat' split at h
          all_goals cases h
          all_goals rfl
        · exact absurd ⟨by simpa using hsome, rfl, rfl⟩ hnamed

theorem spawnPreference_cursor {automatic : Bool}
    {preference : Option SubagentProviderPreference} {cursor : Nat}
    (h : s.spawnPreference request automatic = .ok (preference, cursor))
    (hdraws : ¬request.DrawsRoute s automatic) : cursor = s.providerPreferenceCursor := by
  unfold spawnPreference at h
  simp only at h
  cases hrole : request.delegationRole with
  | none =>
    simp only [hrole, Bool.and_false, Bool.false_eq_true, if_false] at h
    refine selectProviderPreference_cursor h fun ⟨hsome, hprov, hmodel⟩ => hdraws
      ⟨hsome, hprov, hmodel, fun _ role hsome => ?_⟩
    rw [hrole] at hsome
    cases hsome
  | some role =>
    simp only [hrole] at h
    split at h
    · cases h
      rfl
    next hserved =>
      refine selectProviderPreference_cursor h fun ⟨hsome, hprov, hmodel⟩ => hdraws
        ⟨hsome, hprov, hmodel, fun hautomatic other hother => ?_⟩
      rw [hrole] at hother
      cases hother
      rw [hautomatic] at hserved
      simpa using hserved

theorem focusSurface_of_not_first {surfaceId : Option Json}
    (h : ¬TouchesFirst s surfaceId touch) (agentId : JsString) :
    s.focusSurface env agentId surfaceId touch = s := by
  unfold focusSurface
  unfold TouchesFirst at h
  split
  next touch surface hsurface =>
    rw [hsurface] at h
    refine spawnFoundationScout_of_known ?_ agentId touch
    cases hstop : s.stopped with
    | true => exact Or.inl rfl
    | false =>
      refine Or.inr ?_
      cases hknown : s.foundationScouts.has surface with
      | true => rfl
      | false => exact absurd ⟨hstop, hknown⟩ h
  next => rfl

section

variable (s : SubagentManager)

theorem flushMailboxWaiter_contexts (id : JsString) :
    (s.flushMailboxWaiter id).contextSnapshots = s.contextSnapshots := by
  unfold flushMailboxWaiter
  split
  · split
    · rfl
    · unfold takeMailbox
      split <;> rfl
  · rfl

theorem startChild_contexts (child : SubagentSession) (message : JsString) (answers : SpawnAnswers)
    (htouch : ∀ t, (onFirstTouch t).contextSnapshots = t.contextSnapshots) :
    (s.startChild child message answers onFirstTouch).2.contextSnapshots = s.contextSnapshots := by
  unfold startChild
  simp only
  generalize hfocus : (if child.surfaceId.isSome then
    onFirstTouch { s with sessions := s.sessions.set child.id child }
    else { s with sessions := s.sessions.set child.id child }) = focused
  have hcontexts : focused.contextSnapshots = s.contextSnapshots := by
    rw [← hfocus]
    split
    · exact htouch _
    · rfl
  have hlaunch : (focused.launch child message child.messages answers.launch).2.contextSnapshots
      = s.contextSnapshots := hcontexts
  split
  · exact hcontexts
  · split
    next heq => rw [heq] at hlaunch; exact hlaunch
    next heq => rw [heq] at hlaunch; exact hlaunch

/-- A spawn takes the snapshot of its tool call, and no other. -/
theorem spawn_contexts (parentId : JsString)
    (kind : SubagentManager.SpawnKind) (input : Json) (answers : SpawnAnswers)
    (htouch : ∀ t, (onFirstTouch t).contextSnapshots = t.contextSnapshots) :
    (s.spawn env parentId kind input answers onFirstTouch).2.contextSnapshots
      = (s.spawnContext parentId kind).2.2.contextSnapshots := by
  have hend := spawn_end env s parentId kind input answers onFirstTouch
  generalize s.spawn env parentId kind input answers onFirstTouch = result at hend
  cases hend with
  | refused | unrouted | roomless => rfl
  | started request preference cursor child hreq hroute hid hpath hpar hdepth hst
      hctl hmailbox => exact startChild_contexts _ child _ answers htouch

theorem spawnFoundationScout_contexts (surfaceId firstAgentId : JsString) (touch : FirstTouch) :
    (s.spawnFoundationScout env surfaceId firstAgentId touch).2.contextSnapshots
      = s.contextSnapshots := by
  unfold spawnFoundationScout
  split
  · rfl
  · split
    · rfl
    · split
      · rfl
      · have hspawn : (spawn env { s with
            foundationScouts := s.foundationScouts.set surfaceId
              ⟨.queued, none, some (js "Starting the foundation scout.")⟩
            uuids := s.uuids + 1 } rootId .foundation (s.foundationInput env surfaceId)
              touch.answers id).2.contextSnapshots = s.contextSnapshots :=
          spawn_contexts _ rootId .foundation _ touch.answers fun _ => rfl
        unfold startFoundationScout
        simp only
        split
        next child spawned heq =>
          rw [heq] at hspawn
          refine Eq.trans ?_ hspawn
          show contextSnapshots (if firstAgentId = rootId then spawned else _) = _
          split
          · rfl
          · exact flushMailboxWaiter_contexts _ rootId
        next error failed heq =>
          rw [heq] at hspawn
          exact hspawn

end

theorem startChild_failed {child : SubagentSession} {message : JsString}
    {answers : SpawnAnswers} {error : JsString}
    (hfail : (s.startChild child message answers onFirstTouch).1 = .error error)
    (hquiet : onFirstTouch { s with sessions := s.sessions.set child.id child }
      = { s with sessions := s.sessions.set child.id child })
    (hfresh : s.sessions.get? child.id = none) :
    (s.startChild child message answers onFirstTouch).2.sessions = s.sessions ∧
      (s.startChild child message answers onFirstTouch).2.providerPreferenceCursor
        = s.providerPreferenceCursor := by
  have hrem : (s.sessions.set child.id child).delete child.id = s.sessions :=
    JsMap.delete_set_new child hfresh
  unfold startChild at hfail ⊢
  simp only [hquiet, ite_self] at hfail ⊢
  revert hfail
  split
  · intro _
    exact ⟨hrem, rfl⟩
  · split
    next launchError launched hlaunch =>
      intro _
      obtain rfl : (launch { s with sessions := s.sessions.set child.id child }
        child message child.messages answers.launch).2 = launched := congrArg Prod.snd hlaunch
      refine ⟨?_, rfl⟩
      exact (JsMap.delete_modify _ child.id _).trans hrem
    next => nofun

def SubagentManager.contextsTaken (s : SubagentManager) : SpawnKind → JsMap JsString ContextSnapshot
  | .tool toolCallId => s.contextSnapshots.delete toolCallId
  | _ => s.contextSnapshots

/-- What a spawn that fails leaves behind. -/
structure Undone (env : SubagentPlatform) (s s' : SubagentManager) (parentId : JsString)
    (kind : SubagentManager.SpawnKind) (input : Json) (answers : SpawnAnswers)
    (touch : Option FirstTouch) : Prop where
  /-- The context of the call is taken, and no other. -/
  contexts : s'.contextSnapshots = s.contextsTaken kind
  sessions : ¬TouchesFirst s (input.field? (js "surface_id")) touch → s'.sessions = s.sessions
  cursor : ¬TouchesFirst s (input.field? (js "surface_id")) touch →
    ¬DrawsRoute env s parentId kind input answers →
      s'.providerPreferenceCursor = s.providerPreferenceCursor

theorem spawnAgent_undone (h : TreeInv env s)
    {kind : SubagentManager.SpawnKind} {input : Json} {answers : SpawnAnswers}
    {error : JsString}
    (hfail : (s.spawnAgent env parentId kind input answers touch).1 = .error error) :
    Undone env s (s.spawnAgent env parentId kind input answers touch).2 parentId kind input answers
      touch := by
  have hcontexts : (s.spawnAgent env parentId kind input answers touch).2.contextSnapshots
      = (s.spawnContext parentId kind).2.2.contextSnapshots := by
    refine spawn_contexts s parentId kind input answers fun t => ?_
    unfold focusSurface
    split
    · exact spawnFoundationScout_contexts t _ _ _
    · rfl
  have hend : SpawnEnd env s parentId kind input answers
      (fun registered => registered.focusSurface env (agentId env s.uuids)
        (input.field? (js "surface_id")) touch)
      (s.spawnAgent env parentId kind input answers touch) :=
    spawn_end env s parentId kind input answers _
  have htaken : (s.spawnContext parentId kind).2.2.contextSnapshots = s.contextsTaken kind ∧
      (s.spawnContext parentId kind).2.2.sessions = s.sessions ∧
      (s.spawnContext parentId kind).2.2.providerPreferenceCursor = s.providerPreferenceCursor ∧
      (s.spawnContext parentId kind).2.2.providerPreferences = s.providerPreferences := by
    cases kind <;> exact ⟨rfl, rfl, rfl, rfl⟩
  obtain ⟨htakenContexts, hsesss, hcursor, hpreferences⟩ := htaken
  have hbef := spawnContext_before s parentId kind
  -- a route that the rotation did not draw leaves the cursor
  have hkept : ∀ {request preference cursor},
      (s.spawnContext parentId kind).2.2.spawnRequest env parentId input (kind = .track)
        answers.requireError = .ok request →
      (s.spawnContext parentId kind).2.2.spawnPreference request
        (kind = .foundation || kind = .track) = .ok (preference, cursor) →
      ¬DrawsRoute env s parentId kind input answers → cursor = s.providerPreferenceCursor := by
    intro request preference cursor hreq hroute hdraws
    refine (spawnPreference_cursor hroute fun hdrawn => hdraws ⟨request, hreq, ?_⟩).trans hcursor
    unfold SpawnRequest.DrawsRoute at hdrawn ⊢
    rw [hpreferences] at hdrawn
    exact hdrawn
  rw [htakenContexts] at hcontexts
  generalize s.spawnAgent env parentId kind input answers touch = result at hcontexts hend hfail ⊢
  refine ⟨hcontexts, ?_, ?_⟩
  · intro hquiet
    cases hend with
    | refused | unrouted | roomless => exact hsesss
    | started request preference cursor child hreq hroute hid hpath hpar hdepth hst hctl hmailbox =>
      refine (startChild_failed hfail ?_ ?_).1.trans hsesss
      · refine focusSurface_of_not_first ?_ _
        unfold TouchesFirst at hquiet ⊢
        rw [hbef.stopped, hbef.foundationScouts]
        exact hquiet
      · rw [hsesss, hid]
        exact h.unused (Nat.le_refl _)
  · intro hquiet hdraws
    cases hend with
    | refused error hreq => exact hcursor
    | unrouted request error hreq => exact hcursor
    | roomless request preference cursor error hreq hroute => exact hkept hreq hroute hdraws
    | started request preference cursor child hreq hroute hid hpath hpar hdepth hst hctl hmailbox =>
      refine (startChild_failed hfail ?_ ?_).2.trans (hkept hreq hroute hdraws)
      · refine focusSurface_of_not_first ?_ _
        unfold TouchesFirst at hquiet ⊢
        rw [hbef.stopped, hbef.foundationScouts]
        exact hquiet
      · rw [hsesss, hid]
        exact h.unused (Nat.le_refl _)

/-! ## Every run -/

/-- **The limits of the tree**: in every reachable state paths are unique, and neither depth nor
children exceed their limits; the sessions that run stay within theirs where every first touch
leaves the child its slot; and a spawn that fails leaves the tree as it was. -/
theorem reached_treeLimits (env : SubagentPlatform) (options : CreateSubagentManagerOptions)
    (inputs : List ManagerInput) :
    (reached env options inputs).limits = (SubagentManager.new options).limits ∧
      TreeLimits (reached env options inputs) ∧
      (RunMeets (step env) LeavesSlot (SubagentManager.new options) inputs →
        (reached env options inputs).activeThreadCount ≤ (reached env options inputs).maxThreads) ∧
      ∀ parentId kind input answers touch error,
        ((reached env options inputs).spawnAgent env parentId kind input answers touch).1
            = .error error →
          Undone env (reached env options inputs)
            ((reached env options inputs).spawnAgent env parentId kind input answers touch).2
            parentId kind input answers touch := by
  have hnew := new_treeInv env options
  have htree : TreeInv env (reached env options inputs) ∧
      (reached env options inputs).limits = (SubagentManager.new options).limits := by
    refine runSteps_invariant (I := fun s => TreeInv env s ∧
      s.limits = (SubagentManager.new options).limits) ?_ ⟨hnew, rfl⟩ inputs
    rintro s i ⟨hs, hlimits⟩
    have hstep : TreeStep env s (step env s i) := step_treeStep s i
    exact ⟨hstep.inv hs, hstep.limits.trans hlimits⟩
  refine ⟨htree.2, htree.1.toTreeLimits, fun hmeets => ?_, ?_⟩
  · have hbounded : TreeInv env (reached env options inputs) ∧
        (reached env options inputs).activeThreadCount ≤ (reached env options inputs).maxThreads := by
      refine runSteps_invariant_of_meets (C := LeavesSlot) (I := fun s => TreeInv env s ∧
        s.activeThreadCount ≤ s.maxThreads) ?_ ⟨hnew, Nat.zero_le _⟩ hmeets
      rintro s i ⟨hs, hcount⟩ hi
      have hstep : TreeStep env s (step env s i) := step_treeStep s i
      refine ⟨hstep.inv hs, ?_⟩
      rw [maxThreads_of_limits hstep.limits]
      exact step_bounded hs hcount hi
    exact hbounded.2
  · intro parentId kind input answers touch error hfailed
    exact spawnAgent_undone htree.1 hfailed

/-- The lead agent spawns a child for a surface, whose first touch it is. -/
def spawnOnSurface : ManagerInput :=
  .spawnAgent rootId (js "call") (.obj [(js "task_name", .str (js "a")),
    (js "message", .str (js "go")), (js "surface_id", .str (js "s"))]) quietSpawn
    (some ⟨0, quietSpawn⟩)

theorem reached_treeLimits_staleReturn :
    (reached asciiPlatform oneThread staleReturn).activeThreadCount
      ≤ (reached asciiPlatform oneThread staleReturn).maxThreads := by
  have hmeets : RunMeets (step asciiPlatform) LeavesSlot (SubagentManager.new oneThread)
      staleReturn := by decide +kernel
  obtain ⟨-, -, hbounded, -⟩ := reached_treeLimits asciiPlatform oneThread staleReturn
  exact hbounded hmeets

/-- A spawn without a message fails, and has taken the context of its call; and the scout of a
first touch runs beside the child, in one slot. -/
theorem failed_spawn_takes_context :
    ((reached asciiPlatform oneThread [.captureContext rootId (js "call") []]).contextSnapshots.has
        (js "call") = true ∧
      (SubagentManager.spawnAgent asciiPlatform
        (reached asciiPlatform oneThread [.captureContext rootId (js "call") []]) rootId
        (.tool (js "call")) (.obj [(js "task_name", .str (js "a"))]) quietSpawn none).1.isOk = false ∧
      (SubagentManager.spawnAgent asciiPlatform
        (reached asciiPlatform oneThread [.captureContext rootId (js "call") []]) rootId
        (.tool (js "call")) (.obj [(js "task_name", .str (js "a"))]) quietSpawn none
          ).2.contextSnapshots.has (js "call") = false) ∧
    ¬((reached asciiPlatform { oneThread with hasSurfaceStore := true } [spawnOnSurface]
        ).activeThreadCount
      ≤ (reached asciiPlatform { oneThread with hasSurfaceStore := true } [spawnOnSurface]
        ).maxThreads) :=
  ⟨⟨by decide +kernel, by decide +kernel, by decide +kernel⟩, by decide +kernel⟩

end Beale.Subagents
