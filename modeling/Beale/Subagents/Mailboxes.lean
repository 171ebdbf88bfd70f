import Beale.Library.Queue
import Beale.Subagents.Tree

/-!
# Mailboxes

A message that is put into a mailbox waits there until its agent takes it, or is handed to
the agent's pending wait at once.

- `reached_mailboxes`: under it both hold in every reachable state.
- `completion_wakes_nobody`: without it, a lead agent sleeps over its mail.
-/

namespace Beale.Subagents

open Beale.Library
open SubagentManager

variable {env : SubagentPlatform}

/-! ## The books of an agent -/

namespace SubagentManager

def mailboxOf (s : SubagentManager) (id : JsString) : List AgentMessage :=
  ((s.sessions.get? id).map (·.mailbox)).getD []

def messagesFor (log : List (JsString × List AgentMessage)) (id : JsString) : List AgentMessage :=
  (log.filter (·.1 = id)).flatMap (·.2)

/-- What was posted to an agent, what it was given, and what its mailbox holds. -/
def mailboxBooks (s : SubagentManager) (id : JsString) : QueueBooks AgentMessage where
  arrived := messagesFor s.posted id
  answered := messagesFor s.delivered id
  waiting := s.mailboxOf id

/-- Whether a wait of the agent is pending. -/
def isWaiting (s : SubagentManager) (id : JsString) : Bool := s.mailboxWaiters.has id

end SubagentManager

theorem messagesFor_append (log : List (JsString × List AgentMessage)) (target id : JsString)
    (messages : List AgentMessage) :
    messagesFor (log ++ [(target, messages)]) id
      = messagesFor log id ++ (if target = id then messages else []) := by
  unfold messagesFor
  rw [List.filter_append, List.flatMap_append]
  congr 1
  by_cases h : target = id
  · simp [h]
  · simp [h]

/-- Every message was given to its addressee once, in the order of arrival, or is in the
mailbox. -/
def InOrder (s : SubagentManager) : Prop := ∀ id, (s.mailboxBooks id).Fifo

def Awake (s : SubagentManager) : Prop := ∀ id, s.mailboxOf id ≠ [] → s.isWaiting id = false

/-- The operation keeps every agent's books in order, and no agent asleep over its mail. -/
structure MailStep (s s' : SubagentManager) : Prop where
  inOrder : InOrder s → InOrder s'
  awake : Awake s → Awake s'

/-- The mail has not changed; waits may have ended. -/
structure SameMail (s s' : SubagentManager) : Prop where
  posted : s'.posted = s.posted
  delivered : s'.delivered = s.delivered
  mailboxes : ∀ id, s'.mailboxOf id = s.mailboxOf id
  waits : ∀ id, s'.isWaiting id = true → s.isWaiting id = true

namespace SameMail

variable {s s' s'' : SubagentManager}

theorem rfl (s : SubagentManager) : SameMail s s :=
  ⟨Eq.refl _, Eq.refl _, fun _ => Eq.refl _, fun _ h => h⟩

theorem trans (h : SameMail s s') (h' : SameMail s' s'') : SameMail s s'' :=
  ⟨h'.posted.trans h.posted, h'.delivered.trans h.delivered,
    fun id => (h'.mailboxes id).trans (h.mailboxes id), fun id hid => h.waits id (h'.waits id hid)⟩

theorem of_eq (hposted : s'.posted = s.posted) (hdelivered : s'.delivered = s.delivered)
    (hsesss : s'.sessions = s.sessions) (hwaiters : s'.mailboxWaiters = s.mailboxWaiters) :
    SameMail s s' := by
  refine ⟨hposted, hdelivered, fun id => ?_, fun id hid => ?_⟩
  · rw [mailboxOf, mailboxOf, hsesss]
  · rw [isWaiting, hwaiters] at hid
    exact hid

variable {f : SubagentSession → SubagentSession}

theorem mailboxOf_modify (s : SubagentManager) (id id' : JsString)
    (hf : ∀ session, (f session).mailbox = session.mailbox) :
    (s.modifySession id f).mailboxOf id' = s.mailboxOf id' := by
  show (((s.sessions.modify id f).get? id').map (·.mailbox)).getD [] = _
  rw [JsMap.get?_modify]
  split
  next hid =>
    rw [hid, Option.map_map, mailboxOf]
    congr 2
    funext session
    exact hf session
  next => rfl

theorem modifySession (s : SubagentManager) (id : JsString)
    (hf : ∀ session, (f session).mailbox = session.mailbox) : SameMail s (s.modifySession id f) :=
  ⟨Eq.refl _, Eq.refl _, fun id' => mailboxOf_modify s id id' hf, fun _ h => h⟩

theorem mailStep (h : SameMail s s') : MailStep s s' := by
  constructor
  · intro hs id
    have hbooks : s'.mailboxBooks id = s.mailboxBooks id := by
      rw [mailboxBooks, mailboxBooks, h.posted, h.delivered, h.mailboxes]
    rw [hbooks]
    exact hs id
  · intro hs id hmail
    rw [h.mailboxes] at hmail
    cases hwaits : s'.isWaiting id with
    | false => rfl
    | true => exact absurd (h.waits id hwaits) (by rw [hs id hmail]; decide)

end SameMail

namespace MailStep

variable {s s' s'' : SubagentManager}

theorem rfl (s : SubagentManager) : MailStep s s := ⟨id, id⟩

theorem trans (h : MailStep s s') (h' : MailStep s' s'') : MailStep s s'' :=
  ⟨fun hs => h'.inOrder (h.inOrder hs), fun hs => h'.awake (h.awake hs)⟩

end MailStep

/-! ## Posting and taking -/

variable {s : SubagentManager} {id : JsString}

theorem pushMailbox_of_none (h : s.sessions.get? id = none)
    (messages : List AgentMessage) : s.pushMailbox id messages = s := by
  unfold pushMailbox modifySession
  rw [JsMap.modify, h, JsMap.has, h]
  rfl

theorem mailboxOf_pushMailbox {session : SubagentSession}
    (h : s.sessions.get? id = some session) (messages : List AgentMessage) (id' : JsString) :
    (s.pushMailbox id messages).mailboxOf id'
      = s.mailboxOf id' ++ (if id = id' then messages else []) := by
  show (((s.sessions.modify id fun session =>
    { session with mailbox := session.mailbox ++ messages }).get? id').map (·.mailbox)).getD [] = _
  rw [JsMap.get?_modify, mailboxOf]
  by_cases hid : id' = id
  · rw [if_pos hid, if_pos hid.symm, hid, h]
    rfl
  · rw [if_neg hid, if_neg (Ne.symm hid), List.append_nil]

theorem pushMailbox_inOrder (h : InOrder s) (id : JsString)
    (messages : List AgentMessage) : InOrder (s.pushMailbox id messages) := by
  cases hget : s.sessions.get? id with
  | none =>
    rw [pushMailbox_of_none hget]
    exact h
  | some session =>
    intro id'
    have hposted : (s.pushMailbox id messages).posted = s.posted ++ [(id, messages)] := by
      unfold pushMailbox
      rw [JsMap.has, hget]
      rfl
    have hbooks := (h id').enqueue (if id = id' then messages else [])
    rw [mailboxBooks, hposted, messagesFor_append, mailboxOf_pushMailbox hget]
    exact hbooks

/-- A message that is posted without waking its addressee finds no wait pending. -/
theorem pushMailbox_awake (h : Awake s)
    (hquiet : s.isWaiting id = false) (messages : List AgentMessage) :
    Awake (s.pushMailbox id messages) := by
  cases hget : s.sessions.get? id with
  | none =>
    rw [pushMailbox_of_none hget]
    exact h
  | some session =>
    intro id' hmail
    show s.isWaiting id' = false
    rw [mailboxOf_pushMailbox hget] at hmail
    by_cases hid : id = id'
    · exact hid ▸ hquiet
    · rw [if_neg hid, List.append_nil] at hmail
      exact h id' hmail

theorem takeMailbox_inOrder (h : InOrder s) (id : JsString) : InOrder (s.takeMailbox id) := by
  unfold takeMailbox
  cases hget : s.sessions.get? id with
  | none => exact h
  | some session =>
    intro id'
    show QueueBooks.Fifo ⟨messagesFor s.posted id',
      messagesFor (s.delivered ++ [(id, session.mailbox)]) id',
      (((s.sessions.modify id fun session => { session with mailbox := [] }).get? id').map
        (·.mailbox)).getD []⟩
    rw [messagesFor_append, JsMap.get?_modify]
    by_cases hid : id' = id
    · have hmail : s.mailboxOf id' = session.mailbox := by
        rw [mailboxOf, hid, hget]
        rfl
      rw [if_pos hid, if_pos hid.symm, ← hmail, hid, hget]
      exact hid ▸ (h id').flush
    · rw [if_neg hid, if_neg (Ne.symm hid), List.append_nil]
      exact h id'

section

variable (s : SubagentManager)

theorem mailboxOf_takeMailbox (id id' : JsString) :
    (s.takeMailbox id).mailboxOf id' = if id' = id then [] else s.mailboxOf id' := by
  unfold takeMailbox
  cases hget : s.sessions.get? id with
  | none =>
    show s.mailboxOf id' = _
    by_cases hid : id' = id
    · rw [if_pos hid, hid, mailboxOf, hget]
      rfl
    · rw [if_neg hid]
  | some session =>
    show (((s.sessions.modify id fun session => { session with mailbox := [] }).get? id').map
      (·.mailbox)).getD [] = _
    rw [JsMap.get?_modify]
    by_cases hid : id' = id
    · rw [if_pos hid, if_pos hid, hget]
      rfl
    · rw [if_neg hid, if_neg hid, mailboxOf]

theorem takeMailbox_isWaiting (id id' : JsString) :
    (s.takeMailbox id).isWaiting id' = s.isWaiting id' := by
  unfold takeMailbox
  split <;> rfl

theorem takeMailbox_mailStep (id : JsString) : MailStep s (s.takeMailbox id) := by
  constructor
  · exact fun h => takeMailbox_inOrder h id
  · intro h id' hmail
    rw [mailboxOf_takeMailbox] at hmail
    rw [takeMailbox_isWaiting]
    split at hmail
    · exact absurd rfl hmail
    · exact h id' hmail

theorem isWaiting_delete (id id' : JsString) :
    isWaiting { s with mailboxWaiters := s.mailboxWaiters.delete id } id'
      = if id' = id then false else s.isWaiting id' := by
  show ((s.mailboxWaiters.delete id).get? id').isSome = _
  rw [JsMap.get?_delete]
  split <;> rfl

/-- The pending wait of an agent takes the mailbox. -/
theorem flushMailboxWaiter_spec (id : JsString) : (InOrder s → InOrder (s.flushMailboxWaiter id)) ∧
      (∀ id', id' ≠ id → (s.flushMailboxWaiter id).mailboxOf id' = s.mailboxOf id' ∧
        (s.flushMailboxWaiter id).isWaiting id' = s.isWaiting id') ∧
      ((s.flushMailboxWaiter id).mailboxOf id ≠ [] →
        (s.flushMailboxWaiter id).isWaiting id = false) := by
  unfold flushMailboxWaiter
  split
  next waiter session hw hget =>
    have hmailbox : s.mailboxOf id = session.mailbox := by
      rw [mailboxOf, hget]
      rfl
    split
    next hempty =>
      refine ⟨fun h => h, fun id' _ => ⟨rfl, rfl⟩, fun hmail => ?_⟩
      rw [hmailbox, List.isEmpty_iff.mp hempty] at hmail
      exact absurd rfl hmail
    next =>
      refine ⟨fun h => ?_, fun id' hid => ?_, fun hmail => ?_⟩
      · refine takeMailbox_inOrder ?_ id
        exact fun id' => h id'
      · rw [mailboxOf_takeMailbox, if_neg hid, takeMailbox_isWaiting, isWaiting_delete, if_neg hid]
        exact ⟨rfl, rfl⟩
      · rw [mailboxOf_takeMailbox, if_pos rfl] at hmail
        exact absurd rfl hmail
  next hnone =>
    refine ⟨fun h => h, fun id' _ => ⟨rfl, rfl⟩, fun hmail => ?_⟩
    cases hw : s.mailboxWaiters.get? id with
    | none =>
      rw [isWaiting, JsMap.has, hw]
      rfl
    | some waiter =>
      cases hget : s.sessions.get? id with
      | none =>
        rw [mailboxOf, hget] at hmail
        exact absurd rfl hmail
      | some session => exact absurd hget (hnone waiter session hw)

/-- A message that is posted and wakes its addressee. -/
theorem pushFlush_mailStep (id : JsString) (messages : List AgentMessage) :
    MailStep s ((s.pushMailbox id messages).flushMailboxWaiter id) := by
  obtain ⟨hinOrder, hrest, hself⟩ := flushMailboxWaiter_spec (s.pushMailbox id messages) id
  constructor
  · exact fun h => hinOrder (pushMailbox_inOrder h id messages)
  · intro h id' hmail
    by_cases hid : id' = id
    · subst hid
      exact hself hmail
    · obtain ⟨hmailbox, hwaits⟩ := hrest id' hid
      rw [hmailbox] at hmail
      rw [hwaits]
      cases hget : s.sessions.get? id with
      | none =>
        rw [pushMailbox_of_none hget] at hmail ⊢
        exact h id' hmail
      | some session =>
        rw [mailboxOf_pushMailbox hget, if_neg (Ne.symm hid), List.append_nil] at hmail
        exact h id' hmail

theorem waitForMailbox_mailStep (id : JsString) (signal : Option WaitSignal)
    (aborted : Bool) : MailStep s (s.waitForMailbox id signal aborted) := by
  unfold waitForMailbox
  split
  · exact .rfl s
  next session hget =>
    split
    · exact takeMailbox_mailStep s id
    next hempty =>
      split
      · exact .rfl s
      · split
        · exact .rfl s
        · -- the mailbox is empty when the wait begins
          refine ⟨fun h id' => h id', fun h id' hmail => ?_⟩
          have hid : id' ≠ id := by
            rintro rfl
            have hsess : s.mailboxOf id' = session.mailbox := by
              rw [mailboxOf, hget]
              rfl
            have hmail' : s.mailboxOf id' ≠ [] := hmail
            rw [hsess] at hmail'
            simp [hmail'] at hempty
          show ((s.mailboxWaiters.set id ⟨signal⟩).get? id').isSome = false
          rw [JsMap.get?_set, if_neg hid]
          exact h id' hmail

theorem abortWaits_sameMail (signal : WaitSignal) : SameMail s (s.abortWaits signal) := by
  refine ⟨rfl, rfl, fun _ => rfl, fun id hwaits => ?_⟩
  have hkept : ((s.mailboxWaiters.deleteAll _).get? id).isSome = true := hwaits
  rw [JsMap.get?_deleteAll] at hkept
  split at hkept
  · cases hkept
  · exact hkept

theorem broadcastHostSteering_mailStep (messages : List AgentMessage) :
    MailStep s (s.broadcastHostSteering messages) := by
  unfold broadcastHostSteering
  split
  · exact .rfl s
  · generalize s.sessions.values.filter isLive = sessions
    induction sessions generalizing s with
    | nil => exact .rfl s
    | cons session rest ih => exact (pushFlush_mailStep s session.id messages).trans (ih _)

end

/-! ## Launching and halting -/

section

variable (s : SubagentManager)

theorem launch_sameMail (session : SubagentSession) (prompt : JsString)
    (inherited : List AgentMessage) (answers : LaunchAnswers) :
    SameMail s (s.launch session prompt inherited answers).2 :=
  ⟨rfl, rfl, fun id => SameMail.mailboxOf_modify s session.id id fun _ => rfl, fun _ h => h⟩

theorem haltSession_sameMail (session : SubagentSession) : SameMail s (s.haltSession session) := by
  have hhalted : SameMail s (s.modifySession session.id fun session =>
      { session with status := .interrupted }) :=
    .modifySession s session.id fun _ => rfl
  unfold haltSession
  split
  next number _ =>
    refine hhalted.trans (SameMail.trans ?_ (abortWaits_sameMail _ (.run number)))
    exact .of_eq rfl rfl rfl rfl
  next => exact hhalted

theorem interruptAll_sameMail : SameMail s s.interruptAll := by
  have hcleared : SameMail s { s with
      stopped := true
      foundationQueue := []
      foundationScouts := .empty
      contextSnapshots := .empty } :=
    .of_eq rfl rfl rfl rfl
  refine hcleared.trans ?_
  unfold interruptAll
  generalize (s.sessions.values.filter fun session =>
    session.id ≠ rootId && isLive session) = targets
  generalize ({ s with
    stopped := true
    foundationQueue := []
    foundationScouts := .empty
    contextSnapshots := .empty } : SubagentManager) = cleared
  induction targets generalizing cleared with
  | nil => exact .rfl cleared
  | cons target rest ih => exact (haltSession_sameMail cleared target).trans (ih _)

theorem sendMessage_mailStep (authorId : JsString) (input : Json)
    (triggerTurn : Bool) (answers : LaunchAnswers) (now : Nat) :
    MailStep s (s.sendMessage authorId input triggerTurn answers now).2 := by
  unfold sendMessage
  simp only
  split
  · exact .rfl s
  next author target message _ =>
    have hlaunch := (launch_sameMail s target message target.messages answers).mailStep
    split
    · split
      · exact .rfl s
      · split
        next heq =>
          rw [heq] at hlaunch
          exact hlaunch
        next heq =>
          rw [heq] at hlaunch
          exact hlaunch
    · exact pushFlush_mailStep s target.id _

end

/-! ## Spawning -/

theorem register_sameMail {t : SubagentManager} {child : SubagentSession}
    (hfresh : s.sessions.get? child.id = none) (hmailbox : child.mailbox = [])
    (hposted : t.posted = s.posted) (hdelivered : t.delivered = s.delivered)
    (hwaiters : t.mailboxWaiters = s.mailboxWaiters)
    (hsesss : t.sessions = s.sessions.set child.id child) : SameMail s t := by
  refine ⟨hposted, hdelivered, fun id => ?_, fun id hwaits => ?_⟩
  · rw [mailboxOf, mailboxOf, hsesss, JsMap.get?_set]
    split
    next hid =>
      rw [hid, hfresh, Option.map_some, hmailbox]
      rfl
    next => rfl
  · rw [isWaiting, hwaiters] at hwaits
    exact hwaits

theorem remove_sameMail (hmail : s.mailboxOf id = []) :
    SameMail s { s with sessions := s.sessions.delete id } := by
  refine ⟨rfl, rfl, fun id' => ?_, fun _ h => h⟩
  show (((s.sessions.delete id).get? id').map (·.mailbox)).getD [] = _
  rw [JsMap.get?_delete]
  split
  next hid =>
    rw [hid, hmail]
    rfl
  next => rfl

/-- What a first touch does to the mail: it may give the lead agent some. -/
structure TouchMail (s s' : SubagentManager) : Prop where
  step : MailStep s s'
  others : ∀ id, id ≠ rootId → s.mailboxOf id = [] → s'.mailboxOf id = []

namespace TouchMail

variable {s s' s'' : SubagentManager}

theorem of_same (h : SameMail s s') : TouchMail s s' :=
  ⟨h.mailStep, fun id _ hmail => (h.mailboxes id).trans hmail⟩

theorem trans (h : TouchMail s s') (h' : TouchMail s' s'') : TouchMail s s'' :=
  ⟨h.step.trans h'.step, fun id hroot hmail => h'.others id hroot (h.others id hroot hmail)⟩

end TouchMail

theorem startChild_touchMail {child : SubagentSession}
    (hfresh : s.sessions.get? child.id = none) (hroot : child.id ≠ rootId)
    (hmailbox : child.mailbox = []) (message : JsString) (answers : SpawnAnswers)
    {onFirstTouch : SubagentManager → SubagentManager}
    (htouch : TouchMail { s with sessions := s.sessions.set child.id child }
      (onFirstTouch { s with sessions := s.sessions.set child.id child })) :
    TouchMail s (s.startChild child message answers onFirstTouch).2 := by
  have hreg : SameMail s { s with sessions := s.sessions.set child.id child } :=
    register_sameMail hfresh hmailbox rfl rfl rfl rfl
  have hempty : mailboxOf { s with sessions := s.sessions.set child.id child } child.id = [] := by
    rw [hreg.mailboxes, mailboxOf, hfresh]
    rfl
  unfold startChild
  simp only
  generalize ({ s with sessions := s.sessions.set child.id child } : SubagentManager) = registered
    at hreg hempty htouch ⊢
  have hfocus : TouchMail registered
      (if child.surfaceId.isSome then onFirstTouch registered else registered) := by
    split
    · exact htouch
    · exact .of_same (.rfl registered)
  generalize (if child.surfaceId.isSome then onFirstTouch registered else registered) = focused
    at hfocus
  have hlaunch := launch_sameMail focused child message child.messages answers.launch
  have hchild := hfocus.others child.id hroot hempty
  refine (TouchMail.of_same hreg).trans (hfocus.trans ?_)
  split
  · exact .of_same (remove_sameMail hchild)
  · split
    next error launched hfail =>
      rw [hfail] at hlaunch
      exact .of_same (hlaunch.trans (remove_sameMail ((hlaunch.mailboxes child.id).trans hchild)))
    next launched hstart =>
      rw [hstart] at hlaunch
      exact .of_same hlaunch

theorem spawn_touchMail (h : TreeInv env s) (parentId : JsString)
    (kind : SubagentManager.SpawnKind) (input : Json) (answers : SpawnAnswers)
    {onFirstTouch : SubagentManager → SubagentManager}
    (htouch : ∀ t, TreeInv env t → TouchMail t (onFirstTouch t)) :
    TouchMail s (s.spawn env parentId kind input answers onFirstTouch).2 := by
  have hend := spawn_end env s parentId kind input answers onFirstTouch
  have htaken : SameMail s (s.spawnContext parentId kind).2.2 := by
    cases kind <;> exact .of_eq rfl rfl rfl rfl
  have hsame := spawnContext_sameTree s parentId kind
  have huuids := spawnContext_uuids s parentId kind
  generalize s.spawn env parentId kind input answers onFirstTouch = result at hend
  cases hend with
  | refused error hreq => exact .of_same htaken
  | unrouted request error hreq => exact .of_same htaken
  | roomless request preference cursor error hreq hroute =>
    exact .of_same (htaken.trans (.of_eq rfl rfl rfl rfl))
  | started request preference cursor child hreq hroute hid hpath hpar hdepth hst hctl hmailbox =>
    generalize (s.spawnContext parentId kind).2.2 = taken at htaken hsame huuids hreq
    have hinv := hsame.treeInv h
    have hcheck := spawnRequest_checked hreq
    have hfresh : taken.sessions.get? child.id = none := by
      rw [hid, ← huuids]
      exact hinv.unused (Nat.le_refl _)
    have hchosen : SameMail s
        { taken with providerPreferenceCursor := cursor, uuids := s.uuids + 1 } :=
      htaken.trans (.of_eq rfl rfl rfl rfl)
    refine (TouchMail.of_same hchosen).trans ?_
    have hroot : child.id ≠ rootId := by
      rw [hid]
      exact agentId_ne_rootId env _
    refine startChild_touchMail (by exact hfresh) hroot hmailbox _ answers (htouch _ ?_)
    refine hinv.register (by rw [hid, huuids]) ?_ hpar ?_ hcheck.children rfl (by rw [huuids]) rfl
    · intro session hsess
      rw [hpath]
      exact hcheck.path session hsess
    · rw [hdepth]
      exact hcheck.depth

theorem pushFlush_touchMail (s : SubagentManager) (messages : List AgentMessage) :
    TouchMail s ((s.pushMailbox rootId messages).flushMailboxWaiter rootId) := by
  refine ⟨pushFlush_mailStep s rootId messages, fun id hroot hmail => ?_⟩
  obtain ⟨-, hrest, -⟩ := flushMailboxWaiter_spec (s.pushMailbox rootId messages) rootId
  rw [(hrest id hroot).1]
  cases hget : s.sessions.get? rootId with
  | none =>
    rw [pushMailbox_of_none hget]
    exact hmail
  | some session => rw [mailboxOf_pushMailbox hget, if_neg (Ne.symm hroot), hmail, List.append_nil]

theorem startFoundationScout_touchMail (h : TreeInv env s)
    (surfaceId firstAgentId : JsString) (now : Nat) (answers : SpawnAnswers) :
    TouchMail s (s.startFoundationScout env surfaceId firstAgentId now answers).2 := by
  obtain ⟨scouts, scouts', told, htold, heq⟩ := startFoundationScout_eq env s surfaceId firstAgentId now answers
  have hinv : TreeInv env { s with foundationScouts := scouts, uuids := s.uuids + 1 } := h.outside rfl rfl (Nat.le_succ _)
  have hdrawn : SameMail s { s with foundationScouts := scouts, uuids := s.uuids + 1 } := .of_eq rfl rfl rfl rfl
  have hspawn := (TouchMail.of_same hdrawn).trans (spawn_touchMail hinv rootId .foundation
    (s.foundationInput env surfaceId) answers fun t _ => .of_same (.rfl t))
  have htells : TouchMail s told := by
    rcases htold with rfl | ⟨messages, rfl⟩
    · exact hspawn
    · exact hspawn.trans (pushFlush_touchMail _ messages)
  rw [heq]
  exact htells.trans (.of_same (.of_eq rfl rfl rfl rfl))

theorem spawnFoundationScout_touchMail (h : TreeInv env s)
    (surfaceId firstAgentId : JsString) (touch : FirstTouch) :
    TouchMail s (s.spawnFoundationScout env surfaceId firstAgentId touch).2 := by
  unfold spawnFoundationScout
  split
  · exact .of_same (.rfl s)
  · split
    · exact .of_same (.rfl s)
    · split
      · exact .of_same (.of_eq rfl rfl rfl rfl)
      · exact startFoundationScout_touchMail h surfaceId firstAgentId touch.now touch.answers

theorem spawnAgent_touchMail (h : TreeInv env s) (parentId : JsString)
    (kind : SubagentManager.SpawnKind) (input : Json) (answers : SpawnAnswers)
    (touch : Option FirstTouch) :
    TouchMail s (s.spawnAgent env parentId kind input answers touch).2 := by
  refine spawn_touchMail h parentId kind input answers fun t ht => ?_
  unfold focusSurface
  split
  · exact spawnFoundationScout_touchMail ht _ _ _
  · exact .of_same (.rfl t)

theorem spawnTrackWorker_touchMail (h : TreeInv env s)
    (assignment : TrackWorkerAssignment) (answers : SpawnAnswers) (touch : Option FirstTouch) :
    TouchMail s (s.spawnTrackWorker env assignment answers touch).2 := by
  unfold spawnTrackWorker
  split
  · exact .of_same (.rfl s)
  · split
    · exact .of_same (.rfl s)
    · have hdrawn : SameMail s { s with uuids := s.uuids + 1 } := .of_eq rfl rfl rfl rfl
      have hinv : TreeInv env { s with uuids := s.uuids + 1 } :=
        h.outside rfl rfl (Nat.le_succ s.uuids)
      exact (TouchMail.of_same hdrawn).trans (spawnAgent_touchMail hinv rootId .track _ answers touch)

/-! ## Notices that wake nobody -/

def ParentAwake (s : SubagentManager) (session : SubagentSession) : Prop :=
  match session.parentId with
  | some parentId => s.isWaiting parentId = false
  | none => True

instance (s : SubagentManager) (session : SubagentSession) : Decidable (ParentAwake s session) := by
  unfold ParentAwake
  split <;> infer_instance

/-- A step that keeps the books in order, and under a condition nobody asleep over its mail. -/
structure NoticeStep (C : Prop) (s s' : SubagentManager) : Prop where
  inOrder : InOrder s → InOrder s'
  awake : C → Awake s → Awake s'

namespace NoticeStep

variable {C D : Prop} {s s' s'' : SubagentManager}

theorem of_mailStep (h : MailStep s s') : NoticeStep C s s' := ⟨h.inOrder, fun _ => h.awake⟩

theorem after (h : MailStep s s') (h' : NoticeStep C s' s'') : NoticeStep C s s'' :=
  ⟨fun hs => h'.inOrder (h.inOrder hs), fun hC hs => h'.awake hC (h.awake hs)⟩

theorem weaken (hCD : C → D) (h : NoticeStep D s s') : NoticeStep C s s' :=
  ⟨h.inOrder, fun hC => h.awake (hCD hC)⟩

end NoticeStep

theorem pushMailbox_noticeStep (s : SubagentManager) (id : JsString) (messages : List AgentMessage) :
    NoticeStep (s.isWaiting id = false) s (s.pushMailbox id messages) :=
  ⟨fun h => pushMailbox_inOrder h id messages, fun hquiet h => pushMailbox_awake h hquiet messages⟩

theorem enqueueParentNotification_noticeStep (s : SubagentManager) (session : SubagentSession)
    (text : JsString) (now : Nat) :
    NoticeStep (ParentAwake s session) s (s.enqueueParentNotification session text now) := by
  unfold enqueueParentNotification ParentAwake
  cases session.parentId with
  | some parentId => exact pushMailbox_noticeStep s _ _
  | none => exact .of_mailStep (.rfl s)

/-- The callback for an outcome notifies a parent that does not wait, or nobody. -/
def HandlerAwake (s : SubagentManager) (number : Nat) : Prop :=
  match s.runs[number]? with
  | some run =>
    match run.phase, s.sessions.get? run.sessionId with
    | .settled (.fulfilled _), some session =>
      session.status = .interrupted ∨ ParentAwake s session
    | .settled (.rejected _), some session =>
      (session.status = .interrupted ∨ run.aborted = true) ∨ ParentAwake s session
    | _, _ => True
  | none => True

instance (s : SubagentManager) (number : Nat) : Decidable (HandlerAwake s number) := by
  dsimp only [HandlerAwake]
  generalize s.runs[number]? = found
  rcases found with _ | run
  · exact instDecidableTrue
  · dsimp only
    generalize run.phase = phase, s.sessions.get? run.sessionId = session
    rcases phase with _ | ⟨_ | _⟩ | _ <;> rcases session with _ | _ <;> (dsimp only; infer_instance)

theorem completeRun_noticeStep (s : SubagentManager) (session : SubagentSession)
    (result : SubagentRunResult) (now : Nat) :
    NoticeStep (session.status = .interrupted ∨ ParentAwake s session) s
      (s.completeRun session result now) := by
  unfold completeRun
  by_cases hst : session.status = .interrupted
  · rw [if_pos hst]
    exact .of_mailStep (.rfl s)
  · rw [if_neg hst]
    refine .weaken ?_ (.after ?_ (enqueueParentNotification_noticeStep _ session _ now))
    · exact fun hawake => hawake.resolve_left hst
    · exact SameMail.mailStep (.modifySession s session.id fun _ => rfl)

theorem failRun_noticeStep (s : SubagentManager) (session : SubagentSession) (aborted : Bool)
    (message : JsString) (now : Nat) :
    NoticeStep ((session.status = .interrupted ∨ aborted = true) ∨ ParentAwake s session) s
      (s.failRun session aborted message now) := by
  unfold failRun
  split
  · exact .of_mailStep (.rfl s)
  next hrun =>
    have hcounts : ¬(session.status = .interrupted ∨ aborted = true) := by
      simpa using hrun
    refine .weaken ?_ (.after ?_ (enqueueParentNotification_noticeStep _ session _ now))
    · exact fun hawake => hawake.resolve_left hcounts
    · exact SameMail.mailStep (.modifySession s session.id fun _ => rfl)

theorem runHandler_noticeStep (s : SubagentManager) (number now : Nat) :
    NoticeStep (HandlerAwake s number) s (s.runHandler number now) := by
  unfold runHandler HandlerAwake
  cases hrun : s.runs[number]? with
  | none => exact .of_mailStep (.rfl s)
  | some run =>
    have hmarked : MailStep s (s.modifyRun number fun run => { run with phase := .handled }) :=
      SameMail.mailStep (.of_eq rfl rfl rfl rfl)
    simp only
    cases hphase : run.phase with
    | settled outcome =>
      cases hget : s.sessions.get? run.sessionId with
      | none =>
        cases outcome with
        | fulfilled result => exact .of_mailStep hmarked
        | rejected message => exact .of_mailStep hmarked
      | some session =>
        cases outcome with
        | fulfilled result =>
          refine .after hmarked (.weaken ?_ (completeRun_noticeStep _ session result now))
          exact fun hawake => hawake
        | rejected message =>
          refine .after hmarked (.weaken ?_ (failRun_noticeStep _ session run.aborted message now))
          exact fun hawake => hawake
    | running | handled | finished | threw => exact .of_mailStep (.rfl s)

/-- The session that an interrupt is for, where its checks pass. -/
def SubagentManager.interruptTarget (s : SubagentManager) (authorId : JsString) (input : Json) :
    Option SubagentSession :=
  match requiredString (input.field? (js "target")) (js "target"), s.ensureSession authorId with
  | .ok value, .ok author =>
    match s.resolveTarget author value with
    | .ok target => if target.id = rootId || target.id = authorId then none else some target
    | .error _ => none
  | _, _ => none

/-- An interrupt that halts a session finds no wait of its parent pending. -/
def InterruptAwake (s : SubagentManager) (authorId : JsString) (input : Json) : Prop :=
  match s.interruptTarget authorId input with
  | some target =>
    SubagentManager.isLive target = true → ParentAwake (s.haltSession target) target
  | none => True

instance (s : SubagentManager) (authorId : JsString) (input : Json) :
    Decidable (InterruptAwake s authorId input) := by
  unfold InterruptAwake
  split <;> infer_instance

theorem interrupt_noticeStep (s : SubagentManager) (authorId : JsString) (input : Json) (now : Nat) :
    NoticeStep (InterruptAwake s authorId input) s (s.interrupt authorId input now).2 := by
  unfold interrupt
  simp only
  split
  · exact .of_mailStep (.rfl s)
  next target hcheck =>
    obtain ⟨value, hvalue, hcheck⟩ := Client.exceptBind_ok.mp hcheck
    obtain ⟨author, hauthor, hcheck⟩ := Client.exceptBind_ok.mp hcheck
    obtain ⟨target', hresolved, hcheck⟩ := Client.exceptBind_ok.mp hcheck
    obtain ⟨hother, hcheck⟩ := Client.exceptGuard_ok.mp hcheck
    obtain rfl : target' = target := Except.ok.inj hcheck
    have htgt : s.interruptTarget authorId input = some target' := by
      unfold interruptTarget
      simp only [hvalue, hauthor, hresolved, if_neg hother]
    split
    next hlive =>
      have hhalted : SameMail s ((s.haltSession target').releaseContextsForAgent target'.id) :=
        (haltSession_sameMail s target').trans (.of_eq rfl rfl rfl rfl)
      refine .weaken ?_ (.after hhalted.mailStep
        (enqueueParentNotification_noticeStep _ target' _ now))
      unfold InterruptAwake
      rw [htgt]
      exact fun hawake => hawake hlive
    next => exact .of_mailStep (.rfl s)

/-! ## The queue of scouts -/

/-- Where a scout of the queue cannot start, no wait of the lead agent is pending. -/
def DrainRoundsAwake (env : SubagentPlatform) (answers : Nat → FirstTouch) :
    Nat → SubagentManager → Prop
  | 0, _ => True
  | fuel + 1, s =>
    match s.foundationQueue with
    | [] => True
    | next :: rest =>
      if !s.hasThreadCapacity then True
      else
        let (scout, started) := SubagentManager.startFoundationScout env
          { s with foundationQueue := rest } next.surfaceId next.firstAgentId (answers fuel).now
          (answers fuel).answers
        if scout.status = .unavailable then
          started.isWaiting rootId = false ∧
            DrainRoundsAwake env answers fuel (started.pushMailbox rootId [userMessage
              (js "Foundation scout for surface " ++ next.surfaceId ++ js " could not start: "
                ++ scout.reason.getD []) (answers fuel).now])
        else DrainRoundsAwake env answers fuel started

instance DrainRoundsAwake.decidable (answers : Nat → FirstTouch) (fuel : Nat) (s : SubagentManager) :
    Decidable (DrainRoundsAwake env answers fuel s) := by
  induction fuel generalizing s with
  | zero => exact .isTrue trivial
  | succ fuel ih =>
    unfold DrainRoundsAwake
    split
    · infer_instance
    · split
      · infer_instance
      · dsimp only
        split
        · exact instDecidableAnd
        · exact ih _

def DrainAwake (env : SubagentPlatform) (answers : Nat → FirstTouch) (s : SubagentManager) : Prop :=
  s.stopped = true ∨ DrainRoundsAwake env answers s.foundationQueue.length s

instance (answers : Nat → FirstTouch) (s : SubagentManager) : Decidable (DrainAwake env answers s) :=
  inferInstanceAs (Decidable (_ ∨ _))

theorem drainRounds_noticeStep (answers : Nat → FirstTouch) (fuel : Nat) (h : TreeInv env s) :
    NoticeStep (DrainRoundsAwake env answers fuel s) s (drainRounds env answers fuel s) := by
  induction fuel generalizing s with
  | zero => exact .of_mailStep (.rfl s)
  | succ fuel ih =>
    unfold drainRounds DrainRoundsAwake
    cases s.foundationQueue with
    | nil => exact .of_mailStep (.rfl s)
    | cons next rest =>
      simp only
      by_cases hcap : (!s.hasThreadCapacity) = true
      · rw [if_pos hcap, if_pos hcap]
        exact .of_mailStep (.rfl s)
      · rw [if_neg hcap, if_neg hcap]
        have htaken : TreeInv env { s with foundationQueue := rest } :=
          h.outside rfl rfl (Nat.le_refl _)
        have hmail : MailStep s { s with foundationQueue := rest } :=
          SameMail.mailStep (.of_eq rfl rfl rfl rfl)
        have hscout : MailStep _ (startFoundationScout env
            { s with foundationQueue := rest } next.surfaceId next.firstAgentId (answers fuel).now
            (answers fuel).answers).2 :=
          (startFoundationScout_touchMail htaken next.surfaceId next.firstAgentId _ _).step
        have hinv : TreeInv env (startFoundationScout env
            { s with foundationQueue := rest } next.surfaceId next.firstAgentId (answers fuel).now
            (answers fuel).answers).2 :=
          (startFoundationScout_treeStep _ next.surfaceId next.firstAgentId _ _).inv htaken
        generalize startFoundationScout env { s with foundationQueue := rest }
          next.surfaceId next.firstAgentId (answers fuel).now (answers fuel).answers = started
          at hscout hinv
        obtain ⟨scout, started⟩ := started
        refine .after (hmail.trans hscout) ?_
        simp only
        by_cases hunav : scout.status = .unavailable
        · rw [if_pos hunav, if_pos hunav]
          -- the lead agent is told, and not woken
          have hpush := pushMailbox_noticeStep started rootId [userMessage
            (js "Foundation scout for surface " ++ next.surfaceId ++ js " could not start: "
              ++ scout.reason.getD []) (answers fuel).now]
          have hrest := ih ((pushMailbox_sameTree started rootId [userMessage
            (js "Foundation scout for surface " ++ next.surfaceId ++ js " could not start: "
              ++ scout.reason.getD []) (answers fuel).now]).treeInv hinv)
          exact ⟨fun hs => hrest.inOrder (hpush.inOrder hs),
            fun hawake hs => hrest.awake hawake.2 (hpush.awake hawake.1 hs)⟩
        · rw [if_neg hunav, if_neg hunav]
          exact ih hinv

theorem drainFoundationQueue_noticeStep (answers : Nat → FirstTouch) (h : TreeInv env s) :
    NoticeStep (DrainAwake env answers s) s (s.drainFoundationQueue env answers) := by
  unfold drainFoundationQueue
  split
  · exact .of_mailStep (.rfl s)
  next hrun =>
    exact .weaken (fun hawake => hawake.resolve_left (by simpa using hrun))
      (drainRounds_noticeStep answers _ h)

/-- What a run that has finished leaves, before the queue of scouts is drained. -/
def SubagentManager.freed (s : SubagentManager) (number : Nat) (session : SubagentSession) :
    SubagentManager :=
  let finished := s.modifyRun number fun run => { run with phase := .finished }
  let released := (finished.releaseContextsForAgent session.id).modifySession session.id
    fun session =>
      { session with promise := if session.promise = some number then none else session.promise }
  let scoutPath := (session.surfaceId.bind released.foundationScouts.get?).bind (·.agentPath)
  if (js "surface_foundation_").isPrefixOf session.taskName && scoutPath = some session.path then
    { released with
      foundationScouts := released.foundationScouts.delete (session.surfaceId.getD []) }
  else released

/-- The last callback drains the queue where no wait of the lead agent is in the way. -/
def FinalizerAwake (env : SubagentPlatform) (s : SubagentManager) (number : Nat)
    (answers : Nat → FirstTouch) : Prop :=
  match s.runs[number]? with
  | some run =>
    match run.phase, s.sessions.get? run.sessionId with
    | .handled, some session => DrainAwake env answers (s.freed number session)
    | _, _ => True
  | none => True

instance (s : SubagentManager) (number : Nat) (answers : Nat → FirstTouch) :
    Decidable (FinalizerAwake env s number answers) := by
  dsimp only [FinalizerAwake]
  generalize s.runs[number]? = found
  rcases found with _ | run
  · exact instDecidableTrue
  · dsimp only
    generalize run.phase = phase, s.sessions.get? run.sessionId = session
    rcases phase with _ | ⟨_ | _⟩ | _ <;> rcases session with _ | _ <;> (dsimp only; infer_instance)

theorem freed_same (s : SubagentManager) (number : Nat) (session : SubagentSession) :
    SameMail s (s.freed number session) ∧ SameTree s (s.freed number session) := by
  have hfinished : SameMail s ((s.modifyRun number fun run => { run with phase := .finished }
      ).releaseContextsForAgent session.id) := .of_eq rfl rfl rfl rfl
  have htree : SameTree s ((s.modifyRun number fun run => { run with phase := .finished }
      ).releaseContextsForAgent session.id) := .of_eq rfl rfl (Nat.le_refl _)
  have hrel := hfinished.trans (.modifySession _ session.id
    (f := fun session =>
      { session with promise := if session.promise = some number then none else session.promise })
    fun _ => rfl)
  have htreeReleased := htree.trans (.modifySession _ session.id
    (f := fun session =>
      { session with promise := if session.promise = some number then none else session.promise })
    fun _ => rfl)
  unfold freed
  simp only
  split
  · exact ⟨hrel.trans (.of_eq rfl rfl rfl rfl), htreeReleased.trans (.of_eq rfl rfl (Nat.le_refl _))⟩
  · exact ⟨hrel, htreeReleased⟩

theorem runFinally_noticeStep (h : TreeInv env s) (number : Nat) (answers : Nat → FirstTouch) :
    NoticeStep (FinalizerAwake env s number answers) s (s.runFinally env number answers) := by
  unfold runFinally FinalizerAwake
  cases hrun : s.runs[number]? with
  | none => exact .of_mailStep (.rfl s)
  | some run =>
    simp only
    cases hphase : run.phase with
    | handled =>
      cases hget : s.sessions.get? run.sessionId with
      | none => exact .of_mailStep (.rfl s)
      | some session =>
        obtain ⟨hmail, htree⟩ := freed_same s number session
        exact .after hmail.mailStep (drainFoundationQueue_noticeStep answers (htree.treeInv h))
    | running | settled | finished | threw => exact .of_mailStep (.rfl s)

/-! ## Every run -/

/-- A notice that is pushed without waking its addressee finds no wait pending. -/
def NotifiesAwake (env : SubagentPlatform) (s : SubagentManager) : ManagerInput → Prop
  | .handler number _ => HandlerAwake s number
  | .interrupt authorId input _ => InterruptAwake s authorId input
  | .finalizer number answers => FinalizerAwake env s number answers
  | .drain answers => DrainAwake env answers s
  | _ => True

instance (s : SubagentManager) (i : ManagerInput) : Decidable (NotifiesAwake env s i) := by
  rcases i with _ | _ <;> (dsimp only [NotifiesAwake]; infer_instance)

theorem step_noticeStep (h : TreeInv env s) (i : ManagerInput) :
    NoticeStep (NotifiesAwake env s i) s (step env s i) := by
  cases i with
  | captureContext agentId toolCallId messages =>
    refine .of_mailStep (SameMail.mailStep ?_)
    show SameMail s (s.captureContext agentId toolCallId messages)
    unfold SubagentManager.captureContext
    split
    · exact .of_eq rfl rfl rfl rfl
    · exact .rfl s
  | releaseContext toolCallId => exact .of_mailStep (SameMail.mailStep (.of_eq rfl rfl rfl rfl))
  | spawnAgent parentId toolCallId input answers touch =>
    exact .of_mailStep (spawnAgent_touchMail h parentId (.tool toolCallId) input answers touch).step
  | spawnTrackWorker assignment answers touch =>
    exact .of_mailStep (spawnTrackWorker_touchMail h assignment answers touch).step
  | firstTouch surfaceId firstAgentId touch =>
    exact .of_mailStep (spawnFoundationScout_touchMail h surfaceId firstAgentId touch).step
  | sendMessage authorId input triggerTurn answers now =>
    exact .of_mailStep (sendMessage_mailStep s authorId input triggerTurn answers now)
  | interrupt authorId input now => exact interrupt_noticeStep s authorId input now
  | interruptAll => exact .of_mailStep (interruptAll_sameMail s).mailStep
  | settle number outcome => exact .of_mailStep (SameMail.mailStep (.of_eq rfl rfl rfl rfl))
  | handler number now => exact runHandler_noticeStep s number now
  | finalizer number answers => exact runFinally_noticeStep h number answers
  | drain answers => exact drainFoundationQueue_noticeStep answers h
  | takeMailbox agentId => exact .of_mailStep (takeMailbox_mailStep s agentId)
  | waitForMailbox agentId signal aborted =>
    exact .of_mailStep (waitForMailbox_mailStep s agentId signal aborted)
  | abortWaits number => exact .of_mailStep (abortWaits_sameMail s (.other number)).mailStep
  | broadcastHostSteering messages => exact .of_mailStep (broadcastHostSteering_mailStep s messages)

theorem new_mail (options : CreateSubagentManagerOptions) :
    InOrder (new options) ∧ Awake (new options) := by
  refine ⟨fun id => ?_, fun _ _ => rfl⟩
  show ([] : List AgentMessage) = [] ++ (((JsMap.empty.set rootId (rootSession options)).get? id).map
    (·.mailbox)).getD []
  rw [JsMap.get?_set]
  split <;> rfl

/-- The lead agent waits, and gets a message of its child. -/
def waitedMessage : List ManagerInput :=
  [spawnTask (js "a"), .waitForMailbox rootId none false,
    .sendMessage (agentId asciiPlatform 0)
      (.obj [(js "target", .str rootId), (js "message", .str (js "found"))]) false quietLaunch 0,
    returns 0 (js "done"), .handler 0 0]

/-- The lead agent waits while its child completes. -/
def waitedCompletion : List ManagerInput :=
  [spawnTask (js "a"), .waitForMailbox rootId none false, returns 0 (js "done"), .handler 0 0]

end Beale.Subagents
