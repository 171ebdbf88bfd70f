import Beale.Library.Run
import Beale.Subagents.Session

/-!
# The subagent manager

`SubagentManager` keeps the tree of agent sessions: it launches them, passes
messages between them, interrupts them, and takes in what their runs return.
A run is a promise of the host, so the manager is a machine whose inputs are the
tool calls, the settlements of the promises, and the callbacks that follow them.
-/

namespace Beale.Subagents

open Beale.Library

/-- The messages of an agent when it made a tool call. -/
structure ContextSnapshot where
  agentId : JsString
  messages : List AgentMessage

/-- The signal a mailbox wait listens to: a run's, or another. -/
inductive WaitSignal where
  | run (number : Nat)
  | other (number : Nat)
deriving DecidableEq

structure MailboxWaiter where
  signal : Option WaitSignal

/-- A foundation scout that waits for a free slot. -/
structure FoundationRequest where
  surfaceId : JsString
  firstAgentId : JsString

inductive FoundationScoutStatus where
  | queued
  | running
  | unavailable
deriving DecidableEq, Repr

structure SurfaceFoundationScout where
  status : FoundationScoutStatus
  agentPath : Option JsString
  reason : Option JsString

/-- `CreateSubagentManagerOptions`, without the callbacks. -/
structure CreateSubagentManagerOptions where
  rootProvider : JsString
  rootModel : JsString
  rootReasoning : Option JsString
  maxThreads : Option JsNumber
  maxDepth : Option JsNumber
  maxChildrenPerNonRootAgent : Option JsNumber
  maxConcurrentRooms : Option JsNumber
  maxMembersPerRoom : Option JsNumber
  delegationRoles : List SubagentDelegationRole
  providerPreferences : List SubagentProviderPreference
  hasSurfaceStore : Bool

/-- The state of a `SubagentManager`. -/
structure SubagentManager where
  maxThreads : Nat
  maxDepth : Nat
  maxChildrenPerNonRootAgent : Option Nat
  maxConcurrentRooms : Nat
  maxMembersPerRoom : Nat
  delegationRoles : JsMap JsString SubagentDelegationRole
  providerPreferences : List SubagentProviderPreference
  hasSurfaceStore : Bool
  sessions : JsMap JsString SubagentSession
  contextSnapshots : JsMap JsString ContextSnapshot
  mailboxWaiters : JsMap JsString MailboxWaiter
  providerPreferenceCursor : Nat
  foundationQueue : List FoundationRequest
  foundationScouts : JsMap JsString SurfaceFoundationScout
  stopped : Bool
  runs : List SubagentRun
  uuids : Nat
  posted : List (JsString × List AgentMessage)
  delivered : List (JsString × List AgentMessage)

/-- What the host answers to a launch: the lines that name the assigned surface, and the error,
if `run` throws instead of returning a promise. -/
structure LaunchAnswers where
  assignment : List JsString
  error : Option JsString

/-- What the host answers to a spawn: the errors of the surface store, and the launch. -/
structure SpawnAnswers where
  requireError : Option JsString
  focusError : Option JsString
  launch : LaunchAnswers

/-- The first touch of a surface, with the answers to the scout it starts. -/
structure FirstTouch where
  now : Nat
  answers : SpawnAnswers

def defaultMaxThreads : Nat := 6
def defaultMaxDepth : Nat := 1

/-- `Number.MAX_SAFE_INTEGER`. -/
def maxSafeInteger : Int := 2 ^ 53 - 1

def nonNegativeInteger : Option JsNumber → Option Nat
  | some (.integer n) => if 0 ≤ n ∧ n ≤ maxSafeInteger then some n.toNat else none
  | _ => none

def positiveInteger (value : Option JsNumber) : Option Nat :=
  (nonNegativeInteger value).filter (0 < ·)

/-- The id of the lead agent. -/
def rootId : JsString := js "root"

def rootSession (options : CreateSubagentManagerOptions) : SubagentSession where
  id := rootId
  path := js "/root"
  taskName := js "root"
  parentId := none
  depth := 0
  provider := options.rootProvider
  model := options.rootModel
  reasoning := options.rootReasoning
  forkTurns := js "all"
  freshSubagentContext := false
  roomName := none
  roomTitle := none
  roomKind := none
  role := none
  trackClaimId := none
  surfaceId := none
  status := .running
  output := none
  error := none
  messages := []
  mailbox := []
  controller := none
  promise := none
  turnCount := 0
  toolCallCount := 0
  modelCalls := []

namespace SubagentManager

/-- `new SubagentManager(options)`. -/
def new (options : CreateSubagentManagerOptions) : SubagentManager :=
  let maxThreads := (positiveInteger options.maxThreads).getD defaultMaxThreads
  { maxThreads
    maxDepth := max (if options.hasSurfaceStore then 1 else 0)
      ((nonNegativeInteger options.maxDepth).getD defaultMaxDepth)
    maxChildrenPerNonRootAgent := positiveInteger options.maxChildrenPerNonRootAgent
    maxConcurrentRooms := (positiveInteger options.maxConcurrentRooms).getD maxThreads
    maxMembersPerRoom := (positiveInteger options.maxMembersPerRoom).getD maxThreads
    delegationRoles := options.delegationRoles.foldl (fun m role => m.set role.id role) .empty
    providerPreferences := options.providerPreferences.filter (·.enabled)
    hasSurfaceStore := options.hasSurfaceStore
    sessions := JsMap.empty.set rootId (rootSession options)
    contextSnapshots := .empty
    mailboxWaiters := .empty
    providerPreferenceCursor := 0
    foundationQueue := []
    foundationScouts := .empty
    stopped := false
    runs := []
    uuids := 0
    posted := []
    delivered := [] }

/-! ## Reading the sessions -/

def ensureSession (s : SubagentManager) (id : JsString) : Except JsString SubagentSession :=
  match s.sessions.get? id with
  | some session => .ok session
  | none => .error (js "Unknown agent: " ++ id)

/-- Whether a session counts against the thread limit. -/
def isActive (session : SubagentSession) : Bool := session.id ≠ rootId && session.status = .running

def activeThreadCount (s : SubagentManager) : Nat := s.sessions.values.countP isActive

def hasThreadCapacity (s : SubagentManager) : Bool := s.activeThreadCount + 1 ≤ s.maxThreads

/-- `Subagent concurrency limit reached (maxThreads).` -/
def concurrencyLimitReached (s : SubagentManager) : JsString :=
  js "Subagent concurrency limit reached (" ++ natText s.maxThreads ++ js ")."

def hasReachedChildLimit (s : SubagentManager) (parentId : JsString) : Bool :=
  parentId ≠ rootId && match s.maxChildrenPerNonRootAgent with
    | some limit => limit ≤ s.sessions.values.countP fun session => session.parentId = some parentId
    | none => false

def resolveTarget (s : SubagentManager) (author : SubagentSession) (value : JsString) :
    Except JsString SubagentSession :=
  match s.sessions.get? value with
  | some session => .ok session
  | none =>
    let canonical := if value.head? = some 47 then value else author.path ++ js "/" ++ value
    match s.sessions.values.find? fun session => session.path = canonical || session.path = value with
    | some exact => .ok exact
    | none =>
      match s.sessions.values.filter fun session => session.taskName = value with
      | [only] => .ok only
      | _ => .error (js "Unknown or ambiguous agent target: " ++ value)

def requireDelegationRole (env : SubagentPlatform) (s : SubagentManager) (value : Option JsString) :
    Except JsString SubagentDelegationRole :=
  match value with
  | none =>
    .error (js "role is required and must be one of: "
      ++ joinWith (js ", ") s.delegationRoles.keys ++ js ".")
  | some value =>
    match s.delegationRoles.get? (env.toLowerCase value) with
    | some role => .ok role
    | none =>
      .error (js "Unsupported delegation role " ++ value ++ js ". Expected one of: "
        ++ joinWith (js ", ") s.delegationRoles.keys ++ js ".")

/-! ## Contexts and mailboxes -/

/-- A session changed in place. -/
def modifySession (s : SubagentManager) (id : JsString) (f : SubagentSession → SubagentSession) :
    SubagentManager :=
  { s with sessions := s.sessions.modify id f }

def captureContext (s : SubagentManager) (agentId toolCallId : JsString)
    (messages : List AgentMessage) : SubagentManager :=
  if s.sessions.has agentId then
    { s with contextSnapshots := s.contextSnapshots.set toolCallId ⟨agentId, messages⟩ }
  else s

def releaseContext (s : SubagentManager) (toolCallId : JsString) : SubagentManager :=
  { s with contextSnapshots := s.contextSnapshots.delete toolCallId }

def releaseContextsForAgent (s : SubagentManager) (agentId : JsString) : SubagentManager :=
  let toolCallIds := (s.contextSnapshots.entries.filter (·.2.agentId = agentId)).map (·.1)
  { s with contextSnapshots := s.contextSnapshots.deleteAll toolCallIds }

/-- `takeContextSnapshot`: the messages, and the state without the snapshot. -/
def takeContextSnapshot (s : SubagentManager) (agentId toolCallId : JsString) :
    List AgentMessage × SubagentManager :=
  let messages := match s.contextSnapshots.get? toolCallId with
    | some snapshot => if snapshot.agentId = agentId then snapshot.messages else []
    | none => []
  (messages, s.releaseContext toolCallId)

def pushMailbox (s : SubagentManager) (id : JsString) (messages : List AgentMessage) :
    SubagentManager :=
  { (s.modifySession id fun session => { session with mailbox := session.mailbox ++ messages }) with
    posted := if s.sessions.has id then s.posted ++ [(id, messages)] else s.posted }

def takeMailbox (s : SubagentManager) (agentId : JsString) : SubagentManager :=
  match s.sessions.get? agentId with
  | none => s
  | some session =>
    { (s.modifySession agentId fun session => { session with mailbox := [] }) with
      delivered := s.delivered ++ [(agentId, session.mailbox)] }

def flushMailboxWaiter (s : SubagentManager) (agentId : JsString) : SubagentManager :=
  match s.mailboxWaiters.get? agentId, s.sessions.get? agentId with
  | some _, some session =>
    if session.mailbox.isEmpty then s
    else takeMailbox { s with mailboxWaiters := s.mailboxWaiters.delete agentId } agentId
  | _, _ => s

/-- `waitForMailbox`, under a signal that is aborted or not. -/
def waitForMailbox (s : SubagentManager) (agentId : JsString) (signal : Option WaitSignal)
    (aborted : Bool) : SubagentManager :=
  match s.sessions.get? agentId with
  | none => s
  | some session =>
    if !session.mailbox.isEmpty then s.takeMailbox agentId
    else if signal.isSome && aborted then s
    else if s.mailboxWaiters.has agentId then s
    else { s with mailboxWaiters := s.mailboxWaiters.set agentId ⟨signal⟩ }

/-- The abort of a signal: the waits that listen to it end with nothing. -/
def abortWaits (s : SubagentManager) (signal : WaitSignal) : SubagentManager :=
  let agentIds := (s.mailboxWaiters.entries.filter (·.2.signal = some signal)).map (·.1)
  { s with mailboxWaiters := s.mailboxWaiters.deleteAll agentIds }

def isLive (session : SubagentSession) : Bool :=
  session.status = .running || session.status = .pending

def broadcastHostSteering (s : SubagentManager) (messages : List AgentMessage) : SubagentManager :=
  if messages.isEmpty || !messages.all (hasRole (js "user")) then s
  else (s.sessions.values.filter isLive).foldl
    (fun s session => (s.pushMailbox session.id messages).flushMailboxWaiter session.id) s

def enqueueParentNotification (s : SubagentManager) (session : SubagentSession) (text : JsString)
    (now : Nat) : SubagentManager :=
  match session.parentId with
  | some parentId => s.pushMailbox parentId (agentMessages session.path session.model text now)
  | none => s

/-! ## Runs -/

/-- A run changed in place. -/
def modifyRun (s : SubagentManager) (number : Nat) (f : SubagentRun → SubagentRun) :
    SubagentManager :=
  { s with runs := s.runs.modify number f }

/-- `controller.abort()`: the run's signal is aborted. -/
def abortRun (s : SubagentManager) (number : Nat) : SubagentManager :=
  (s.modifyRun number fun run => { run with aborted := true }).abortWaits (.run number)

/-- `launch`: the error, if the host's `run` throws, and the state. The promise is stored only
where there is one. -/
def launch (s : SubagentManager) (session : SubagentSession) (prompt : JsString)
    (inheritedMessages : List AgentMessage) (answers : LaunchAnswers) :
    Option JsString × SubagentManager :=
  let number := s.runs.length
  let run : SubagentRun := {
    sessionId := session.id
    prompt := delegationPrompt (session.role.bind s.delegationRoles.get?) answers.assignment prompt
    inheritedMessages
    phase := if answers.error.isSome then .threw else .running
    aborted := false }
  let started := s.modifySession session.id fun session =>
    { session with
      controller := some number
      status := .running
      error := none
      promise := if answers.error.isSome then session.promise else some number }
  (answers.error, { started with runs := s.runs ++ [run] })

/-! ## Spawning -/

end SubagentManager

/-- What a spawn has checked before it picks a provider. -/
structure SpawnRequest where
  parent : SubagentSession
  taskName : JsString
  path : JsString
  message : JsString
  surfaceId : Option JsString
  forkTurns : ForkTurns
  provider : Option JsString
  model : Option JsString
  reasoning : Option JsString
  requestedRole : Option JsString
  delegationRole : Option SubagentDelegationRole

structure RoomAssignment where
  name : JsString
  title : JsString
  kind : JsString

namespace SubagentManager

/-- The checks of `spawn`, up to the choice of a provider. -/
def spawnRequest (env : SubagentPlatform) (s : SubagentManager) (parentId : JsString) (input : Json)
    (automaticTrackWorker : Bool) (requireError : Option JsString) : Except JsString SpawnRequest := do
  let parent ← s.ensureSession parentId
  if s.maxDepth ≤ parent.depth then
    throw (js "Subagent depth limit reached (" ++ natText s.maxDepth ++ js ").")
  let taskName ← requiredString (input.field? (js "task_name")) (js "task_name")
  if !isTaskName taskName then
    throw (js "task_name must use lowercase letters, digits, and underscores.")
  let path := parent.path ++ js "/" ++ taskName
  if s.sessions.values.any fun session => session.path = path then
    throw (js "Agent task path already exists: " ++ path)
  if s.hasReachedChildLimit parentId then
    throw (js "This Track worker has already spawned its one subagent. Use followup_task for that child.")
  if s.maxThreads ≤ s.activeThreadCount then throw s.concurrencyLimitReached
  let message ← requiredString (input.field? (js "message")) (js "message")
  let surfaceId ←
    if !s.hasSurfaceStore then pure none
    else if automaticTrackWorker then pure (optionalString (input.field? (js "surface_id")))
    else some <$> requiredString (input.field? (js "surface_id")) (js "surface_id")
  match surfaceId, requireError with
  | some _, some error => throw error
  | _, _ => pure ()
  let forkTurns ←
    normalizeForkTurns env ((optionalString (input.field? (js "fork_turns"))).getD (js "none"))
  let provider := optionalString (input.field? (js "provider"))
  let model := optionalString (input.field? (js "model"))
  let reasoning := optionalReasoning (input.field? (js "reasoning_effort"))
  let requestedRole :=
    if s.delegationRoles.entries.isEmpty then none else optionalString (input.field? (js "role"))
  let delegationRole ←
    if s.delegationRoles.entries.isEmpty then pure none
    else some <$> s.requireDelegationRole env requestedRole
  if forkTurns = .all && (provider.isSome || model.isSome || reasoning.isSome) then
    throw (js "Full-history children inherit the parent provider, model, and reasoning effort. Omit routing overrides or use partial/no inheritance.")
  return {
    parent, taskName, path, message, surfaceId, forkTurns, provider, model, reasoning
    requestedRole, delegationRole }

/-- The provider of a spawn, and the cursor after it. An automatic one takes its parent's,
where no preference serves its role. -/
def spawnPreference (s : SubagentManager) (request : SpawnRequest) (automatic : Bool) :
    Except JsString (Option SubagentProviderPreference × Nat) :=
  let unserved := match request.delegationRole with
    | some role => !s.providerPreferences.any fun candidate => candidate.serves role.id
    | none => false
  if automatic && unserved then .ok (none, s.providerPreferenceCursor)
  else selectProviderPreference s.providerPreferences s.providerPreferenceCursor request.provider
    request.model request.parent (request.delegationRole.map (·.id))

def spawnRoom (env : SubagentPlatform) (s : SubagentManager) (input : Json) :
    Except JsString (Option RoomAssignment) :=
  let title := optionalString (input.field? (js "room_title"))
  let kind := optionalString (input.field? (js "room_kind"))
  match optionalString (input.field? (js "room_name")) with
  | none =>
    if title.isSome || kind.isSome then
      .error (js "room_name is required when room_title or room_kind is provided.")
    else .ok none
  | some requested => do
    let name ← normalizeRoomName env requested
    let activeRoomNames :=
      ((s.sessions.values.filter isActive).filterMap (·.roomName)).dedup
    if name ∉ activeRoomNames ∧ s.maxConcurrentRooms ≤ activeRoomNames.length then
      throw (js "Breakout room concurrency limit reached (" ++ natText s.maxConcurrentRooms ++ js ").")
    if s.maxMembersPerRoom ≤ s.sessions.values.countP fun session =>
        session.id ≠ rootId && session.roomName = some name then
      throw (js "Breakout room " ++ name ++ js " member limit reached ("
        ++ natText s.maxMembersPerRoom ++ js ").")
    return some ⟨name, title.getD (titleFromRoomName name), normalizeRoomKind kind⟩

end SubagentManager

/-- The id of the session that draws a UUID. -/
def agentId (env : SubagentPlatform) (uuid : Nat) : JsString :=
  js "agent_" ++ withoutDashes (env.randomUUID uuid)

def childSession (id parentId : JsString) (request : SpawnRequest)
    (preference : Option SubagentProviderPreference) (room : Option RoomAssignment)
    (inherited : List AgentMessage) (trackClaimId : Option JsString) : SubagentSession where
  id := id
  path := request.path
  taskName := request.taskName
  parentId := some parentId
  depth := request.parent.depth + 1
  provider := (preference.map (·.provider)).getD request.parent.provider
  model := (preference.map (·.model)).getD request.parent.model
  reasoning := request.reasoning <|> preference.bind (·.reasoning) <|> request.parent.reasoning
  forkTurns := request.forkTurns.text
  freshSubagentContext := request.forkTurns = .none
  roomName := room.map (·.name)
  roomTitle := room.map (·.title)
  roomKind := room.map (·.kind)
  role := (request.delegationRole.map (·.id)) <|>
    room.map fun _ => request.requestedRole.getD (js "researcher")
  trackClaimId := trackClaimId
  surfaceId := request.surfaceId
  status := .pending
  output := none
  error := none
  messages := inherited
  mailbox := []
  controller := none
  promise := none
  turnCount := 0
  toolCallCount := 0
  modelCalls := []

namespace SubagentManager

/-- The child's session is registered, focused and launched. `onFirstTouch` is what the surface
store's handler does, if the focus is the first touch of the surface. -/
def startChild (s : SubagentManager) (child : SubagentSession) (message : JsString)
    (answers : SpawnAnswers) (onFirstTouch : SubagentManager → SubagentManager) :
    Except JsString SubagentSession × SubagentManager :=
  let registered := { s with sessions := s.sessions.set child.id child }
  let focused := if child.surfaceId.isSome then onFirstTouch registered else registered
  match child.surfaceId, answers.focusError with
  | some _, some error =>
    (.error error, { focused with sessions := focused.sessions.delete child.id })
  | _, _ =>
    match focused.launch child message child.messages answers.launch with
    | (some error, launched) =>
      (.error error, { launched with sessions := launched.sessions.delete child.id })
    | (none, launched) => (.ok child, launched)

/-- Who spawns: a tool call of an agent, or the manager for a scout or a track worker. -/
inductive SpawnKind where
  | tool (toolCallId : JsString)
  | foundation
  | track
deriving DecidableEq

/-- The messages a spawn starts from, with the call that asks for it, and the state after. -/
def spawnContext (s : SubagentManager) (parentId : JsString) :
    SpawnKind → List AgentMessage × JsString × SubagentManager
  | .tool toolCallId =>
    let (messages, taken) := s.takeContextSnapshot parentId toolCallId
    (messages, toolCallId, taken)
  | _ => ([], [], s)

/-- `spawn`: the child, or the error, and the state. -/
def spawn (env : SubagentPlatform) (s : SubagentManager) (parentId : JsString) (kind : SpawnKind)
    (input : Json) (answers : SpawnAnswers) (onFirstTouch : SubagentManager → SubagentManager) :
    Except JsString SubagentSession × SubagentManager :=
  let (parentMessages, toolCallId, taken) := s.spawnContext parentId kind
  match taken.spawnRequest env parentId input (kind = .track) answers.requireError with
  | .error error => (.error error, taken)
  | .ok request =>
    let inherited := inheritMessages parentMessages toolCallId request.forkTurns
    match taken.spawnPreference request (kind = .foundation || kind = .track) with
    | .error error => (.error error, taken)
    | .ok (preference, cursor) =>
      let chosen := { taken with providerPreferenceCursor := cursor }
      match chosen.spawnRoom env input with
      | .error error => (.error error, chosen)
      | .ok room =>
        let trackClaimId :=
          if kind = .track then optionalString (input.field? (js "track_claim_id")) else none
        let child := childSession (agentId env chosen.uuids) parentId request preference room inherited
          trackClaimId
        startChild { chosen with uuids := chosen.uuids + 1 } child request.message answers onFirstTouch

/-! ## Foundation scouts and track workers -/

def foundationMessage : JsString :=
  js "Give this component a concise research foundation. First check whether it "
    ++ js "can affect an eligible deployed target under the recorded program rules. If "
    ++ js "policy or target evidence establishes a component-level scope decision, "
    ++ js "record foundation.scopeAssessment with a basis and references; leave it "
    ++ js "unset when uncertain, and never infer exclusion from a test or example name "
    ++ js "alone. Identify its role, neighboring components, relevant trust "
    ++ js "boundaries, what is already known, and useful open leads. Use "
    ++ js "surface.update for partial notes and a Mermaid threatModel.diagram grounded "
    ++ js "in observed or explicitly assumed relationships. When scope and "
    ++ js "reconnaissance support an assessment, score impact, reachability, "
    ++ js "relevance, exposure, and precedence from 1 to 10 with a basis for each in "
    ++ js "foundation.ranking; leave it unscored otherwise. Record useful threat-model "
    ++ js "context; progress follows the current claims and can change later. Keep "
    ++ js "hypotheses and tests in research records rather than making them child "
    ++ js "surfaces. Create a child surface only for a concrete subcomponent with a "
    ++ js "stable noun name. Coordinate with the main agent and report useful "
    ++ js "observations and limits."

/-- The arguments of the spawn of a foundation scout. -/
def foundationInput (env : SubagentPlatform) (s : SubagentManager) (surfaceId : JsString) : Json :=
  .obj ([(js "task_name",
      .str (js "surface_foundation_" ++ (withoutDashes (env.randomUUID s.uuids)).take 12)),
    (js "surface_id", Json.str surfaceId)]
    ++ (if s.delegationRoles.has (js "discoverer") then [(js "role", Json.str (js "discoverer"))] else [])
    ++ [(js "message", Json.str foundationMessage)])

/-- `startFoundationScout`. The scout's own focus finds the scout it is: nothing happens then. -/
def startFoundationScout (env : SubagentPlatform) (s : SubagentManager) (surfaceId firstAgentId : JsString)
    (now : Nat) (answers : SpawnAnswers) : SurfaceFoundationScout × SubagentManager :=
  let starting := { s with
    foundationScouts := s.foundationScouts.set surfaceId
      ⟨.queued, none, some (js "Starting the foundation scout.")⟩
    uuids := s.uuids + 1 }
  match starting.spawn env rootId .foundation (s.foundationInput env surfaceId) answers id with
  | (.ok child, spawned) =>
    let told :=
      if firstAgentId = rootId then spawned
      else (spawned.pushMailbox rootId [userMessage (js "First touch of surface " ++ surfaceId
        ++ js " started foundation scout " ++ child.path
        ++ js ". Coordinate to avoid overlapping work.") now]).flushMailboxWaiter rootId
    let running : SurfaceFoundationScout := ⟨.running, some child.path, none⟩
    (running, { told with foundationScouts := told.foundationScouts.set surfaceId running })
  | (.error error, failed) =>
    (⟨.unavailable, none, some error⟩,
      { failed with foundationScouts := failed.foundationScouts.delete surfaceId })

/-- `spawnFoundationScout`: what the first touch of a surface does. -/
def spawnFoundationScout (env : SubagentPlatform) (s : SubagentManager) (surfaceId firstAgentId : JsString)
    (touch : FirstTouch) : SurfaceFoundationScout × SubagentManager :=
  if s.stopped then (⟨.unavailable, none, some (js "The session is stopping.")⟩, s)
  else match s.foundationScouts.get? surfaceId with
    | some existing => (existing, s)
    | none =>
      if !s.hasThreadCapacity then
        let queued : SurfaceFoundationScout :=
          ⟨.queued, none, some (js "Waiting for an available collaborator slot.")⟩
        (queued, { s with
          foundationQueue := s.foundationQueue ++ [⟨surfaceId, firstAgentId⟩]
          foundationScouts := s.foundationScouts.set surfaceId queued })
      else s.startFoundationScout env surfaceId firstAgentId touch.now touch.answers

/-- The first `fuel` rounds of `drainFoundationQueue`; round `n` is answered by `answers n`. -/
def drainRounds (env : SubagentPlatform) (answers : Nat → FirstTouch) :
    Nat → SubagentManager → SubagentManager
  | 0, s => s
  | fuel + 1, s =>
    match s.foundationQueue with
    | [] => s
    | next :: rest =>
      if !s.hasThreadCapacity then s
      else
        let (scout, started) := startFoundationScout env { s with foundationQueue := rest }
          next.surfaceId next.firstAgentId (answers fuel).now (answers fuel).answers
        drainRounds env answers fuel <|
          if scout.status = .unavailable then
            started.pushMailbox rootId [userMessage (js "Foundation scout for surface " ++ next.surfaceId
              ++ js " could not start: " ++ scout.reason.getD []) (answers fuel).now]
          else started

/-- `drainFoundationQueue`: every round takes one request out of the queue. -/
def drainFoundationQueue (env : SubagentPlatform) (s : SubagentManager) (answers : Nat → FirstTouch) :
    SubagentManager :=
  if s.stopped then s else drainRounds env answers s.foundationQueue.length s

def focusSurface (env : SubagentPlatform) (s : SubagentManager) (agentId : JsString)
    (surfaceId : Option Json) (touch : Option FirstTouch) : SubagentManager :=
  match touch, optionalString surfaceId with
  | some touch, some surfaceId => (s.spawnFoundationScout env surfaceId agentId touch).2
  | _, _ => s

/-- `spawn_agent`: a spawn whose focus may be the first touch of its surface. -/
def spawnAgent (env : SubagentPlatform) (s : SubagentManager) (parentId : JsString)
    (kind : SpawnKind) (input : Json) (answers : SpawnAnswers) (touch : Option FirstTouch) :
    Except JsString SubagentSession × SubagentManager :=
  s.spawn env parentId kind input answers fun registered =>
    registered.focusSurface env (agentId env s.uuids) (input.field? (js "surface_id")) touch

end SubagentManager

structure TrackWorkerAssignment where
  role : JsString
  claimId : JsString
  claimRevision : Nat
  surfaceId : Option JsString

namespace SubagentManager

def trackMessage (role : SubagentDelegationRole) (assignment : TrackWorkerAssignment) : JsString :=
  joinWith (js "\n") [
    js "Track worker assignment: " ++ role.label ++ js ".",
    js "Canonical claim: " ++ assignment.claimId ++ js ", expected revision "
      ++ natText assignment.claimRevision ++ js ".",
    js "Read the current claim and its evidence before acting. Recheck its revision before a write.",
    js "You may spawn one subagent for a bounded independent check. For independent verification, choose Reviewer with fork_turns=none, then inspect its durable evidence before a decision.",
    js "Work only on this assigned claim and its necessary component evidence. Current-epoch discovery remains with the lead agent. Record durable results; do not call track.checkpoint.",
    js "If the claim is no longer eligible, stop without manufacturing work. Return the result and exact remaining dependency to the discovery lead."]

/-- The arguments of the spawn of a track worker. -/
def trackInput (env : SubagentPlatform) (s : SubagentManager) (role : SubagentDelegationRole)
    (assignment : TrackWorkerAssignment) : Json :=
  .obj ([(js "task_name", Json.str (js "track_" ++ assignment.role ++ js "_"
      ++ (withoutDashes (env.randomUUID s.uuids)).take 10)),
    (js "role", Json.str assignment.role), (js "track_claim_id", Json.str assignment.claimId)]
    ++ (match assignment.surfaceId with
      | some (u :: rest) => [(js "surface_id", Json.str (u :: rest))]
      | _ => [])
    ++ [(js "fork_turns", Json.str (js "none")), (js "message", Json.str (trackMessage role assignment))])

def spawnTrackWorker (env : SubagentPlatform) (s : SubagentManager) (assignment : TrackWorkerAssignment)
    (answers : SpawnAnswers) (touch : Option FirstTouch) :
    Except JsString SubagentSession × SubagentManager :=
  if s.stopped then (.error (js "The track session is stopping."), s)
  else match s.requireDelegationRole env (some assignment.role) with
    | .error error => (.error error, s)
    | .ok role =>
      spawnAgent env { s with uuids := s.uuids + 1 } rootId .track (s.trackInput env role assignment)
        answers touch

/-! ## Messages and interrupts -/

/-- `sendMessage`: whether a turn was triggered, or the error. -/
def sendMessage (s : SubagentManager) (authorId : JsString) (input : Json) (triggerTurn : Bool)
    (answers : LaunchAnswers) (now : Nat) : Except JsString Bool × SubagentManager :=
  let checked : Except JsString (SubagentSession × SubagentSession × JsString) := do
    let author ← s.ensureSession authorId
    let target ← s.resolveTarget author (← requiredString (input.field? (js "target")) (js "target"))
    if target.id = author.id then
      throw ((if triggerTurn then js "followup_task" else js "send_message")
        ++ js " cannot target the calling agent itself.")
    if triggerTurn && target.id = rootId then
      throw (js "followup_task cannot target the root agent; use send_message instead.")
    let message ← requiredString (input.field? (js "message")) (js "message")
    return (author, target, message)
  match checked with
  | .error error => (.error error, s)
  | .ok (author, target, message) =>
    if triggerTurn && target.status ≠ .running then
      if !s.hasThreadCapacity then (.error s.concurrencyLimitReached, s)
      else match s.launch target message target.messages answers with
        | (some error, launched) => (.error error, launched)
        | (none, launched) => (.ok true, launched)
    else
      (.ok false, (s.pushMailbox target.id
        (agentMessages author.path author.model message now)).flushMailboxWaiter target.id)

/-- The session is interrupted, and its run's signal aborted. -/
def haltSession (s : SubagentManager) (session : SubagentSession) : SubagentManager :=
  let halted := s.modifySession session.id fun session => { session with status := .interrupted }
  match session.controller with
  | some number => halted.abortRun number
  | none => halted

/-- `interrupt`: the status before, or the error. -/
def interrupt (s : SubagentManager) (authorId : JsString) (input : Json) (now : Nat) :
    Except JsString SubagentStatus × SubagentManager :=
  let checked : Except JsString SubagentSession := do
    let targetValue ← requiredString (input.field? (js "target")) (js "target")
    let author ← s.ensureSession authorId
    let target ← s.resolveTarget author targetValue
    if target.id = rootId || target.id = authorId then
      throw (js "An agent cannot interrupt the root agent or itself.")
    return target
  match checked with
  | .error error => (.error error, s)
  | .ok target =>
    (.ok target.status,
      if isLive target then
        ((s.haltSession target).releaseContextsForAgent target.id).enqueueParentNotification target
          (js "Agent " ++ target.path ++ js " was interrupted.") now
      else s)

def interruptAll (s : SubagentManager) : SubagentManager :=
  (s.sessions.values.filter fun session => session.id ≠ rootId && isLive session).foldl haltSession
    { s with
      stopped := true
      foundationQueue := []
      foundationScouts := .empty
      contextSnapshots := .empty }

/-! ## What follows a run -/

/-- The promise of a run is settled. -/
def settleRun (s : SubagentManager) (number : Nat) (outcome : RunOutcome) : SubagentManager :=
  s.modifyRun number fun run =>
    match run.phase with
    | .running => { run with phase := .settled outcome }
    | _ => run

/-- The `then` callback of a launch: what its run has returned. -/
def completeRun (s : SubagentManager) (session : SubagentSession) (result : SubagentRunResult)
    (now : Nat) : SubagentManager :=
  if session.status = .interrupted then s
  else
    (s.modifySession session.id fun session =>
      { session with
        status := .completed
        output := some result.text
        messages := result.messages
        turnCount := session.turnCount + result.turnCount
        toolCallCount := session.toolCallCount + result.toolCallCount
        modelCalls := session.modelCalls ++ result.modelCalls }).enqueueParentNotification session
      (js "Agent " ++ session.path ++ js " completed.\n\n" ++ result.text) now

/-- The `catch` callback of a launch. -/
def failRun (s : SubagentManager) (session : SubagentSession) (aborted : Bool) (message : JsString)
    (now : Nat) : SubagentManager :=
  if session.status = .interrupted || aborted then s
  else
    (s.modifySession session.id fun session =>
      { session with
        status := .errored
        error := some message }).enqueueParentNotification session
      (js "Agent " ++ session.path ++ js " failed: " ++ message) now

/-- The callback for the outcome of a settled run. -/
def runHandler (s : SubagentManager) (number : Nat) (now : Nat) : SubagentManager :=
  match s.runs[number]? with
  | none => s
  | some run =>
    let handled := s.modifyRun number fun run => { run with phase := .handled }
    match run.phase, s.sessions.get? run.sessionId with
    | .settled (.fulfilled result), some session => handled.completeRun session result now
    | .settled (.rejected message), some session => handled.failRun session run.aborted message now
    | .settled _, none => handled
    | _, _ => s

/-- The `finally` callback of a launch. -/
def runFinally (env : SubagentPlatform) (s : SubagentManager) (number : Nat)
    (answers : Nat → FirstTouch) : SubagentManager :=
  match s.runs[number]? with
  | none => s
  | some run =>
    match run.phase, s.sessions.get? run.sessionId with
    | .handled, some session =>
      let finished := s.modifyRun number fun run => { run with phase := .finished }
      let released := (finished.releaseContextsForAgent session.id).modifySession session.id
        fun session =>
          { session with promise := if session.promise = some number then none else session.promise }
      let scoutPath := (session.surfaceId.bind released.foundationScouts.get?).bind (·.agentPath)
      let freed :=
        if (js "surface_foundation_").isPrefixOf session.taskName && scoutPath = some session.path then
          { released with
            foundationScouts := released.foundationScouts.delete (session.surfaceId.getD []) }
        else released
      freed.drainFoundationQueue env answers
    | _, _ => s

end SubagentManager

/-! ## The machine -/

/-- What can happen to a manager. -/
inductive ManagerInput where
  | captureContext (agentId toolCallId : JsString) (messages : List AgentMessage)
  | releaseContext (toolCallId : JsString)
  | spawnAgent (parentId toolCallId : JsString) (input : Json) (answers : SpawnAnswers)
      (touch : Option FirstTouch)
  | spawnTrackWorker (assignment : TrackWorkerAssignment) (answers : SpawnAnswers)
      (touch : Option FirstTouch)
  | firstTouch (surfaceId firstAgentId : JsString) (touch : FirstTouch)
  | sendMessage (authorId : JsString) (input : Json) (triggerTurn : Bool) (answers : LaunchAnswers)
      (now : Nat)
  | interrupt (authorId : JsString) (input : Json) (now : Nat)
  | interruptAll
  | settle (number : Nat) (outcome : RunOutcome)
  | handler (number : Nat) (now : Nat)
  | finalizer (number : Nat) (answers : Nat → FirstTouch)
  | drain (answers : Nat → FirstTouch)
  | takeMailbox (agentId : JsString)
  | waitForMailbox (agentId : JsString) (signal : Option WaitSignal) (aborted : Bool)
  | abortWaits (number : Nat)
  | broadcastHostSteering (messages : List AgentMessage)

/-- One input of a manager. A call that throws leaves the state it has come to. -/
def step (env : SubagentPlatform) (s : SubagentManager) : ManagerInput → SubagentManager
  | .captureContext agentId toolCallId messages => s.captureContext agentId toolCallId messages
  | .releaseContext toolCallId => s.releaseContext toolCallId
  | .spawnAgent parentId toolCallId input answers touch =>
    (s.spawnAgent env parentId (.tool toolCallId) input answers touch).2
  | .spawnTrackWorker assignment answers touch => (s.spawnTrackWorker env assignment answers touch).2
  | .firstTouch surfaceId firstAgentId touch =>
    (s.spawnFoundationScout env surfaceId firstAgentId touch).2
  | .sendMessage authorId input triggerTurn answers now =>
    (s.sendMessage authorId input triggerTurn answers now).2
  | .interrupt authorId input now => (s.interrupt authorId input now).2
  | .interruptAll => s.interruptAll
  | .settle number outcome => s.settleRun number outcome
  | .handler number now => s.runHandler number now
  | .finalizer number answers => s.runFinally env number answers
  | .drain answers => s.drainFoundationQueue env answers
  | .takeMailbox agentId => s.takeMailbox agentId
  | .waitForMailbox agentId signal aborted => s.waitForMailbox agentId signal aborted
  | .abortWaits number => s.abortWaits (.other number)
  | .broadcastHostSteering messages => s.broadcastHostSteering messages

/-- What a new manager is after a run of inputs. -/
def reached (env : SubagentPlatform) (options : CreateSubagentManagerOptions)
    (inputs : List ManagerInput) : SubagentManager :=
  runSteps (step env) (SubagentManager.new options) inputs

end Beale.Subagents
