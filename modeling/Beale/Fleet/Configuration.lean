import Beale.Library.Client
import Beale.Library.JsMap
import Beale.Library.JsString

/-!
# The configuration of Fleet

`fleet.json`, which each operation reads as a whole and writes back as a whole, and what the operations
change in it. The texts of an action are those that its checks return, trimmed.

- `FleetEntry`, `FleetConfiguration.get`: the parts of the configuration, and what is in each.
- `configureAction_get`, `reserveMachine_ok`, `releaseMachine_ok`: what each of them changes, where it succeeds.
-/

namespace Beale.FleetService

open Beale.Library Beale.Library.Client

/-! ## What is saved -/

inductive FleetRole where
  | primary | guest
deriving DecidableEq

inductive GuestPlatform where
  | win32 | darwin | linux
deriving DecidableEq

inductive FleetPrivilege where
  | standard | elevated
deriving DecidableEq

structure FleetMachineConfig where
  base : Bool
  canRun : Bool
  canClone : Bool
  guestPlatform : GuestPlatform
  sessionClone : Bool
  privilege : FleetPrivilege
  sshHost : Option JsString
  sshUser : Option JsString
  sshIdentityFile : Option JsString
  sshKnownHostsFile : Option JsString
deriving DecidableEq

structure FleetPrimary where
  name : JsString
  sshHost : Option JsString
deriving DecidableEq

structure FleetAppServer where
  name : JsString
  url : JsString
  operatorToken : JsString
deriving DecidableEq

structure FleetOwner where
  machineId : JsString
  sessionId : JsString
  workspaceId : Option JsString
deriving DecidableEq

/-- The targets of a workspace, `vm:run:` and `vm:clone:` with the identifier of a VM. -/
inductive FleetTarget where
  | «local»
  | browser (id : JsString)
  | run (machineId : JsString)
  | clone (machineId : JsString)
deriving DecidableEq

structure FleetConfiguration where
  machineId : JsString
  role : FleetRole
  enabled : Bool
  primary : Option FleetPrimary
  requiredWorkspaceIds : List JsString
  optionalWorkspaceIds : List JsString
  lastMachineByWorkspace : JsMap JsString FleetTarget
  workspaceTargets : JsMap JsString (List FleetTarget)
  browserEnabled : JsMap JsString Bool
  browserHomePage : JsString
  machines : JsMap JsString FleetMachineConfig
  appServers : JsMap JsString FleetAppServer
  owners : JsMap JsString FleetOwner

/-! ## Checks of texts -/

/-- `[A-Za-z0-9]`. -/
def isAlphanumeric (u : UInt16) : Bool :=
  (0x30 ≤ u && u ≤ 0x39) || (0x41 ≤ u && u ≤ 0x5A) || (0x61 ≤ u && u ≤ 0x7A)

/-- `/^[A-Za-z0-9][A-Za-z0-9…]{0,limit}$/u`, with further units after the first one. -/
def isIdentifier (further : List UInt16) (limit : Nat) : JsString → Bool
  | [] => false
  | first :: rest => isAlphanumeric first && rest.length ≤ limit && rest.all fun u => isAlphanumeric u || u ∈ further

/-- `VM_NAME`. -/
def isVmName : JsString → Bool := isIdentifier [0x2E, 0x5F, 0x2D] 127

/-- `WORKSPACE_ID`. -/
def isWorkspaceId : JsString → Bool := isIdentifier [0x2E, 0x5F, 0x3A, 0x2D] 255

def validOwner (owner : FleetOwner) : Except JsString Unit :=
  if isVmName owner.machineId && isVmName owner.sessionId && owner.workspaceId.all isWorkspaceId then .ok ()
  else .error (js "Fleet owner requires a machine and session ID.")

/-! ## The inventory -/

inductive MachineState where
  | running | stopped | unknown
deriving DecidableEq

/-- A VM that the backend lists. -/
structure DiscoveredMachine where
  id : JsString
  name : JsString
  state : MachineState
deriving DecidableEq

/-- What comes back to an operation that has waited: the VMs in the order of the state, none where the
backend fails; the browsers of the host; and whether the command or the request succeeded. -/
structure Awaited where
  machines : List DiscoveredMachine
  browsers : List JsString
  succeeded : Bool

/-- A VM in the state. -/
structure FleetMachine where
  id : JsString
  name : JsString
  state : MachineState
  base : Bool
  canRun : Bool
  canClone : Bool
  guestPlatform : GuestPlatform
  sshConfigured : Bool

/-- The platform that a VM without settings has. -/
def guestPlatformOf (machineId : JsString) : GuestPlatform :=
  if (js "hyper-v:").isPrefixOf machineId then .win32 else .darwin

/-- The settings that `read` makes of an entry without fields. -/
def emptySettings (machineId : JsString) : FleetMachineConfig :=
  ⟨false, true, false, guestPlatformOf machineId, false, .standard, none, none, none, none⟩

namespace FleetConfiguration

variable (config : FleetConfiguration)

/-- A VM as `state` shows it. -/
def machine (discovered : DiscoveredMachine) : FleetMachine :=
  let saved := config.machines.get? discovered.id
  { id := discovered.id
    name := discovered.name
    state := discovered.state
    base := saved.any (·.base)
    canRun := (saved.map (·.canRun)).getD (saved.all fun settings => !settings.base)
    canClone := (saved.map (·.canClone)).getD (saved.any (·.base))
    guestPlatform := (saved.map (·.guestPlatform)).getD (guestPlatformOf discovered.id)
    sshConfigured := saved.any (·.sshUser.isSome) }

/-- The VMs of the state, from the configuration as it was before the inventory. -/
def machinesOf (awaited : Awaited) : List FleetMachine :=
  if config.role = .guest then [] else awaited.machines.map config.machine

def targetsOf (workspaceId : JsString) : List FleetTarget :=
  (config.workspaceTargets.get? workspaceId).getD [.local, .browser (js "in-agent")]

/-- The VMs of `stateForWorkspace`. -/
def machinesFor (workspaceId : JsString) (awaited : Awaited) : List FleetMachine :=
  let withMachines := (config.targetsOf workspaceId).any fun target =>
    match target with
    | .run _ | .clone _ => true
    | _ => false
  if config.enabled && withMachines then config.machinesOf awaited else []

/-- Whether a browser of the state is there and enabled. -/
def hasBrowser (awaited : Awaited) (id : JsString) : Bool :=
  decide (id ∈ awaited.browsers) && config.browserEnabled.get? id ≠ some false

def requirePrimaryEnabled : Except JsString Unit :=
  if config.role ≠ .primary ∨ config.enabled = false then
    .error (js "Fleet is unavailable on this Beale instance.")
  else .ok ()

end FleetConfiguration

/-! ## `configure` -/

/-- The fields of `set-machine` that are given. -/
structure FleetMachineInput where
  base : Option Bool := none
  canRun : Option Bool := none
  canClone : Option Bool := none
  guestPlatform : Option GuestPlatform := none
  privilege : Option FleetPrivilege := none
  sshHost : Option (Option JsString) := none
  sshUser : Option (Option JsString) := none
  sshIdentityFile : Option (Option JsString) := none
  sshKnownHostsFile : Option (Option JsString) := none

inductive FleetAction where
  | setRole (role : FleetRole)
  | setEnabled (enabled : Bool)
  | setPrimary (primary : FleetPrimary)
  | setRequired (workspaceId : JsString) (required : Bool)
  | selectMachine (workspaceId : JsString) (target : FleetTarget)
  | setWorkspaceTargets (workspaceId : JsString) (targets : List FleetTarget)
  | setBrowserEnabled (browserId : JsString) (enabled : Bool)
  | setBrowserHomePage (url : JsString)
  | setMachine (machineId : JsString) (input : FleetMachineInput)
  | setAppServer (serverId name url : JsString) (token : Option JsString)
  | removeAppServer (serverId : JsString)

/-- The actions that wait for the inventory or the network before they write. -/
def FleetAction.waits : FleetAction → Bool
  | .selectMachine _ _ | .setWorkspaceTargets _ _ | .setMachine _ _ | .setAppServer _ _ _ _ => true
  | _ => false

/-- The check that an action makes before it waits. -/
def FleetAction.precheck (config : FleetConfiguration) : FleetAction → Except JsString Unit
  | .setAppServer serverId _ _ token => do
    config.requirePrimaryEnabled
    if isVmName serverId = false then throw (js "Invalid app server ID.")
    match token.or ((config.appServers.get? serverId).map (·.operatorToken)) with
    | none => throw (js "An app-server operator token is required.")
    | some token => if token.length > 4096 then throw (js "An app-server operator token is required.")
  | _ => .ok ()

/-- The settings that `set-machine` writes. -/
def machineSettings (prior : FleetMachineConfig) (input : FleetMachineInput) : FleetMachineConfig :=
  let base := input.base.getD prior.base
  { base
    canRun := input.canRun.getD (if input.base.isNone then prior.canRun else !base)
    canClone := input.canClone.getD (if input.base.isNone then prior.canClone else base)
    guestPlatform := input.guestPlatform.getD prior.guestPlatform
    sessionClone := if base then false else prior.sessionClone
    privilege := input.privilege.getD prior.privilege
    sshHost := input.sshHost.getD prior.sshHost
    sshUser := input.sshUser.getD prior.sshUser
    sshIdentityFile := input.sshIdentityFile.getD prior.sshIdentityFile
    sshKnownHostsFile := input.sshKnownHostsFile.getD prior.sshKnownHostsFile }

/-- The settings that `set-machine` starts from. -/
def FleetConfiguration.priorSettings (config : FleetConfiguration) (machineId : JsString) : FleetMachineConfig :=
  (config.machines.get? machineId).getD { emptySettings machineId with
    guestPlatform := if (js "tart:").isPrefixOf machineId then .darwin else .win32 }

/-- Whether a workspace can have a target. -/
def isAvailable (config : FleetConfiguration) (awaited : Awaited) : FleetTarget → Except JsString Unit
  | .local => .ok ()
  | .browser id =>
    if config.hasBrowser awaited id then .ok () else .error (js "Workspace browser target is unavailable.")
  | .run id =>
    if (config.machinesOf awaited).any fun machine => machine.id = id && machine.canRun then .ok ()
    else .error (js "Workspace VM target is unavailable.")
  | .clone id =>
    if (config.machinesOf awaited).any fun machine => machine.id = id && machine.canClone then .ok ()
    else .error (js "Workspace VM target is unavailable.")

def isSelectable (config : FleetConfiguration) (awaited : Awaited) (workspaceId : JsString) (target : FleetTarget) :
    Bool :=
  (target = .local || config.enabled) && decide (target ∈ config.targetsOf workspaceId) &&
    match target with
    | .local => true
    | .browser id => config.hasBrowser awaited id
    | .run id => (config.machinesFor workspaceId awaited).any fun machine => machine.id = id && machine.canRun
    | .clone id => (config.machinesFor workspaceId awaited).any fun machine =>
      machine.id = id && machine.canClone && machine.state = .stopped

def configureAction (config : FleetConfiguration) (awaited : Awaited) :
    FleetAction → Except JsString FleetConfiguration
  | .setRole role =>
    if role ≠ config.role ∧ config.owners.keys ≠ [] then
      .error (js "Release active VM sessions before changing the Fleet role.")
    else .ok { config with role }
  | .setEnabled enabled =>
    if enabled = false ∧ config.owners.keys ≠ [] then
      .error (js "Release active VM sessions before disabling Fleet.")
    else .ok { config with enabled }
  | .setPrimary primary => .ok { config with primary := some primary }
  | .setRequired workspaceId required => .ok { config with
      requiredWorkspaceIds :=
        if required then (config.requiredWorkspaceIds ++ [workspaceId]).eraseDups
        else config.requiredWorkspaceIds.filter (· ≠ workspaceId)
      optionalWorkspaceIds :=
        if required then config.optionalWorkspaceIds.filter (· ≠ workspaceId)
        else (config.optionalWorkspaceIds ++ [workspaceId]).eraseDups }
  | .selectMachine workspaceId target =>
    if isSelectable config awaited workspaceId target then
      .ok { config with lastMachineByWorkspace := config.lastMachineByWorkspace.set workspaceId target }
    else .error (js "Select an existing runnable Fleet machine.")
  | .setWorkspaceTargets workspaceId targets => do
    if targets.length > 128 then throw (js "Workspace targets must be a bounded list of Browser or Fleet VM IDs.")
    targets.forM (isAvailable config awaited)
    return { config with workspaceTargets := config.workspaceTargets.set workspaceId targets.eraseDups }
  | .setBrowserEnabled browserId enabled =>
    if browserId ∈ awaited.browsers then
      .ok { config with browserEnabled := config.browserEnabled.set browserId enabled }
    else .error (js "Select an installed Fleet browser.")
  | .setBrowserHomePage url => .ok { config with browserHomePage := url }
  | .setMachine machineId input =>
    match (config.machinesOf awaited).find? (·.id = machineId) with
    | none => .error (js "Unknown Fleet machine.")
    | some machine => do
      if (config.owners.get? machineId).isSome then
        throw (js "VM settings cannot change while a session owns the VM.")
      let settings := machineSettings (config.priorSettings machineId) input
      if settings.base ∧ machine.state ≠ .stopped then
        throw (js "Stop a VM before marking it as a Fleet base.")
      return { config with machines := config.machines.set machineId settings }
  | .setAppServer serverId name url token =>
    match token.or ((config.appServers.get? serverId).map (·.operatorToken)) with
    | none => .error (js "An app-server operator token is required.")
    | some operatorToken =>
      if awaited.succeeded then
        .ok { config with appServers := config.appServers.set serverId ⟨name, url, operatorToken⟩ }
      else .error (js "Remote app-server authentication failed.")
  | .removeAppServer serverId => do
    config.requirePrimaryEnabled
    return { config with appServers := config.appServers.delete serverId }

/-! ## `reserve` and `release` -/

def FleetOwner.isSame (a b : FleetOwner) : Bool := a.machineId = b.machineId && a.sessionId = b.sessionId

/-- `{ ...current, ...owner }` -/
def FleetOwner.over (current : Option FleetOwner) (owner : FleetOwner) : FleetOwner :=
  { owner with workspaceId := owner.workspaceId.or (current.bind (·.workspaceId)) }

/-- `reserve`, from its inventory: the state is that of the configuration before it. -/
def reserveMachine (view config : FleetConfiguration) (awaited : Awaited) (machineId : JsString)
    (owner : FleetOwner) : Except JsString FleetConfiguration := do
  if ((view.machinesOf awaited).find? (·.id = machineId)).all fun machine => !machine.canRun then
    throw (js "Select a Fleet VM with Can Run enabled.")
  config.requirePrimaryEnabled
  let current := config.owners.get? machineId
  if current.any fun claim => !claim.isSame owner then
    throw (js "Fleet VM is already reserved by another machine or session.")
  if (current.bind (·.workspaceId)).any fun staged => owner.workspaceId.any (· ≠ staged) then
    throw (js "Fleet VM is already staging another workspace for this session.")
  if owner.workspaceId.isSome ∧ config.owners.entries.any fun e =>
      e.1 ≠ machineId && e.2.workspaceId = owner.workspaceId && !e.2.isSame owner then
    throw (js "Fleet workspace is already staged for another VM session.")
  return { config with owners := config.owners.set machineId (owner.over current) }

/-- `release` -/
def releaseMachine (config : FleetConfiguration) (machineId : JsString) (owner : FleetOwner) :
    Except JsString FleetConfiguration := do
  validOwner owner
  if (config.owners.get? machineId).any fun claim => !claim.isSame owner then
    throw (js "Only the owning machine and session may release this Fleet VM.")
  return { config with owners := config.owners.delete machineId }

def FleetConfiguration.isReservedBy (config : FleetConfiguration) (machineId : JsString) (owner : FleetOwner) :
    Bool :=
  (config.owners.get? machineId).any fun claim => claim.isSame owner

/-! ## The entries -/

/-- The parts of the configuration that an operation changes. -/
inductive FleetEntry where
  | role | enabled | primary | browserHomePage
  | required (workspaceId : JsString)
  | lastMachine (workspaceId : JsString)
  | targets (workspaceId : JsString)
  | browser (browserId : JsString)
  | machine (machineId : JsString)
  | appServer (serverId : JsString)
  | owner (machineId : JsString)
deriving DecidableEq

/-- What is in an entry. -/
inductive FleetValue where
  | role (role : FleetRole)
  | enabled (enabled : Bool)
  | primary (primary : Option FleetPrimary)
  | browserHomePage (url : JsString)
  | required (required optional : Bool)
  | lastMachine (target : Option FleetTarget)
  | targets (targets : Option (List FleetTarget))
  | browser (enabled : Option Bool)
  | machine (settings : Option FleetMachineConfig)
  | appServer (server : Option FleetAppServer)
  | owner (owner : Option FleetOwner)
deriving DecidableEq

def FleetConfiguration.get (config : FleetConfiguration) : FleetEntry → FleetValue
  | .role => .role config.role
  | .enabled => .enabled config.enabled
  | .primary => .primary config.primary
  | .browserHomePage => .browserHomePage config.browserHomePage
  | .required id => .required (id ∈ config.requiredWorkspaceIds) (id ∈ config.optionalWorkspaceIds)
  | .lastMachine id => .lastMachine (config.lastMachineByWorkspace.get? id)
  | .targets id => .targets (config.workspaceTargets.get? id)
  | .browser id => .browser (config.browserEnabled.get? id)
  | .machine id => .machine (config.machines.get? id)
  | .appServer id => .appServer (config.appServers.get? id)
  | .owner id => .owner (config.owners.get? id)

def FleetAction.entry : FleetAction → FleetEntry
  | .setRole _ => .role
  | .setEnabled _ => .enabled
  | .setPrimary _ => .primary
  | .setRequired id _ => .required id
  | .selectMachine id _ => .lastMachine id
  | .setWorkspaceTargets id _ => .targets id
  | .setBrowserEnabled id _ => .browser id
  | .setBrowserHomePage _ => .browserHomePage
  | .setMachine id _ => .machine id
  | .setAppServer id _ _ _ => .appServer id
  | .removeAppServer id => .appServer id

/-! ## What a write leaves -/

variable {config' config : FleetConfiguration} {awaited : Awaited}

theorem configureAction_get {action : FleetAction}
    (h : configureAction config awaited action = .ok config') {entry : FleetEntry} (hentry : entry ≠ action.entry) :
    config'.get entry = config.get entry := by
  cases action with
  | setRole | setEnabled =>
    simp only [configureAction] at h
    split at h
    · cases h
    · cases h
      cases entry <;> first | rfl | exact absurd rfl hentry
  | setPrimary | setBrowserHomePage =>
    cases h
    cases entry <;> first | rfl | exact absurd rfl hentry
  | setRequired workspaceId required =>
    cases h
    cases entry with
    | required id =>
      have hid : id ≠ workspaceId := fun heq => hentry (congrArg FleetEntry.required heq)
      cases required <;> simp [FleetConfiguration.get, hid]
    | _ => rfl
  | selectMachine workspaceId target =>
    simp only [configureAction] at h
    split at h
    · cases h
      cases entry with
      | lastMachine id =>
        have hid : id ≠ workspaceId := fun heq => hentry (congrArg FleetEntry.lastMachine heq)
        simp [FleetConfiguration.get, JsMap.get?_set, hid]
      | _ => rfl
    · cases h
  | setWorkspaceTargets workspaceId targets =>
    simp only [configureAction, exceptGuard_ok, exceptThen_ok] at h
    obtain ⟨-, -, h⟩ := h
    cases h
    cases entry with
    | targets id =>
      have hid : id ≠ workspaceId := fun heq => hentry (congrArg FleetEntry.targets heq)
      simp [FleetConfiguration.get, JsMap.get?_set, hid]
    | _ => rfl
  | setBrowserEnabled browserId enabled =>
    simp only [configureAction] at h
    split at h
    · cases h
      cases entry with
      | browser id =>
        have hid : id ≠ browserId := fun heq => hentry (congrArg FleetEntry.browser heq)
        simp [FleetConfiguration.get, JsMap.get?_set, hid]
      | _ => rfl
    · cases h
  | setMachine machineId input =>
    simp only [configureAction] at h
    split at h
    · cases h
    · simp only [exceptGuard_ok] at h
      obtain ⟨-, -, h⟩ := h
      cases h
      cases entry with
      | machine id =>
        have hid : id ≠ machineId := fun heq => hentry (congrArg FleetEntry.machine heq)
        simp [FleetConfiguration.get, JsMap.get?_set, hid]
      | _ => rfl
  | setAppServer serverId name url token =>
    simp only [configureAction] at h
    split at h
    · cases h
    · split at h
      · cases h
        cases entry with
        | appServer id =>
          have hid : id ≠ serverId := fun heq => hentry (congrArg FleetEntry.appServer heq)
          simp [FleetConfiguration.get, JsMap.get?_set, hid]
        | _ => rfl
      · cases h
  | removeAppServer serverId =>
    simp only [configureAction, exceptThen_ok] at h
    obtain ⟨-, h⟩ := h
    cases h
    cases entry with
    | appServer id =>
      have hid : id ≠ serverId := fun heq => hentry (congrArg FleetEntry.appServer heq)
      simp [FleetConfiguration.get, JsMap.get?_delete, hid]
    | _ => rfl

variable {machineId : JsString} {owner : FleetOwner}

theorem reserveMachine_ok {view : FleetConfiguration}
    (h : reserveMachine view config awaited machineId owner = .ok config') :
    config.requirePrimaryEnabled = .ok () ∧
      (∀ claim, config.owners.get? machineId = some claim → claim.isSame owner) ∧
      (∀ claim staged, config.owners.get? machineId = some claim → claim.workspaceId = some staged →
        ∀ workspaceId, owner.workspaceId = some workspaceId → workspaceId = staged) ∧
      (owner.workspaceId.isSome → ∀ other claim, other ≠ machineId → config.owners.get? other = some claim →
        claim.workspaceId = owner.workspaceId → claim.isSame owner) ∧
      config' = { config with owners := config.owners.set machineId (owner.over (config.owners.get? machineId)) } := by
  simp only [reserveMachine, exceptGuard_ok, exceptThen_ok] at h
  obtain ⟨-, hprimary, hclaim, hstaged, helsewhere, h⟩ := h
  cases h
  refine ⟨hprimary, fun claim hget => ?_, fun claim staged hget hws workspaceId howner => ?_,
    fun hsome other claim hne hget hws => ?_, rfl⟩
  · simpa [hget] using hclaim
  · simpa [hget, hws, howner] using hstaged
  · by_contra hdifferent
    refine helsewhere ⟨hsome, List.any_eq_true.mpr ⟨(other, claim), JsMap.mem_of_get? hget, ?_⟩⟩
    simpa [hne, hws] using hdifferent

theorem releaseMachine_ok (h : releaseMachine config machineId owner = .ok config') :
    (∀ claim, config.owners.get? machineId = some claim → claim.isSame owner) ∧
      config' = { config with owners := config.owners.delete machineId } := by
  simp only [releaseMachine, exceptGuard_ok, exceptThen_ok] at h
  obtain ⟨-, hclaim, h⟩ := h
  cases h
  exact ⟨fun claim hget => by simpa [hget] using hclaim, rfl⟩

end Beale.FleetService
