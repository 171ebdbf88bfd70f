import Beale.Fleet.Configuration
import Beale.Library.Json
import Beale.Library.Updates

/-!
# The operations of Fleet, at their awaits

A call runs from one `await` to the next without a break; the calls of the other requests come in between.
`configure`, `reserve` and `release` wait for their turn in one queue; the writes of the cloning operations
do not.

- `FleetService.step`: a request, or the next stretch of a call with what has come back to it.
- `changes`, `reservations`, `holding`: what has been written, by whom; the reservations that calls of
  `prepareSessionTarget` have made; and those that they rely on.
-/

namespace Beale.FleetService

open Beale.Library

/-! ## The calls -/

/-- `cloneForSession(baseId, owner, skipMachineId)` -/
structure SessionClone where
  baseId : JsString
  owner : FleetOwner
  skipMachineId : Option JsString

/-- The key under which the calls of a session share a clone. -/
structure SessionKey where
  baseId : JsString
  machineId : JsString
  sessionId : JsString
  skipMachineId : JsString
deriving DecidableEq

def SessionClone.key (request : SessionClone) : SessionKey :=
  ⟨request.baseId, request.owner.machineId, request.owner.sessionId, request.skipMachineId.getD []⟩

/-- `prepareSessionTarget`, in its loop. -/
structure Preparation where
  selected : JsString
  guestPlatform : GuestPlatform
  workspaceId : JsString
  ownerMachineId : JsString
  sessionId : JsString
  cloned : Bool
  machineId : JsString
  recovered : Bool

def Preparation.owner (preparation : Preparation) : FleetOwner :=
  ⟨preparation.ownerMachineId, preparation.sessionId, none⟩

/-- The work of `exclusive`. -/
inductive ExclusiveWork where
  | configure (action : FleetAction)
  | reserve (machineId : JsString) (owner : FleetOwner)
  | release (machineId : JsString) (owner : FleetOwner)

inductive ExclusivePhase where
  | queued
  | awaiting (view : FleetConfiguration)
  | returning

def ExclusiveWork.entry : ExclusiveWork → FleetEntry
  | .configure action => action.entry
  | .reserve machineId _ => .owner machineId
  | .release machineId _ => .owner machineId

def ExclusiveWork.writesAtOnce : ExclusiveWork → Bool
  | .configure action => !action.waits
  | .reserve _ _ => false
  | .release _ _ => true

/-- A call of `exclusive`, and where it returns to. -/
inductive ExclusiveCall where
  | top (work : ExclusiveWork)
  /-- the reservation at the end of `cloneForSession` -/
  | session (machineId : JsString) (owner : FleetOwner)
  /-- the reservation and the release of `prepareSessionTarget` -/
  | target (preparation : Preparation)
  | recovery (preparation : Preparation) (replacementBaseId : Option JsString)

def ExclusiveCall.work : ExclusiveCall → ExclusiveWork
  | .top work => work
  | .session machineId owner => .reserve machineId owner
  | .target preparation => .reserve preparation.machineId preparation.owner
  | .recovery preparation _ => .release preparation.machineId preparation.owner

/-- Where a call waits. A `view` is the configuration that the call of `state` has read. -/
inductive CallPoint where
  | exclusive (turn : ExclusiveCall) (phase : ExclusivePhase)
  /-- `clone`, of its own or for a session: the first inventory, the command, the second inventory, the
  state that is returned -/
  | cloneListing (baseId name : JsString) (view : FleetConfiguration) (session : Option SessionClone)
  | copying (baseId name : JsString) (config : FleetConfiguration) (session : Option SessionClone)
  | copyListing (baseId name : JsString) (config view : FleetConfiguration) (session : Option SessionClone)
  | copied (name : JsString) (view : FleetConfiguration) (session : Option SessionClone)
  | sessionListing (request : SessionClone) (view : FleetConfiguration)
  | settled (machineId : Option JsString)
  /-- `prepareSessionTarget`: the inventory, the clone, `start`, the connection -/
  | selecting (cloned : Bool) (machineId workspaceId ownerMachineId sessionId : JsString) (view : FleetConfiguration)
  | waiting (preparation : Preparation) (clone : Nat)
  | starting (preparation : Preparation) (view : FleetConfiguration)
  | connecting (preparation : Preparation)
  | prepared (preparation : Preparation)
  /-- its `catch`: the inventory, `stop`, and after the release -/
  | recovering (preparation : Preparation) (view : FleetConfiguration)
  | stopping (preparation : Preparation) (replacementBaseId : Option JsString)
  | released (preparation : Preparation) (replacementBaseId : Option JsString)
  /-- `releaseSessionTarget`, at its `stop` -/
  | stoppingTarget (machineId : JsString) (owner : FleetOwner)
  | ended (succeeded : Bool)

/-- A call. A clone that calls share has started with the last of them. -/
structure Call where
  started : Nat
  point : CallPoint

/-- What a call has written to an entry. -/
abbrev FleetChange := Change FleetEntry FleetValue

/-- A VM that a call of `prepareSessionTarget` has for its owner. -/
structure Held where
  call : Nat
  machineId : JsString
  owner : FleetOwner
deriving DecidableEq

structure Service where
  config : FleetConfiguration
  calls : JsMap Nat Call
  /-- the calls in `exclusive`; the first one has the turn -/
  queue : List Nat
  sessionClones : JsMap SessionKey Nat
  next : Nat
  changes : List FleetChange
  /-- the reservations that calls of `prepareSessionTarget` have made, and nobody has released -/
  reservations : List Held
  holding : List Held

namespace Service

variable (service : Service)

/-! ## Moves of a call -/

def setPoint (id : Nat) (started : Nat) (point : CallPoint) : Service :=
  { service with calls := service.calls.set id ⟨started, point⟩ }

/-- `this.write(config)`, which changes an entry. -/
def write (started : Nat) (entry : FleetEntry) (config : FleetConfiguration) : Service :=
  { service with config, changes := ⟨started, entry, config.get entry⟩ :: service.changes }

/-- Settings that are written at once, on the configuration as it is. -/
def writeSettings (started : Nat) (machineId : JsString) (settings : FleetMachineConfig) : Service :=
  service.write started (.machine machineId)
    { service.config with machines := service.config.machines.set machineId settings }

/-- `exclusive`, at its `await`. -/
def beginExclusive (id started : Nat) (turn : ExclusiveCall) : Service :=
  { service.setPoint id started (.exclusive turn .queued) with queue := service.queue ++ [id] }

/-- The calls that wait for a clone, with the VM that they come to have. -/
def sharers (clone : Nat) (machineId : JsString) : List Held :=
  service.calls.entries.filterMap fun e =>
    match e.2.point with
    | .waiting preparation awaited => if awaited = clone then some ⟨e.1, machineId, preparation.owner⟩ else none
    | _ => none

/-- The promise of a clone settles; the calls that share it have the VM. -/
def settle (id started : Nat) (result : Option JsString) : Service :=
  let gained := match result with
    | none => []
    | some machineId => service.sharers id machineId
  { service.setPoint id started (.settled result) with
    sessionClones := service.sessionClones.filter fun e => e.2 ≠ id
    reservations := gained ++ service.reservations
    holding := gained ++ service.holding }

def failClone (id started : Nat) (session : Option SessionClone) : Service :=
  if session.isSome then service.settle id started none else service.setPoint id started (.ended false)

/-! ## Cloning -/

/-- `clone(baseId, name)`, to its first `await`. -/
def startClone (id started : Nat) (baseId name : JsString) (session : Option SessionClone) : Service :=
  match service.config.requirePrimaryEnabled with
  | .error _ => service.failClone id started session
  | .ok _ =>
    if isVmName name then service.setPoint id started (.cloneListing baseId name service.config session)
    else service.failClone id started session

/-- `beale-…`, from the name of the base and the digest of the base and the owner. -/
def clonePrefix (digest : JsString → JsString) (baseName : JsString) (request : SessionClone) : JsString :=
  js "beale-" ++ baseName.take 64 ++ js "-" ++
    (digest (request.baseId ++ [0] ++ request.owner.machineId ++ [0] ++ request.owner.sessionId)).take 16

/-- The first name that no VM has, of those with the numbers from `sequence` on. -/
def cloneName (stem : JsString) (names : List JsString) : Nat → Nat → Option JsString
  | 0, _ => none
  | fuel + 1, sequence =>
    let name := stem ++ js "-" ++ natText sequence
    if name ∈ names then cloneName stem names fuel (sequence + 1) else some name

def reusable (request : SessionClone) (stem : JsString) (machine : FleetMachine) : Bool :=
  (machine.name = stem || (stem ++ js "-").isPrefixOf machine.name) &&
    request.skipMachineId ≠ some machine.id && machine.canRun && !machine.base &&
    (service.config.owners.get? machine.id).all fun claim => claim.isSame request.owner

/-- The settings of a clone that is used again. -/
def reuseSettings (baseId machineId : JsString) : Option FleetMachineConfig :=
  (service.config.machines.get? baseId).map fun inherited =>
    let saved := (service.config.machines.get? machineId).getD inherited
    { saved with
      base := false
      canRun := true
      canClone := false
      sessionClone := true
      sshUser := saved.sshUser.or inherited.sshUser
      sshIdentityFile := saved.sshIdentityFile.or inherited.sshIdentityFile
      sshKnownHostsFile := saved.sshKnownHostsFile.or inherited.sshKnownHostsFile }

def sessionBase (request : SessionClone) (view : FleetConfiguration) (awaited : Awaited) : Option FleetMachine :=
  ((view.machinesOf awaited).find? (·.id = request.baseId)).filter fun base =>
    base.canClone && base.state = .stopped && base.sshConfigured

/-- Whether another session has staged the workspace. -/
def stagedElsewhere (owner : FleetOwner) : Bool :=
  owner.workspaceId.isSome && service.config.owners.entries.any fun e =>
    e.2.workspaceId = owner.workspaceId && !e.2.isSame owner

def reuse (digest : JsString → JsString) (request : SessionClone) (view : FleetConfiguration) (awaited : Awaited) :
    Option (JsString × FleetMachineConfig) :=
  match sessionBase request view awaited with
  | none => none
  | some base =>
    if service.stagedElsewhere request.owner then none
    else do
      let existing ← (view.machinesOf awaited).find? (service.reusable request (clonePrefix digest base.name request))
      let settings ← service.reuseSettings request.baseId existing.id
      return (existing.id, settings)

/-- `cloneForSessionOnce`, from its inventory. -/
def listSessionClones (digest : JsString → JsString) (id started : Nat) (request : SessionClone)
    (view : FleetConfiguration) (awaited : Awaited) : Service :=
  match sessionBase request view awaited with
  | none => service.settle id started none
  | some base =>
    if service.stagedElsewhere request.owner then service.settle id started none
    else
      let stem := clonePrefix digest base.name request
      let machines := view.machinesOf awaited
      match machines.find? (service.reusable request stem) with
      | some existing =>
        match service.reuseSettings request.baseId existing.id with
        | none => service.settle id started none
        | some settings =>
          let written := service.writeSettings started existing.id settings
          if (service.config.owners.get? existing.id).isSome then written.settle id started (some existing.id)
          else written.beginExclusive id started (.session existing.id request.owner)
      | none =>
        let names := machines.map (·.name)
        match if stem ∈ names then cloneName stem names 9999 2 else some stem with
        | none => service.settle id started none
        | some name => service.startClone id started request.baseId name (some request)

/-- The settings of a VM that was cloned. -/
def copySettings (baseId name : JsString) (config view : FleetConfiguration) (awaited : Awaited) :
    Option (JsString × FleetMachineConfig) :=
  ((view.machinesOf awaited).find? (·.name = name)).map fun clone =>
    (clone.id, { (config.machines.get? baseId).getD (emptySettings clone.id) with
      base := false, canRun := true, canClone := false, sshHost := none })

/-- The settings of a session's clone that is new. -/
def markSettings (name : JsString) (view : FleetConfiguration) (awaited : Awaited) :
    Option (JsString × FleetMachineConfig) :=
  ((view.machinesOf awaited).find? (·.name = name)).map fun worker =>
    (worker.id, { (service.config.machines.get? worker.id).getD (emptySettings worker.id) with sessionClone := true })

/-- `validOwner` is the first thing that a clone for a session does. -/
def startSessionClone (id started : Nat) (request : SessionClone) : Service :=
  match validOwner request.owner with
  | .error _ => service.settle id started none
  | .ok _ => service.setPoint id started (.sessionListing request service.config)

/-- `cloneForSession`: the clone that is being made, or one of its own. -/
def cloneForSession (started : Nat) (request : SessionClone) : Nat × Service :=
  match service.sessionClones.get? request.key with
  | some clone => (clone, { service with
      calls := service.calls.modify clone fun call => { call with started := max call.started started } })
  | none => (service.next, { service with
      sessionClones := service.sessionClones.set request.key service.next
      next := service.next + 1 }.startSessionClone service.next started request)

/-! ## `prepareSessionTarget` -/

def letGo (id : Nat) (machineId : JsString) : Service :=
  { service with holding := service.holding.filter fun held => !(held.call = id && held.machineId = machineId) }

/-- `releaseSessionTarget` in the `catch`, to its first `await`. -/
def giveUp (id started : Nat) (preparation : Preparation) (replacementBaseId : Option JsString) : Service :=
  if service.config.isReservedBy preparation.machineId preparation.owner then
    if (service.config.machines.get? preparation.machineId).any (·.sessionClone) then
      service.setPoint id started (.stopping preparation replacementBaseId)
    else
      service.beginExclusive id started (.recovery preparation replacementBaseId)
  else (service.letGo id preparation.machineId).setPoint id started (.released preparation replacementBaseId)

/-- The `catch`. -/
def recover (id started : Nat) (preparation : Preparation) : Service :=
  if preparation.recovered then service.giveUp id started preparation none
  else service.setPoint id started (.recovering preparation service.config)

/-- The base of another VM in place of one that is of no use. -/
def replacementBase (preparation : Preparation) (view : FleetConfiguration) (awaited : Awaited) : Option JsString :=
  let machines := view.machinesOf awaited
  let unusable := (machines.find? (·.id = preparation.machineId)).all fun failed =>
    failed.state ≠ .running || !failed.sshConfigured
  if !unusable then none
  else if preparation.cloned then some preparation.selected
  else (machines.find? fun machine => machine.canClone && machine.state = .stopped && machine.sshConfigured
    && machine.guestPlatform = preparation.guestPlatform
    && decide (.clone machine.id ∈ service.config.targetsOf preparation.workspaceId)).map (·.id)

/-- The VM is reserved: `start`, to its first `await`. -/
def startTarget (id started : Nat) (preparation : Preparation) : Service :=
  let hasUser := (service.config.machines.get? preparation.machineId).any (·.sshUser.isSome)
  match hasUser, service.config.requirePrimaryEnabled with
  | true, .ok _ => service.setPoint id started (.starting preparation service.config)
  | _, _ => service.recover id started preparation

/-- `start`, from its inventory; then the connection is tried. -/
def startMachine (id started : Nat) (preparation : Preparation) (view : FleetConfiguration) (awaited : Awaited) :
    Service :=
  let runnable := ((view.machinesOf awaited).find? (·.id = preparation.machineId)).any (·.canRun)
  let owned := (service.config.owners.get? preparation.machineId).all fun claim => claim.isSame preparation.owner
  if runnable && owned then service.setPoint id started (.connecting preparation)
  else service.recover id started preparation

/-- `prepareSessionTarget`, from its inventory. -/
def select (id started : Nat) (cloned : Bool) (machineId workspaceId ownerMachineId sessionId : JsString)
    (view : FleetConfiguration) (awaited : Awaited) : Service :=
  match (view.machinesOf awaited).find? (·.id = machineId) with
  | none => service.setPoint id started (.ended false)
  | some selected =>
    let preparation : Preparation :=
      ⟨machineId, selected.guestPlatform, workspaceId, ownerMachineId, sessionId, cloned, machineId, false⟩
    if cloned then
      if selected.canClone then
        let shared := service.cloneForSession started ⟨machineId, preparation.owner, none⟩
        shared.2.setPoint id started (.waiting preparation shared.1)
      else service.setPoint id started (.ended false)
    else if selected.canRun then service.beginExclusive id started (.target preparation)
    else service.setPoint id started (.ended false)

/-- The settings of a clone that is given up. -/
def disabledSettings (preparation : Preparation) (replacementBaseId : Option JsString) :
    Option (JsString × FleetMachineConfig) :=
  if replacementBaseId.isSome ∧ preparation.cloned then
    (service.config.machines.get? preparation.machineId).map fun settings =>
      (preparation.machineId, { settings with canRun := false })
  else none

/-- The `catch`, after the release: the call fails, or waits for another clone. -/
def replace (id started : Nat) (preparation : Preparation) (replacementBaseId : Option JsString) : Service :=
  match replacementBaseId with
  | none => service.setPoint id started (.ended false)
  | some baseId =>
    let disabled := match service.disabledSettings preparation replacementBaseId with
      | none => service
      | some (machineId, settings) => service.writeSettings started machineId settings
    let shared := disabled.cloneForSession started
      ⟨baseId, preparation.owner, if preparation.cloned then some preparation.machineId else none⟩
    shared.2.setPoint id started (.waiting { preparation with recovered := true } shared.1)

/-! ## The queue -/

/-- What follows `exclusive`. -/
def resume (id started : Nat) (succeeded : Bool) : ExclusiveCall → Service
  | .top _ => service.setPoint id started (.ended succeeded)
  | .session machineId _ => service.settle id started (if succeeded then some machineId else none)
  | .target preparation =>
    if succeeded then
      { service with holding := ⟨id, preparation.machineId, preparation.owner⟩ :: service.holding }.startTarget
        id started preparation
    else service.recover id started preparation
  | .recovery preparation replacementBaseId =>
    (service.letGo id preparation.machineId).setPoint id started (.released preparation replacementBaseId)

def unlock (id started : Nat) (succeeded : Bool) (turn : ExclusiveCall) : Service :=
  { service with queue := service.queue.tail }.resume id started succeeded turn

/-- What is reserved and held after the write of a call. -/
def noteOwner (id : Nat) : ExclusiveCall → Service
  | .target preparation =>
    { service with reservations := ⟨id, preparation.machineId, preparation.owner⟩ :: service.reservations }
  | .recovery preparation _ => { service.letGo id preparation.machineId with
      reservations := service.reservations.filter fun held => held.machineId ≠ preparation.machineId }
  | .top (.release machineId _) => { service with
      reservations := service.reservations.filter fun held => held.machineId ≠ machineId
      holding := service.holding.filter fun held => held.machineId ≠ machineId }
  | _ => service

/-- The work has a configuration to write. -/
def commit (id started : Nat) (turn : ExclusiveCall) (config : FleetConfiguration) : Service :=
  ((service.write started turn.work.entry config).noteOwner id turn).setPoint id started (.exclusive turn .returning)

def finishWork (id started : Nat) (turn : ExclusiveCall) : Except JsString FleetConfiguration → Service
  | .error _ => service.unlock id started false turn
  | .ok config => service.commit id started turn config

/-- The work has its turn: it runs to its first `await`. -/
def beginWork (id started : Nat) (turn : ExclusiveCall) (awaited : Awaited) : Service :=
  match turn.work with
  | .configure action =>
    match action.precheck service.config with
    | .error _ => service.unlock id started false turn
    | .ok _ =>
      if action.waits then service.setPoint id started (.exclusive turn (.awaiting service.config))
      else service.finishWork id started turn (configureAction service.config awaited action)
  | .reserve _ owner =>
    match validOwner owner with
    | .error _ => service.unlock id started false turn
    | .ok _ => service.setPoint id started (.exclusive turn (.awaiting service.config))
  | .release machineId owner => service.finishWork id started turn (releaseMachine service.config machineId owner)

/-- The inventory has come back to the work. -/
def continueWork (id started : Nat) (turn : ExclusiveCall) (view : FleetConfiguration) (awaited : Awaited) : Service :=
  match turn.work with
  | .configure action => service.finishWork id started turn (configureAction view awaited action)
  | .reserve machineId owner =>
    service.finishWork id started turn (reserveMachine view service.config awaited machineId owner)
  | .release _ _ => service

/-! ## The steps -/

/-- The next stretch of a call. -/
def advance (digest : JsString → JsString) (id : Nat) (call : Call) (awaited : Awaited) : Service :=
  let started := call.started
  match call.point with
  | .exclusive turn .queued =>
    if service.queue.head? = some id then service.beginWork id started turn awaited else service
  | .exclusive turn (.awaiting view) => service.continueWork id started turn view awaited
  | .exclusive turn .returning => service.unlock id started true turn
  | .cloneListing baseId name view session =>
    let machines := view.machinesOf awaited
    if ((machines.find? (·.id = baseId)).any fun base => base.canClone && base.state = .stopped)
        ∧ name ∉ machines.map (·.name) then
      service.setPoint id started (.copying baseId name view session)
    else service.failClone id started session
  | .copying baseId name config session =>
    if awaited.succeeded then service.setPoint id started (.copyListing baseId name config service.config session)
    else service.failClone id started session
  | .copyListing baseId name config view session =>
    match copySettings baseId name config view awaited with
    | none => service.failClone id started session
    | some (machineId, settings) =>
      let written := service.writeSettings started machineId settings
      written.setPoint id started (.copied name written.config session)
  | .copied name view session =>
    match session with
    | none => service.setPoint id started (.ended true)
    | some request =>
      match service.markSettings name view awaited with
      | none => service.settle id started none
      | some (machineId, settings) =>
        (service.writeSettings started machineId settings).beginExclusive id started
          (.session machineId request.owner)
  | .sessionListing request view => service.listSessionClones digest id started request view awaited
  | .selecting cloned machineId workspaceId ownerMachineId sessionId view =>
    service.select id started cloned machineId workspaceId ownerMachineId sessionId view awaited
  | .waiting preparation clone =>
    match (service.calls.get? clone).map Call.point with
    | some (.settled (some machineId)) =>
      service.startTarget id started { preparation with machineId, cloned := true }
    | some (.settled none) => service.setPoint id started (.ended false)
    | _ => service
  | .starting preparation view => service.startMachine id started preparation view awaited
  | .connecting preparation =>
    if awaited.succeeded then service.setPoint id started (.prepared preparation)
    else service.recover id started preparation
  | .recovering preparation view =>
    service.giveUp id started preparation (service.replacementBase preparation view awaited)
  | .stopping preparation replacementBaseId =>
    service.beginExclusive id started (.recovery preparation replacementBaseId)
  | .released preparation replacementBaseId => service.replace id started preparation replacementBaseId
  | .stoppingTarget machineId owner => service.beginExclusive id started (.top (.release machineId owner))
  | .settled _ | .prepared _ | .ended _ => service

end Service

inductive FleetRequest where
  | configure (action : FleetAction)
  | reserve (machineId : JsString) (owner : FleetOwner)
  | release (machineId : JsString) (owner : FleetOwner)
  | clone (baseId name : JsString)
  | cloneForSession (request : SessionClone)
  | prepareSessionTarget (target : FleetTarget) (workspaceId sessionId : JsString) (enforceAllowlist : Bool)
  | releaseSessionTarget (machineId sessionId : JsString)

namespace Service

variable (service : Service)

/-- A call, to its first `await`. -/
def start (service : Service) (request : FleetRequest) : Service :=
  let id := service.next
  let numbered := { service with next := id + 1 }
  match request with
  | .configure action => numbered.beginExclusive id id (.top (.configure action))
  | .reserve machineId owner => numbered.beginExclusive id id (.top (.reserve machineId owner))
  | .release machineId owner => numbered.beginExclusive id id (.top (.release machineId owner))
  | .clone baseId name => numbered.startClone id id baseId name none
  | .cloneForSession request => (numbered.cloneForSession id request).2
  | .prepareSessionTarget target workspaceId sessionId enforceAllowlist =>
    let isVm : Option (Bool × JsString) := match target with
      | .run machineId => some (false, machineId)
      | .clone machineId => some (true, machineId)
      | _ => none
    match isVm with
    | none => numbered.setPoint id id (.ended false)
    | some (cloned, machineId) =>
      if enforceAllowlist ∧ target ∉ service.config.targetsOf workspaceId then numbered.setPoint id id (.ended false)
      else numbered.setPoint id id
        (.selecting cloned machineId workspaceId service.config.machineId sessionId service.config)
  | .releaseSessionTarget machineId sessionId =>
    let owner : FleetOwner := ⟨service.config.machineId, sessionId, none⟩
    if service.config.isReservedBy machineId owner then
      if (service.config.machines.get? machineId).any (·.sessionClone) then
        numbered.setPoint id id (.stoppingTarget machineId owner)
      else numbered.beginExclusive id id (.top (.release machineId owner))
    else numbered.setPoint id id (.ended true)

end Service

inductive FleetEvent where
  | request (request : FleetRequest)
  | advance (id : Nat) (awaited : Awaited)

namespace Service

variable (service : Service)

def step (digest : JsString → JsString) (service : Service) : FleetEvent → Service
  | .request request => service.start request
  | .advance id awaited =>
    match service.calls.get? id with
    | none => service
    | some call => service.advance digest id call awaited

/-- The settings that a cloning operation writes from where it waits, outside the queue. -/
def pointWrite (digest : JsString → JsString) (awaited : Awaited) : CallPoint → Option (JsString × FleetMachineConfig)
  | .copyListing baseId name config view _ => copySettings baseId name config view awaited
  | .copied name view (some _) => service.markSettings name view awaited
  | .sessionListing request view => service.reuse digest request view awaited
  | .released preparation replacementBaseId => service.disabledSettings preparation replacementBaseId
  | _ => none

/-- The settings that the next step writes outside the queue. -/
def settingsWrite (digest : JsString → JsString) : FleetEvent → Option (JsString × FleetMachineConfig)
  | .request _ => none
  | .advance id awaited => (service.calls.get? id).bind fun call => service.pointWrite digest awaited call.point

/-- Fleet before its first call. -/
def new (config : FleetConfiguration) : Service := ⟨config, .empty, [], .empty, 0, [], [], []⟩

end Service

end Beale.FleetService
