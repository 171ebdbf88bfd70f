import Beale.Fleet.Service

/-!
# What one stretch of a call does

There are six kinds of a stretch, and only the call that has the turn is in its work.
-/

namespace Beale.FleetService

open Beale.Library
open Service

namespace Service

def pointOf (service : Service) (id : Nat) : Option CallPoint := (service.calls.get? id).map Call.point

@[simp] theorem pointOf_setPoint (service : Service) (id started other : Nat) (point : CallPoint) :
    (service.setPoint id started point).pointOf other = if other = id then some point else service.pointOf other := by
  simp only [pointOf, setPoint, JsMap.get?_set]
  split <;> rfl

variable {service' service : Service}

theorem pointOf_congr (h : service'.calls = service.calls) :
    service'.pointOf = service.pointOf := by
  funext other
  simp only [pointOf, h]

/-- Each call has a number that was given out. -/
def Numbered (service : Service) : Prop := ∀ id point, service.pointOf id = some point → id < service.next

/-- A call of this number can run. -/
structure Given (service : Service) (id : Nat) : Prop where
  lt : id < service.next
  numbered : service.Numbered

theorem Given.of_same {id : Nat} (h : service.Given id)
    (hcalls : service'.calls = service.calls) (hnext : service'.next = service.next) : service'.Given id where
  lt := hnext ▸ h.lt
  numbered other point hother := by
    rw [hnext]
    exact h.numbered other point (pointOf_congr hcalls ▸ hother)

end Service

/-- A call that has the turn, and has not given it away. -/
def CallPoint.isWorking : CallPoint → Bool
  | .exclusive _ .queued => false
  | .exclusive _ _ => true
  | _ => false

/-! ## Stretches that write nothing -/

/-- A stretch of a call that writes nothing and does not come to have the turn. -/
structure Quiet (id : Nat) (service service' : Service) : Prop where
  config : service'.config = service.config
  changes : service'.changes = service.changes
  queue : service.queue <+: service'.queue
  others : ∀ other point, other ≠ id → service.pointOf other = some point → service'.pointOf other = some point
  working : ∀ other point, service'.pointOf other = some point → point.isWorking →
    other ≠ id ∧ service.pointOf other = some point
  given : service'.Given id

section Quiet

variable {service : Service} {id : Nat}

/-- The call comes to wait elsewhere. -/
theorem quiet_setPoint (h : service.Given id) (started : Nat) {point : CallPoint} (hpoint : point.isWorking = false) : Quiet id service (service.setPoint id started point) where
  config := rfl
  changes := rfl
  queue := List.prefix_rfl
  others other point hne hother := by rw [pointOf_setPoint, if_neg hne, hother]
  working other point hother hwork := by
    rw [pointOf_setPoint] at hother
    split at hother
    · cases hother
      simp [hpoint] at hwork
    · next hne => exact ⟨hne, hother⟩
  given := by
    refine ⟨h.lt, fun other point hother => ?_⟩
    rw [pointOf_setPoint] at hother
    split at hother
    · next heq => exact heq ▸ h.lt
    · exact h.numbered other point hother

variable {service' : Service}

theorem Quiet.of_same {service'' : Service} (h : Quiet id service service')
    (hconfig : service''.config = service'.config) (hchanges : service''.changes = service'.changes)
    (hqueue : service'.queue <+: service''.queue) (hcalls : service''.calls = service'.calls)
    (hnext : service''.next = service'.next) : Quiet id service service'' := by
  have hpoint := pointOf_congr hcalls
  exact ⟨hconfig.trans h.config, hchanges.trans h.changes, h.queue.trans hqueue, hpoint ▸ h.others, hpoint ▸ h.working,
    h.given.of_same hcalls hnext⟩

/-- A stretch after a part that has changed nothing of this. -/
theorem Quiet.from_same {service₀ : Service} (h : Quiet id service₀ service')
    (hconfig : service₀.config = service.config) (hchanges : service₀.changes = service.changes)
    (hqueue : service₀.queue = service.queue) (hcalls : service₀.calls = service.calls) :
    Quiet id service service' := by
  have hpoint := pointOf_congr hcalls
  exact ⟨h.config.trans hconfig, h.changes.trans hchanges, hqueue ▸ h.queue, hpoint ▸ h.others, hpoint ▸ h.working,
    h.given⟩

variable (h : service.Given id) (started : Nat)

include h

theorem quiet_beginExclusive (turn : ExclusiveCall) : Quiet id service (service.beginExclusive id started turn) :=
  (quiet_setPoint h started rfl).of_same rfl rfl (List.prefix_append _ _) rfl rfl

theorem quiet_settle (result : Option JsString) : Quiet id service (service.settle id started result) :=
  (quiet_setPoint h started rfl).of_same rfl rfl List.prefix_rfl rfl rfl

theorem quiet_failClone (session : Option SessionClone) : Quiet id service (service.failClone id started session) := by
  unfold failClone
  split
  · exact quiet_settle h started none
  · exact quiet_setPoint h started rfl

theorem quiet_startClone (baseId name : JsString) (session : Option SessionClone) :
    Quiet id service (service.startClone id started baseId name session) := by
  unfold startClone
  split
  · exact quiet_failClone h started session
  · split
    · exact quiet_setPoint h started rfl
    · exact quiet_failClone h started session

theorem quiet_startSessionClone (request : SessionClone) :
    Quiet id service (service.startSessionClone id started request) := by
  unfold startSessionClone
  split
  · exact quiet_settle h started none
  · exact quiet_setPoint h started rfl

section

variable (preparation : Preparation)
include preparation

theorem quiet_letGo (replacementBaseId : Option JsString) :
    Quiet id service ((service.letGo id preparation.machineId).setPoint id started
      (.released preparation replacementBaseId)) := by
  have hletGo : (service.letGo id preparation.machineId).Given id := h.of_same rfl rfl
  exact (quiet_setPoint hletGo started rfl).from_same rfl rfl rfl rfl

theorem quiet_giveUp (replacementBaseId : Option JsString) :
    Quiet id service (service.giveUp id started preparation replacementBaseId) := by
  unfold giveUp
  split
  · split
    · exact quiet_setPoint h started rfl
    · exact quiet_beginExclusive h started _
  · exact quiet_letGo h started preparation replacementBaseId

theorem quiet_recover : Quiet id service (service.recover id started preparation) := by
  unfold recover
  split
  · exact quiet_giveUp h started preparation none
  · exact quiet_setPoint h started rfl

theorem quiet_startTarget : Quiet id service (service.startTarget id started preparation) := by
  unfold startTarget
  dsimp only
  split
  · exact quiet_setPoint h started rfl
  · exact quiet_recover h started preparation

theorem quiet_startMachine (view : FleetConfiguration) (awaited : Awaited) :
    Quiet id service (service.startMachine id started preparation view awaited) := by
  unfold startMachine
  simp only
  split
  · exact quiet_setPoint h started rfl
  · exact quiet_recover h started preparation

end

theorem quiet_resume (succeeded : Bool) (turn : ExclusiveCall) :
    Quiet id service (service.resume id started succeeded turn) := by
  cases turn with
  | top work => exact quiet_setPoint h started rfl
  | session machineId owner => exact quiet_settle h started _
  | target preparation =>
    simp only [resume]
    split
    · have hheld : ({ service with
          holding := ⟨id, preparation.machineId, preparation.owner⟩ :: service.holding } : Service).Given id :=
        h.of_same rfl rfl
      exact (quiet_startTarget hheld started preparation).from_same rfl rfl rfl rfl
    · exact quiet_recover h started preparation
  | recovery preparation replacementBaseId => exact quiet_letGo h started preparation replacementBaseId

end Quiet

/-! ## The clones that calls share -/

/-- A part of a stretch in which no call moves, and a clone can begin. -/
structure Spawns (service service' : Service) : Prop where
  config : service'.config = service.config
  changes : service'.changes = service.changes
  queue : service'.queue = service.queue
  others : ∀ other point, service.pointOf other = some point → service'.pointOf other = some point
  working : ∀ other point, service'.pointOf other = some point → point.isWorking → service.pointOf other = some point
  next : service.next ≤ service'.next
  numbered : service'.Numbered

section Clones

variable {service : Service} {id : Nat}

theorem cloneForSession_spawns (hnum : service.Numbered) (shared : Nat) (request : SessionClone) :
    Spawns service (service.cloneForSession shared request).2 := by
  unfold cloneForSession
  split
  · next clone _ =>
    let joined : Service := { service with
      calls := service.calls.modify clone fun call => { call with started := max call.started shared } }
    have hsame : joined.pointOf = service.pointOf := by
      funext other
      simp only [joined, pointOf, JsMap.get?_modify]
      split
      · next heq => rw [heq, Option.map_map]; rfl
      · rfl
    exact ⟨rfl, rfl, rfl, fun other p hother => hsame ▸ hother, fun other p hother _ => hsame ▸ hother,
      Nat.le_refl _, fun other p hother => hnum other p (hsame ▸ hother)⟩
  · let spawned : Service := { service with
      sessionClones := service.sessionClones.set request.key service.next
      next := service.next + 1 }
    have hgiven : spawned.Given service.next :=
      ⟨Nat.lt_succ_self _, fun other p hother => Nat.lt_succ_of_lt (hnum other p hother)⟩
    have hclone := quiet_startSessionClone hgiven shared request
    have hqueue : (spawned.startSessionClone service.next shared request).queue = service.queue := by
      unfold startSessionClone
      split <;> rfl
    have hnext : spawned.next ≤ (spawned.startSessionClone service.next shared request).next := by
      unfold startSessionClone
      split <;> exact Nat.le_refl _
    refine ⟨hclone.config, hclone.changes, hqueue, fun other p hother => ?_, fun other p hother hwork => ?_,
      Nat.le_trans (Nat.le_succ _) hnext, hclone.given.numbered⟩
    · have hold : other ≠ service.next := Nat.ne_of_lt (hnum other p hother)
      exact hclone.others other p hold hother
    · exact (hclone.working other p hother hwork).2

theorem quiet_cloneForSession (h : service.Given id) (started : Nat) (request : SessionClone) (shared : Nat)
    {point : CallPoint} (hpoint : point.isWorking = false) :
    Quiet id service ((service.cloneForSession shared request).2.setPoint id started point) := by
  have hspawns := cloneForSession_spawns h.numbered shared request
  have hcall := quiet_setPoint ⟨Nat.lt_of_lt_of_le h.lt hspawns.next, hspawns.numbered⟩ started hpoint
  refine ⟨hcall.config.trans hspawns.config, hcall.changes.trans hspawns.changes, hspawns.queue ▸ hcall.queue,
    fun other p hne hother => hcall.others other p hne (hspawns.others other p hother),
    fun other p hother hwork => ?_, hcall.given⟩
  obtain ⟨hne, hthere⟩ := hcall.working other p hother hwork
  exact ⟨hne, hspawns.working other p hthere hwork⟩

theorem quiet_startClone_of_next (request : SessionClone) (hnum : service.Numbered) (hfree : service.pointOf id = none)
    (hid : id < service.next) (shared : Nat) : Quiet id service (service.cloneForSession shared request).2 := by
  have hspawns := cloneForSession_spawns hnum shared request
  refine ⟨hspawns.config, hspawns.changes, hspawns.queue ▸ List.prefix_rfl,
    fun other p _ hother => hspawns.others other p hother, fun other p hother hwork => ?_,
    ⟨Nat.lt_of_lt_of_le hid hspawns.next, hspawns.numbered⟩⟩
  have hthere := hspawns.working other p hother hwork
  refine ⟨?_, hthere⟩
  rintro rfl
  cases hfree.symm.trans hthere

theorem quiet_select (h : service.Given id) (started : Nat) (cloned : Bool) (machineId workspaceId ownerMachineId sessionId : JsString)
    (view : FleetConfiguration) (awaited : Awaited) :
    Quiet id service
      (service.select id started cloned machineId workspaceId ownerMachineId sessionId view awaited) := by
  unfold select
  split
  · exact quiet_setPoint h started rfl
  · dsimp only
    split
    · split
      · exact quiet_cloneForSession h started _ started rfl
      · exact quiet_setPoint h started rfl
    · split
      · exact quiet_beginExclusive h started _
      · exact quiet_setPoint h started rfl

theorem quiet_start (hnum : service.Numbered) (request : FleetRequest) :
    Quiet service.next service (service.start request) := by
  let numbered : Service := { service with next := service.next + 1 }
  have hgiven : numbered.Given service.next :=
    ⟨Nat.lt_succ_self _, fun other p hother => Nat.lt_succ_of_lt (hnum other p hother)⟩
  have hfree : numbered.pointOf service.next = none := by
    cases hpoint : service.pointOf service.next with
    | none => exact hpoint
    | some point => exact absurd (hnum _ point hpoint) (Nat.lt_irrefl _)
  suffices h : Quiet service.next numbered (service.start request) from h.from_same rfl rfl rfl rfl
  cases request with
  | configure | reserve | release => exact quiet_beginExclusive hgiven _ _
  | clone baseId name => exact quiet_startClone hgiven _ _ _ _
  | cloneForSession request => exact quiet_startClone_of_next request hgiven.numbered hfree hgiven.lt _
  | prepareSessionTarget target workspaceId sessionId enforceAllowlist =>
    unfold start
    dsimp only
    split
    · exact quiet_setPoint hgiven _ rfl
    · split
      · exact quiet_setPoint hgiven _ rfl
      · exact quiet_setPoint hgiven _ rfl
  | releaseSessionTarget machineId sessionId =>
    unfold start
    dsimp only
    split
    · split
      · exact quiet_setPoint hgiven _ rfl
      · exact quiet_beginExclusive hgiven _ _
    · exact quiet_setPoint hgiven _ rfl

end Clones

/-! ## The kinds of a stretch -/

def workResult (work : ExclusiveWork) (view config : FleetConfiguration) (awaited : Awaited) :
    Except JsString FleetConfiguration :=
  match work with
  | .configure action => configureAction view awaited action
  | .reserve machineId owner => reserveMachine view config awaited machineId owner
  | .release machineId owner => releaseMachine config machineId owner

/-- What one stretch of a call in the queue does. -/
inductive TurnEffect (service : Service) (id : Nat) (call : Call) (awaited : Awaited) : Service → Prop
  | same : TurnEffect service id call awaited service
  | wait {turn} : call.point = .exclusive turn .queued → service.queue.head? = some id →
    (∀ machineId owner, turn.work = .reserve machineId owner → validOwner owner = .ok ()) →
    (∀ machineId owner, turn.work ≠ .release machineId owner) →
    TurnEffect service id call awaited
      (service.setPoint id call.started (.exclusive turn (.awaiting service.config)))
  | commit {turn view config} : service.queue.head? = some id →
    (call.point = .exclusive turn .queued ∧ view = service.config ∧ turn.work.writesAtOnce = true ∨
      call.point = .exclusive turn (.awaiting view) ∧ ∀ machineId owner, turn.work ≠ .release machineId owner) →
    workResult turn.work view service.config awaited = .ok config →
    TurnEffect service id call awaited (service.commit id call.started turn config)
  | unlock {turn succeeded} : service.queue.head? = some id →
    (call.point = .exclusive turn .returning ∧ succeeded = true ∨
      (∃ phase, call.point = .exclusive turn phase ∧ phase ≠ .returning ∧
        (∀ machineId owner, turn.work = .release machineId owner →
          phase = .queued ∧ ∃ message, releaseMachine service.config machineId owner = .error message)) ∧
      succeeded = false) →
    TurnEffect service id call awaited (service.unlock id call.started succeeded turn)

inductive Effect (digest : JsString → JsString) (service : Service) (id : Nat) (call : Call) (awaited : Awaited) :
    Service → Prop
  | same : Effect digest service id call awaited service
  | quiet {service'} : Quiet id service service' → Effect digest service id call awaited service'
  | settings {machineId settings service'} :
    service.pointWrite digest awaited call.point = some (machineId, settings) →
    Quiet id (service.writeSettings call.started machineId settings) service' →
    Effect digest service id call awaited service'
  | turn {service'} : TurnEffect service id call awaited service' → Effect digest service id call awaited service'

/-- Only the call that has the turn is in its work, and while `configure` waits in it nothing but the settings of
VMs changes. -/
structure TurnsKept (service : Service) : Prop where
  numbered : service.Numbered
  turn : ∀ id point, service.pointOf id = some point → point.isWorking → service.queue.head? = some id
  view : ∀ id turn view action, service.pointOf id = some (.exclusive turn (.awaiting view)) →
    turn.work = .configure action → { view with machines := service.config.machines } = service.config

section Advance

variable {service : Service} {id : Nat} {call : Call}

variable {turn : ExclusiveCall} {view : FleetConfiguration}

theorem finishWork_effect (awaited : Awaited) (hhead : service.queue.head? = some id)
    (hpoint : call.point = .exclusive turn .queued ∧ view = service.config
        ∧ turn.work.writesAtOnce = true ∨
      call.point = .exclusive turn (.awaiting view) ∧ ∀ machineId owner, turn.work ≠ .release machineId owner) :
    TurnEffect service id call awaited
      (service.finishWork id call.started turn (workResult turn.work view service.config awaited)) := by
  cases hres : workResult turn.work view service.config awaited with
  | ok config => exact .commit hhead hpoint hres
  | error message =>
    refine .unlock hhead (.inr ⟨?_, rfl⟩)
    rcases hpoint with ⟨hqueue, hview, -⟩ | ⟨hawaiting, hrelease⟩
    · refine ⟨.queued, hqueue, nofun, fun machineId owner hwork => ⟨rfl, message, ?_⟩⟩
      simpa [workResult, hwork] using hres
    · exact ⟨.awaiting view, hawaiting, nofun, fun machineId owner hwork => absurd hwork (hrelease machineId owner)⟩

variable {digest : JsString → JsString} {awaited : Awaited}

theorem beginWork_effect (hhead : service.queue.head? = some id)
    (hpoint : call.point = .exclusive turn .queued) :
    TurnEffect service id call awaited (service.beginWork id call.started turn awaited) := by
  unfold beginWork
  cases hwork : turn.work with
  | configure action =>
    have hnone : ∀ machineId owner, turn.work ≠ .release machineId owner := by simp [hwork]
    dsimp only
    split
    · exact .unlock hhead (.inr ⟨⟨.queued, hpoint, nofun, fun machineId owner h => absurd h (hnone machineId owner)⟩, rfl⟩)
    · split
      · exact .wait hpoint hhead (by simp [hwork]) hnone
      · next hwaits =>
        have hfinish := finishWork_effect awaited hhead
          (.inl ⟨hpoint, rfl, by simpa [hwork, ExclusiveWork.writesAtOnce] using hwaits⟩)
        simpa only [workResult, hwork] using hfinish
  | reserve machineId owner =>
    have hnone : ∀ machineId owner, turn.work ≠ .release machineId owner := by simp [hwork]
    dsimp only
    split
    · exact .unlock hhead (.inr ⟨⟨.queued, hpoint, nofun, fun machineId owner h => absurd h (hnone machineId owner)⟩, rfl⟩)
    · next hvalid =>
      refine .wait hpoint hhead ?_ hnone
      intro other owner' h
      obtain ⟨rfl, rfl⟩ := ExclusiveWork.reserve.inj (hwork.symm.trans h)
      exact hvalid
  | release machineId owner =>
    have hfinish := finishWork_effect awaited hhead
      (.inl ⟨hpoint, rfl, by simp [hwork, ExclusiveWork.writesAtOnce]⟩)
    simpa only [workResult, hwork] using hfinish

theorem continueWork_effect
    (hhead : service.queue.head? = some id) (hpoint : call.point = .exclusive turn (.awaiting view)) :
    TurnEffect service id call awaited (service.continueWork id call.started turn view awaited) := by
  unfold continueWork
  cases hwork : turn.work with
  | configure | reserve =>
    have hfinish := finishWork_effect awaited hhead (.inr ⟨hpoint, by simp [hwork]⟩)
    simpa only [workResult, hwork] using hfinish
  | release machineId owner => exact .same

theorem Service.Given.writeSettings (h : service.Given id) (started : Nat) (machineId : JsString)
    (settings : FleetMachineConfig) : (service.writeSettings started machineId settings).Given id :=
  h.of_same rfl rfl

theorem listSessionClones_effect (h : service.Given id) {request : SessionClone}
    (hpoint : call.point = .sessionListing request view) :
    Effect digest service id call awaited
      (service.listSessionClones digest id call.started request view awaited) := by
  unfold listSessionClones
  cases hbase : sessionBase request view awaited with
  | none => exact .quiet (quiet_settle h _ none)
  | some base =>
    dsimp only
    split
    · exact .quiet (quiet_settle h _ none)
    · next hstaged =>
      split
      · next existing hfind =>
        split
        · exact .quiet (quiet_settle h _ none)
        · next settings hsettings =>
          have hwrite : service.pointWrite digest awaited call.point = some (existing.id, settings) := by
            rw [hpoint, pointWrite, reuse, hbase]
            simp [hstaged, hfind, hsettings]
          refine .settings hwrite ?_
          split
          · exact quiet_settle (h.writeSettings _ _ _) _ _
          · exact quiet_beginExclusive (h.writeSettings _ _ _) _ _
      · split
        · exact .quiet (quiet_settle h _ none)
        · exact .quiet (quiet_startClone h _ _ _ _)

theorem replace_effect (h : service.Given id) {preparation : Preparation} {replacementBaseId : Option JsString}
    (hpoint : call.point = .released preparation replacementBaseId) :
    Effect digest service id call awaited (service.replace id call.started preparation replacementBaseId) := by
  unfold replace
  cases replacementBaseId with
  | none => exact .quiet (quiet_setPoint h _ rfl)
  | some baseId =>
    dsimp only
    cases hoff : service.disabledSettings preparation (some baseId) with
    | none => exact .quiet (quiet_cloneForSession h _ _ _ rfl)
    | some e =>
      obtain ⟨machineId, settings⟩ := e
      have hwrite : service.pointWrite digest awaited call.point = some (machineId, settings) := by
        rw [hpoint, pointWrite, hoff]
      exact .settings hwrite (quiet_cloneForSession (h.writeSettings _ _ _) _ _ _ rfl)

/-- Each stretch is of one of the kinds. -/
theorem advance_effect (h : TurnsKept service) (hget : service.calls.get? id = some call) :
    Effect digest service id call awaited (service.advance digest id call awaited) := by
  have hcall : service.pointOf id = some call.point := by rw [pointOf, hget]; rfl
  have hgiven : service.Given id := ⟨h.numbered id _ hcall, h.numbered⟩
  unfold advance
  dsimp only
  split
  · next turn hpoint =>
    split
    · next hhead => exact .turn (beginWork_effect hhead hpoint)
    · exact .same
  · next turn view hpoint => exact .turn (continueWork_effect (h.turn id _ hcall (by rw [hpoint]; rfl)) hpoint)
  · next turn hpoint => exact .turn (.unlock (h.turn id _ hcall (by rw [hpoint]; rfl)) (.inl ⟨hpoint, rfl⟩))
  · split
    · exact .quiet (quiet_setPoint hgiven _ rfl)
    · exact .quiet (quiet_failClone hgiven _ _)
  · split
    · exact .quiet (quiet_setPoint hgiven _ rfl)
    · exact .quiet (quiet_failClone hgiven _ _)
  · next baseId name config view session hpoint =>
    split
    · exact .quiet (quiet_failClone hgiven _ _)
    · next machineId settings hcopy =>
      exact .settings (hpoint ▸ hcopy) (quiet_setPoint (hgiven.writeSettings _ _ _) _ rfl)
  · next name view session hpoint =>
    split
    · exact .quiet (quiet_setPoint hgiven _ rfl)
    · next request =>
      split
      · exact .quiet (quiet_settle hgiven _ none)
      · next machineId settings hmark =>
        exact .settings (hpoint ▸ hmark) (quiet_beginExclusive (hgiven.writeSettings _ _ _) _ _)
  · next request view hpoint => exact listSessionClones_effect hgiven hpoint
  · exact .quiet (quiet_select hgiven _ _ _ _ _ _ _ _)
  · split
    · exact .quiet (quiet_startTarget hgiven _ _)
    · exact .quiet (quiet_setPoint hgiven _ rfl)
    · exact .same
  · exact .quiet (quiet_startMachine hgiven _ _ _ _)
  · split
    · exact .quiet (quiet_setPoint hgiven _ rfl)
    · exact .quiet (quiet_recover hgiven _ _)
  · exact .quiet (quiet_giveUp hgiven _ _ _)
  · exact .quiet (quiet_beginExclusive hgiven _ _)
  · next preparation replacementBaseId hpoint => exact replace_effect hgiven hpoint
  · exact .quiet (quiet_beginExclusive hgiven _ _)
  all_goals exact .same

end Advance

/-! ## The turns of every run -/

section Turns

variable {service service' : Service} {id : Nat}

theorem TurnsKept.quiet (h : TurnsKept service) (hquiet : Quiet id service service') : TurnsKept service' where
  numbered := hquiet.given.numbered
  turn other point hother hworking := by
    obtain ⟨rest, hrest⟩ := hquiet.queue
    rw [← hrest, List.head?_append, h.turn other point (hquiet.working other point hother hworking).2 hworking]
    rfl
  view other turn view action hother hwork := by
    rw [hquiet.config]
    exact h.view other turn view action (hquiet.working other _ hother rfl).2 hwork

theorem TurnsKept.writeSettings (h : TurnsKept service) (started : Nat) (machineId : JsString)
    (settings : FleetMachineConfig) : TurnsKept (service.writeSettings started machineId settings) where
  numbered := h.numbered
  turn := h.turn
  view other turn view action hother hwork := by
    have hview := h.view other turn view action hother hwork
    have hmachines : ({ service.config with machines := service.config.machines.set machineId settings } :
        FleetConfiguration) = { view with machines := service.config.machines.set machineId settings } := by
      rw [← hview]
    exact hmachines.symm

theorem TurnsKept.alone (h : TurnsKept service) (hhead : service.queue.head? = some id) {other : Nat}
    {point : CallPoint} (hother : service.pointOf other = some point) (hwork : point.isWorking) : other = id :=
  (Option.some.inj (hhead.symm.trans (h.turn other point hother hwork))).symm

theorem TurnsKept.work (h : TurnsKept service) (hgiven : service.Given id) (hhead : service.queue.head? = some id)
    (started : Nat) {point : CallPoint} (hcalls : service'.calls = (service.setPoint id started point).calls)
    (hqueue : service'.queue = service.queue) (hnext : service'.next = service.next)
    (hview : ∀ turn view action, point = .exclusive turn (.awaiting view) → turn.work = .configure action →
      { view with machines := service'.config.machines } = service'.config) : TurnsKept service' := by
  have hpoint : ∀ other, service'.pointOf other = if other = id then some point else service.pointOf other := by
    intro other
    rw [pointOf_congr hcalls, pointOf_setPoint]
  refine ⟨fun other p hother => ?_, fun other p hother hworking => ?_, fun other turn view action hother hwork => ?_⟩
  · rw [hpoint] at hother
    rw [hnext]
    split at hother
    · next heq => exact heq ▸ hgiven.lt
    · exact hgiven.numbered other p hother
  · rw [hpoint] at hother
    rw [hqueue]
    split at hother
    · next heq => exact heq ▸ hhead
    · exact h.turn other p hother hworking
  · rw [hpoint] at hother
    split at hother
    · exact hview turn view action (Option.some.inj hother) hwork
    · next hne => exact absurd (h.alone hhead hother rfl) hne

/-- What is reserved and held is beside the rest. -/
theorem noteOwner_same (service : Service) (id : Nat) (turn : ExclusiveCall) :
    (service.noteOwner id turn).config = service.config ∧ (service.noteOwner id turn).changes = service.changes ∧
      (service.noteOwner id turn).calls = service.calls ∧ (service.noteOwner id turn).queue = service.queue ∧
      (service.noteOwner id turn).next = service.next ∧
      (service.noteOwner id turn).sessionClones = service.sessionClones := by
  unfold noteOwner
  split <;> exact ⟨rfl, rfl, rfl, rfl, rfl, rfl⟩

theorem commit_same (service : Service) (id started : Nat) (turn : ExclusiveCall) (config : FleetConfiguration) :
    (service.commit id started turn config).calls = (service.setPoint id started (.exclusive turn .returning)).calls ∧
      (service.commit id started turn config).queue = service.queue ∧
      (service.commit id started turn config).next = service.next := by
  obtain ⟨-, -, hcalls, hqueue, hnext, -⟩ := noteOwner_same (service.write started turn.work.entry config) id turn
  exact ⟨by simp only [commit, setPoint, hcalls]; rfl, hqueue, hnext⟩

section

variable (h : TurnsKept service) (hgiven : service.Given id) (hhead : service.queue.head? = some id)
  (started : Nat) (succeeded : Bool) (turn : ExclusiveCall)
include h hgiven hhead started succeeded turn

theorem TurnsKept.unlock_idle (other : Nat)
    (point : CallPoint) (hother : (service.unlock id started succeeded turn).pointOf other = some point) :
    point.isWorking = false := by
  have hpassed : ({ service with queue := service.queue.tail } : Service).Given id := hgiven.of_same rfl rfl
  have hquiet : Quiet id { service with queue := service.queue.tail } (service.unlock id started succeeded turn) :=
    quiet_resume hpassed started succeeded turn
  by_contra hwork
  rw [Bool.not_eq_false] at hwork
  obtain ⟨hne, hthere⟩ := hquiet.working other point hother hwork
  exact hne (h.alone hhead hthere hwork)

theorem TurnsKept.unlock : TurnsKept (service.unlock id started succeeded turn) := by
  have hpassed : ({ service with queue := service.queue.tail } : Service).Given id := hgiven.of_same rfl rfl
  have hnobody := h.unlock_idle hgiven hhead started succeeded turn
  refine ⟨(quiet_resume hpassed started succeeded turn).given.numbered, fun other point hother hwork => ?_,
    fun other turn view action hother _ => ?_⟩
  · cases (hnobody other point hother).symm.trans hwork
  · cases hnobody other _ hother

end

end Turns

section Step

variable {service : Service} {digest : JsString → JsString} {service' : Service} {awaited : Awaited}

theorem TurnsKept.turnEffect {id : Nat} {call : Call}
    (h : TurnsKept service) (hgiven : service.Given id) (heff : TurnEffect service id call awaited service') :
    TurnsKept service' := by
  cases heff with
  | same => exact h
  | wait hpoint hhead hvalid hrelease =>
    refine h.work hgiven hhead _ rfl rfl rfl ?_
    rintro turn view action ⟨⟩ -
    rfl
  | @commit turn view config hhead horigin hres =>
    obtain ⟨hcalls, hqueue, hnext⟩ := commit_same service id call.started turn config
    refine h.work hgiven hhead call.started hcalls hqueue hnext ?_
    rintro other view action ⟨⟩
  | unlock hhead hpoint => exact h.unlock hgiven hhead _ _ _

theorem TurnsKept.effect {id : Nat} {call : Call} (h : TurnsKept service)
    (hgiven : service.Given id) (heff : Effect digest service id call awaited service') : TurnsKept service' := by
  cases heff with
  | same => exact h
  | quiet hquiet => exact h.quiet hquiet
  | settings _ hquiet => exact (h.writeSettings _ _ _).quiet hquiet
  | turn hturn => exact h.turnEffect hgiven hturn

theorem TurnsKept.step (h : TurnsKept service) (event : FleetEvent) : TurnsKept (service.step digest event) := by
  cases event with
  | request request => exact h.quiet (quiet_start h.numbered request)
  | advance id awaited =>
    simp only [Service.step]
    split
    · exact h
    · next call hget =>
      have hcall : service.pointOf id = some call.point := by rw [pointOf, hget]; rfl
      exact h.effect ⟨h.numbered id _ hcall, h.numbered⟩ (advance_effect h hget)

theorem pointOf_new (config : FleetConfiguration) (id : Nat) : (new config).pointOf id = none := rfl

theorem TurnsKept.new (config : FleetConfiguration) : TurnsKept (Service.new config) where
  numbered id point hpoint := by cases (pointOf_new config id).symm.trans hpoint
  turn id point hpoint := by cases (pointOf_new config id).symm.trans hpoint
  view id turn view action hpoint := by cases (pointOf_new config id).symm.trans hpoint

end Step

end Beale.FleetService
