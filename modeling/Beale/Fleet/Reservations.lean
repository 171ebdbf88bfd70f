import Beale.Fleet.Ownership

/-!
# The reservations of Fleet in every run

What holds under the queue, what holds of the reservations, and `ownership_secure`:
every step of a run that meets the condition keeps them.
-/

namespace Beale.FleetService

open Beale.Library Beale.Library.Client
open Service

/-! ## The condition and the property -/

/-- The condition on a step. -/
def OwnershipKept (digest : JsString → JsString) (service : Service) : FleetEvent → Bool
  | .request _ => true
  | .advance id awaited =>
    ((service.settingsWrite digest (.advance id awaited)).all fun e =>
        (service.config.owners.get? e.1).isNone || service.config.machines.get? e.1 = some e.2)
      && (service.calls.get? id).all fun call =>
        match call.point with
        | .exclusive (.recovery preparation _) .queued => service.holding.all fun held =>
          held.machineId ≠ preparation.machineId || held.call = id
        | _ => true

def IsReleaseBy (service : Service) (machineId : JsString) (claim : FleetOwner) : FleetEvent → Prop
  | .request _ => False
  | .advance id _ => ∃ turn owner, service.pointOf id = some (.exclusive turn .queued) ∧
      turn.work = .release machineId owner ∧ claim.isSame owner

/-- What a step keeps. -/
structure OwnershipSecure (digest : JsString → JsString) (service : Service) (event : FleetEvent) : Prop where
  sound : OwnersSound (service.step digest event).config
  /-- a VM passes from its owner only by the owner's release -/
  handedOver : ∀ machineId claim, service.config.owners.get? machineId = some claim →
    (∃ claim', (service.step digest event).config.owners.get? machineId = some claim' ∧ claim'.isSame claim) ∨
      (service.step digest event).config.owners.get? machineId = none ∧ IsReleaseBy service machineId claim event
  settings : ∀ machineId, (service.config.owners.get? machineId).isSome →
    (service.step digest event).config.machines.get? machineId = service.config.machines.get? machineId
  /-- a preparation that goes on, or has succeeded, has its VM until its session releases it -/
  held : ∀ held ∈ (service.step digest event).holding,
    (service.step digest event).config.isReservedBy held.machineId held.owner
  /-- one that has failed has left no reservation -/
  failed : ∀ held ∈ (service.step digest event).reservations,
    (service.step digest event).pointOf held.call ≠ some (.ended false)

/-! ## Under the queue -/

/-- What holds of the calls that have the turn. -/
structure Locks (service : Service) : Prop where
  turns : TurnsKept service
  sound : OwnersSound service.config
  settings : ∀ id turn view action, service.pointOf id = some (.exclusive turn (.awaiting view)) →
    turn.work = .configure action → ∀ machineId, (service.config.owners.get? machineId).isSome →
    view.machines.get? machineId = service.config.machines.get? machineId
  validated : ∀ id turn view machineId owner, service.pointOf id = some (.exclusive turn (.awaiting view)) →
    turn.work = .reserve machineId owner → validOwner owner = .ok ()
  returning : ∀ id turn machineId owner, service.pointOf id = some (.exclusive turn .returning) →
    turn.work = .reserve machineId owner → service.config.isReservedBy machineId owner

section Locks

variable {service service' : Service} {id : Nat}

theorem Locks.quiet (h : Locks service) (hquiet : Quiet id service service') : Locks service' where
  turns := h.turns.quiet hquiet
  sound := hquiet.config ▸ h.sound
  settings other turn view action hother := by
    rw [hquiet.config]
    exact h.settings other turn view action (hquiet.working other _ hother rfl).2
  validated other turn view machineId owner hother :=
    h.validated other turn view machineId owner (hquiet.working other _ hother rfl).2
  returning other turn machineId owner hother := by
    rw [hquiet.config]
    exact h.returning other turn machineId owner (hquiet.working other _ hother rfl).2

/-- Settings of a VM that is not owned, or that stay as they are. -/
theorem Locks.writeSettings (h : Locks service) (started : Nat) {machineId : JsString} {settings : FleetMachineConfig}
    (hfree : service.config.owners.get? machineId = none ∨ service.config.machines.get? machineId = some settings) :
    Locks (service.writeSettings started machineId settings) where
  turns := h.turns.writeSettings _ _ _
  sound := ⟨h.sound.primary, h.sound.staged, h.sound.valid⟩
  settings other turn view action hother hwork owned howned := by
    rw [h.settings other turn view action hother hwork owned howned]
    simp only [Service.writeSettings, write, JsMap.get?_set]
    split
    · next heq =>
      subst heq
      rcases hfree with hnone | hsame
      · exact absurd howned (by simp [Service.writeSettings, write, hnone])
      · exact hsame
    · rfl
  validated := h.validated
  returning := h.returning

variable {turn : ExclusiveCall}

/-- What the work of a turn reads: the configuration, or what it was before the turn awaited. -/
def WorksOn (service : Service) (call : Call) (turn : ExclusiveCall) (view : FleetConfiguration) : Prop :=
  call.point = .exclusive turn .queued ∧ view = service.config ∧ turn.work.writesAtOnce = true ∨
    call.point = .exclusive turn (.awaiting view) ∧ ∀ machineId owner, turn.work ≠ .release machineId owner

theorem workResult_sound {view config' : FleetConfiguration} {awaited : Awaited} {call : Call}
    (h : Locks service) (hcall : service.pointOf id = some call.point)
    (horigin : WorksOn service call turn view)
    (hres : workResult turn.work view service.config awaited = .ok config') :
    OwnersSound config' ∧
      (∀ machineId, (service.config.owners.get? machineId).isSome →
        config'.machines.get? machineId = service.config.machines.get? machineId) ∧
      ∀ machineId claim, service.config.owners.get? machineId = some claim →
        (∃ claim', config'.owners.get? machineId = some claim' ∧ claim'.isSame claim) ∨
          config'.owners.get? machineId = none ∧ ∃ owner, call.point = .exclusive turn .queued ∧
            turn.work = .release machineId owner ∧ claim.isSame owner := by
  cases hwork : turn.work with
  | configure action =>
    rw [hwork] at hres
    -- what has changed since the read is the settings of VMs that nobody owns
    have hview : { view with machines := service.config.machines } = service.config ∧
        ∀ machineId, (service.config.owners.get? machineId).isSome →
          view.machines.get? machineId = service.config.machines.get? machineId := by
      rcases horigin with ⟨-, rfl, -⟩ | ⟨hpoint, -⟩
      · exact ⟨rfl, fun _ _ => rfl⟩
      · exact ⟨h.turns.view id turn view action (hpoint ▸ hcall) hwork,
          h.settings id turn view action (hpoint ▸ hcall) hwork⟩
    have howners : view.owners = service.config.owners := by rw [← hview.1]
    have hsound : OwnersSound view := by
      have hrole : view.role = service.config.role := by rw [← hview.1]
      have henabled : view.enabled = service.config.enabled := by rw [← hview.1]
      exact ⟨by rw [howners, hrole, henabled]; exact h.sound.primary, by rw [howners]; exact h.sound.staged,
        by rw [howners]; exact h.sound.valid⟩
    refine ⟨hsound.configure hres, fun machineId howned => ?_, fun machineId claim hget => .inl ⟨claim, ?_, ?_⟩⟩
    · rw [configureAction_machines hres (howners ▸ howned), hview.2 machineId howned]
    · rw [configureAction_owners hres, howners, hget]
    · exact FleetOwner.isSame_refl _
  | reserve machineId owner =>
    rw [hwork] at hres
    have hvalid : validOwner owner = .ok () := by
      rcases horigin with ⟨-, -, honce⟩ | ⟨hpoint, -⟩
      · simp [hwork, ExclusiveWork.writesAtOnce] at honce
      · exact h.validated id turn view machineId owner (hpoint ▸ hcall) hwork
    have hsound := h.sound.reserve hvalid hres
    obtain ⟨-, hclaim, -, -, rfl⟩ := reserveMachine_ok hres
    refine ⟨hsound, fun _ _ => rfl, fun other claim hget => .inl ?_⟩
    rw [JsMap.get?_set]
    split
    · next heq =>
      subst heq
      exact ⟨_, rfl, FleetOwner.isSame_symm (hclaim claim hget)⟩
    · exact ⟨claim, hget, FleetOwner.isSame_refl _⟩
  | release machineId owner =>
    rw [hwork] at hres
    have hsound := h.sound.release hres
    obtain ⟨hclaim, rfl⟩ := releaseMachine_ok hres
    refine ⟨hsound, fun _ _ => rfl, fun other claim hget => ?_⟩
    rw [JsMap.get?_delete]
    split
    · next heq =>
      subst heq
      rcases horigin with ⟨hpoint, -, -⟩ | ⟨-, hnone⟩
      · exact .inr ⟨rfl, owner, hpoint, rfl, hclaim claim hget⟩
      · exact absurd hwork (hnone _ owner)
    · exact .inl ⟨claim, hget, FleetOwner.isSame_refl _⟩

section

variable (h : Locks service) (hgiven : service.Given id)
include h hgiven

theorem Locks.commit {view config' : FleetConfiguration} {awaited : Awaited} {call : Call} (hcall : service.pointOf id = some call.point)
    (hhead : service.queue.head? = some id)
    (horigin : WorksOn service call turn view)
    (hres : workResult turn.work view service.config awaited = .ok config') :
    Locks (service.commit id call.started turn config') := by
  obtain ⟨hsound, -, -⟩ := workResult_sound h hcall horigin hres
  have hconfig : (service.commit id call.started turn config').config = config' :=
    (noteOwner_same (service.write call.started turn.work.entry config') id turn).1
  obtain ⟨hcalls, hqueue, hnext⟩ := commit_same service id call.started turn config'
  have hpoint : ∀ other, (service.commit id call.started turn config').pointOf other =
      if other = id then some (.exclusive turn .returning) else service.pointOf other := by
    intro other
    rw [pointOf_congr hcalls, pointOf_setPoint]
  have halone : ∀ other turn' view', (service.commit id call.started turn config').pointOf other ≠
      some (.exclusive turn' (.awaiting view')) := by
    intro other turn' view' hother
    rw [hpoint] at hother
    split at hother
    · cases hother
    · next hne => exact hne (h.turns.alone hhead hother rfl)
  refine ⟨h.turns.work hgiven hhead call.started hcalls hqueue hnext (by rintro turn view action ⟨⟩),
    by rw [hconfig]; exact hsound,
    fun other turn' view' action hother => absurd hother (halone other turn' view'),
    fun other turn' view' machineId owner hother => absurd hother (halone other turn' view'),
    fun other turn' machineId owner hother hwork => ?_⟩
  rw [hpoint] at hother
  rw [hconfig]
  split at hother
  · cases hother
    rw [hwork] at hres
    obtain ⟨-, -, -, -, rfl⟩ := reserveMachine_ok hres
    exact isReservedBy_iff.mpr ⟨_, JsMap.get?_set_self _ _ _, FleetOwner.isSame_refl _⟩
  · next hne => exact absurd (h.turns.alone hhead hother rfl) hne

theorem Locks.wait {started : Nat} (hhead : service.queue.head? = some id)
    (hvalid : ∀ machineId owner, turn.work = .reserve machineId owner → validOwner owner = .ok ()) :
    Locks (service.setPoint id started (.exclusive turn (.awaiting service.config))) := by
  refine ⟨h.turns.work hgiven hhead started rfl rfl rfl ?_, h.sound, fun other turn' view action hother hwork => ?_,
    fun other turn' view machineId owner hother hwork => ?_, fun other turn' machineId owner hother hwork => ?_⟩
  · rintro turn view action ⟨⟩ -
    rfl
  all_goals
    rw [pointOf_setPoint] at hother
    split at hother
    case isFalse hne => exact absurd (h.turns.alone hhead hother rfl) hne
  · cases hother
    exact fun _ _ => rfl
  · cases hother
    exact hvalid machineId owner hwork
  · cases hother

/-- Where the turn is given away, nothing is known of it any more. -/
theorem Locks.unlock {started : Nat} {succeeded : Bool} (hhead : service.queue.head? = some id) :
    Locks (service.unlock id started succeeded turn) := by
  have hpassed : ({ service with queue := service.queue.tail } : Service).Given id := hgiven.of_same rfl rfl
  have hquiet : Quiet id { service with queue := service.queue.tail } (service.unlock id started succeeded turn) :=
    quiet_resume hpassed started succeeded turn
  have hnobody := h.turns.unlock_idle hgiven hhead started succeeded turn
  refine ⟨h.turns.unlock hgiven hhead started succeeded turn, ?_, fun other turn' view action hother => ?_,
    fun other turn' view machineId owner hother => ?_, fun other turn' machineId owner hother => ?_⟩
  · rw [hquiet.config]
    exact h.sound
  all_goals cases hnobody other _ hother

end

end Locks

/-! ## The reservations of the preparations -/

def CallPoint.cloneOwner? : CallPoint → Option FleetOwner
  | .cloneListing _ _ _ session | .copying _ _ _ session | .copyListing _ _ _ _ session | .copied _ _ session =>
    session.map (·.owner)
  | .sessionListing request _ => some request.owner
  | .exclusive (.session _ owner) _ => some owner
  | _ => none

/-- The VM that a preparation has reserved, and its owner. -/
def CallPoint.target? : CallPoint → Option (JsString × FleetOwner)
  | .exclusive (.target preparation) .returning | .exclusive (.recovery preparation _) .queued
  | .starting preparation _ | .connecting preparation | .prepared preparation | .recovering preparation _
  | .stopping preparation _ => some (preparation.machineId, preparation.owner)
  | _ => none

def CanHold (service : Service) (point : CallPoint) (held : Held) : Prop :=
  point.target? = some (held.machineId, held.owner) ∨ ∃ preparation clone, point = .waiting preparation clone ∧
    preparation.owner = held.owner ∧ service.pointOf clone = some (.settled (some held.machineId))

/-- What holds of the reservations: they are there, and their calls wait where they can have made them; and the
calls that share a clone have its owner. -/
structure Books (service : Service) : Prop where
  made : ∀ held ∈ service.reservations, service.config.isReservedBy held.machineId held.owner = true
  held : ∀ held ∈ service.holding, service.config.isReservedBy held.machineId held.owner = true
  pointed : ∀ held ∈ service.reservations, ∃ point, service.pointOf held.call = some point ∧ CanHold service point held
  shared : ∀ id preparation clone, service.pointOf id = some (.waiting preparation clone) →
    ∃ point, service.pointOf clone = some point ∧
      ∀ owner, point.cloneOwner? = some owner → preparation.owner.isSame owner = true
  keyed : ∀ key clone, service.sessionClones.get? key = some clone → ∃ point owner,
    service.pointOf clone = some point ∧ point.cloneOwner? = some owner ∧ owner.machineId = key.machineId ∧
      owner.sessionId = key.sessionId

section Books

variable {service service' : Service} {id : Nat} {point : CallPoint}

theorem Books.of_same (h : Books service) (hcalls : service'.pointOf = service.pointOf)
    (howners : service'.config.owners = service.config.owners)
    (hresvs : service'.reservations = service.reservations) (hholding : service'.holding ⊆ service.holding)
    (hclones : service'.sessionClones = service.sessionClones) : Books service' := by
  have hres : service'.config.isReservedBy = service.config.isReservedBy := by
    funext machineId owner
    simp only [FleetConfiguration.isReservedBy, howners]
  refine ⟨?_, fun held hmem => ?_, ?_, ?_, ?_⟩
  · rw [hresvs, hres]
    exact h.made
  · rw [hres]
    exact h.held held (hholding hmem)
  · rw [hresvs, hcalls]
    simpa only [CanHold, hcalls] using h.pointed
  · rw [hcalls]
    exact h.shared
  · rw [hcalls, hclones]
    exact h.keyed

theorem not_canHold_of_cloneOwner {owner : FleetOwner} (h : point.cloneOwner? = some owner) (held : Held) :
    ¬ CanHold service point held := by
  rintro (htgt | ⟨preparation, clone, rfl, -⟩)
  · cases point with
    | exclusive turn phase => cases turn <;> cases phase <;> simp [CallPoint.cloneOwner?, CallPoint.target?] at h htgt
    | _ => simp [CallPoint.cloneOwner?, CallPoint.target?] at h htgt
  · simp [CallPoint.cloneOwner?] at h

theorem Books.move (h : Books service) (started : Nat)
    (hdone : ∀ result, service.pointOf id ≠ some (.settled result))
    (howner : ∀ old, service.pointOf id = some old → point.cloneOwner? = old.cloneOwner?)
    (hholds : ∀ held ∈ service.reservations, held.call = id → CanHold service point held)
    (hwaits : ∀ preparation clone, point = .waiting preparation clone → ∃ shared, service.pointOf clone = some shared ∧
      ∀ owner, shared.cloneOwner? = some owner → preparation.owner.isSame owner = true) :
    Books (service.setPoint id started point) := by
  have hcanHold : ∀ p held, CanHold service p held → CanHold (service.setPoint id started point) p held := by
    rintro p held (htgt | ⟨preparation, clone, hp, hsame, hclone⟩)
    · exact .inl htgt
    · refine .inr ⟨preparation, clone, hp, hsame, ?_⟩
      rw [pointOf_setPoint, if_neg, hclone]
      rintro rfl
      exact hdone _ hclone
  -- what a call of this number was made for, it still is
  have hthere : ∀ clone p, service.pointOf clone = some p → ∃ p',
      (service.setPoint id started point).pointOf clone = some p' ∧ p'.cloneOwner? = p.cloneOwner? := by
    intro clone p hclone
    rw [pointOf_setPoint]
    split
    · next heq =>
      subst heq
      exact ⟨point, rfl, howner p hclone⟩
    · exact ⟨p, hclone, rfl⟩
  refine ⟨h.made, h.held, fun held hmem => ?_, fun other preparation clone hother => ?_, fun key clone hkey => ?_⟩
  · obtain ⟨p, hp, hhold⟩ := h.pointed held hmem
    rw [pointOf_setPoint]
    split
    · next heq => exact ⟨point, rfl, hcanHold point held (hholds held hmem heq)⟩
    · exact ⟨p, hp, hcanHold p held hhold⟩
  · rw [pointOf_setPoint] at hother
    have hshared : ∃ shared, service.pointOf clone = some shared ∧
        ∀ owner, shared.cloneOwner? = some owner → preparation.owner.isSame owner = true := by
      split at hother
      · exact hwaits preparation clone (Option.some.inj hother)
      · exact h.shared other preparation clone hother
    obtain ⟨p, hclone, hsame⟩ := hshared
    obtain ⟨p', hp', heq⟩ := hthere clone p hclone
    exact ⟨p', hp', fun owner howner => hsame owner (heq ▸ howner)⟩
  · obtain ⟨p, owner, hclone, hp, hkeyed⟩ := h.keyed key clone hkey
    obtain ⟨p', hp', heq⟩ := hthere clone p hclone
    exact ⟨p', owner, hp', heq.trans hp, hkeyed⟩

theorem mem_sharers {clone : Nat} {machineId : JsString} {held : Held} :
    held ∈ service.sharers clone machineId ↔ ∃ preparation,
      service.pointOf held.call = some (.waiting preparation clone) ∧ held.machineId = machineId ∧
        held.owner = preparation.owner := by
  simp only [sharers, List.mem_filterMap]
  constructor
  · rintro ⟨⟨other, call⟩, hmem, hheld⟩
    split at hheld
    · next preparation awaited hpoint =>
      split at hheld
      · next heq =>
        cases hheld
        refine ⟨preparation, ?_, rfl, rfl⟩
        rw [pointOf, JsMap.get?_of_mem hmem, Option.map_some, hpoint, heq]
      · cases hheld
    · cases hheld
  · rintro ⟨preparation, hpoint, hmach, howner⟩
    obtain ⟨call, hget, hcall⟩ := Option.map_eq_some_iff.mp hpoint
    refine ⟨(held.call, call), JsMap.mem_of_get? hget, ?_⟩
    simp only [hcall, ↓reduceIte, ← hmach, ← howner]

theorem Books.settle (h : Books service) (started : Nat) {owner : FleetOwner} (hpoint : service.pointOf id = some point)
    (howner : point.cloneOwner? = some owner) {result : Option JsString}
    (hresult : ∀ machineId, result = some machineId → service.config.isReservedBy machineId owner = true) :
    Books (service.settle id started result) := by
  have hdone : ∀ result, service.pointOf id ≠ some (.settled result) := by
    intro result hdone
    rw [hpoint] at hdone
    cases hdone
    simp [CallPoint.cloneOwner?] at howner
  have hpointOf : ∀ other, (service.settle id started result).pointOf other =
      if other = id then some (.settled result) else service.pointOf other :=
    fun other => pointOf_setPoint service id started other (.settled result)
  have hcanHold : ∀ p held, CanHold service p held → CanHold (service.settle id started result) p held := by
    rintro p held (htgt | ⟨preparation, clone, hp, hsame, hclone⟩)
    · exact .inl htgt
    · refine .inr ⟨preparation, clone, hp, hsame, ?_⟩
      rw [hpointOf, if_neg, hclone]
      rintro rfl
      exact hdone _ hclone
  have hgained : ∀ held, held ∈ (service.settle id started result).reservations ∧ held ∉ service.reservations ∨
      held ∈ (service.settle id started result).holding ∧ held ∉ service.holding →
      service.config.isReservedBy held.machineId held.owner = true ∧ ∃ preparation, result = some held.machineId ∧
        service.pointOf held.call = some (.waiting preparation id) ∧ held.owner = preparation.owner := by
    rintro held (⟨hmem, hnot⟩ | ⟨hmem, hnot⟩)
    all_goals
      rcases List.mem_append.mp hmem with hmem | hmem
      · cases result with
        | none => cases hmem
        | some machineId =>
          obtain ⟨preparation, hwaits, rfl, hheld⟩ := mem_sharers.mp hmem
          obtain ⟨p, hp, hsame⟩ := h.shared held.call preparation id hwaits
          cases hpoint.symm.trans hp
          refine ⟨?_, preparation, rfl, hwaits, hheld⟩
          rw [hheld]
          exact isReservedBy_of_isSame (hresult _ rfl) (hsame owner howner)
      · exact absurd hmem hnot
  refine ⟨fun held hmem => ?_, fun held hmem => ?_, fun held hmem => ?_, fun other preparation clone hother => ?_,
    fun key clone hkey => ?_⟩
  · by_cases hthere : held ∈ service.reservations
    · exact h.made held hthere
    · exact (hgained held (.inl ⟨hmem, hthere⟩)).1
  · by_cases hthere : held ∈ service.holding
    · exact h.held held hthere
    · exact (hgained held (.inr ⟨hmem, hthere⟩)).1
  · by_cases hthere : held ∈ service.reservations
    · obtain ⟨p, hp, hhold⟩ := h.pointed held hthere
      have hne : held.call ≠ id := by
        intro heq
        rw [heq, hpoint] at hp
        cases hp
        exact not_canHold_of_cloneOwner howner held hhold
      exact ⟨p, by rw [hpointOf, if_neg hne, hp], hcanHold p held hhold⟩
    · obtain ⟨-, preparation, hsome, hwaits, hheld⟩ := hgained held (.inl ⟨hmem, hthere⟩)
      have hne : held.call ≠ id := by
        intro heq
        rw [heq, hpoint] at hwaits
        cases hwaits
        simp [CallPoint.cloneOwner?] at howner
      refine ⟨.waiting preparation id, by rw [hpointOf, if_neg hne, hwaits], .inr ⟨preparation, id, rfl, hheld.symm, ?_⟩⟩
      rw [hpointOf, if_pos rfl, hsome]
  · rw [hpointOf] at hother
    split at hother
    · cases hother
    · obtain ⟨p, hp, hsame⟩ := h.shared other preparation clone hother
      rw [hpointOf]
      split
      · exact ⟨_, rfl, (by rintro _ ⟨⟩)⟩
      · exact ⟨p, hp, hsame⟩
  · obtain ⟨hkey, hne⟩ := JsMap.get?_filter_eq_some.mp hkey
    obtain ⟨p, owner', hclone, hrest⟩ := h.keyed key clone hkey
    have hother : clone ≠ id := by simpa using hne
    exact ⟨p, owner', by rw [hpointOf, if_neg hother, hclone], hrest⟩

theorem cloneForSession_reservations (service : Service) (started : Nat) (request : SessionClone) :
    (service.cloneForSession started request).2.reservations = service.reservations := by
  unfold cloneForSession
  split
  · rfl
  · dsimp only
    unfold startSessionClone
    split <;> rfl

theorem Books.cloneForSession (h : Books service) (hnum : service.Numbered) (started : Nat)
    (request : SessionClone) :
    Books (service.cloneForSession started request).2 ∧
      ∃ shared, (service.cloneForSession started request).2.pointOf (service.cloneForSession started request).1 =
        some shared ∧ ∀ owner, shared.cloneOwner? = some owner → request.owner.isSame owner = true := by
  unfold Service.cloneForSession
  split
  · next clone hkey =>
    obtain ⟨p, owner, hclone, howner, hmach, hsess⟩ := h.keyed _ clone hkey
    have hsame : ({ service with
        calls := service.calls.modify clone fun call => { call with started := max call.started started } } :
        Service).pointOf = service.pointOf := by
      funext other
      simp only [pointOf, JsMap.get?_modify]
      split
      · next heq => rw [heq, Option.map_map]; rfl
      · rfl
    refine ⟨h.of_same hsame rfl rfl (List.Subset.refl _) rfl, p, by rw [hsame]; exact hclone, fun other hother => ?_⟩
    cases howner.symm.trans hother
    exact FleetOwner.isSame_iff.mpr ⟨hmach.symm, hsess.symm⟩
  · -- no call has the next number yet, so none waits for it
    have hfree : service.pointOf service.next = none := by
      cases hpoint : service.pointOf service.next with
      | none => rfl
      | some point => exact absurd (hnum _ point hpoint) (Nat.lt_irrefl _)
    have hold : ∀ other p, service.pointOf other = some p → other ≠ service.next := by
      rintro other p hother rfl
      cases hfree.symm.trans hother
    have hbooks : ∀ (point : CallPoint) (spawned : Service), (∀ preparation clone, point ≠ .waiting preparation clone) →
        (∀ other, spawned.pointOf other = if other = service.next then some point else service.pointOf other) →
        spawned.config = service.config → spawned.reservations = service.reservations →
        spawned.holding = service.holding →
        (∀ key clone, spawned.sessionClones.get? key = some clone → service.sessionClones.get? key = some clone ∨
          clone = service.next ∧ key = request.key ∧ point.cloneOwner? = some request.owner) → Books spawned := by
      intro point spawned hwaits hpointOf hconfig hresvs hholding hclones
      have hthere : ∀ other p, service.pointOf other = some p → spawned.pointOf other = some p := fun other p hother => by
        rw [hpointOf, if_neg (hold other p hother), hother]
      refine ⟨?_, ?_, fun held hmem => ?_, fun other preparation clone hother => ?_, fun key clone hkey => ?_⟩
      · rw [hconfig, hresvs]
        exact h.made
      · rw [hconfig, hholding]
        exact h.held
      · obtain ⟨p, hp, hhold⟩ := h.pointed held (hresvs ▸ hmem)
        refine ⟨p, hthere _ p hp, hhold.imp_right ?_⟩
        rintro ⟨preparation, clone, hwait, hsame, hclone⟩
        exact ⟨preparation, clone, hwait, hsame, hthere clone _ hclone⟩
      · rw [hpointOf] at hother
        split at hother
        · exact absurd (Option.some.inj hother) (hwaits preparation clone)
        · obtain ⟨p, hp, hsame⟩ := h.shared other preparation clone hother
          exact ⟨p, hthere clone p hp, hsame⟩
      · rcases hclones key clone hkey with hkey | ⟨rfl, rfl, howner⟩
        · obtain ⟨p, owner, hclone, hrest⟩ := h.keyed key clone hkey
          exact ⟨p, owner, hthere clone p hclone, hrest⟩
        · exact ⟨point, request.owner, by rw [hpointOf, if_pos rfl], howner, rfl, rfl⟩
    have hset : ∀ key clone, (service.sessionClones.set request.key service.next).get? key = some clone →
        service.sessionClones.get? key = some clone ∨ clone = service.next ∧ key = request.key := by
      intro key clone hkey
      rw [JsMap.get?_set] at hkey
      split at hkey
      · next heq => exact .inr ⟨(Option.some.inj hkey).symm, heq⟩
      · exact .inl hkey
    unfold startSessionClone
    split
    · refine ⟨hbooks (.settled none) _ (by rintro _ _ ⟨⟩) (fun other => pointOf_setPoint _ _ _ _ _) rfl rfl rfl
        fun key clone hkey => ?_, .settled none, ?_, (by rintro _ ⟨⟩)⟩
      · obtain ⟨hkey, hne⟩ := JsMap.get?_filter_eq_some.mp hkey
        exact .inl ((hset key clone hkey).resolve_right fun hnew => by simp [hnew.1] at hne)
      · exact (pointOf_setPoint _ _ _ _ _).trans (if_pos rfl)
    · refine ⟨hbooks (.sessionListing request service.config) _ (by rintro _ _ ⟨⟩)
        (fun other => pointOf_setPoint _ _ _ _ _) rfl rfl rfl fun key clone hkey => ?_,
        .sessionListing request service.config, ?_, ?_⟩
      · exact (hset key clone hkey).imp_right fun hnew => ⟨hnew.1, hnew.2, rfl⟩
      · exact (pointOf_setPoint _ _ _ _ _).trans (if_pos rfl)
      · rintro owner ⟨⟩
        exact FleetOwner.isSame_refl _

/-! ### Preparations -/

/-- The call is none that others share. -/
def IsPlain (service : Service) (id : Nat) : Prop :=
  ∀ point, service.pointOf id = some point → point.cloneOwner? = none ∧ ∀ result, point ≠ .settled result

/-- What the call has reserved is this VM. -/
def HasReserved (service : Service) (id : Nat) (preparation : Preparation) : Prop :=
  ∀ held ∈ service.reservations, held.call = id →
    held.machineId = preparation.machineId ∧ held.owner = preparation.owner

def HasNothing (service : Service) (id : Nat) : Prop := ∀ held ∈ service.reservations, held.call ≠ id

theorem HasNothing.hasReserved (h : HasNothing service id) (preparation : Preparation) :
    HasReserved service id preparation := fun held hmem heq => absurd heq (h held hmem)

/-- A call that others do not share comes to wait elsewhere. -/
theorem Books.movePlain (h : Books service) (hplain : IsPlain service id) (started : Nat)
    (hpoint : point.cloneOwner? = none) (hwaits : ∀ preparation clone, point ≠ .waiting preparation clone)
    (hholds : ∀ held ∈ service.reservations, held.call = id → point.target? = some (held.machineId, held.owner)) :
    Books (service.setPoint id started point) :=
  h.move started (fun result hdone => (hplain _ hdone).2 result rfl)
    (fun old hold => hpoint.trans (hplain old hold).1.symm) (fun held hmem heq => .inl (hholds held hmem heq))
    fun preparation clone heq => absurd heq (hwaits preparation clone)

variable {preparation : Preparation}

section

variable (h : Books service) (hplain : IsPlain service id) (started : Nat)
include h hplain started

/-- It waits where its preparation has its VM. -/
theorem Books.moveTarget (htgt : point.target? = some (preparation.machineId, preparation.owner))
    (hres : HasReserved service id preparation) : Books (service.setPoint id started point) := by
  have hpoint : point.cloneOwner? = none := by
    cases howner : point.cloneOwner? with
    | none => rfl
    | some owner =>
      have hnot : ¬ CanHold service point ⟨id, preparation.machineId, preparation.owner⟩ := not_canHold_of_cloneOwner howner _
      exact absurd (.inl htgt) hnot
  refine h.movePlain hplain started hpoint ?_ fun held hmem heq => ?_
  · rintro other clone rfl
    simp [CallPoint.target?] at htgt
  · obtain ⟨hmach, howner⟩ := hres held hmem heq
    rw [htgt, hmach, howner]

theorem Books.moveNothing (hnil : HasNothing service id) (hpoint : point.cloneOwner? = none)
    (hwaits : ∀ preparation clone, point ≠ .waiting preparation clone) : Books (service.setPoint id started point) :=
  h.movePlain hplain started hpoint hwaits fun held hmem heq => absurd heq (hnil held hmem)

theorem Books.beginTarget
    {replacementBaseId : Option JsString} (hres : HasReserved service id preparation) :
    Books (service.beginExclusive id started (.recovery preparation replacementBaseId)) :=
  (h.moveTarget hplain started rfl hres).of_same rfl rfl rfl (List.Subset.refl _) rfl

end

theorem letGo_holding_subset (id : Nat) (machineId : JsString) :
    (service.letGo id machineId).holding ⊆ service.holding := List.filter_subset_self _

section

variable (h : Books service) (hplain : IsPlain service id) (started : Nat)
include h hplain started

theorem Books.letGo {replacementBaseId : Option JsString} (hnil : HasNothing service id) :
    Books ((service.letGo id preparation.machineId).setPoint id started
      (.released preparation replacementBaseId)) := by
  have hbooks : Books (service.letGo id preparation.machineId) :=
    h.of_same rfl rfl rfl (letGo_holding_subset id preparation.machineId) rfl
  refine hbooks.moveNothing hplain started hnil rfl ?_
  intro other clone heq
  cases heq

theorem Books.giveUp
    (replacementBaseId : Option JsString) (hres : HasReserved service id preparation) :
    Books (service.giveUp id started preparation replacementBaseId) := by
  unfold Service.giveUp
  split
  · split
    · exact h.moveTarget hplain started rfl hres
    · exact h.beginTarget hplain started hres
  · next hfree =>
    -- the VM is not reserved by the session, so the call has reserved none
    refine h.letGo hplain started fun held hmem heq => hfree ?_
    obtain ⟨hmach, howner⟩ := hres held hmem heq
    rw [← hmach, ← howner]
    exact h.made held hmem

theorem Books.recover
    (hres : HasReserved service id preparation) : Books (service.recover id started preparation) := by
  unfold Service.recover
  split
  · exact h.giveUp hplain started none hres
  · exact h.moveTarget hplain started rfl hres

theorem Books.startTarget
    (hres : HasReserved service id preparation) : Books (service.startTarget id started preparation) := by
  unfold Service.startTarget
  dsimp only
  split
  · exact h.moveTarget hplain started rfl hres
  · exact h.recover hplain started hres

theorem Books.startMachine (view : FleetConfiguration) (awaited : Awaited)
    (hres : HasReserved service id preparation) :
    Books (service.startMachine id started preparation view awaited) := by
  unfold Service.startMachine
  dsimp only
  split
  · exact h.moveTarget hplain started rfl hres
  · exact h.recover hplain started hres

end

theorem Books.join (h : Books service) (hnum : service.Numbered) (hid : (service.pointOf id).isSome)
    (hplain : IsPlain service id) (hnil : HasNothing service id) (started shared : Nat)
    {request : SessionClone} (howner : preparation.owner = request.owner) :
    Books ((service.cloneForSession shared request).2.setPoint id started
      (.waiting preparation (service.cloneForSession shared request).1)) := by
  obtain ⟨hbooks, hclone⟩ := h.cloneForSession hnum shared request
  have hspawns := cloneForSession_spawns hnum shared request
  obtain ⟨p, hp⟩ := Option.isSome_iff_exists.mp hid
  have hthere : (service.cloneForSession shared request).2.pointOf id = some p := hspawns.others id p hp
  refine hbooks.move started (fun result hdone => ?_) (fun old hold => ?_) (fun held hmem heq => ?_) ?_
  · cases hthere.symm.trans hdone
    exact (hplain _ hp).2 result rfl
  · cases hthere.symm.trans hold
    exact (hplain p hp).1.symm
  · refine absurd heq (hnil held ?_)
    rw [← cloneForSession_reservations service shared request]
    exact hmem
  · rintro other clone ⟨⟩
    rw [howner]
    exact hclone

end Books

end Beale.FleetService
