import Beale.Fleet.LostUpdates
import Beale.Fleet.Reservations

/-!
# The owned VMs of Fleet in every run

- `Books.beginCall`, `advanceCall`: a request, and the stretches outside the queue, keep the reservations.
- `Books.turnEffect`: so do the stretches in it. A release takes from nobody but its session.
- `Guarded.step`: what holds between the steps. Each VM has at most one owner, as the owners are a table by VM.
- `ownership_secure`: every step of a run that meets the condition.
-/

namespace Beale.FleetService

open Beale.Library Beale.Library.Client

section Books

variable {service service' : Service} {id : Nat} {point : CallPoint}

/-! ## Calls that have nothing -/

/-- A call holds what it has reserved only where it can. -/
theorem Books.hasNothing (h : Books service) (hpoint : service.pointOf id = some point) (htgt : point.target? = none)
    (hwaits : ∀ preparation clone, point ≠ .waiting preparation clone) : HasNothing service id := by
  intro held hmem heq
  obtain ⟨p, hp, hhold⟩ := h.pointed held hmem
  rw [heq, hpoint] at hp
  cases hp
  rcases hhold with hthere | ⟨preparation, clone, hwait, -⟩
  · cases htgt.symm.trans hthere
  · exact hwaits preparation clone hwait

variable {preparation : Preparation}

theorem Books.hasReserved (h : Books service) (hpoint : service.pointOf id = some point)
    (htgt : point.target? = some (preparation.machineId, preparation.owner))
    (hwaits : ∀ waits clone, point ≠ .waiting waits clone) : HasReserved service id preparation := by
  intro held hmem heq
  obtain ⟨p, hp, hhold⟩ := h.pointed held hmem
  rw [heq, hpoint] at hp
  cases hp
  rcases hhold with hthere | ⟨waits, clone, hwait, -⟩
  · rw [htgt, Option.some.injEq, Prod.mk.injEq] at hthere
    exact ⟨hthere.1.symm, hthere.2.symm⟩
  · exact absurd hwait (hwaits waits clone)

theorem Books.hasNothing_of_free (h : Books service) (hfree : service.pointOf id = none) : HasNothing service id := by
  intro held hmem heq
  obtain ⟨p, hp, -⟩ := h.pointed held hmem
  rw [heq, hfree] at hp
  cases hp

theorem isPlain_of_free (hfree : service.pointOf id = none) : IsPlain service id := by
  intro p hp
  rw [hfree] at hp
  cases hp

theorem isPlain_of_point (hpoint : service.pointOf id = some point) (howner : point.cloneOwner? = none)
    (hdone : ∀ result, point ≠ .settled result) : IsPlain service id := by
  intro p hp
  cases hpoint.symm.trans hp
  exact ⟨howner, hdone⟩

variable {turn : ExclusiveCall}

theorem Books.beginNothing (h : Books service) (hplain : IsPlain service id) (started : Nat)
    (hnil : HasNothing service id) (hturn : (CallPoint.exclusive turn .queued).cloneOwner? = none) :
    Books (service.beginExclusive id started turn) := by
  have hmoved : Books (service.setPoint id started (.exclusive turn .queued)) :=
    h.moveNothing hplain started hnil hturn (by intro preparation clone heq; cases heq)
  exact hmoved.of_same rfl rfl rfl (List.Subset.refl _) rfl

/-! ## Clones -/

section

variable (h : Books service) (started : Nat)
include h started

section

variable {old : CallPoint} (hpoint : service.pointOf id = some old)
  (hdone : ∀ result, old ≠ .settled result) (hnil : HasNothing service id)
include hpoint hdone hnil

theorem Books.moveClone
    (howner : point.cloneOwner? = old.cloneOwner?) (hwaits : ∀ preparation clone, point ≠ .waiting preparation clone) :
    Books (service.setPoint id started point) := by
  refine h.move started (fun result hthere => ?_) (fun other hthere => ?_)
    (fun held hmem heq => absurd heq (hnil held hmem)) fun preparation clone heq => absurd heq (hwaits preparation clone)
  · cases hpoint.symm.trans hthere
    exact hdone result rfl
  · cases hpoint.symm.trans hthere
    exact howner

/-- A clone that has the settings of its VM waits in the queue. -/
theorem Books.beginSession (machineId : JsString)
    {owner : FleetOwner} (howner : old.cloneOwner? = some owner) :
    Books (service.beginExclusive id started (.session machineId owner)) := by
  have hmoved : Books (service.setPoint id started (.exclusive (.session machineId owner) .queued)) :=
    h.moveClone started hpoint hdone hnil howner.symm (by intro preparation clone heq; cases heq)
  exact hmoved.of_same rfl rfl rfl (List.Subset.refl _) rfl

end

theorem Books.writeSettings (machineId : JsString) (settings : FleetMachineConfig) :
    Books (service.writeSettings started machineId settings) :=
  h.of_same rfl rfl rfl (List.Subset.refl _) rfl

variable {session : Option SessionClone}

theorem Books.failClone
    (hpoint : service.pointOf id = some point) (howner : point.cloneOwner? = session.map (·.owner))
    (hdone : ∀ result, point ≠ .settled result) (hnil : HasNothing service id) :
    Books (service.failClone id started session) := by
  unfold Service.failClone
  cases session with
  | none => exact h.moveNothing (isPlain_of_point hpoint howner hdone) started hnil rfl nofun
  | some request => exact h.settle started hpoint howner nofun

theorem Books.startClone (baseId name : JsString)
    (hpoint : service.pointOf id = some point) (howner : point.cloneOwner? = session.map (·.owner))
    (hdone : ∀ result, point ≠ .settled result) (hnil : HasNothing service id) :
    Books (service.startClone id started baseId name session) := by
  unfold Service.startClone
  split
  · exact h.failClone started hpoint howner hdone hnil
  · split
    · exact h.moveClone started hpoint hdone hnil howner.symm nofun
    · exact h.failClone started hpoint howner hdone hnil

end

variable {request : SessionClone}

/-- A clone that is used again, and owned, is one of the session. -/
theorem reserved_of_reusable {stem : JsString} {machine : FleetMachine}
    (hreusable : service.reusable request stem machine = true)
    (howned : (service.config.owners.get? machine.id).isSome) :
    service.config.isReservedBy machine.id request.owner = true := by
  obtain ⟨claim, hclaim⟩ := Option.isSome_iff_exists.mp howned
  simp only [Service.reusable, hclaim, Option.all_some, Bool.and_eq_true] at hreusable
  exact isReservedBy_iff.mpr ⟨claim, hclaim, hreusable.2⟩

variable {listed : FleetConfiguration}

theorem Books.listSessionClones (h : Books service) (digest : JsString → JsString) (started : Nat)
    (hpoint : service.pointOf id = some (.sessionListing request listed)) (view : FleetConfiguration)
    (awaited : Awaited) : Books (service.listSessionClones digest id started request view awaited) := by
  have hfail : Books (service.settle id started none) := h.settle started hpoint rfl (by rintro _ ⟨⟩)
  have hnil : HasNothing service id := h.hasNothing hpoint rfl (by rintro _ _ ⟨⟩)
  unfold Service.listSessionClones
  split
  · exact hfail
  · split
    · exact hfail
    · dsimp only
      split
      · next existing hfind =>
        split
        · exact hfail
        · next settings hsettings =>
          have hwr := h.writeSettings started existing.id settings
          split
          · next howned =>
            refine hwr.settle started hpoint rfl ?_
            rintro machineId ⟨⟩
            exact reserved_of_reusable (List.find?_some hfind) howned
          · exact hwr.beginSession started hpoint (by rintro _ ⟨⟩) hnil existing.id rfl
      · split
        · exact hfail
        · exact h.startClone started _ _ hpoint rfl (by rintro _ ⟨⟩) hnil

/-! ## Preparations -/

theorem Books.select (h : Books service) (hnum : service.Numbered) (started : Nat) {cloned : Bool}
    {machineId workspaceId ownerMachineId sessionId : JsString}
    (hpoint : service.pointOf id = some (.selecting cloned machineId workspaceId ownerMachineId sessionId listed))
    (view : FleetConfiguration) (awaited : Awaited) :
    Books (service.select id started cloned machineId workspaceId ownerMachineId sessionId view awaited) := by
  have hplain : IsPlain service id := isPlain_of_point hpoint rfl nofun
  have hnil : HasNothing service id := h.hasNothing hpoint rfl nofun
  have hended : Books (service.setPoint id started (.ended false)) := h.moveNothing hplain started hnil rfl nofun
  unfold Service.select
  split
  · exact hended
  · dsimp only
    split
    · split
      · exact h.join hnum (by rw [hpoint]; rfl) hplain hnil started started rfl
      · exact hended
    · split
      · exact h.beginNothing hplain started hnil rfl
      · exact hended

/-- A preparation that has let go waits for another clone. -/
theorem Books.replace (h : Books service) (hnum : service.Numbered) (started : Nat)
    {replacementBaseId : Option JsString} (hpoint : service.pointOf id = some (.released preparation replacementBaseId)) :
    Books (service.replace id started preparation replacementBaseId) := by
  have hplain : IsPlain service id := isPlain_of_point hpoint rfl nofun
  have hnil : HasNothing service id := h.hasNothing hpoint rfl nofun
  have hthere : (service.pointOf id).isSome := by rw [hpoint]; rfl
  unfold Service.replace
  split
  · exact h.moveNothing hplain started hnil rfl nofun
  · dsimp only
    split
    · exact h.join hnum hthere hplain hnil started started rfl
    · next machineId settings _ =>
      have hwr := h.writeSettings started machineId settings
      exact hwr.join hnum hthere hplain hnil started started rfl

section

variable {preparation : Preparation} {clone : Nat} (h : Books service)
  (hpoint : service.pointOf id = some (.waiting preparation clone))
include h hpoint

theorem Books.waited {machineId : JsString}
    (hclone : service.pointOf clone = some (.settled (some machineId))) :
    HasReserved service id { preparation with machineId, cloned := true } := by
  intro held hmem heq
  obtain ⟨p, hp, hhold⟩ := h.pointed held hmem
  rw [heq, hpoint] at hp
  cases hp
  rcases hhold with hthere | ⟨waits, other, hwait, howner, hdone⟩
  · cases hthere
  · cases hwait
    rw [hclone, Option.some.injEq, CallPoint.settled.injEq, Option.some.injEq] at hdone
    exact ⟨hdone.symm, howner.symm⟩

theorem Books.waitedInVain
    (hclone : service.pointOf clone = some (.settled none)) : HasNothing service id := by
  intro held hmem heq
  obtain ⟨p, hp, hhold⟩ := h.pointed held hmem
  rw [heq, hpoint] at hp
  cases hp
  rcases hhold with hthere | ⟨waits, other, hwait, -, hdone⟩
  · cases hthere
  · cases hwait
    cases hclone.symm.trans hdone

end

/-! ## Stretches outside the queue -/

theorem Books.beginCall (h : Books service) (hnum : service.Numbered) (request : FleetRequest) :
    Books (service.start request) := by
  let numbered : Service := { service with next := service.next + 1 }
  have hbooks : Books numbered := h.of_same rfl rfl rfl (List.Subset.refl _) rfl
  have hgiven : numbered.Numbered := fun other p hother => Nat.lt_succ_of_lt (hnum other p hother)
  have hfree : numbered.pointOf service.next = none := by
    cases hpoint : service.pointOf service.next with
    | none => exact hpoint
    | some point => exact absurd (hnum _ point hpoint) (Nat.lt_irrefl _)
  have hplain : IsPlain numbered service.next := isPlain_of_free hfree
  have hnil : HasNothing numbered service.next := hbooks.hasNothing_of_free hfree
  cases request with
  | configure | reserve | release => exact hbooks.beginNothing hplain _ hnil rfl
  | clone baseId name =>
    have hended : Books (numbered.setPoint service.next service.next (.ended false)) :=
      hbooks.moveNothing hplain _ hnil rfl (by rintro _ _ ⟨⟩)
    simp only [Service.start, Service.startClone]
    split
    · exact hended
    · split
      · exact hbooks.moveNothing hplain _ hnil rfl (by rintro _ _ ⟨⟩)
      · exact hended
  | cloneForSession request => exact (hbooks.cloneForSession hgiven _ request).1
  | prepareSessionTarget target workspaceId sessionId enforceAllowlist =>
    unfold Service.start
    dsimp only
    split
    · exact hbooks.moveNothing hplain _ hnil rfl (by rintro _ _ ⟨⟩)
    · split
      · exact hbooks.moveNothing hplain _ hnil rfl (by rintro _ _ ⟨⟩)
      · exact hbooks.moveNothing hplain _ hnil rfl (by rintro _ _ ⟨⟩)
  | releaseSessionTarget machineId sessionId =>
    unfold Service.start
    dsimp only
    split
    · split
      · exact hbooks.moveNothing hplain _ hnil rfl (by rintro _ _ ⟨⟩)
      · exact hbooks.beginNothing hplain _ hnil rfl
    · exact hbooks.moveNothing hplain _ hnil rfl (by rintro _ _ ⟨⟩)

variable {call : Call}

theorem Books.advanceCall (h : Books service) (hnum : service.Numbered) (digest : JsString → JsString)
    (hpoint : service.pointOf id = some call.point) (awaited : Awaited)
    (hqueue : ∀ turn phase, call.point ≠ .exclusive turn phase) : Books (service.advance digest id call awaited) := by
  unfold Service.advance
  dsimp only
  split
  · next turn heq => exact absurd heq (hqueue turn _)
  · next turn view heq => exact absurd heq (hqueue turn _)
  · next turn heq => exact absurd heq (hqueue turn _)
  · next heq =>
    rw [heq] at hpoint
    split
    · exact h.moveClone _ hpoint nofun (h.hasNothing hpoint rfl nofun) rfl nofun
    · exact h.failClone _ hpoint rfl nofun (h.hasNothing hpoint rfl nofun)
  · next heq =>
    rw [heq] at hpoint
    split
    · exact h.moveClone _ hpoint nofun (h.hasNothing hpoint rfl nofun) rfl nofun
    · exact h.failClone _ hpoint rfl nofun (h.hasNothing hpoint rfl nofun)
  · next heq =>
    rw [heq] at hpoint
    split
    · exact h.failClone _ hpoint rfl nofun (h.hasNothing hpoint rfl nofun)
    · next machineId settings _ =>
      have hwr := h.writeSettings call.started machineId settings
      exact hwr.moveClone _ hpoint nofun (h.hasNothing hpoint rfl nofun) rfl nofun
  · next heq =>
    rw [heq] at hpoint
    have hnil : HasNothing service id := h.hasNothing hpoint rfl nofun
    split
    · exact h.moveNothing (isPlain_of_point hpoint rfl nofun) _ hnil rfl nofun
    · split
      · exact h.settle _ hpoint rfl nofun
      · next machineId settings _ =>
        have hwr := h.writeSettings call.started machineId settings
        exact hwr.beginSession _ hpoint nofun hnil machineId rfl
  · next heq =>
    rw [heq] at hpoint
    exact h.listSessionClones digest _ hpoint _ awaited
  · next heq =>
    rw [heq] at hpoint
    exact h.select hnum _ hpoint _ awaited
  · next preparation clone heq =>
    rw [heq] at hpoint
    have hplain : IsPlain service id := isPlain_of_point hpoint rfl nofun
    split
    · next hclone => exact h.startTarget hplain _ (h.waited hpoint hclone)
    · next hclone => exact h.moveNothing hplain _ (h.waitedInVain hpoint hclone) rfl nofun
    · exact h
  · next heq =>
    rw [heq] at hpoint
    exact h.startMachine (isPlain_of_point hpoint rfl nofun) _ _ awaited (h.hasReserved hpoint rfl nofun)
  · next heq =>
    rw [heq] at hpoint
    have hplain : IsPlain service id := isPlain_of_point hpoint rfl nofun
    split
    · exact h.moveTarget hplain _ rfl (h.hasReserved hpoint rfl nofun)
    · exact h.recover hplain _ (h.hasReserved hpoint rfl nofun)
  · next heq =>
    rw [heq] at hpoint
    exact h.giveUp (isPlain_of_point hpoint rfl nofun) _ _ (h.hasReserved hpoint rfl nofun)
  · next heq =>
    rw [heq] at hpoint
    exact h.beginTarget (isPlain_of_point hpoint rfl nofun) _ (h.hasReserved hpoint rfl nofun)
  · next heq =>
    rw [heq] at hpoint
    exact h.replace hnum _ hpoint
  · next heq =>
    rw [heq] at hpoint
    exact h.beginNothing (isPlain_of_point hpoint rfl nofun) _ (h.hasNothing hpoint rfl nofun) rfl
  all_goals exact h

/-! ## Stretches in the queue -/

theorem Books.of_less (h : Books service) (hcalls : service'.pointOf = service.pointOf)
    (hclones : service'.sessionClones = service.sessionClones) (hless : service'.reservations ⊆ service.reservations)
    (hmade : ∀ held ∈ service'.reservations, service'.config.isReservedBy held.machineId held.owner = true)
    (hheld : ∀ held ∈ service'.holding, service'.config.isReservedBy held.machineId held.owner = true) :
    Books service' := by
  refine ⟨hmade, hheld, fun held hmem => ?_, ?_, ?_⟩
  · obtain ⟨p, hp, hhold⟩ := h.pointed held (hless hmem)
    rw [hcalls]
    exact ⟨p, hp, by simpa only [CanHold, hcalls] using hhold⟩
  · rw [hcalls]
    exact h.shared
  · rw [hcalls, hclones]
    exact h.keyed

theorem Books.reserve (h : Books service) {held : Held} (hpoint : service.pointOf held.call = some point)
    (htgt : point.target? = some (held.machineId, held.owner))
    (hres : service.config.isReservedBy held.machineId held.owner = true) :
    Books { service with reservations := held :: service.reservations } := by
  refine ⟨fun other hmem => ?_, h.held, fun other hmem => ?_, h.shared, h.keyed⟩
  · rcases List.mem_cons.mp hmem with rfl | hmem
    · exact hres
    · exact h.made other hmem
  · rcases List.mem_cons.mp hmem with rfl | hmem
    · exact ⟨point, hpoint, .inl htgt⟩
    · exact h.pointed other hmem

variable {phase : ExclusivePhase}

/-- A call in the queue goes on in it. -/
theorem Books.moveTurn (h : Books service) (started : Nat) {phase' : ExclusivePhase}
    (hpoint : service.pointOf id = some (.exclusive turn phase)) (hnil : HasNothing service id) :
    Books (service.setPoint id started (.exclusive turn phase')) := by
  have howner : (CallPoint.exclusive turn phase').cloneOwner? = (CallPoint.exclusive turn phase).cloneOwner? := by
    cases turn <;> rfl
  exact h.moveClone started hpoint nofun hnil howner nofun

variable {config' view : FleetConfiguration} {awaited : Awaited}

/-- What is reserved stays so, unless it is released. -/
theorem reserved_of_workResult
    (hlocks : Locks service) (hcall : service.pointOf id = some call.point)
    (horigin : WorksOn service call turn view)
    (hresult : workResult turn.work view service.config awaited = .ok config') {machineId : JsString}
    {owner : FleetOwner} (hres : service.config.isReservedBy machineId owner = true)
    (hkept : ∀ owner, turn.work ≠ .release machineId owner) : config'.isReservedBy machineId owner = true := by
  obtain ⟨-, -, hclaims⟩ := workResult_sound hlocks hcall horigin hresult
  obtain ⟨claim, hget, hclaim⟩ := isReservedBy_iff.mp hres
  rcases hclaims machineId claim hget with ⟨claim', hget', hsame⟩ | ⟨-, other, -, hwork, -⟩
  · exact isReservedBy_iff.mpr ⟨claim', hget', FleetOwner.isSame_trans hsame hclaim⟩
  · exact absurd hwork (hkept other)

theorem Books.commit
    (h : Books service) (hlocks : Locks service) (hcall : service.pointOf id = some call.point)
    (horigin : WorksOn service call turn view)
    (hresult : workResult turn.work view service.config awaited = .ok config')
    (hkept : ∀ preparation baseId, call.point = .exclusive (.recovery preparation baseId) .queued →
      ∀ held ∈ service.holding, held.machineId ≠ preparation.machineId ∨ held.call = id) :
    Books (service.commit id call.started turn config') := by
  obtain ⟨phase, hphase⟩ : ∃ phase, call.point = .exclusive turn phase := by
    rcases horigin with ⟨hpoint, -⟩ | ⟨hpoint, -⟩
    · exact ⟨_, hpoint⟩
    · exact ⟨_, hpoint⟩
  have hpoint : service.pointOf id = some (.exclusive turn phase) := by rw [hcall, hphase]
  have hres := @reserved_of_workResult _ _ _ _ _ _ _ hlocks hcall horigin hresult
  -- only a preparation that lets go comes here with a reservation
  have hnil : (∀ preparation baseId, turn ≠ .recovery preparation baseId) → HasNothing service id := by
    intro hother
    refine h.hasNothing hcall ?_ (by rw [hphase]; exact nofun)
    rcases horigin with ⟨hqueue, -⟩ | ⟨hawaiting, -⟩
    · rw [hqueue]
      cases turn with
      | recovery preparation baseId => exact absurd rfl (hother preparation baseId)
      | _ => rfl
    · rw [hawaiting]
      cases turn <;> rfl
  have hwr : (∀ machineId owner, turn.work ≠ .release machineId owner) →
      Books (service.write call.started turn.work.entry config') := fun hnone =>
    h.of_less rfl rfl (List.Subset.refl _) (fun held hmem => hres (h.made held hmem) (hnone _))
      fun held hmem => hres (h.held held hmem) (hnone _)
  cases turn with
  | top work =>
    have hfree : HasNothing service id := hnil nofun
    cases work with
    | configure action => exact (hwr nofun).moveTurn _ hpoint hfree
    | reserve machineId owner => exact (hwr nofun).moveTurn _ hpoint hfree
    | release machineId owner =>
      have hother : ∀ {held : Held}, held.machineId ≠ machineId →
          ∀ owner', ExclusiveCall.work (.top (.release machineId owner)) ≠ .release held.machineId owner' :=
        fun hne owner' heq => hne (ExclusiveWork.release.inj heq).1.symm
      have hrel : Books ((service.write call.started (.owner machineId) config').noteOwner id
          (.top (.release machineId owner))) := by
        refine h.of_less rfl rfl (List.filter_subset_self _) (fun held hmem => ?_) fun held hmem => ?_
        · obtain ⟨hmem, hne⟩ := List.mem_filter.mp hmem
          exact hres (h.made held hmem) (hother (by simpa using hne))
        · obtain ⟨hmem, hne⟩ := List.mem_filter.mp hmem
          exact hres (h.held held hmem) (hother (by simpa using hne))
      exact hrel.moveTurn _ hpoint fun held hmem => hfree held (List.filter_subset_self _ hmem)
  | session machineId owner => exact (hwr nofun).moveTurn _ hpoint (hnil nofun)
  | target preparation =>
    have hmoved : Books ((service.write call.started (.owner preparation.machineId) config').setPoint id call.started
        (.exclusive (.target preparation) .returning)) := (hwr nofun).moveTurn _ hpoint (hnil nofun)
    have htaken : config'.isReservedBy preparation.machineId preparation.owner = true := by
      obtain ⟨-, -, -, -, rfl⟩ := reserveMachine_ok hresult
      exact isReservedBy_iff.mpr ⟨_, JsMap.get?_set_self _ _ _, FleetOwner.isSame_refl _⟩
    have hat : ((service.write call.started (.owner preparation.machineId) config').setPoint id call.started
        (.exclusive (.target preparation) .returning)).pointOf
          (⟨id, preparation.machineId, preparation.owner⟩ : Held).call =
        some (.exclusive (.target preparation) .returning) := by
      rw [Service.pointOf_setPoint, if_pos rfl]
    exact hmoved.reserve hat rfl htaken
  | recovery preparation baseId =>
    have hqueue : call.point = .exclusive (.recovery preparation baseId) .queued := by
      rcases horigin with ⟨hqueue, -⟩ | ⟨-, hnone⟩
      · exact hqueue
      · exact absurd rfl (hnone _ _)
    have hother : ∀ {held : Held}, held.machineId ≠ preparation.machineId → ∀ owner',
        ExclusiveCall.work (.recovery preparation baseId) ≠ .release held.machineId owner' :=
      fun hne owner' heq => hne (ExclusiveWork.release.inj heq).1.symm
    have hrel : Books ((service.write call.started (.owner preparation.machineId) config').noteOwner id
        (.recovery preparation baseId)) := by
      refine h.of_less rfl rfl (List.filter_subset_self _) (fun held hmem => ?_) fun held hmem => ?_
      · obtain ⟨hmem, hne⟩ := List.mem_filter.mp hmem
        exact hres (h.made held hmem) (hother (by simpa using hne))
      · -- no other preparation has the VM, and this one lets go of it
        obtain ⟨hmem, hne⟩ := List.mem_filter.mp hmem
        have hmach : held.machineId ≠ preparation.machineId := by
          rcases hkept preparation baseId hqueue held hmem with hmach | hown
          · exact hmach
          · simpa [hown] using hne
        exact hres (h.held held hmem) (hother hmach)
    refine hrel.moveTurn _ hpoint fun held hmem heq => ?_
    obtain ⟨hmem, hne⟩ := List.mem_filter.mp hmem
    have hown : HasReserved service id preparation := h.hasReserved hcall (by rw [hqueue]; rfl) (by rw [hqueue]; exact nofun)
    exact absurd (hown held hmem heq).1 (by simpa using hne)

theorem releaseMachine_of_reserved (hsound : OwnersSound service.config)
    (hres : service.config.isReservedBy preparation.machineId preparation.owner = true) (message : JsString) :
    releaseMachine service.config preparation.machineId preparation.owner ≠ .error message := by
  obtain ⟨claim, hget, hclaim⟩ := isReservedBy_iff.mp hres
  obtain ⟨hmach, hsess, -⟩ := validOwner_ok.mp (hsound.valid _ claim hget)
  obtain ⟨hsameMachine, hsameSession⟩ := FleetOwner.isSame_iff.mp hclaim
  have hvalid : validOwner preparation.owner = .ok () :=
    validOwner_ok.mpr ⟨hsameMachine ▸ hmach, hsameSession ▸ hsess, rfl⟩
  simp [releaseMachine, hvalid, hget, hclaim, Bind.bind, Except.bind, Pure.pure, Except.pure]

theorem Books.unlock {succeeded : Bool} (h : Books service)
    (hlocks : Locks service) (started : Nat) (hpoint : service.pointOf id = some (.exclusive turn phase))
    (hphase : succeeded = true ∧ phase = .returning ∨ succeeded = false ∧ phase ≠ .returning ∧
      ∀ machineId owner, turn.work = .release machineId owner →
        ∃ message, releaseMachine service.config machineId owner = .error message) :
    Books (service.unlock id started succeeded turn) := by
  have hpassed : Books { service with queue := service.queue.tail } := h.of_same rfl rfl rfl (List.Subset.refl _) rfl
  have hres : succeeded = true → ∀ machineId owner, turn.work = .reserve machineId owner →
      service.config.isReservedBy machineId owner = true := by
    rintro rfl machineId owner hwork
    obtain ⟨-, rfl⟩ := hphase.resolve_right (by rintro ⟨⟨⟩, -⟩)
    exact hlocks.returning id turn machineId owner hpoint hwork
  unfold Service.unlock
  cases turn with
  | top work =>
    exact hpassed.moveNothing (isPlain_of_point hpoint rfl (by rintro _ ⟨⟩)) started
      (h.hasNothing hpoint rfl (by rintro _ _ ⟨⟩)) rfl (by rintro _ _ ⟨⟩)
  | session machineId owner =>
    refine hpassed.settle started hpoint rfl fun other hother => ?_
    split at hother
    · next hsucc =>
      cases hother
      exact hres hsucc machineId owner rfl
    · cases hother
  | target preparation =>
    have hplain : IsPlain service id := isPlain_of_point hpoint rfl (by rintro _ ⟨⟩)
    simp only [Service.resume]
    split
    · next hsucc =>
      obtain ⟨-, rfl⟩ := hphase.resolve_right (by rw [hsucc]; rintro ⟨⟨⟩, -⟩)
      have htaken := hres hsucc preparation.machineId preparation.owner rfl
      have hhas : Books { service with
          queue := service.queue.tail
          holding := ⟨id, preparation.machineId, preparation.owner⟩ :: service.holding } := by
        refine ⟨h.made, fun held hmem => ?_, h.pointed, h.shared, h.keyed⟩
        rcases List.mem_cons.mp hmem with rfl | hmem
        · exact htaken
        · exact h.held held hmem
      exact hhas.startTarget hplain started (h.hasReserved hpoint rfl (by rintro _ _ ⟨⟩))
    · next hfail =>
      obtain ⟨-, hne, -⟩ := hphase.resolve_left fun hthere => hfail hthere.1
      have hnil : HasNothing service id := by
        refine h.hasNothing hpoint ?_ (by rintro _ _ ⟨⟩)
        cases phase with
        | returning => exact absurd rfl hne
        | _ => rfl
      exact hpassed.recover hplain started (hnil.hasReserved preparation)
  | recovery preparation baseId =>
    have hnil : HasNothing service id := by
      rcases hphase with ⟨-, rfl⟩ | ⟨-, -, hrelease⟩
      · exact h.hasNothing hpoint rfl (by rintro _ _ ⟨⟩)
      · -- the VM was reserved by the session, so the release has not failed
        obtain ⟨message, hmessage⟩ := hrelease _ _ rfl
        intro held hmem heq
        obtain ⟨p, hp, hhold⟩ := h.pointed held hmem
        rw [heq, hpoint, Option.some.injEq] at hp
        subst hp
        rcases hhold with htgt | ⟨waits, clone, hwait, -⟩
        · have hmade := h.made held hmem
          cases phase with
          | queued =>
            simp only [CallPoint.target?, Option.some.injEq, Prod.mk.injEq] at htgt
            rw [← htgt.1, ← htgt.2] at hmade
            exact releaseMachine_of_reserved hlocks.sound hmade message hmessage
          | _ => cases htgt
        · cases hwait
    exact hpassed.letGo (isPlain_of_point hpoint rfl (by rintro _ ⟨⟩)) started hnil

theorem Books.turnEffect (h : Books service) (hlocks : Locks service)
    (hcall : service.pointOf id = some call.point)
    (hkept : ∀ preparation baseId, call.point = .exclusive (.recovery preparation baseId) .queued →
      ∀ held ∈ service.holding, held.machineId ≠ preparation.machineId ∨ held.call = id)
    (heff : TurnEffect service id call awaited service') : Books service' := by
  cases heff with
  | same => exact h
  | @wait turn hpoint hhead hvalid hrelease =>
    have hqueue : service.pointOf id = some (.exclusive turn .queued) := by rw [hcall, hpoint]
    refine h.moveTurn call.started hqueue (h.hasNothing hqueue ?_ nofun)
    cases turn with
    | recovery preparation baseId => exact absurd rfl (hrelease _ _)
    | _ => rfl
  | commit hhead horigin hres => exact h.commit hlocks hcall horigin hres hkept
  | @unlock turn succeeded hhead hpoint =>
    rcases hpoint with ⟨hreturning, rfl⟩ | ⟨⟨phase, hphase, hne, hrelease⟩, rfl⟩
    · exact h.unlock hlocks call.started (by rw [hcall, hreturning]) (.inl ⟨rfl, rfl⟩)
    · exact h.unlock hlocks call.started (by rw [hcall, hphase])
        (.inr ⟨rfl, hne, fun machineId owner hwork => (hrelease machineId owner hwork).2⟩)

end Books

/-! ## Every step -/

/-- What holds between the steps. -/
structure Guarded (service : Service) : Prop where
  locks : Locks service
  books : Books service

section Guarded

variable {digest : JsString → JsString} {service service' : Service} {id : Nat} {call : Call} {awaited : Awaited}

section

variable (hget : service.calls.get? id = some call)
  (hkept : OwnershipKept digest service (.advance id awaited))
include hget hkept

/-- Settings that are written are of a VM that nobody owns, or stay as they are. -/
theorem settings_of_kept {machineId : JsString} {settings : FleetMachineConfig}
    (hwrite : service.pointWrite digest awaited call.point = some (machineId, settings)) :
    service.config.owners.get? machineId = none ∨ service.config.machines.get? machineId = some settings := by
  have hsettings : service.settingsWrite digest (.advance id awaited) = some (machineId, settings) := by
    simp only [Service.settingsWrite, hget, Option.bind_some, hwrite]
  simp only [OwnershipKept, hsettings, Option.all_some, Bool.and_eq_true] at hkept
  simpa using hkept.1

theorem holding_of_kept (preparation : Preparation) (baseId : Option JsString)
    (hpoint : call.point = .exclusive (.recovery preparation baseId) .queued) (held : Held)
    (hmem : held ∈ service.holding) : held.machineId ≠ preparation.machineId ∨ held.call = id := by
  simp only [OwnershipKept, hget, Option.all_some, hpoint, Bool.and_eq_true, List.all_eq_true] at hkept
  simpa using hkept.2 held hmem

end

theorem Locks.effect (h : Locks service) (hget : service.calls.get? id = some call)
    (hkept : OwnershipKept digest service (.advance id awaited))
    (heff : Effect digest service id call awaited service') : Locks service' := by
  have hcall : service.pointOf id = some call.point := by rw [Service.pointOf, hget]; rfl
  have hgiven : service.Given id := ⟨h.turns.numbered id _ hcall, h.turns.numbered⟩
  cases heff with
  | same => exact h
  | quiet hquiet => exact h.quiet hquiet
  | settings hwrite hquiet => exact (h.writeSettings _ (settings_of_kept hget hkept hwrite)).quiet hquiet
  | turn hturn =>
    cases hturn with
    | same => exact h
    | wait hpoint hhead hvalid hrelease => exact h.wait hgiven hhead hvalid
    | commit hhead horigin hres => exact h.commit hgiven hcall hhead horigin hres
    | unlock hhead hpoint => exact h.unlock hgiven hhead

theorem Books.advance (h : Books service) (hlocks : Locks service) (hget : service.calls.get? id = some call)
    (hkept : OwnershipKept digest service (.advance id awaited)) :
    Books (service.advance digest id call awaited) := by
  have hcall : service.pointOf id = some call.point := by rw [Service.pointOf, hget]; rfl
  have hturn : ∀ {service' : Service}, TurnEffect service id call awaited service' → Books service' :=
    h.turnEffect hlocks hcall (holding_of_kept hget hkept)
  by_cases hqueue : ∀ turn phase, call.point ≠ .exclusive turn phase
  · exact h.advanceCall hlocks.turns.numbered digest hcall awaited hqueue
  · simp only [not_forall, not_not] at hqueue
    obtain ⟨turn, phase, hpoint⟩ := hqueue
    unfold Service.advance
    rw [hpoint]
    cases phase with
    | queued =>
      dsimp only
      split
      · next hhead => exact hturn (beginWork_effect hhead hpoint)
      · exact h
    | awaiting view => exact hturn (continueWork_effect (hlocks.turns.turn id _ hcall (by rw [hpoint]; rfl)) hpoint)
    | returning => exact hturn (.unlock (hlocks.turns.turn id _ hcall (by rw [hpoint]; rfl)) (.inl ⟨hpoint, rfl⟩))

variable {event : FleetEvent}

theorem Guarded.step (h : Guarded service) (hkept : OwnershipKept digest service event) :
    Guarded (service.step digest event) := by
  cases event with
  | request request =>
    exact ⟨h.locks.quiet (quiet_start h.locks.turns.numbered request), h.books.beginCall h.locks.turns.numbered request⟩
  | advance id awaited =>
    simp only [Service.step]
    split
    · exact h
    · next call hget =>
      exact ⟨h.locks.effect hget hkept (advance_effect h.locks.turns hget), h.books.advance h.locks hget hkept⟩

/-- What a step may do to the owners and to the settings of their VMs. -/
structure OwnersKept (service service' : Service) (event : FleetEvent) : Prop where
  handedOver : ∀ machineId claim, service.config.owners.get? machineId = some claim →
    (∃ claim', service'.config.owners.get? machineId = some claim' ∧ claim'.isSame claim) ∨
      service'.config.owners.get? machineId = none ∧ IsReleaseBy service machineId claim event
  settings : ∀ machineId, (service.config.owners.get? machineId).isSome →
    service'.config.machines.get? machineId = service.config.machines.get? machineId

theorem OwnersKept.of_owners (howners : service'.config.owners = service.config.owners)
    (hmachines : ∀ machineId, (service.config.owners.get? machineId).isSome →
      service'.config.machines.get? machineId = service.config.machines.get? machineId) :
    OwnersKept service service' event :=
  ⟨fun machineId claim hget => .inl ⟨claim, by rw [howners]; exact hget, FleetOwner.isSame_refl _⟩, hmachines⟩

theorem OwnersKept.quiet (hconfig : service'.config = service.config) :
    OwnersKept service service' event :=
  .of_owners (by rw [hconfig]) fun machineId _ => by rw [hconfig]

theorem ownersKept_effect (h : Locks service) (hget : service.calls.get? id = some call)
    (hkept : OwnershipKept digest service (.advance id awaited))
    (heff : Effect digest service id call awaited service') : OwnersKept service service' (.advance id awaited) := by
  have hcall : service.pointOf id = some call.point := by rw [Service.pointOf, hget]; rfl
  cases heff with
  | same => exact .quiet rfl
  | quiet hquiet => exact .quiet hquiet.config
  | @settings machineId settings _ hwrite hquiet =>
    refine .of_owners (by rw [hquiet.config]; rfl) fun owned howned => ?_
    rw [hquiet.config]
    simp only [Service.writeSettings, Service.write, JsMap.get?_set]
    split
    · next heq =>
      subst heq
      rcases settings_of_kept hget hkept hwrite with hfree | hsame
      · simp [hfree] at howned
      · exact hsame.symm
    · rfl
  | turn hturn =>
    cases hturn with
    | same => exact .quiet rfl
    | wait hpoint hhead hvalid hrelease => exact .quiet rfl
    | @commit turn view config hhead horigin hres =>
      obtain ⟨-, hmachines, hclaims⟩ := workResult_sound h hcall horigin hres
      have hconfig : (service.commit id call.started turn config).config = config :=
        (noteOwner_same (service.write call.started turn.work.entry config) id turn).1
      refine ⟨fun machineId claim hclaim => ?_, by rw [hconfig]; exact hmachines⟩
      rw [hconfig]
      refine (hclaims machineId claim hclaim).imp_right ?_
      rintro ⟨hnone, owner, hpoint, hwork, hsame⟩
      exact ⟨hnone, turn, owner, by rw [hcall, hpoint], hwork, hsame⟩
    | @unlock turn succeeded hhead hpoint =>
      have hgiven : service.Given id := ⟨h.turns.numbered id _ hcall, h.turns.numbered⟩
      have hpassed : ({ service with queue := service.queue.tail } : Service).Given id := hgiven.of_same rfl rfl
      exact .quiet (quiet_resume hpassed call.started succeeded turn).config

theorem Guarded.secure (h : Guarded service) (hkept : OwnershipKept digest service event) :
    OwnershipSecure digest service event := by
  have hnext := h.step hkept
  have howners : OwnersKept service (service.step digest event) event := by
    cases event with
    | request request => exact .quiet (quiet_start h.locks.turns.numbered request).config
    | advance id awaited =>
      simp only [Service.step]
      split
      · exact .quiet rfl
      · next call hget => exact ownersKept_effect h.locks hget hkept (advance_effect h.locks.turns hget)
  refine ⟨hnext.locks.sound, howners.handedOver, howners.settings, hnext.books.held, fun held hmem hended => ?_⟩
  obtain ⟨point, hpoint, hhold⟩ := hnext.books.pointed held hmem
  cases hended.symm.trans hpoint
  rcases hhold with htgt | ⟨waits, clone, hwait, -⟩
  · cases htgt
  · cases hwait

end Guarded

/-- Before the first call nothing is reserved. -/
theorem Guarded.new {config : FleetConfiguration} (h : OwnersSound config) : Guarded (.new config) := by
  refine ⟨⟨.new config, h, ?_, ?_, ?_⟩, ⟨nofun, nofun, nofun, ?_, nofun⟩⟩
  · intro id turn view action hpoint
    cases (pointOf_new config id).symm.trans hpoint
  · intro id turn view machineId owner hpoint
    cases (pointOf_new config id).symm.trans hpoint
  · intro id turn machineId owner hpoint
    cases (pointOf_new config id).symm.trans hpoint
  · intro id preparation clone hpoint
    cases (pointOf_new config id).symm.trans hpoint

/-- In a run whose steps meet the condition, every VM stays with its owner until the owner releases it, with its
settings; a preparation that has failed has left no reservation, and one that has not has its VM. -/
theorem ownership_secure {digest : JsString → JsString} {config : FleetConfiguration} {events : List FleetEvent}
    (hsound : OwnersSound config)
    (hkept : RunMeets (Service.step digest) (fun s e => OwnershipKept digest s e) (.new config) events) :
    RunMeets (Service.step digest) (OwnershipSecure digest) (.new config) events :=
  .of_invariant (I := Guarded) (fun _ _ h hone => h.step hone) (fun _ _ h hone => h.secure hone) (.new hsound) hkept

/-! ## Two preparations of one session -/

theorem hostConfig_sound : OwnersSound hostConfig := by
  refine ⟨fun hsome => absurd rfl hsome, ?_, ?_⟩
  · intro machineId other claim claim' hget
    cases hget
  · intro machineId claim hget
    cases hget

theorem ownership_secure_preparedRun :
    RunMeets (Service.step sampleDigest) (OwnershipSecure sampleDigest) (.new hostConfig) preparedRun :=
  ownership_secure hostConfig_sound (by decide +kernel)

/-- A host with a VM that sessions may run. -/
def runnableConfig : FleetConfiguration :=
  { hostConfig with
    machines := .set .empty (js "tart:vm")
      ⟨false, true, false, .darwin, false, .standard, none, some (js "admin"), none, none⟩
    workspaceTargets := .set .empty (js "ws") [.run (js "tart:vm")] }

def fromVm (reached : Bool) : Awaited := ⟨[⟨js "tart:vm", js "vm", .running⟩], [], reached⟩

/-- A session has its VM prepared twice; the second time the VM cannot be reached. -/
def twicePrepared : List FleetEvent :=
  .request (.prepareSessionTarget (.run (js "tart:vm")) (js "ws") (js "session") true) ::
    List.replicate 6 (.advance 0 (fromVm true)) ++
  .request (.prepareSessionTarget (.run (js "tart:vm")) (js "ws") (js "session") true) ::
    List.replicate 5 (.advance 1 (fromVm true)) ++ [.advance 1 (fromVm false), .advance 1 (fromVm true)]

def afterFirst : Service := runSteps (Service.step sampleDigest) (.new runnableConfig) twicePrepared

/-- Whether a call of `prepareSessionTarget` has returned its VM. -/
def Service.hasPrepared (service : Service) (id : Nat) : Bool :=
  match service.pointOf id with
  | some (.prepared _) => true
  | _ => false

/-- The first call has succeeded and has the VM; the second one fails, and releases it. -/
theorem failure_releases_prepared_vm :
    OwnersSound runnableConfig ∧ afterFirst.hasPrepared 0 ∧
      ¬ RunMeets (Service.step sampleDigest) (OwnershipSecure sampleDigest) (.new runnableConfig)
        (twicePrepared ++ [.advance 1 (fromVm true)]) := by
  have hsound : OwnersSound runnableConfig := ⟨hostConfig_sound.primary, hostConfig_sound.staged, hostConfig_sound.valid⟩
  refine ⟨hsound, by decide +kernel, fun hmeets => ?_⟩
  have hsecure : OwnershipSecure sampleDigest afterFirst (.advance 1 (fromVm true)) := hmeets.last
  have hlost : (afterFirst.step sampleDigest (.advance 1 (fromVm true))).holding.all (fun held =>
      (afterFirst.step sampleDigest (.advance 1 (fromVm true))).config.isReservedBy held.machineId held.owner) = false := by
    decide +kernel
  have hthere := List.all_eq_true.mpr hsecure.held
  rw [hlost] at hthere
  cases hthere

end Beale.FleetService
