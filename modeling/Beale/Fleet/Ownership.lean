import Beale.Fleet.Turns

/-!
# Who owns the VMs of Fleet

- `OwnersSound.reserve`, `release`, `configure`: each write of the queue keeps this.
-/

namespace Beale.FleetService

open Beale.Library Beale.Library.Client

/-! ## Owners -/

variable {a b owner : FleetOwner}

theorem FleetOwner.isSame_iff :
    a.isSame b = true ↔ a.machineId = b.machineId ∧ a.sessionId = b.sessionId := by
  simp [FleetOwner.isSame]

theorem FleetOwner.isSame_refl (a : FleetOwner) : a.isSame a = true := isSame_iff.mpr ⟨rfl, rfl⟩

theorem FleetOwner.isSame_symm (h : a.isSame b = true) : b.isSame a = true := by
  rw [isSame_iff] at h ⊢
  exact ⟨h.1.symm, h.2.symm⟩

theorem FleetOwner.isSame_trans {c : FleetOwner} (h : a.isSame b = true) (h' : b.isSame c = true) :
    a.isSame c = true := by
  rw [isSame_iff] at h h' ⊢
  exact ⟨h.1.trans h'.1, h.2.trans h'.2⟩

variable {config config' : FleetConfiguration} {machineId : JsString}

theorem isReservedBy_iff :
    config.isReservedBy machineId owner = true ↔
      ∃ claim, config.owners.get? machineId = some claim ∧ claim.isSame owner = true := by
  simp [FleetConfiguration.isReservedBy, Option.any_eq_true]

theorem isReservedBy_of_isSame {other : FleetOwner}
    (h : config.isReservedBy machineId owner = true) (hsame : other.isSame owner = true) :
    config.isReservedBy machineId other = true := by
  rw [isReservedBy_iff] at h ⊢
  obtain ⟨claim, hget, hclaim⟩ := h
  exact ⟨claim, hget, FleetOwner.isSame_trans hclaim (FleetOwner.isSame_symm hsame)⟩

/-- What holds of the owners: Fleet is in use where there are some, the VMs that stage one workspace have one
owner, and each owner is a valid one. -/
structure OwnersSound (config : FleetConfiguration) : Prop where
  primary : config.owners.keys ≠ [] → config.role = .primary ∧ config.enabled = true
  staged : ∀ machineId other claim claim', config.owners.get? machineId = some claim →
    config.owners.get? other = some claim' → claim.workspaceId.isSome → claim'.workspaceId = claim.workspaceId →
    claim.isSame claim' = true
  valid : ∀ machineId claim, config.owners.get? machineId = some claim → validOwner claim = .ok ()

theorem validOwner_ok : validOwner owner = .ok () ↔
    isVmName owner.machineId = true ∧ isVmName owner.sessionId = true ∧ owner.workspaceId.all isWorkspaceId = true := by
  unfold validOwner
  split
  · next h => simpa [and_assoc] using h
  · next h => simpa [and_assoc] using h

theorem keys_ne_nil_of_get? {α : Type} {m : JsMap JsString α} {key : JsString} {value : α}
    (h : m.get? key = some value) : m.keys ≠ [] :=
  List.ne_nil_of_mem (List.mem_map_of_mem (JsMap.mem_of_get? h))

variable {awaited : Awaited}

theorem OwnersSound.reserve {view : FleetConfiguration}
    (h : OwnersSound config) (hvalid : validOwner owner = .ok ())
    (hok : reserveMachine view config awaited machineId owner = .ok config') : OwnersSound config' := by
  obtain ⟨hprimary, hclaim, hstaged, helsewhere, rfl⟩ := reserveMachine_ok hok
  have hover : ∀ workspaceId, (owner.over (config.owners.get? machineId)).workspaceId = some workspaceId →
      owner.workspaceId = some workspaceId ∨
        ∃ claim, config.owners.get? machineId = some claim ∧ claim.workspaceId = some workspaceId := by
    intro workspaceId hws
    cases howner : owner.workspaceId with
    | some staged => exact .inl (by simpa [FleetOwner.over, howner] using hws)
    | none =>
      right
      simpa [FleetOwner.over, howner, Option.bind_eq_some_iff] using hws
  -- the new claim agrees with any other one that stages its workspace
  have hagree : ∀ other claim workspaceId, other ≠ machineId → config.owners.get? other = some claim →
      (owner.over (config.owners.get? machineId)).workspaceId = some workspaceId →
      claim.workspaceId = some workspaceId → claim.isSame owner = true := by
    intro other claim workspaceId hne hget hws hclaimed
    rcases hover workspaceId hws with howner | ⟨current, hcur, hsame⟩
    · exact helsewhere (by simp [howner]) other claim hne hget (by rw [hclaimed, howner])
    · exact FleetOwner.isSame_trans (h.staged other machineId claim current hget hcur (by simp [hclaimed])
        (by rw [hclaimed, hsame])) (hclaim current hcur)
  refine ⟨fun _ => ?_, fun first second claim claim' hget hget' hsome hsame => ?_, fun other claim hget => ?_⟩
  · simp only [FleetConfiguration.requirePrimaryEnabled] at hprimary
    split at hprimary
    · cases hprimary
    · next hoff =>
      rw [not_or, not_not, Bool.not_eq_false] at hoff
      exact hoff
  · obtain ⟨workspaceId, hws⟩ := Option.isSome_iff_exists.mp hsome
    rw [hws] at hsame
    rw [JsMap.get?_set] at hget hget'
    split at hget <;> split at hget'
    · cases hget
      cases hget'
      exact FleetOwner.isSame_refl _
    · next hne =>
      cases hget
      have hother := hagree second claim' workspaceId hne hget' hws hsame
      exact FleetOwner.isSame_symm (FleetOwner.isSame_iff.mpr (FleetOwner.isSame_iff.mp hother))
    · next hne _ =>
      cases hget'
      have hother := hagree first claim workspaceId hne hget hsame hws
      exact FleetOwner.isSame_iff.mpr (FleetOwner.isSame_iff.mp hother)
    · exact h.staged first second claim claim' hget hget' hsome (hsame.trans hws.symm)
  · rw [JsMap.get?_set] at hget
    split at hget
    · cases hget
      obtain ⟨hmach, hsess, hws⟩ := validOwner_ok.mp hvalid
      refine validOwner_ok.mpr ⟨hmach, hsess, ?_⟩
      simp only [Option.all_eq_true]
      intro workspaceId hsome
      rcases hover workspaceId hsome with howner | ⟨current, hcur, hstagedWorkspace⟩
      · simpa [howner] using hws
      · have hvalidClaim := (validOwner_ok.mp (h.valid machineId current hcur)).2.2
        simpa [hstagedWorkspace] using hvalidClaim
    · exact h.valid other claim hget

theorem OwnersSound.release
    (h : OwnersSound config) (hok : releaseMachine config machineId owner = .ok config') : OwnersSound config' := by
  obtain ⟨-, rfl⟩ := releaseMachine_ok hok
  have hkept : ∀ other claim, (config.owners.delete machineId).get? other = some claim →
      config.owners.get? other = some claim := by
    intro other claim hget
    rw [JsMap.get?_delete] at hget
    split at hget
    · cases hget
    · exact hget
  refine ⟨fun hsome => ?_, fun first second claim claim' hget hget' => h.staged first second claim claim'
    (hkept _ _ hget) (hkept _ _ hget'), fun other claim hget => h.valid other claim (hkept other claim hget)⟩
  obtain ⟨other, hmem⟩ := List.exists_mem_of_ne_nil _ hsome
  obtain ⟨claim, hget⟩ := Option.ne_none_iff_exists'.mp fun hnone => JsMap.get?_eq_none.mp hnone hmem
  exact h.primary (keys_ne_nil_of_get? (hkept other claim hget))

variable {action : FleetAction}

section

variable (hok : configureAction config awaited action = .ok config')
include hok

/-- While a VM is owned, `configure` leaves Fleet in use. -/
theorem configureAction_primary (howned : config.owners.keys ≠ []) :
    config'.role = config.role ∧ (config.enabled = true → config'.enabled = true) := by
  have hrole : action.entry ≠ .role → config'.role = config.role := fun hne => by
    simpa [FleetConfiguration.get] using configureAction_get hok (Ne.symm hne)
  have henabled : action.entry ≠ .enabled → config'.enabled = config.enabled := fun hne => by
    simpa [FleetConfiguration.get] using configureAction_get hok (Ne.symm hne)
  cases action with
  | setRole role =>
    simp only [configureAction] at hok
    split at hok
    · cases hok
    · next hguard =>
      cases hok
      have hsame : role = config.role := by
        by_contra hne
        exact hguard ⟨hne, howned⟩
      exact ⟨hsame, id⟩
  | setEnabled enabled =>
    simp only [configureAction] at hok
    split at hok
    · cases hok
    · next hguard =>
      cases hok
      refine ⟨rfl, fun _ => ?_⟩
      by_contra hoff
      exact hguard ⟨by simpa using hoff, howned⟩
  | _ => exact ⟨hrole (by simp [FleetAction.entry]), fun h => (henabled (by simp [FleetAction.entry])).trans h⟩

theorem configureAction_owners (machineId : JsString) :
    config'.owners.get? machineId = config.owners.get? machineId := by
  have hne : FleetEntry.owner machineId ≠ action.entry := by cases action <;> simp [FleetAction.entry]
  simpa [FleetConfiguration.get] using configureAction_get hok hne

/-- `set-machine` changes no VM that is owned. -/
theorem configureAction_machines (howned : (config.owners.get? machineId).isSome) :
    config'.machines.get? machineId = config.machines.get? machineId := by
  by_cases hentry : FleetEntry.machine machineId = action.entry
  · cases action <;> simp only [FleetAction.entry, reduceCtorEq] at hentry
    cases hentry
    simp only [configureAction] at hok
    split at hok
    · cases hok
    · simp only [exceptGuard_ok] at hok
      exact absurd howned hok.1
  · simpa [FleetConfiguration.get] using configureAction_get hok hentry

end

theorem OwnersSound.configure
    (h : OwnersSound config) (hok : configureAction config awaited action = .ok config') : OwnersSound config' := by
  have howners := configureAction_owners hok
  refine ⟨fun hsome => ?_, fun first second claim claim' hget hget' => ?_, fun other claim hget => ?_⟩
  · obtain ⟨other, hmem⟩ := List.exists_mem_of_ne_nil _ hsome
    obtain ⟨claim, hget⟩ := Option.ne_none_iff_exists'.mp fun hnone => JsMap.get?_eq_none.mp hnone hmem
    have howned := keys_ne_nil_of_get? ((howners other).symm.trans hget)
    obtain ⟨hrole, henabled⟩ := configureAction_primary hok howned
    exact ⟨hrole.trans (h.primary howned).1, henabled (h.primary howned).2⟩
  · exact h.staged first second claim claim' ((howners first).symm.trans hget) ((howners second).symm.trans hget')
  · exact h.valid other claim ((howners other).symm.trans hget)

end Beale.FleetService
