import Beale.AppServer.Lifecycle

/-!
# The sessions that the host believes active

- `AllLifecycles`: the invariant; a runtime that has not ended is the one that is registered for its session.
- `lifecycle_sound_iff`: a run is sound if and only if each of its events meets the condition of `Undisturbed`.
- `disturbed_runs`: a stop during a spawn that fails, a stop during an exit inspection, and a new runtime of a session
  that was stopped during a spawn.
-/

namespace Beale.AppServer

open Beale.Library

namespace AppServer

variable (server : AppServer)

/-- A runtime of the session has a worker, or its exit is being inspected. -/
def HasActive (sessionId : JsString) : Prop :=
  ∃ number runtime, server.runtimes.get? number = some runtime ∧ runtime.sessionId = sessionId ∧ runtime.isActive = true

def LifecycleKept : AppServerEvent → Prop
  | .runtime number event => ∀ runtime, server.runtimes.get? number = some runtime → server.Undisturbed number runtime event
  | _ => True

end AppServer

/-- What a step to `server'` is to do. -/
structure LifecycleSound (server server' : AppServer) : Prop where
  oneWorker : ∀ number number' runtime runtime' worker worker', server'.runtimes.get? number = some runtime →
    server'.runtimes.get? number' = some runtime' → runtime.sessionId = runtime'.sessionId → worker ∈ runtime.live →
      worker' ∈ runtime'.live → number = number' ∧ worker = worker'
  final : ∀ number runtime, server.runtimes.get? number = some runtime → runtime.isTerminal = true →
    ∃ runtime', server'.runtimes.get? number = some runtime' ∧ runtime'.state = runtime.state ∧
      runtime'.live ⊆ runtime.live
  /-- once, where the report of a failed launch is not to be made yet -/
  recorded : ∀ number runtime, server'.runtimes.get? number = some runtime →
    if runtime.isTerminal then
      runtime.recorded = [runtime.state] ∨ runtime.recorded = [] ∧ runtime.state = .failed ∧ runtime.task = some .failing
    else runtime.recorded = []
  active : ∀ sessionId, (server'.active.get? sessionId).isSome = true ↔ server'.HasActive sessionId

structure AllLifecycles (server : AppServer) : Prop where
  life : ∀ number runtime, server.runtimes.get? number = some runtime → Lifecycle runtime
  registered : ∀ number runtime, server.runtimes.get? number = some runtime → runtime.isTerminal = false →
    server.isCurrent number runtime = true
  numbers : ∀ number runtime, server.runtimes.get? number = some runtime → number < server.next
  oneRuntime : ∀ number number' runtime runtime', server.runtimes.get? number = some runtime →
    server.runtimes.get? number' = some runtime' → runtime.sessionId = runtime'.sessionId → runtime.live ≠ [] →
      runtime'.live ≠ [] → number = number'
  active : ∀ sessionId, (server.active.get? sessionId).isSome = true ↔ server.HasActive sessionId

section Steps

variable {server server' : AppServer}

/-- What the invariant says of one state. -/
theorem AllLifecycles.sound (h' : AllLifecycles server')
    (hfinal : ∀ number runtime, server.runtimes.get? number = some runtime → runtime.isTerminal = true →
      ∃ runtime', server'.runtimes.get? number = some runtime' ∧ runtime'.state = runtime.state ∧
        runtime'.live ⊆ runtime.live) : LifecycleSound server server' := by
  refine ⟨fun number number' runtime runtime' worker worker' hget hget' hid hmem hmem' => ?_, hfinal,
    fun number runtime hget => (h'.life number runtime hget).recorded, h'.active⟩
  have hsame := h'.oneRuntime number number' runtime runtime' hget hget' hid (List.ne_nil_of_mem hmem)
    (List.ne_nil_of_mem hmem')
  subst hsame
  cases hget.symm.trans hget'
  have hone := (h'.life number runtime hget).length_live
  obtain ⟨only, hlive⟩ := List.length_eq_one_iff.mp (Nat.le_antisymm hone (List.length_pos_of_mem hmem))
  rw [hlive] at hmem hmem'
  exact ⟨rfl, (List.mem_singleton.mp hmem).trans (List.mem_singleton.mp hmem').symm⟩

/-- Runtimes stay as they are. -/
theorem AllLifecycles.same (h : AllLifecycles server) : LifecycleSound server server :=
  h.sound fun _ runtime hget _ => ⟨runtime, hget, rfl, List.Subset.refl _⟩

/-! ## A new runtime -/

theorem Lifecycle.new (sessionId : JsString) (launch : Launch) : Lifecycle (.new sessionId launch) :=
  .waiting rfl rfl nofun rfl rfl nofun rfl

/-- A runtime takes over a session whose runtimes have ended. -/
theorem AllLifecycles.create (h : AllLifecycles server) {sessionId : JsString} {launch : Launch}
    (hruntimes : server'.runtimes = server.runtimes.set server.next (.new sessionId launch))
    (hnext : server'.next = server.next + 1) (hact : server'.active = server.active)
    (hsess : server'.sessions.get? sessionId = some server.next)
    (hsesss : ∀ other, other ≠ sessionId → server'.sessions.get? other = server.sessions.get? other)
    (hended : ∀ number runtime, server.runtimes.get? number = some runtime → runtime.sessionId = sessionId →
      runtime.isTerminal = true) : AllLifecycles server' ∧ LifecycleSound server server' := by
  have hnew : server'.runtimes.get? server.next = some (.new sessionId launch) := by
    rw [hruntimes, JsMap.get?_set, if_pos rfl]
  have hold : ∀ {number runtime}, server.runtimes.get? number = some runtime →
      server'.runtimes.get? number = some runtime := by
    intro number runtime hget
    have hne : number ≠ server.next := Nat.ne_of_lt (h.numbers number runtime hget)
    rw [hruntimes, JsMap.get?_set, if_neg hne]
    exact hget
  have hcases : ∀ {number runtime}, server'.runtimes.get? number = some runtime →
      number = server.next ∧ runtime = .new sessionId launch ∨ server.runtimes.get? number = some runtime := by
    intro number runtime hget
    rw [hruntimes, JsMap.get?_set] at hget
    split at hget
    · next hsame =>
      cases hget
      exact .inl ⟨hsame, rfl⟩
    · exact .inr hget
  have hall : AllLifecycles server' := by
    refine ⟨fun number runtime hget => ?_, fun number runtime hget hstate => ?_, fun number runtime hget => ?_,
      fun number number' runtime runtime' hget hget' hid hlive hlive' => ?_, fun other => ?_⟩
    · rcases hcases hget with ⟨-, rfl⟩ | hget
      · exact .new sessionId launch
      · exact h.life number runtime hget
    · rcases hcases hget with ⟨rfl, rfl⟩ | hget
      · simp [AppServer.isCurrent, SessionRuntime.new, hsess]
      · have hother : runtime.sessionId ≠ sessionId := fun hid => by
          cases hstate.symm.trans (hended number runtime hget hid)
        have hcur := h.registered number runtime hget hstate
        rw [AppServer.isCurrent, hsesss _ hother]
        exact hcur
    · rw [hnext]
      rcases hcases hget with ⟨rfl, -⟩ | hget
      · exact Nat.lt_succ_self _
      · exact Nat.lt_succ_of_lt (h.numbers number runtime hget)
    · rcases hcases hget with ⟨-, rfl⟩ | hget
      · exact absurd rfl hlive
      · rcases hcases hget' with ⟨-, rfl⟩ | hget'
        · exact absurd rfl hlive'
        · exact h.oneRuntime number number' runtime runtime' hget hget' hid hlive hlive'
    · rw [hact, h.active other]
      constructor
      · rintro ⟨number, runtime, hget, hid, hbusy⟩
        exact ⟨number, runtime, hold hget, hid, hbusy⟩
      · rintro ⟨number, runtime, hget, hid, hbusy⟩
        rcases hcases hget with ⟨-, rfl⟩ | hget
        · cases hbusy
        · exact ⟨number, runtime, hget, hid, hbusy⟩
  exact ⟨hall, hall.sound fun number runtime hget _ => ⟨runtime, hold hget, rfl, List.Subset.refl _⟩⟩

theorem AllLifecycles.register (h : AllLifecycles server) (sessionId : JsString) :
    AllLifecycles (server.register sessionId) ∧ LifecycleSound server (server.register sessionId) := by
  have hcur : ∀ number runtime, server.runtimes.get? number = some runtime → runtime.sessionId = sessionId →
      runtime.isTerminal = false → (server.sessions.get? sessionId).bind server.runtimes.get? = some runtime := by
    intro number runtime hget hid hstate
    have hreg := h.registered number runtime hget hstate
    rw [AppServer.isCurrent, decide_eq_true_eq, hid] at hreg
    rw [hreg]
    exact hget
  unfold AppServer.register
  split
  · next existing hex =>
    split
    · exact ⟨h, h.same⟩
    · next hfree =>
      rw [not_or, Decidable.not_not] at hfree
      refine h.create rfl rfl rfl (JsMap.get?_set_self _ _ _) (fun other hother => ?_) fun number runtime hget hid => ?_
      · dsimp only
        rw [JsMap.get?_set, if_neg hother, JsMap.get?_delete, if_neg hother]
      · cases hstate : runtime.isTerminal with
        | true => rfl
        | false =>
          cases hex.symm.trans (hcur number runtime hget hid hstate)
          exact hstate.symm.trans hfree.1
  · next hnone =>
    refine h.create rfl rfl rfl (JsMap.get?_set_self _ _ _) (fun other hother => ?_) fun number runtime hget hid => ?_
    · dsimp only
      rw [JsMap.get?_set, if_neg hother]
    · cases hstate : runtime.isTerminal with
      | true => rfl
      | false => cases hnone.symm.trans (hcur number runtime hget hid hstate)

theorem AllLifecycles.restore (h : AllLifecycles server) (sessionId : JsString) :
    AllLifecycles (server.restore sessionId) ∧ LifecycleSound server (server.restore sessionId) := by
  unfold AppServer.restore
  split
  · exact ⟨h, h.same⟩
  · next hfree =>
    refine h.create rfl rfl rfl (JsMap.get?_set_self _ _ _) (fun other hother => ?_) fun number runtime hget hid => ?_
    · dsimp only
      rw [JsMap.get?_set, if_neg hother]
    · cases hstate : runtime.isTerminal with
      | true => rfl
      | false =>
        have hreg := h.registered number runtime hget hstate
        rw [AppServer.isCurrent, decide_eq_true_eq, hid] at hreg
        rw [hreg] at hfree
        exact absurd rfl hfree

/-! ## An event of a runtime -/

section Moves

variable {number : Nat} {runtime runtime' : SessionRuntime}

theorem hasActive_iff (hget : server.runtimes.get? number = some runtime) :
    server.HasActive runtime.sessionId ↔ runtime.isActive = true ∨ server.OtherActive number runtime.sessionId := by
  constructor
  · rintro ⟨other, found, hfound, hid, hbusy⟩
    by_cases hsame : other = number
    · subst hsame
      cases hget.symm.trans hfound
      exact .inl hbusy
    · exact .inr ⟨other, found, hsame, hfound, hid, hbusy⟩
  · rintro (hbusy | ⟨other, found, -, hfound, hid, hbusy⟩)
    · exact ⟨number, runtime, hget, rfl, hbusy⟩
    · exact ⟨other, found, hfound, hid, hbusy⟩

section

variable (h : RuntimeMove server number runtime server' runtime')
include h

theorem RuntimeMove.get?_self : server'.runtimes.get? number = some runtime' := by
  rw [h.runtimes, JsMap.get?_set, if_pos rfl]

theorem RuntimeMove.get?_other {other : Nat} (hne : other ≠ number) :
    server'.runtimes.get? other = server.runtimes.get? other := by
  rw [h.runtimes, JsMap.get?_set, if_neg hne]

theorem RuntimeMove.otherActive (sessionId : JsString) :
    server'.OtherActive number sessionId ↔ server.OtherActive number sessionId := by
  constructor
  · rintro ⟨other, found, hne, hfound, hid, hbusy⟩
    exact ⟨other, found, hne, (h.get?_other hne).symm.trans hfound, hid, hbusy⟩
  · rintro ⟨other, found, hne, hfound, hid, hbusy⟩
    exact ⟨other, found, hne, (h.get?_other hne).trans hfound, hid, hbusy⟩

theorem RuntimeMove.hasActive_other
    (hget : server.runtimes.get? number = some runtime) {sessionId : JsString} (hne : sessionId ≠ runtime.sessionId) :
    server'.HasActive sessionId ↔ server.HasActive sessionId := by
  constructor
  · rintro ⟨other, found, hfound, hid, hbusy⟩
    by_cases hsame : other = number
    · subst hsame
      cases h.get?_self.symm.trans hfound
      exact absurd (hid.symm.trans h.sessionId) hne
    · exact ⟨other, found, (h.get?_other hsame).symm.trans hfound, hid, hbusy⟩
  · rintro ⟨other, found, hfound, hid, hbusy⟩
    by_cases hsame : other = number
    · subst hsame
      cases hget.symm.trans hfound
      exact absurd hid.symm hne
    · exact ⟨other, found, (h.get?_other hsame).trans hfound, hid, hbusy⟩

theorem RuntimeMove.active (hget : server.runtimes.get? number = some runtime)
    (hact : ∀ sessionId, (server.active.get? sessionId).isSome = true ↔ server.HasActive sessionId) (sessionId : JsString) :
    (server'.active.get? sessionId).isSome = true ↔ server'.HasActive sessionId := by
  by_cases hid : sessionId = runtime.sessionId
  · subst hid
    have hnow : server'.HasActive runtime.sessionId ↔
        runtime'.isActive = true ∨ server.OtherActive number runtime.sessionId := by
      rw [← h.otherActive, ← h.sessionId]
      exact hasActive_iff h.get?_self
    rw [hnow]
    cases h.mark with
    | same mark activity =>
      rw [mark, activity]
      exact (hact _).trans (hasActive_iff hget)
    | set mark activity =>
      rw [mark, JsMap.get?_set_self]
      exact ⟨fun _ => .inl activity, fun _ => rfl⟩
    | clear mark activity others =>
      rw [mark, JsMap.get?_delete, if_pos rfl, activity]
      constructor
      · nofun
      · rintro (hbusy | hrest)
        · cases hbusy
        · exact absurd hrest others
  · rw [h.hasActive_other hget hid, ← hact]
    cases h.mark with
    | same mark activity => rw [mark]
    | set mark activity => rw [mark, JsMap.get?_set, if_neg hid]
    | clear mark activity others => rw [mark, JsMap.get?_delete, if_neg hid]

end

theorem AllLifecycles.move (h : AllLifecycles server) (hget : server.runtimes.get? number = some runtime)
    (hmove : RuntimeMove server number runtime server' runtime') : AllLifecycles server' ∧ LifecycleSound server server' := by
  have hcases : ∀ {other found}, server'.runtimes.get? other = some found →
      other = number ∧ found = runtime' ∨ other ≠ number ∧ server.runtimes.get? other = some found := by
    intro other found hfound
    by_cases hsame : other = number
    · subst hsame
      cases hmove.get?_self.symm.trans hfound
      exact .inl ⟨rfl, rfl⟩
    · exact .inr ⟨hsame, (hmove.get?_other hsame).symm.trans hfound⟩
  have hopen : runtime'.isTerminal = false → runtime.isTerminal = false := by
    intro hstate
    cases hold : runtime.isTerminal with
    | false => rfl
    | true =>
      rw [SessionRuntime.isTerminal, hmove.final hold] at hstate
      exact hold.symm.trans hstate
  -- another runtime of the session has no worker while this one has one
  have halone : ∀ {other found}, other ≠ number → server.runtimes.get? other = some found →
      found.sessionId = runtime'.sessionId → found.live ≠ [] → runtime'.live ≠ [] → False := by
    intro other found hne hfound hid hlive hlive'
    rcases hmove.live with hsubset | ⟨-, hrest⟩
    · have hbef : runtime.live ≠ [] := fun hnone => by
        rw [hnone] at hsubset
        exact hlive' (List.subset_nil.mp hsubset)
      exact hne (h.oneRuntime other number found runtime hfound hget (hid.trans hmove.sessionId) hlive hbef)
    · exact hrest ⟨other, found, hne, hfound, hid.trans hmove.sessionId, hlive⟩
  have hall : AllLifecycles server' := by
    refine ⟨fun other found hfound => ?_, fun other found hfound hstate => ?_, fun other found hfound => ?_,
      fun other other' found found' hfound hfound' hid hlive hlive' => ?_, hmove.active hget h.active⟩
    · rcases hcases hfound with ⟨-, rfl⟩ | ⟨-, hfound⟩
      · exact hmove.life
      · exact h.life other found hfound
    · rw [AppServer.isCurrent, hmove.sessions]
      rcases hcases hfound with ⟨rfl, rfl⟩ | ⟨-, hfound⟩
      · rw [hmove.sessionId]
        exact h.registered other runtime hget (hopen hstate)
      · exact h.registered other found hfound hstate
    · refine Nat.lt_of_lt_of_le ?_ hmove.next
      rcases hcases hfound with ⟨rfl, -⟩ | ⟨-, hfound⟩
      · exact h.numbers other runtime hget
      · exact h.numbers other found hfound
    · rcases hcases hfound with ⟨rfl, rfl⟩ | ⟨hne, hfound⟩
      · rcases hcases hfound' with ⟨rfl, -⟩ | ⟨hne', hfound'⟩
        · rfl
        · exact (halone hne' hfound' hid.symm hlive' hlive).elim
      · rcases hcases hfound' with ⟨rfl, rfl⟩ | ⟨-, hfound'⟩
        · exact (halone hne hfound hid hlive hlive').elim
        · exact h.oneRuntime other other' found found' hfound hfound' hid hlive hlive'
  refine ⟨hall, hall.sound fun other found hfound hterm => ?_⟩
  by_cases hsame : other = number
  · subst hsame
    cases hget.symm.trans hfound
    refine ⟨runtime', hmove.get?_self, hmove.final hterm, ?_⟩
    rcases hmove.live with hsubset | ⟨hstate, -⟩
    · exact hsubset
    · cases hstate.symm.trans hterm
  · exact ⟨found, (hmove.get?_other hsame).trans hfound, rfl, List.Subset.refl _⟩

/-- An ended runtime that is registered no more. -/
theorem AllLifecycles.remove (h : AllLifecycles server) (hget : server.runtimes.get? number = some runtime)
    (hterm : runtime.isTerminal = true) (hcur : server.isCurrent number runtime = true) :
    AllLifecycles { server with sessions := server.sessions.delete runtime.sessionId } ∧
      LifecycleSound server { server with sessions := server.sessions.delete runtime.sessionId } := by
  have hall : AllLifecycles { server with sessions := server.sessions.delete runtime.sessionId } := by
    refine ⟨h.life, fun other found hfound hstate => ?_, h.numbers, h.oneRuntime, h.active⟩
    have hreg := h.registered other found hfound hstate
    rw [AppServer.isCurrent, decide_eq_true_eq] at hreg hcur ⊢
    have hother : found.sessionId ≠ runtime.sessionId := by
      intro hid
      rw [hid, hcur] at hreg
      cases hreg
      cases hget.symm.trans hfound
      cases hstate.symm.trans hterm
    dsimp only
    rw [JsMap.get?_delete, if_neg hother]
    exact hreg
  exact ⟨hall, hall.sound fun _ found hfound _ => ⟨found, hfound, rfl, List.Subset.refl _⟩⟩

end Moves

theorem AllLifecycles.step (h : AllLifecycles server) {event : AppServerEvent} (hcond : server.LifecycleKept event) :
    AllLifecycles (server.step event) ∧ LifecycleSound server (server.step event) := by
  cases event with
  | register sessionId => exact h.register sessionId
  | restore sessionId => exact h.restore sessionId
  | runtime number event =>
    simp only [AppServer.step]
    split
    · next runtime hget =>
      have hlife := h.life number runtime hget
      cases lifecycleMove_handle hlife (h.registered number runtime hget) (hcond runtime hget) with
      | unchanged same =>
        rw [same]
        exact ⟨h, h.same⟩
      | removed terminal current same =>
        rw [same]
        exact h.remove hget terminal current
      | moved move => exact h.move hget move
    · exact ⟨h, h.same⟩

/-! ## Events against the condition -/

section Disturbed

variable {number : Nat} {runtime runtime' : SessionRuntime}

/-- The mark of a session is not cleared under another runtime of it. -/
theorem LifecycleSound.otherActive (h : LifecycleSound server server') {sessionId : JsString}
    (hruntimes : server'.runtimes = server.runtimes.set number runtime')
    (hmark : server'.active = server.active.delete sessionId) : ¬ server.OtherActive number sessionId := by
  rintro ⟨other, found, hne, hfound, hid, hbusy⟩
  have hstays : server'.HasActive sessionId := by
    refine ⟨other, found, ?_, hid, hbusy⟩
    rw [hruntimes, JsMap.get?_set, if_neg hne]
    exact hfound
  have hmarked := (h.active sessionId).mpr hstays
  rw [hmark, JsMap.get?_delete, if_pos rfl] at hmarked
  cases hmarked

section

variable (h : LifecycleSound server server') (hget : server.runtimes.get? number = some runtime)
  (hlife : Lifecycle runtime)
include h hget hlife

/-- No ended runtime comes to an end again. -/
theorem LifecycleSound.open_of_recorded (hget' : server'.runtimes.get? number = some runtime')
    (hrec : runtime'.recorded = runtime.recorded ++ [runtime'.state])
    (hnot : runtime.task ≠ some .failing ∨ runtime'.state ≠ .failed) : runtime.isTerminal = false := by
  cases hterm : runtime.isTerminal with
  | false => rfl
  | true =>
    obtain ⟨after, hafter, hstate, -⟩ := h.final number runtime hget hterm
    cases hget'.symm.trans hafter
    have hthere := h.recorded number runtime' hget'
    have hbef := hlife.recorded
    have hterm' : runtime'.isTerminal = true := by
      rw [SessionRuntime.isTerminal, hstate]
      exact hterm
    rw [if_pos hterm'] at hthere
    rw [if_pos hterm] at hbef
    rcases hbef with hbef | ⟨-, hfail, hfailing⟩
    · rw [hrec, hbef] at hthere
      rcases hthere with hthere | ⟨hthere, -⟩
      · have hlen := congrArg List.length hthere
        simp at hlen
      · simp at hthere
    · rcases hnot with hnot | hnot
      · exact absurd hfailing hnot
      · exact absurd (hstate.trans hfail) hnot

theorem LifecycleSound.open_of_failed {task : RuntimeTask}
    (htask : runtime.task = some task) (hnot : task ≠ .failing)
    (hget' : server'.runtimes.get? number = some runtime') (hstate' : runtime'.state = .failed) :
    runtime.isTerminal = false := by
  obtain ⟨-, -, ⟨hstate, -⟩ | ⟨hstate, -⟩⟩ := hlife.of_task htask hnot
  · exact hstate
  · obtain ⟨after, hafter, hsame, -⟩ := h.final number runtime hget (isTerminal_of_stopped hstate)
    cases hget'.symm.trans hafter
    cases hstate'.symm.trans (hsame.trans hstate)

end

theorem get?_put (server : AppServer) (number : Nat) (runtime : SessionRuntime) :
    (server.put number runtime).runtimes.get? number = some runtime := JsMap.get?_set_self _ _ _

section

variable (hall : AllLifecycles server) (hget : server.runtimes.get? number = some runtime)
include hall hget

theorem LifecycleSound.launch
    (h : LifecycleSound server (server.launch number runtime)) : server.Undisturbed number runtime .launch := by
  simp only [AppServer.Undisturbed]
  split
  · next launch htask =>
    simp only [AppServer.launch, htask] at h
    split
    · next hgone =>
      rw [if_pos hgone] at h
      exact h.otherActive rfl rfl
    · next hgone =>
      rw [if_neg hgone] at h
      rintro ⟨other, found, hne, hfound, hid, hlive⟩
      obtain ⟨worker, hmem⟩ := List.exists_mem_of_ne_nil _ hlive
      refine hne (h.oneWorker other number found _ worker server.next ?_ (get?_put _ _ _) hid hmem ?_).1
      · exact (JsMap.get?_set _ _ _ _).trans ((if_neg hne).trans hfound)
      · exact List.mem_append_right _ (List.mem_singleton_self _)
  · trivial

theorem LifecycleSound.launchFailed
    (h : LifecycleSound server (server.launchFailed number runtime)) : server.Undisturbed number runtime .launchFailed := by
  intro htask
  simp only [AppServer.launchFailed, htask] at h
  exact h.open_of_failed hget (hall.life number runtime hget) htask nofun (get?_put _ _ _) rfl

theorem LifecycleSound.spawnFailed
    (h : LifecycleSound server (server.spawnFailed number runtime)) : server.Undisturbed number runtime .spawnFailed := by
  simp only [AppServer.Undisturbed]
  split
  · next worker launch htask =>
    simp only [AppServer.spawnFailed, htask] at h
    refine ⟨fun hstart => ?_, h.otherActive rfl rfl⟩
    subst hstart
    exact h.open_of_failed hget (hall.life number runtime hget) htask (by rintro ⟨⟩) (get?_put _ _ _) rfl
  · trivial

end

theorem LifecycleSound.exit {worker : Nat} (h : LifecycleSound server (server.exit number runtime worker)) :
    server.Undisturbed number runtime (.exit worker) := by
  rintro ⟨hmem, hspawning, hsess⟩
  have hends : ¬ (worker ∉ runtime.live ∨ runtime.isSpawning worker = true) := by
    rw [not_or, Decidable.not_not, Bool.not_eq_true]
    exact ⟨hmem, hspawning⟩
  simp only [AppServer.exit, if_neg hends, if_neg hsess] at h
  exact h.otherActive rfl rfl

section

variable (hall : AllLifecycles server) (hget : server.runtimes.get? number = some runtime)
include hall hget

theorem LifecycleSound.inspected
    {completion : Completion} (h : LifecycleSound server (server.inspected number runtime completion)) :
    server.Undisturbed number runtime (.inspected completion) := by
  simp only [AppServer.Undisturbed]
  split
  · next htask =>
    simp only [AppServer.inspected, htask] at h
    refine ⟨fun hterm => ?_, h.otherActive rfl rfl⟩
    cases hcur : server.isCurrent number runtime with
    | false => rfl
    | true =>
      rw [if_pos hcur] at h
      have hlife := hall.life number runtime hget
      have hstop : runtime.stopRequested = true := by
        obtain ⟨-, -, ⟨hstate, -⟩ | ⟨-, -, hstop, -⟩⟩ := hlife.of_task htask (by rintro ⟨⟩)
        · cases hstate.symm.trans hterm
        · exact hstop
      have hopen : runtime.isTerminal = false := by
        refine h.open_of_recorded hget hlife (get?_put _ _ _) ?_ (.inl (by rw [htask]; rintro ⟨⟩))
        simp only [SessionRuntime.afterExit, hstop, if_true]
        split <;> rfl
      cases hopen.symm.trans hterm
  · trivial

theorem LifecycleSound.recoveryFailureRecorded
    (h : LifecycleSound server (server.recoveryFailureRecorded number runtime)) :
    server.Undisturbed number runtime .recoveryFailureRecorded := by
  simp only [AppServer.Undisturbed]
  split
  · next restarting htask =>
    simp only [AppServer.recoveryFailureRecorded, htask] at h
    exact h.open_of_recorded hget (hall.life number runtime hget) (get?_put _ _ _) rfl (.inl (by rw [htask]; rintro ⟨⟩))
  · trivial

theorem LifecycleSound.stop
    (h : LifecycleSound server (server.put number runtime.requestStop)) : server.Undisturbed number runtime .stop := by
  cases hsess : runtime.session with
  | some worker => exact ((hall.life number runtime hget).of_session hsess).1
  | none =>
    have hstops : runtime.requestStop = { runtime with stopRequested := true }.finishRuntime .stopped := by
      simp [SessionRuntime.requestStop, hsess]
    rw [hstops] at h
    exact h.open_of_recorded hget (hall.life number runtime hget) (get?_put _ _ _) rfl (.inr (by rintro ⟨⟩))

end

end Disturbed

theorem AllLifecycles.kept (h : AllLifecycles server) {event : AppServerEvent}
    (hsound : LifecycleSound server (server.step event)) : server.LifecycleKept event := by
  cases event with
  | register sessionId => trivial
  | restore sessionId => trivial
  | runtime number event =>
    intro runtime hget
    simp only [AppServer.step, hget] at hsound
    cases event with
    | launch => exact hsound.launch h hget
    | launchFailed => exact hsound.launchFailed h hget
    | spawnFailed => exact hsound.spawnFailed h hget
    | exit worker => exact hsound.exit
    | inspected completion => exact hsound.inspected h hget
    | recoveryFailureRecorded => exact hsound.recoveryFailureRecorded h hget
    | stop => exact hsound.stop h hget
    | _ => trivial

end Steps

theorem AllLifecycles.new (maxRecoveryAttempts : Nat) : AllLifecycles (.new maxRecoveryAttempts) := by
  refine ⟨nofun, nofun, nofun, fun _ _ _ _ hget => (nomatch hget), fun sessionId => ⟨nofun, ?_⟩⟩
  rintro ⟨number, runtime, hget, -⟩
  cases hget

theorem lifecycle_sound_iff (maxRecoveryAttempts : Nat) (events : List AppServerEvent) :
    RunMeets AppServer.step (fun server event => LifecycleSound server (server.step event)) (.new maxRecoveryAttempts)
        events ↔
      RunMeets AppServer.step (fun server event => server.LifecycleKept event) (.new maxRecoveryAttempts) events := by
  have hiff : ∀ server event, AllLifecycles server →
      (LifecycleSound server (server.step event) ↔ server.LifecycleKept event) := fun server event h =>
    ⟨fun hsound => h.kept hsound, fun hcond => (h.step hcond).2⟩
  have hkeeps : ∀ server event, AllLifecycles server → server.LifecycleKept event → AllLifecycles (server.step event) :=
    fun server event h hcond => (h.step hcond).1
  exact runMeets_iff_of_invariant hiff hkeeps (AllLifecycles.new maxRecoveryAttempts) events

/-! ## Runs that disturb -/

/-- The state of a runtime, what was recorded of it, and its workers. -/
def AppServer.place (server : AppServer) (number : Nat) : Option (SessionState × List SessionState × List Nat) :=
  (server.runtimes.get? number).map fun runtime => (runtime.state, runtime.recorded, runtime.live)

def AppServer.sessionOf (server : AppServer) (number : Nat) : Option JsString :=
  (server.runtimes.get? number).map SessionRuntime.sessionId

section Places

variable {server server' : AppServer} {number : Nat} {state : SessionState} {recorded : List SessionState} {live : List Nat}

theorem get?_of_place (h : server.place number = some (state, recorded, live)) :
    ∃ runtime, server.runtimes.get? number = some runtime ∧ runtime.state = state ∧ runtime.recorded = recorded ∧
      runtime.live = live := by
  obtain ⟨runtime, hget, hplace⟩ := Option.map_eq_some_iff.mp h
  simp only [Prod.mk.injEq] at hplace
  exact ⟨runtime, hget, hplace.1, hplace.2.1, hplace.2.2⟩

theorem LifecycleSound.state_of_place (h : LifecycleSound server server') {state' : SessionState}
    {recorded' : List SessionState} {live' : List Nat} (hplace : server.place number = some (state, recorded, live))
    (hterm : state.isTerminal = true) (hplace' : server'.place number = some (state', recorded', live')) :
    state' = state := by
  obtain ⟨runtime, hget, rfl, -⟩ := get?_of_place hplace
  obtain ⟨runtime', hget', rfl, -⟩ := get?_of_place hplace'
  obtain ⟨after, hafter, hsame, -⟩ := h.final number runtime hget hterm
  cases hget'.symm.trans hafter
  exact hsame

section

variable (h : LifecycleSound server server')
  (hplace : server'.place number = some (state, recorded, live))
include h hplace

theorem LifecycleSound.length_of_place : recorded.length ≤ 1 := by
  obtain ⟨runtime, hget, -, rfl, -⟩ := get?_of_place hplace
  have hrec := h.recorded number runtime hget
  split at hrec
  · rcases hrec with hrec | ⟨hrec, -⟩
    · exact hrec ▸ Nat.le_refl 1
    · exact hrec ▸ Nat.zero_le 1
  · exact hrec ▸ Nat.zero_le 1

theorem LifecycleSound.alone_of_place {number' worker worker' : Nat}
    {state' : SessionState} {recorded' : List SessionState} {live' : List Nat}
    (hplace' : server'.place number' = some (state', recorded', live'))
    (hsess : server'.sessionOf number = server'.sessionOf number') (hmem : worker ∈ live) (hmem' : worker' ∈ live') :
    number = number' := by
  obtain ⟨runtime, hget, -, -, rfl⟩ := get?_of_place hplace
  obtain ⟨runtime', hget', -, -, rfl⟩ := get?_of_place hplace'
  rw [AppServer.sessionOf, AppServer.sessionOf, hget, hget', Option.map_some, Option.map_some,
    Option.some.injEq] at hsess
  exact (h.oneWorker number number' runtime runtime' worker worker' hget hget' hsess hmem hmem').1

end

end Places

/-- The first launch fails after a stop. -/
def stopDuringSpawn : List AppServerEvent :=
  [.register (js "session"), .runtime 0 .launch, .runtime 0 .stop]

def stopDuringInspection : List AppServerEvent :=
  [.register (js "session"), .runtime 0 .launch, .runtime 0 .spawned, .runtime 0 (.ready 1), .runtime 0 (.exit 1),
    .runtime 0 .stop]

/-- The session is started again while the worker of the stopped runtime comes online. -/
def startDuringSpawn : List AppServerEvent :=
  [.register (js "session"), .runtime 0 .launch, .runtime 0 .stop, .runtime 0 .persisted, .register (js "session")]

def LifecycleRun (events : List AppServerEvent) : Prop :=
  RunMeets AppServer.step (fun server event => LifecycleSound server (server.step event)) (.new 3) events

theorem disturbed_runs :
    ¬ LifecycleRun (stopDuringSpawn ++ [.runtime 0 .spawnFailed]) ∧
      ¬ LifecycleRun (stopDuringInspection ++ [.runtime 0 (.inspected .succeeded)]) ∧
        ¬ LifecycleRun (startDuringSpawn ++ [.runtime 2 .launch]) := by
  refine ⟨fun h => ?_, fun h => ?_, fun h => ?_⟩
  · have hstopped : (runSteps AppServer.step (.new 3) stopDuringSpawn).place 0 = some (.stopped, [.stopped], [1]) := by
      decide +kernel
    have hfailed : ((runSteps AppServer.step (.new 3) stopDuringSpawn).step (.runtime 0 .spawnFailed)).place 0 =
        some (.failed, [.stopped], []) := by
      decide +kernel
    cases h.last.state_of_place hstopped rfl hfailed
  · have htwice : ((runSteps AppServer.step (.new 3) stopDuringInspection).step
        (.runtime 0 (.inspected .succeeded))).place 0 = some (.stopped, [.stopped, .stopped], []) := by
      decide +kernel
    exact absurd (h.last.length_of_place htwice) (by decide)
  · have hold : ((runSteps AppServer.step (.new 3) startDuringSpawn).step (.runtime 2 .launch)).place 0 =
        some (.stopped, [.stopped], [1]) := by
      decide +kernel
    have hnew : ((runSteps AppServer.step (.new 3) startDuringSpawn).step (.runtime 2 .launch)).place 2 =
        some (.starting, [], [3]) := by
      decide +kernel
    have hsame : ((runSteps AppServer.step (.new 3) startDuringSpawn).step (.runtime 2 .launch)).sessionOf 0 =
        ((runSteps AppServer.step (.new 3) startDuringSpawn).step (.runtime 2 .launch)).sessionOf 2 := by
      decide +kernel
    exact absurd (h.last.alone_of_place hold hnew hsame (List.mem_singleton_self 1) (List.mem_singleton_self 3)) (by decide)

end Beale.AppServer
