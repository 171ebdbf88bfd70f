import Beale.Storage.Manifest

/-!
# Registrations that overlap

`registerResearchStorageArtifact` reads the manifest, hashes the file of its artifact and puts a new
manifest in place of the one there is. Nothing keeps another process from doing the same between the
first and the last of these steps.

- `nothing_lost_iff`: a run loses no artifact exactly if all its registrations save fresh.
-/

namespace Beale.Storage

open Beale.Library

/-- How far a registration is. Together with the manifest it read stands what had been registered
by then. -/
inductive Phase where
  | idle
  | loaded (manifest known : List ManifestEntry) (size : Nat)
  | prepared (manifest known : List ManifestEntry) (entry : ManifestEntry)
  | done (entry : ManifestEntry)
  | failed (message : JsString)

/-- The manifest, the registrations that use it, and the entries they saved: the last one of each
id. -/
structure ArtifactDirectory (ρ : Type) where
  file : ManifestFile
  phase : ρ → Phase
  registered : List ManifestEntry

/-- What a registration does next, with what its surroundings answer. -/
inductive RegistrationAction where
  | load (stat : Except JsString FileStat)
  | hash (contentHash now : JsString)
  | save (now : JsString)

namespace ArtifactDirectory

variable {ρ : Type} [DecidableEq ρ]
variable (env : StoragePlatform) (input : ρ → RegisterResearchStorageArtifactInput)

/-- The directory before any registration. -/
def initial (file : ManifestFile) : ArtifactDirectory ρ := ⟨file, fun _ => .idle, []⟩

def enter (d : ArtifactDirectory ρ) (r : ρ) (phase : Phase) : ArtifactDirectory ρ :=
  { d with phase := fun r' => if r' = r then phase else d.phase r' }

def step (d : ArtifactDirectory ρ) (i : ρ × RegistrationAction) : ArtifactDirectory ρ :=
  match d.phase i.1, i.2 with
  | .idle, .load stat =>
    match checkArtifactPath env (input i.1).path stat with
    | .error message => d.enter i.1 (.failed message)
    | .ok size =>
      match loadResearchStorageManifest env d.file with
      | .error message => d.enter i.1 (.failed message)
      | .ok manifest => d.enter i.1 (.loaded manifest d.registered size)
  | .loaded manifest known size, .hash contentHash now =>
    d.enter i.1 (.prepared manifest known
      (registeredEntry env (input i.1) manifest size contentHash now))
  | .prepared manifest _ entry, .save now =>
    { d.enter i.1 (.done entry) with
      file := savedManifest env (registeredArtifacts manifest entry) now
      registered := registeredArtifacts d.registered entry }
  | _, _ => d

/-- The manifest has the entry, up to the slashes in its relative path. -/
def Listed (file : ManifestFile) (entry : ManifestEntry) : Prop :=
  ∃ listed : ManifestEntry, listed.json ∈ file.artifacts ∧ listed.portable = entry.portable

def NothingLost (d : ArtifactDirectory ρ) : Prop := ∀ entry ∈ d.registered, Listed d.file entry

/-- A list of entries has the entry, up to the slashes in its relative path. -/
def Has (manifest : List ManifestEntry) (entry : ManifestEntry) : Prop :=
  ∃ listed ∈ manifest, listed.portable = entry.portable

/-- What was registered since the registration read the manifest has the id of its own artifact, or
was in the manifest. -/
def SavesFresh (d : ArtifactDirectory ρ) (i : ρ × RegistrationAction) : Prop :=
  match d.phase i.1, i.2 with
  | .prepared manifest known entry, .save _ =>
    ∀ other ∈ d.registered, other ∉ known → other.id = entry.id ∨ Has manifest other
  | _, _ => True

/-- What runs without a loss keep: the manifests that were read have what was registered by then. -/
structure Sound (d : ArtifactDirectory ρ) : Prop where
  listed : NothingLost d
  loaded : ∀ r manifest known size, d.phase r = .loaded manifest known size →
    ∀ entry ∈ known, Has manifest entry
  prepared : ∀ r manifest known entry, d.phase r = .prepared manifest known entry →
    ∀ other ∈ known, Has manifest other

variable {env input}

omit [DecidableEq ρ] in
theorem sound_initial (file : ManifestFile) : Sound (initial file : ArtifactDirectory ρ) :=
  ⟨nofun, nofun, nofun⟩

theorem id_of_portable {a b : ManifestEntry} (h : a.portable = b.portable) : a.id = b.id :=
  congrArg (·.id) h

variable {manifest : List ManifestEntry} {entry : ManifestEntry} {other : ManifestEntry}

theorem mem_registeredArtifacts :
    other ∈ registeredArtifacts manifest entry ↔
      (other ∈ manifest ∧ other.id ≠ entry.id) ∨ other = entry := by
  rw [registeredArtifacts, List.mem_append, List.mem_filter, List.mem_singleton, decide_eq_true_eq]

theorem listed_saved {now : JsString} :
    Listed (savedManifest env (registeredArtifacts manifest entry) now) other ↔
      (other.id ≠ entry.id ∧ Has manifest other) ∨ other.portable = entry.portable := by
  constructor
  · rintro ⟨listed, hlisted, hsame⟩
    rcases mem_registeredArtifacts.mp (json_mem_savedManifest.mp hlisted) with ⟨hmem, hid⟩ | rfl
    · have hids : listed.id = other.id := id_of_portable hsame
      exact .inl ⟨hids ▸ hid, listed, hmem, hsame⟩
    · exact .inr hsame.symm
  · rintro (⟨hid, listed, hmem, hsame⟩ | hsame)
    · have hids : listed.id = other.id := id_of_portable hsame
      exact ⟨listed, json_mem_savedManifest.mpr (mem_registeredArtifacts.mpr (.inl ⟨hmem, hids ▸ hid⟩)),
        hsame⟩
    · exact ⟨entry, json_mem_savedManifest.mpr (mem_registeredArtifacts.mpr (.inr rfl)), hsame.symm⟩

omit [DecidableEq ρ] in
/-- A save loses nothing exactly if it is fresh. -/
theorem saved_nothingLost_iff {d : ArtifactDirectory ρ} {known : List ManifestEntry}
    {now : JsString} (hknown : ∀ other ∈ known, Has manifest other) :
    (∀ other ∈ registeredArtifacts d.registered entry,
        Listed (savedManifest env (registeredArtifacts manifest entry) now) other) ↔
      ∀ other ∈ d.registered, other ∉ known → other.id = entry.id ∨ Has manifest other := by
  constructor
  · intro hlost other hother _
    by_cases hid : other.id = entry.id
    · exact .inl hid
    · rcases listed_saved.mp (hlost other (mem_registeredArtifacts.mpr (.inl ⟨hother, hid⟩))) with
        ⟨-, hhas⟩ | hsame
      · exact .inr hhas
      · exact .inl (id_of_portable hsame)
  · intro hfresh other hother
    rcases mem_registeredArtifacts.mp hother with ⟨hmem, hid⟩ | rfl
    · refine listed_saved.mpr (.inl ⟨hid, ?_⟩)
      by_cases hbef : other ∈ known
      · exact hknown other hbef
      · exact (hfresh other hmem hbef).resolve_left hid
    · exact listed_saved.mpr (.inr rfl)

omit [DecidableEq ρ] in
theorem loaded_has {d : ArtifactDirectory ρ} (h : NothingLost d)
    (hload : loadResearchStorageManifest env d.file = .ok manifest) :
    ∀ entry ∈ d.registered, Has manifest entry := by
  intro entry hentry
  obtain ⟨listed, hlisted, hsame⟩ := h entry hentry
  exact ⟨listed.portable, load_mem hload hlisted, listed.portable_portable.trans hsame⟩

variable (env input)

theorem step_cases (d : ArtifactDirectory ρ) (i : ρ × RegistrationAction) :
    (∃ manifest known entry now, d.phase i.1 = .prepared manifest known entry ∧ i.2 = .save now ∧
      step env input d i =
        { d.enter i.1 (.done entry) with
          file := savedManifest env (registeredArtifacts manifest entry) now
          registered := registeredArtifacts d.registered entry }) ∨
    (SavesFresh d i ∧ (step env input d i).file = d.file ∧
      (step env input d i).registered = d.registered ∧ (Sound d → Sound (step env input d i)) ∧
      ∀ r entry, (step env input d i).phase r = .done entry → d.phase r = .done entry) := by
  obtain ⟨r, action⟩ := i
  -- a phase that is not the last one ends no registration
  have hopen {phase : Phase} (hphase : ∀ entry, phase ≠ .done entry) :
      ∀ r' entry, (d.enter r phase).phase r' = .done entry → d.phase r' = .done entry := by
    intro r' entry hdone
    by_cases hr : r' = r
    · exact absurd ((if_pos hr).symm.trans hdone) (hphase entry)
    · exact (if_neg hr).symm.trans hdone
  -- a phase that reads nothing new keeps what was read sound
  have hkeep {phase : Phase} (hloaded : ∀ manifest known size, phase = .loaded manifest known size →
        Sound d → ∀ entry ∈ known, Has manifest entry)
      (hprepared : ∀ manifest known entry, phase = .prepared manifest known entry →
        Sound d → ∀ other ∈ known, Has manifest other) (h : Sound d) : Sound (d.enter r phase) := by
    refine ⟨h.listed, fun r' manifest known size hphase => ?_, fun r' manifest known entry hphase => ?_⟩
    · by_cases hr : r' = r
      · exact hloaded manifest known size ((if_pos hr).symm.trans hphase) h
      · exact h.loaded r' manifest known size ((if_neg hr).symm.trans hphase)
    · by_cases hr : r' = r
      · exact hprepared manifest known entry ((if_pos hr).symm.trans hphase) h
      · exact h.prepared r' manifest known entry ((if_neg hr).symm.trans hphase)
  cases hphase : d.phase r with
  | idle =>
    cases action with
    | load stat =>
      right
      simp only [step, SavesFresh, hphase]
      cases checkArtifactPath env (input r).path stat with
      | error message => exact ⟨trivial, rfl, rfl, hkeep nofun nofun, hopen nofun⟩
      | ok size =>
        cases hload : loadResearchStorageManifest env d.file with
        | error message => exact ⟨trivial, rfl, rfl, hkeep nofun nofun, hopen nofun⟩
        | ok manifest =>
          refine ⟨trivial, rfl, rfl, hkeep (fun _ _ _ heq h => ?_) nofun, hopen nofun⟩
          cases heq
          exact loaded_has h.listed hload
    | hash contentHash now => exact .inr (by simp [step, SavesFresh, hphase])
    | save now => exact .inr (by simp [step, SavesFresh, hphase])
  | loaded manifest known size =>
    cases action with
    | load stat => exact .inr (by simp [step, SavesFresh, hphase])
    | hash contentHash now =>
      right
      simp only [step, SavesFresh, hphase]
      refine ⟨trivial, rfl, rfl, hkeep nofun (fun _ _ _ heq h => ?_), hopen nofun⟩
      cases heq
      exact h.loaded r _ _ _ hphase
    | save now => exact .inr (by simp [step, SavesFresh, hphase])
  | prepared manifest known entry =>
    cases action with
    | load stat => exact .inr (by simp [step, SavesFresh, hphase])
    | hash contentHash now => exact .inr (by simp [step, SavesFresh, hphase])
    | save now => exact .inl ⟨manifest, known, entry, now, rfl, rfl, by simp only [step, hphase]⟩
  | done entry => exact .inr (by simp [step, SavesFresh, hphase])
  | failed message => exact .inr (by simp [step, SavesFresh, hphase])

theorem step_nothingLost_iff {d : ArtifactDirectory ρ} (h : Sound d) (i : ρ × RegistrationAction) :
    NothingLost (step env input d i) ↔ SavesFresh d i := by
  rcases step_cases env input d i with
    ⟨manifest, known, entry, now, hphase, haction, hstep⟩ | ⟨hfresh, hfile, hreg, -⟩
  · rw [hstep]
    have hsaves : SavesFresh d i ↔
        ∀ other ∈ d.registered, other ∉ known → other.id = entry.id ∨ Has manifest other := by
      rw [SavesFresh, hphase, haction]
    rw [hsaves]
    exact saved_nothingLost_iff (h.prepared i.1 manifest known entry hphase)
  · refine iff_of_true ?_ hfresh
    rw [NothingLost, hfile, hreg]
    exact h.listed

theorem step_sound {d : ArtifactDirectory ρ} (h : Sound d) {i : ρ × RegistrationAction}
    (hfresh : SavesFresh d i) : Sound (step env input d i) := by
  have hlisted := (step_nothingLost_iff env input h i).mpr hfresh
  rcases step_cases env input d i with
    ⟨manifest, known, entry, now, hphase, haction, hstep⟩ | ⟨-, -, -, hsound, -⟩
  · rw [hstep] at hlisted ⊢
    refine ⟨hlisted, fun r' manifest' known' size hphase' => ?_, fun r' manifest' known' entry' hphase' => ?_⟩
    · by_cases hr : r' = i.1
      · cases (if_pos hr).symm.trans hphase'
      · exact h.loaded r' manifest' known' size ((if_neg hr).symm.trans hphase')
    · by_cases hr : r' = i.1
      · cases (if_pos hr).symm.trans hphase'
      · exact h.prepared r' manifest' known' entry' ((if_neg hr).symm.trans hphase')
  · exact hsound h

/-- In every interleaving of registrations, every artifact that was registered is in the manifest
after every step exactly if all saves are fresh. -/
theorem nothing_lost_iff (file : ManifestFile) (steps : List (ρ × RegistrationAction)) :
    RunMeets (step env input) (fun d i => NothingLost (step env input d i)) (initial file) steps ↔
      RunMeets (step env input) SavesFresh (initial file) steps :=
  runMeets_iff_of_invariant (I := Sound) (fun _ i h => step_nothingLost_iff env input h i)
    (fun _ _ h hfresh => step_sound env input h hfresh) (sound_initial file) steps

/-! ## Two registrations -/

/-- A layout whose paths are resolved already. -/
def plainStorage : StoragePlatform where
  rootPath := js "/data"
  manifestPath := js "/data/artifacts/manifest.json"
  resolve path := path
  relative root path := if (root ++ js "/").isPrefixOf path then path.drop (root.length + 1) else js ".."
  sep := 47
  fileUri path := js "file://" ++ path
  sha256 _ := []
  localeCompare a b := if a = b then 0 else if a < b then -1 else 1
  isNonNegative _ := false

/-- The registrations of two reports. -/
def reports (first : Bool) : RegisterResearchStorageArtifactInput where
  id := some (if first then js "report_a" else js "report_b")
  path := if first then js "/data/artifacts/a.md" else js "/data/artifacts/b.md"
  kind := js "report"
  purpose := none
  sourceEventIds := []
  createdAt := none

/-- Both registrations read the manifest before either saves. -/
def overlapping : List (Bool × RegistrationAction) :=
  let now := js "2026-07-01T00:00:00.000Z"
  [(true, .load (.ok ⟨true, 10⟩)), (false, .load (.ok ⟨true, 20⟩)),
    (true, .hash (js "sha256:aa") now), (true, .save now),
    (false, .hash (js "sha256:bb") now), (false, .save now)]

/-- Both reports are registered, and the manifest lists one. -/
theorem overlapping_loses :
    ((runSteps (step plainStorage reports) (initial .missing) overlapping).registered.map (·.id),
        (runSteps (step plainStorage reports) (initial .missing) overlapping).file.artifacts.map
          (Json.stringField? (js "id"))) =
      ([js "report_a", js "report_b"], [some (js "report_b")]) ∧
    ¬RunMeets (step plainStorage reports)
      (fun d i => NothingLost (step plainStorage reports d i)) (initial .missing) overlapping := by
  have hfinal : ((runSteps (step plainStorage reports) (initial .missing) overlapping).registered.map
      (·.id), (runSteps (step plainStorage reports) (initial .missing) overlapping).file.artifacts.map
        (Json.stringField? (js "id"))) =
      ([js "report_a", js "report_b"], [some (js "report_b")]) := by decide +kernel
  refine ⟨hfinal, fun hmeets => ?_⟩
  obtain ⟨hids, hlisted⟩ := Prod.mk.inj hfinal
  obtain ⟨-, -, -, -, -, hlost, -⟩ := hmeets
  have hfirst : js "report_a" ∈
      (runSteps (step plainStorage reports) (initial .missing) overlapping).registered.map (·.id) := by
    rw [hids]
    exact List.mem_cons_self
  obtain ⟨entry, hentry, hid⟩ := List.mem_map.mp hfirst
  obtain ⟨listed, hmem, hsame⟩ := hlost entry hentry
  have hfound := List.mem_map_of_mem (f := Json.stringField? (js "id")) hmem
  have hname : Json.stringField? (js "id") listed.json = some (js "report_a") := by
    rw [← hid, ← id_of_portable hsame]
    rfl
  rw [hname] at hfound
  exact absurd (hlisted ▸ hfound) (by decide)

end ArtifactDirectory

end Beale.Storage
