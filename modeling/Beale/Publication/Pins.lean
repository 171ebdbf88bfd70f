import Beale.Publication.Recovery

/-!
# Pinned evidence

A publication pins the evidence that research has cited. Between two publications anything
can happen to the files of the working tree.

- `step`: an edit, or a publication; one that fails changes nothing.
- `keeps_evidence_iff`: the files are kept just where every pinned file is unchanged when a
  publication goes on, or is a trusted edit that is not to be published.
-/

namespace Beale.Publication

open Beale.Library

variable {env : WorkspacePlatform}

/-- What happens to a workspace: a file is edited or removed, or a publication is called. -/
inductive WorkspaceStep where
  | edit (path : JsString) (file : Option Bytes)
  | publish (input : PublicationInput)

def step (ws : Workspace env) : WorkspaceStep → Workspace env
  | .edit path file => ws.put path file
  | .publish input => (publishWorkspaceFiles ws input).toOption.getD ws

/-- A file that was published, or is pinned, is not as it was published, and no edit of it is
trusted. -/
def UnexpectedEdit (ws : Workspace env) (input : PublicationInput) : Prop :=
  ∃ path hash, (ws.previousFiles.get? path = some hash ∨ ws.previousPins.get? path = some hash) ∧
    (ws.disk path).map env.sha256 ≠ some hash ∧
      ¬∃ bytes, ws.disk path = some bytes ∧ input.trustedEditedHashes path = some (env.sha256 bytes)

/-- What a publication is to make of the pinned evidence. -/
structure KeepsPins (ws : Workspace env) (input : PublicationInput) (final : Workspace env) : Prop where
  pinned : ∀ path hash, ws.previousPins.get? path = some hash → final.previousPins.get? path = some hash
  indexed : ∀ path hash other, ws.previousPins.get? path = some hash →
    final.previousFiles.get? path = some other → other = hash
  unchanged : ∀ path hash bytes, ws.previousPins.get? path = some hash → ws.disk path = some bytes →
    final.disk path = some bytes
  expected : ¬UnexpectedEdit ws input

/-- A publication that succeeds keeps the evidence, and had no unexpected edit before it. -/
def KeepsEvidence (ws : Workspace env) : WorkspaceStep → Prop
  | .edit _ _ => True
  | .publish input => ∀ pending, publicationPlan ws input = .ok (some pending) →
      KeepsPins ws input (runSteps Workspace.apply ws (publicationOperations ws pending))

/-- Every pinned file has its hash, or is a trusted edit that is not to be published. -/
def PinsIntact (ws : Workspace env) (input : PublicationInput) : Prop :=
  ∀ path hash, ws.previousPins.get? path = some hash →
    (ws.disk path).map env.sha256 = some hash ∨ input.files.get? path = none ∧
      ∃ bytes, ws.disk path = some bytes ∧ input.trustedEditedHashes path = some (env.sha256 bytes)

/-- The pinned files are intact when a publication passes its checks. -/
def PublishesIntactPins (ws : Workspace env) : WorkspaceStep → Prop
  | .edit _ _ => True
  | .publish input => (∃ pending, publicationPlan ws input = .ok (some pending)) → PinsIntact ws input

/-- The index is not pinned: pins are of evidence records. -/
def IndexUnpinned (ws : Workspace env) : Prop := ws.previousPins.get? indexPath = none

/-! ## What the operations change -/

section Operations

variable {ws : Workspace env} {input : PublicationInput} {pending : PendingPublication}

theorem mem_publicationOperations {operation : FileOperation} (h : operation ∈ publicationOperations ws pending) :
    operation = .journal pending ∨ operation ∈ exportOperations pending ∨
      (∃ path ∈ pending.removed ws.previousFiles, operation = .copy path ∨ operation = .note path ∨
        operation = .remove path) ∨
      operation = .index pending.index ∨ operation = .state pending.index ∨ operation = .drop := by
  rw [publicationOperations, finishWorkspacePublication, List.mem_cons, List.mem_append,
    List.mem_append] at h
  rcases h with rfl | (hexport | hremoval) | hlast
  · exact .inl rfl
  · exact .inr (.inl hexport)
  · obtain ⟨path, hpath, hmem⟩ := List.mem_flatMap.mp hremoval
    simp only [List.mem_cons, List.not_mem_nil, or_false] at hmem
    exact .inr (.inr (.inl ⟨path, hpath, hmem⟩))
  · simp only [List.mem_cons, List.not_mem_nil, or_false] at hlast
    exact .inr (.inr (.inr hlast))

theorem publication_of_operations (ws : Workspace env) (pending : PendingPublication) :
    (runSteps Workspace.apply ws (publicationOperations ws pending)).publication = some pending.index := by
  rw [publicationOperations, finishWorkspacePublication, runSteps_cons, runSteps_append]
  rfl

theorem previousPins_of_operations (h : Accepted ws input pending) (path : JsString) :
    (runSteps Workspace.apply ws (publicationOperations ws pending)).previousPins.get? path =
      (ws.previousPins.get? path).or (input.pins.get? path) := by
  rw [Workspace.previousPins, publication_of_operations, Option.map_some, Option.getD_some, h.pins,
    JsMap.get?_spread]

/-- A pinned file that is not published, or is as it is published, is not touched. -/
theorem disk_kept {path : JsString} (hindex : path ≠ indexPath)
    (hpinned : (pending.index.pins.get? path).isSome = true)
    (hfile : ∀ content, pending.files.get? path = some content → ws.Matches path content) :
    (runSteps Workspace.apply ws (publicationOperations ws pending)).disk path = ws.disk path := by
  refine runSteps_invariant_of_mem (I := fun other : Workspace env => other.disk path = ws.disk path)
    (fun operation hop other hother => ?_) rfl
  rcases mem_publicationOperations hop with rfl | hexport | ⟨removed, hrem, hop⟩ | rfl | rfl | rfl
  · exact hother
  · obtain ⟨target, content, hcont, rfl | rfl⟩ := mem_exportOperations.mp hexport
    · exact hother
    · by_cases htgt : path = target
      · subst htgt
        have hmatch : other.Matches path content := by
          rw [Workspace.Matches, hother]
          exact hfile content hcont
        rw [Workspace.apply, if_pos hmatch]
        exact hother
      · rw [disk_file_other htgt]
        exact hother
  · rcases hop with rfl | rfl | rfl
    · rw [copy_frame.2.1]
      exact hother
    · rw [note_frame.2.1]
      exact hother
    · -- a pinned path is not removed
      rw [Workspace.apply, Workspace.put_disk, if_neg]
      · exact hother
      · rintro rfl
        have hunpin := (List.mem_filter.mp hrem).2
        rw [Bool.and_eq_true, Option.isNone_iff_eq_none, Option.isNone_iff_eq_none] at hunpin
        rw [hunpin.2] at hpinned
        cases hpinned
  · rw [Workspace.apply, Workspace.put_disk, if_neg hindex]
    exact hother
  · exact hother
  · exact hother

theorem matches_published {path content : JsString} (hindex : path ≠ indexPath)
    (hfile : pending.files.get? path = some content) :
    (runSteps Workspace.apply ws (publicationOperations ws pending)).Matches path content := by
  refine runSteps_establishes (I := fun _ => True) (P := fun other : Workspace env => other.Matches path content)
    (i := .file path content) (fun other _ => matches_file other path content) ?_ (fun _ _ _ _ => trivial)
    (fun operation hop other _ hmatch => ?_) trivial
  · refine List.mem_cons_of_mem _ (List.mem_append_left _ (List.mem_append_left _ ?_))
    exact mem_exportOperations.mpr ⟨path, content, hfile, .inr rfl⟩
  · rcases mem_publicationOperations hop with rfl | hexport | ⟨removed, hrem, hop⟩ | rfl | rfl | rfl
    · exact hmatch
    · obtain ⟨target, content', htgt, rfl | rfl⟩ := mem_exportOperations.mp hexport
      · exact hmatch
      · exact matches_kept hfile htgt hmatch
    · rcases hop with rfl | rfl | rfl
      · rwa [Workspace.Matches, copy_frame.2.1]
      · rwa [Workspace.Matches, note_frame.2.1]
      · rw [Workspace.Matches, Workspace.apply, Workspace.put_disk, if_neg]
        · exact hmatch
        · rintro rfl
          have hunpublished := (List.mem_filter.mp hrem).2
          rw [Bool.and_eq_true, Option.isNone_iff_eq_none, hfile] at hunpublished
          cases hunpublished.1
    · rwa [Workspace.Matches, Workspace.apply, Workspace.put_disk, if_neg hindex]
    · exact hmatch
    · exact hmatch

end Operations

/-! ## What a publication keeps -/

section Keeping

variable {ws : Workspace env} {input : PublicationInput} {pending : PendingPublication}

theorem pinned_hash (h : Accepted ws input pending) {path hash content : JsString}
    (hpin : ws.previousPins.get? path = some hash) (hfile : pending.files.get? path = some content) :
    env.workspaceContentHash content = hash := by
  cases hinput : input.files.get? path with
  | none => exact nomatch hfile.symm.trans (h.files_none.mpr hinput)
  | some passed =>
    obtain ⟨published, hpub, hhash⟩ := h.files_some hinput
    obtain rfl := Option.some.inj (hfile.symm.trans hpub)
    rw [hhash, publishedHash, hpin, Option.getD_some]

theorem keepsPins_of_intact (h : Accepted ws input pending) (hunpin : IndexUnpinned ws)
    (hintact : PinsIntact ws input) :
    KeepsPins ws input (runSteps Workspace.apply ws (publicationOperations ws pending)) where
  pinned path hash hpin := by rw [previousPins_of_operations h, hpin, Option.some_or]
  indexed path hash other hpin hindexed := by
    rw [Workspace.previousFiles, publication_of_operations, Option.map_some, Option.getD_some,
      h.indexed_hash, Option.map_eq_some_iff] at hindexed
    obtain ⟨content, hfile, rfl⟩ := hindexed
    exact pinned_hash h hpin hfile
  unchanged path hash bytes hpin hdisk := by
    have hindex : path ≠ indexPath := by
      rintro rfl
      cases hpin.symm.trans hunpin
    rw [disk_kept hindex]
    · exact hdisk
    · rw [h.pins, JsMap.get?_spread, hpin]
      rfl
    · intro content hfile
      rcases hintact path hash hpin with hhash | ⟨hnone, -⟩
      · rw [Workspace.Matches, hhash, pinned_hash h hpin hfile]
      · cases hfile.symm.trans (h.files_none.mpr hnone)
  expected := by
    rintro ⟨path, hash, hpub | hpin, hother, huntrusted⟩
    · obtain ⟨bytes, hdisk, hhash⟩ := verifyPublished_ok.mp (h.verified path hash hpub)
      rcases hhash with hhash | ⟨-, htrust⟩
      · exact hother (by rw [hdisk, Option.map_some, hhash])
      · exact huntrusted ⟨bytes, hdisk, htrust⟩
    · rcases hintact path hash hpin with hhash | ⟨-, htrust⟩
      · exact hother hhash
      · exact huntrusted htrust

theorem intact_of_keepsPins (h : Accepted ws input pending) (hunpin : IndexUnpinned ws)
    (hkeeps : KeepsPins ws input (runSteps Workspace.apply ws (publicationOperations ws pending))) :
    PinsIntact ws input := by
  intro path hash hpin
  by_cases hhash : (ws.disk path).map env.sha256 = some hash
  · exact .inl hhash
  · refine .inr ?_
    have htrust : ∃ bytes, ws.disk path = some bytes ∧
        input.trustedEditedHashes path = some (env.sha256 bytes) := by
      by_contra huntrusted
      exact hkeeps.expected ⟨path, hash, .inr hpin, hhash, huntrusted⟩
    refine ⟨?_, htrust⟩
    obtain ⟨bytes, hdisk, -⟩ := htrust
    rw [← h.files_none]
    -- a published path would have been written over
    cases hfile : pending.files.get? path with
    | none => rfl
    | some content =>
      have hindex : path ≠ indexPath := by
        rintro rfl
        exact nomatch hpin.symm.trans hunpin
      have hmatch : (runSteps Workspace.apply ws (publicationOperations ws pending)).Matches path content :=
        matches_published hindex hfile
      rw [Workspace.Matches, hkeeps.unchanged path hash bytes hpin hdisk, pinned_hash h hpin hfile,
        ← hdisk] at hmatch
      exact absurd hmatch hhash

end Keeping

/-! ## Runs -/

variable {ws : Workspace env}

theorem step_publish {input : PublicationInput} :
    step ws (.publish input) = ws ∨ ∃ pending, publicationPlan ws input = .ok (some pending) ∧
      step ws (.publish input) = runSteps Workspace.apply ws (publicationOperations ws pending) := by
  rw [step, publishWorkspaceFiles]
  cases hplan : publicationPlan ws input with
  | error message => exact .inl rfl
  | ok plan =>
    cases plan with
    | none => exact .inl rfl
    | some pending => exact .inr ⟨pending, rfl, rfl⟩

theorem step_previousPins (i : WorkspaceStep) {path hash : JsString}
    (h : ws.previousPins.get? path = some hash) : (step ws i).previousPins.get? path = some hash := by
  cases i with
  | edit path file => exact h
  | publish input =>
    rcases @step_publish _ ws input with hsame | ⟨pending, hplan, hstep⟩
    · rwa [hsame]
    · rw [hstep, previousPins_of_operations (publicationPlan_ok.mp hplan), h, Option.some_or]

/-- **A pin is never lost or changed**, whatever is published. -/
theorem pins_kept {path hash : JsString} (h : ws.previousPins.get? path = some hash)
    (is : List WorkspaceStep) : (runSteps step ws is).previousPins.get? path = some hash :=
  runSteps_invariant (I := fun ws : Workspace env => ws.previousPins.get? path = some hash)
    (fun _ i hws => step_previousPins i hws) h is

theorem step_keeps_iff (hunpin : IndexUnpinned ws) (i : WorkspaceStep) :
    KeepsEvidence ws i ↔ PublishesIntactPins ws i := by
  cases i with
  | edit path file => exact Iff.rfl
  | publish input =>
    constructor
    · rintro hkeeps ⟨pending, hplan⟩
      exact intact_of_keepsPins (publicationPlan_ok.mp hplan) hunpin (hkeeps pending hplan)
    · intro hintact pending hplan
      exact keepsPins_of_intact (publicationPlan_ok.mp hplan) hunpin (hintact ⟨pending, hplan⟩)

def PinsEvidence (is : List WorkspaceStep) : Prop :=
  ∀ input, .publish input ∈ is → input.pins.get? indexPath = none

theorem step_unpinned {i : WorkspaceStep} (hunpin : IndexUnpinned ws)
    (hi : ∀ input, i = .publish input → input.pins.get? indexPath = none) : IndexUnpinned (step ws i) := by
  cases i with
  | edit path file => exact hunpin
  | publish input =>
    rcases @step_publish _ ws input with hsame | ⟨pending, hplan, hstep⟩
    · rwa [IndexUnpinned, hsame]
    · rw [IndexUnpinned, hstep, previousPins_of_operations (publicationPlan_ok.mp hplan), hunpin,
        Option.none_or]
      exact hi input rfl

/-- **Published evidence is immutable just where no pinned file is changed unseen**: in every run
of edits and publications every pin stays, and the publications keep the pinned files and fail on
unexpected edits if and only if, whenever one passes its checks, every pinned file has its hash
or is a trusted edit that is not to be published. -/
theorem keeps_evidence_iff {start : Workspace env} (hunpinned : IndexUnpinned start)
    {is : List WorkspaceStep} (hpins : PinsEvidence is) :
    (∀ path hash, start.previousPins.get? path = some hash →
      (runSteps step start is).previousPins.get? path = some hash) ∧
      (RunMeets step KeepsEvidence start is ↔ RunMeets step PublishesIntactPins start is) := by
  refine ⟨fun path hash h => pins_kept h is, ?_⟩
  induction is generalizing start with
  | nil => exact Iff.rfl
  | cons i is ih =>
    have hnext := step_unpinned hunpinned fun input hi => hpins input (hi ▸ List.mem_cons_self)
    exact and_congr (step_keeps_iff hunpinned i)
      (ih hnext fun input hinput => hpins input (List.mem_cons_of_mem _ hinput))

/-! ## Evidence that is no longer cited -/

def evidencePath : JsString := js "evidence/e.json"

def nothing : PublicationInput := ⟨.empty, .empty, .empty, fun _ => none⟩

/-- An evidence record is published and pinned. -/
def cited : PublicationInput :=
  { nothing with files := single evidencePath (js "a"), pins := single evidencePath (js "a") }

theorem cited_unpinned : cited.pins.get? indexPath = none := by decide

/-- The evidence is published, is not published again, and is edited. -/
def uncitedEvidence : List WorkspaceStep :=
  [.publish cited, .publish nothing, .edit evidencePath (some (plainPlatform.encode (js "b")))]

/-- The next publication goes on, and does not see the edit. -/
theorem uncited_edit_is_unseen : IndexUnpinned (unpublished []) ∧
    PinsEvidence (uncitedEvidence ++ [.publish nothing]) ∧
      ¬RunMeets step KeepsEvidence (unpublished []) (uncitedEvidence ++ [.publish nothing]) := by
  refine ⟨rfl, ?_, fun h => ?_⟩
  · intro input hinput
    simp only [uncitedEvidence, List.cons_append, List.nil_append, List.mem_cons, WorkspaceStep.publish.injEq,
      List.not_mem_nil, reduceCtorEq, or_false, false_or] at hinput
    rcases hinput with rfl | rfl | rfl
    · exact cited_unpinned
    · rfl
    · rfl
  · have hkeeps : KeepsEvidence (runSteps step (unpublished []) uncitedEvidence) (.publish nothing) :=
      RunMeets.last h
    have hplanned : (publicationPlan (runSteps step (unpublished []) uncitedEvidence)
        nothing).toOption.join.isSome = true := by decide +kernel
    obtain ⟨pending, hplan⟩ := exists_plan hplanned
    refine (hkeeps pending hplan).expected ⟨evidencePath, js "a", .inr ?_, ?_, ?_⟩
    · decide +kernel
    · decide +kernel
    · rintro ⟨bytes, -, htrusted⟩
      cases htrusted

theorem keeps_cited_evidence :
    RunMeets step KeepsEvidence (unpublished []) [.publish cited, .publish cited] := by
  have hunpinned : IndexUnpinned (unpublished []) := rfl
  have hpins : PinsEvidence [.publish cited, .publish cited] := by
    intro input hinput
    simp only [List.mem_cons, WorkspaceStep.publish.injEq, List.not_mem_nil, or_false, or_self] at hinput
    exact hinput ▸ cited_unpinned
  refine (keeps_evidence_iff hunpinned hpins).2.mpr ⟨fun _ path hash hpin => ?_, fun _ path hash hpin => ?_, trivial⟩
  · cases hpin
  · have hentries : (step (unpublished []) (.publish cited)).previousPins.entries = [(evidencePath, js "a")] := by
      decide +kernel
    have hmem := JsMap.mem_of_get? hpin
    rw [hentries, List.mem_singleton, Prod.mk.injEq] at hmem
    obtain ⟨rfl, rfl⟩ := hmem
    left
    decide +kernel

end Beale.Publication
