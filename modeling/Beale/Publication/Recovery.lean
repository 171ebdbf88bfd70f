import Beale.Publication.Publish

/-!
# A publication that a crash cuts off

A crash leaves what a prefix of the file operations has made of the workspace. The next
`recoverWorkspacePublication` reads the journal and repeats the operations; a crash can cut
it off again.

- `survives_crashes_iff`: recovery, and the publication again, succeed after every crash
  just where a published path holds what was published for it, or what is to be.
-/

namespace Beale.Publication

open Beale.Library
open Workspace
open Workspace

variable {env : WorkspacePlatform}

/-! ## Crashes -/

/-- What a crash after `k` operations of a publication leaves. -/
def crashedPublication (ws : Workspace env) (pending : PendingPublication) (k : Nat) : Workspace env :=
  runSteps Workspace.apply ws ((publicationOperations ws pending).take k)

/-- What a crash after `k` operations of a recovery leaves. -/
def crashedRecovery (ws : Workspace env) (k : Nat) : Workspace env :=
  match recoveryPlan ws with
  | .ok operations => runSteps Workspace.apply ws (operations.take k)
  | .error _ => ws

def crashed (ws : Workspace env) (pending : PendingPublication) (k : Nat) (ks : List Nat) : Workspace env :=
  runSteps crashedRecovery (crashedPublication ws pending k) ks

/-- What the callers of `publishWorkspaceFiles` see to: the index and the project are no research
files, and a new pin is the hash of the content that it pins. -/
structure HostInput (ws : Workspace env) (input : PublicationInput) : Prop where
  index : input.files.get? indexPath = none
  project : input.files.get? projectPath = none
  previousIndex : ws.previousFiles.get? indexPath = none
  previousProject : ws.previousFiles.get? projectPath = none
  pins : ∀ path hash content, input.pins.get? path = some hash → input.files.get? path = some content →
    ws.previousPins.get? path = none → env.workspaceContentHash content = hash

/-- The publication is complete: every indexed file is on disk and among the contents, and the
index is the one of the journal, with its text. -/
structure Workspace.Complete (ws : Workspace env) (pending : PendingPublication) : Prop where
  journal : ws.pending = none
  publication : ∃ index, ws.publication = some index ∧ ws.disk indexPath = some (env.encode index.text) ∧
    ∀ path, index.files.get? path = pending.index.files.get? path
  files : ∀ path hash, pending.index.files.get? path = some hash →
    (ws.disk path).map env.sha256 = some hash ∧ (ws.content.bytes hash).map env.sha256 = some hash

/-- What was removed, and what an editor wrote over a published file, has a recovery copy. -/
def KeepsEdits (start : Workspace env) (input : PublicationInput) (ws : Workspace env) : Prop :=
  ∀ path bytes, start.disk path = some bytes → path ≠ indexPath → ws.disk path ≠ some bytes →
    input.files.get? path = none ∨ start.previousFiles.get? path ≠ some (env.sha256 bytes) →
      ws.recovery.Holds bytes

/-- After every crash, recovery and the publication again succeed, complete it, and keep what was
edited. -/
def SurvivesCrashes (ws : Workspace env) (input : PublicationInput) (pending : PendingPublication) : Prop :=
  ∀ k ks, ∃ recovered final,
    recoverWorkspacePublication (crashed ws pending k ks) = .ok recovered ∧
      publishWorkspaceFiles recovered input = .ok final ∧ final.Complete pending ∧
        KeepsEdits ws input final

def publishedHash (ws : Workspace env) (path content : JsString) : JsString :=
  (ws.previousPins.get? path).getD (env.workspaceContentHash content)

/-- Every file at a published path is the one that was published, or has the hash of the one that
is to be. -/
def EditsArePublished (ws : Workspace env) (input : PublicationInput) : Prop :=
  ∀ path content bytes, input.files.get? path = some content → ws.disk path = some bytes →
    env.sha256 bytes = publishedHash ws path content ∨
      ws.previousFiles.get? path = some (env.sha256 bytes)

/-! ## What is published -/

namespace Accepted

variable {ws : Workspace env} {input : PublicationInput} {pending : PendingPublication}

theorem files_none (h : Accepted ws input pending) {path : JsString} :
    pending.files.get? path = none ↔ input.files.get? path = none := by
  have hspec := publishedFiles_spec h.files path
  cases hfile : input.files.get? path with
  | none => simpa [hfile] using hspec
  | some content =>
    rw [hfile] at hspec
    cases hpin : ws.previousPins.get? path with
    | none => simp [show pending.files.get? path = some content by simpa [hpin] using hspec]
    | some hash =>
      rw [hpin] at hspec
      obtain ⟨content', hcont', -⟩ := hspec
      simp [hcont']

theorem files_some (h : Accepted ws input pending) {path content : JsString}
    (hfile : input.files.get? path = some content) :
    ∃ published, pending.files.get? path = some published ∧
      env.workspaceContentHash published = publishedHash ws path content := by
  have hspec := publishedFiles_spec h.files path
  rw [hfile] at hspec
  cases hpin : ws.previousPins.get? path with
  | none =>
    rw [hpin] at hspec
    exact ⟨content, hspec, by rw [publishedHash, hpin]; rfl⟩
  | some hash =>
    rw [hpin] at hspec
    obtain ⟨published, hpub, hhash⟩ := hspec
    exact ⟨published, hpub, by rw [publishedHash, hpin]; exact hhash⟩

theorem indexed_hash (h : Accepted ws input pending) (path : JsString) :
    pending.index.files.get? path = (pending.files.get? path).map env.workspaceContentHash := by
  rw [h.hashes, get?_contentHashes]

end Accepted

/-! ## The operations -/

section Operations

variable {ws : Workspace env} {path content : JsString}

theorem matches_file (ws : Workspace env) (path content : JsString) :
    (ws.apply (.file path content)).Matches path content := by
  rw [apply]
  split
  · next h => exact h
  · show (if path = path then some (env.encode content) else ws.disk path).map env.sha256 = _
    rw [if_pos rfl]
    rfl

theorem disk_file_other {other : JsString} (h : other ≠ path) :
    (ws.apply (.file path content)).disk other = ws.disk other := by
  rw [apply]
  split
  · rfl
  · exact if_neg h

theorem file_frame : (ws.apply (.file path content)).content = ws.content ∧
    (ws.apply (.file path content)).recovery = ws.recovery ∧
    (ws.apply (.file path content)).publication = ws.publication ∧
    (ws.apply (.file path content)).pending = ws.pending := by
  rw [apply]
  split <;> exact ⟨rfl, rfl, rfl, rfl⟩

theorem copy_frame : (ws.apply (.copy path)).content = ws.content ∧
    (ws.apply (.copy path)).disk = ws.disk ∧
    (ws.apply (.copy path)).publication = ws.publication ∧
    (ws.apply (.copy path)).pending = ws.pending := by
  rw [apply]
  cases ws.disk path <;> exact ⟨rfl, rfl, rfl, rfl⟩

theorem recovery_copy {bytes : Bytes} (h : ws.recovery.Holds bytes) :
    (ws.apply (.copy path)).recovery.Holds bytes := by
  rw [apply]
  cases ws.disk path with
  | none => exact h
  | some other => exact h.keep other

theorem holds_copy {bytes : Bytes} (h : ws.disk path = some bytes) :
    (ws.apply (.copy path)).recovery.Holds bytes := by
  rw [apply, h]
  exact ws.recovery.holds_keep bytes

theorem note_frame : (ws.apply (.note path)).content = ws.content ∧
    (ws.apply (.note path)).disk = ws.disk ∧ (ws.apply (.note path)).recovery = ws.recovery ∧
    (ws.apply (.note path)).publication = ws.publication ∧
    (ws.apply (.note path)).pending = ws.pending := by
  rw [apply]
  cases ws.disk path <;> exact ⟨rfl, rfl, rfl, rfl, rfl⟩

end Operations

/-! ## The points of a publication -/

/-- Every content that is published is on disk and among the contents. -/
def Exported (pending : PendingPublication) (ws : Workspace env) : Prop :=
  ∀ path content, pending.files.get? path = some content → ws.Matches path content ∧
    ∃ text, ws.content.bytes (env.workspaceContentHash content) = some (env.encode text)

/-- What is on disk and in the recovery store, at any point of a publication. -/
structure Files (start : Workspace env) (pending : PendingPublication) (ws : Workspace env) : Prop where
  exported : ∀ path content, pending.files.get? path = some content →
    ws.disk path = start.disk path ∨ ws.Matches path content ∧ ¬start.Matches path content
  others : ∀ path, pending.files.get? path = none → path ≠ indexPath →
    ws.disk path = start.disk path ∨ ws.disk path = none ∧ (start.previousFiles.get? path).isSome = true
  kept : ∀ path bytes, start.disk path = some bytes → pending.files.get? path = none → path ≠ indexPath →
    ws.disk path = some bytes ∨ ws.recovery.Holds bytes
  recovery : ∀ bytes, start.recovery.Holds bytes → ws.recovery.Holds bytes

/-- A point of a publication before its last operation. -/
structure Midway (start : Workspace env) (pending : PendingPublication) (ws : Workspace env) : Prop
    extends Files start pending ws where
  journal : ws.pending = some pending
  publication : ws.publication = start.publication ∨ ws.publication = some pending.index ∧ Exported pending ws

structure Done (start : Workspace env) (pending : PendingPublication) (ws : Workspace env) : Prop
    extends Files start pending ws where
  journal : ws.pending = none
  publication : ws.publication = some pending.index
  text : ws.disk indexPath = some (env.encode pending.index.text)
  complete : Exported pending ws

section Points

variable {start ws : Workspace env} {pending : PendingPublication}

theorem Files.refl (ws : Workspace env) (pending : PendingPublication) : Files ws pending ws where
  exported _ _ _ := .inl rfl
  others _ _ _ := .inl rfl
  kept _ _ h _ _ := .inl h
  recovery _ h := h

theorem Files.congr {ws' : Workspace env} (h : Files start pending ws) (hdisk : ws'.disk = ws.disk)
    (hrecovery : ws'.recovery = ws.recovery) : Files start pending ws' where
  exported path content hfile := by
    rw [Workspace.Matches, hdisk]
    exact h.exported path content hfile
  others path hfile hindex := by
    rw [hdisk]
    exact h.others path hfile hindex
  kept path bytes hbytes hfile hindex := by
    rw [hdisk, hrecovery]
    exact h.kept path bytes hbytes hfile hindex
  recovery bytes hbytes := by
    rw [hrecovery]
    exact h.recovery bytes hbytes

variable {path : JsString}

section

variable (h : Files start pending ws)
include h

theorem Files.file {content : JsString} (hfile : pending.files.get? path = some content) :
    Files start pending (ws.apply (.file path content)) where
  exported other content' hother := by
    by_cases hpath : other = path
    · subst hpath
      obtain rfl : content' = content := Option.some.inj (hother.symm.trans hfile)
      by_cases hmatch : ws.Matches other content'
      · rw [apply, if_pos hmatch]
        exact h.exported other content' hother
      · refine .inr ⟨matches_file ws other content', ?_⟩
        rcases h.exported other content' hother with hsame | hmatched
        · rwa [Workspace.Matches, hsame] at hmatch
        · exact absurd hmatched.1 hmatch
    · rw [Workspace.Matches, disk_file_other hpath]
      exact h.exported other content' hother
  others other hother hindex := by
    rw [disk_file_other (by rintro rfl; rw [hfile] at hother; cases hother)]
    exact h.others other hother hindex
  kept other bytes hbytes hother hindex := by
    rw [disk_file_other (by rintro rfl; rw [hfile] at hother; cases hother), file_frame.2.1]
    exact h.kept other bytes hbytes hother hindex
  recovery bytes hbytes := by
    rw [file_frame.2.1]
    exact h.recovery bytes hbytes

theorem Files.copy (path : JsString) : Files start pending (ws.apply (.copy path)) where
  exported other content hother := by
    rw [Workspace.Matches, copy_frame.2.1]
    exact h.exported other content hother
  others other hother hindex := by
    rw [copy_frame.2.1]
    exact h.others other hother hindex
  kept other bytes hbytes hother hindex := by
    rw [copy_frame.2.1]
    exact (h.kept other bytes hbytes hother hindex).imp_right recovery_copy
  recovery bytes hbytes := recovery_copy (h.recovery bytes hbytes)

/-- A file is removed after it was copied. -/
theorem Files.remove
    (hfile : pending.files.get? path = none) (hprev : (start.previousFiles.get? path).isSome = true)
    (hcopied : ∀ bytes, ws.disk path = some bytes → ws.recovery.Holds bytes) :
    Files start pending (ws.apply (.remove path)) where
  exported other content hother := by
    rw [Workspace.Matches, apply, put_disk,
      if_neg (by rintro rfl; rw [hfile] at hother; cases hother)]
    exact h.exported other content hother
  others other hother hindex := by
    rw [apply, put_disk]
    split
    · next hpath => exact .inr ⟨rfl, hpath ▸ hprev⟩
    · exact h.others other hother hindex
  kept other bytes hbytes hother hindex := by
    rw [apply, put_disk]
    rcases h.kept other bytes hbytes hother hindex with hdisk | hholds
    · split
      · next hpath => exact .inr (hcopied bytes (hpath ▸ hdisk))
      · exact .inl hdisk
    · exact .inr hholds
  recovery bytes hbytes := h.recovery bytes hbytes

theorem Files.index (hindex : pending.files.get? indexPath = none)
    (index : WorkspaceResearchIndex) : Files start pending (ws.apply (.index index)) where
  exported other content hother := by
    rw [Workspace.Matches, apply, put_disk,
      if_neg (by rintro rfl; rw [hindex] at hother; cases hother)]
    exact h.exported other content hother
  others other hother hother' := by
    rw [apply, put_disk, if_neg hother']
    exact h.others other hother hother'
  kept other bytes hbytes hother hother' := by
    rw [apply, put_disk, if_neg hother']
    exact h.kept other bytes hbytes hother hother'
  recovery bytes hbytes := h.recovery bytes hbytes

end

/-! ## What the operations keep of the exports -/

theorem Exported.congr {ws' : Workspace env} (h : Exported pending ws)
    (hdisk : ∀ path, (pending.files.get? path).isSome = true → ws'.disk path = ws.disk path)
    (hcont : ws'.content = ws.content) : Exported pending ws' := by
  intro path content hfile
  rw [Workspace.Matches, hdisk path (by rw [hfile]; rfl), hcont]
  exact h path content hfile

/-- A published content that is on disk stays there while others are written. -/
theorem matches_kept {content other content' : JsString} (hfile : pending.files.get? path = some content)
    (hother : pending.files.get? other = some content') (h : ws.Matches path content) :
    (ws.apply (.file other content')).Matches path content := by
  by_cases hpath : path = other
  · subst hpath
    obtain rfl : content' = content := Option.some.inj (hother.symm.trans hfile)
    exact matches_file ws path content'
  · rwa [Workspace.Matches, disk_file_other hpath]

theorem text_kept {hash other : JsString}
    (h : ∃ text, ws.content.bytes hash = some (env.encode text)) :
    ∃ text, (ws.apply (.content other)).content.bytes hash = some (env.encode text) := by
  show ∃ text, (ws.content.write (env.encode other)).bytes hash = _
  rw [ContentStore.write_bytes]
  split
  · exact ⟨other, rfl⟩
  · exact h

/-- The operations that write the contents. -/
def exportOperations (pending : PendingPublication) : List FileOperation :=
  pending.files.entries.flatMap fun e => [.content e.2, .file e.1 e.2]

variable {operation : FileOperation}

theorem mem_exportOperations : operation ∈ exportOperations pending ↔
    ∃ path content, pending.files.get? path = some content ∧
      (operation = .content content ∨ operation = .file path content) := by
  rw [exportOperations, List.mem_flatMap]
  constructor
  · rintro ⟨e, he, hmem⟩
    rw [List.mem_cons, List.mem_singleton] at hmem
    exact ⟨e.1, e.2, JsMap.get?_of_mem he, hmem⟩
  · rintro ⟨path, content, hfile, hop⟩
    refine ⟨(path, content), JsMap.mem_of_get? hfile, ?_⟩
    rwa [List.mem_cons, List.mem_singleton]

theorem Exported.export (h : Exported pending ws)
    (hop : operation ∈ exportOperations pending) : Exported pending (ws.apply operation) := by
  obtain ⟨other, content', hother, rfl | rfl⟩ := mem_exportOperations.mp hop
  · exact fun path content hfile => ⟨(h path content hfile).1, text_kept (h path content hfile).2⟩
  · intro path content hfile
    rw [file_frame.1]
    exact ⟨matches_kept hfile hother (h path content hfile).1, (h path content hfile).2⟩

section

variable (h : Midway start pending ws)
include h

theorem Midway.export
    (hop : operation ∈ exportOperations pending) : Midway start pending (ws.apply operation) where
  toFiles := by
    obtain ⟨path, content, hfile, rfl | rfl⟩ := mem_exportOperations.mp hop
    · exact h.toFiles.congr rfl rfl
    · exact h.toFiles.file hfile
  journal := by
    obtain ⟨path, content, hfile, rfl | rfl⟩ := mem_exportOperations.mp hop
    · exact h.journal
    · exact file_frame.2.2.2.trans h.journal
  publication := by
    have hsame : (ws.apply operation).publication = ws.publication := by
      obtain ⟨path, content, hfile, rfl | rfl⟩ := mem_exportOperations.mp hop
      · rfl
      · exact file_frame.2.2.1
    rw [hsame]
    exact h.publication.imp_right fun hpub => ⟨hpub.1, hpub.2.export hop⟩

/-- After the contents are written, they are all there. -/
theorem exported_exports : Exported pending (runSteps apply ws (exportOperations pending)) := by
  intro path content hfile
  have hinv : ∀ operation ∈ exportOperations pending, ∀ ws : Workspace env, Midway start pending ws →
      Midway start pending (ws.apply operation) := fun operation hop ws hws => hws.export hop
  constructor
  · refine runSteps_establishes (P := fun ws : Workspace env => ws.Matches path content)
      (i := .file path content) (fun ws _ => matches_file ws path content)
      (mem_exportOperations.mpr ⟨path, content, hfile, .inr rfl⟩) hinv ?_ h
    intro operation hop ws _ hmatch
    obtain ⟨other, content', hother, rfl | rfl⟩ := mem_exportOperations.mp hop
    · exact hmatch
    · exact matches_kept hfile hother hmatch
  · refine runSteps_establishes (P := fun ws : Workspace env => ∃ text,
        ws.content.bytes (env.workspaceContentHash content) = some (env.encode text))
      (i := .content content) (fun ws _ => ⟨content, ?_⟩)
      (mem_exportOperations.mpr ⟨path, content, hfile, .inl rfl⟩) hinv ?_ h
    · show (ws.content.write (env.encode content)).bytes _ = _
      exact if_pos rfl
    · intro operation hop ws _ htext
      obtain ⟨other, content', hother, rfl | rfl⟩ := mem_exportOperations.mp hop
      · exact text_kept htext
      · rwa [file_frame.1]

theorem Midway.removal (hexported : Exported pending ws)
    (hfile : pending.files.get? path = none) (hprev : (start.previousFiles.get? path).isSome = true)
    (k : Nat) : Midway start pending (runSteps apply ws
      (([.copy path, .note path, .remove path] : List FileOperation).take k)) ∧
      Exported pending (runSteps apply ws
        (([.copy path, .note path, .remove path] : List FileOperation).take k)) := by
  have hcopy : Midway start pending (ws.apply (.copy path)) ∧ Exported pending (ws.apply (.copy path)) := by
    have hcopied : Exported pending (ws.apply (.copy path)) :=
      hexported.congr (fun _ _ => by rw [copy_frame.2.1]) copy_frame.1
    refine ⟨⟨h.toFiles.copy path, copy_frame.2.2.2.trans h.journal, ?_⟩, hcopied⟩
    rw [copy_frame.2.2.1]
    exact h.publication.imp_right fun hpub => ⟨hpub.1, hcopied⟩
  have hnote : Midway start pending ((ws.apply (.copy path)).apply (.note path)) ∧
      Exported pending ((ws.apply (.copy path)).apply (.note path)) := by
    have hnoted : Exported pending ((ws.apply (.copy path)).apply (.note path)) :=
      hcopy.2.congr (fun _ _ => by rw [note_frame.2.1]) note_frame.1
    refine ⟨⟨hcopy.1.toFiles.congr note_frame.2.1 note_frame.2.2.1,
      note_frame.2.2.2.2.trans hcopy.1.journal, ?_⟩, hnoted⟩
    rw [note_frame.2.2.2.1]
    exact hcopy.1.publication.imp_right fun hpub => ⟨hpub.1, hnoted⟩
  match k with
  | 0 => exact ⟨h, hexported⟩
  | 1 => exact hcopy
  | 2 => exact hnote
  | k + 3 =>
    have hrem : Exported pending (((ws.apply (.copy path)).apply (.note path)).apply (.remove path)) := by
      refine hnote.2.congr (fun other hother => if_neg ?_) rfl
      rintro rfl
      rw [hfile] at hother
      cases hother
    -- the copy was made of the bytes that are still there
    have hcopied : ∀ bytes, ((ws.apply (.copy path)).apply (.note path)).disk path = some bytes →
        ((ws.apply (.copy path)).apply (.note path)).recovery.Holds bytes := by
      intro bytes hbytes
      rw [note_frame.2.1, copy_frame.2.1] at hbytes
      rw [note_frame.2.2.1]
      exact holds_copy hbytes
    have hmidway : Midway start pending (((ws.apply (.copy path)).apply (.note path)).apply (.remove path)) :=
      ⟨hnote.1.toFiles.remove hfile hprev hcopied, hnote.1.journal,
        hnote.1.publication.imp_right fun hpub => ⟨hpub.1, hrem⟩⟩
    rw [List.take_of_length_le (by simp)]
    exact ⟨hmidway, hrem⟩

theorem Midway.indexed (hexported : Exported pending ws)
    (hindex : pending.files.get? indexPath = none) :
    Midway start pending (ws.apply (.index pending.index)) ∧
      Exported pending (ws.apply (.index pending.index)) := by
  have hkept : Exported pending (ws.apply (.index pending.index)) := by
    refine hexported.congr (fun other hother => if_neg ?_) rfl
    rintro rfl
    rw [hindex] at hother
    cases hother
  exact ⟨⟨h.toFiles.index hindex pending.index, h.journal,
    h.publication.imp_right fun hpub => ⟨hpub.1, hkept⟩⟩, hkept⟩

theorem Midway.stated (hexported : Exported pending ws) :
    Midway start pending (ws.apply (.state pending.index)) :=
  ⟨h.toFiles.congr rfl rfl, h.journal, .inr ⟨rfl, hexported⟩⟩

end

/-- The previous publication as a run of the operations reads it: the one before, or the new one. -/
def Previous (start : Workspace env) (pending : PendingPublication) (previous : JsMap JsString JsString) : Prop :=
  previous = start.previousFiles ∨
    ∀ path, (previous.get? path).isSome = true → (pending.files.get? path).isSome = true

variable {previous : JsMap JsString JsString}

theorem mem_removed (hprev : Previous start pending previous)
    (h : path ∈ pending.removed previous) :
    pending.files.get? path = none ∧ (start.previousFiles.get? path).isSome = true := by
  obtain ⟨hkey, hfile⟩ := List.mem_filter.mp h
  rw [Bool.and_eq_true, Option.isNone_iff_eq_none] at hfile
  have hsome : (previous.get? path).isSome = true := by
    rw [Option.isSome_iff_ne_none, ne_eq, JsMap.get?_eq_none, not_not]
    exact hkey
  rcases hprev with rfl | hpub
  · exact ⟨hfile.1, hsome⟩
  · have hfiles := hpub path hsome
    rw [hfile.1] at hfiles
    cases hfiles

section

variable (h : Midway start pending ws) (hindex : pending.files.get? indexPath = none)
  (hprev : Previous start pending previous)
include h hindex hprev

/-- At every point of the operations, the publication is under way or done. -/
theorem finish_point (k : Nat) :
    Midway start pending (runSteps apply ws ((finishWorkspacePublication pending previous).take k)) ∨
      Done start pending (runSteps apply ws ((finishWorkspacePublication pending previous).take k)) := by
  have hexports := exported_exports h
  have hmidway : Midway start pending (runSteps apply ws (exportOperations pending)) :=
    runSteps_invariant_of_mem (fun operation hop ws hws => hws.export hop) h
  rw [finishWorkspacePublication, List.append_assoc]
  rcases runSteps_take_append apply ws (exportOperations pending) _ k with ⟨heq, -⟩ | heq
  · -- while the contents are written
    refine .inl (heq ▸ ?_)
    exact runSteps_invariant_of_mem (fun operation hop ws hws => hws.export (List.mem_of_mem_take hop)) h
  · have hremovals : ∀ j, Midway start pending _ ∧ Exported pending _ :=
      runSteps_take_flatMap (I := fun ws : Workspace env => Midway start pending ws ∧ Exported pending ws)
        (l := pending.removed previous)
        (f := fun path => ([.copy path, .note path, .remove path] : List FileOperation))
        (fun path hpath ws j hws => hws.1.removal hws.2 (mem_removed hprev hpath).1
          (mem_removed hprev hpath).2 j)
        ⟨hmidway, hexports⟩
    refine heq ▸ ?_
    rcases runSteps_take_append apply (runSteps apply ws (exportOperations pending))
      ((pending.removed previous).flatMap fun path => [.copy path, .note path, .remove path])
      [.index pending.index, .state pending.index, .drop] (k - (exportOperations pending).length)
      with ⟨hremoval, -⟩ | hremoval
    · -- while files are removed
      exact .inl (hremoval ▸ (hremovals _).1)
    · -- while the index is written
      have hall := hremovals ((pending.removed previous).flatMap fun path =>
        ([.copy path, .note path, .remove path] : List FileOperation)).length
      rw [List.take_length] at hall
      refine hremoval ▸ ?_
      generalize runSteps apply (runSteps apply ws (exportOperations pending)) _ = last at hall ⊢
      obtain ⟨hindexed, hkept⟩ := hall.1.indexed hall.2 hindex
      have hstated := hindexed.stated hkept
      match (k - (exportOperations pending).length - _ : Nat) with
      | 0 => exact .inl hall.1
      | 1 => exact .inl hindexed
      | 2 => exact .inl hstated
      | j + 3 =>
        rw [List.take_of_length_le (by simp)]
        have htext : (last.put indexPath (some (env.encode pending.index.text))).disk indexPath
            = some (env.encode pending.index.text) := by rw [put_disk, if_pos rfl]
        exact .inr ⟨hstated.toFiles.congr rfl rfl, rfl, rfl, htext, hkept⟩

theorem finish_done :
    Done start pending (runSteps apply ws (finishWorkspacePublication pending previous)) := by
  have hpoint := finish_point h hindex hprev (finishWorkspacePublication pending previous).length
  rw [List.take_length] at hpoint
  refine hpoint.resolve_left fun hmidway => ?_
  -- the last operation has removed the journal
  have hlast : (runSteps apply ws (finishWorkspacePublication pending previous)).pending = none := by
    rw [finishWorkspacePublication, show ([.index pending.index, .state pending.index, .drop] :
      List FileOperation) = [.index pending.index, .state pending.index] ++ [.drop] from rfl,
      ← List.append_assoc, runSteps_append]
    rfl
  exact nomatch hlast.symm.trans hmidway.journal

end

end Points

/-! ## Recovering -/

section Recovering

variable {start ws : Workspace env} {input : PublicationInput} {pending : PendingPublication}

theorem journal_midway (start : Workspace env) (pending : PendingPublication) :
    Midway start pending (start.apply (.journal pending)) :=
  ⟨(Files.refl start pending).congr rfl rfl, rfl, .inl rfl⟩

theorem publicationOperations_done (h : Accepted start input pending) (hhost : HostInput start input) :
    Done start pending (runSteps apply start (publicationOperations start pending)) :=
  finish_done (journal_midway start pending) (h.files_none.mpr hhost.index) (.inl rfl)

theorem crashedPublication_point (h : Accepted start input pending) (hhost : HostInput start input) (k : Nat) :
    crashedPublication start pending k = start ∨ Midway start pending (crashedPublication start pending k) ∨
      Done start pending (crashedPublication start pending k) := by
  cases k with
  | zero => exact .inl rfl
  | succ k => exact .inr (finish_point (journal_midway start pending) (h.files_none.mpr hhost.index)
      (.inl rfl) k)

variable {path content : JsString}

theorem checkPending_ok : checkPending ws (path, content) = .ok () ↔
    ∀ bytes, ws.disk path = some bytes → env.sha256 bytes = env.workspaceContentHash content ∨
      ws.previousFiles.get? path = some (env.sha256 bytes) := by
  rw [checkPending]
  cases hdisk : ws.disk path with
  | none => simp
  | some bytes =>
    by_cases hsame : env.sha256 bytes = env.workspaceContentHash content
    · simp [hsame]
    · by_cases hprev : ws.previousFiles.get? path = some (env.sha256 bytes)
      · simp [hprev]
      · simp [hsame, hprev, Ne.symm hprev]

variable {files : JsMap JsString JsString}

theorem checkRemoved_ok {hash : JsString} :
    checkRemoved ws files (path, hash) = .ok () ↔
      (files.get? path = none → ∀ bytes, ws.disk path = some bytes → env.sha256 bytes = hash) := by
  rw [checkRemoved]
  cases hfile : files.get? path with
  | some content => simp
  | none =>
    cases hdisk : ws.disk path with
    | none => simp
    | some bytes => simp

theorem recoveryPlan_ok {operations : List FileOperation} (hjournal : ws.pending = some pending) :
    recoveryPlan ws = .ok operations ↔
      (∀ path content, pending.files.get? path = some content → checkPending ws (path, content) = .ok ()) ∧
      (∀ path hash, ws.previousFiles.get? path = some hash →
        checkRemoved ws pending.files (path, hash) = .ok ()) ∧
      operations = finishWorkspacePublication pending ws.previousFiles := by
  rw [recoveryPlan, hjournal]
  show (_ >>= fun _ => _ >>= fun _ => _) = _ ↔ _
  rw [Client.exceptThen_ok, Client.exceptThen_ok, Client.exceptForM_ok, Client.exceptForM_ok]
  refine and_congr ⟨fun h path content hget => h _ (JsMap.mem_of_get? hget),
    fun h e he => h e.1 e.2 (JsMap.get?_of_mem he)⟩ (and_congr ⟨fun h path hash hget =>
    h _ (JsMap.mem_of_get? hget), fun h e he => h e.1 e.2 (JsMap.get?_of_mem he)⟩ ?_)
  exact ⟨fun h => (Except.ok.inj h).symm, fun h => h ▸ rfl⟩

theorem EditsArePublished.toPending (hedits : EditsArePublished start input) (h : Accepted start input pending)
    {bytes : Bytes} (hfile : pending.files.get? path = some content)
    (hdisk : start.disk path = some bytes) : env.sha256 bytes = env.workspaceContentHash content ∨
      start.previousFiles.get? path = some (env.sha256 bytes) := by
  cases hinput : input.files.get? path with
  | none => exact nomatch hfile.symm.trans (h.files_none.mpr hinput)
  | some passed =>
    obtain ⟨published, hpub, hhash⟩ := h.files_some hinput
    obtain rfl : content = published := Option.some.inj (hfile.symm.trans hpub)
    rw [hhash]
    exact hedits path passed bytes hinput hdisk

theorem Midway.previous (h : Midway start pending ws) (hacc : Accepted start input pending) :
    Previous start pending ws.previousFiles := by
  rcases h.publication with hsame | ⟨hpub, -⟩
  · exact .inl (by rw [previousFiles, hsame, previousFiles])
  · refine .inr fun path hsome => ?_
    rw [previousFiles, hpub] at hsome
    show (pending.files.get? path).isSome = true
    rwa [Option.map_some, Option.getD_some, hacc.indexed_hash, Option.isSome_map] at hsome

/-- **A recovery goes on at every point**, where the edits are published. -/
theorem Midway.recovers (h : Midway start pending ws) (hacc : Accepted start input pending)
    (hhost : HostInput start input) (hedits : EditsArePublished start input) :
    recoveryPlan ws = .ok (finishWorkspacePublication pending ws.previousFiles) := by
  refine (recoveryPlan_ok h.journal).mpr ⟨fun path content hfile => ?_, fun path hash hprev => ?_, rfl⟩
  · rw [checkPending_ok]
    intro bytes hdisk
    rcases h.publication with hsame | ⟨-, hexported⟩
    · rcases h.exported path content hfile with hstart | ⟨hmatch, -⟩
      · have hprev := hedits.toPending hacc hfile (hstart ▸ hdisk)
        rwa [previousFiles, hsame]
      · rw [Workspace.Matches, hdisk, Option.map_some, Option.some.injEq] at hmatch
        exact .inl hmatch
    · have hmatch := (hexported path content hfile).1
      rw [Workspace.Matches, hdisk, Option.map_some, Option.some.injEq] at hmatch
      exact .inl hmatch
  · rw [checkRemoved_ok]
    intro hfile bytes hdisk
    rcases h.publication with hsame | ⟨hpub, -⟩
    · have hstart : start.previousFiles.get? path = some hash := by
        rwa [previousFiles, hsame] at hprev
      have hindex : path ≠ indexPath := by
        rintro rfl
        exact nomatch hstart.symm.trans hhost.previousIndex
      -- a file that is still there is the one that the publication has verified
      obtain ⟨verified, hverif, hhash⟩ := verifyPublished_ok.mp (hacc.verified path hash hstart)
      rcases h.others path hfile hindex with hsame | ⟨hnone, -⟩
      · obtain rfl : verified = bytes := Option.some.inj (hverif.symm.trans (hsame.symm.trans hdisk))
        refine hhash.resolve_right fun htrust => ?_
        rw [hfile] at htrust
        cases htrust.1
      · exact nomatch hdisk.symm.trans hnone
    · rw [previousFiles, hpub, Option.map_some, Option.getD_some, hacc.indexed_hash, hfile] at hprev
      cases hprev

section

variable (hacc : Accepted start input pending) (hhost : HostInput start input)
  (hnone : start.pending = none) (hedits : EditsArePublished start input) (k : Nat) (ks : List Nat)
include hacc hhost hnone hedits k ks

theorem crashed_point :
    crashed start pending k ks = start ∨ Midway start pending (crashed start pending k ks) ∨
      Done start pending (crashed start pending k ks) := by
  refine runSteps_invariant (I := fun ws => ws = start ∨ Midway start pending ws ∨ Done start pending ws)
    (fun ws j hws => ?_) (crashedPublication_point hacc hhost k) ks
  rcases hws with rfl | hmidway | hdone
  · refine .inl ?_
    rw [crashedRecovery, recoveryPlan, hnone]
    exact congrArg (runSteps _ _) List.take_nil
  · refine .inr ?_
    rw [crashedRecovery, hmidway.recovers hacc hhost hedits]
    exact finish_point hmidway (hacc.files_none.mpr hhost.index) (hmidway.previous hacc) j
  · refine .inr (.inr ?_)
    have hsame : crashedRecovery ws j = ws := by
      rw [crashedRecovery, recoveryPlan, hdone.journal]
      exact congrArg (runSteps _ _) List.take_nil
    exact hsame.symm ▸ hdone

theorem recovers :
    ∃ recovered, recoverWorkspacePublication (crashed start pending k ks) = .ok recovered ∧
      (recovered = start ∨ Done start pending recovered) := by
  rcases crashed_point hacc hhost hnone hedits k ks with hstart | hmidway | hdone
  · refine ⟨start, ?_, .inl rfl⟩
    rw [hstart, recoverWorkspacePublication, recoveryPlan, hnone]
    rfl
  · refine ⟨_, ?_, .inr (finish_done hmidway (hacc.files_none.mpr hhost.index)
      (hmidway.previous hacc))⟩
    rw [recoverWorkspacePublication, hmidway.recovers hacc hhost hedits]
    rfl
  · refine ⟨_, ?_, .inr hdone⟩
    rw [recoverWorkspacePublication, recoveryPlan, hdone.journal]
    rfl

end

/-! ## Publishing again -/

theorem readWorkspaceProject_congr {disk disk' : JsString → Option Bytes}
    (h : disk projectPath = disk' projectPath) :
    @readWorkspaceProject env disk = @readWorkspaceProject env disk' := by
  rw [readWorkspaceProject, h, readWorkspaceProject]

theorem exists_accepted
    (hproject : ∃ project, @readWorkspaceProject env ws.disk = .ok (some project))
    (hfiles : publishedFiles ws input.files = .ok files) (hindexed : verifyIndex ws = .ok ())
    (hverif : ∀ path hash, ws.previousFiles.get? path = some hash →
      verifyPublished ws input files (path, hash) = .ok ())
    (hexports : ∀ path content, files.get? path = some content → checkExport ws input (path, content) = .ok ()) :
    ∃ pending, Accepted ws input pending ∧ pending.files = files := by
  obtain ⟨project, hproject⟩ := hproject
  have hall : (sortedEntries env files).forM (checkExport ws input) = .ok () :=
    Client.exceptForM_ok.mpr fun e he => hexports e.1 e.2 (JsMap.get?_of_mem (mem_sortedEntries.mp he))
  exact ⟨publicationOf ws input project.workspaceId files hall,
    ⟨⟨project, hproject, rfl⟩, hfiles, hindexed, hverif, hexports, rfl, rfl, rfl⟩, rfl⟩

section

variable (h : Done start pending ws)
include h

theorem Done.previousFiles : ws.previousFiles = pending.index.files := by
  rw [Workspace.previousFiles, h.publication]
  rfl

section

variable (hacc : Accepted start input pending)
include hacc

theorem Done.previousPins
    (path : JsString) : ws.previousPins.get? path = (start.previousPins.get? path).or (input.pins.get? path) := by
  rw [Workspace.previousPins, h.publication, Option.map_some, Option.getD_some, hacc.pins,
    JsMap.get?_spread]

theorem Done.publishedHash
    (hhost : HostInput start input) (hfile : input.files.get? path = some content) :
    publishedHash ws path content = publishedHash start path content := by
  rw [Publication.publishedHash, Publication.publishedHash, h.previousPins hacc]
  cases hstart : start.previousPins.get? path with
  | some hash => rfl
  | none =>
    cases hpin : input.pins.get? path with
    | none => rfl
    | some hash => exact (hhost.pins path hash content hpin hfile hstart).symm

theorem Done.host (hhost : HostInput start input) : HostInput ws input where
  index := hhost.index
  project := hhost.project
  previousIndex := by
    rw [h.previousFiles, hacc.indexed_hash, hacc.files_none.mpr hhost.index]
    rfl
  previousProject := by
    rw [h.previousFiles, hacc.indexed_hash, hacc.files_none.mpr hhost.project]
    rfl
  pins path hash content hpin hfile hnone := by
    rw [h.previousPins hacc, Option.or_eq_none_iff] at hnone
    exact hhost.pins path hash content hpin hfile hnone.1

/-- The pinned contents can be read after a publication. -/
theorem Done.publishedFiles
    (hhost : HostInput start input) : ∃ files, publishedFiles ws input.files = .ok files := by
  refine publishedFiles_isOk fun path content hash hfile hpin hother => ?_
  obtain ⟨published, hpub, hhash⟩ := hacc.files_some hfile
  have hsame := h.publishedHash hacc hhost hfile
  rw [Publication.publishedHash, hpin, Option.getD_some] at hsame
  obtain ⟨text, htext⟩ := (h.complete path published hpub).2
  rw [hhash, ← hsame] at htext
  refine ⟨env.decode (env.encode text), by rw [htext]; rfl, ?_⟩
  rw [WorkspacePlatform.workspaceContentHash, env.encode_decode]
  exact ws.content.keyed hash _ htext

/-- **The publication that is done is accepted again**, with the same hashes. -/
theorem Done.accepted (hhost : HostInput start input) : ∃ again, Accepted ws input again ∧
      ∀ path, again.index.files.get? path = pending.index.files.get? path := by
  obtain ⟨files, hfiles⟩ := h.publishedFiles hacc hhost
  have hproject : ws.disk projectPath = start.disk projectPath := by
    refine (h.others projectPath (hacc.files_none.mpr hhost.project) (by decide)).resolve_right fun hnone => ?_
    rw [hhost.previousProject] at hnone
    cases hnone.2
  have hspec := publishedFiles_spec hfiles
  obtain ⟨again, hagain, rfl⟩ : ∃ again, Accepted ws input again ∧ again.files = files := by
    refine exists_accepted ?_ hfiles ?_ ?_ ?_
    · rw [readWorkspaceProject_congr hproject]
      exact hacc.project.imp fun _ hread => hread.1
    · rw [verifyIndex_ok]
      intro previous hprev
      obtain rfl := Option.some.inj (hprev.symm.trans h.publication)
      rw [h.text, Option.map_some, WorkspaceResearchIndex.text, env.decode_json]
    · intro path hash hprev
      rw [h.previousFiles, hacc.indexed_hash, Option.map_eq_some_iff] at hprev
      obtain ⟨content, hfile, rfl⟩ := hprev
      obtain ⟨bytes, hdisk, hhash⟩ := Option.map_eq_some_iff.mp (h.complete path content hfile).1
      exact verifyPublished_ok.mpr ⟨bytes, hdisk, .inl hhash⟩
    · intro path content hfile
      have hinput : input.files.get? path ≠ none := by
        intro hnone
        have hspec := hspec path
        rw [hnone] at hspec
        exact nomatch hfile.symm.trans hspec
      obtain ⟨passed, hpassed⟩ := Option.ne_none_iff_exists'.mp hinput
      obtain ⟨published, hpub, -⟩ := hacc.files_some hpassed
      refine checkExport_ok.mpr ⟨(checkExport_ok.mp (hacc.exports path published hpub)).1, ?_⟩
      intro bytes _ hnone
      rw [h.previousFiles, hacc.indexed_hash, hpub] at hnone
      cases hnone
  refine ⟨again, hagain, fun path => ?_⟩
  rw [hagain.indexed_hash, hacc.indexed_hash]
  cases hinput : input.files.get? path with
  | none => rw [hagain.files_none.mpr hinput, hacc.files_none.mpr hinput]
  | some content =>
    obtain ⟨first, hfirst, hfirstHash⟩ := hacc.files_some hinput
    obtain ⟨second, hsecond, hsecondHash⟩ := hagain.files_some hinput
    rw [hfirst, hsecond, Option.map_some, Option.map_some, hfirstHash, hsecondHash,
      h.publishedHash hacc hhost hinput]

theorem Done.isComplete {other : PendingPublication}
    (hsame : ∀ path, pending.index.files.get? path = other.index.files.get? path) : ws.Complete other where
  journal := h.journal
  publication := ⟨pending.index, h.publication, h.text, hsame⟩
  files path hash hhash := by
    rw [← hsame, hacc.indexed_hash, Option.map_eq_some_iff] at hhash
    obtain ⟨content, hfile, rfl⟩ := hhash
    obtain ⟨hmatch, text, htext⟩ := h.complete path content hfile
    exact ⟨hmatch, by rw [htext, Option.map_some, ws.content.keyed _ _ htext]⟩

/-- What was edited over a published file is published, and what is removed has a copy. -/
theorem Done.keepsEdits (hedits : EditsArePublished start input) : KeepsEdits start input ws := by
  intro path bytes hdisk hindex hchange hedited
  cases hinput : input.files.get? path with
  | none =>
    exact (h.kept path bytes hdisk (hacc.files_none.mpr hinput) hindex).resolve_left hchange
  | some content =>
    obtain ⟨published, hpub, hhash⟩ := hacc.files_some hinput
    have hedited := hedited.resolve_left (by rw [hinput]; exact Option.some_ne_none content)
    rcases h.exported path published hpub with hsame | ⟨-, hother⟩
    · exact absurd (hsame.trans hdisk) hchange
    · refine absurd ?_ hother
      rw [Workspace.Matches, hdisk, Option.map_some, hhash]
      exact congrArg some ((hedits path content bytes hinput hdisk).resolve_right hedited)

theorem Done.again {again : PendingPublication} {final : Workspace env} (hagain : Accepted ws input again)
    (hsame : ∀ path, again.index.files.get? path = pending.index.files.get? path)
    (hfinal : Done ws again final) (hkept : KeepsEdits start input ws) : KeepsEdits start input final := by
  intro path bytes hdisk hindex hchange hedited
  by_cases hws : ws.disk path = some bytes
  · cases hfile : again.files.get? path with
    | none => exact (hfinal.kept path bytes hws hfile hindex).resolve_left hchange
    | some content =>
      refine absurd ?_ hchange
      refine ((hfinal.exported path content hfile).resolve_right fun hother => hother.2 ?_).trans hws
      have hhash := hsame path
      rw [hagain.indexed_hash, hacc.indexed_hash, hfile] at hhash
      obtain ⟨published, hpub, hhash⟩ := Option.map_eq_some_iff.mp hhash.symm
      rw [Workspace.Matches, ← hhash]
      exact (h.complete path published hpub).1
  · exact hfinal.recovery bytes (hkept path bytes hdisk hindex hws hedited)

end

end

theorem survives_of_editsArePublished (hacc : Accepted start input pending)
    (hhost : HostInput start input) (hnone : start.pending = none)
    (hedits : EditsArePublished start input) : SurvivesCrashes start input pending := by
  intro k ks
  obtain ⟨recovered, hrecov, rfl | hdone⟩ := recovers hacc hhost hnone hedits k ks
  · -- the crash came before the journal: nothing is lost, and the publication runs as it would have
    have hfinal := publicationOperations_done hacc hhost
    exact ⟨recovered, _, hrecov, publishWorkspaceFiles_of_accepted hacc,
      hfinal.isComplete hacc fun _ => rfl, hfinal.keepsEdits hacc hedits⟩
  · obtain ⟨again, hagain, hsame⟩ := hdone.accepted hacc hhost
    have hfinal := publicationOperations_done hagain (hdone.host hacc hhost)
    exact ⟨recovered, _, hrecov, publishWorkspaceFiles_of_accepted hagain,
      hfinal.isComplete hagain hsame,
      hdone.again hacc hagain hsame hfinal (hdone.keepsEdits hacc hedits)⟩

theorem editsArePublished_of_survives (hacc : Accepted start input pending)
    (hsurvives : SurvivesCrashes start input pending) : EditsArePublished start input := by
  intro path content bytes hfile hdisk
  obtain ⟨recovered, -, hrecov, -⟩ := hsurvives 1 []
  obtain ⟨operations, hplan, -⟩ := Client.exceptBind_ok.mp hrecov
  obtain ⟨published, hpub, hhash⟩ := hacc.files_some hfile
  have hcheck := ((recoveryPlan_ok rfl).mp hplan).1 path published hpub
  rw [← hhash]
  exact checkPending_ok.mp hcheck bytes hdisk

/-- **A publication survives every crash just where the edits that it accepts are published as
they are**: every file at a published path has the hash that was published for it, or the one
that is to be. -/
theorem survives_crashes_iff (hplan : publicationPlan start input = .ok (some pending))
    (hnone : start.pending = none) (hhost : HostInput start input) :
    SurvivesCrashes start input pending ↔ EditsArePublished start input :=
  ⟨editsArePublished_of_survives (publicationPlan_ok.mp hplan),
    survives_of_editsArePublished (publicationPlan_ok.mp hplan) hhost hnone⟩

end Recovering

/-! ## A trusted edit -/

def filesOf (files : List (JsString × JsString)) (path : JsString) : Option Bytes :=
  (files.lookup path).map plainPlatform.encode

def unpublished (files : List (JsString × JsString)) : Workspace plainPlatform where
  disk := filesOf ((projectPath, plainProject) :: files)
  content := .empty
  recovery := .empty
  notes := []
  publication := none
  pending := none

/-- A record of one entry. -/
def single (path value : JsString) : JsMap JsString JsString := ⟨[(path, value)], by simp⟩

theorem get?_single (path value key : JsString) :
    (single path value).get? key = if key = path then some value else none := by
  rw [single, JsMap.get?_cons]
  rfl

theorem exists_plan {ws : Workspace env} {input : PublicationInput}
    (h : (publicationPlan ws input).toOption.join.isSome = true) :
    ∃ pending, publicationPlan ws input = .ok (some pending) := by
  cases hplan : publicationPlan ws input with
  | error message =>
    rw [hplan] at h
    cases h
  | ok plan =>
    rw [hplan] at h
    obtain ⟨pending, rfl⟩ := Option.isSome_iff_exists.mp h
    exact ⟨pending, rfl⟩

def topicPath : JsString := js "references/topics/t.json"

/-- A topic snapshot that names the directory of the workspace, as its operation wrote it. -/
def rootedTopic : Workspace plainPlatform := unpublished [(topicPath, js "/w/notes")]

/-- It is published with a portable path. -/
def portableTopic : PublicationInput where
  files := single topicPath (js "workspace:/notes")
  pins := .empty
  rawFiles := .empty
  trustedEditedHashes path := if path = topicPath then some (js "/w/notes") else none

theorem portableTopic_host : HostInput rootedTopic portableTopic :=
  ⟨by decide, by decide, rfl, rfl, fun _ _ _ h => nomatch h⟩

/-- The publication accepts the topic, and no recovery of it succeeds. -/
theorem trusted_edit_is_refused : ∃ pending,
    publicationPlan rootedTopic portableTopic = .ok (some pending) ∧ rootedTopic.pending = none ∧
      HostInput rootedTopic portableTopic ∧ ¬SurvivesCrashes rootedTopic portableTopic pending := by
  obtain ⟨pending, hplan⟩ := exists_plan (show (publicationPlan rootedTopic portableTopic).toOption.join.isSome = true by decide +kernel)
  refine ⟨pending, hplan, rfl, portableTopic_host, fun hsurvives => ?_⟩
  have hedit := editsArePublished_of_survives (publicationPlan_ok.mp hplan) hsurvives topicPath
    (js "workspace:/notes") (plainPlatform.encode (js "/w/notes")) (by decide) (by decide)
  revert hedit
  decide

def writtenTopic : PublicationInput :=
  { portableTopic with files := single topicPath (js "/w/notes") }

theorem survives_writtenTopic : ∃ pending,
    publicationPlan rootedTopic writtenTopic = .ok (some pending) ∧
      SurvivesCrashes rootedTopic writtenTopic pending := by
  obtain ⟨pending, hplan⟩ := exists_plan (show (publicationPlan rootedTopic writtenTopic).toOption.join.isSome = true by decide +kernel)
  have hhost : HostInput rootedTopic writtenTopic :=
    ⟨by decide, by decide, rfl, rfl, fun _ _ _ h => nomatch h⟩
  refine ⟨pending, hplan, (survives_crashes_iff hplan rfl hhost).mpr fun path content bytes hfile hdisk => ?_⟩
  rw [show writtenTopic.files = single topicPath (js "/w/notes") from rfl, get?_single] at hfile
  split at hfile
  · next hpath =>
    subst hpath
    cases hfile
    obtain rfl : plainPlatform.encode (js "/w/notes") = bytes := Option.some.inj hdisk
    exact .inl (by decide)
  · cases hfile

end Beale.Publication
