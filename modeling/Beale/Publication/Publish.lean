import Beale.Publication.Workspace

/-!
# Publishing files

The checks of `publishWorkspaceFiles` and of the recovery, and their file operations in
order.
-/

namespace Beale.Publication

open Beale.Library

variable {env : WorkspacePlatform}

/-- What a caller of `publishWorkspaceFiles` passes. -/
structure PublicationInput where
  files : JsMap JsString JsString
  pins : JsMap JsString JsString
  rawFiles : JsMap JsString JsString
  trustedEditedHashes : JsString → Option JsString

/-- `previous?.files ?? {}` -/
def Workspace.previousFiles (ws : Workspace env) : JsMap JsString JsString :=
  (ws.publication.map (·.files)).getD .empty

/-- `previous?.pins ?? {}` -/
def Workspace.previousPins (ws : Workspace env) : JsMap JsString JsString :=
  (ws.publication.map (·.pins)).getD .empty

/-- `previous?.rawFiles ?? {}` -/
def Workspace.previousRawFiles (ws : Workspace env) : JsMap JsString JsString :=
  (ws.publication.bind (·.rawFiles)).getD .empty

/-! ## Checks -/

/-- The pinned paths that are to be published with another content. -/
def pinnedReplacements (ws : Workspace env) (files : JsMap JsString JsString) : JsMap JsString JsString :=
  ws.previousPins.filter fun e =>
    (files.get? e.1).any fun content => env.workspaceContentHash content ≠ e.2

/-- A pinned path keeps the content that was published for it. -/
def applyPinned (store : ContentStore env) (files : JsMap JsString JsString) (e : JsString × JsString) :
    Except JsString (JsMap JsString JsString) :=
  match (store.bytes e.2).map env.decode with
  | some content =>
    if env.workspaceContentHash content = e.2 then .ok (files.set e.1 content)
    else .error (e.1 ++ js ": published evidence does not match its canonical pin.")
  | none => .error (e.1 ++ js ": published evidence does not match its canonical pin.")

def publishedFiles (ws : Workspace env) (files : JsMap JsString JsString) :
    Except JsString (JsMap JsString JsString) :=
  (pinnedReplacements ws files).entries.foldlM (applyPinned ws.content) files

/-- The published index is the one that was written. -/
def verifyIndex (ws : Workspace env) : Except JsString Unit :=
  match ws.publication with
  | none => .ok ()
  | some previous =>
    if (ws.disk indexPath).map env.decode = some previous.text then .ok ()
    else .error (js "The published research index was edited or removed; "
      ++ js "preserve the edit before republishing.")

/-- A published file is the one that was written, or a trusted edit that is to be published. -/
def verifyPublished (ws : Workspace env) (input : PublicationInput) (files : JsMap JsString JsString)
    (e : JsString × JsString) : Except JsString Unit :=
  match ws.disk e.1 with
  | none => .error (e.1 ++ js ": canonical export was edited or removed; "
      ++ js "preserve/import the edit before republishing.")
  | some bytes =>
    if env.sha256 bytes ≠ e.2
        ∧ ((files.get? e.1).isNone ∨ input.trustedEditedHashes e.1 ≠ some (env.sha256 bytes)) then
      .error (e.1 ++ js ": canonical export was edited or removed; "
        ++ js "preserve/import the edit before republishing.")
    else .ok ()

/-- A path can be published, and no other file is there. -/
def checkExport (ws : Workspace env) (input : PublicationInput) (e : JsString × JsString) :
    Except JsString Unit :=
  if (workspacePathProblem e.1).isSome then .error (js "Invalid canonical export path: " ++ e.1)
  else match ws.disk e.1 with
    | none => .ok ()
    | some bytes =>
      if (ws.previousFiles.get? e.1).isNone ∧ env.decode bytes ≠ e.2
          ∧ input.trustedEditedHashes e.1 ≠ some (env.sha256 bytes) then
        .error (e.1 ++ js ": an existing file conflicts with canonical publication.")
      else .ok ()

/-- `Object.entries(publishedFiles).sort(([a], [b]) => a.localeCompare(b))` -/
def sortedEntries (env : WorkspacePlatform) (files : JsMap JsString JsString) : List (JsString × JsString) :=
  files.entries.mergeSort fun a b => env.localeLe a.1 b.1

variable {files : JsMap JsString JsString}

theorem mem_sortedEntries {e : JsString × JsString} :
    e ∈ sortedEntries env files ↔ e ∈ files.entries :=
  (List.mergeSort_perm _ _).mem_iff

/-- `hashes` -/
def contentHashes (env : WorkspacePlatform) (files : JsMap JsString JsString) : JsMap JsString JsString where
  entries := (sortedEntries env files).map fun e => (e.1, env.workspaceContentHash e.2)
  nodup := by
    rw [List.map_map]
    exact ((List.mergeSort_perm files.entries _).map Prod.fst).nodup_iff.mpr files.nodup

theorem get?_contentHashes (files : JsMap JsString JsString) (path : JsString) :
    (contentHashes env files).get? path = (files.get? path).map env.workspaceContentHash := by
  cases hget : files.get? path with
  | none =>
    rw [Option.map_none, JsMap.get?_eq_none, JsMap.keys, contentHashes, List.map_map]
    rw [JsMap.get?_eq_none, JsMap.keys] at hget
    intro hmem
    exact hget (((List.mergeSort_perm files.entries _).map Prod.fst).mem_iff.mp hmem)
  | some content =>
    refine JsMap.get?_of_mem (List.mem_map.mpr ⟨(path, content), ?_, rfl⟩)
    exact mem_sortedEntries.mpr (JsMap.mem_of_get? hget)

variable {path : JsString}

theorem mem_keys_contentHashes : path ∈ (contentHashes env files).keys ↔ path ∈ files.keys := by
  rw [← not_iff_not, ← JsMap.get?_eq_none, ← JsMap.get?_eq_none, get?_contentHashes, Option.map_eq_none_iff]

variable {input : PublicationInput} {ws : Workspace env}

theorem checkExport_ok {content : JsString} :
    checkExport ws input (path, content) = .ok () ↔ workspacePathProblem path = none ∧
      ∀ bytes, ws.disk path = some bytes → ws.previousFiles.get? path = none →
        env.decode bytes = content ∨ input.trustedEditedHashes path = some (env.sha256 bytes) := by
  rw [checkExport]
  cases hproblem : workspacePathProblem path with
  | some problem => simp
  | none =>
    cases hdisk : ws.disk path with
    | none => simp
    | some bytes =>
      by_cases hprev : ws.previousFiles.get? path = none
      · by_cases hsame : env.decode bytes = content
        · simp [hsame]
        · by_cases htrust : input.trustedEditedHashes path = some (env.sha256 bytes)
          · simp [htrust]
          · simp [hprev, hsame, htrust]
      · simp [hprev]

/-- What is published, and the index of it. -/
def publicationOf (ws : Workspace env) (input : PublicationInput) (workspaceId : JsString)
    (files : JsMap JsString JsString) (h : (sortedEntries env files).forM (checkExport ws input) = .ok ()) :
    PendingPublication where
  files := files
  index :=
    { workspaceId := workspaceId
      files := contentHashes env files
      pins := input.pins.spread ws.previousPins
      rawFiles := some (ws.previousRawFiles.spread input.rawFiles)
      canonical := by
        intro path hpath
        obtain ⟨e, he, rfl⟩ := List.mem_map.mp (mem_keys_contentHashes.mp hpath)
        exact (checkExport_ok.mp (Client.exceptForM_ok.mp h e (mem_sortedEntries.mpr he))).1 }

/-- The checks of `publishWorkspaceFiles`: what it goes on to publish, if the directory is a
workspace. -/
def publicationPlan (ws : Workspace env) (input : PublicationInput) :
    Except JsString (Option PendingPublication) := do
  match ← @readWorkspaceProject env ws.disk with
  | none => return none
  | some project =>
    let files ← publishedFiles ws input.files
    verifyIndex ws
    ws.previousFiles.entries.forM (verifyPublished ws input files)
    match h : (sortedEntries env files).forM (checkExport ws input) with
    | .error message => throw message
    | .ok () => return some (publicationOf ws input project.workspaceId files h)

/-! ## File operations -/

/-- The published paths that are not published again, and are not pinned. -/
def PendingPublication.removed (pending : PendingPublication) (previous : JsMap JsString JsString) :
    List JsString :=
  previous.keys.filter fun path => (pending.files.get? path).isNone && (pending.index.pins.get? path).isNone

def finishWorkspacePublication (pending : PendingPublication) (previous : JsMap JsString JsString) :
    List FileOperation :=
  (pending.files.entries.flatMap fun e => [.content e.2, .file e.1 e.2])
    ++ ((pending.removed previous).flatMap fun path => [.copy path, .note path, .remove path])
    ++ [.index pending.index, .state pending.index, .drop]

def publicationOperations (ws : Workspace env) (pending : PendingPublication) : List FileOperation :=
  .journal pending :: finishWorkspacePublication pending ws.previousFiles

def publishWorkspaceFiles (ws : Workspace env) (input : PublicationInput) :
    Except JsString (Workspace env) := do
  match ← publicationPlan ws input with
  | none => return ws
  | some pending => return runSteps Workspace.apply ws (publicationOperations ws pending)

/-! ## Recovery -/

/-- A file of the journal is the one that it replaces, or the one that is to be there. -/
def checkPending (ws : Workspace env) (e : JsString × JsString) : Except JsString Unit :=
  match ws.disk e.1 with
  | none => .ok ()
  | some bytes =>
    if env.sha256 bytes ≠ env.workspaceContentHash e.2 ∧ some (env.sha256 bytes) ≠ ws.previousFiles.get? e.1 then
      .error (e.1 ++ js ": changed during interrupted publication; recovery preserves the edit.")
    else .ok ()

/-- A file that is not published again is the one that was published. -/
def checkRemoved (ws : Workspace env) (files : JsMap JsString JsString) (e : JsString × JsString) :
    Except JsString Unit :=
  match files.get? e.1, ws.disk e.1 with
  | none, some bytes =>
    if env.sha256 bytes ≠ e.2 then
      .error (e.1 ++ js ": changed during interrupted publication; recovery preserves the edit.")
    else .ok ()
  | _, _ => .ok ()

/-- The checks of `recoverWorkspacePublication`, and the operations that it repeats. -/
def recoveryPlan (ws : Workspace env) : Except JsString (List FileOperation) :=
  match ws.pending with
  | none => .ok []
  | some pending => do
    pending.files.entries.forM (checkPending ws)
    ws.previousFiles.entries.forM (checkRemoved ws pending.files)
    return finishWorkspacePublication pending ws.previousFiles

def recoverWorkspacePublication (ws : Workspace env) : Except JsString (Workspace env) := do
  let operations ← recoveryPlan ws
  return runSteps Workspace.apply ws operations

/-! ## What the checks find -/

section Pinned

variable {store : ContentStore env} {files files' : JsMap JsString JsString}

/-- Whether a pinned content can be read. -/
def PinReadable (store : ContentStore env) (hash : JsString) : Prop :=
  ∃ content, (store.bytes hash).map env.decode = some content ∧ env.workspaceContentHash content = hash

theorem applyPinned_ok {e : JsString × JsString} :
    applyPinned store files e = .ok files' ↔ ∃ content, (store.bytes e.2).map env.decode = some content ∧
      env.workspaceContentHash content = e.2 ∧ files' = files.set e.1 content := by
  rw [applyPinned]
  cases (store.bytes e.2).map env.decode with
  | none => simp
  | some content =>
    by_cases hhash : env.workspaceContentHash content = e.2
    · simp [hhash, eq_comm]
    · simp [hhash]

/-- The pinned contents that are read are set, one after the other. -/
theorem foldlM_applyPinned {m : JsMap JsString JsString}
    (h : m.entries.foldlM (applyPinned store) files = .ok files') (path : JsString) :
    match m.get? path with
    | none => files'.get? path = files.get? path
    | some hash => ∃ content, files'.get? path = some content ∧ env.workspaceContentHash content = hash := by
  obtain ⟨l, hl⟩ := m
  induction l generalizing files with
  | nil =>
    cases h
    exact rfl
  | cons e l ih =>
    obtain ⟨middle, hstep, hrest⟩ := Client.exceptBind_ok.mp (List.foldlM_cons.symm.trans h)
    obtain ⟨content, -, hhash, rfl⟩ := applyPinned_ok.mp hstep
    have htail := ih (List.nodup_cons.mp hl).2 hrest
    rw [JsMap.get?_cons]
    by_cases hpath : path = e.1
    · have hnone : JsMap.get? ⟨l, (List.nodup_cons.mp hl).2⟩ path = none :=
        JsMap.get?_eq_none.mpr (hpath ▸ (List.nodup_cons.mp hl).1)
      rw [hnone] at htail
      rw [if_pos hpath]
      exact ⟨content, by rw [htail, hpath, JsMap.get?_set_self], hhash⟩
    · rw [if_neg hpath]
      rwa [JsMap.get?_set, if_neg hpath] at htail

theorem foldlM_applyPinned_isOk {l : List (JsString × JsString)}
    (h : ∀ e ∈ l, PinReadable store e.2) (files : JsMap JsString JsString) :
    ∃ files', l.foldlM (applyPinned store) files = .ok files' := by
  induction l generalizing files with
  | nil => exact ⟨files, rfl⟩
  | cons e l ih =>
    obtain ⟨content, hread, hhash⟩ := h e List.mem_cons_self
    rw [List.foldlM_cons]
    exact Client.exceptBind_succeeds (applyPinned_ok.mpr ⟨content, hread, hhash, rfl⟩)
      (ih (fun e' he' => h e' (List.mem_cons_of_mem _ he')) _)

end Pinned

section Published

variable {ws : Workspace env} {files files' : JsMap JsString JsString}

theorem get?_pinnedReplacements {path hash : JsString} :
    (pinnedReplacements ws files).get? path = some hash ↔ ws.previousPins.get? path = some hash ∧
      ∃ content, files.get? path = some content ∧ env.workspaceContentHash content ≠ hash := by
  rw [pinnedReplacements, JsMap.get?_filter_eq_some]
  simp [Option.any_eq_true]

theorem publishedFiles_spec (h : publishedFiles ws files = .ok files') (path : JsString) :
    match files.get? path, ws.previousPins.get? path with
    | none, _ => files'.get? path = none
    | some content, none => files'.get? path = some content
    | some _, some hash => ∃ content, files'.get? path = some content ∧ env.workspaceContentHash content = hash := by
  have hfold := foldlM_applyPinned h path
  have hnone : ∀ _ : ∀ hash, ¬(ws.previousPins.get? path = some hash ∧
      ∃ content, files.get? path = some content ∧ env.workspaceContentHash content ≠ hash),
      (pinnedReplacements ws files).get? path = none := fun h =>
    Option.eq_none_iff_forall_ne_some.mpr fun hash hsome => h hash (get?_pinnedReplacements.mp hsome)
  cases hfile : files.get? path with
  | none =>
    rw [hnone (by simp [hfile])] at hfold
    exact hfold.trans hfile
  | some content =>
    cases hpin : ws.previousPins.get? path with
    | none =>
      rw [hnone (by simp [hpin])] at hfold
      exact hfold.trans hfile
    | some hash =>
      by_cases hsame : env.workspaceContentHash content = hash
      · rw [hnone (by simp [hfile, hpin, hsame])] at hfold
        exact ⟨content, hfold.trans hfile, hsame⟩
      · rw [get?_pinnedReplacements.mpr ⟨hpin, content, hfile, hsame⟩] at hfold
        exact hfold

theorem publishedFiles_isOk (h : ∀ path content hash, files.get? path = some content →
      ws.previousPins.get? path = some hash → env.workspaceContentHash content ≠ hash →
        PinReadable ws.content hash) :
    ∃ files', publishedFiles ws files = .ok files' := by
  refine foldlM_applyPinned_isOk (fun e he => ?_) files
  obtain ⟨hpin, content, hfile, hother⟩ := get?_pinnedReplacements.mp (JsMap.get?_of_mem he)
  exact h e.1 content e.2 hfile hpin hother

end Published

theorem verifyIndex_ok : verifyIndex ws = .ok () ↔
    ∀ previous, ws.publication = some previous → (ws.disk indexPath).map env.decode = some previous.text := by
  rw [verifyIndex]
  cases ws.publication with
  | none => simp
  | some previous =>
    show (if _ then _ else _) = _ ↔ _
    by_cases htext : (ws.disk indexPath).map env.decode = some previous.text
    · rw [if_pos htext]
      exact ⟨fun _ _ hprev => Option.some.inj hprev ▸ htext, fun _ => rfl⟩
    · rw [if_neg htext]
      exact ⟨nofun, fun h => absurd (h previous rfl) htext⟩

theorem verifyPublished_ok
    {hash : JsString} : verifyPublished ws input files (path, hash) = .ok () ↔
      ∃ bytes, ws.disk path = some bytes ∧ (env.sha256 bytes = hash ∨
        (files.get? path).isSome = true ∧ input.trustedEditedHashes path = some (env.sha256 bytes)) := by
  rw [verifyPublished]
  cases hdisk : ws.disk path with
  | none => simp
  | some bytes =>
    by_cases hsame : env.sha256 bytes = hash
    · simp [hsame]
    · cases hfile : files.get? path with
      | none => simp [hsame]
      | some content => simp [hsame]

/-- What a publication that goes on has found. -/
structure Accepted (ws : Workspace env) (input : PublicationInput) (pending : PendingPublication) : Prop where
  project : ∃ project, @readWorkspaceProject env ws.disk = .ok (some project) ∧
    pending.index.workspaceId = project.workspaceId
  files : publishedFiles ws input.files = .ok pending.files
  indexed : verifyIndex ws = .ok ()
  verified : ∀ path hash, ws.previousFiles.get? path = some hash →
    verifyPublished ws input pending.files (path, hash) = .ok ()
  exports : ∀ path content, pending.files.get? path = some content →
    checkExport ws input (path, content) = .ok ()
  hashes : pending.index.files = contentHashes env pending.files
  pins : pending.index.pins = input.pins.spread ws.previousPins
  rawFiles : pending.index.rawFiles = some (ws.previousRawFiles.spread input.rawFiles)

variable {pending : PendingPublication}

theorem publicationPlan_ok :
    publicationPlan ws input = .ok (some pending) ↔ Accepted ws input pending := by
  constructor
  · intro h
    obtain ⟨project, hproject, h⟩ := Client.exceptBind_ok.mp h
    cases project with
    | none => cases h
    | some project =>
      obtain ⟨files, hfiles, h⟩ := Client.exceptBind_ok.mp h
      obtain ⟨hindexed, h⟩ := Client.exceptThen_ok.mp h
      obtain ⟨hverif, h⟩ := Client.exceptThen_ok.mp h
      split at h
      · cases h
      · next hexports =>
        cases h
        exact {
          project := ⟨project, hproject, rfl⟩
          files := hfiles
          indexed := hindexed
          verified := fun path hash hget =>
            Client.exceptForM_ok.mp hverif (path, hash) (JsMap.mem_of_get? hget)
          exports := fun path content hget =>
            Client.exceptForM_ok.mp hexports (path, content) (mem_sortedEntries.mpr (JsMap.mem_of_get? hget))
          hashes := rfl
          pins := rfl
          rawFiles := rfl }
  · intro h
    obtain ⟨project, hproject, hid⟩ := h.project
    have hexports : (sortedEntries env pending.files).forM (checkExport ws input) = .ok () :=
      Client.exceptForM_ok.mpr fun e he => h.exports e.1 e.2 (JsMap.get?_of_mem (mem_sortedEntries.mp he))
    refine Client.exceptBind_ok.mpr ⟨some project, hproject, ?_⟩
    refine Client.exceptBind_ok.mpr ⟨pending.files, h.files, ?_⟩
    refine Client.exceptThen_ok.mpr ⟨h.indexed, Client.exceptThen_ok.mpr ⟨?_, ?_⟩⟩
    · exact Client.exceptForM_ok.mpr fun e he => h.verified e.1 e.2 (JsMap.get?_of_mem he)
    · split
      · next hfails => exact nomatch hfails.symm.trans hexports
      · obtain ⟨files, ⟨workspaceId, hashes, pins, rawFiles, canonical⟩⟩ := pending
        obtain rfl : hashes = contentHashes env files := h.hashes
        obtain rfl : pins = input.pins.spread ws.previousPins := h.pins
        obtain rfl : rawFiles = some (ws.previousRawFiles.spread input.rawFiles) := h.rawFiles
        obtain rfl : workspaceId = project.workspaceId := hid
        rfl

theorem publishWorkspaceFiles_of_accepted (h : Accepted ws input pending) :
    publishWorkspaceFiles ws input = .ok (runSteps Workspace.apply ws (publicationOperations ws pending)) := by
  rw [publishWorkspaceFiles, publicationPlan_ok.mpr h]
  rfl

end Beale.Publication
