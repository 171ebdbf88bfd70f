import Beale.Publication.ResearchIndex

/-!
# The cache marker covers every point where a job can be cut off

- `Covered`: each published record is in the database, or an operation has removed it, or its file is
  pinned, or the database is rebuilt before the next publication reads it.
- `removals_justified`: the removals of every run.
-/

namespace Beale.Publication

open Beale.Library
open ResearchWorkspace

/-! ## What a rebuild inserts -/

theorem conflictsIn_eq_true {records : JsMap RecordKey Record} {key : RecordKey} {record : Record} :
    conflictsIn records key record = true ↔ ∃ other r, records.get? other = some r ∧ other ≠ key ∧
      other.kind = key.kind ∧ r.conflicts record = true := by
  simp only [conflictsIn, List.any_eq_true, Bool.and_eq_true, decide_eq_true_eq]
  constructor
  · rintro ⟨⟨other, r⟩, hmem, ⟨hne, hkind⟩, hconflicts⟩
    exact ⟨other, r, JsMap.get?_of_mem hmem, hne, hkind, hconflicts⟩
  · rintro ⟨other, r, hget, hne, hkind, hconflicts⟩
    exact ⟨(other, r), JsMap.mem_of_get? hget, ⟨hne, hkind⟩, hconflicts⟩

namespace ResearchDatabase

variable {db : ResearchDatabase}

@[simp] theorem put_tables (db : ResearchDatabase) (key : RecordKey) (record : Record) :
    (db.put key record).tables = db.tables := by
  unfold put
  split <;> rfl

theorem get?_put (db : ResearchDatabase) (key other : RecordKey) (record : Record) :
    (db.put key record).rows.get? other =
      if other = key ∧ key.kind ∈ db.tables then some record else db.rows.get? other := by
  unfold put
  split
  · next h => simp [JsMap.get?_set, h]
  · next h => simp [h]

variable {key : RecordKey}

theorem isSome_put {other : RecordKey} (record : Record) (h : (db.rows.get? other).isSome) :
    ((db.put key record).rows.get? other).isSome := by
  rw [get?_put]
  split
  · rfl
  · exact h

@[simp] theorem insertRow_tables (db : ResearchDatabase) (e : RecordKey × Record) :
    (db.insertRow e).tables = db.tables := by
  unfold insertRow
  split <;> simp

theorem isSome_insertRow (e : RecordKey × Record) (h : (db.rows.get? key).isSome) :
    ((db.insertRow e).rows.get? key).isSome := by
  unfold insertRow
  split
  · exact h
  · exact isSome_put e.2 h

theorem isSome_rebuild (files : JsMap RecordKey Record) (h : (db.rows.get? key).isSome) :
    ((db.rebuild files).rows.get? key).isSome :=
  runSteps_invariant (I := fun s : ResearchDatabase => (s.rows.get? key).isSome) (fun _ e => isSome_insertRow e) h _

theorem get?_rebuild {files : JsMap RecordKey Record} {record : Record}
    (hget : files.get? key = some record) (hrebuilt : key.kind.isRebuilt = true) (htable : key.kind ∈ db.tables)
    (hrows : conflictsIn db.rows key record = false) (hfiles : conflictsIn files key record = false) :
    ((db.rebuild files).rows.get? key).isSome := by
  -- no row is ever in the way: those that are inserted are of the files
  let Free : ResearchDatabase → Prop := fun s => s.tables = db.tables ∧ conflictsIn s.rows key record = false
  have hmem : (key, record) ∈ files.entries.filter fun e => e.1.kind.isRebuilt :=
    List.mem_filter.mpr ⟨JsMap.mem_of_get? hget, hrebuilt⟩
  refine runSteps_establishes (I := Free) (P := fun s => (s.rows.get? key).isSome) (i := (key, record))
    ?_ hmem ?_ (fun e _ s _ => isSome_insertRow e) ⟨rfl, hrows⟩
  · rintro s ⟨htables, hfree⟩
    unfold insertRow
    split
    · next h => simpa [hfree] using h
    · rw [get?_put, if_pos ⟨rfl, htables ▸ htable⟩]
      rfl
  · rintro ⟨other, r⟩ he s ⟨htables, hfree⟩
    refine ⟨by simpa using htables, ?_⟩
    unfold insertRow
    split
    · exact hfree
    · rw [Bool.eq_false_iff, ne_eq, conflictsIn_eq_true]
      rintro ⟨third, r', hthird, hne, hkind, hconflicts⟩
      rw [get?_put] at hthird
      split at hthird
      · next heq =>
        obtain ⟨rfl, -⟩ := heq
        cases hthird
        have hother : files.get? third = some r := JsMap.get?_of_mem (List.mem_filter.mp he).1
        rw [Bool.eq_false_iff, ne_eq, conflictsIn_eq_true] at hfiles
        exact hfiles ⟨third, r, hother, hne, hkind, hconflicts⟩
      · rw [Bool.eq_false_iff, ne_eq, conflictsIn_eq_true] at hfree
        exact hfree ⟨third, r', hthird, hne, hkind, hconflicts⟩

end ResearchDatabase

/-! ## The invariant -/

/-- The points from which a job still comes to `workspaceResearchIndexNeedsRebuild` before it publishes,
and those from which it can only end. -/
def CheckpointJob.isUndecided (job : CheckpointJob) : Bool :=
  match job.point with
  | .recover | .decide | .rebuild | .prune | .released => true
  | .finish _ _ | .index _ | .state _ | .drop => !job.publishing
  | _ => false

/-- Whether the database is rebuilt before a publication reads it. -/
def ResearchWorkspace.rebuildDue (workspace : ResearchWorkspace) : Bool :=
  workspace.job.all CheckpointJob.isUndecided && workspace.mustRebuild

def IsCovered (workspace : ResearchWorkspace) (index : PublicationIndex) (key : RecordKey) : Prop :=
  workspace.hasOrRemoved index key ∨
    workspace.rebuildDue ∧ key.kind.isRebuilt ∧ key.kind ∈ workspace.database.tables

def PointFacts (workspace : ResearchWorkspace) (job : CheckpointJob) : Prop :=
  match job.point with
  | .recover => job.publishing = false
  | .finish pending steps => workspace.pending = some pending ∧
      ∀ key, FileStep.remove key ∈ steps → key ∈ workspace.removed
  | .index pending => workspace.pending = some pending
  | .state pending => workspace.pending = some pending ∧ workspace.indexFile = some pending
  | .drop => workspace.indexFile = workspace.publication ∧ workspace.indexFile.isSome
  | .journal pending => workspace.pending = none ∧
      (∀ key ∈ pending.files.keys, workspace.hasOrRemoved pending key) ∧
      ∀ key ∈ workspace.removals pending, key ∈ workspace.removed
  | .prune | .released => workspace.pending = none ∧ workspace.marker = .releasing
  | _ => workspace.pending = none

structure Covered (workspace : ResearchWorkspace) : Prop where
  published : ∀ index, workspace.publication = some index → ∀ key ∈ index.files.keys, IsCovered workspace index key
  waiting : ∀ index, workspace.pending = some index → ∀ key ∈ index.files.keys, IsCovered workspace index key
  dropped : ∀ index, workspace.pending = some index → ∀ key ∈ workspace.removals index, key ∈ workspace.removed
  agrees : workspace.pending = none → workspace.indexFile = workspace.publication
  point : ∀ job, workspace.job = some job → PointFacts workspace job

section Frames

variable {workspace workspace' : ResearchWorkspace} {job job' : CheckpointJob} {index : PublicationIndex} {key : RecordKey}

theorem hasOrRemoved_eq_true : workspace.hasOrRemoved index key = true ↔
    (workspace.database.rows.get? key).isSome ∨ key ∈ workspace.removed ∨ (index.pins.get? key).isSome := by
  simp only [hasOrRemoved, Bool.or_eq_true, decide_eq_true_eq, or_assoc]

theorem rebuildDue_of_job (hjob : workspace.job = some job) :
    workspace.rebuildDue = (job.isUndecided && workspace.mustRebuild) := by
  simp [rebuildDue, hjob]

theorem IsCovered.has (h : IsCovered workspace index key) (hdue : workspace.rebuildDue = false) :
    workspace.hasOrRemoved index key := by
  rcases h with h | ⟨h, -⟩
  · exact h
  · simp [hdue] at h

theorem IsCovered.mono (h : IsCovered workspace index key)
    (hhas : workspace.hasOrRemoved index key → workspace'.hasOrRemoved index key)
    (htables : workspace'.database.tables = workspace.database.tables)
    (hdue : workspace.rebuildDue → workspace'.rebuildDue) : IsCovered workspace' index key := by
  rcases h with h | ⟨hd, hkind, htable⟩
  · exact .inl (hhas h)
  · exact .inr ⟨hdue hd, hkind, htables ▸ htable⟩

theorem Covered.frame (h : Covered workspace) (hpubl : workspace'.publication = workspace.publication)
    (hpend : workspace'.pending = workspace.pending) (hindex : workspace'.indexFile = workspace.indexFile)
    (hrem : workspace.removed ⊆ workspace'.removed)
    (hcovered : ∀ index key, IsCovered workspace index key → IsCovered workspace' index key)
    (hpoint : ∀ job, workspace'.job = some job → PointFacts workspace' job) : Covered workspace' where
  published index hget key hkey := hcovered index key (h.published index (hpubl ▸ hget) key hkey)
  waiting index hget key hkey := hcovered index key (h.waiting index (hpend ▸ hget) key hkey)
  dropped index hget key hkey := by
    refine hrem (h.dropped index (hpend ▸ hget) key ?_)
    simpa only [ResearchWorkspace.removals, ResearchWorkspace.previousFiles, hpubl] using hkey
  agrees hnone := by rw [hindex, hpubl, h.agrees (hpend ▸ hnone)]
  point := hpoint

theorem Covered.disk (h : Covered workspace) (disk : JsMap RecordKey Record) : Covered { workspace with disk } :=
  ⟨h.published, h.waiting, h.dropped, h.agrees, h.point⟩

/-- A job that ends leaves the rest as it is. -/
theorem Covered.finished (h : Covered workspace) : Covered workspace.finished := by
  refine h.frame rfl rfl rfl (List.Subset.refl _) (fun index key hkey => hkey.mono id rfl ?_) nofun
  intro hdue
  exact (Bool.and_eq_true _ _ ▸ hdue : _ ∧ _).2

/-- And so does one that goes on. -/
theorem Covered.proceed (h : Covered workspace) (hjob : workspace.job = some job)
    (hundec : job.isUndecided → job'.isUndecided)
    (hpoint : PointFacts { workspace with job := some job' } job') : Covered { workspace with job := some job' } := by
  refine h.frame rfl rfl rfl (List.Subset.refl _) (fun index key hkey => hkey.mono id rfl ?_) ?_
  · rw [rebuildDue_of_job hjob, rebuildDue_of_job rfl, Bool.and_eq_true, Bool.and_eq_true]
    exact fun hdue => ⟨hundec hdue.1, hdue.2⟩
  · intro other hother
    cases hother
    exact hpoint

theorem Covered.of_settled (hpend : workspace.pending = none)
    (hagrees : workspace.indexFile = workspace.publication)
    (hpub : ∀ index, workspace.publication = some index → ∀ key ∈ index.files.keys,
      IsCovered workspace index key)
    (hpoint : ∀ job, workspace.job = some job → PointFacts workspace job) : Covered workspace where
  published := hpub
  waiting index hget := by simp [hpend] at hget
  dropped index hget := by simp [hpend] at hget
  agrees _ := hagrees
  point := hpoint

end Frames

/-! ## The steps of a job -/

section Advance

variable {workspace : ResearchWorkspace} {job : CheckpointJob} {outcome : ImportOutcome}

theorem Covered.recover (h : Covered workspace) (hjob : workspace.job = some job) (hpoint : job.point = .recover) : Covered (job.advance workspace outcome) := by
  have hfacts := h.point job hjob
  simp only [PointFacts, hpoint] at hfacts
  simp only [CheckpointJob.advance, hpoint]
  split
  · next hnone => exact h.proceed hjob (fun _ => rfl) hnone
  · next pending hpend =>
    split
    · refine h.proceed hjob (fun _ => by simp [CheckpointJob.isUndecided, hfacts]) ⟨hpend, ?_⟩
      intro key hkey
      refine h.dropped pending hpend key ?_
      simpa [ResearchWorkspace.fileSteps] using hkey
    · exact h.finished

variable {pending : PublicationIndex}

section

variable (h : Covered workspace) (hjob : workspace.job = some job)
include h hjob

theorem Covered.finish {steps : List FileStep} (hpoint : job.point = .finish pending steps) :
    Covered (job.advance workspace outcome) := by
  have hfacts := h.point job hjob
  simp only [PointFacts, hpoint] at hfacts
  have hundec : job.isUndecided = !job.publishing := by simp [CheckpointJob.isUndecided, hpoint]
  cases steps with
  | nil =>
    simp only [CheckpointJob.advance, hpoint]
    exact h.proceed hjob hundec.symm.trans hfacts.1
  | cons step steps =>
    have hrest : ∀ key, FileStep.remove key ∈ steps → key ∈ workspace.removed :=
      fun key hkey => hfacts.2 key (List.mem_cons_of_mem _ hkey)
    cases step <;> simp only [CheckpointJob.advance, hpoint]
    all_goals exact (h.disk _).proceed hjob hundec.symm.trans ⟨hfacts.1, hrest⟩

theorem Covered.index
    (hpoint : job.point = .index pending) : Covered (job.advance workspace outcome) := by
  have hpend : workspace.pending = some pending := by simpa [PointFacts, hpoint] using h.point job hjob
  have hundec : job.isUndecided = !job.publishing := by simp [CheckpointJob.isUndecided, hpoint]
  simp only [CheckpointJob.advance, hpoint]
  -- the marker is not needed: there is an index file, and there was a journal
  have hdue : workspace.rebuildDue →
      ({ workspace with indexFile := some pending }.goOn job (.state pending)).rebuildDue := by
    rw [rebuildDue_of_job hjob, rebuildDue_of_job rfl, Bool.and_eq_true, Bool.and_eq_true]
    rintro ⟨hu, hmust⟩
    refine ⟨hundec.symm.trans hu, ?_⟩
    revert hmust
    cases hmarker : workspace.marker <;> simp [ResearchWorkspace.mustRebuild, ResearchWorkspace.goOn, hmarker]
  refine ⟨fun i hi key hkey => ?_, fun i hi key hkey => ?_, h.dropped, fun hnone => ?_, ?_⟩
  · exact (h.published i hi key hkey).mono id rfl hdue
  · exact (h.waiting i hi key hkey).mono id rfl hdue
  · cases hpend.symm.trans hnone
  · rintro other ⟨⟩
    exact ⟨hpend, rfl⟩

theorem Covered.state
    (hpoint : job.point = .state pending) : Covered (job.advance workspace outcome) := by
  obtain ⟨hpend, hindex⟩ : workspace.pending = some pending ∧ workspace.indexFile = some pending := by
    simpa [PointFacts, hpoint] using h.point job hjob
  have hundec : job.isUndecided = !job.publishing := by simp [CheckpointJob.isUndecided, hpoint]
  simp only [CheckpointJob.advance, hpoint]
  have hdue : workspace.rebuildDue →
      ({ workspace with publication := some pending }.goOn job .drop).rebuildDue := by
    rw [rebuildDue_of_job hjob, rebuildDue_of_job rfl, Bool.and_eq_true, Bool.and_eq_true]
    exact fun hd => ⟨hundec.symm.trans hd.1, hd.2⟩
  have hcovered : ∀ key ∈ pending.files.keys,
      IsCovered ({ workspace with publication := some pending }.goOn job .drop) pending key :=
    fun key hkey => (h.waiting pending hpend key hkey).mono id rfl hdue
  refine ⟨fun i hi => ?_, fun i hi => ?_, fun i hi key hkey => ?_, fun hnone => ?_, ?_⟩
  · cases hi
    exact hcovered
  · cases hpend.symm.trans hi
    exact hcovered
  · -- what is published is the journal, and it removes none of its own files
    cases hpend.symm.trans hi
    simp only [ResearchWorkspace.removals, ResearchWorkspace.previousFiles, ResearchWorkspace.goOn, Option.map_some,
      Option.getD_some, List.mem_filter, Bool.and_eq_true, Option.isNone_iff_eq_none] at hkey
    exact absurd hkey.1 (JsMap.get?_eq_none.mp hkey.2.1)
  · cases hpend.symm.trans hnone
  · rintro other ⟨⟩
    exact ⟨hindex, by simp [ResearchWorkspace.goOn, hindex]⟩

theorem Covered.drop (hpoint : job.point = .drop) : Covered (job.advance workspace outcome) := by
  obtain ⟨hagrees, hindexed⟩ : workspace.indexFile = workspace.publication ∧ workspace.indexFile.isSome := by
    simpa [PointFacts, hpoint] using h.point job hjob
  simp only [CheckpointJob.advance, hpoint]
  refine .of_settled rfl hagrees (fun i hi key hkey => (h.published i hi key hkey).mono id rfl ?_) ?_
  · rw [rebuildDue_of_job hjob, rebuildDue_of_job rfl, Bool.and_eq_true, Bool.and_eq_true]
    rintro ⟨hu, hmust⟩
    have hpublishing : job.publishing = false := by simpa [CheckpointJob.isUndecided, hpoint] using hu
    refine ⟨by simp [CheckpointJob.isUndecided, hpublishing], ?_⟩
    revert hmust
    cases hmarker : workspace.marker <;> simp [ResearchWorkspace.mustRebuild, ResearchWorkspace.goOn, hmarker, hindexed]
  · rintro other ⟨⟩
    cases job.publishing <;> rfl

theorem Covered.decide (hpoint : job.point = .decide) : Covered (job.advance workspace outcome) := by
  have hpend : workspace.pending = none := by simpa [PointFacts, hpoint] using h.point job hjob
  simp only [CheckpointJob.advance, hpoint]
  split
  · exact h.proceed hjob (fun _ => rfl) hpend
  · next hkept =>
    -- no rebuild: the marker calls the database complete
    have hdue : workspace.rebuildDue = false := by
      have hneeds : workspace.needsRebuild = false := by simpa using (not_or.mp hkept).2
      have hmust : workspace.mustRebuild = workspace.needsRebuild := by
        simp [ResearchWorkspace.mustRebuild, ResearchWorkspace.needsRebuild, hpend]
      rw [rebuildDue_of_job hjob, hmust, hneeds, Bool.and_false]
    refine .of_settled hpend (h.agrees hpend) (fun i hi key hkey => .inl ?_) ?_
    · exact (h.published i hi key hkey).has hdue
    · rintro other ⟨⟩
      exact hpend

/-- The files of the index that is rebuilt are those of the publication. -/
theorem Covered.rebuild (hpoint : job.point = .rebuild)
    (hkept : CacheKept workspace (.advance outcome)) :
    Covered (job.advance workspace outcome) := by
  have hpend : workspace.pending = none := by simpa [PointFacts, hpoint] using h.point job hjob
  have hagrees := h.agrees hpend
  simp only [CheckpointJob.advance, hpoint]
  split
  · exact h.finished
  · next index hindex =>
    split
    · refine .of_settled hpend hagrees (fun i hi key hkey => .inl ?_) ?_
      · obtain rfl : index = i := Option.some.inj (hindex.symm.trans (hagrees.trans hi))
        simp only [CacheKept, ResearchWorkspace.point, hjob, Option.map_some, hpoint, hindex, List.all_eq_true] at hkept
        obtain ⟨⟨key, record⟩, hmem, rfl⟩ := List.mem_map.mp hkey
        rw [hasOrRemoved_eq_true]
        rcases h.published index hi key hkey with hhas | ⟨-, hrebuilt, htable⟩
        · rcases hasOrRemoved_eq_true.mp hhas with hrow | hgone
          · exact .inl (ResearchDatabase.isSome_rebuild _ hrow)
          · exact .inr hgone
        · have hroom := hkept (key, record) hmem
          rw [Bool.or_eq_true, Bool.and_eq_true, Bool.not_eq_true', Bool.not_eq_true', hasOrRemoved_eq_true] at hroom
          rcases hroom with (hrow | hgone) | ⟨hrows, hfiles⟩
          · exact .inl (ResearchDatabase.isSome_rebuild _ hrow)
          · exact .inr hgone
          · exact .inl (ResearchDatabase.get?_rebuild (JsMap.get?_of_mem hmem) hrebuilt htable hrows hfiles)
      · rintro other ⟨⟩
        exact hpend
    · exact h.finished

end

/-- From where the database holds what is published, a job comes to a point where it still does. -/
theorem Covered.of_has {workspace' : ResearchWorkspace} (h : Covered workspace)
    (hdue : workspace.rebuildDue = false) (hpend : workspace.pending = none)
    (hpubl : workspace'.publication = workspace.publication) (hpend' : workspace'.pending = none)
    (hindex : workspace'.indexFile = workspace.indexFile)
    (hhas : ∀ index key, workspace.hasOrRemoved index key → workspace'.hasOrRemoved index key)
    (hpoint : ∀ job, workspace'.job = some job → PointFacts workspace' job) : Covered workspace' := by
  refine .of_settled hpend' (by rw [hindex, hpubl, h.agrees hpend]) (fun i hi key hkey => .inl ?_) hpoint
  exact hhas i key ((h.published i (hpubl ▸ hi) key hkey).has hdue)

theorem Covered.rebuilt (h : Covered workspace) (hjob : workspace.job = some job) (hpoint : job.point = .rebuilt) : Covered (job.advance workspace outcome) := by
  have hpend : workspace.pending = none := by simpa [PointFacts, hpoint] using h.point job hjob
  have hdue : workspace.rebuildDue = false := by simp [rebuildDue_of_job hjob, CheckpointJob.isUndecided, hpoint]
  simp only [CheckpointJob.advance, hpoint]
  split
  · exact h.of_has hdue hpend rfl hpend rfl (fun _ _ => id) nofun
  · refine h.of_has hdue hpend rfl hpend rfl (fun _ _ => id) ?_
    rintro other ⟨⟩
    exact hpend

theorem Covered.afterEdits (h : Covered workspace) (hjob : workspace.job = some job) (hpoint : job.point = .edits) :
    Covered (workspace.afterEdits job) := by
  have hpend : workspace.pending = none := by simpa [PointFacts, hpoint] using h.point job hjob
  have hdecided : job.isUndecided = false := by simp [CheckpointJob.isUndecided, hpoint]
  unfold ResearchWorkspace.afterEdits
  split
  · exact h.finished
  · split
    · exact h.proceed hjob (by simp [hdecided]) hpend
    · split
      · exact h.proceed hjob (by simp [hdecided]) hpend
      · exact h.finished
    · exact h.finished

variable {key : RecordKey} {index : PublicationIndex}

theorem hasOrRemoved_put (other : RecordKey) (record : Record)
    (h : workspace.hasOrRemoved index key) :
    { workspace with database := workspace.database.put other record }.hasOrRemoved index key := by
  rw [hasOrRemoved_eq_true] at h ⊢
  exact h.imp_left (ResearchDatabase.isSome_put record)

theorem Covered.afterImport (h : Covered workspace) (hjob : workspace.job = some job)
    (hpoint : job.point = .importFile key) :
    Covered (workspace.afterImport job key outcome) := by
  have hpend : workspace.pending = none := by simpa [PointFacts, hpoint] using h.point job hjob
  have hdecided : job.isUndecided = false := by simp [CheckpointJob.isUndecided, hpoint]
  have hdue : workspace.rebuildDue = false := by rw [rebuildDue_of_job hjob, hdecided, Bool.false_and]
  unfold ResearchWorkspace.afterImport
  split
  · exact h.proceed hjob (by simp [hdecided]) hpend
  · next record _ _ =>
    split
    · refine h.of_has hdue hpend rfl hpend rfl (fun i other => hasOrRemoved_put key record) ?_
      rintro other ⟨⟩
      exact hpend
    · exact h.finished
  · exact h.finished

theorem keys_generated (workspace : ResearchWorkspace) :
    workspace.generated.keys = workspace.database.rows.keys := by
  simp only [generated, JsMap.keys, List.map_map]
  rfl

/-- The removals that are read again are those of records that have no row. -/
theorem hasOrRemoved_filter (h : workspace.hasOrRemoved index key) :
    { workspace with removed := workspace.removed.filter fun key =>
      (workspace.database.rows.get? key).isNone }.hasOrRemoved index key := by
  rw [hasOrRemoved_eq_true] at h ⊢
  rcases hrow : workspace.database.rows.get? key with _ | record
  · rw [hrow] at h
    rcases h with h | h | h
    · cases h
    · exact .inr (.inl (List.mem_filter.mpr ⟨h, by simp [hrow]⟩))
    · exact .inr (.inr h)
  · exact .inl rfl

theorem mem_removed_of_removals
    (hpub : ∀ index, workspace.publication = some index → ∀ key ∈ index.files.keys,
      workspace.hasOrRemoved index key) (hkey : key ∈ workspace.removals workspace.nextPublication) :
    key ∈ workspace.removed ∧ workspace.database.rows.get? key = none := by
  rw [removals, List.mem_filter, Bool.and_eq_true, Option.isNone_iff_eq_none,
    Option.isNone_iff_eq_none] at hkey
  obtain ⟨hprev, hfile, hpin⟩ := hkey
  rw [nextPublication, JsMap.get?_eq_none, keys_generated, ← JsMap.get?_eq_none] at hfile
  rw [nextPublication, JsMap.get?_spread] at hpin
  rcases hpubl : workspace.publication with _ | index
  · simp [previousFiles, hpubl] at hprev
  · simp only [previousFiles, hpubl, Option.map_some, Option.getD_some] at hprev
    simp only [previousPins, hpubl, Option.map_some, Option.getD_some] at hpin
    rcases hasOrRemoved_eq_true.mp (hpub index hpubl key hprev) with hrow | hrem | hpinned
    · simp [hfile] at hrow
    · exact ⟨hrem, hfile⟩
    · obtain ⟨record, hrec⟩ := Option.isSome_iff_exists.mp hpinned
      simp [hrec] at hpin

section

variable (h : Covered workspace) (hjob : workspace.job = some job)
include h hjob

theorem Covered.publish (hpoint : job.point = .publish) : Covered (job.advance workspace outcome) := by
  have hpend : workspace.pending = none := by simpa [PointFacts, hpoint] using h.point job hjob
  have hdue : workspace.rebuildDue = false := by simp [rebuildDue_of_job hjob, CheckpointJob.isUndecided, hpoint]
  have hpub : ∀ index, workspace.publication = some index → ∀ key ∈ index.files.keys,
      workspace.hasOrRemoved index key := fun i hi key hkey => (h.published i hi key hkey).has hdue
  simp only [CheckpointJob.advance, hpoint]
  split
  · refine h.of_has hdue hpend rfl hpend rfl (fun i key => hasOrRemoved_filter) ?_
    rintro other ⟨⟩
    refine ⟨hpend, fun key hkey => ?_, fun key hkey => ?_⟩
    · have hrow : workspace.database.rows.get? key ≠ none := by
        rw [ne_eq, JsMap.get?_eq_none, not_not, ← keys_generated]
        exact hkey
      exact hasOrRemoved_eq_true.mpr (.inl (Option.isSome_iff_ne_none.mpr hrow))
    · obtain ⟨hrem, hnone⟩ := mem_removed_of_removals hpub hkey
      exact List.mem_filter.mpr ⟨hrem, by simp [hnone]⟩
  · exact h.finished

theorem Covered.journal
    (hpoint : job.point = .journal pending) : Covered (job.advance workspace outcome) := by
  obtain ⟨hpend, hfiles, hremovals⟩ : workspace.pending = none ∧
      (∀ key ∈ pending.files.keys, workspace.hasOrRemoved pending key) ∧
      ∀ key ∈ workspace.removals pending, key ∈ workspace.removed := by
    simpa only [PointFacts, hpoint] using h.point job hjob
  have hdue : workspace.rebuildDue = false := by simp [rebuildDue_of_job hjob, CheckpointJob.isUndecided, hpoint]
  simp only [CheckpointJob.advance, hpoint]
  refine ⟨fun i hi key hkey => .inl ((h.published i hi key hkey).has hdue), fun i hi key hkey => ?_,
    fun i hi key hkey => ?_, fun hnone => ?_, ?_⟩
  · cases hi
    exact .inl (hfiles key hkey)
  · cases hi
    exact hremovals key hkey
  · cases hnone
  · rintro other ⟨⟩
    refine ⟨rfl, fun key hkey => hremovals key ?_⟩
    simpa [ResearchWorkspace.fileSteps] using hkey

theorem Covered.mark (hpoint : job.point = .mark) : Covered (job.advance workspace outcome) := by
  have hpend : workspace.pending = none := by simpa [PointFacts, hpoint] using h.point job hjob
  have hdue : workspace.rebuildDue = false := by simp [rebuildDue_of_job hjob, CheckpointJob.isUndecided, hpoint]
  simp only [CheckpointJob.advance, hpoint]
  split
  · refine h.of_has hdue hpend rfl hpend rfl (fun _ _ => id) ?_
    rintro other ⟨⟩
    exact hpend
  · exact h.of_has hdue hpend rfl hpend rfl (fun _ _ => id) nofun

theorem Covered.release (hpoint : job.point = .release) : Covered (job.advance workspace outcome) := by
  have hpend : workspace.pending = none := by simpa [PointFacts, hpoint] using h.point job hjob
  have hdue : workspace.rebuildDue = false := by simp [rebuildDue_of_job hjob, CheckpointJob.isUndecided, hpoint]
  simp only [CheckpointJob.advance, hpoint]
  split
  · exact h.finished
  · split
    · refine h.of_has hdue hpend rfl hpend rfl (fun _ _ => id) ?_
      rintro other ⟨⟩
      exact ⟨hpend, rfl⟩
    · exact h.finished

/-- The rows that are deleted are those that a rebuild restores, and the marker calls for it. -/
theorem Covered.prune (hpoint : job.point = .prune) : Covered (job.advance workspace outcome) := by
  obtain ⟨hpend, hmarker⟩ : workspace.pending = none ∧ workspace.marker = .releasing := by
    simpa [PointFacts, hpoint] using h.point job hjob
  simp only [CheckpointJob.advance, hpoint]
  refine .of_settled hpend (h.agrees hpend) (fun i hi key hkey => ?_) ?_
  · have hdue : ({ workspace with database := workspace.database.prune }.goOn job .released).rebuildDue := by
      rw [rebuildDue_of_job rfl]
      simp [CheckpointJob.isUndecided, ResearchWorkspace.mustRebuild, ResearchWorkspace.goOn, hmarker]
    rcases h.published i hi key hkey with hhas | ⟨-, hrebuilt, htable⟩
    · rcases hasOrRemoved_eq_true.mp hhas with hrow | hgone
      · obtain ⟨record, hget⟩ := Option.isSome_iff_exists.mp hrow
        by_cases hrebuilt : key.kind.isRebuilt = true
        · exact .inr ⟨hdue, hrebuilt, workspace.database.stored key record hget⟩
        · refine .inl (hasOrRemoved_eq_true.mpr (.inl ?_))
          have hkept : workspace.database.prune.rows.get? key = some record :=
            JsMap.get?_filter_eq_some.mpr ⟨hget, by simp [hrebuilt]⟩
          exact Option.isSome_of_mem hkept
      · exact .inl (hasOrRemoved_eq_true.mpr (.inr hgone))
    · exact .inr ⟨hdue, hrebuilt, htable⟩
  · rintro other ⟨⟩
    exact ⟨hpend, hmarker⟩

theorem Covered.released (hpoint : job.point = .released) : Covered (job.advance workspace outcome) := by
  obtain ⟨hpend, -⟩ : workspace.pending = none ∧ workspace.marker = .releasing := by
    simpa [PointFacts, hpoint] using h.point job hjob
  simp only [CheckpointJob.advance, hpoint]
  exact .of_settled hpend (h.agrees hpend)
    (fun i hi key hkey => (h.published i hi key hkey).mono id rfl fun _ => rfl) nofun

/-- Each step of a job keeps the invariant. -/
theorem Covered.advance
    (hkept : CacheKept workspace (.advance outcome)) : Covered (job.advance workspace outcome) := by
  cases hpoint : job.point with
  | recover => exact h.recover hjob hpoint
  | finish pending steps => exact h.finish hjob hpoint
  | index pending => exact h.index hjob hpoint
  | state pending => exact h.state hjob hpoint
  | drop => exact h.drop hjob hpoint
  | decide => exact h.decide hjob hpoint
  | rebuild => exact h.rebuild hjob hpoint hkept
  | rebuilt => exact h.rebuilt hjob hpoint
  | edits =>
    have hpend : workspace.pending = none := by simpa [PointFacts, hpoint] using h.point job hjob
    simp only [CheckpointJob.advance, hpoint]
    split
    · exact h.proceed hjob (by simp [CheckpointJob.isUndecided, hpoint]) hpend
    · exact h.afterEdits hjob hpoint
  | importFile key =>
    simp only [CheckpointJob.advance, hpoint]
    exact h.afterImport hjob hpoint
  | baseline key record =>
    have hpend : workspace.pending = none := by simpa [PointFacts, hpoint] using h.point job hjob
    simp only [CheckpointJob.advance, hpoint]
    exact (h.disk _).proceed hjob (by simp [CheckpointJob.isUndecided, hpoint]) hpend
  | publish => exact h.publish hjob hpoint
  | journal pending => exact h.journal hjob hpoint
  | mark => exact h.mark hjob hpoint
  | release => exact h.release hjob hpoint
  | prune => exact h.prune hjob hpoint
  | released => exact h.released hjob hpoint

end

end Advance

/-! ## The operations between them -/

section Operations

variable {workspace : ResearchWorkspace} {workspace' : ResearchWorkspace}

/-- What a job relies on outside the database and the files. -/
theorem PointFacts.mono {job : CheckpointJob} (h : PointFacts workspace job)
    (hpubl : workspace'.publication = workspace.publication)
    (hpend : workspace'.pending = workspace.pending) (hindex : workspace'.indexFile = workspace.indexFile)
    (hmarker : workspace'.marker = workspace.marker) (hrem : workspace.removed ⊆ workspace'.removed)
    (hhas : ∀ index key, workspace.hasOrRemoved index key → workspace'.hasOrRemoved index key) :
    PointFacts workspace' job := by
  have hremovals : workspace'.removals = workspace.removals := by
    funext pending
    simp only [ResearchWorkspace.removals, ResearchWorkspace.previousFiles, hpubl]
  simp only [PointFacts, hpubl, hpend, hindex, hmarker, hremovals] at h ⊢
  split at h
  case h_2 => exact ⟨h.1, fun key hkey => hrem (h.2 key hkey)⟩
  case h_6 => exact ⟨h.1, fun key hkey => hhas _ key (h.2.1 key hkey), fun key hkey => hrem (h.2.2 key hkey)⟩
  all_goals exact h

/-- An operation of the app server: rows that go are removed ones. -/
theorem Covered.operate (h : Covered workspace)
    (hpubl : workspace'.publication = workspace.publication)
    (hpend : workspace'.pending = workspace.pending) (hindex : workspace'.indexFile = workspace.indexFile)
    (hmarker : workspace'.marker = workspace.marker) (hjob : workspace'.job = workspace.job)
    (htables : workspace'.database.tables = workspace.database.tables)
    (hrem : workspace.removed ⊆ workspace'.removed)
    (hhas : ∀ index key, workspace.hasOrRemoved index key → workspace'.hasOrRemoved index key) :
    Covered workspace' := by
  refine h.frame hpubl hpend hindex hrem (fun i key hkey => hkey.mono (hhas i key) htables ?_) ?_
  · simp only [ResearchWorkspace.rebuildDue, ResearchWorkspace.mustRebuild, hjob, hmarker, hindex, hpend, imp_self]
  · intro job hsome
    exact (h.point job (hjob ▸ hsome)).mono hpubl hpend hindex hmarker hrem hhas

theorem Covered.erase (h : Covered workspace) (keys : List RecordKey) :
    Covered (workspace.step (.erase keys)) := by
  refine h.operate rfl rfl rfl rfl rfl rfl (List.subset_append_left _ _) fun i key hkey => ?_
  rw [hasOrRemoved_eq_true] at hkey ⊢
  rcases hkey with hrow | hgone | hpin
  · by_cases hmem : key ∈ keys
    · exact .inr (.inl (List.mem_append_right _ (List.mem_filter.mpr ⟨hmem, hrow⟩)))
    · obtain ⟨record, hget⟩ := Option.isSome_iff_exists.mp hrow
      have hkept : (workspace.database.filter fun e => e.1 ∉ keys).rows.get? key = some record :=
        JsMap.get?_filter_eq_some.mpr ⟨hget, by simpa using hmem⟩
      exact .inl (Option.isSome_of_mem hkept)
  · exact .inr (.inl (List.mem_append_left _ hgone))
  · exact .inr (.inr hpin)

theorem rebuildDue_of_idle (hidle : workspace.job = none) : workspace.rebuildDue = workspace.mustRebuild := by
  simp [rebuildDue, hidle]

section

variable (h : Covered workspace) (hidle : workspace.job = none)
include h hidle

theorem Covered.start (job : CheckpointJob)
    (hpoint : job.point = .recover) (hpublishing : job.publishing = false) :
    Covered { workspace with job := some job } := by
  refine h.frame rfl rfl rfl (List.Subset.refl _) (fun i key hkey => hkey.mono id rfl ?_) ?_
  · rw [rebuildDue_of_idle hidle, rebuildDue_of_job rfl, CheckpointJob.isUndecided, hpoint, Bool.true_and]
    exact id
  · rintro other ⟨⟩
    simpa only [PointFacts, hpoint] using hpublishing

theorem Covered.loseDatabase {tables : List RecordKind}
    (hkept : CacheKept workspace (.loseDatabase tables)) :
    Covered { workspace with database := .ofTables tables } := by
  simp only [CacheKept, hidle, Option.isSome_none, Bool.false_or, Bool.and_eq_true, List.all_eq_true] at hkept
  obtain ⟨hmust, hrestore⟩ := hkept
  -- no row is left, so a record was removed, or its file is pinned, or the next job restores it
  have hcovered : ∀ index ∈ workspace.publication.toList ++ workspace.pending.toList, ∀ key ∈ index.files.keys,
      IsCovered { workspace with database := .ofTables tables } index key := by
    intro index hindex key hkey
    have hone := hrestore index hindex key hkey
    rw [Bool.or_eq_true, Bool.or_eq_true, Bool.and_eq_true, decide_eq_true_eq, decide_eq_true_eq] at hone
    rcases hone with (hgone | hpin) | ⟨hrebuilt, htable⟩
    · exact .inl (hasOrRemoved_eq_true.mpr (.inr (.inl hgone)))
    · exact .inl (hasOrRemoved_eq_true.mpr (.inr (.inr hpin)))
    · exact .inr ⟨(rebuildDue_of_idle hidle).trans hmust, hrebuilt, htable⟩
  refine ⟨fun i hi => ?_, fun i hi => ?_, h.dropped, h.agrees, fun job hjob => ?_⟩
  · exact hcovered i (List.mem_append_left _ (by simpa using hi))
  · exact hcovered i (List.mem_append_right _ (by simpa using hi))
  · cases hidle.symm.trans hjob

/-- Where the marker is lost, the database is rebuilt, unless there is nothing to rebuild it from. -/
theorem Covered.loseMarker (unreadable : Bool) :
    Covered { workspace with marker := if unreadable then .unreadable else .missing } := by
  have hfacts : ∀ job, workspace.job = some job →
      PointFacts { workspace with marker := if unreadable then .unreadable else .missing } job :=
    fun job hjob => by cases hidle.symm.trans hjob
  by_cases hnil : unreadable = false ∧ workspace.indexFile = none ∧ workspace.pending = none
  · obtain ⟨-, hindex, hpend⟩ := hnil
    have hpubl : workspace.publication = none := (h.agrees hpend).symm.trans hindex
    exact .of_settled hpend (h.agrees hpend) (fun i hi => by cases hpubl.symm.trans hi) hfacts
  · refine h.frame rfl rfl rfl (List.Subset.refl _) (fun i key hkey => hkey.mono id rfl fun _ => ?_) hfacts
    refine (rebuildDue_of_idle ?_).trans ?_
    · exact hidle
    · cases unreadable with
      | true => rfl
      | false =>
        have hsome := not_and_or.mp fun hboth => hnil ⟨rfl, hboth⟩
        simpa [ResearchWorkspace.mustRebuild, Option.isSome_iff_ne_none] using hsome

end

/-- A step that meets the condition keeps the invariant. -/
theorem Covered.step (h : Covered workspace) {event : ResearchEvent} (hkept : CacheKept workspace event) :
    Covered (workspace.step event) := by
  cases event with
  | start action edit =>
    simp only [ResearchWorkspace.step]
    split
    · exact h
    · next hidle => exact h.start (by simpa using hidle) ⟨action, edit, false, .recover⟩ rfl rfl
  | advance outcome =>
    simp only [ResearchWorkspace.step]
    split
    · exact h
    · next job hjob => exact h.advance hjob hkept
  | crash => exact h.finished
  | store key record =>
    simp only [ResearchWorkspace.step]
    split
    · exact h
    · exact h.operate rfl rfl rfl rfl rfl (ResearchDatabase.put_tables _ _ _) (List.Subset.refl _)
        fun i other => hasOrRemoved_put key record
  | erase keys => exact h.erase keys
  | edit key content => exact h.disk _
  | loseDatabase tables =>
    simp only [ResearchWorkspace.step]
    split
    · exact h
    · next hidle => exact h.loseDatabase (by simpa using hidle) hkept
  | loseMarker unreadable =>
    simp only [ResearchWorkspace.step]
    split
    · exact h
    · next hidle => exact h.loseMarker (by simpa using hidle) unreadable

theorem SavedResearch.covered (h : SavedResearch workspace) : Covered workspace := by
  refine .of_settled h.settled h.agrees (fun i hi key hkey => ?_) fun job hjob => by cases h.idle.symm.trans hjob
  rcases h.saved i hi key hkey with hhas | ⟨hneeds, hrestore⟩
  · exact .inl hhas
  · refine .inr ⟨?_, hrestore⟩
    rw [rebuildDue_of_idle h.idle]
    simpa [ResearchWorkspace.mustRebuild, ResearchWorkspace.needsRebuild, h.settled] using hneeds

/-- Under the invariant, a job reads what is published, and removes the files of removed records. -/
theorem Covered.justified (h : Covered workspace) (event : ResearchEvent) : Justified workspace event := by
  unfold Justified
  split
  · split
    · next hpoint =>
      obtain ⟨job, hjob, hat⟩ := Option.map_eq_some_iff.mp hpoint
      have hdue : workspace.rebuildDue = false := by simp [rebuildDue_of_job hjob, CheckpointJob.isUndecided, hat]
      simp only [Option.all_eq_true, List.all_eq_true]
      exact fun i hi key hkey => (h.published i hi key hkey).has hdue
    · next hpoint =>
      obtain ⟨job, hjob, hat⟩ := Option.map_eq_some_iff.mp hpoint
      have hfacts := h.point job hjob
      simp only [PointFacts, hat] at hfacts
      exact decide_eq_true (hfacts.2 _ List.mem_cons_self)
    · rfl
  · rfl

end Operations

/-! ## Every run -/

/-- In a run whose steps meet the condition, a publication reads a database that holds what is published,
and removes the file of a record only where an operation has removed the record. -/
theorem removals_justified {workspace : ResearchWorkspace} (h : SavedResearch workspace)
    {events : List ResearchEvent}
    (hkept : RunMeets ResearchWorkspace.step (fun w e => CacheKept w e) workspace events) :
    RunMeets ResearchWorkspace.step (fun w e => Justified w e) workspace events :=
  RunMeets.of_invariant (I := Covered) (fun _ _ hcovered hone => hcovered.step hone)
    (fun _ event hcovered _ => hcovered.justified event) h.covered hkept

/-- A claim that is published, in a database that the marker calls complete. -/
def publishedClaim : ResearchWorkspace :=
  let claim : RecordKey := ⟨.claim, js "claim_1"⟩
  let record : Record := ⟨[js "catalog:overflow"], false, js "Overflow in the parser"⟩
  { database := (ResearchDatabase.ofTables [.claim]).put claim record
    disk := .set .empty claim record
    indexFile := some ⟨.set .empty claim record, .empty⟩
    publication := some ⟨.set .empty claim record, .empty⟩
    marker := .ready }

theorem publishedClaim_saved : SavedResearch publishedClaim :=
  ⟨rfl, rfl, rfl, by rintro index ⟨⟩ key hkey; exact .inl (by revert key; decide)⟩

def jobSteps (action : CheckpointAction) (n : Nat) : List ResearchEvent :=
  .start action none :: List.replicate n (.advance .rejected)

/-- The database is released and lost, and so is the marker; the job after it rebuilds it and publishes. -/
def releasedAndLost : List ResearchEvent :=
  jobSteps .release 16 ++ [.loseDatabase [.claim], .loseMarker false] ++ jobSteps .publish 16
    ++ [.erase [⟨.claim, js "claim_1"⟩]] ++ jobSteps .publish 16

theorem removals_justified_releasedAndLost :
    RunMeets ResearchWorkspace.step (fun w e => Justified w e) publishedClaim releasedAndLost :=
  removals_justified publishedClaim_saved (by decide +kernel)

/-- The database is lost while the marker calls it complete. The next job removes the file of the claim. -/
theorem removal_of_kept_claim : SavedResearch publishedClaim ∧
    ¬ RunMeets ResearchWorkspace.step (fun w e => Justified w e) publishedClaim
      (.loseDatabase [.claim] :: jobSteps .publish 6) ∧
    (runSteps ResearchWorkspace.step publishedClaim (.loseDatabase [.claim] :: jobSteps .publish 6)).disk.keys = [] ∧
    (runSteps ResearchWorkspace.step publishedClaim (.loseDatabase [.claim] :: jobSteps .publish 6)).removed = [] :=
  ⟨publishedClaim_saved, by decide +kernel, by decide +kernel, by decide +kernel⟩

end Beale.Publication
