import Beale.Migrations.Openers
import Mathlib.Tactic.Linarith
import Mathlib.Tactic.Ring

/-!
# Openers that migrate at the same time

An opener reads the ledger once and then takes the lock for each migration it has to apply. What it
read may be old by then: another opener has applied the migration, and the row of the ledger that the
opener inserts is there.

- `sound_iff`: a run without adoptions is sound exactly if its openers are undisturbed.
-/

namespace Beale.Migrations

open Beale.Library

variable {σ : Type} {component : JsString} {migrations : List (DatabaseMigration σ)}

/-! ## Lists that pass the check -/

theorem validate_ok {l : List (DatabaseMigration σ)} {index : Nat} {versions : List Rat}
    (h : validateMigrationDefinitions component index versions l = .ok ()) :
    ∀ i (hi : i < l.length), l[i].version = index + i + 1 := by
  induction l generalizing index versions with
  | nil => exact fun i hi => absurd hi (Nat.not_lt_zero i)
  | cons migration rest ih =>
    unfold validateMigrationDefinitions at h
    split at h
    · cases h
    · split at h
      · cases h
      · split at h
        · cases h
        · next hver =>
          split at h
          · cases h
          · intro i hi
            cases i with
            | zero => simpa using not_not.mp hver
            | succ i =>
              have hrest := ih h i (Nat.lt_of_succ_lt_succ hi)
              rw [List.getElem_cons_succ, hrest]
              push_cast
              ring

def ledgerRow (component : JsString) (migration : DatabaseMigration σ) : MigrationRow :=
  ⟨component, migration.version, migration.name⟩

def firstRows (component : JsString) (migrations : List (DatabaseMigration σ)) (k : Nat) :
    List MigrationRow := ((ordered migrations).take k).map (ledgerRow component)

/-- The definitions pass their check. -/
def Valid (component : JsString) (migrations : List (DatabaseMigration σ)) : Prop :=
  validateMigrationDefinitions component 0 [] (ordered migrations) = .ok ()

namespace Valid

variable (h : Valid component migrations)
include h

theorem version {i : Nat} (hi : i < (ordered migrations).length) :
    (ordered migrations)[i].version = i + 1 := by
  have hver := validate_ok h i hi
  simpa using hver

theorem firstRows_getElem {k i : Nat} (hi : i < (firstRows component migrations k).length) :
    (firstRows component migrations k)[i].version = i + 1 := by
  have hlt : i < (ordered migrations).length := by
    simp only [firstRows, List.length_map, List.length_take] at hi
    omega
  simp only [firstRows, List.getElem_map, List.getElem_take, ledgerRow]
  exact h.version hlt

theorem firstRows_sorted (k : Nat) : (firstRows component migrations k).Pairwise
    fun left right => left.version ≤ right.version := by
  refine List.pairwise_iff_getElem.mpr fun i j hi hj hij => ?_
  rw [h.firstRows_getElem hi, h.firstRows_getElem hj]
  have hle : (i : Rat) ≤ j := by exact_mod_cast Nat.le_of_lt hij
  linarith

theorem find_firstRows {k j : Nat} (hj : j < (ordered migrations).length) :
    (firstRows component migrations k).find? (·.version = (ordered migrations)[j].version) =
      if j < k then some (ledgerRow component (ordered migrations)[j]) else none := by
  rw [h.version hj]
  have hindex {i : Nat} (hi : i < (firstRows component migrations k).length) :
      (firstRows component migrations k)[i].version = j + 1 ↔ i = j := by
    rw [h.firstRows_getElem hi]
    constructor
    · intro heq
      have hcast : (i : Rat) = j := by linarith
      exact_mod_cast hcast
    · rintro rfl
      rfl
  have hlen : (firstRows component migrations k).length = min k (ordered migrations).length := by
    simp [firstRows]
  split
  · next hlt =>
    have hj' : j < (firstRows component migrations k).length := by omega
    refine List.find?_eq_some_iff_getElem.mpr ⟨?_, j, hj', ?_, fun i hi => ?_⟩
    · exact decide_eq_true (h.version hj)
    · simp [firstRows]
    · have hne := (hindex (Nat.lt_trans hi hj')).not.mpr (Nat.ne_of_lt hi)
      simpa using hne
  · next hge =>
    refine List.find?_eq_none.mpr fun row hrow => ?_
    obtain ⟨i, hi, rfl⟩ := List.mem_iff_getElem.mp hrow
    have hne : i ≠ j := by omega
    simpa using (hindex hi).not.mpr hne

theorem checkHistory_firstRows {k : Nat} (hk : k ≤ (ordered migrations).length) :
    checkHistory component (ordered migrations) (firstRows component migrations k) = .ok () := by
  have hlen : (firstRows component migrations k).length = k := by
    simp only [firstRows, List.length_map, List.length_take]
    omega
  have hcontiguous : ∀ row index, (row, index) ∈ (firstRows component migrations k).zipIdx →
      row.version = index + 1 := by
    intro row index hmem
    obtain ⟨hi, hrow⟩ := List.getElem?_eq_some_iff.mp (List.mk_mem_zipIdx_iff_getElem?.mp hmem)
    rw [← hrow]
    exact h.firstRows_getElem hi
  have hknown : (firstRows component migrations k).find? (fun row =>
      row.version > (((ordered migrations).getLast?.map (·.version)).getD 0) ∨
        !((ordered migrations).any fun migration => migration.version = row.version)) = none := by
    refine List.find?_eq_none.mpr fun row hrow => ?_
    obtain ⟨i, hi, rfl⟩ := List.mem_iff_getElem.mp hrow
    have hi' : i < (ordered migrations).length := by omega
    have hany : ((ordered migrations).any fun migration =>
        migration.version = (firstRows component migrations k)[i].version) = true := by
      refine List.any_eq_true.mpr ⟨(ordered migrations)[i], List.getElem_mem hi', ?_⟩
      rw [h.firstRows_getElem hi, h.version hi']
      exact decide_eq_true rfl
    have hlast : (ordered migrations).getLast? = some (ordered migrations)[(ordered migrations).length - 1] := by
      rw [List.getLast?_eq_getElem?]
      exact List.getElem?_eq_getElem (by omega)
    have hle : ((i : Nat) : Rat) ≤ ((ordered migrations).length - 1 : Nat) := by
      exact_mod_cast (by omega : i ≤ (ordered migrations).length - 1)
    rw [hany, hlast, Option.map_some, Option.getD_some, h.version, h.firstRows_getElem hi]
    simp only [Bool.not_true, Bool.false_eq_true, or_false, decide_eq_true_eq, not_lt, gt_iff_lt]
    linarith
  unfold checkHistory
  rw [if_neg]
  · dsimp only
    rw [hknown]
  · rw [List.any_eq_true]
    rintro ⟨⟨row, index⟩, hmem, hver⟩
    exact of_decide_eq_true hver (hcontiguous row index hmem)

end Valid

/-! ## The migrated database -/

def schemaAfter (migrations : List (DatabaseMigration σ)) (schema : σ) (k : Nat) : Except JsString σ :=
  ((ordered migrations).take k).foldlM (fun schema migration => migration.up schema) schema

/-- What a lone opener makes of a schema to which nothing has been applied. -/
def openAlone (component : JsString) (migrations : List (DatabaseMigration σ)) (schema : σ) :
    Except JsString σ := do
  validateMigrationDefinitions component 0 [] (ordered migrations)
  (ordered migrations).foldlM (fun schema migration => migration.up schema) schema

def FailsAlone (component : JsString) (migrations : List (DatabaseMigration σ)) (schema : σ) : Prop :=
  ∃ message, openAlone component migrations schema = .error message

section

variable {schema schema' : σ} {k : Nat} (hk : k < (ordered migrations).length)
  (h : schemaAfter migrations schema k = .ok schema')
include hk h

theorem schemaAfter_succ :
    schemaAfter migrations schema (k + 1) = (ordered migrations)[k].up schema' := by
  rw [schemaAfter] at h
  rw [schemaAfter, List.take_succ_eq_append_getElem hk, List.foldlM_append, h]
  show (ordered migrations)[k].up schema' >>= pure = _
  exact bind_pure _

theorem failsAlone_of_up {message : JsString}
    (hup : (ordered migrations)[k].up schema' = .error message) :
    FailsAlone component migrations schema := by
  have hsplit : ordered migrations =
      (ordered migrations).take (k + 1) ++ (ordered migrations).drop (k + 1) :=
    (List.take_append_drop _ _).symm
  have hfirst : schemaAfter migrations schema (k + 1) = .error message := by
    rw [schemaAfter_succ hk h, hup]
  have hall : (ordered migrations).foldlM (fun schema migration => migration.up schema) schema =
      .error message := by
    rw [hsplit, List.foldlM_append]
    rw [schemaAfter] at hfirst
    rw [hfirst]
    rfl
  cases hvalid : validateMigrationDefinitions component 0 [] (ordered migrations) with
  | error invalid => exact ⟨invalid, by rw [openAlone, hvalid]; rfl⟩
  | ok _ => exact ⟨message, by rw [openAlone, hvalid, hall]; rfl⟩

end

namespace MigratingDatabase

variable {ι : Type}

variable (component migrations) in
/-- The first migrations, and no others, have been applied, each once and in order. -/
structure Migrated (original : σ) (d : MigratingDatabase ι σ) (k : Nat) : Prop where
  bound : k ≤ (ordered migrations).length
  rows : d.rows.filter (·.component = component) = firstRows component migrations k
  schema : schemaAfter migrations original k = .ok d.schema

variable (component migrations) in
/-- The database is migrated so far, openers that are done see all migrations applied, and openers
fail only where a lone one would. -/
structure Sound (original : σ) (d : MigratingDatabase ι σ) : Prop where
  migrated : ∃ k, Migrated component migrations original d k
  complete : ∀ opener, d.phase opener = .done →
    Migrated component migrations original d (ordered migrations).length
  failures : ∀ opener message, d.phase opener = .failed message →
    FailsAlone component migrations original

/-- An opener that looks for names of before finds none. -/
def NothingToAdopt (env : SchemaPlatform σ) (d : MigratingDatabase ι σ) (i : ι × OpenerMove) : Prop :=
  match i.2, d.phase i.1 with
  | .go, .ledgerCreated => env.legacyObjects d.schema = []
  | .go, .objectsRead _ => d.rows.any isLegacyRow = false
  | _, _ => True

variable (component) in
/-- The migration of a transaction is not in the ledger, and no opener gives up waiting. -/
def Undisturbed (d : MigratingDatabase ι σ) (i : ι × OpenerMove) : Prop :=
  match i.2 with
  | .go => match d.phase i.1 with
    | .inMigration _ migration _ =>
      ∀ row ∈ d.rows, row.component = component → row.version ≠ migration.version
    | _ => True
  | .timeout => d.waits i.1 = false
  | .crash => True

/-! ## The invariant -/

variable (component migrations) in
/-- How far an opener is goes with the number of migrations that have been applied: those it has
been through are applied, and so are those whose rows it has read. -/
def PhaseSound (original : σ) (k : Nat) : OpenerPhase σ → Prop
  | .started => True
  | .ledgerCreated => Valid component migrations
  | .objectsRead objects => Valid component migrations ∧ objects = []
  | .adopting _ => False
  | .inAdoption _ => False
  | .named => Valid component migrations
  | .migrating applied rest => Valid component migrations ∧ ∃ j a, j ≤ k ∧ a ≤ k ∧
      rest = (ordered migrations).drop j ∧ applied = firstRows component migrations a
  | .inMigration applied migration rest => Valid component migrations ∧ ∃ j a, j ≤ k ∧ a ≤ j ∧
      migration :: rest = (ordered migrations).drop j ∧ applied = firstRows component migrations a
  | .done => k = (ordered migrations).length
  | .failed _ => FailsAlone component migrations original
  | .crashed => True

variable (component migrations) in
structure SoundAt (original : σ) (d : MigratingDatabase ι σ) (k : Nat) : Prop where
  migrated : Migrated component migrations original d k
  phases : ∀ opener, PhaseSound component migrations original k (d.phase opener)

variable {d : MigratingDatabase ι σ} {original : σ}

theorem SoundAt.sound {k : Nat}
    (h : SoundAt component migrations original d k) : Sound component migrations original d := by
  refine ⟨⟨k, h.migrated⟩, fun opener hdone => ?_, fun opener message hfail => ?_⟩
  · have hphase := h.phases opener
    rw [hdone] at hphase
    rw [← show k = (ordered migrations).length from hphase]
    exact h.migrated
  · have hphase := h.phases opener
    rw [hfail] at hphase
    exact hphase

variable {phase : OpenerPhase σ}

/-- An applied migration more. -/
theorem PhaseSound.mono {k : Nat}
    (h : PhaseSound component migrations original k phase) (hk : k < (ordered migrations).length) :
    PhaseSound component migrations original (k + 1) phase := by
  cases phase with
  | migrating applied rest =>
    obtain ⟨hvalid, j, a, hj, ha, hrest⟩ := h
    exact ⟨hvalid, j, a, Nat.le_succ_of_le hj, Nat.le_succ_of_le ha, hrest⟩
  | inMigration applied migration rest =>
    obtain ⟨hvalid, j, a, hj, hrest⟩ := h
    exact ⟨hvalid, j, a, Nat.le_succ_of_le hj, hrest⟩
  | done => exact absurd (show k = (ordered migrations).length from h) (Nat.ne_of_lt hk)
  | _ => exact h

variable [DecidableEq ι] {opener : ι}

theorem SoundAt.enter {d' : MigratingDatabase ι σ} {k : Nat}
    (h : SoundAt component migrations original d k)
    (hphase : d'.phase = (d.enter opener phase).phase)
    (hsound : PhaseSound component migrations original k phase) (hrows : d'.rows = d.rows := by rfl)
    (hschema : d'.schema = d.schema := by rfl) : SoundAt component migrations original d' k := by
  refine ⟨⟨h.migrated.bound, hrows ▸ h.migrated.rows, hschema ▸ h.migrated.schema⟩, fun other => ?_⟩
  rw [hphase]
  by_cases heq : other = opener
  · rw [show (d.enter opener phase).phase other = phase from if_pos heq]
    exact hsound
  · rw [show (d.enter opener phase).phase other = d.phase other from if_neg heq]
    exact h.phases other

omit [DecidableEq ι] in
theorem soundAt_initial (schema : σ) (others : Option (List MigrationRow)) :
    SoundAt component migrations schema (initial component schema others : MigratingDatabase ι σ) 0 := by
  refine ⟨⟨Nat.zero_le _, ?_, rfl⟩, fun _ => trivial⟩
  rw [firstRows, List.take_zero, List.map_nil]
  cases others with
  | none => rfl
  | some rows =>
    show (rows.filter _).filter _ = []
    rw [List.filter_filter]
    refine List.filter_eq_nil_iff.mpr fun row _ => ?_
    by_cases hrow : row.component = component
    · simp [hrow]
    · simp [hrow]

variable {env : SchemaPlatform σ} {original : σ} {d : MigratingDatabase ι σ} {k : Nat}

omit [DecidableEq ι] in
theorem applyMigration_new (h : Migrated component migrations original d k)
    (hvalid : Valid component migrations) (hk : k < (ordered migrations).length) :
    (∃ schema, applyMigration component d (ordered migrations)[k] =
        .ok (schema, d.rows ++ [ledgerRow component (ordered migrations)[k]]) ∧
      schemaAfter migrations original (k + 1) = .ok schema) ∨
    (∃ message, applyMigration component d (ordered migrations)[k] = .error message) ∧
      FailsAlone component migrations original := by
  have hnew : d.rows.any (fun row => row.component = component ∧
      row.version = (ordered migrations)[k].version) = false := by
    refine List.any_eq_false.mpr fun row hrow => ?_
    have hfind := hvalid.find_firstRows (k := k) hk
    rw [if_neg (Nat.lt_irrefl k), ← h.rows] at hfind
    by_cases hcomp : row.component = component
    · have hne := List.find?_eq_none.mp hfind row (List.mem_filter.mpr ⟨hrow, decide_eq_true hcomp⟩)
      simpa [hcomp] using hne
    · simp [hcomp]
  cases hup : (ordered migrations)[k].up d.schema with
  | error message =>
    exact .inr ⟨⟨message, by rw [applyMigration, hup]; rfl⟩, failsAlone_of_up hk h.schema hup⟩
  | ok schema =>
    refine .inl ⟨schema, ?_, by rw [schemaAfter_succ hk h.schema, hup]⟩
    rw [applyMigration, hup]
    show (if d.rows.any (fun row => row.component = component ∧
      row.version = (ordered migrations)[k].version) = true then throw _ else pure _) = _
    rw [hnew]
    rfl

variable {rest : List (DatabaseMigration σ)}

theorem SoundAt.commit (h : SoundAt component migrations original d k) {schema : σ}
    {a : Nat} (hvalid : Valid component migrations)
    (hk : k < (ordered migrations).length) (ha : a ≤ k)
    (hrest : (ordered migrations)[k] :: rest = (ordered migrations).drop k)
    (hschema : schemaAfter migrations original (k + 1) = .ok schema) :
    SoundAt component migrations original
      { d.enter opener (.migrating (firstRows component migrations a) rest) with
        schema := schema
        ledger := some (d.rows ++ [ledgerRow component (ordered migrations)[k]])
        lock := none } (k + 1) := by
  refine ⟨⟨hk, ?_, hschema⟩, fun other => ?_⟩
  · show (d.rows ++ [ledgerRow component (ordered migrations)[k]]).filter _ = _
    have hown : (ledgerRow component (ordered migrations)[k]).component = component := rfl
    rw [List.filter_append, h.migrated.rows, List.filter_singleton, hown]
    simp only [decide_true]
    rw [firstRows, firstRows, List.take_succ_eq_append_getElem hk, List.map_append]
    rfl
  · show PhaseSound component migrations original (k + 1) (if other = opener then _ else d.phase other)
    split
    · refine ⟨hvalid, k + 1, a, Nat.le_refl _, Nat.le_succ_of_le ha, ?_, rfl⟩
      rw [List.drop_eq_getElem_cons hk] at hrest
      exact (List.cons.inj hrest).2
    · exact (h.phases other).mono hk

variable {migration : DatabaseMigration σ}

theorem head_of_drop {j : Nat} (h : migration :: rest = (ordered migrations).drop j) :
    ∃ hj : j < (ordered migrations).length, (ordered migrations)[j] = migration ∧
      rest = (ordered migrations).drop (j + 1) := by
  have hj : j < (ordered migrations).length := by
    by_contra hge
    rw [List.drop_eq_nil_of_le (Nat.le_of_not_lt hge)] at h
    cases h
  rw [List.drop_eq_getElem_cons hj] at h
  obtain ⟨rfl, hrest⟩ := List.cons.inj h
  exact ⟨hj, rfl, hrest⟩

omit [DecidableEq ι] in
theorem appliedRows_eq (h : Migrated component migrations original d k)
    (hvalid : Valid component migrations) :
    appliedRows component d.rows = firstRows component migrations k := by
  rw [appliedRows, h.rows]
  exact List.Pairwise.insertionSort_eq (hvalid.firstRows_sorted k)

omit [DecidableEq ι] in
theorem applyMigration_applied {row : MigrationRow} (hrow : row ∈ d.rows)
    (hcomp : row.component = component) (hver : row.version = migration.version) :
    ∃ message, applyMigration component d migration = .error message := by
  have hany : d.rows.any (fun row => row.component = component ∧ row.version = migration.version) =
      true := List.any_eq_true.mpr ⟨row, hrow, decide_eq_true ⟨hcomp, hver⟩⟩
  cases hup : migration.up d.schema with
  | error message => exact ⟨message, by rw [applyMigration, hup]; rfl⟩
  | ok schema =>
    refine ⟨js "UNIQUE constraint failed: schema_migrations.component, schema_migrations.version", ?_⟩
    rw [applyMigration, hup]
    show (if d.rows.any (fun row => row.component = component ∧
      row.version = migration.version) = true then throw _ else pure _) = _
    rw [hany]
    rfl

omit [DecidableEq ι] in
theorem next_of_new (h : Migrated component migrations original d k)
    (hvalid : Valid component migrations) {j : Nat} (hj : j < (ordered migrations).length) (hjk : j ≤ k)
    (hnew : ∀ row ∈ d.rows, row.component = component →
      row.version ≠ (ordered migrations)[j].version) : j = k := by
  by_contra hne
  have hfind := hvalid.find_firstRows (k := k) hj
  rw [if_pos (by omega), ← h.rows] at hfind
  have hmem := List.mem_of_find?_eq_some hfind
  exact hnew _ (List.mem_filter.mp hmem).1 rfl rfl

theorem go_soundAt (h : SoundAt component migrations original d k)
    (hadopt : NothingToAdopt env d (opener, .go))
    (hcond : Undisturbed component d (opener, .go) ∨ FailsAlone component migrations original) :
    ∃ k', SoundAt component migrations original (d.go env component migrations opener) k' := by
  have hphase := h.phases opener
  unfold go
  cases hd : d.phase opener with
  | started =>
    simp only
    cases hvalid : validateMigrationDefinitions component 0 [] (ordered migrations) with
    | error message =>
      refine ⟨k, h.enter rfl ⟨message, ?_⟩⟩
      rw [openAlone, hvalid]
      rfl
    | ok _ => exact ⟨k, h.enter rfl hvalid⟩
  | ledgerCreated =>
    rw [hd] at hphase
    simp only [NothingToAdopt, hd] at hadopt
    exact ⟨k, h.enter rfl ⟨hphase, hadopt⟩⟩
  | objectsRead objects =>
    rw [hd] at hphase
    obtain ⟨hvalid, rfl⟩ := hphase
    simp only [NothingToAdopt, hd] at hadopt
    simp only [hadopt, List.isEmpty_nil, Bool.not_false, Bool.and_self, if_true]
    exact ⟨k, h.enter rfl hvalid⟩
  | adopting | inAdoption =>
    rw [hd] at hphase
    exact hphase.elim
  | named =>
    rw [hd] at hphase
    have hvalid : Valid component migrations := hphase
    simp only [appliedRows_eq h.migrated hvalid, hvalid.checkHistory_firstRows h.migrated.bound]
    exact ⟨k, h.enter rfl ⟨hvalid, 0, k, Nat.zero_le k, Nat.le_refl k, rfl, rfl⟩⟩
  | migrating applied rest =>
    rw [hd] at hphase
    obtain ⟨hvalid, j, a, hj, ha, hrest, rfl⟩ := hphase
    cases rest with
    | nil =>
      have hend := List.drop_eq_nil_iff.mp hrest.symm
      exact ⟨k, h.enter rfl (Nat.le_antisymm h.migrated.bound (Nat.le_trans hend hj))⟩
    | cons migration rest =>
      obtain ⟨hlt, rfl, hrest'⟩ := head_of_drop hrest
      simp only [hvalid.find_firstRows hlt]
      by_cases hja : j < a
      · simp only [if_pos hja]
        rw [if_neg (by simp [ledgerRow])]
        exact ⟨k, h.enter rfl ⟨hvalid, j + 1, a, Nat.lt_of_lt_of_le hja ha, ha, hrest', rfl⟩⟩
      · simp only [if_neg hja]
        exact ⟨k, h.enter rfl ⟨hvalid, j, a, hj, Nat.le_of_not_lt hja, hrest, rfl⟩⟩
  | inMigration applied migration rest =>
    rw [hd] at hphase
    obtain ⟨hvalid, j, a, hj, ha, hrest, rfl⟩ := hphase
    obtain ⟨hlt, rfl, -⟩ := head_of_drop hrest
    by_cases hjk : j = k
    · subst hjk
      rcases applyMigration_new h.migrated hvalid hlt with ⟨schema, hok, hschema⟩ | ⟨⟨message, herror⟩, hfails⟩
      · simp only [hok]
        exact ⟨j + 1, h.commit hvalid hlt ha hrest hschema⟩
      · simp only [herror]
        exact ⟨j, h.enter rfl hfails⟩
    · have hfails : FailsAlone component migrations original := by
        refine hcond.resolve_left fun hnew => hjk ?_
        simp only [Undisturbed, hd] at hnew
        exact next_of_new h.migrated hvalid hlt hj hnew
      cases happly : applyMigration component d (ordered migrations)[j] with
      | error message =>
        simp only [happly]
        exact ⟨k, h.enter rfl hfails⟩
      | ok result =>
        have hfind := hvalid.find_firstRows (k := k) hlt
        rw [if_pos (by omega), ← h.migrated.rows] at hfind
        have hmem := (List.mem_filter.mp (List.mem_of_find?_eq_some hfind)).1
        obtain ⟨message, herror⟩ : ∃ message,
            applyMigration component d (ordered migrations)[j] = .error message :=
          applyMigration_applied hmem rfl rfl
        rw [herror] at happly
        cases happly
  | done | failed | crashed => exact ⟨k, h⟩

variable {i : ι × OpenerMove}

theorem step_soundAt (h : SoundAt component migrations original d k)
    (hadopt : NothingToAdopt env d i)
    (hcond : Undisturbed component d i ∨ FailsAlone component migrations original) :
    ∃ k', SoundAt component migrations original (step env component migrations d i) k' := by
  obtain ⟨opener, move⟩ := i
  unfold step
  cases move with
  | go =>
    simp only
    split
    · exact ⟨k, h⟩
    · exact go_soundAt h hadopt hcond
  | timeout =>
    simp only
    split
    · next hwaits =>
      refine ⟨k, h.enter rfl (hcond.resolve_left fun hpatient => ?_)⟩
      rw [show d.waits opener = false from hpatient] at hwaits
      cases hwaits
    · exact ⟨k, h⟩
  | crash =>
    simp only
    unfold crash
    split
    · exact ⟨k, h⟩
    · exact ⟨k, h⟩
    · exact ⟨k, h.enter rfl trivial⟩

variable (env migrations) in
theorem failed_of_disturbed (hdisturbed : ¬Undisturbed component d i) :
    ∃ message, (step env component migrations d i).phase i.1 = .failed message := by
  obtain ⟨opener, move⟩ := i
  unfold step
  cases move with
  | go =>
    cases hd : d.phase opener with
    | inMigration applied migration rest =>
      simp only [Undisturbed, hd, not_forall, not_not] at hdisturbed
      obtain ⟨row, hrow, hcomp, hver⟩ := hdisturbed
      obtain ⟨message, herror⟩ := applyMigration_applied hrow hcomp hver
      simp only [waits, needsLock, go, hd, herror, Bool.false_and, Bool.false_eq_true, if_false]
      exact ⟨_, if_pos rfl⟩
    | _ =>
      simp only [Undisturbed, hd, not_true_eq_false] at hdisturbed
  | timeout =>
    simp only [Undisturbed, Bool.not_eq_false] at hdisturbed
    simp only [hdisturbed, if_true]
    exact ⟨_, if_pos rfl⟩
  | crash => exact absurd trivial hdisturbed

/-- A step is sound exactly if it disturbs no opener, or a lone opener would fail as well. -/
theorem step_sound_iff (h : SoundAt component migrations original d k)
    (hadopt : NothingToAdopt env d i) :
    Sound component migrations original (step env component migrations d i) ↔
      Undisturbed component d i ∨ FailsAlone component migrations original := by
  constructor
  · intro hsound
    by_cases hcalm : Undisturbed component d i
    · exact .inl hcalm
    · obtain ⟨message, hfail⟩ := failed_of_disturbed migrations env hcalm
      exact .inr (hsound.failures i.1 message hfail)
  · intro hcond
    obtain ⟨k', hk'⟩ := step_soundAt h hadopt hcond
    exact hk'.sound

/-- In a run of openers that find no names of before, the database is at all times migrated by the
first migrations, each once and in order, an opener that is done sees all of them applied, and an
opener fails only where a lone one would, exactly if no opener comes to a migration that another one
has applied, and none gives up waiting for the lock; or a lone opener would fail as well. -/
theorem sound_iff (env : SchemaPlatform σ) (component : JsString)
    (migrations : List (DatabaseMigration σ)) (schema : σ) (others : Option (List MigrationRow))
    (steps : List (ι × OpenerMove)) :
    RunMeets (step env component migrations) (fun d i => NothingToAdopt env d i ∧
        Sound component migrations schema (step env component migrations d i))
      (initial component schema others) steps ↔
    RunMeets (step env component migrations) (fun d i => NothingToAdopt env d i ∧
        (Undisturbed component d i ∨ FailsAlone component migrations schema))
      (initial component schema others) steps :=
  runMeets_iff_of_invariant (I := fun d => ∃ k, SoundAt component migrations schema d k)
    (fun _ _ ⟨_, h⟩ => and_congr_right fun hadopt => step_sound_iff h hadopt)
    (fun _ _ ⟨_, h⟩ hcond => step_soundAt h hcond.1 hcond.2) ⟨0, soundAt_initial schema others⟩ steps

/-! ## Two openers -/

/-- A schema that is the number of its migrations, and has no names of before. -/
def countingSchema : SchemaPlatform Nat where
  legacyObjects _ := []
  hasTable _ _ := false
  dropObject _ schema := .ok schema
  renameTable _ _ schema := .ok schema
  execute _ schema := .ok schema

def oneMigration : List (DatabaseMigration Nat) := [⟨1, js "create", fun schema => .ok (schema + 1)⟩]

/-- Both openers read the ledger before the first of them applies the migration. -/
def bothRead : List (Bool × OpenerMove) :=
  [(true, .go), (true, .go), (true, .go), (true, .go), (false, .go), (false, .go), (false, .go),
    (false, .go), (true, .go), (true, .go), (true, .go), (false, .go), (false, .go)]

/-- The message of an opener that has failed. -/
def failure? : OpenerPhase σ → Option JsString
  | .failed message => some message
  | _ => none

/-- The second opener has failed, though a lone opener would not fail. -/
theorem second_opener_fails :
    failure? ((runSteps (step countingSchema (js "sessions") oneMigration)
        (initial (js "sessions") 0 none : MigratingDatabase Bool Nat) bothRead).phase false) =
      some (js "Migration sessions:1 (create) failed: UNIQUE constraint failed: schema_migrations.component, schema_migrations.version") ∧
    (openAlone (js "sessions") oneMigration 0).toOption = some 1 ∧
    ¬Sound (js "sessions") oneMigration 0
      (runSteps (step countingSchema (js "sessions") oneMigration)
        (initial (js "sessions") 0 none : MigratingDatabase Bool Nat) bothRead) := by
  have hmessage : failure? ((runSteps (step countingSchema (js "sessions") oneMigration)
      (initial (js "sessions") 0 none : MigratingDatabase Bool Nat) bothRead).phase false) =
    some (js "Migration sessions:1 (create) failed: UNIQUE constraint failed: schema_migrations.component, schema_migrations.version") := by
    decide +kernel
  have halone : (openAlone (js "sessions") oneMigration 0).toOption = some 1 := by decide +kernel
  refine ⟨hmessage, halone, fun hsound => ?_⟩
  cases hphase : (runSteps (step countingSchema (js "sessions") oneMigration)
      (initial (js "sessions") 0 none : MigratingDatabase Bool Nat) bothRead).phase false with
  | failed message =>
    obtain ⟨error, herror⟩ := hsound.failures false message hphase
    rw [herror] at halone
    cases halone
  | _ =>
    rw [hphase] at hmessage
    cases hmessage

end MigratingDatabase

end Beale.Migrations
