import Beale.Library.Client
import Beale.Library.Json
import Mathlib.Data.List.Sort
import Mathlib.Data.Rat.Defs
import Mathlib.Algebra.Order.Ring.Rat

/-!
# Openers of a database

Whoever opens a database brings its schema up to date: it reads which migrations the ledger has, and
applies the others, each in a transaction of its own. Several openers may do so at the same time.

- `DatabaseMigration`, `MigrationRow`: the migrations, and the rows of the ledger.
-/

namespace Beale.Migrations

open Beale.Library

variable {σ : Type}

/-! ## Definitions -/

structure DatabaseMigration (σ : Type) where
  version : Rat
  name : JsString
  up : σ → Except JsString σ

/-- A row of `schema_migrations`. -/
structure MigrationRow where
  component : JsString
  version : Rat
  name : JsString
deriving DecidableEq

def versionText (version : Rat) : JsString := natText version.num.toNat

/-- The start of the messages about a migration. -/
def migrationLabel (component : JsString) (version : Rat) : JsString :=
  js "Migration " ++ component ++ js ":" ++ versionText version

/-- `validateMigrationDefinitions`, from the given place on and after the given versions. -/
def validateMigrationDefinitions (component : JsString) :
    Nat → List Rat → List (DatabaseMigration σ) → Except JsString Unit
  | _, _, [] => .ok ()
  | index, versions, migration :: rest =>
    if migration.version.den ≠ 1 ∨ migration.version ≤ 0 then
      .error (js "Migration versions for " ++ component ++ js " must be positive integers.")
    else if versions.contains migration.version then
      .error (js "Duplicate migration version for " ++ component ++ js ": "
        ++ versionText migration.version ++ js ".")
    else if migration.version ≠ index + 1 then
      .error (js "Migration versions for " ++ component ++ js " must be contiguous starting at 1.")
    else if trim migration.name = [] then
      .error (migrationLabel component migration.version ++ js " requires a name.")
    else validateMigrationDefinitions component (index + 1) (versions ++ [migration.version]) rest

def ordered (migrations : List (DatabaseMigration σ)) : List (DatabaseMigration σ) :=
  migrations.insertionSort fun left right => left.version ≤ right.version

/-! ## The names of before -/

def preBealeRuntimeId : JsString := js "honeycrisp"

/-- `text.replace(needle, replacement)`: the first occurrence. -/
def replaceFirst (needle replacement : JsString) : JsString → JsString
  | [] => []
  | unit :: rest =>
    if needle.isPrefixOf (unit :: rest) then replacement ++ (unit :: rest).drop needle.length
    else unit :: replaceFirst needle replacement rest

/-- All occurrences are replaced, after as many units as are to be skipped. -/
def replaceAfter (needle replacement : JsString) : Nat → JsString → JsString
  | _, [] => []
  | skip + 1, _ :: rest => replaceAfter needle replacement skip rest
  | 0, unit :: rest =>
    if needle.isPrefixOf (unit :: rest) then
      replacement ++ replaceAfter needle replacement (needle.length - 1) rest
    else unit :: replaceAfter needle replacement 0 rest

/-- `instr(text, needle) > 0`. -/
def mentions (needle text : JsString) : Bool := text.tails.any needle.isPrefixOf

def presentName (name : JsString) : JsString := replaceAfter preBealeRuntimeId (js "app_server") 0 name

/-- A row of `sqlite_master`. -/
structure SchemaObject where
  type : JsString
  name : JsString
  sql : Option JsString

/-- What the adoption takes from the database. -/
structure SchemaPlatform (σ : Type) where
  legacyObjects : σ → List SchemaObject
  hasTable : σ → JsString → Bool
  dropObject : SchemaObject → σ → Except JsString σ
  renameTable : JsString → JsString → σ → Except JsString σ
  execute : JsString → σ → Except JsString σ

variable (env : SchemaPlatform σ)

/-- A table takes its present name. -/
def adoptTable (schema : σ) (object : SchemaObject) : Except JsString σ := do
  let nextName := replaceFirst (preBealeRuntimeId ++ js "_") (js "app_server_") object.name
  if env.hasTable schema nextName then
    throw (js "Cannot adopt the pre-Beale table " ++ object.name ++ js ": " ++ nextName
      ++ js " already exists.")
  env.renameTable object.name nextName schema

/-- The objects that were found take their present names. -/
def adoptObjects (objects : List SchemaObject) (schema : σ) : Except JsString σ := do
  let recreated := objects.filter fun object =>
    object.type ≠ js "table" ∧ (object.sql.getD []) ≠ []
  let dropped ← recreated.foldlM (fun schema object => env.dropObject object schema) schema
  let renamed ← (objects.filter (·.type = js "table")).foldlM (adoptTable env) dropped
  recreated.reverse.foldlM
    (fun schema object => env.execute (presentName (object.sql.getD [])) schema) renamed

/-- A row has a name of before. -/
def isLegacyRow (row : MigrationRow) : Bool :=
  mentions preBealeRuntimeId row.component || mentions preBealeRuntimeId row.name

/-- The rows take their present names. -/
def adoptRows (rows : List MigrationRow) : Except JsString (List MigrationRow) :=
  let adopted := rows.map fun row =>
    if isLegacyRow row then
      { row with component := presentName row.component, name := presentName row.name }
    else row
  if (adopted.map fun row => (row.component, row.version)).Nodup then .ok adopted
  else .error (js "UNIQUE constraint failed: schema_migrations.component, schema_migrations.version")

/-! ## The check of the history -/

def appliedRows (component : JsString) (rows : List MigrationRow) : List MigrationRow :=
  (rows.filter (·.component = component)).insertionSort fun left right => left.version ≤ right.version

def checkHistory (component : JsString) (migrations : List (DatabaseMigration σ))
    (applied : List MigrationRow) : Except JsString Unit :=
  if applied.zipIdx.any fun (row, index) => row.version ≠ index + 1 then
    .error (js "Database migration history for " ++ component ++ js " is not contiguous.")
  else
    let latestVersion := (migrations.getLast?.map (·.version)).getD 0
    match applied.find? fun row => row.version > latestVersion
        ∨ !(migrations.any fun migration => migration.version = row.version) with
    | some row => .error (js "Database schema for " ++ component
        ++ js " is newer or unknown at migration " ++ versionText row.version ++ js ".")
    | none => .ok ()

/-! ## Openers -/

inductive OpenerPhase (σ : Type) where
  | started
  | ledgerCreated
  | objectsRead (objects : List SchemaObject)
  | adopting (objects : List SchemaObject)
  | inAdoption (objects : List SchemaObject)
  | named
  | migrating (applied : List MigrationRow) (rest : List (DatabaseMigration σ))
  | inMigration (applied : List MigrationRow) (migration : DatabaseMigration σ)
      (rest : List (DatabaseMigration σ))
  | done
  | failed (message : JsString)
  | crashed

/-- What has been committed, who has the write lock, and the openers. -/
structure MigratingDatabase (ι σ : Type) where
  schema : σ
  ledger : Option (List MigrationRow)
  lock : Option ι
  phase : ι → OpenerPhase σ

/-- What an opener does: it goes on, it gives up waiting for the lock, or it crashes. -/
inductive OpenerMove where
  | go
  | timeout
  | crash

namespace MigratingDatabase

variable {ι : Type} [DecidableEq ι]

def rows (d : MigratingDatabase ι σ) : List MigrationRow := d.ledger.getD []

def enter (d : MigratingDatabase ι σ) (opener : ι) (phase : OpenerPhase σ) : MigratingDatabase ι σ :=
  { d with phase := fun other => if other = opener then phase else d.phase other }

def needsLock (d : MigratingDatabase ι σ) (opener : ι) : Bool :=
  match d.phase opener with
  | .started => d.ledger.isNone
  | .adopting _ => true
  | .migrating applied (migration :: _) => (applied.find? (·.version = migration.version)).isNone
  | _ => false

/-- The opener waits: it needs the lock, and another one has it. -/
def waits (d : MigratingDatabase ι σ) (opener : ι) : Bool := d.needsLock opener && d.lock.isSome

variable (component : JsString) (migrations : List (DatabaseMigration σ))

/-- The transaction of a migration: its change of the schema, and its row. -/
def applyMigration (d : MigratingDatabase ι σ) (migration : DatabaseMigration σ) :
    Except JsString (σ × List MigrationRow) := do
  let schema ← migration.up d.schema
  if d.rows.any fun row => row.component = component ∧ row.version = migration.version then
    throw (js "UNIQUE constraint failed: schema_migrations.component, schema_migrations.version")
  return (schema, d.rows ++ [⟨component, migration.version, migration.name⟩])

def go (d : MigratingDatabase ι σ) (opener : ι) : MigratingDatabase ι σ :=
  match d.phase opener with
  | .started =>
    match validateMigrationDefinitions component 0 [] (ordered migrations) with
    | .error message => d.enter opener (.failed message)
    | .ok () => { d.enter opener .ledgerCreated with ledger := some d.rows }
  | .ledgerCreated => d.enter opener (.objectsRead (env.legacyObjects d.schema))
  | .objectsRead objects =>
    if objects.isEmpty && !d.rows.any isLegacyRow then d.enter opener .named
    else d.enter opener (.adopting objects)
  | .adopting objects => { d.enter opener (.inAdoption objects) with lock := some opener }
  | .inAdoption objects =>
    match adoptObjects env objects d.schema, adoptRows d.rows with
    | .ok schema, .ok rows =>
      { d.enter opener .named with schema := schema, ledger := some rows, lock := none }
    | .error message, _ => { d.enter opener (.failed message) with lock := none }
    | _, .error message => { d.enter opener (.failed message) with lock := none }
  | .named =>
    let applied := appliedRows component d.rows
    match checkHistory component (ordered migrations) applied with
    | .error message => d.enter opener (.failed message)
    | .ok () => d.enter opener (.migrating applied (ordered migrations))
  | .migrating _ [] => d.enter opener .done
  | .migrating applied (migration :: rest) =>
    match applied.find? (·.version = migration.version) with
    | some row =>
      if row.name ≠ migration.name then
        d.enter opener (.failed (migrationLabel component migration.version ++ js " was renamed from "
          ++ row.name ++ js " to " ++ migration.name ++ js "."))
      else d.enter opener (.migrating applied rest)
    | none => { d.enter opener (.inMigration applied migration rest) with lock := some opener }
  | .inMigration applied migration rest =>
    match applyMigration component d migration with
    | .ok (schema, rows) =>
      { d.enter opener (.migrating applied rest) with
        schema := schema, ledger := some rows, lock := none }
    | .error message =>
      { d.enter opener (.failed (migrationLabel component migration.version ++ js " ("
          ++ migration.name ++ js ") failed: " ++ message)) with lock := none }
  | .done => d
  | .failed _ => d
  | .crashed => d

def crash (d : MigratingDatabase ι σ) (opener : ι) : MigratingDatabase ι σ :=
  match d.phase opener with
  | .done => d
  | .failed _ => d
  | _ => { d.enter opener .crashed with lock := if d.lock = some opener then none else d.lock }

def step (d : MigratingDatabase ι σ) (i : ι × OpenerMove) : MigratingDatabase ι σ :=
  match i.2 with
  | .go => if d.waits i.1 then d else d.go env component migrations i.1
  | .timeout => if d.waits i.1 then d.enter i.1 (.failed (js "database is locked")) else d
  | .crash => d.crash i.1

/-- A database whose ledger has rows of other components, if there is one. -/
def initial (schema : σ) (others : Option (List MigrationRow)) : MigratingDatabase ι σ where
  schema
  ledger := others.map (List.filter (·.component ≠ component))
  lock := none
  phase _ := .started

end MigratingDatabase

end Beale.Migrations
