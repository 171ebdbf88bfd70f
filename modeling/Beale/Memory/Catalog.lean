import Beale.Library.Client
import Beale.Library.JsMap
import Beale.Library.StableJson

/-!
# Memory catalogs

The type catalog of a research profile, and what it asks of a memory node.
-/

namespace Beale.Memory

open Beale.Library

/-! ## Catalogs -/

inductive ResearchProfileAttributeType where
  | string
  | number
  | boolean
deriving DecidableEq, Repr

def ResearchProfileAttributeType.text : ResearchProfileAttributeType → JsString
  | .string => js "string"
  | .number => js "number"
  | .boolean => js "boolean"

/-- A value an attribute definition may list. -/
inductive Scalar where
  | string (s : JsString)
  | number (n : { n : JsNumber // n.Proper })
  | boolean (b : Bool)
deriving DecidableEq

def Scalar.json : Scalar → Json
  | .string s => .str s
  | .number n => .num n.1
  | .boolean b => .bool b

/-- `SameValueZero` of a listed value and another value. -/
def Scalar.is : Scalar → Json → Bool
  | .string s, .str t => s = t
  | .number n, .num m => n.1 = m
  | .boolean b, .bool c => b = c
  | _, _ => false

/-- `ResearchProfileAttributeDefinition`, without its description. -/
structure ResearchProfileAttributeDefinition where
  type : ResearchProfileAttributeType
  pattern : Option JsString
  enum : Option (List Scalar)
deriving DecidableEq

/-- `ResearchProfileMemoryRequirement`. A list that is missing is the empty one: both ask
for nothing. -/
structure ResearchProfileMemoryRequirement where
  statuses : List JsString
  requiredAttributes : List JsString
  requireEvidence : Bool
  requireAssetLinks : Bool
  requiredNeighborTypes : List JsString
deriving DecidableEq

inductive Lifecycle where
  | active
  | retired
deriving DecidableEq, Repr

/-- `ResearchProfileMemoryType`, as far as the store reads it. -/
structure ResearchProfileMemoryType where
  id : JsString
  lifecycle : Lifecycle
  creatable : Bool
  requiresExplicitStatus : Bool
  aliases : List JsString
  defaultStatus : JsString
  allowedStatuses : List JsString
  attributes : Option (JsMap JsString ResearchProfileAttributeDefinition)
  requirements : List ResearchProfileMemoryRequirement

inductive Polarity where
  | positive
  | neutral
  | negative
deriving DecidableEq, Repr

def Polarity.text : Polarity → JsString
  | .positive => js "positive"
  | .neutral => js "neutral"
  | .negative => js "negative"

structure ResearchProfileMemoryStatus where
  id : JsString
  terminal : Bool
  polarity : Option Polarity
deriving DecidableEq

structure ResearchProfileEvidenceKind where
  id : JsString
  allowsPath : Bool
deriving DecidableEq

inductive PathFormat where
  | relative
  | url
  | either
deriving DecidableEq, Repr

def PathFormat.text : PathFormat → JsString
  | .relative => js "relative"
  | .url => js "url"
  | .either => js "either"

structure ResearchProfileEvidencePathBase where
  id : JsString
  pathFormat : Option PathFormat
deriving DecidableEq

/-- `ResearchProfileMemory`, normalized: its types have distinct ids. The names, descriptions,
orders and limits, which only the hash of the catalog covers, are one value. -/
structure ResearchProfileMemory where
  types : List ResearchProfileMemoryType
  statuses : List ResearchProfileMemoryStatus
  evidenceKinds : List ResearchProfileEvidenceKind
  evidencePathBases : List ResearchProfileEvidencePathBase
  relations : List JsString
  presentation : Json
  uniqueTypes : (types.map ResearchProfileMemoryType.id).Nodup

/-- `typesById.get(id)`. -/
def ResearchProfileMemory.typeOf? (memory : ResearchProfileMemory) (id : JsString) :
    Option ResearchProfileMemoryType := memory.types.find? fun type => type.id = id

/-! ## Nodes -/

structure MemoryEvidenceRef where
  id : JsString
  kind : JsString
  pathBase : Option JsString
  path : Option JsString
  locator : Json
  summary : JsString
  createdAt : JsString

structure MemoryWorkspaceMembership where
  id : JsString
  name : JsString
deriving DecidableEq

/-- A `MemoryNode`, without what the tables derive: its duplicates and its provenance. -/
structure MemoryNode where
  id : JsString
  surfaceId : Option JsString
  sessionIds : List JsString
  workspaces : List MemoryWorkspaceMembership
  subjectId : JsString
  subjectName : JsString
  type : JsString
  title : JsString
  summary : JsString
  body : JsString
  status : JsString
  confidence : Rat
  assetIds : List Text
  tags : List JsString
  attributes : JsMap JsString Json
  evidence : List MemoryEvidenceRef
  createdAt : JsString
  updatedAt : JsString
  revision : Nat

structure MemoryNodeProfileIdentity where
  hash : JsString
  id : JsString
  version : JsString
deriving DecidableEq

/-- What the store takes from outside. -/
structure MemoryPlatform where
  /-- `createHash("sha256").update(text).digest("hex")` -/
  sha256 : JsString → JsString
  /-- `text.toLowerCase()` -/
  toLowerCase : JsString → JsString
  /-- `new RegExp(pattern, "u").test(text)` -/
  patternTest : JsString → JsString → Bool
  /-- `memoryCatalogHash`: the hash of the canonical text of a catalog -/
  memoryCatalogHash : ResearchProfileMemory → JsString
  /-- whether the rules of a catalog are those of the default one: its nodes may have been
  stored before catalogs were recorded -/
  preservesLegacyNodeIds : ResearchProfileMemory → Bool
  /-- the hash of the canonical text of a node -/
  nodeHash : MemoryNode → JsString

/-- `memoryNodeValidationHash`. The surface of a node is not covered. -/
def memoryNodeValidationHash (env : MemoryPlatform) (node : MemoryNode) : JsString :=
  env.nodeHash { node with surfaceId := none }

structure ActiveMemoryCatalog where
  memory : ResearchProfileMemory
  profile : Option MemoryNodeProfileIdentity

def ActiveMemoryCatalog.hash (env : MemoryPlatform) (catalog : ActiveMemoryCatalog) : JsString :=
  env.memoryCatalogHash catalog.memory

/-! ## Attributes -/

/-- A check that throws. -/
def ensure (condition : Bool) (error : JsString) : Except JsString Unit :=
  if condition then .ok () else .error error

theorem ensure_ok {condition : Bool} {error : JsString} :
    ensure condition error = .ok () ↔ condition = true := by
  rw [ensure]
  split <;> simp_all

/-- The properties every object inherits. A read of a definition under such a name finds one,
without a type. -/
def objectPrototype : List JsString :=
  [js "constructor", js "__defineGetter__", js "__defineSetter__", js "hasOwnProperty",
    js "__lookupGetter__", js "__lookupSetter__", js "isPrototypeOf", js "propertyIsEnumerable",
    js "toString", js "valueOf", js "__proto__", js "toLocaleString"]

/-- What `memoryType.attributes?.[name]` finds. -/
inductive FoundDefinition where
  | own (definition : ResearchProfileAttributeDefinition)
  | inherited
deriving DecidableEq

def ResearchProfileMemoryType.definition? (type : ResearchProfileMemoryType) (name : JsString) :
    Option FoundDefinition :=
  type.attributes.bind fun attributes =>
    match attributes.get? name with
    | some definition => some (.own definition)
    | none => if objectPrototype.contains name then some .inherited else none

def isFinite : JsNumber → Bool
  | .integer _ => true
  | .other text => !([js "NaN", js "Infinity", js "-Infinity"].contains text)

/-- Whether a value has the type of a definition. -/
def hasType : ResearchProfileAttributeType → Json → Bool
  | .string, .str _ => true
  | .number, .num n => isFinite n
  | .boolean, .bool _ => true
  | _, _ => false

/-- One turn of the loop of `validateAttributeValues`. -/
def validateAttributeValue (env : MemoryPlatform) (typeId : JsString) (name : JsString)
    (value : Json) : Option FoundDefinition → Except JsString Unit
  | none => .ok ()
  | some .inherited =>
    .error (js "Memory node type " ++ typeId ++ js " attribute " ++ name ++ js " must be a undefined.")
  | some (.own definition) => do
    ensure (hasType definition.type value)
      (js "Memory node type " ++ typeId ++ js " attribute " ++ name ++ js " must be a "
        ++ definition.type.text ++ js ".")
    ensure (definition.enum.all fun values => values.any fun listed => listed.is value)
      (js "Memory node type " ++ typeId ++ js " attribute " ++ name
        ++ js " has an unsupported value.")
    -- an empty pattern is no pattern, and a value that is no text has none to match
    ensure ((definition.pattern.filter (· ≠ [])).all fun pattern =>
        value.asString?.all fun text => env.patternTest pattern text)
      (js "Memory node type " ++ typeId ++ js " attribute " ++ name
        ++ js " does not match its required pattern.")

def validateAttributeValues (env : MemoryPlatform) (attributes : List (JsString × Json))
    (type : ResearchProfileMemoryType) : Except JsString Unit :=
  attributes.forM fun m => validateAttributeValue env type.id m.1 m.2 (type.definition? m.1)

def hasRequiredAttribute (attributes : JsMap JsString Json) (name : JsString) : Bool :=
  match attributes.get? name with
  | none => false
  | some (.str text) => !isBlank text
  | some _ => true

/-! ## The validation of a node -/

structure MemoryConstraintValidationScope where
  full : Bool
  status : Bool
  attributes : Bool
  assetIds : Bool
  evidence : Bool
  neighbors : Bool
deriving DecidableEq, Repr

def fullConstraintValidationScope : MemoryConstraintValidationScope :=
  ⟨true, true, true, true, true, true⟩

/-- The requirement is about the nodes of a status. -/
def ResearchProfileMemoryRequirement.applies (requirement : ResearchProfileMemoryRequirement)
    (status : JsString) : Bool :=
  requirement.statuses.isEmpty || requirement.statuses.contains status

def disallowedStatus (typeId status : JsString) : JsString :=
  if typeId = js "hypothesis" ∧ status = js "confirmed" then
    js "A proven hypothesis must be reclassified as a primitive or chain instead of confirmed in place."
  else js "Memory node type " ++ typeId ++ js " does not allow status: " ++ status

def missingAttributesError (typeId : JsString) (missing : List JsString) : JsString :=
  if typeId = js "chain" ∧ (js "impact" ∈ missing ∨ js "reachability" ∈ missing) then
    js "Chain nodes require non-empty impact and reachability attributes."
  else js "Memory node type " ++ typeId ++ js " requires non-empty attributes: "
    ++ joinWith (js ", ") missing ++ js "."

section

variable (env : MemoryPlatform) (node : MemoryNode) (type : ResearchProfileMemoryType)
  (scope : MemoryConstraintValidationScope) (r : ResearchProfileMemoryRequirement)

/-- The required attributes are there; where only the status is new, their values pass too. -/
def requireAttributes : Except JsString Unit :=
  if scope.full || scope.status || scope.attributes then do
    let missing := r.requiredAttributes.filter fun name => !hasRequiredAttribute node.attributes name
    ensure missing.isEmpty (missingAttributesError type.id missing)
    if !scope.full && scope.status then
      validateAttributeValues env (r.requiredAttributes.filterMap fun name =>
        (node.attributes.get? name).map (name, ·)) type
  else .ok ()

def requireAssetLinks : Except JsString Unit :=
  ensure (!(r.requireAssetLinks && (scope.full || scope.status || scope.assetIds)
      && node.assetIds.isEmpty))
    (if type.id = js "bug" then js "Historical bug memories require at least one affected asset."
      else js "Memory node type " ++ type.id ++ js " requires at least one asset link.")

def requireEvidence : Except JsString Unit :=
  ensure (!(r.requireEvidence && (scope.full || scope.status || scope.evidence)
      && node.evidence.isEmpty))
    (if type.id = js "bug" then js "Historical bug memories require precedent evidence."
      else js "Memory node type " ++ type.id ++ js " requires evidence.")

def requireNeighborTypes (neighborTypes : List JsString) : Except JsString Unit :=
  if !r.requiredNeighborTypes.isEmpty && (scope.full || scope.status || scope.neighbors) then
    let missing := r.requiredNeighborTypes.filter (!neighborTypes.contains ·)
    ensure missing.isEmpty (js "Memory node type " ++ type.id
      ++ js " requires linked neighbor types: " ++ joinWith (js ", ") missing ++ js ".")
  else .ok ()

/-- One turn of the loop of `validateCompleteNode`. The neighbour types are those of the graph
and of the links being written. -/
def validateRequirement (neighborTypes : List JsString) : Except JsString Unit :=
  if r.applies node.status then do
    requireAttributes env node type scope r
    requireAssetLinks node type scope r
    requireEvidence node type scope r
    requireNeighborTypes type scope r neighborTypes
  else .ok ()

end

def validateCompleteNode (env : MemoryPlatform) (node : MemoryNode) (type : ResearchProfileMemoryType)
    (scope : MemoryConstraintValidationScope) (neighborTypes : List JsString) :
    Except JsString Unit := do
  ensure (!(scope.full && !type.allowedStatuses.contains node.status))
    (disallowedStatus type.id node.status)
  if scope.full then validateAttributeValues env node.attributes.entries type
  type.requirements.forM fun r => validateRequirement env node type scope r neighborTypes

/-! ## What the validation means -/

/-- The value of an attribute passes its definition. -/
def AttributeOk (env : MemoryPlatform) (type : ResearchProfileMemoryType) (name : JsString)
    (value : Json) : Prop :=
  validateAttributeValue env type.id name value (type.definition? name) = .ok ()

/-- A node meets a requirement, in the parts of it that a scope asks for. -/
structure ScopedMet (env : MemoryPlatform) (node : MemoryNode) (type : ResearchProfileMemoryType)
    (scope : MemoryConstraintValidationScope) (neighborTypes : List JsString)
    (r : ResearchProfileMemoryRequirement) : Prop where
  attributes : (scope.full || scope.status || scope.attributes) = true →
    ∀ name ∈ r.requiredAttributes, hasRequiredAttribute node.attributes name = true
  values : (!scope.full && scope.status) = true → ∀ name ∈ r.requiredAttributes, ∀ value,
    node.attributes.get? name = some value → AttributeOk env type name value
  assets : r.requireAssetLinks = true → (scope.full || scope.status || scope.assetIds) = true →
    node.assetIds ≠ []
  evidence : r.requireEvidence = true → (scope.full || scope.status || scope.evidence) = true →
    node.evidence ≠ []
  neighbors : (scope.full || scope.status || scope.neighbors) = true →
    ∀ t ∈ r.requiredNeighborTypes, t ∈ neighborTypes

structure RequirementMet (node : MemoryNode) (neighborTypes : List JsString)
    (r : ResearchProfileMemoryRequirement) : Prop where
  attributes : ∀ name ∈ r.requiredAttributes, hasRequiredAttribute node.attributes name = true
  assets : r.requireAssetLinks = true → node.assetIds ≠ []
  evidence : r.requireEvidence = true → node.evidence ≠ []
  neighbors : ∀ t ∈ r.requiredNeighborTypes, t ∈ neighborTypes

/-- The complete validation of a node: its status is allowed, its attributes pass their
definitions, and it meets every requirement for its status. -/
structure Complete (env : MemoryPlatform) (node : MemoryNode) (type : ResearchProfileMemoryType)
    (neighborTypes : List JsString) : Prop where
  status : node.status ∈ type.allowedStatuses
  attributes : ∀ m ∈ node.attributes.entries, AttributeOk env type m.1 m.2
  requirements : ∀ r ∈ type.requirements, r.applies node.status = true →
    RequirementMet node neighborTypes r

theorem forM_ok {α ε : Type} {f : α → Except ε Unit} {l : List α} :
    l.forM f = .ok () ↔ ∀ a ∈ l, f a = .ok () := by
  induction l with
  | nil => simp [pure, Except.pure]
  | cons a rest ih =>
    show (f a >>= fun _ => rest.forM f) = .ok () ↔ _
    rw [Client.exceptThen_ok, List.forall_mem_cons, ih]

theorem validateAttributeValues_ok {env : MemoryPlatform} {attributes : List (JsString × Json)}
    {type : ResearchProfileMemoryType} :
    validateAttributeValues env attributes type = .ok () ↔
      ∀ m ∈ attributes, AttributeOk env type m.1 m.2 := forM_ok

section

variable {env : MemoryPlatform} {node : MemoryNode} {type : ResearchProfileMemoryType}
  {scope : MemoryConstraintValidationScope} {r : ResearchProfileMemoryRequirement}

theorem requireAttributes_ok : requireAttributes env node type scope r = .ok () ↔
    ((scope.full || scope.status || scope.attributes) = true →
      ∀ name ∈ r.requiredAttributes, hasRequiredAttribute node.attributes name = true) ∧
    ((!scope.full && scope.status) = true → ∀ name ∈ r.requiredAttributes, ∀ value,
      node.attributes.get? name = some value → AttributeOk env type name value) := by
  have hmissing : (r.requiredAttributes.filter fun name =>
      !hasRequiredAttribute node.attributes name).isEmpty = true ↔
      ∀ name ∈ r.requiredAttributes, hasRequiredAttribute node.attributes name = true := by
    simp [List.filter_eq_nil_iff]
  have hvalues : validateAttributeValues env (r.requiredAttributes.filterMap fun name =>
        (node.attributes.get? name).map (name, ·)) type = .ok () ↔
      ∀ name ∈ r.requiredAttributes, ∀ value, node.attributes.get? name = some value →
        AttributeOk env type name value := by
    rw [validateAttributeValues_ok]
    constructor
    · intro h name hname value hvalue
      exact h (name, value) (List.mem_filterMap.mpr ⟨name, hname, by rw [hvalue]; rfl⟩)
    · intro h m hm
      obtain ⟨name, hname, hget⟩ := List.mem_filterMap.mp hm
      obtain ⟨value, hvalue, rfl⟩ := Option.map_eq_some_iff.mp hget
      exact h name hname value hvalue
  rw [requireAttributes]
  split
  · next hscope =>
    rw [Client.exceptThen_ok, ensure_ok, hmissing]
    simp only [hscope, true_implies]
    refine and_congr_right fun _ => ?_
    split
    · next hst => simp only [hvalues, hst, true_implies]
    · next hst => simp [pure, Except.pure, hst]
  · next hscope =>
    have hst : ¬ (!scope.full && scope.status) = true := by
      intro h
      simp_all
    simp [hscope, hst]

variable {neighborTypes : List JsString}

theorem requireNeighborTypes_ok :
    requireNeighborTypes type scope r neighborTypes = .ok () ↔
      ((scope.full || scope.status || scope.neighbors) = true →
        ∀ t ∈ r.requiredNeighborTypes, t ∈ neighborTypes) := by
  have hmissing : (r.requiredNeighborTypes.filter (!neighborTypes.contains ·)).isEmpty = true ↔
      ∀ t ∈ r.requiredNeighborTypes, t ∈ neighborTypes := by
    simp [List.filter_eq_nil_iff]
  rw [requireNeighborTypes]
  split
  · next hscope =>
    rw [Bool.and_eq_true] at hscope
    simp only [ensure_ok, hmissing, hscope.2, true_implies]
  · next hscope =>
    refine iff_of_true rfl fun h => ?_
    have hnone : r.requiredNeighborTypes = [] := by simpa [h] using hscope
    simp [hnone]

theorem validateRequirement_ok :
    validateRequirement env node type scope r neighborTypes = .ok () ↔
      (r.applies node.status = true → ScopedMet env node type scope neighborTypes r) := by
  have hassets : requireAssetLinks node type scope r = .ok () ↔ (r.requireAssetLinks = true →
      (scope.full || scope.status || scope.assetIds) = true → node.assetIds ≠ []) := by
    rw [requireAssetLinks, ensure_ok]
    cases r.requireAssetLinks <;> cases (scope.full || scope.status || scope.assetIds) <;>
      simp [List.isEmpty_iff]
  have hev : requireEvidence node type scope r = .ok () ↔ (r.requireEvidence = true →
      (scope.full || scope.status || scope.evidence) = true → node.evidence ≠ []) := by
    rw [requireEvidence, ensure_ok]
    cases r.requireEvidence <;> cases (scope.full || scope.status || scope.evidence) <;>
      simp [List.isEmpty_iff]
  rw [validateRequirement]
  split
  · next happlies =>
    simp only [Client.exceptThen_ok, requireAttributes_ok, hassets, hev,
      requireNeighborTypes_ok, happlies, true_implies]
    constructor
    · rintro ⟨⟨hattrs, hvalues⟩, hassets, hev, hneighbors⟩
      exact ⟨hattrs, hvalues, hassets, hev, hneighbors⟩
    · rintro ⟨hattrs, hvalues, hassets, hev, hneighbors⟩
      exact ⟨⟨hattrs, hvalues⟩, hassets, hev, hneighbors⟩
  · next happlies => simp [happlies]

theorem validateCompleteNode_ok :
    validateCompleteNode env node type scope neighborTypes = .ok () ↔
      (scope.full = true → node.status ∈ type.allowedStatuses ∧
        ∀ m ∈ node.attributes.entries, AttributeOk env type m.1 m.2) ∧
      ∀ r ∈ type.requirements, r.applies node.status = true →
        ScopedMet env node type scope neighborTypes r := by
  rw [validateCompleteNode, Client.exceptThen_ok, ensure_ok]
  cases hfull : scope.full with
  | false =>
    simp only [Bool.false_and, Bool.not_false, true_and, Bool.false_eq_true, false_implies, if_false]
    rw [forM_ok]
    exact forall₂_congr fun r _ => validateRequirement_ok
  | true =>
    simp only [Bool.true_and, Bool.not_not, List.contains_iff_mem, true_implies, if_true,
      Client.exceptThen_ok, validateAttributeValues_ok, forM_ok, validateRequirement_ok, and_assoc]

theorem validateCompleteNode_full :
    validateCompleteNode env node type fullConstraintValidationScope neighborTypes = .ok () ↔
      Complete env node type neighborTypes := by
  rw [validateCompleteNode_ok]
  constructor
  · rintro ⟨hfull, hreqs⟩
    obtain ⟨hst, hattrs⟩ := hfull rfl
    refine ⟨hst, hattrs, fun r hr happlies => ?_⟩
    have h := hreqs r hr happlies
    exact ⟨h.attributes rfl, fun ha => h.assets ha rfl, fun he => h.evidence he rfl, h.neighbors rfl⟩
  · rintro ⟨hst, hattrs, hreqs⟩
    refine ⟨fun _ => ⟨hst, hattrs⟩, fun r hr happlies => ?_⟩
    have h := hreqs r hr happlies
    exact ⟨fun _ => h.attributes, nofun, fun ha _ => h.assets ha, fun he _ => h.evidence he,
      fun _ => h.neighbors⟩

end

end Beale.Memory
