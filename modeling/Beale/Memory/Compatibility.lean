import Beale.Memory.Catalog
import Mathlib.Data.List.Dedup

/-!
# Compatible catalogs

A node that was stored under one catalog counts under another one when both have the same
rules for it. The rules are compared by the canonical texts of two projections.
-/

namespace Beale.Memory

open Beale.Library

/-! ## Projections -/

def sortedUniqueStrings (values : List JsString) : List JsString :=
  values.dedup.insertionSort fun a b => ¬ b < a

/-- `sortedUniqueValues`. The text of a listed value tells it from the others. -/
def sortedUniqueValues (values : List Scalar) : List Scalar :=
  values.dedup.insertionSort fun a b => ¬ stableJson b.json < stableJson a.json

variable {values : List JsString}

@[simp] theorem mem_sortedUniqueStrings {s : JsString} :
    s ∈ sortedUniqueStrings values ↔ s ∈ values := by
  rw [sortedUniqueStrings, List.mem_insertionSort, List.mem_dedup]

@[simp] theorem mem_sortedUniqueValues {values : List Scalar} {v : Scalar} :
    v ∈ sortedUniqueValues values ↔ v ∈ values := by
  rw [sortedUniqueValues, List.mem_insertionSort, List.mem_dedup]

def attributeMembers : Option FoundDefinition → List (JsString × Json)
  | none => [(js "unresolved", .bool true)]
  | some .inherited => []
  | some (.own definition) =>
    (js "type", .str definition.type.text)
      :: (((definition.pattern.filter (· ≠ [])).map fun p => (js "pattern", Json.str p)).toList
        ++ (definition.enum.map fun values =>
          (js "enum", Json.arr ((sortedUniqueValues values).map Scalar.json))).toList)

/-- A list of strings, where it is not empty. -/
def listMember (key : JsString) (values : List JsString) : List (JsString × Json) :=
  if values.isEmpty then [] else [(key, .arr ((sortedUniqueStrings values).map .str))]

def flagMember (key : JsString) (flag : Bool) : List (JsString × Json) :=
  if flag then [(key, .bool true)] else []

/-- A requirement for the status of the node. -/
def requirementMembers (r : ResearchProfileMemoryRequirement) : List (JsString × Json) :=
  listMember (js "requiredAttributes") r.requiredAttributes
    ++ flagMember (js "requireEvidence") r.requireEvidence
    ++ flagMember (js "requireAssetLinks") r.requireAssetLinks
    ++ listMember (js "requiredNeighborTypes") r.requiredNeighborTypes

/-- The requirements for the status of the node, ordered by their texts. -/
def requirementProjections (type : ResearchProfileMemoryType) (status : JsString) : List Json :=
  ((type.requirements.filter (·.applies status)).map fun r =>
    Json.obj (requirementMembers r)).insertionSort fun a b => ¬ stableJson b < stableJson a

def statusProjection (status : ResearchProfileMemoryStatus) : Json :=
  .obj [(js "id", .str status.id), (js "terminal", .bool status.terminal),
    (js "polarity", .str (status.polarity.getD .neutral).text)]

def evidenceKindCompatibilityProjection (kind : ResearchProfileEvidenceKind) : Json :=
  .obj [(js "id", .str kind.id), (js "allowsPath", .bool kind.allowsPath)]

def evidencePathBaseCompatibilityProjection (base : ResearchProfileEvidencePathBase) : Json :=
  .obj [(js "id", .str base.id), (js "pathFormat", .str (base.pathFormat.getD .relative).text)]

def memoryNodeTypeCompatibilityProjection (node : MemoryNode) (memory : ResearchProfileMemory)
    (type : ResearchProfileMemoryType) : Option Json :=
  if type.allowedStatuses.contains node.status then
    (memory.statuses.find? (·.id = node.status)).map fun status =>
      .obj [(js "id", .str type.id), (js "status", statusProjection status),
        (js "attributes", .obj (node.attributes.entries.map fun m =>
          (m.1, .obj (attributeMembers (type.definition? m.1))))),
        (js "requirements", .arr (requirementProjections type node.status))]
  else none

def memoryNodeCatalogCompatibilityProjection (node : MemoryNode) (memory : ResearchProfileMemory) :
    Option Json := do
  let type ← memory.typeOf? node.type
  let typeProjection ← memoryNodeTypeCompatibilityProjection node memory type
  let evidenceKinds ← (sortedUniqueStrings (node.evidence.map (·.kind))).mapM fun id =>
    (memory.evidenceKinds.reverse.find? (·.id = id)).map evidenceKindCompatibilityProjection
  let pathBases := node.evidence.filterMap fun e => e.pathBase.filter (· ≠ [])
  let evidencePathBases ← (sortedUniqueStrings pathBases).mapM fun id =>
    (memory.evidencePathBases.reverse.find? (·.id = id)).map evidencePathBaseCompatibilityProjection
  return .obj [(js "schemaVersion", .num (.integer 1)), (js "type", typeProjection),
    (js "evidenceKinds", .arr evidenceKinds), (js "evidencePathBases", .arr evidencePathBases)]

def memoryNodeCatalogsAreCompatible (node : MemoryNode) (sourceMemory activeMemory : ResearchProfileMemory) :
    Bool :=
  match memoryNodeCatalogCompatibilityProjection node sourceMemory,
      memoryNodeCatalogCompatibilityProjection node activeMemory with
  | some source, some active => stableJson source = stableJson active
  | _, _ => false

/-! ## The texts of numbers -/

theorem attributeMembers_proper (d : Option FoundDefinition) :
    (Json.obj (attributeMembers d)).Proper := by
  rw [Json.Proper, membersProper_iff]
  intro m hm
  cases d with
  | none =>
    rw [List.mem_singleton.mp hm]
    trivial
  | some found =>
    cases found with
    | inherited => cases hm
    | own d =>
      rcases List.mem_cons.mp hm with rfl | hm
      · trivial
      rcases List.mem_append.mp hm with hm | hm
      · obtain ⟨p, -, rfl⟩ := Option.map_eq_some_iff.mp (Option.mem_toList.mp hm)
        trivial
      · obtain ⟨values, -, rfl⟩ := Option.map_eq_some_iff.mp (Option.mem_toList.mp hm)
        rw [Json.Proper, elementsProper_iff]
        intro e he
        obtain ⟨v, -, rfl⟩ := List.mem_map.mp he
        cases v with
        | string s => trivial
        | number n => exact n.2
        | boolean b => trivial

theorem listMember_proper (key : JsString) (values : List JsString) :
    ∀ m ∈ listMember key values, m.2.Proper := by
  intro m hm
  rw [listMember] at hm
  split at hm
  · cases hm
  · rw [List.mem_singleton.mp hm, Json.Proper, elementsProper_iff]
    intro e he
    obtain ⟨s, -, rfl⟩ := List.mem_map.mp he
    trivial

theorem flagMember_proper (key : JsString) (flag : Bool) : ∀ m ∈ flagMember key flag, m.2.Proper := by
  intro m hm
  rw [flagMember] at hm
  split at hm
  · rw [List.mem_singleton.mp hm]
    trivial
  · cases hm

theorem requirementMembers_proper (r : ResearchProfileMemoryRequirement) :
    (Json.obj (requirementMembers r)).Proper := by
  rw [Json.Proper, membersProper_iff]
  intro m hm
  simp only [requirementMembers, List.mem_append] at hm
  rcases hm with ((hm | hm) | hm) | hm
  · exact listMember_proper _ _ m hm
  · exact flagMember_proper _ _ m hm
  · exact flagMember_proper _ _ m hm
  · exact listMember_proper _ _ m hm

variable {node : MemoryNode} {type : ResearchProfileMemoryType} {memory : ResearchProfileMemory}

theorem typeProjection_proper {p : Json}
    (h : memoryNodeTypeCompatibilityProjection node memory type = some p) : p.Proper := by
  rw [memoryNodeTypeCompatibilityProjection] at h
  split at h
  · obtain ⟨status, -, rfl⟩ := Option.map_eq_some_iff.mp h
    refine ⟨trivial, ⟨trivial, trivial, trivial, trivial⟩, ?_, ?_, trivial⟩
    · rw [Json.Proper, membersProper_iff]
      intro m hm
      obtain ⟨member, -, rfl⟩ := List.mem_map.mp hm
      exact attributeMembers_proper _
    · rw [Json.Proper, elementsProper_iff]
      intro e he
      obtain ⟨r, -, rfl⟩ := List.mem_map.mp ((List.mem_insertionSort _).mp he)
      exact requirementMembers_proper r
  · cases h

/-! ## What the comparison tells -/

structure SameRequirement (r r' : ResearchProfileMemoryRequirement) : Prop where
  attributes : ∀ name, name ∈ r.requiredAttributes ↔ name ∈ r'.requiredAttributes
  evidence : r.requireEvidence = r'.requireEvidence
  assets : r.requireAssetLinks = r'.requireAssetLinks
  neighbors : ∀ t, t ∈ r.requiredNeighborTypes ↔ t ∈ r'.requiredNeighborTypes

def RequirementsWithin (status : JsString) (type type' : ResearchProfileMemoryType) : Prop :=
  ∀ r ∈ type.requirements, r.applies status = true →
    ∃ r' ∈ type'.requirements, r'.applies status = true ∧ SameRequirement r r'

structure SameRules (env : MemoryPlatform) (node : MemoryNode)
    (type type' : ResearchProfileMemoryType) : Prop where
  status : node.status ∈ type.allowedStatuses ∧ node.status ∈ type'.allowedStatuses
  attributes : ∀ m ∈ node.attributes.entries, AttributeOk env type m.1 m.2 ↔ AttributeOk env type' m.1 m.2
  requirements : RequirementsWithin node.status type type'
  requirements' : RequirementsWithin node.status type' type

theorem lookup_singleton_ne {α : Type} {key key' : JsString} (h : key ≠ key') (value : α) :
    [(key', value)].lookup key = none := by
  rw [List.lookup_cons, beq_eq_false_iff_ne.mpr h]
  rfl

theorem lookup_listMember (key key' : JsString) (values : List JsString) :
    (listMember key' values).lookup key = if key = key' ∧ values ≠ [] then
      some (.arr ((sortedUniqueStrings values).map .str)) else none := by
  rw [listMember]
  by_cases hvalues : values = []
  · simp [hvalues]
  · rw [if_neg (by simpa using hvalues)]
    by_cases hkey : key = key'
    · simp [hkey, hvalues]
    · rw [lookup_singleton_ne hkey, if_neg fun h => hkey h.1]

theorem lookup_flagMember (key key' : JsString) (flag : Bool) :
    (flagMember key' flag).lookup key = if key = key' ∧ flag = true then some (.bool true) else none := by
  rw [flagMember]
  cases flag with
  | false => simp
  | true =>
    by_cases hkey : key = key'
    · simp [hkey]
    · rw [if_pos rfl, lookup_singleton_ne hkey, if_neg fun h => hkey h.1]

theorem requirementMembers_nodup (r : ResearchProfileMemoryRequirement) :
    ((requirementMembers r).map Prod.fst).Nodup := by
  have hsub : ((requirementMembers r).map Prod.fst).Sublist
      [js "requiredAttributes", js "requireEvidence", js "requireAssetLinks",
        js "requiredNeighborTypes"] := by
    have hlist : ∀ key values, ((listMember key values).map Prod.fst).Sublist [key] := by
      intro key values
      rw [listMember]
      split <;> simp
    have hflag : ∀ key flag, ((flagMember key flag).map Prod.fst).Sublist [key] := by
      intro key flag
      rw [flagMember]
      split <;> simp
    simp only [requirementMembers, List.map_append]
    exact (((hlist _ _).append (hflag _ _)).append (hflag _ _)).append (hlist _ _)
  exact List.Nodup.sublist hsub (by decide)

theorem mem_iff_of_listMember {values' : List JsString}
    (h : (if values ≠ [] then some (Json.arr ((sortedUniqueStrings values).map .str)) else none).map
        stableValue
      = (if values' ≠ [] then some (Json.arr ((sortedUniqueStrings values').map .str)) else none).map
        stableValue) (s : JsString) : s ∈ values ↔ s ∈ values' := by
  have hstrings : ∀ l : List JsString, (l.map Json.str).map stableValue = l.map Json.str := by
    intro l
    rw [List.map_map]
    rfl
  by_cases hv : values = []
  · by_cases hv' : values' = []
    · rw [hv, hv']
    · simp [hv, hv'] at h
  · by_cases hv' : values' = []
    · simp [hv, hv'] at h
    · rw [if_pos hv, if_pos hv', Option.map_some, Option.map_some] at h
      have helements := elements_of_stableValue (Option.some.inj h)
      rw [hstrings, hstrings] at helements
      have hsorted : sortedUniqueStrings values = sortedUniqueStrings values' :=
        List.map_injective_iff.mpr (fun _ _ => Json.str.inj) helements
      rw [← mem_sortedUniqueStrings, hsorted, mem_sortedUniqueStrings]

theorem lookup_requirementMembers (r : ResearchProfileMemoryRequirement) (key : JsString) :
    (requirementMembers r).lookup key
      = ((listMember (js "requiredAttributes") r.requiredAttributes).lookup key).or
        (((flagMember (js "requireEvidence") r.requireEvidence).lookup key).or
        (((flagMember (js "requireAssetLinks") r.requireAssetLinks).lookup key).or
        ((listMember (js "requiredNeighborTypes") r.requiredNeighborTypes).lookup key))) := by
  simp [requirementMembers, List.lookup_append]

theorem flag_of_lookup {flag flag' : Bool}
    (h : (if flag = true then some (Json.bool true) else none).map stableValue
      = (if flag' = true then some (Json.bool true) else none).map stableValue) : flag = flag' := by
  cases flag <;> cases flag' <;> first | rfl | simp at h

theorem sameRequirement_of_stableValue {r r' : ResearchProfileMemoryRequirement}
    (h : stableValue (.obj (requirementMembers r)) = stableValue (.obj (requirementMembers r'))) :
    SameRequirement r r' := by
  have hread := lookup_of_stableValue (requirementMembers_nodup r) (requirementMembers_nodup r') h
  simp only [lookup_requirementMembers, lookup_listMember, lookup_flagMember] at hread
  -- one member of the two objects after the other
  refine ⟨mem_iff_of_listMember ?_, flag_of_lookup ?_, flag_of_lookup ?_, mem_iff_of_listMember ?_⟩
  · have hkey := hread (js "requiredAttributes")
    simpa [show js "requiredAttributes" ≠ js "requireEvidence" by decide,
      show js "requiredAttributes" ≠ js "requireAssetLinks" by decide,
      show js "requiredAttributes" ≠ js "requiredNeighborTypes" by decide] using hkey
  · have hkey := hread (js "requireEvidence")
    simpa [show js "requireEvidence" ≠ js "requiredAttributes" by decide,
      show js "requireEvidence" ≠ js "requireAssetLinks" by decide,
      show js "requireEvidence" ≠ js "requiredNeighborTypes" by decide] using hkey
  · have hkey := hread (js "requireAssetLinks")
    simpa [show js "requireAssetLinks" ≠ js "requiredAttributes" by decide,
      show js "requireAssetLinks" ≠ js "requireEvidence" by decide,
      show js "requireAssetLinks" ≠ js "requiredNeighborTypes" by decide] using hkey
  · have hkey := hread (js "requiredNeighborTypes")
    simpa [show js "requiredNeighborTypes" ≠ js "requiredAttributes" by decide,
      show js "requiredNeighborTypes" ≠ js "requireEvidence" by decide,
      show js "requiredNeighborTypes" ≠ js "requireAssetLinks" by decide] using hkey

/-- Where the requirements of two types have the same texts, those of one are those of the
other. -/
theorem requirementsWithin_of_projections {status : JsString} {type' : ResearchProfileMemoryType}
    (h : (requirementProjections type status).map stableValue
      = (requirementProjections type' status).map stableValue) :
    RequirementsWithin status type type' := by
  intro r hr happlies
  have hprojected : Json.obj (requirementMembers r) ∈ requirementProjections type status :=
    (List.mem_insertionSort _).mpr (List.mem_map.mpr ⟨r, List.mem_filter.mpr ⟨hr, happlies⟩, rfl⟩)
  have hmem := List.mem_map_of_mem (f := stableValue) hprojected
  rw [h] at hmem
  obtain ⟨p, hp, heq⟩ := List.mem_map.mp hmem
  obtain ⟨r', hr', rfl⟩ := List.mem_map.mp ((List.mem_insertionSort _).mp hp)
  obtain ⟨hr', happlies'⟩ := List.mem_filter.mp hr'
  exact ⟨r', hr', happlies', sameRequirement_of_stableValue heq.symm⟩

/-! ### Attributes -/

theorem attributeType_injective {a b : ResearchProfileAttributeType} (h : a.text = b.text) : a = b := by
  cases a <;> cases b <;> first | rfl | exact absurd h (by decide)

theorem scalar_json_injective : Function.Injective Scalar.json := by
  intro a b h
  cases a with
  | string s =>
    cases b with
    | string t => rw [Json.str.inj h]
    | number m => cases h
    | boolean c => cases h
  | number n =>
    cases b with
    | string t => cases h
    | number m => rw [Subtype.ext (Json.num.inj h)]
    | boolean c => cases h
  | boolean b' =>
    cases b with
    | string t => cases h
    | number m => cases h
    | boolean c => rw [Json.bool.inj h]

/-- The text of a listed value has nothing to sort. -/
theorem stableValue_scalar (v : Scalar) : stableValue v.json = v.json := by
  cases v <;> rfl

theorem attributeMembers_nodup (d : Option FoundDefinition) :
    ((attributeMembers d).map Prod.fst).Nodup := by
  cases d with
  | none => decide
  | some found =>
    cases found with
    | inherited => decide
    | own d =>
      rw [attributeMembers]
      cases d.pattern.filter (· ≠ []) <;> cases d.enum <;>
        simp only [Option.map_none, Option.map_some, Option.toList_none, Option.toList_some,
          List.append_nil, List.nil_append, List.cons_append, List.map_cons, List.map_nil] <;> decide

theorem lookup_attributeMembers (d : ResearchProfileAttributeDefinition) (key : JsString) :
    (attributeMembers (some (.own d))).lookup key =
      if key = js "type" then some (.str d.type.text)
      else if key = js "pattern" then (d.pattern.filter (· ≠ [])).map .str
      else if key = js "enum" then
        d.enum.map fun values => .arr ((sortedUniqueValues values).map Scalar.json)
      else none := by
  rw [attributeMembers, List.lookup_cons]
  by_cases htype : key = js "type"
  · rw [if_pos htype, beq_iff_eq.mpr htype]
  rw [if_neg htype, beq_eq_false_iff_ne.mpr htype]
  show List.lookup key _ = _
  rw [List.lookup_append]
  by_cases hpattern : key = js "pattern"
  · subst hpattern
    cases d.pattern.filter (· ≠ []) with
    | some p => simp
    | none =>
      cases d.enum with
      | none => simp
      | some values => simp [lookup_singleton_ne (show js "pattern" ≠ js "enum" by decide)]
  · rw [if_neg hpattern]
    have hnone : (((d.pattern.filter (· ≠ [])).map fun p => (js "pattern", Json.str p)).toList).lookup
        key = none := by
      cases d.pattern.filter (· ≠ []) with
      | none => rfl
      | some p => exact lookup_singleton_ne hpattern _
    rw [hnone, Option.none_or]
    by_cases henum : key = js "enum"
    · subst henum
      cases d.enum <;> simp
    · rw [if_neg henum]
      cases d.enum with
      | none => rfl
      | some values => exact lookup_singleton_ne henum _

variable {env : MemoryPlatform}

theorem validateAttributeValue_own_ok {typeId name : JsString} {value : Json}
    {d : ResearchProfileAttributeDefinition} :
    validateAttributeValue env typeId name value (some (.own d)) = .ok () ↔
      hasType d.type value = true ∧
      (∀ values, d.enum = some values → ∃ listed ∈ values, listed.is value = true) ∧
      ∀ pattern, d.pattern.filter (· ≠ []) = some pattern → ∀ text, value.asString? = some text →
        env.patternTest pattern text = true := by
  rw [validateAttributeValue, Client.exceptThen_ok, Client.exceptThen_ok, ensure_ok, ensure_ok,
    ensure_ok]
  refine and_congr_right fun _ => and_congr ?_ ?_
  · cases d.enum <;> simp
  · cases d.pattern.filter (· ≠ []) <;> cases value.asString? <;> simp

theorem attributeRule_of_stableValue {typeId typeId' name : JsString}
    {value : Json} {d d' : Option FoundDefinition}
    (h : stableValue (.obj (attributeMembers d)) = stableValue (.obj (attributeMembers d'))) :
    validateAttributeValue env typeId name value d = .ok () →
      validateAttributeValue env typeId' name value d' = .ok () := by
  have hread := lookup_of_stableValue (attributeMembers_nodup d) (attributeMembers_nodup d') h
  have htypes := hread (js "type")
  have hunresolved := hread (js "unresolved")
  match d, d' with
  | _, none => exact fun _ => rfl
  | some .inherited, _ => nofun
  | none, some .inherited => exact absurd hunresolved (by simp [attributeMembers])
  | none, some (.own d') =>
    exact absurd htypes (by
      simp [attributeMembers, lookup_singleton_ne (show js "type" ≠ js "unresolved" by decide)])
  | some (.own d), some .inherited => exact absurd htypes (by simp [attributeMembers])
  | some (.own d), some (.own d') =>
    have hpatterns := hread (js "pattern")
    have henums := hread (js "enum")
    simp only [lookup_attributeMembers, show js "pattern" ≠ js "type" by decide,
      show js "enum" ≠ js "type" by decide, show js "enum" ≠ js "pattern" by decide, if_true,
      if_false, Option.map_map] at htypes hpatterns henums
    have htype : d.type = d'.type := attributeType_injective (Json.str.inj (Option.some.inj htypes))
    have hpattern : d.pattern.filter (· ≠ []) = d'.pattern.filter (· ≠ []) :=
      Option.map_injective (fun _ _ => Json.str.inj) hpatterns
    rw [validateAttributeValue_own_ok, validateAttributeValue_own_ok, htype, hpattern]
    refine And.imp_right (And.imp_left fun hlisted values' hvalues' => ?_)
    rw [hvalues'] at henums
    obtain ⟨values, hvalues, heq⟩ := Option.map_eq_some_iff.mp henums
    obtain ⟨listed, hmem, his⟩ := hlisted values hvalues
    have helements := elements_of_stableValue heq
    have hscalars : ∀ l : List Scalar, (l.map Scalar.json).map stableValue = l.map Scalar.json := by
      intro l
      rw [List.map_map]
      exact List.map_congr_left fun v _ => stableValue_scalar v
    rw [hscalars, hscalars] at helements
    have hsorted := List.map_injective_iff.mpr scalar_json_injective helements
    refine ⟨listed, ?_, his⟩
    rw [← mem_sortedUniqueValues, ← hsorted, mem_sortedUniqueValues]
    exact hmem

/-! ### The projections -/

theorem mapM_some_mem {α β : Type} {f : α → Option β} {l : List α} {r : List β}
    (h : l.mapM f = some r) : ∀ b ∈ r, ∃ a ∈ l, f a = some b := by
  induction l generalizing r with
  | nil =>
    cases h
    nofun
  | cons a rest ih =>
    rw [List.mapM_cons] at h
    obtain ⟨b, hb, h⟩ := Option.bind_eq_some_iff.mp h
    obtain ⟨bs, hbs, h⟩ := Option.bind_eq_some_iff.mp h
    cases h
    intro c hc
    rcases List.mem_cons.mp hc with rfl | hc
    · exact ⟨a, List.mem_cons_self, hb⟩
    · obtain ⟨a', ha', hfound⟩ := ih hbs c hc
      exact ⟨a', List.mem_cons_of_mem _ ha', hfound⟩

structure ProjectionParts (node : MemoryNode) (memory : ResearchProfileMemory) (p : Json) where
  type : ResearchProfileMemoryType
  status : ResearchProfileMemoryStatus
  evidenceKinds : List Json
  evidencePathBases : List Json
  found : memory.typeOf? node.type = some type
  allowed : node.status ∈ type.allowedStatuses
  projection : p = .obj [(js "schemaVersion", .num (.integer 1)),
    (js "type", .obj [(js "id", .str type.id), (js "status", statusProjection status),
      (js "attributes", .obj (node.attributes.entries.map fun m =>
        (m.1, .obj (attributeMembers (type.definition? m.1))))),
      (js "requirements", .arr (requirementProjections type node.status))]),
    (js "evidenceKinds", .arr evidenceKinds), (js "evidencePathBases", .arr evidencePathBases)]
  proper : p.Proper

theorem projectionParts {p : Json}
    (h : memoryNodeCatalogCompatibilityProjection node memory = some p) :
    Nonempty (ProjectionParts node memory p) := by
  obtain ⟨type, htype, h⟩ := Option.bind_eq_some_iff.mp h
  obtain ⟨tp, htp, h⟩ := Option.bind_eq_some_iff.mp h
  obtain ⟨kinds, hkinds, h⟩ := Option.bind_eq_some_iff.mp h
  obtain ⟨bases, hbases, h⟩ := Option.bind_eq_some_iff.mp h
  cases h
  have hproper := typeProjection_proper htp
  have hkinds' : (Json.arr kinds).Proper := by
    rw [Json.Proper, elementsProper_iff]
    intro e he
    obtain ⟨id, -, hfound⟩ := mapM_some_mem hkinds e he
    obtain ⟨kind, -, rfl⟩ := Option.map_eq_some_iff.mp hfound
    exact ⟨trivial, trivial, trivial⟩
  have hbases' : (Json.arr bases).Proper := by
    rw [Json.Proper, elementsProper_iff]
    intro e he
    obtain ⟨id, -, hfound⟩ := mapM_some_mem hbases e he
    obtain ⟨base, -, rfl⟩ := Option.map_eq_some_iff.mp hfound
    exact ⟨trivial, trivial, trivial⟩
  rw [memoryNodeTypeCompatibilityProjection] at htp
  split at htp
  · next hallow =>
    obtain ⟨status, -, rfl⟩ := Option.map_eq_some_iff.mp htp
    exact ⟨⟨type, status, kinds, bases, htype, List.contains_iff_mem.mp hallow, rfl,
      ⟨trivial, hproper, hkinds', hbases', trivial⟩⟩⟩
  · cases htp

theorem attributeRules_nodup (node : MemoryNode) (type : ResearchProfileMemoryType) :
    ((node.attributes.entries.map fun m =>
      (m.1, Json.obj (attributeMembers (type.definition? m.1)))).map Prod.fst).Nodup := by
  rw [List.map_map]
  exact node.attributes.nodup

theorem sameRules_of_compatible (env : MemoryPlatform) {source active : ResearchProfileMemory}
    (h : memoryNodeCatalogsAreCompatible node source active = true) :
    ∃ type type', source.typeOf? node.type = some type ∧ active.typeOf? node.type = some type' ∧
      SameRules env node type type' := by
  rw [memoryNodeCatalogsAreCompatible] at h
  split at h
  · next p p' hp hp' =>
    obtain ⟨parts⟩ := projectionParts hp
    obtain ⟨parts'⟩ := projectionParts hp'
    have hstable := stableJson_injective parts.proper parts'.proper (of_decide_eq_true h)
    rw [parts.projection, parts'.projection] at hstable
    have hkeys : [js "schemaVersion", js "type", js "evidenceKinds", js "evidencePathBases"].Nodup := by
      decide
    have htypeKeys : [js "id", js "status", js "attributes", js "requirements"].Nodup := by decide
    have htype := Option.some.inj (lookup_of_stableValue (by exact hkeys) (by exact hkeys) hstable (js "type"))
    have hattrs :=
      Option.some.inj (lookup_of_stableValue (by exact htypeKeys) (by exact htypeKeys) htype (js "attributes"))
    have hreqs := elements_of_stableValue
      (Option.some.inj (lookup_of_stableValue (by exact htypeKeys) (by exact htypeKeys) htype (js "requirements")))
    refine ⟨parts.type, parts'.type, parts.found, parts'.found, ⟨parts.allowed, parts'.allowed⟩,
      fun m hm => ?_, requirementsWithin_of_projections hreqs,
      requirementsWithin_of_projections hreqs.symm⟩
    -- the rule for one attribute is read at its name
    have hrule := lookup_of_stableValue (attributeRules_nodup node parts.type)
      (attributeRules_nodup node parts'.type) hattrs m.1
    have hread : ∀ type : ResearchProfileMemoryType, (node.attributes.entries.map fun m =>
        (m.1, Json.obj (attributeMembers (type.definition? m.1)))).lookup m.1
        = some (.obj (attributeMembers (type.definition? m.1))) := fun type =>
      (lookup_eq_some_iff (attributeRules_nodup node type)).mpr (List.mem_map.mpr ⟨m, hm, rfl⟩)
    rw [hread, hread] at hrule
    have hsame := Option.some.inj hrule
    exact ⟨attributeRule_of_stableValue hsame, attributeRule_of_stableValue hsame.symm⟩
  · cases h

/-! ## What two catalogs with the same rules ask for -/

/-- What the complete validation asks of the node itself. -/
structure OwnRulesMet (env : MemoryPlatform) (node : MemoryNode) (type : ResearchProfileMemoryType) :
    Prop where
  status : node.status ∈ type.allowedStatuses
  attributes : ∀ m ∈ node.attributes.entries, AttributeOk env type m.1 m.2
  requirements : ∀ r ∈ type.requirements, r.applies node.status = true →
    (∀ name ∈ r.requiredAttributes, hasRequiredAttribute node.attributes name = true) ∧
    (r.requireAssetLinks = true → node.assetIds ≠ []) ∧ (r.requireEvidence = true → node.evidence ≠ [])

def requiredNeighborTypes (type : ResearchProfileMemoryType) (status : JsString) : List JsString :=
  (type.requirements.filter (·.applies status)).flatMap (·.requiredNeighborTypes)

theorem complete_iff {neighborTypes : List JsString} : Complete env node type neighborTypes ↔
      OwnRulesMet env node type ∧ requiredNeighborTypes type node.status ⊆ neighborTypes := by
  constructor
  · rintro ⟨hst, hattrs, hreqs⟩
    refine ⟨⟨hst, hattrs, fun r hr happlies => ?_⟩, fun t ht => ?_⟩
    · have hmet := hreqs r hr happlies
      exact ⟨hmet.attributes, hmet.assets, hmet.evidence⟩
    · obtain ⟨r, hr, hneeded⟩ := List.mem_flatMap.mp ht
      obtain ⟨hr, happlies⟩ := List.mem_filter.mp hr
      exact (hreqs r hr happlies).neighbors t hneeded
  · rintro ⟨⟨hst, hattrs, hreqs⟩, hneighbors⟩
    refine ⟨hst, hattrs, fun r hr happlies => ?_⟩
    obtain ⟨hnames, hassets, hev⟩ := hreqs r hr happlies
    refine ⟨hnames, hassets, hev, fun t ht => hneighbors ?_⟩
    exact List.mem_flatMap.mpr ⟨r, List.mem_filter.mpr ⟨hr, happlies⟩, ht⟩

namespace SameRules

variable {env : MemoryPlatform} {node : MemoryNode} {type type' : ResearchProfileMemoryType}

theorem symm (h : SameRules env node type type') : SameRules env node type' type :=
  ⟨h.status.symm, fun m hm => (h.attributes m hm).symm, h.requirements', h.requirements⟩

theorem ownRulesMet (h : SameRules env node type type') (hmet : OwnRulesMet env node type) :
    OwnRulesMet env node type' := by
  refine ⟨h.status.2, fun m hm => (h.attributes m hm).mp (hmet.attributes m hm), fun r' hr' happlies => ?_⟩
  obtain ⟨r, hr, happlies, hsame⟩ := h.requirements' r' hr' happlies
  obtain ⟨hnames, hassets, hev⟩ := hmet.requirements r hr happlies
  exact ⟨fun name hname => hnames name ((hsame.attributes name).mp hname),
    fun hneeded => hassets (hsame.assets ▸ hneeded), fun hneeded => hev (hsame.evidence ▸ hneeded)⟩

end SameRules

end Beale.Memory
