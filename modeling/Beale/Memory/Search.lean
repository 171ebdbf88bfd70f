import Beale.Library.OrderBy
import Beale.Library.Url
import Beale.Memory.Reclassification

/-!
# Searching the memory graph

A search reads candidates page by page, most recently updated first, until it has a hundred of
them. It then scores them, and returns the best.

- `memorySearchTerms`, `memorySearchScore`: the score of a node for a query.
- `searchBinding`, `search`: the candidates, and the result.
- `search_best`: the result is the best of these.
-/

namespace Beale.Memory

open Beale.Library

/-! ## What is searched for -/

inductive MemoryScope where
  | session
  | workspace
  | subject
deriving DecidableEq

/-- An empty list asks for nothing, and so does one that is missing. -/
structure SearchMemoryNodesInput where
  query : Option JsString
  scope : Option MemoryScope
  workspaceIds : List JsString
  surfaceIds : List JsString
  types : List JsString
  statuses : List JsString
  excludeStatuses : List JsString
  assetIds : List JsString
  tags : List JsString
  limit : Option Rat

/-- `input.query?.trim() ?? ""` -/
def SearchMemoryNodesInput.text (input : SearchMemoryNodesInput) : JsString := trim (input.query.getD [])

structure SearchPlatform extends MemoryPlatform where
  /-- `a.localeCompare(b)` -/
  localeCompare : JsString → JsString → Ordering
  /-- It is a consistent comparison. -/
  consistent : Std.TransCmp localeCompare
  /-- White space has no case. -/
  trim_toLowerCase : ∀ text, trim (toLowerCase text) = toLowerCase (trim text)

instance (env : SearchPlatform) : Std.TransCmp env.localeCompare := env.consistent

/-- The catalog, with the types that replace retired ones. -/
structure SearchCatalog extends ActiveMemoryCatalog where
  replacedBy : JsString → Option JsString

/-- A store of nodes with ids as they are made: without white space around them. -/
structure SearchedStore extends MemoryStore where
  ids : ∀ row ∈ nodes, trim row.id = row.id ∧ row.id ≠ []

/-- `this.catalog.typesByAlias.get(type)?.id ?? type`; of several types with an alias, the last one has it. -/
def SearchCatalog.canonicalType (catalog : SearchCatalog) (type : JsString) : JsString :=
  ((catalog.memory.types.reverse.find? fun candidate => candidate.id = type || candidate.aliases.contains type).map (·.id)).getD type

/-- The types that are searched for: those of the input, and the retired ones they replace. -/
def SearchCatalog.searchTypes (catalog : SearchCatalog) (types : List JsString) : List JsString :=
  uniqueTexts (types.flatMap fun type =>
    let canonicalType := catalog.canonicalType (trim type)
    canonicalType :: (catalog.memory.types.filter fun candidate =>
      candidate.lifecycle = .retired && catalog.replacedBy candidate.id = some canonicalType).map (·.id))

/-! ## Terms and scores -/

/-- `[a-z0-9]` -/
def isTermStart (u : UInt16) : Bool := 97 ≤ u && u ≤ 122 || 48 ≤ u && u ≤ 57

/-- `[a-z0-9_./:-]` -/
def isTermUnit (u : UInt16) : Bool := isTermStart u || (js "_./:-").contains u

/-- `text.match(/[a-z0-9][a-z0-9_./:-]*/g) ?? []` -/
def termsOf (text : JsString) : List JsString :=
  ((text.splitOnP fun u => !isTermUnit u).map (·.dropWhile fun u => !isTermStart u)).filter (· ≠ [])

def memorySearchTerms (env : MemoryPlatform) (query : JsString) : List JsString :=
  (((termsOf (env.toLowerCase query)).filter (1 < ·.length)).eraseDups).take 20

def includes (text term : JsString) : Bool := text.tails.any term.isPrefixOf

def attributesText (node : MemoryNode) : JsString := stringify (.obj node.attributes.entries)

def evidenceText (node : MemoryNode) : JsString :=
  joinWith (js "\n") (node.evidence.map fun item => item.path.getD [] ++ js "\n" ++ stringify item.locator ++ js "\n" ++ item.summary)

def termScore (env : MemoryPlatform) (node : MemoryNode) (term : JsString) : Nat :=
  let points (text : JsString) (score : Nat) : Nat := if includes (env.toLowerCase text) term then score else 0
  (if env.toLowerCase node.id = term then 1000 else points node.id 200) + (if env.toLowerCase node.type = term then 80 else 0) +
    points node.title 40 + points node.summary 20 + points node.body 10 + points (attributesText node) 8 +
    points (joinWith (js "\n") (node.assetIds.map (·.1))) 8 + points (joinWith (js "\n") node.tags) 8 + points (evidenceText node) 6

def memorySearchScore (env : MemoryPlatform) (node : MemoryNode) (query : JsString) : Nat :=
  (if trim (env.toLowerCase query) = env.toLowerCase node.id then 10000 else 0) +
    ((memorySearchTerms env query).map (termScore env node)).sum

/-! ## What matches -/

/-- A pattern of `LIKE` against the start of a text. -/
def likeAt : List Nat → List Nat → Bool
  | [], _ => true
  | u :: us, v :: vs => (u = 95 || u = v) && likeAt us vs
  | _ :: _, [] => false

/-- `lower(text) LIKE '%term%'`, for a term of ASCII without a percent sign -/
def isLike (term text : JsString) : Bool := (codePoints (lowerAscii text)).tails.any (likeAt (term.map UInt16.toNat))

def termMatches (row : MemoryRow) (term : JsString) : Bool :=
  isLike term row.id || isLike term row.type || isLike term row.title || isLike term row.summary || isLike term row.body ||
    isLike term (attributesText row.toMemoryNode) || row.assetIds.any (isLike term ·.1) || row.tags.any (isLike term) ||
    row.evidence.any fun item => item.path.any (isLike term) || isLike term (stringify item.locator) || isLike term item.summary

/-- `json_extract(n.attributes_json, '$.role') IN ('sink', 'both')` -/
def isHistoricalSink (row : MemoryRow) : Bool :=
  ((row.attributes.get? (js "role")).bind Json.asString?).any fun role => role = js "sink" || role = js "both"

/-- `n.type IN (…)`, with the former flow endpoints where sinks are searched for -/
def matchesTypes (catalog : SearchCatalog) (types : List JsString) (row : MemoryRow) : Bool :=
  let includeHistoricalSinkEndpoints := catalog.profile.any (·.id = js "security-research") && types.contains (js "sink") &&
    (catalog.memory.typeOf? (js "flow-endpoint")).any (·.lifecycle = .retired)
  types = [] || types.contains row.type || includeHistoricalSinkEndpoints && row.type = js "flow-endpoint" && isHistoricalSink row

def matchesScope (context : MemoryContext) (scope : MemoryScope) (row : MemoryRow) : Bool :=
  match scope with
  | .session => context.sessionId.any fun sessionId => sessionId ≠ [] && row.sessionIds.contains sessionId
  | .workspace => row.workspaces.any (·.id = context.workspaceId)
  | .subject => true

/-- The `WHERE` of a search. -/
def isMatch (env : MemoryPlatform) (catalog : SearchCatalog) (context : MemoryContext) (subjectId : JsString)
    (input : SearchMemoryNodesInput) (row : MemoryRow) : Bool :=
  nodeIsVisible subjectId row.toMemoryNode && row.duplicateOfMemoryId.isNone &&
    (input.text = [] || (memorySearchTerms env (input.query.getD [])).any (termMatches row)) &&
    matchesTypes catalog (catalog.searchTypes input.types) row &&
    (input.statuses = [] || input.statuses.contains row.status) && !input.excludeStatuses.contains row.status &&
    matchesScope context (input.scope.getD .workspace) row &&
    (input.workspaceIds = [] || row.workspaces.any fun workspace => (uniqueTexts input.workspaceIds).contains workspace.id) &&
    (input.surfaceIds = [] || row.surfaceId.any (uniqueTexts input.surfaceIds).contains) &&
    input.assetIds.all (fun assetId => row.assetIds.any (·.1 = assetId)) &&
    input.tags.all fun tag => row.tags.contains (normalizeTag env tag)

/-! ## The search -/

def memorySearchCandidateLimit : Nat := 100

def memorySearchPageSize : Nat := 128

/-- `ORDER BY n.updated_at DESC, n.id` -/
def orderRows (rows : List MemoryRow) : List MemoryRow :=
  rows.insertionSort fun a b => codePoints b.updatedAt < codePoints a.updatedAt ∨
    codePoints a.updatedAt = codePoints b.updatedAt ∧ ¬ codePoints b.id < codePoints a.id

section

variable (env : SearchPlatform) (catalog : SearchCatalog)

/-- `getManyFromDatabase`; ids are trimmed on the way, and each is read once. -/
def MemoryStore.getManyFromDatabase (store : MemoryStore) (ids : List JsString) : List MemoryNodeView :=
  (((ids.map trim).filter (· ≠ [])).eraseDups).filterMap fun id =>
    (store.row? id).map (store.view env.toMemoryPlatform catalog.toActiveMemoryCatalog)

/-- A node counts under the active catalog. -/
def participates (store : MemoryStore) (node : MemoryNodeView) : Bool :=
  nodeCanParticipateInActiveCatalog env.toMemoryPlatform store.toMemoryTables catalog.toActiveMemoryCatalog node.toMemoryRow

/-- The pages of the rows that are left, until there are enough candidates or no rows. -/
def searchPages (store : MemoryStore) (rows : List MemoryRow) (nodes : List MemoryNodeView) : List MemoryNodeView :=
  if nodes.length < memorySearchCandidateLimit then
    if rows = [] then nodes
    else
      let page := store.getManyFromDatabase env catalog ((rows.take memorySearchPageSize).map fun row => row.id)
      let nodes := (nodes ++ page.filter (participates env catalog store)).take memorySearchCandidateLimit
      if (rows.take memorySearchPageSize).length < memorySearchPageSize then nodes
      else searchPages store (rows.drop memorySearchPageSize) nodes
  else nodes
termination_by rows.length
decreasing_by
  have hpos : 0 < rows.length := List.length_pos_iff.mpr ‹_›
  rw [List.length_drop, memorySearchPageSize]
  omega

def searchBinding (store : MemoryStore) (context : MemoryContext) (subjectId : JsString) (input : SearchMemoryNodesInput) :
    List MemoryNodeView :=
  if input.text ≠ [] ∧ memorySearchTerms env.toMemoryPlatform (input.query.getD []) = [] then []
  else if input.scope = some .session ∧ context.sessionId.all (· = []) = true then []
  else searchPages env catalog store
    (orderRows (store.nodes.filter (isMatch env.toMemoryPlatform catalog context subjectId input))) []

/-- The order of the result, the greater node first: by the score, then the latest, then by the id. -/
def searchRank (query : JsString) (a b : MemoryNodeView) : Ordering :=
  compareLex (fun a b : MemoryNodeView => if query = [] then .eq
      else compare (memorySearchScore env.toMemoryPlatform a.toMemoryNode query) (memorySearchScore env.toMemoryPlatform b.toMemoryNode query))
    (compareLex (fun a b => env.localeCompare a.updatedAt b.updatedAt) fun a b => env.localeCompare b.id a.id) a b

/-- `Math.max(1, Math.min(100, Math.floor(input.limit ?? 20)))` -/
def searchLimit (input : SearchMemoryNodesInput) : Nat := (max 1 (min 100 (input.limit.getD 20).floor)).toNat

def search (store : MemoryStore) (context : MemoryContext) (subjectId : JsString) (input : SearchMemoryNodesInput) : List MemoryNodeView :=
  (orderByDesc (searchRank env input.text) (searchBinding env catalog store context subjectId input)).take (searchLimit input)

/-- The nodes that match and count under the active catalog, the most recently updated first. -/
def matchingNodes (store : MemoryStore) (context : MemoryContext) (subjectId : JsString) (input : SearchMemoryNodesInput) :
    List MemoryNodeView :=
  ((orderRows (store.nodes.filter (isMatch env.toMemoryPlatform catalog context subjectId input))).map
    (store.view env.toMemoryPlatform catalog.toActiveMemoryCatalog)).filter (participates env catalog store)

end

/-! ## The candidates -/

theorem nodup_eraseDups {α : Type*} [BEq α] [LawfulBEq α] (l : List α) : l.eraseDups.Nodup := by
  induction hn : l.length using Nat.strong_induction_on generalizing l with
  | _ n ih =>
    cases l with
    | nil => exact List.nodup_nil
    | cons a l =>
      rw [List.eraseDups_cons, List.nodup_cons]
      refine ⟨fun hmem => ?_, ih _ ?_ _ rfl⟩
      · have hne := (List.mem_filter.mp (List.mem_eraseDups.mp hmem)).2
        rw [beq_self_eq_true] at hne
        cases hne
      · rw [← hn, List.length_cons]
        exact Nat.lt_succ_of_le (List.length_filter_le _ l)

theorem eraseDups_eq_self {α : Type*} [BEq α] [LawfulBEq α] {l : List α} (h : l.Nodup) : l.eraseDups = l := by
  induction l with
  | nil => rfl
  | cons a l ih =>
    obtain ⟨hnew, hrest⟩ := List.nodup_cons.mp h
    have hothers : (l.filter fun b => !b == a) = l := by
      rw [List.filter_eq_self]
      intro b hb
      have hne : b ≠ a := fun heq => hnew (heq ▸ hb)
      rw [beq_eq_false_iff_ne.mpr hne]
      rfl
    rw [List.eraseDups_cons, hothers, ih hrest]

/-- What is cut off is not needed when more is added. -/
theorem take_take_append {α : Type*} (l l' : List α) (n : Nat) : (l.take n ++ l').take n = (l ++ l').take n := by
  rw [List.take_append, List.take_append, List.take_take, Nat.min_self, List.length_take]
  congr 2
  omega

section

variable {env : SearchPlatform} {catalog : SearchCatalog} {store : SearchedStore} {context : MemoryContext} {subjectId : JsString}
  {input : SearchMemoryNodesInput}

theorem getManyFromDatabase_eq {rows : List MemoryRow} (hrows : ∀ row ∈ rows, row ∈ store.nodes)
    (hnodup : (rows.map fun row => row.id).Nodup) :
    store.getManyFromDatabase env catalog (rows.map fun row => row.id) =
      rows.map (store.view env.toMemoryPlatform catalog.toActiveMemoryCatalog) := by
  have htrim : (rows.map fun row => row.id).map trim = rows.map fun row => row.id := by
    rw [List.map_map]
    exact List.map_congr_left fun row hrow => (store.ids row (hrows row hrow)).1
  have hne : (rows.map fun row => row.id).filter (· ≠ []) = rows.map fun row => row.id := by
    rw [List.filter_eq_self]
    intro id hid
    obtain ⟨row, hrow, rfl⟩ := List.mem_map.mp hid
    exact decide_eq_true (store.ids row (hrows row hrow)).2
  rw [MemoryStore.getManyFromDatabase, htrim, hne, eraseDups_eq_self hnodup, List.filterMap_map, ← List.filterMap_eq_map]
  refine List.filterMap_congr fun row hrow => ?_
  rw [Function.comp_apply, MemoryStore.row?_of_mem (hrows row hrow)]
  rfl

/-- The pages are those of the rows, and reading stops where nothing more is taken. -/
theorem searchPages_eq (rows : List MemoryRow) (nodes : List MemoryNodeView) (hrows : ∀ row ∈ rows, row ∈ store.nodes)
    (hnodup : (rows.map fun row => row.id).Nodup) (hnodes : nodes.length ≤ memorySearchCandidateLimit) :
    searchPages env catalog store.toMemoryStore rows nodes =
      (nodes ++ (rows.map (store.view env.toMemoryPlatform catalog.toActiveMemoryCatalog)).filter
        (participates env catalog store.toMemoryStore)).take memorySearchCandidateLimit := by
  induction hn : rows.length using Nat.strong_induction_on generalizing rows nodes with
  | _ n ih =>
    rw [searchPages]
    split
    · split
      · next hnil =>
        rw [hnil, List.map_nil, List.filter_nil, List.append_nil, List.take_of_length_le hnodes]
      · have hpage := @getManyFromDatabase_eq env catalog store (rows.take memorySearchPageSize)
          (fun row hrow => hrows row (List.mem_of_mem_take hrow)) (hnodup.sublist ((List.take_sublist _ _).map _))
        dsimp only
        rw [hpage]
        split
        · next hlast =>
          have hall : rows.take memorySearchPageSize = rows := by
            rw [List.length_take] at hlast
            exact List.take_of_length_le (by omega)
          rw [hall]
        · next hfull =>
          have hpos : 0 < rows.length := List.length_pos_iff.mpr ‹_›
          have hlen : (rows.drop memorySearchPageSize).length < n := by
            rw [List.length_drop, ← hn, memorySearchPageSize]
            omega
          rw [ih _ hlen _ _ (fun row hrow => hrows row (List.mem_of_mem_drop hrow))
            (hnodup.sublist ((List.drop_sublist _ _).map _)) (List.length_take_le _ _) rfl]
          conv_rhs => rw [← List.take_append_drop memorySearchPageSize rows, List.map_append, List.filter_append, ← List.append_assoc]
          exact take_take_append _ _ _
    · next hfull =>
      have hlen : nodes.length = memorySearchCandidateLimit := by omega
      rw [List.take_append_of_le_length hlen.ge, List.take_of_length_le hlen.le]

/-- What matches: the rows that the search asks for, where they count under the active catalog. -/
theorem mem_matchingNodes {node : MemoryNodeView} : node ∈ matchingNodes env catalog store.toMemoryStore context subjectId input ↔
    ∃ row ∈ store.nodes, isMatch env.toMemoryPlatform catalog context subjectId input row = true ∧
      nodeCanParticipateInActiveCatalog env.toMemoryPlatform store.toMemoryTables catalog.toActiveMemoryCatalog row = true ∧
      node = store.view env.toMemoryPlatform catalog.toActiveMemoryCatalog row := by
  rw [matchingNodes, List.mem_filter, List.mem_map]
  constructor
  · rintro ⟨⟨row, hrow, rfl⟩, hcounts⟩
    obtain ⟨hmem, hmatch⟩ := List.mem_filter.mp ((List.mem_insertionSort _).mp hrow)
    exact ⟨row, hmem, hmatch, hcounts, rfl⟩
  · rintro ⟨row, hrow, hmatch, hcounts, rfl⟩
    exact ⟨⟨row, (List.mem_insertionSort _).mpr (List.mem_filter.mpr ⟨hrow, hmatch⟩), rfl⟩, hcounts⟩

/-- **The candidates are the first hundred nodes that match.** -/
theorem searchBinding_eq : searchBinding env catalog store.toMemoryStore context subjectId input =
    (matchingNodes env catalog store.toMemoryStore context subjectId input).take memorySearchCandidateLimit := by
  have hnone : (∀ row ∈ store.nodes, isMatch env.toMemoryPlatform catalog context subjectId input row = false) →
      matchingNodes env catalog store.toMemoryStore context subjectId input = [] := by
    intro h
    have hfilter : store.nodes.filter (isMatch env.toMemoryPlatform catalog context subjectId input) = [] := by
      rw [List.filter_eq_nil_iff]
      intro row hrow hmatch
      rw [h row hrow] at hmatch
      cases hmatch
    rw [matchingNodes, hfilter]
    rfl
  rw [searchBinding]
  split
  · next hterms =>
    rw [hnone, List.take_nil]
    intro row _
    have hquery : decide (input.text = []) = false := decide_eq_false hterms.1
    simp only [isMatch, hquery, hterms.2, List.any_nil, Bool.or_false, Bool.and_false, Bool.false_and]
  · split
    · next hsess =>
      rw [hnone, List.take_nil]
      intro row _
      have hscope : matchesScope context (input.scope.getD .workspace) row = false := by
        rw [hsess.1]
        show context.sessionId.any _ = false
        cases hid : context.sessionId with
        | none => rfl
        | some sessionId =>
          have hempty := hsess.2
          rw [hid, Option.all_some, decide_eq_true_eq] at hempty
          rw [hempty]
          rfl
      simp only [isMatch, hscope, Bool.and_false, Bool.false_and]
    · have hperm := List.perm_insertionSort (fun a b : MemoryRow => codePoints b.updatedAt < codePoints a.updatedAt ∨
        codePoints a.updatedAt = codePoints b.updatedAt ∧ ¬ codePoints b.id < codePoints a.id)
        (store.nodes.filter (isMatch env.toMemoryPlatform catalog context subjectId input))
      rw [searchPages_eq, List.nil_append]
      · rfl
      · intro row hrow
        exact List.mem_of_mem_filter (hperm.mem_iff.mp hrow)
      · exact (hperm.map _).nodup_iff.mpr (store.primaryKey.sublist (List.filter_sublist.map _))
      · exact Nat.zero_le _

/-! ## The score of an id -/

section

variable (env : MemoryPlatform)

theorem memorySearchTerms_bounded (query : JsString) :
    (memorySearchTerms env query).Nodup ∧ (memorySearchTerms env query).length ≤ 20 :=
  ⟨(nodup_eraseDups _).sublist (List.take_sublist _ _), List.length_take_le _ _⟩

theorem termScore_le (node : MemoryNode) (term : JsString) :
    termScore env node term ≤ 380 + if env.toLowerCase node.id = term then 800 else 0 := by
  rw [termScore]
  simp only
  have hpoints : ∀ text score, (if includes (env.toLowerCase text) term then score else 0) ≤ score := by
    intro text score
    split
    · exact le_refl _
    · exact Nat.zero_le _
  have htype : (if env.toLowerCase node.type = term then 80 else 0) ≤ 80 := by
    split <;> omega
  have hid := hpoints node.id 200
  have htitle := hpoints node.title 40
  have hsum := hpoints node.summary 20
  have hbody := hpoints node.body 10
  have hattrs := hpoints (attributesText node) 8
  have hassets := hpoints (joinWith (js "\n") (node.assetIds.map (·.1))) 8
  have htags := hpoints (joinWith (js "\n") node.tags) 8
  have hev := hpoints (evidenceText node) 6
  split <;> omega

/-- Different terms add less than the whole id does. -/
theorem sum_termScore_lt (node : MemoryNode) {terms : List JsString} (hnodup : terms.Nodup)
    (hlen : terms.length ≤ 20) : (terms.map (termScore env node)).sum < 10000 := by
  have hsum : (terms.map (termScore env node)).sum ≤ 380 * terms.length + 800 * terms.count (env.toLowerCase node.id) := by
    clear hnodup hlen
    induction terms with
    | nil => exact Nat.zero_le _
    | cons term terms ih =>
      have hterm := termScore_le env node term
      rw [List.map_cons, List.sum_cons, List.length_cons, List.count_cons]
      by_cases heq : env.toLowerCase node.id = term
      · rw [if_pos heq] at hterm
        rw [if_pos (by rw [heq]; exact beq_self_eq_true term)]
        omega
      · rw [if_neg heq] at hterm
        omega
  have hcount := List.nodup_iff_count_le_one.mp hnodup (env.toLowerCase node.id)
  omega

theorem memorySearchScore_id_iff (node : MemoryNode) (query : JsString) :
    10000 ≤ memorySearchScore env node query ↔ trim (env.toLowerCase query) = env.toLowerCase node.id := by
  obtain ⟨hnodup, hlen⟩ := memorySearchTerms_bounded env query
  have hsum := sum_termScore_lt env node hnodup hlen
  rw [memorySearchScore]
  constructor
  · intro h
    by_contra hne
    rw [if_neg hne] at h
    omega
  · intro h
    rw [if_pos h]
    omega

end

/-! ## The result -/

instance (env : SearchPlatform) (query : JsString) : Std.TransCmp (searchRank env query) := by
  have hscore : Std.TransCmp fun a b : MemoryNodeView => if query = [] then Ordering.eq
      else compare (memorySearchScore env.toMemoryPlatform a.toMemoryNode query) (memorySearchScore env.toMemoryPlatform b.toMemoryNode query) := by
    by_cases hquery : query = []
    · simp only [if_pos hquery]
      exact @transCmp_on Nat compare _ MemoryNodeView fun _ => 0
    · simp only [if_neg hquery]
      exact transCmp_on fun node : MemoryNodeView => memorySearchScore env.toMemoryPlatform node.toMemoryNode query
  have htime : Std.TransCmp fun a b : MemoryNodeView => env.localeCompare a.updatedAt b.updatedAt :=
    transCmp_on fun node : MemoryNodeView => node.updatedAt
  have hid : Std.TransCmp fun a b : MemoryNodeView => env.localeCompare b.id a.id :=
    @Std.TransCmp.opposite _ _ (transCmp_on fun node : MemoryNodeView => node.id)
  exact inferInstanceAs (Std.TransCmp (compareLex _ (compareLex _ _)))

theorem searchLimit_bounds (input : SearchMemoryNodesInput) : 1 ≤ searchLimit input ∧ searchLimit input ≤ 100 := by
  rw [searchLimit]
  omega

theorem score_le_of_rank {query : JsString} {a b : MemoryNodeView} (hquery : query ≠ []) (h : searchRank env query a b ≠ .gt) :
    memorySearchScore env.toMemoryPlatform a.toMemoryNode query ≤ memorySearchScore env.toMemoryPlatform b.toMemoryNode query := by
  rw [searchRank, compareLex, if_neg hquery] at h
  by_contra hlt
  rw [Nat.compare_eq_gt.mpr (Nat.lt_of_not_le hlt)] at h
  exact h rfl

/-- **A search returns the best of the hundred latest nodes that match**, of all of them where there are no more, and
a node with the id that is searched for comes first if it is one of them. -/
theorem search_best (env : SearchPlatform) (catalog : SearchCatalog) (store : SearchedStore) (context : MemoryContext)
    (subjectId : JsString) (input : SearchMemoryNodesInput) :
    BestOf (searchRank env input.text) ((matchingNodes env catalog store.toMemoryStore context subjectId input).take 100)
        (search env catalog store.toMemoryStore context subjectId input) (searchLimit input) ∧
      (1 ≤ searchLimit input ∧ searchLimit input ≤ 100) ∧
      ∀ node ∈ (matchingNodes env catalog store.toMemoryStore context subjectId input).take 100, node.id = input.text →
        ∃ first, (search env catalog store.toMemoryStore context subjectId input).head? = some first ∧
          env.toLowerCase first.id = env.toLowerCase node.id := by
  have hbest : BestOf (searchRank env input.text) ((matchingNodes env catalog store.toMemoryStore context subjectId input).take 100)
      (search env catalog store.toMemoryStore context subjectId input) (searchLimit input) := by
    rw [search, searchBinding_eq]
    exact bestOf_take _ _
  refine ⟨hbest, searchLimit_bounds input, fun node hnode hid => ?_⟩
  obtain ⟨first, hfirst, hrank⟩ := hbest.first (searchLimit_bounds input).1 hnode
  refine ⟨first, hfirst, ?_⟩
  have hquery : input.text ≠ [] := by
    obtain ⟨row, hrow, -, -, rfl⟩ := mem_matchingNodes.mp (List.mem_of_mem_take hnode)
    rw [← hid]
    exact (store.ids row hrow).2
  have hlower : trim (env.toLowerCase input.text) = env.toLowerCase input.text := by
    rw [env.trim_toLowerCase, SearchMemoryNodesInput.text, trim_idem]
  have hnodeScore := (memorySearchScore_id_iff env.toMemoryPlatform node.toMemoryNode input.text).mpr (by rw [hlower, hid])
  have hfirstScore := hnodeScore.trans (score_le_of_rank hquery hrank)
  rw [← (memorySearchScore_id_iff env.toMemoryPlatform first.toMemoryNode input.text).mp hfirstScore, hlower, hid]

end

namespace Marks

def searchPlatform : SearchPlatform where
  toMemoryPlatform := platform
  localeCompare := compare
  consistent := inferInstance
  trim_toLowerCase _ := rfl

def searchCatalog : SearchCatalog := ⟨Scopes.active, fun _ => none⟩

/-- A bug with an id of its own length. -/
def recentBug (i : Nat) : MemoryRow :=
  { rowOf (js "bug_" ++ List.replicate i 48) with workspaces := [⟨js "workspace", js "Workspace"⟩], title := js "recent", updatedAt := later }

/-- The one whose title is found. -/
def oldBug : MemoryRow := { recentBug 100 with title := js "login bug", updatedAt := js "2026-01-01T00:00:00.000Z" }

def bugs : List MemoryRow := (List.range 100).map recentBug ++ [oldBug]

theorem bugs_distinct : (bugs.map fun row => row.id).Nodup := by
  have hlen : (bugs.map fun row => row.id).map List.length = (List.range 101).map (· + 4) := by decide +kernel
  refine List.Nodup.of_map List.length ?_
  rw [hlen]
  exact List.nodup_range.map fun _ _ => Nat.add_right_cancel

/-- A hundred bugs, and one that has not been updated for longer. -/
def searched : SearchedStore where
  nodes := bugs
  edges := []
  snapshots := JsMap.empty
  validations := []
  authorship := []
  primaryKey := bugs_distinct
  ids := by decide +kernel

def bugSearch : SearchMemoryNodesInput := ⟨js "bug", none, [], [], [], [], [], [], [], some 1⟩

def found : List MemoryNodeView := matchingNodes searchPlatform searchCatalog searched.toMemoryStore context (js "s1") bugSearch

end Marks

open Marks in
/-- The bug with the best score is not returned, since a hundred others have been updated later. -/
theorem search_misses_old : ¬ BestOf (searchRank searchPlatform bugSearch.text) found
    (search searchPlatform searchCatalog searched.toMemoryStore context (js "s1") bugSearch) (searchLimit bugSearch) := by
  intro h
  have hold : found.any (fun node => 300 ≤ memorySearchScore platform node.toMemoryNode (js "bug")) = true := by decide +kernel
  have hrecent : (found.take 100).all (fun node => memorySearchScore platform node.toMemoryNode (js "bug") < 300) = true := by decide +kernel
  have hbest : BestOf (searchRank searchPlatform bugSearch.text) (found.take 100)
      (search searchPlatform searchCatalog searched.toMemoryStore context (js "s1") bugSearch) (searchLimit bugSearch) := by
    rw [search, searchBinding_eq]
    exact bestOf_take _ _
  obtain ⟨best, hmem, hscore⟩ := List.any_eq_true.mp hold
  obtain ⟨first, hfirst, hrank⟩ := h.first (searchLimit_bounds bugSearch).1 hmem
  obtain ⟨others, hperm, -⟩ := hbest.greatest
  have hcandidate : first ∈ found.take 100 := hperm.mem_iff.mp (List.mem_append_left _ (List.mem_of_mem_head? hfirst))
  have hlow := of_decide_eq_true (List.all_eq_true.mp hrecent first hcandidate)
  have hle := score_le_of_rank (show bugSearch.text ≠ [] by decide) hrank
  exact absurd ((of_decide_eq_true hscore).trans hle) (Nat.not_le_of_lt hlow)

end Beale.Memory
