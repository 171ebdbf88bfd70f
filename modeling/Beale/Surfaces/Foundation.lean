import Beale.Library.Client
import Beale.Library.IsoDate
import Beale.Library.Json
import Mathlib.Data.List.Dedup

/-!
# The foundation of a surface

What is known of a surface is a JSON document. It is checked when it is written, and checked again
whenever it is read.

- `SurfaceFoundation`, `SurfaceProgressBlocker`: a document that was checked.
- `storedDocument`, `decodeStoredFoundation`: the document as it is stored, and its reading.
-/

namespace Beale.Surfaces

open Beale.Library
open Client (exceptBind_ok exceptGuard_ok exceptBind_succeeds exceptGuard_succeeds)

/-! ## Texts and lists -/

/-- A text that is not blank. -/
abbrev Filled := { s : JsString // trim s ≠ [] }

abbrev AtMost (n : Nat) (α : Type) := { l : List α // l.length ≤ n }

def bounded (value : JsString) (max : Nat) : JsString := (trim value).take max

variable {max : Nat}

theorem trim_bounded_ne_nil {s : JsString} (h : trim s ≠ []) (hmax : 0 < max) :
    trim (bounded s max) ≠ [] := by
  obtain ⟨unit, rest, hs⟩ := List.exists_cons_of_ne_nil h
  have hspace : isWhitespace unit = false := by
    have hdrop := dropWhile_trim s
    rw [hs] at hdrop
    by_contra hwhite
    rw [List.dropWhile_cons_of_pos (by simpa using hwhite)] at hdrop
    have hlen := congrArg List.length hdrop
    have hle := (List.dropWhile_suffix isWhitespace (l := rest)).length_le
    rw [List.length_cons] at hlen
    omega
  obtain ⟨n, rfl⟩ := Nat.exists_eq_add_of_lt hmax
  have hmem : unit ∈ bounded s (0 + n + 1) := by
    rw [bounded, hs, Nat.zero_add, List.take_succ_cons]
    exact List.mem_cons_self
  have hblank := isBlank_of_mem hmem hspace
  simpa [isBlank] using hblank

/-- `bounded(value, max)`, of a text that is not blank. -/
def boundedText (value : Text) (max : Nat) (hmax : 0 < max := by decide) : Filled :=
  ⟨bounded value.1 max, trim_bounded_ne_nil (by rw [value.2.1]; exact value.2.2) hmax⟩

/-- The text, if it is not blank. -/
def filled? (s : JsString) : Option Filled := if h : trim s ≠ [] then some ⟨s, h⟩ else none

def nonempty (value : Option Json) (name : JsString) : Except JsString Text :=
  match (value.bind Json.asString?).bind textOf? with
  | some text => .ok text
  | none => .error (name ++ js " must be a non-empty string.")

def objectMembers (value : Option Json) (message : JsString) : Except JsString (List (JsString × Json)) :=
  match value with
  | some (.obj members) => .ok members
  | _ => .error message

def arrayElements (max : Nat) (value : Json) (message : JsString) : Except JsString (AtMost max Json) :=
  match value with
  | .arr elements => if h : elements.length ≤ max then .ok ⟨elements, h⟩ else .error message
  | _ => .error message

/-- `value.map((entry, index) => …)`, where a check of an entry may fail. -/
def parseEach {α : Type} (parse : Nat → Json → Except JsString α) : Nat → List Json → Except JsString (List α)
  | _, [] => .ok []
  | index, value :: rest => do
    let entry ← parse index value
    let entries ← parseEach parse (index + 1) rest
    return entry :: entries

variable {α : Type} {values : List Json} {parse : Nat → Json → Except JsString α}

theorem parseEach_length {index : Nat}
    {entries : List α} (h : parseEach parse index values = .ok entries) :
    entries.length = values.length := by
  induction values generalizing index entries with
  | nil =>
    cases h
    rfl
  | cons value rest ih =>
    obtain ⟨entry, -, h⟩ := exceptBind_ok.mp h
    obtain ⟨others, hrest, h⟩ := exceptBind_ok.mp h
    cases h
    rw [List.length_cons, List.length_cons, ih hrest]

/-- The entries of an array of at most so many. -/
def parseArray {α : Type} (max : Nat) (value : Json) (message : JsString)
    (parse : Nat → Json → Except JsString α) : Except JsString (AtMost max α) := do
  let elements ← arrayElements max value message
  match hentries : parseEach parse 0 elements.1 with
  | .ok entries => return ⟨entries, (parseEach_length hentries).trans_le elements.2⟩
  | .error message => throw message

/-- `[index]`, in the name of a field. -/
def indexText (index : Nat) : JsString := js "[" ++ natText index ++ js "]"

/-! ## Sections -/

/-- A field of a section: a string, or what it was. -/
def sectionField (record : List (JsString × Json)) (key name previous : JsString) :
    Except JsString JsString :=
  match record.lookup key with
  | none => .ok previous
  | some (.str entry) => .ok (bounded entry 4000)
  | some _ => .error (name ++ js "." ++ key ++ js " must be a string.")

def sectionRecord (value : Option Json) (name : JsString) : Except JsString (List (JsString × Json)) :=
  match value with
  | none => .ok []
  | value => objectMembers value (name ++ js " must be an object.")

def booleanField (value : Option Json) (name : JsString) : Except JsString (Option Bool) :=
  match value with
  | none => .ok none
  | some (.bool flag) => .ok (some flag)
  | some _ => .error (name ++ js " must be a boolean.")

def stringField (value : Option Json) (name : JsString) : Except JsString (Option JsString) :=
  match value with
  | none => .ok none
  | some (.str text) => .ok (some text)
  | some _ => .error (name ++ js " must be a string.")

/-! ## The threat model -/

structure SurfaceThreatModel where
  diagram : JsString
  securityObjectives : AtMost 100 Filled
  risks : AtMost 100 Filled
  assumptions : AtMost 100 Filled
  riskImpact : JsString
  invariants : JsString
  sinks : JsString
  mitigations : JsString
  attackerControl : JsString
  trustBoundaries : JsString
  assetsAtRisk : JsString
  plausibleImpacts : JsString

/-- A list of the text, if it is not blank. -/
def singleItem (text : JsString) : AtMost 100 Filled :=
  match filled? text with
  | some item => ⟨[item], by simp⟩
  | none => ⟨[], by simp⟩

def threatModelItems (value : Option Json) (previous : Option (AtMost 100 Filled)) (name : JsString) :
    Except JsString (AtMost 100 Filled) :=
  match value with
  | none => .ok (previous.getD ⟨[], by simp⟩)
  | some (.str text) => .ok (singleItem (bounded text 4000))
  | some value => parseArray 100 value
      (js "foundation.threatModel." ++ name ++ js " must be an array with at most 100 entries.")
      fun index item => do
        let text ← nonempty (some item) (js "foundation.threatModel." ++ name ++ indexText index)
        return boundedText text 4000

def parseThreatModel (value : Option Json) (previous : Option SurfaceThreatModel) :
    Except JsString SurfaceThreatModel := do
  let record ← sectionRecord value (js "foundation.threatModel")
  let field := fun key (read : SurfaceThreatModel → JsString) =>
    sectionField record key (js "foundation.threatModel") ((previous.map read).getD [])
  let riskImpactField ← field (js "riskImpact") (·.riskImpact)
  let invariants ← field (js "invariants") (·.invariants)
  let sinks ← field (js "sinks") (·.sinks)
  let mitigations ← field (js "mitigations") (·.mitigations)
  let attackerControl ← field (js "attackerControl") (·.attackerControl)
  let trustBoundaries ← field (js "trustBoundaries") (·.trustBoundaries)
  let assetsAtRisk ← field (js "assetsAtRisk") (·.assetsAtRisk)
  let plausibleImpacts ← field (js "plausibleImpacts") (·.plausibleImpacts)
  let diagram ← stringField (record.lookup (js "diagram")) (js "foundation.threatModel.diagram")
  let hasRiskImpact := (record.lookup (js "riskImpact")).isSome
  let hasPlausibleImpacts := (record.lookup (js "plausibleImpacts")).isSome
  let legacyRisks : Option Json :=
    if hasRiskImpact then some (.str riskImpactField)
    else if hasPlausibleImpacts then some (.str plausibleImpacts)
    else none
  let riskImpact :=
    if hasRiskImpact then riskImpactField
    else if hasPlausibleImpacts then plausibleImpacts
    else match previous.map (·.riskImpact) with
      | some [] => plausibleImpacts
      | some text => text
      | none => plausibleImpacts
  let securityObjectives ← threatModelItems (record.lookup (js "securityObjectives"))
    (previous.map (·.securityObjectives)) (js "securityObjectives")
  let risks ← threatModelItems (record.lookup (js "risks") <|> legacyRisks)
    (some ((previous.map (·.risks)).getD
      (if riskImpactField ≠ [] then singleItem riskImpactField else singleItem plausibleImpacts)))
    (js "risks")
  let assumptions ← threatModelItems (record.lookup (js "assumptions"))
    (previous.map (·.assumptions)) (js "assumptions")
  return {
    diagram := match diagram with
      | some text => bounded text 50000
      | none => (previous.map (·.diagram)).getD []
    securityObjectives, risks, assumptions, riskImpact, invariants, sinks, mitigations
    attackerControl, trustBoundaries, assetsAtRisk, plausibleImpacts }

/-- `threatModelHasContent`. -/
def SurfaceThreatModel.hasContent (m : SurfaceThreatModel) : Bool :=
  [m.diagram, m.riskImpact, m.invariants, m.sinks, m.mitigations, m.attackerControl, m.trustBoundaries,
    m.assetsAtRisk, m.plausibleImpacts].any (trim · ≠ [])
    || !(m.securityObjectives.1.isEmpty && m.risks.1.isEmpty && m.assumptions.1.isEmpty)

/-! ## Ranking, scope and signals -/

/-- `SURFACE_RANKING_FACTORS`. -/
inductive SurfaceRankingFactor where
  | impact
  | reachability
  | relevance
  | exposure
  | precedence
deriving DecidableEq

def SurfaceRankingFactor.all : List SurfaceRankingFactor :=
  [.impact, .reachability, .relevance, .exposure, .precedence]

def SurfaceRankingFactor.text : SurfaceRankingFactor → JsString
  | .impact => js "impact"
  | .reachability => js "reachability"
  | .relevance => js "relevance"
  | .exposure => js "exposure"
  | .precedence => js "precedence"

structure SurfaceAssessment where
  score : { n : Int // 1 ≤ n ∧ n ≤ 10 }
  basis : { t : Text // t.1.length ≤ 500 }

abbrev SurfaceRanking := SurfaceRankingFactor → SurfaceAssessment

/-- The assessment of a factor in `parseSurfaceRanking`. -/
def parseAssessment (record : List (JsString × Json)) (factor : SurfaceRankingFactor) :
    Except JsString SurfaceAssessment := do
  let name := js "foundation.ranking." ++ factor.text
  let item ← objectMembers (record.lookup factor.text) (name ++ js " must include score and basis.")
  if item.any fun m => m.1 ≠ js "score" ∧ m.1 ≠ js "basis" then
    throw (name ++ js " contains an unknown field.")
  match item.lookup (js "score") with
  | some (.num (.integer n)) =>
    if hscore : 1 ≤ n ∧ n ≤ 10 then
      let basis ← nonempty (item.lookup (js "basis")) (name ++ js ".basis")
      if hbasis : basis.1.length ≤ 500 then return ⟨⟨n, hscore⟩, basis, hbasis⟩
      else throw (name ++ js ".basis must be at most 500 characters.")
    else throw (name ++ js ".score must be an integer from 1 to 10.")
  | _ => throw (name ++ js ".score must be an integer from 1 to 10.")

def parseSurfaceRanking : Json → Except JsString (Option SurfaceRanking)
  | .null => .ok none
  | value => do
    let record ← objectMembers (some value) (js "foundation.ranking must be an object.")
    if record.any fun m => !(SurfaceRankingFactor.all.any fun factor => factor.text = m.1) then
      throw (js "foundation.ranking contains an unknown factor.")
    let impact ← parseAssessment record .impact
    let reachability ← parseAssessment record .reachability
    let relevance ← parseAssessment record .relevance
    let exposure ← parseAssessment record .exposure
    let precedence ← parseAssessment record .precedence
    return some fun
      | .impact => impact
      | .reachability => reachability
      | .relevance => relevance
      | .exposure => exposure
      | .precedence => precedence

structure SurfaceScopeAssessment where
  /-- whether the decision is `applicable` -/
  applicable : Bool
  basis : Filled
  references : { l : List Filled // 1 ≤ l.length ∧ l.length ≤ 12 }

/-- The decision of `parseScopeAssessment`. -/
def parseDecision (value : Option Json) : Except JsString Bool :=
  match value.bind Json.asString? with
  | some decision =>
    if decision = js "applicable" then .ok true
    else if decision = js "not_applicable" then .ok false
    else .error (js "foundation.scopeAssessment.decision is invalid.")
  | none => .error (js "foundation.scopeAssessment.decision is invalid.")

def parseScopeAssessment : Json → Except JsString (Option SurfaceScopeAssessment)
  | .null => .ok none
  | value => do
    let record ← objectMembers (some value) (js "foundation.scopeAssessment must be an object or null.")
    let applicable ← parseDecision (record.lookup (js "decision"))
    let basis ← nonempty (record.lookup (js "basis")) (js "foundation.scopeAssessment.basis")
    let references ← parseArray 12 ((record.lookup (js "references")).getD .null)
      (js "foundation.scopeAssessment.references must contain 1 to 12 citations.")
      fun _ reference => do
        let text ← nonempty (some reference) (js "foundation.scopeAssessment.reference")
        return boundedText text 500
    if h : 1 ≤ references.1.length then
      return some ⟨applicable, boundedText basis 1000, references.1, h, references.2⟩
    else throw (js "foundation.scopeAssessment.references must contain 1 to 12 citations.")

/-- `HIGH_VALUE_SURFACE_SIGNALS`. -/
inductive HighValueSurfaceSignal where
  | preAuth
  | sensitiveMemory
  | historicalSink
  | nicheDependency
  | defaultReachable
  | other
deriving DecidableEq

def HighValueSurfaceSignal.all : List HighValueSurfaceSignal :=
  [.preAuth, .sensitiveMemory, .historicalSink, .nicheDependency, .defaultReachable, .other]

def HighValueSurfaceSignal.text : HighValueSurfaceSignal → JsString
  | .preAuth => js "pre_auth"
  | .sensitiveMemory => js "sensitive_memory"
  | .historicalSink => js "historical_sink"
  | .nicheDependency => js "niche_dependency"
  | .defaultReachable => js "default_reachable"
  | .other => js "other"

abbrev SurfaceSignals := { l : AtMost 12 (HighValueSurfaceSignal × Filled) // (l.1.map Prod.fst).Nodup }

/-- The entries of `parseHighValueSignals`, after those of the kinds that were seen. -/
def parseSignals (seen : List HighValueSurfaceSignal) : Nat → List Json →
    Except JsString (List (HighValueSurfaceSignal × Filled))
  | _, [] => .ok []
  | index, value :: rest => do
    let name := js "foundation.highValueSignals" ++ indexText index
    let signal ← objectMembers (some value) (name ++ js " must be an object.")
    match ofText HighValueSurfaceSignal.text HighValueSurfaceSignal.all (signal.lookup (js "kind")) with
    | none => throw (name ++ js ".kind is invalid or repeated.")
    | some kind =>
      if seen.contains kind then throw (name ++ js ".kind is invalid or repeated.")
      let basis ← nonempty (signal.lookup (js "basis")) (name ++ js ".basis")
      let entries ← parseSignals (seen ++ [kind]) (index + 1) rest
      return (kind, boundedText basis 500) :: entries

theorem parseSignals_fresh {seen : List HighValueSurfaceSignal} {index : Nat}
    {entries : List (HighValueSurfaceSignal × Filled)} (h : parseSignals seen index values = .ok entries) :
    entries.length = values.length ∧ (entries.map Prod.fst).Nodup ∧
      ∀ kind ∈ entries.map Prod.fst, kind ∉ seen := by
  induction values generalizing seen index entries with
  | nil =>
    cases h
    exact ⟨rfl, List.nodup_nil, fun _ hkind => absurd hkind List.not_mem_nil⟩
  | cons value rest ih =>
    obtain ⟨signal, -, h⟩ := exceptBind_ok.mp h
    cases hkind : ofText HighValueSurfaceSignal.text HighValueSurfaceSignal.all
        (signal.lookup (js "kind")) with
    | none =>
      rw [hkind] at h
      cases h
    | some kind =>
      rw [hkind] at h
      obtain ⟨hseen, h⟩ := exceptGuard_ok.mp h
      obtain ⟨basis, -, h⟩ := exceptBind_ok.mp h
      obtain ⟨others, hrest, h⟩ := exceptBind_ok.mp h
      cases h
      obtain ⟨hlen, hnodup, hfresh⟩ := ih hrest
      refine ⟨by rw [List.length_cons, List.length_cons, hlen], ?_, ?_⟩
      · refine List.nodup_cons.mpr ⟨fun hmem => hfresh kind hmem ?_, hnodup⟩
        exact List.mem_append_right _ List.mem_cons_self
      · intro k hk
        rcases List.mem_cons.mp hk with rfl | hk
        · simpa using hseen
        · exact fun hmem => hfresh k hk (List.mem_append_left _ hmem)

def parseHighValueSignals (value : Json) : Except JsString SurfaceSignals := do
  let message := js "foundation.highValueSignals must contain at most 12 entries."
  let elements ← arrayElements 12 value message
  match hentries : parseSignals [] 0 elements.1 with
  | .ok entries => return ⟨⟨entries, (parseSignals_fresh hentries).1.trans_le elements.2⟩,
      (parseSignals_fresh hentries).2.1⟩
  | .error message => throw message

/-! ## The stack and the assets -/

/-- How sure an entry of the stack is. -/
inductive Confidence where
  | observed
  | inferred
  | unknown
deriving DecidableEq

def Confidence.all : List Confidence := [.observed, .inferred, .unknown]

def Confidence.text : Confidence → JsString
  | .observed => js "observed"
  | .inferred => js "inferred"
  | .unknown => js "unknown"

structure TechStackEntry where
  technology : Filled
  role : JsString
  version : JsString
  environment : JsString
  evidence : JsString
  confidence : Confidence

/-- A property that is missing where it is null. -/
def nullish : Option Json → Option Json
  | some .null => none
  | value => value

def choice {α : Type} (text : α → JsString) (all : List α) (default : α) (value : Option Json)
    (name : JsString) : Except JsString α :=
  match nullish value with
  | none => .ok default
  | value => match ofText text all value with
    | some a => .ok a
    | none => .error (name ++ js " is invalid.")

def parseTechStack (value : Json) : Except JsString (AtMost 200 TechStackEntry) :=
  parseArray 200 value (js "foundation.techStack must be an array with at most 200 entries.") fun index entry => do
    let name := js "foundation.techStack" ++ indexText index
    let record ← objectMembers (some entry) (name ++ js " must be an object.")
    let role ← sectionField record (js "role") name []
    let version ← sectionField record (js "version") name []
    let environment ← sectionField record (js "environment") name []
    let evidence ← sectionField record (js "evidence") name []
    let confidence ← choice Confidence.text Confidence.all .unknown (record.lookup (js "confidence"))
      (name ++ js ".confidence")
    let technology ← nonempty (record.lookup (js "technology")) (name ++ js ".technology")
    return ⟨boundedText technology 500, role, version, environment, evidence, confidence⟩

/-- How far an asset was researched. -/
inductive AssetStatus where
  | untouched
  | inProgress
  | complete
deriving DecidableEq

def AssetStatus.all : List AssetStatus := [.untouched, .inProgress, .complete]

def AssetStatus.text : AssetStatus → JsString
  | .untouched => js "untouched"
  | .inProgress => js "in_progress"
  | .complete => js "complete"

structure SurfaceAsset where
  name : Filled
  status : AssetStatus

def parseAssets (value : Json) : Except JsString (AtMost 500 SurfaceAsset) :=
  parseArray 500 value (js "foundation.assets must be an array with at most 500 entries.") fun index entry => do
    let name := js "foundation.assets" ++ indexText index
    let record ← objectMembers (some entry) (name ++ js " must be an object.")
    let status ← choice AssetStatus.text AssetStatus.all .untouched (record.lookup (js "status"))
      (name ++ js ".status")
    let asset ← nonempty (record.lookup (js "name")) (name ++ js ".name")
    return ⟨boundedText asset 1000, status⟩

/-! ## The history and the coverage -/

structure BugHistoryEntry where
  identifier : Filled
  impact : Filled
  affectedVersions : JsString
  reference : JsString
  notes : JsString

structure BugHistory where
  summary : JsString
  limits : JsString
  entries : AtMost 200 BugHistoryEntry

def parseBugHistoryEntries (value : Json) : Except JsString (AtMost 200 BugHistoryEntry) :=
  parseArray 200 value (js "foundation.bugHistory.entries must be an array with at most 200 entries.")
    fun index entry => do
      let name := js "foundation.bugHistory.entries" ++ indexText index
      let record ← objectMembers (some entry) (name ++ js " must be an object.")
      let affectedVersions ← sectionField record (js "affectedVersions") name []
      let reference ← sectionField record (js "reference") name []
      let notes ← sectionField record (js "notes") name []
      let identifier ← nonempty (record.lookup (js "identifier")) (name ++ js ".identifier")
      let impact ← nonempty (record.lookup (js "impact")) (name ++ js ".impact")
      return ⟨boundedText identifier 500, boundedText impact 4000, affectedVersions, reference, notes⟩

def parseBugHistory (value : Option Json) (previous : Option BugHistory) : Except JsString BugHistory := do
  let record ← sectionRecord value (js "foundation.bugHistory")
  let summary ← sectionField record (js "summary") (js "foundation.bugHistory")
    ((previous.map (·.summary)).getD [])
  let limits ← sectionField record (js "limits") (js "foundation.bugHistory")
    ((previous.map (·.limits)).getD [])
  let entries ← match record.lookup (js "entries") with
    | none => Except.ok ((previous.map (·.entries)).getD ⟨[], by simp⟩)
    | some entries => parseBugHistoryEntries entries
  return ⟨summary, limits, entries⟩

structure SurfaceCoverage where
  summary : JsString
  gaps : JsString
  opportunities : JsString
  mappingComplete : Bool
  sinksInvestigated : Bool
  openQuestions : AtMost 100 Filled
  unexploredConnections : AtMost 100 Filled

theorem length_eraseDups_le [BEq α] (l : List α) : l.eraseDups.length ≤ l.length := by
  induction hn : l.length using Nat.strong_induction_on generalizing l with
  | _ n ih =>
    cases l with
    | nil => simp
    | cons a rest =>
      have hfilter := List.length_filter_le (fun b => !b == a) rest
      have hrest := ih _ (by rw [← hn, List.length_cons]; omega) (rest.filter fun b => !b == a) rfl
      rw [List.eraseDups_cons, List.length_cons, ← hn, List.length_cons]
      omega

/-- `coverageList`: repeated entries are dropped. -/
def coverageList (value : Json) (name : JsString) : Except JsString (AtMost 100 Filled) := do
  let items ← parseArray 100 value (name ++ js " must be an array with at most 100 entries.") fun _ item => do
    let text ← nonempty (some item) name
    return boundedText text 500
  return ⟨items.1.eraseDups, (length_eraseDups_le _).trans items.2⟩

def parseCoverage (value : Option Json) (previous : Option SurfaceCoverage) :
    Except JsString SurfaceCoverage := do
  let record ← sectionRecord value (js "foundation.coverage")
  let field := fun key (read : SurfaceCoverage → JsString) =>
    sectionField record key (js "foundation.coverage") ((previous.map read).getD [])
  let summary ← field (js "summary") (·.summary)
  let gaps ← field (js "gaps") (·.gaps)
  let opportunities ← field (js "opportunities") (·.opportunities)
  let mappingComplete ← booleanField (record.lookup (js "mappingComplete"))
    (js "foundation.coverage.mappingComplete")
  let sinksInvestigated ← booleanField (record.lookup (js "sinksInvestigated"))
    (js "foundation.coverage.sinksInvestigated")
  let openQuestions ← match record.lookup (js "openQuestions") with
    | none => Except.ok ((previous.map (·.openQuestions)).getD ⟨[], by simp⟩)
    | some value => coverageList value (js "foundation.coverage.openQuestions")
  let unexploredConnections ← match record.lookup (js "unexploredConnections") with
    | none => Except.ok ((previous.map (·.unexploredConnections)).getD ⟨[], by simp⟩)
    | some value => coverageList value (js "foundation.coverage.unexploredConnections")
  return {
    summary, gaps, opportunities
    mappingComplete := mappingComplete.getD ((previous.map (·.mappingComplete)).getD false)
    sinksInvestigated := sinksInvestigated.getD ((previous.map (·.sinksInvestigated)).getD false)
    openQuestions, unexploredConnections }

/-! ## The document -/

structure SurfaceFoundation where
  discovery : JsString
  scopeAssessment : Option (Option SurfaceScopeAssessment)
  ranking : Option (Option SurfaceRanking)
  highValueSignals : SurfaceSignals
  techStack : AtMost 200 TechStackEntry
  assets : AtMost 500 SurfaceAsset
  bugHistory : BugHistory
  coverage : SurfaceCoverage
  threatModel : SurfaceThreatModel
  threatModelReviewed : Bool

/-- A property that keeps what it was where it is missing. -/
def parseOr {α : Type} (value : Option Json) (previous : α) (parse : Json → Except JsString α) :
    Except JsString α :=
  match value with
  | none => .ok previous
  | some value => parse value

def parseFoundation (value : Json) (previous : Option SurfaceFoundation) :
    Except JsString SurfaceFoundation := do
  let record ← objectMembers (some value) (js "foundation must be an object.")
  let discovery ← stringField (record.lookup (js "discovery")) (js "foundation.discovery")
  let reviewed ← booleanField (record.lookup (js "threatModelReviewed"))
    (js "foundation.threatModelReviewed")
  let threatModel ← parseThreatModel (record.lookup (js "threatModel")) (previous.map (·.threatModel))
  let ranking ← parseOr (record.lookup (js "ranking")) (previous.bind (·.ranking))
    fun value => some <$> parseSurfaceRanking value
  let scopeAssessment ← parseOr (record.lookup (js "scopeAssessment"))
    (previous.bind (·.scopeAssessment)) fun value => some <$> parseScopeAssessment value
  let highValueSignals ← parseOr (record.lookup (js "highValueSignals"))
    ((previous.map (·.highValueSignals)).getD ⟨⟨[], by simp⟩, List.nodup_nil⟩) parseHighValueSignals
  let techStack ← parseOr (record.lookup (js "techStack"))
    ((previous.map (·.techStack)).getD ⟨[], by simp⟩) parseTechStack
  let assets ← parseOr (record.lookup (js "assets"))
    ((previous.map (·.assets)).getD ⟨[], by simp⟩) parseAssets
  let bugHistory ← parseBugHistory (record.lookup (js "bugHistory")) (previous.map (·.bugHistory))
  let coverage ← parseCoverage (record.lookup (js "coverage")) (previous.map (·.coverage))
  return {
    discovery := match discovery with
      | some text => trim text
      | none => (previous.map (·.discovery)).getD []
    scopeAssessment, ranking, highValueSignals, techStack, assets, bugHistory, coverage, threatModel
    threatModelReviewed := reviewed = some true || (previous.map (·.threatModelReviewed)).getD false
      || threatModel.hasContent }

structure SurfaceProgressBlocker where
  reason : Filled
  actorId : Filled
  setAt : { t : Text // (dateParse t.1).isSome }

theorem reasonMax_pos : 0 < 2000 := by decide

theorem actorMax_pos : 0 < 200 := by decide

def parseProgressBlocker (value : Option Json) : Except JsString (Option SurfaceProgressBlocker) :=
  match nullish value with
  | none => .ok none
  | value => do
    let record ← objectMembers value (js "Stored surface progress blocker must be an object.")
    let setAt ← nonempty (record.lookup (js "setAt")) (js "Progress blocker timestamp")
    if hdate : (dateParse setAt.1).isSome then
      let reason ← nonempty (record.lookup (js "reason")) (js "Progress blocker reason")
      let actorId ← nonempty (record.lookup (js "actorId")) (js "Progress blocker actor")
      return some ⟨boundedText reason 2000 reasonMax_pos, boundedText actorId 200 actorMax_pos, setAt, hdate⟩
    else throw (js "Progress blocker timestamp must be a date-time.")

/-! ## The stored document -/

/-- A list of texts, as it is stored. -/
def textsJson {n : Nat} (texts : AtMost n Filled) : Json := .arr (texts.1.map fun text => .str text.1)

def SurfaceThreatModel.json (m : SurfaceThreatModel) : Json := .obj [
  (js "diagram", .str m.diagram),
  (js "securityObjectives", textsJson m.securityObjectives),
  (js "risks", textsJson m.risks),
  (js "assumptions", textsJson m.assumptions),
  (js "riskImpact", .str m.riskImpact),
  (js "invariants", .str m.invariants),
  (js "sinks", .str m.sinks),
  (js "mitigations", .str m.mitigations),
  (js "attackerControl", .str m.attackerControl),
  (js "trustBoundaries", .str m.trustBoundaries),
  (js "assetsAtRisk", .str m.assetsAtRisk),
  (js "plausibleImpacts", .str m.plausibleImpacts)]

def SurfaceAssessment.json (a : SurfaceAssessment) : Json := .obj [
  (js "score", .num (.integer a.score.1)), (js "basis", .str a.basis.1.1)]

def rankingJson : Option SurfaceRanking → Json
  | none => .null
  | some ranking => .obj (SurfaceRankingFactor.all.map fun factor => (factor.text, (ranking factor).json))

def scopeAssessmentJson : Option SurfaceScopeAssessment → Json
  | none => .null
  | some scope => .obj [
    (js "decision", .str (if scope.applicable then js "applicable" else js "not_applicable")),
    (js "basis", .str scope.basis.1),
    (js "references", .arr (scope.references.1.map fun reference => .str reference.1))]

def signalJson (signal : HighValueSurfaceSignal × Filled) : Json := .obj [
  (js "kind", .str signal.1.text), (js "basis", .str signal.2.1)]

def TechStackEntry.json (entry : TechStackEntry) : Json := .obj [
  (js "technology", .str entry.technology.1),
  (js "role", .str entry.role),
  (js "version", .str entry.version),
  (js "environment", .str entry.environment),
  (js "evidence", .str entry.evidence),
  (js "confidence", .str entry.confidence.text)]

def SurfaceAsset.json (asset : SurfaceAsset) : Json := .obj [
  (js "name", .str asset.name.1), (js "status", .str asset.status.text)]

def BugHistoryEntry.json (entry : BugHistoryEntry) : Json := .obj [
  (js "identifier", .str entry.identifier.1),
  (js "impact", .str entry.impact.1),
  (js "affectedVersions", .str entry.affectedVersions),
  (js "reference", .str entry.reference),
  (js "notes", .str entry.notes)]

def BugHistory.json (history : BugHistory) : Json := .obj [
  (js "summary", .str history.summary),
  (js "limits", .str history.limits),
  (js "entries", .arr (history.entries.1.map BugHistoryEntry.json))]

def SurfaceCoverage.json (coverage : SurfaceCoverage) : Json := .obj [
  (js "summary", .str coverage.summary),
  (js "gaps", .str coverage.gaps),
  (js "opportunities", .str coverage.opportunities),
  (js "mappingComplete", .bool coverage.mappingComplete),
  (js "sinksInvestigated", .bool coverage.sinksInvestigated),
  (js "openQuestions", textsJson coverage.openQuestions),
  (js "unexploredConnections", textsJson coverage.unexploredConnections)]

def SurfaceProgressBlocker.json (blocker : SurfaceProgressBlocker) : Json := .obj [
  (js "reason", .str blocker.reason.1),
  (js "actorId", .str blocker.actorId.1),
  (js "setAt", .str blocker.setAt.1.1)]

/-- A property that is left out where it is missing. -/
def optionalMember (key : JsString) (value : Option Json) : List (JsString × Json) :=
  (value.map fun value => (key, value)).toList

/-- The members of a document with its blocker, as `update` stores it. -/
def storedMembers (foundation : SurfaceFoundation) (blocker : Option SurfaceProgressBlocker) :
    List (JsString × Json) :=
  [(js "discovery", .str foundation.discovery)]
  ++ optionalMember (js "scopeAssessment") (foundation.scopeAssessment.map scopeAssessmentJson)
  ++ optionalMember (js "ranking") (foundation.ranking.map rankingJson)
  ++ [(js "highValueSignals", .arr (foundation.highValueSignals.1.1.map signalJson)),
    (js "techStack", .arr (foundation.techStack.1.map TechStackEntry.json)),
    (js "assets", .arr (foundation.assets.1.map SurfaceAsset.json)),
    (js "bugHistory", foundation.bugHistory.json),
    (js "coverage", foundation.coverage.json),
    (js "threatModel", foundation.threatModel.json),
    (js "threatModelReviewed", .bool foundation.threatModelReviewed),
    (js "progressBlocker", (blocker.map SurfaceProgressBlocker.json).getD .null)]

def storedDocument (foundation : SurfaceFoundation) (blocker : Option SurfaceProgressBlocker) : Json :=
  .obj (storedMembers foundation blocker)

def decodeStoredFoundation : Option Json →
    Except JsString (Option (SurfaceFoundation × Option SurfaceProgressBlocker))
  | none => .ok none
  | some value => do
    let foundation ← parseFoundation value none
    let blocker ← parseProgressBlocker (value.field? (js "progressBlocker"))
    return some (foundation, blocker)

/-! ## Reading a document again -/

theorem nonempty_filled (text : Filled) (name : JsString) :
    ∃ t, nonempty (some (.str text.1)) name = .ok t := by
  have htext : textOf? text.1 = some ⟨trim text.1, trim_idem _, text.2⟩ := by
    rw [textOf?, dif_pos text.2]
  refine ⟨⟨trim text.1, trim_idem _, text.2⟩, ?_⟩
  simp only [nonempty, Option.bind_some, Json.asString?, htext]

theorem nonempty_text (t : Text) (name : JsString) : nonempty (some (.str t.1)) name = .ok t := by
  simp only [nonempty, Option.bind_some, Json.asString?, textOf?_text]

theorem parseEach_reads {β : Type} {json : β → Json}
    (h : ∀ index b, ∃ a, parse index (json b) = .ok a) (index : Nat) (bs : List β) :
    ∃ entries, parseEach parse index (bs.map json) = .ok entries := by
  induction bs generalizing index with
  | nil => exact ⟨[], rfl⟩
  | cons b rest ih =>
    obtain ⟨a, ha⟩ := h index b
    obtain ⟨entries, hentries⟩ := ih (index + 1)
    exact ⟨a :: entries, exceptBind_ok.mpr ⟨a, ha, exceptBind_ok.mpr ⟨entries, hentries, rfl⟩⟩⟩

theorem parseArray_reads {β : Type}
    {json : β → Json} (h : ∀ index b, ∃ a, parse index (json b) = .ok a) {bs : List β}
    (hbs : bs.length ≤ max) (message : JsString) :
    ∃ entries, parseArray max (.arr (bs.map json)) message parse = .ok entries ∧
      entries.1.length = bs.length := by
  obtain ⟨entries, hentries⟩ := parseEach_reads h 0 bs
  have hlen : (bs.map json).length ≤ max := by rwa [List.length_map]
  have hsame := parseEach_length hentries
  rw [List.length_map] at hsame
  refine ⟨⟨entries, hsame.trans_le hbs⟩, ?_, hsame⟩
  refine exceptBind_ok.mpr ⟨⟨bs.map json, hlen⟩, ?_, ?_⟩
  · simp only [arrayElements, dif_pos hlen]
  · split
    · rename_i others hrest
      rw [hentries] at hrest
      cases hrest
      rfl
    · rename_i hrest
      rw [hentries] at hrest
      cases hrest

theorem parseTexts_reads {bound : Nat} (hbound : 0 < bound) (name : Nat → JsString) {texts : List Filled}
    (htexts : texts.length ≤ max) (message : JsString) :
    ∃ entries, parseArray max (.arr (texts.map fun text => .str text.1)) message (fun index item => do
      let text ← nonempty (some item) (name index)
      return boundedText text bound hbound) = .ok entries ∧ entries.1.length = texts.length := by
  refine parseArray_reads (fun index text => ?_) htexts message
  obtain ⟨t, ht⟩ := nonempty_filled text (name index)
  exact exceptBind_succeeds ht ⟨boundedText t bound hbound, rfl⟩

theorem threatModelItems_reads (items : AtMost 100 Filled) (previous : Option (AtMost 100 Filled))
    (name : JsString) : ∃ r, threatModelItems (some (textsJson items)) previous name = .ok r := by
  obtain ⟨entries, hentries, -⟩ := parseTexts_reads (by decide : 0 < 4000)
    (fun index => js "foundation.threatModel." ++ name ++ indexText index) items.2
    (js "foundation.threatModel." ++ name ++ js " must be an array with at most 100 entries.")
  exact ⟨entries, hentries⟩

theorem threatModel_reads (m : SurfaceThreatModel) :
    ∃ r, parseThreatModel (some m.json) none = .ok r := by
  obtain ⟨objectives, hobjectives⟩ := threatModelItems_reads m.securityObjectives none
    (js "securityObjectives")
  obtain ⟨risks, hrisks⟩ := threatModelItems_reads m.risks
    (some (if bounded m.riskImpact 4000 ≠ [] then singleItem (bounded m.riskImpact 4000)
      else singleItem (bounded m.plausibleImpacts 4000))) (js "risks")
  obtain ⟨assumptions, hassumptions⟩ := threatModelItems_reads m.assumptions none (js "assumptions")
  refine exceptBind_succeeds rfl ?_
  refine exceptBind_succeeds (a := bounded m.riskImpact 4000) rfl ?_
  refine exceptBind_succeeds rfl ?_
  refine exceptBind_succeeds rfl ?_
  refine exceptBind_succeeds rfl ?_
  refine exceptBind_succeeds rfl ?_
  refine exceptBind_succeeds rfl ?_
  refine exceptBind_succeeds rfl ?_
  refine exceptBind_succeeds (a := bounded m.plausibleImpacts 4000) rfl ?_
  refine exceptBind_succeeds (a := some m.diagram) rfl ?_
  refine exceptBind_succeeds hobjectives ?_
  refine exceptBind_succeeds hrisks ?_
  refine exceptBind_succeeds hassumptions ?_
  exact ⟨_, rfl⟩

theorem assessment_reads (record : List (JsString × Json)) (factor : SurfaceRankingFactor)
    (a : SurfaceAssessment) (h : record.lookup factor.text = some a.json) :
    parseAssessment record factor = .ok a := by
  rw [parseAssessment, h]
  refine exceptBind_ok.mpr ⟨_, rfl, exceptGuard_ok.mpr ⟨?_, ?_⟩⟩
  · simp
  · show (if hscore : 1 ≤ a.score.1 ∧ a.score.1 ≤ 10 then _ else _) = _
    rw [dif_pos a.score.2]
    refine exceptBind_ok.mpr ⟨a.basis.1, nonempty_text _ _, ?_⟩
    rw [dif_pos a.basis.2]
    rfl

theorem ranking_reads (ranking : Option SurfaceRanking) :
    ∃ r, parseSurfaceRanking (rankingJson ranking) = .ok r := by
  cases ranking with
  | none => exact ⟨none, rfl⟩
  | some ranking =>
    refine exceptBind_succeeds rfl (exceptGuard_succeeds ?_ ?_)
    · simp [SurfaceRankingFactor.all]
    · refine exceptBind_succeeds (assessment_reads _ .impact (ranking .impact) rfl) ?_
      refine exceptBind_succeeds (assessment_reads _ .reachability (ranking .reachability) rfl) ?_
      refine exceptBind_succeeds (assessment_reads _ .relevance (ranking .relevance) rfl) ?_
      refine exceptBind_succeeds (assessment_reads _ .exposure (ranking .exposure) rfl) ?_
      exact exceptBind_succeeds (assessment_reads _ .precedence (ranking .precedence) rfl) ⟨_, rfl⟩

theorem scopeAssessment_reads (scope : Option SurfaceScopeAssessment) :
    ∃ r, parseScopeAssessment (scopeAssessmentJson scope) = .ok r := by
  cases scope with
  | none => exact ⟨none, rfl⟩
  | some scope =>
    obtain ⟨basis, hbasis⟩ := nonempty_filled scope.basis (js "foundation.scopeAssessment.basis")
    obtain ⟨references, hrefs, hlen⟩ := parseTexts_reads (by decide : 0 < 500)
      (fun _ => js "foundation.scopeAssessment.reference") scope.references.2.2
      (js "foundation.scopeAssessment.references must contain 1 to 12 citations.")
    refine exceptBind_succeeds rfl ?_
    refine exceptBind_succeeds (a := scope.applicable) ?_ ?_
    · show parseDecision (some (.str (if scope.applicable then _ else _))) = _
      cases scope.applicable <;> rfl
    refine exceptBind_succeeds hbasis ?_
    refine exceptBind_succeeds hrefs ?_
    rw [dif_pos (scope.references.2.1.trans_eq hlen.symm)]
    exact ⟨_, rfl⟩

theorem HighValueSurfaceSignal.text_inj (a b : HighValueSurfaceSignal) (h : a.text = b.text) : a = b := by
  revert h
  cases a <;> cases b <;> decide

theorem Confidence.text_inj (a b : Confidence) (h : a.text = b.text) : a = b := by
  revert h
  cases a <;> cases b <;> decide

theorem AssetStatus.text_inj (a b : AssetStatus) (h : a.text = b.text) : a = b := by
  revert h
  cases a <;> cases b <;> decide

theorem choice_text {text : α → JsString} {all : List α}
    (htext : ∀ a b, text a = text b → a = b) {a : α} (ha : a ∈ all) (default : α) (name : JsString) :
    choice text all default (some (.str (text a))) name = .ok a := by
  simp only [choice, nullish, ofText_text htext ha]

theorem parseSignals_reads (seen : List HighValueSurfaceSignal) (index : Nat)
    (signals : List (HighValueSurfaceSignal × Filled)) (hnodup : (signals.map Prod.fst).Nodup)
    (hseen : ∀ kind ∈ signals.map Prod.fst, kind ∉ seen) :
    ∃ r, parseSignals seen index (signals.map signalJson) = .ok r := by
  induction signals generalizing seen index with
  | nil => exact ⟨[], rfl⟩
  | cons signal rest ih =>
    obtain ⟨hhead, hnodup⟩ := List.nodup_cons.mp hnodup
    have hkind : ofText HighValueSurfaceSignal.text HighValueSurfaceSignal.all
        (some (.str signal.1.text)) = some signal.1 :=
      ofText_text HighValueSurfaceSignal.text_inj (by cases signal.1 <;> decide)
    have hfresh : seen.contains signal.1 = false := by
      simpa using hseen signal.1 List.mem_cons_self
    obtain ⟨basis, hbasis⟩ := nonempty_filled signal.2
      (js "foundation.highValueSignals" ++ indexText index ++ js ".basis")
    obtain ⟨others, hrest⟩ := ih (seen ++ [signal.1]) (index + 1) hnodup fun kind hmem => by
      rw [List.mem_append, List.mem_singleton, not_or]
      exact ⟨hseen kind (List.mem_cons_of_mem _ hmem), fun heq => hhead (heq ▸ hmem)⟩
    refine ⟨(signal.1, boundedText basis 500) :: others, ?_⟩
    refine exceptBind_ok.mpr ⟨_, rfl, ?_⟩
    show (match ofText HighValueSurfaceSignal.text HighValueSurfaceSignal.all
      (some (.str signal.1.text)) with
      | none => _
      | some kind => _) = _
    rw [hkind]
    refine exceptGuard_ok.mpr ⟨by rw [hfresh]; decide, ?_⟩
    refine exceptBind_ok.mpr ⟨basis, hbasis, ?_⟩
    exact exceptBind_ok.mpr ⟨others, hrest, rfl⟩

theorem highValueSignals_reads (signals : SurfaceSignals) :
    ∃ r, parseHighValueSignals (.arr (signals.1.1.map signalJson)) = .ok r := by
  obtain ⟨entries, hentries⟩ := parseSignals_reads [] 0 signals.1.1 signals.2
    fun _ _ => List.not_mem_nil
  have hlen : (signals.1.1.map signalJson).length ≤ 12 := by
    rw [List.length_map]
    exact signals.1.2
  refine exceptBind_succeeds (a := ⟨_, hlen⟩) (by rw [arrayElements, dif_pos hlen]) ?_
  split
  · exact ⟨_, rfl⟩
  · rename_i message hrest
    rw [hentries] at hrest
    cases hrest

theorem techStack_reads (stack : AtMost 200 TechStackEntry) :
    ∃ r, parseTechStack (.arr (stack.1.map TechStackEntry.json)) = .ok r ∧ r.1.length = stack.1.length := by
  refine parseArray_reads (fun index entry => ?_) stack.2 _
  obtain ⟨technology, htechnology⟩ := nonempty_filled entry.technology
    (js "foundation.techStack" ++ indexText index ++ js ".technology")
  refine exceptBind_succeeds rfl ?_
  refine exceptBind_succeeds (a := bounded entry.role 4000) rfl ?_
  refine exceptBind_succeeds (a := bounded entry.version 4000) rfl ?_
  refine exceptBind_succeeds (a := bounded entry.environment 4000) rfl ?_
  refine exceptBind_succeeds (a := bounded entry.evidence 4000) rfl ?_
  refine exceptBind_succeeds (choice_text Confidence.text_inj (a := entry.confidence)
    (by cases entry.confidence <;> decide) _ _) ?_
  exact exceptBind_succeeds htechnology ⟨_, rfl⟩

theorem assets_reads (assets : AtMost 500 SurfaceAsset) :
    ∃ r, parseAssets (.arr (assets.1.map SurfaceAsset.json)) = .ok r ∧ r.1.length = assets.1.length := by
  refine parseArray_reads (fun index asset => ?_) assets.2 _
  obtain ⟨name, hname⟩ := nonempty_filled asset.name
    (js "foundation.assets" ++ indexText index ++ js ".name")
  refine exceptBind_succeeds rfl ?_
  refine exceptBind_succeeds (choice_text AssetStatus.text_inj (a := asset.status)
    (by cases asset.status <;> decide) _ _) ?_
  exact exceptBind_succeeds hname ⟨_, rfl⟩

theorem bugHistoryEntries_reads (entries : AtMost 200 BugHistoryEntry) :
    ∃ r, parseBugHistoryEntries (.arr (entries.1.map BugHistoryEntry.json)) = .ok r ∧
      r.1.length = entries.1.length := by
  refine parseArray_reads (fun index entry => ?_) entries.2 _
  obtain ⟨identifier, hidentifier⟩ := nonempty_filled entry.identifier
    (js "foundation.bugHistory.entries" ++ indexText index ++ js ".identifier")
  obtain ⟨impact, himpact⟩ := nonempty_filled entry.impact
    (js "foundation.bugHistory.entries" ++ indexText index ++ js ".impact")
  refine exceptBind_succeeds rfl ?_
  refine exceptBind_succeeds (a := bounded entry.affectedVersions 4000) rfl ?_
  refine exceptBind_succeeds (a := bounded entry.reference 4000) rfl ?_
  refine exceptBind_succeeds (a := bounded entry.notes 4000) rfl ?_
  refine exceptBind_succeeds hidentifier ?_
  exact exceptBind_succeeds himpact ⟨_, rfl⟩

theorem bugHistory_reads (history : BugHistory) : ∃ r, parseBugHistory (some history.json) none = .ok r := by
  obtain ⟨entries, hentries, -⟩ := bugHistoryEntries_reads history.entries
  refine exceptBind_succeeds rfl ?_
  refine exceptBind_succeeds (a := bounded history.summary 4000) rfl ?_
  refine exceptBind_succeeds (a := bounded history.limits 4000) rfl ?_
  exact exceptBind_succeeds hentries ⟨_, rfl⟩

theorem coverageList_reads (texts : AtMost 100 Filled) (name : JsString) :
    ∃ r, coverageList (textsJson texts) name = .ok r := by
  obtain ⟨entries, hentries, -⟩ := parseTexts_reads (by decide : 0 < 500) (fun _ => name) texts.2
    (name ++ js " must be an array with at most 100 entries.")
  exact exceptBind_succeeds hentries ⟨_, rfl⟩

theorem coverage_reads (coverage : SurfaceCoverage) :
    ∃ r, parseCoverage (some coverage.json) none = .ok r := by
  obtain ⟨questions, hquestions⟩ := coverageList_reads coverage.openQuestions
    (js "foundation.coverage.openQuestions")
  obtain ⟨connections, hconnections⟩ := coverageList_reads coverage.unexploredConnections
    (js "foundation.coverage.unexploredConnections")
  refine exceptBind_succeeds rfl ?_
  refine exceptBind_succeeds (a := bounded coverage.summary 4000) rfl ?_
  refine exceptBind_succeeds (a := bounded coverage.gaps 4000) rfl ?_
  refine exceptBind_succeeds (a := bounded coverage.opportunities 4000) rfl ?_
  refine exceptBind_succeeds (a := some coverage.mappingComplete) rfl ?_
  refine exceptBind_succeeds (a := some coverage.sinksInvestigated) rfl ?_
  refine exceptBind_succeeds hquestions ?_
  exact exceptBind_succeeds hconnections ⟨_, rfl⟩

theorem parseOr_reads {β : Type} (p : β) (f : Json → Except JsString β) (g : α → Json)
    (h : ∀ a, ∃ b, f (g a) = .ok b) (value : Option α) :
    ∃ b, parseOr (value.map g) p f = .ok b := by
  cases value with
  | none => exact ⟨p, rfl⟩
  | some a => exact h a

theorem some_reads {x : Except JsString α} (h : ∃ a, x = .ok a) : ∃ b, some <$> x = .ok b := by
  obtain ⟨a, ha⟩ := h
  exact ⟨some a, by rw [ha]; rfl⟩

theorem foundation_reads (foundation : SurfaceFoundation) (blocker : Option SurfaceProgressBlocker) :
    ∃ r, parseFoundation (storedDocument foundation blocker) none = .ok r := by
  obtain ⟨discovery, scope, ranking, signals, stack, assets, history, coverage, model, reviewed⟩ :=
    foundation
  obtain ⟨scope', hscope⟩ := parseOr_reads none
    (fun value => some <$> parseScopeAssessment value) scopeAssessmentJson (fun scope => some_reads (scopeAssessment_reads scope)) scope
  obtain ⟨ranking', hranking⟩ := parseOr_reads none
    (fun value => some <$> parseSurfaceRanking value) rankingJson (fun ranking => some_reads (ranking_reads ranking)) ranking
  obtain ⟨signals', hsignals⟩ := highValueSignals_reads signals
  obtain ⟨stack', hstack, -⟩ := techStack_reads stack
  obtain ⟨assets', hassets, -⟩ := assets_reads assets
  obtain ⟨history', hhistory⟩ := bugHistory_reads history
  obtain ⟨coverage', hcoverage⟩ := coverage_reads coverage
  obtain ⟨model', hmodel⟩ := threatModel_reads model
  -- the members that may be left out do not hide the ones behind them
  cases scope <;> cases ranking <;>
  · refine exceptBind_succeeds rfl ?_
    refine exceptBind_succeeds (a := some discovery) rfl ?_
    refine exceptBind_succeeds (a := some reviewed) rfl ?_
    refine exceptBind_succeeds hmodel ?_
    refine exceptBind_succeeds hranking ?_
    refine exceptBind_succeeds hscope ?_
    refine exceptBind_succeeds hsignals ?_
    refine exceptBind_succeeds hstack ?_
    refine exceptBind_succeeds hassets ?_
    refine exceptBind_succeeds hhistory ?_
    exact exceptBind_succeeds hcoverage ⟨_, rfl⟩

theorem progressBlocker_reads (blocker : Option SurfaceProgressBlocker) :
    ∃ r, parseProgressBlocker (some ((blocker.map SurfaceProgressBlocker.json).getD .null)) = .ok r := by
  cases blocker with
  | none => exact ⟨none, rfl⟩
  | some blocker =>
    obtain ⟨reason, hreason⟩ := nonempty_filled blocker.reason (js "Progress blocker reason")
    obtain ⟨actorId, hactor⟩ := nonempty_filled blocker.actorId (js "Progress blocker actor")
    refine exceptBind_succeeds rfl ?_
    refine exceptBind_succeeds (nonempty_text blocker.setAt.1 _) ?_
    rw [dif_pos blocker.setAt.2]
    refine exceptBind_succeeds hreason ?_
    exact exceptBind_succeeds hactor ⟨_, rfl⟩

/-- **A document that was checked passes the checks again.** -/
theorem decode_stored (foundation : SurfaceFoundation) (blocker : Option SurfaceProgressBlocker) :
    ∃ r, decodeStoredFoundation (some (storedDocument foundation blocker)) = .ok (some r) := by
  obtain ⟨foundation', hfound⟩ := foundation_reads foundation blocker
  obtain ⟨blocker', hblocker⟩ := progressBlocker_reads blocker
  have hmember : (storedDocument foundation blocker).field? (js "progressBlocker")
      = some ((blocker.map SurfaceProgressBlocker.json).getD .null) := by
    obtain ⟨_, scope, ranking, _, _, _, _, _, _, _⟩ := foundation
    cases scope <;> cases ranking <;> rfl
  refine ⟨(foundation', blocker'), exceptBind_ok.mpr ⟨foundation', hfound, ?_⟩⟩
  rw [hmember]
  exact exceptBind_ok.mpr ⟨blocker', hblocker, rfl⟩

end Beale.Surfaces
