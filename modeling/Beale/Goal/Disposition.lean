import Beale.Library.IsoDate
import Beale.Library.Json

/-!
# Session dispositions

The final disposition a research session records, as `session.disposition` reads
it from the model's arguments.
-/

namespace Beale.Goal

open Beale.Library

inductive ResearchDispositionOutcome where
  | objectiveAchieved
  | objectivePartiallyAchieved
  | blocked
  | inconclusive
  | failed
  | stopped
deriving DecidableEq, Repr

inductive ResearchBlockerDependencyKind where
  | userInput
  | credentials
  | authorization
  | sourceMaterial
  | environment
  | networkAccess
  | externalService
  | targetState
  | other
deriving DecidableEq, Repr

def ResearchDispositionOutcome.text : ResearchDispositionOutcome → JsString
  | .objectiveAchieved => js "objective_achieved"
  | .objectivePartiallyAchieved => js "objective_partially_achieved"
  | .blocked => js "blocked"
  | .inconclusive => js "inconclusive"
  | .failed => js "failed"
  | .stopped => js "stopped"

def ResearchBlockerDependencyKind.text : ResearchBlockerDependencyKind → JsString
  | .userInput => js "user_input"
  | .credentials => js "credentials"
  | .authorization => js "authorization"
  | .sourceMaterial => js "source_material"
  | .environment => js "environment"
  | .networkAccess => js "network_access"
  | .externalService => js "external_service"
  | .targetState => js "target_state"
  | .other => js "other"

def researchDispositionOutcomes : List ResearchDispositionOutcome :=
  [.objectiveAchieved, .objectivePartiallyAchieved, .blocked, .inconclusive, .failed, .stopped]

def researchBlockerDependencyKinds : List ResearchBlockerDependencyKind :=
  [.userInput, .credentials, .authorization, .sourceMaterial, .environment, .networkAccess,
    .externalService, .targetState, .other]

theorem outcome_text_injective : ∀ a b : ResearchDispositionOutcome, a.text = b.text → a = b := by
  intro a b
  cases a <;> cases b <;> decide

theorem kind_text_injective : ∀ a b : ResearchBlockerDependencyKind, a.text = b.text → a = b := by
  intro a b
  cases a <;> cases b <;> decide

theorem mem_outcomes (outcome : ResearchDispositionOutcome) :
    outcome ∈ researchDispositionOutcomes := by
  cases outcome <;> decide

theorem mem_kinds (kind : ResearchBlockerDependencyKind) :
    kind ∈ researchBlockerDependencyKinds := by
  cases kind <;> decide

structure ResearchBlockerDependency where
  kind : ResearchBlockerDependencyKind
  description : Text
  requiredState : Text
  external : Bool
deriving DecidableEq

structure ResearchNextPromptSuggestion where
  title : Text
  promptMarkdown : Text
  rationale : Option Text
deriving DecidableEq

/-- A final disposition. External state is required where a dependency is external; a
blocked disposition has a dependency and an achieved one has none. -/
structure ResearchFinalDisposition where
  outcome : ResearchDispositionOutcome
  summary : Text
  blockerDependencies : List ResearchBlockerDependency
  externalStateRequired : Bool
  nextPromptSuggestions : Option (List ResearchNextPromptSuggestion)
  recordedAt : Instant
  external_iff : externalStateRequired = blockerDependencies.any (·.external)
  blocked_has : outcome = .blocked → blockerDependencies ≠ []
  achieved_none : outcome = .objectiveAchieved → blockerDependencies = []
deriving DecidableEq

/-! ## Reading arguments -/

/-- `requiredString`: the text a required property holds. -/
def requiredString (value : Option Json) (label : JsString) : Except JsString Text :=
  match (value.bind Json.asString?).bind textOf? with
  | some text => .ok text
  | none => .error (label ++ js " must be a non-empty string.")

def optionalString (value : Option Json) (label : JsString) : Except JsString (Option Text) :=
  match value with
  | none => .ok none
  | some value => some <$> requiredString (some value) label

def requiredBoolean (value : Option Json) (label : JsString) : Except JsString Bool :=
  match value with
  | some (.bool b) => .ok b
  | _ => .error (label ++ js " must be a boolean.")

/-- `record`: the value, where it is an object. -/
def requiredRecord (value : Json) (label : JsString) : Except JsString Json :=
  if value.isRecord then .ok value else .error (label ++ js " must be an object.")

def parseDependency (value : Json) : Except JsString ResearchBlockerDependency := do
  let input ← requiredRecord value (js "blocker dependency")
  let kind ← requiredString (input.field? (js "kind")) (js "dependency kind")
  let some kind := researchBlockerDependencyKinds.find? fun k => k.text = kind.1
    | throw (js "Unsupported blocker dependency kind: " ++ kind.1)
  let description ← requiredString (input.field? (js "description")) (js "dependency description")
  let requiredState ←
    requiredString (input.field? (js "requiredState")) (js "dependency requiredState")
  let external ← requiredBoolean (input.field? (js "external")) (js "dependency external")
  return ⟨kind, description, requiredState, external⟩

/-- The suggestions after some whose titles have the given identities. -/
def parseSuggestionsAfter (toLocaleLowerCase : JsString → JsString) :
    List JsString → List Json → Except JsString (List ResearchNextPromptSuggestion)
  | _, [] => .ok []
  | identities, candidate :: rest => do
    let input ← requiredRecord candidate (js "next prompt suggestion")
    let title ← requiredString (input.field? (js "title")) (js "suggestion title")
    if toLocaleLowerCase title.1 ∈ identities then
      throw (js "nextPromptSuggestions titles must be distinct.")
    let promptMarkdown ←
      requiredString (input.field? (js "promptMarkdown")) (js "suggestion promptMarkdown")
    let rationale ← optionalString (input.field? (js "rationale")) (js "suggestion rationale")
    let suggestions ←
      parseSuggestionsAfter toLocaleLowerCase (toLocaleLowerCase title.1 :: identities) rest
    return ⟨title, promptMarkdown, rationale⟩ :: suggestions

def parseNextPromptSuggestions (toLocaleLowerCase : JsString → JsString) :
    Json → Except JsString (List ResearchNextPromptSuggestion)
  | .arr [a, b, c] => parseSuggestionsAfter toLocaleLowerCase [] [a, b, c]
  | _ => .error (js "nextPromptSuggestions must contain exactly three suggestions.")

/-- A text after a fixed beginning. -/
def prependText (s : JsString) (hne : s ≠ []) (hs : s.dropWhile isWhitespace = s) (t : Text) : Text :=
  ⟨s ++ t.1, trim_append_text t hne hs, by simp [hne]⟩

/-- `parseGoalSignal`: the goal states, each with the disposition it stands for. -/
def parseGoalSignal (input : Json) (now : Instant) : Except JsString ResearchFinalDisposition := do
  let state ← requiredString (input.field? (js "state")) (js "state")
  let reason ← optionalString (input.field? (js "reason")) (js "reason")
  let requiredState ← optionalString (input.field? (js "requiredState")) (js "requiredState")
  if state.1 = js "waiting_on_external_state" then
    match requiredState with
    | none => throw (js "waiting_on_external_state requires requiredState.")
    | some requiredState =>
      return {
        outcome := .blocked
        summary := reason.getD
          (prependText (js "Waiting for external state: ") (by decide) (by decide) requiredState)
        blockerDependencies := [⟨.other, reason.getD requiredState, requiredState, true⟩]
        externalStateRequired := true
        nextPromptSuggestions := none
        recordedAt := now
        external_iff := rfl
        blocked_has := by simp
        achieved_none := by simp }
  else if state.1 = js "achieved" ∨ state.1 = js "continue" then
    if requiredState.isSome then
      throw (js "requiredState is only valid when waiting_on_external_state.")
    if state.1 = js "achieved" then
      return {
        outcome := .objectiveAchieved
        summary := reason.getD ⟨js "Goal achieved.", by decide⟩
        blockerDependencies := []
        externalStateRequired := false
        nextPromptSuggestions := none
        recordedAt := now
        external_iff := rfl
        blocked_has := by simp
        achieved_none := by simp }
    else
      return {
        outcome := .objectivePartiallyAchieved
        summary := reason.getD ⟨js "Goal research continues.", by decide⟩
        blockerDependencies := []
        externalStateRequired := false
        nextPromptSuggestions := none
        recordedAt := now
        external_iff := rfl
        blocked_has := by simp
        achieved_none := by simp }
  else throw (js "Unsupported goal state: " ++ state.1)

/-- `parseDisposition`: a goal signal, or the shape that earlier models submitted. -/
def parseDisposition (toLocaleLowerCase : JsString → JsString) (value : Json) (now : Instant) :
    Except JsString ResearchFinalDisposition := do
  let input ← requiredRecord value (js "session disposition")
  if (input.field? (js "state")).isSome then parseGoalSignal input now
  else
    let outcome ← requiredString (input.field? (js "outcome")) (js "outcome")
    let some outcome := (researchDispositionOutcomes.take 4).find? fun o => o.text = outcome.1
      | throw (js "Unsupported model-recorded session outcome: " ++ outcome.1)
    let summary ← requiredString (input.field? (js "summary")) (js "summary")
    let some (.arr dependencies) := input.field? (js "blockerDependencies")
      | throw (js "blockerDependencies must be an array.")
    let blockerDependencies ← dependencies.mapM parseDependency
    let externalStateRequired ←
      requiredBoolean (input.field? (js "externalStateRequired")) (js "externalStateRequired")
    if hrequired : externalStateRequired ∧ ¬blockerDependencies.any (·.external) then
      throw (js "externalStateRequired requires at least one external blocker dependency.")
    else if hexternal : ¬externalStateRequired ∧ blockerDependencies.any (·.external) then
      throw (js "An external blocker dependency requires externalStateRequired=true.")
    else if hblocked : outcome = .blocked ∧ blockerDependencies = [] then
      throw (js "A blocked disposition requires at least one blocker dependency.")
    else if hachieved : outcome = .objectiveAchieved ∧ blockerDependencies ≠ [] then
      throw (js "An achieved objective cannot retain blocker dependencies.")
    else
      let nextPromptSuggestions ← match input.field? (js "nextPromptSuggestions") with
        | none => pure none
        | some suggestions => some <$> parseNextPromptSuggestions toLocaleLowerCase suggestions
      return {
        outcome, summary, blockerDependencies, externalStateRequired, nextPromptSuggestions
        recordedAt := now
        external_iff := by
          cases externalStateRequired <;> simp_all
        blocked_has := fun h hnil => hblocked ⟨h, hnil⟩
        achieved_none := fun h => by
          by_contra hne
          exact hachieved ⟨h, hne⟩ }

/-! ## The recorder -/

/-- `ResearchDispositionRecorder`: the disposition recorded since the last reset. -/
abbrev ResearchDispositionRecorder := Option ResearchFinalDisposition

/-- `record`. A disposition that is refused leaves the recorder as it is. -/
def ResearchDispositionRecorder.record (recorder : ResearchDispositionRecorder)
    (toLocaleLowerCase : JsString → JsString) (input : Json) (now : Instant) :
    Except JsString ResearchDispositionRecorder :=
  match recorder with
  | some _ => .error (js "The session final disposition has already been recorded.")
  | none => some <$> parseDisposition toLocaleLowerCase input now

end Beale.Goal
