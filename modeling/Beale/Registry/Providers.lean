import Beale.Control.Replay
import Beale.Library.Client

/-!
# Provider settings

The settings of the model providers are rows of the registry, each of which holds JSON. A row is
normalized whenever it is read, and it is written from what has been read.

- `normalizeCustomProviderDefinition`, `normalizeProviderModelDefaults`: what a row may hold.
- `getProviderSettings`: the settings, as they are read.
- `saveCustomProvider`, `removeCustomProvider`, `setDefaultProviderId`, `setProviderModelDefaults`,
  `setProviderOptionalModelEnabled`: the calls.
-/

namespace Beale.Registry

open Beale.Library
open Beale.Control (ReasoningEffort)

/-! ## Custom providers -/

/-- What `new URL` finds in a text. -/
structure Url where
  href : JsString
  protocol : JsString
  username : JsString
  password : JsString
  search : JsString
  hash : JsString

structure CustomProviderModel where
  id : JsString
  name : JsString
deriving DecidableEq

structure CustomProviderDefinition where
  id : JsString
  name : JsString
  baseUrl : JsString
  contextWindow : Nat
  maxTokens : Nat
  models : List CustomProviderModel
  reasoning : Bool
deriving DecidableEq

structure ProviderPlatform where
  /-- `new URL(text)` -/
  url? : JsString → Option Url
  /-- `getSupportedThinkingLevels(createCustomProviderModel(provider, { id, name: id }))` -/
  supportedThinkingLevels : CustomProviderDefinition → JsString → List ReasoningEffort

/-- `[a-z0-9]` -/
def isIdUnit (u : UInt16) : Bool := 97 ≤ u && u ≤ 122 || 48 ≤ u && u ≤ 57

/-- `/^custom-[a-z0-9][a-z0-9-]{0,63}$/u` -/
def isCustomProviderId (id : JsString) : Bool :=
  (js "custom-").isPrefixOf id &&
    match id.drop 7 with
    | [] => false
    | u :: rest => isIdUnit u && rest.length ≤ 63 && rest.all fun v => isIdUnit v || v = 45

/-- `href.replace(/\/$/u, '')` -/
def withoutSlash (href : JsString) : JsString := if href.getLast? = some 47 then href.dropLast else href

def normalizeBaseUrl (env : ProviderPlatform) (baseUrl : JsString) : Except JsString JsString :=
  match env.url? baseUrl with
  | none => .error (js "Invalid custom provider base URL.")
  | some url =>
    if ¬ (js "http:" = url.protocol ∨ js "https:" = url.protocol) ∨ url.username ≠ [] ∨ url.password ≠ [] ∨ url.search ≠ [] ∨
        url.hash ≠ [] ∨ 2048 < baseUrl.length then
      .error (js "Invalid custom provider base URL.")
    else .ok (withoutSlash url.href)

def normalizeModel (model : Json) : Except JsString CustomProviderModel :=
  match model.stringField? (js "id"), model.stringField? (js "name") with
  | some id, some name =>
    if trim id = [] ∨ 200 < id.length ∨ trim name = [] ∨ 200 < name.length then .error (js "Invalid custom provider model.")
    else .ok ⟨trim id, trim name⟩
  | _, _ => .error (js "Invalid custom provider model.")

/-- `value ?? fallback`, where it is an integer. -/
def integerOr (fallback : Int) : Option Json → Option Int
  | none | some .null => some fallback
  | some (.num (.integer n)) => some n
  | some _ => none

def normalizeTokenLimits (contextWindow maxTokens : Option Json) : Except JsString (Nat × Nat) :=
  match integerOr 128000 contextWindow, integerOr 16000 maxTokens with
  | some contextWindow, some maxTokens =>
    if contextWindow < 1024 ∨ 10000000 < contextWindow ∨ maxTokens < 256 ∨ contextWindow < maxTokens then
      .error (js "Invalid custom provider token limits.")
    else .ok (contextWindow.toNat, maxTokens.toNat)
  | _, _ => .error (js "Invalid custom provider token limits.")

/-- The fields that are checked first: the id, the name, the base URL and the models. -/
def definitionFields (value : Json) : Option (JsString × JsString × JsString × List Json) :=
  match value.stringField? (js "id"), value.stringField? (js "name"), value.stringField? (js "baseUrl"), value.field? (js "models") with
  | some id, some name, some baseUrl, some (.arr models) =>
    if isCustomProviderId id = true ∧ trim name ≠ [] ∧ name.length ≤ 100 ∧ models.length ≤ 500 then some (id, name, baseUrl, models) else none
  | _, _, _, _ => none

/-- `value === true` -/
def isTrue : Option Json → Bool
  | some (.bool b) => b
  | _ => false

def normalizeCustomProviderDefinition (env : ProviderPlatform) (value : Json) : Except JsString CustomProviderDefinition :=
  match definitionFields value with
  | none => .error (js "Invalid custom provider definition.")
  | some (id, name, baseUrl, models) => do
    let baseUrl ← normalizeBaseUrl env baseUrl
    let models ← models.mapM normalizeModel
    if ¬ (models.map CustomProviderModel.id).Nodup then throw (js "Duplicate custom provider model ID.")
    let limits ← normalizeTokenLimits (value.field? (js "contextWindow")) (value.field? (js "maxTokens"))
    return ⟨id, trim name, baseUrl, limits.1, limits.2, models, isTrue (value.field? (js "reasoning"))⟩

def CustomProviderModel.json (model : CustomProviderModel) : Json := .obj [(js "id", .str model.id), (js "name", .str model.name)]

def CustomProviderDefinition.json (definition : CustomProviderDefinition) : Json :=
  .obj ([(js "id", .str definition.id), (js "name", .str definition.name), (js "baseUrl", .str definition.baseUrl),
    (js "contextWindow", .num (.integer definition.contextWindow)), (js "maxTokens", .num (.integer definition.maxTokens)),
    (js "models", .arr (definition.models.map CustomProviderModel.json))] ++
    if definition.reasoning then [(js "reasoning", .bool true)] else [])

def readCustomProviders (env : ProviderPlatform) : Option Json → List CustomProviderDefinition
  | some (.arr elements) =>
    if 32 < elements.length then []
    else match elements.mapM (normalizeCustomProviderDefinition env) with
      | .ok definitions => definitions
      | .error _ => []
  | _ => []

/-! ## Model defaults -/

def builtinProviders : List JsString := [js "openai-codex", js "anthropic", js "xai", js "zai", js "openrouter"]

def isResearchModelProviderId (id : JsString) : Bool := builtinProviders.contains id || isCustomProviderId id

structure ProviderModelDefaults where
  largeModel : JsString
  smallModel : JsString
  reasoningEffort : ReasoningEffort
deriving DecidableEq

def normalizeProviderModelId (value : Option Json) (label : JsString) : Except JsString JsString :=
  match value with
  | some (.str text) =>
    if trim text = [] ∨ 200 < (trim text).length then
      .error (js "Provider default " ++ label ++ js " model must be a non-empty model identifier.")
    else .ok (trim text)
  | _ => .error (js "Provider default " ++ label ++ js " model must be a non-empty model identifier.")

def normalizeProviderModelDefaults (value : Json) : Except JsString ProviderModelDefaults := do
  if value.isRecord = false then throw (js "Provider model defaults must be an object.")
  let largeModel ← normalizeProviderModelId (value.field? (js "largeModel")) (js "large")
  let smallModel ← normalizeProviderModelId (value.field? (js "smallModel")) (js "small")
  match ofText ReasoningEffort.text [.off, .minimal, .low, .medium, .high, .xhigh, .max] (value.field? (js "reasoningEffort")) with
  | none => throw (js "Invalid provider default reasoning level.")
  | some reasoningEffort => return ⟨largeModel, smallModel, reasoningEffort⟩

def ProviderModelDefaults.json (defaults : ProviderModelDefaults) : Json :=
  .obj [(js "largeModel", .str defaults.largeModel), (js "smallModel", .str defaults.smallModel),
    (js "reasoningEffort", .str defaults.reasoningEffort.text)]

/-- One member of the record; one that is not valid is left out. -/
def readDefaults (defaults : JsMap JsString ProviderModelDefaults) (member : JsString × Json) : JsMap JsString ProviderModelDefaults :=
  if isResearchModelProviderId member.1 then
    match normalizeProviderModelDefaults member.2 with
    | .ok normalized => defaults.set member.1 normalized
    | .error _ => defaults
  else defaults

def normalizeProviderModelDefaultsRecord : Option Json → JsMap JsString ProviderModelDefaults
  | some (.obj members) => members.foldl readDefaults .empty
  | _ => .empty

def modelDefaultsJson (defaults : JsMap JsString ProviderModelDefaults) : Json :=
  .obj (defaults.entries.map fun e => (e.1, e.2.json))

/-! ## Optional models -/

def openaiCodex : JsString := js "openai-codex"

def blueModelId : JsString := js "gpt-daybreak-blue-latest"

def redModelId : JsString := js "gpt-daybreak-red-latest"

/-- `OPTIONAL_MODELS`: a model of a provider, and whether it is on by default. -/
def optionalModels : List ((JsString × JsString) × Bool) :=
  [((openaiCodex, blueModelId), true), ((openaiCodex, redModelId), false),
    ((js "anthropic", js "claude-fable-5"), true), ((js "anthropic", js "claude-mythos-5"), false)]

def isOptionalProviderModel (providerId modelId : JsString) : Bool := (optionalModels.lookup (providerId, modelId)).isSome

/-- `isOptionalProviderModelEnabled(null, providerId, modelId)`, for a provider other than OpenAI. -/
def isEnabledByDefault (providerId modelId : JsString) : Bool := (optionalModels.lookup (providerId, modelId)).getD false

def normalizeEnabledOptionalModelsRecord : Option Json → JsMap JsString (List JsString)
  | some (.obj members) =>
    builtinProviders.foldl (fun normalized providerId =>
      match members.lookup providerId with
      | some (.arr modelIds) =>
        let enabled := ((modelIds.filterMap Json.asString?).filter (isOptionalProviderModel providerId)).eraseDups
        if enabled = [] then normalized else normalized.set providerId enabled
      | _ => normalized) .empty
  | _ => .empty

def optionalModelsJson (models : JsMap JsString (List JsString)) : Json := .obj (models.entries.map fun e => (e.1, .arr (e.2.map .str)))

/-! ## The calls -/

structure ProviderRows where
  defaultProviderId : Option JsString
  modelDefaults : Option Json
  customProviders : Option Json
  optionalModels : Option Json
  disabledOptionalModels : Option Json

structure ProviderSettings where
  defaultProviderId : Option JsString
  modelDefaults : JsMap JsString ProviderModelDefaults
  customProviders : List CustomProviderDefinition
  enabledOptionalModels : JsMap JsString (List JsString)
  disabledOptionalModels : JsMap JsString (List JsString)

def getProviderSettings (env : ProviderPlatform) (rows : ProviderRows) : ProviderSettings where
  defaultProviderId := rows.defaultProviderId.filter isResearchModelProviderId
  modelDefaults := normalizeProviderModelDefaultsRecord rows.modelDefaults
  customProviders := readCustomProviders env rows.customProviders
  enabledOptionalModels := normalizeEnabledOptionalModelsRecord rows.optionalModels
  disabledOptionalModels := normalizeEnabledOptionalModelsRecord rows.disabledOptionalModels

def ProviderSettings.provider? (settings : ProviderSettings) (providerId : JsString) : Option CustomProviderDefinition :=
  settings.customProviders.find? (·.id = providerId)

def CustomProviderDefinition.hasModel (provider : CustomProviderDefinition) (modelId : JsString) : Bool :=
  provider.models.any (·.id = modelId)

def saveCustomProvider (env : ProviderPlatform) (rows : ProviderRows) (definition : Json) : Except JsString ProviderRows := do
  let normalized ← normalizeCustomProviderDefinition env definition
  let providers := (getProviderSettings env rows).customProviders
  if 32 ≤ providers.length ∧ providers.any (·.id = normalized.id) = false then throw (js "Too many custom providers.")
  return { rows with
    customProviders := some (.arr ((providers.filter (·.id ≠ normalized.id) ++ [normalized]).map CustomProviderDefinition.json)) }

def removeCustomProvider (env : ProviderPlatform) (rows : ProviderRows) (providerId : JsString) : Except JsString ProviderRows := do
  let providers := (getProviderSettings env rows).customProviders
  if providers.any (·.id = providerId) = false then throw (js "Unknown custom provider.")
  let remaining := providers.filter (·.id ≠ providerId)
  let rows := { rows with
    customProviders := if remaining = [] then none else some (.arr (remaining.map CustomProviderDefinition.json)) }
  let settings := getProviderSettings env rows
  return { rows with
    modelDefaults := some (modelDefaultsJson (settings.modelDefaults.delete providerId))
    defaultProviderId := if settings.defaultProviderId = some providerId then none else rows.defaultProviderId }

def setDefaultProviderId (env : ProviderPlatform) (rows : ProviderRows) (providerId : Option JsString) : Except JsString ProviderRows :=
  match providerId with
  | none => .ok { rows with defaultProviderId := none }
  | some id => do
    if isResearchModelProviderId id = false then throw (js "Invalid default provider.")
    if (js "custom-").isPrefixOf id = true ∧ (getProviderSettings env rows).customProviders.any (·.id = id) = false then
      throw (js "Unknown custom provider.")
    return { rows with defaultProviderId := some id }

def setProviderModelDefaults (env : ProviderPlatform) (rows : ProviderRows) (providerId : JsString) (defaults : Json) :
    Except JsString ProviderRows := do
  if isResearchModelProviderId providerId = false then throw (js "Invalid provider model defaults provider.")
  let settings := getProviderSettings env rows
  let normalized ← normalizeProviderModelDefaults defaults
  let provider := settings.provider? providerId
  if (js "custom-").isPrefixOf providerId = true ∧ provider.any (fun provider =>
      (env.supportedThinkingLevels provider normalized.largeModel).contains normalized.reasoningEffort &&
        provider.hasModel normalized.largeModel && provider.hasModel normalized.smallModel) = false then
    throw (if provider.any (·.reasoning) then js "Custom provider defaults must select available models and supported reasoning effort."
      else js "Custom provider defaults must select available models without reasoning effort.")
  return { rows with modelDefaults := some (modelDefaultsJson (settings.modelDefaults.set providerId normalized)) }

def ProviderModelDefaults.names (defaults : ProviderModelDefaults) (modelId : JsString) : Bool :=
  defaults.largeModel = modelId || defaults.smallModel = modelId

/-- `new Set(models)` without a model, and with one. -/
def without (modelId : JsString) (models : List JsString) : List JsString := models.filter (· ≠ modelId)

def including (modelId : JsString) (models : List JsString) : List JsString :=
  if models.contains modelId then models else models ++ [modelId]

def switchOptionalModel (providerId modelId : JsString) (enabled : Bool) (current disabledCurrent : List JsString) :
    List JsString × List JsString :=
  if providerId = openaiCodex then
    let selectedModelId := if enabled then modelId else if modelId = blueModelId then redModelId else blueModelId
    let current := without redModelId (without blueModelId current)
    let disabledCurrent := without redModelId (without blueModelId disabledCurrent)
    if selectedModelId = redModelId then (including redModelId current, including blueModelId disabledCurrent)
    else (current, disabledCurrent)
  else if enabled then
    (if isEnabledByDefault providerId modelId then without modelId current else including modelId current, without modelId disabledCurrent)
  else
    (without modelId current,
      if isEnabledByDefault providerId modelId then including modelId disabledCurrent else without modelId disabledCurrent)

/-- The model that defaults may not name after the switch. -/
def disabledModelId (providerId modelId : JsString) (enabled : Bool) : JsString :=
  if providerId = openaiCodex then if modelId = redModelId ∧ enabled = true then blueModelId else redModelId else modelId

def withModels (providerId : JsString) (models : List JsString) (record : JsMap JsString (List JsString)) : JsMap JsString (List JsString) :=
  if models = [] then record.delete providerId else record.set providerId models

def setProviderOptionalModelEnabled (env : ProviderPlatform) (rows : ProviderRows) (providerId modelId : JsString) (enabled : Bool) :
    Except JsString ProviderRows := do
  if isResearchModelProviderId providerId = false ∨ isOptionalProviderModel providerId modelId = false then
    throw (js "Invalid optional provider model.")
  let settings := getProviderSettings env rows
  let switched := switchOptionalModel providerId modelId enabled ((settings.enabledOptionalModels.get? providerId).getD [])
    ((settings.disabledOptionalModels.get? providerId).getD [])
  let rows := { rows with
    optionalModels := some (optionalModelsJson (withModels providerId switched.1 settings.enabledOptionalModels))
    disabledOptionalModels := some (optionalModelsJson (withModels providerId switched.2 settings.disabledOptionalModels)) }
  if (enabled = false ∨ providerId = openaiCodex) ∧
      (settings.modelDefaults.get? providerId).any (·.names (disabledModelId providerId modelId enabled)) = true then
    return { rows with modelDefaults := some (modelDefaultsJson (settings.modelDefaults.delete providerId)) }
  else return rows

/-! ## Runs -/

inductive ProviderCall where
  | saveCustomProvider (definition : Json)
  | removeCustomProvider (providerId : JsString)
  | setDefaultProviderId (providerId : Option JsString)
  | setProviderModelDefaults (providerId : JsString) (defaults : Json)
  | setProviderOptionalModelEnabled (providerId modelId : JsString) (enabled : Bool)

def ProviderCall.apply (env : ProviderPlatform) (rows : ProviderRows) : ProviderCall → Except JsString ProviderRows
  | saveCustomProvider definition => Registry.saveCustomProvider env rows definition
  | removeCustomProvider providerId => Registry.removeCustomProvider env rows providerId
  | setDefaultProviderId providerId => Registry.setDefaultProviderId env rows providerId
  | setProviderModelDefaults providerId defaults => Registry.setProviderModelDefaults env rows providerId defaults
  | setProviderOptionalModelEnabled providerId modelId enabled =>
    Registry.setProviderOptionalModelEnabled env rows providerId modelId enabled

/-- The rows, and the optional models that calls have switched off, and not on again. -/
structure Registry where
  rows : ProviderRows
  switchedOff : List (JsString × JsString)

/-- The two OpenAI models take turns: switching one of them on is switching the other one off. -/
def switch (providerId modelId : JsString) (enabled : Bool) (switchedOff : List (JsString × JsString)) : List (JsString × JsString) :=
  if providerId = openaiCodex then
    let other := if modelId = blueModelId then redModelId else blueModelId
    (providerId, if enabled then other else modelId) ::
      switchedOff.filter (· ≠ (providerId, if enabled then modelId else other))
  else if enabled then switchedOff.filter (· ≠ (providerId, modelId))
  else (providerId, modelId) :: switchedOff

def ProviderCall.switchedOff (switchedOff : List (JsString × JsString)) : ProviderCall → List (JsString × JsString)
  | setProviderOptionalModelEnabled providerId modelId enabled => switch providerId modelId enabled switchedOff
  | _ => switchedOff

/-- One call; one that throws changes nothing. -/
def step (env : ProviderPlatform) (s : Registry) (call : ProviderCall) : Registry :=
  match call.apply env s.rows with
  | .ok rows => ⟨rows, call.switchedOff s.switchedOff⟩
  | .error _ => s

/-- A registry without provider settings. -/
def start : Registry := ⟨⟨none, none, none, none, none⟩, []⟩

end Beale.Registry
