import Beale.Registry.Providers

/-!
# Consistent provider settings

Custom providers, defaults and switches are rows of their own. Each call checks what it writes
against the other rows; what it does to the rows that are already there differs.

- `CustomProviderDefinition.Normal`: what reading a definition makes of it.
- `providers_consistent`: the runs of such calls.
-/

namespace Beale.Registry

open Beale.Library
open Client (exceptBind_ok exceptGuard_ok exceptMapM_ok)
open Beale.Control (ReasoningEffort)

/-! ## Definitions that are read back -/

structure CustomProviderDefinition.Normal (d : CustomProviderDefinition) : Prop where
  id : isCustomProviderId d.id = true
  name : trim d.name = d.name ∧ d.name ≠ [] ∧ d.name.length ≤ 100
  models : d.models.length ≤ 500 ∧ ∀ m ∈ d.models, normalizeModel m.json = .ok m
  distinct : (d.models.map CustomProviderModel.id).Nodup
  limits : 1024 ≤ d.contextWindow ∧ d.contextWindow ≤ 10000000 ∧ 256 ≤ d.maxTokens ∧ d.maxTokens ≤ d.contextWindow

variable {env : ProviderPlatform}

theorem length_trim_le (s : JsString) : (trim s).length ≤ s.length :=
  (trimEnd_isPrefix _).length_le.trans (List.dropWhile_suffix _).length_le

variable {value : Json} {id providerId modelId : JsString}

theorem normalizeModel_of_fields {name : JsString} (hid : value.stringField? (js "id") = some id)
    (hname : value.stringField? (js "name") = some name)
    (h : trim id ≠ [] ∧ id.length ≤ 200 ∧ trim name ≠ [] ∧ name.length ≤ 200) : normalizeModel value = .ok ⟨trim id, trim name⟩ := by
  rw [normalizeModel, hid, hname]
  refine if_neg ?_
  rintro (hempty | hlong | hempty | hlong)
  · exact h.1 hempty
  · exact absurd hlong (not_lt_of_ge h.2.1)
  · exact h.2.2.1 hempty
  · exact absurd hlong (not_lt_of_ge h.2.2.2)

theorem normalizeModel_json {m : CustomProviderModel} (h : normalizeModel value = .ok m) :
    normalizeModel m.json = .ok m := by
  rw [normalizeModel] at h
  split at h
  · next id name _ _ =>
    split at h
    · cases h
    · next hvalid =>
      cases h
      simp only [not_or, Nat.not_lt] at hvalid
      obtain ⟨hid, hidLength, hname, hnameLength⟩ := hvalid
      have hread := @normalizeModel_of_fields (CustomProviderModel.json ⟨trim id, trim name⟩) (trim id) (trim name) rfl rfl
      rw [trim_idem, trim_idem] at hread
      exact hread ⟨hid, (length_trim_le id).trans hidLength, hname, (length_trim_le name).trans hnameLength⟩
  · cases h

theorem definitionFields_eq_some {name baseUrl : JsString} {models : List Json}
    (h : definitionFields value = some (id, name, baseUrl, models)) :
    isCustomProviderId id = true ∧ trim name ≠ [] ∧ name.length ≤ 100 ∧ models.length ≤ 500 := by
  rw [definitionFields] at h
  split at h
  · split at h
    · next hvalid =>
      obtain ⟨rfl, rfl, rfl, rfl⟩ : _ ∧ _ ∧ _ ∧ _ := by simpa using h
      exact hvalid
    · cases h
  · cases h

theorem normalizeTokenLimits_ok {contextWindow maxTokens : Option Json} {limits : Nat × Nat}
    (h : normalizeTokenLimits contextWindow maxTokens = .ok limits) :
    1024 ≤ limits.1 ∧ limits.1 ≤ 10000000 ∧ 256 ≤ limits.2 ∧ limits.2 ≤ limits.1 := by
  rw [normalizeTokenLimits] at h
  split at h
  · split at h
    · cases h
    · cases h
      omega
  · cases h

variable {d : CustomProviderDefinition}

theorem normal_of_normalize (h : normalizeCustomProviderDefinition env value = .ok d) :
    d.Normal := by
  rw [normalizeCustomProviderDefinition] at h
  split at h
  · cases h
  · next id name baseUrl models hfields =>
    obtain ⟨baseUrl', -, h⟩ := exceptBind_ok.mp h
    obtain ⟨models', hmodels, h⟩ := exceptBind_ok.mp h
    obtain ⟨hdist, h⟩ := exceptGuard_ok.mp h
    obtain ⟨limits, hlimits, h⟩ := exceptBind_ok.mp h
    cases h
    obtain ⟨hid, hname, hnameLength, hlen⟩ := definitionFields_eq_some hfields
    have hread := exceptMapM_ok.mp hmodels
    refine ⟨hid, ⟨trim_idem name, hname, (length_trim_le name).trans hnameLength⟩, ⟨?_, ?_⟩, not_not.mp hdist,
      normalizeTokenLimits_ok hlimits⟩
    · exact hread.length_eq ▸ hlen
    · intro m hm
      obtain ⟨i, hi, rfl⟩ := List.getElem_of_mem hm
      exact normalizeModel_json (hread.get (hread.length_eq ▸ hi) hi)

theorem normalizeTokenLimits_json {contextWindow maxTokens : Nat} (h : 1024 ≤ contextWindow ∧ contextWindow ≤ 10000000 ∧ 256 ≤ maxTokens ∧
    maxTokens ≤ contextWindow) :
    normalizeTokenLimits (some (.num (.integer contextWindow))) (some (.num (.integer maxTokens))) = .ok (contextWindow, maxTokens) := by
  have hcontext : integerOr 128000 (some (.num (.integer contextWindow))) = some (contextWindow : Int) := rfl
  have hmax : integerOr 16000 (some (.num (.integer maxTokens))) = some (maxTokens : Int) := rfl
  rw [normalizeTokenLimits, hcontext, hmax]
  simp only
  rw [if_neg (by omega), Int.toNat_natCast, Int.toNat_natCast]

theorem normalize_json (h : d.Normal) (hurl : normalizeBaseUrl env d.baseUrl = .ok d.baseUrl) :
    normalizeCustomProviderDefinition env d.json = .ok d := by
  have hname : trim d.name ≠ [] := by
    rw [h.name.1]
    exact h.name.2.1
  have hfields : definitionFields d.json = some (d.id, d.name, d.baseUrl, d.models.map CustomProviderModel.json) := by
    rw [definitionFields]
    refine if_pos ⟨h.id, hname, h.name.2.2, ?_⟩
    rw [List.length_map]
    exact h.models.1
  have hmodels : (d.models.map CustomProviderModel.json).mapM normalizeModel = .ok d.models := by
    rw [exceptMapM_ok, List.forall₂_map_left_iff, List.forall₂_same]
    exact h.models.2
  rw [normalizeCustomProviderDefinition, hfields]
  refine exceptBind_ok.mpr ⟨_, hurl, exceptBind_ok.mpr ⟨_, hmodels, exceptGuard_ok.mpr ⟨not_not.mpr h.distinct, ?_⟩⟩⟩
  refine exceptBind_ok.mpr ⟨_, normalizeTokenLimits_json h.limits, ?_⟩
  have hreasoning : isTrue (d.json.field? (js "reasoning")) = d.reasoning := by
    rw [CustomProviderDefinition.json]
    cases d.reasoning <;> rfl
  rw [hreasoning, h.name.1]
  rfl

/-! ## Rows that are read back -/

theorem length_readCustomProviders (row : Option Json) : (readCustomProviders env row).length ≤ 32 := by
  fun_cases readCustomProviders env row with
  | case1 elements hmany => exact Nat.zero_le 32
  | case2 elements hfew definitions hread =>
    rw [← (exceptMapM_ok.mp hread).length_eq]
    exact Nat.le_of_not_lt hfew
  | case3 => exact Nat.zero_le 32
  | case4 => exact Nat.zero_le 32

theorem readCustomProviders_json {definitions : List CustomProviderDefinition} (hfew : definitions.length ≤ 32)
    (h : ∀ d ∈ definitions, normalizeCustomProviderDefinition env d.json = .ok d) :
    readCustomProviders env (some (.arr (definitions.map CustomProviderDefinition.json))) = definitions := by
  have hread : (definitions.map CustomProviderDefinition.json).mapM (normalizeCustomProviderDefinition env) = .ok definitions := by
    rw [exceptMapM_ok, List.forall₂_map_left_iff, List.forall₂_same]
    exact h
  rw [readCustomProviders, if_neg (by rw [List.length_map]; exact Nat.not_lt_of_le hfew), hread]

/-- The defaults that a row can hold. -/
def ValidDefaults (defaults : JsMap JsString ProviderModelDefaults) : Prop :=
  ∀ providerId d, defaults.get? providerId = some d →
    isResearchModelProviderId providerId = true ∧ normalizeProviderModelDefaults d.json = .ok d

theorem ValidDefaults.set {defaults : JsMap JsString ProviderModelDefaults} (h : ValidDefaults defaults)
    {d : ProviderModelDefaults} (hid : isResearchModelProviderId providerId = true) (hd : normalizeProviderModelDefaults d.json = .ok d) :
    ValidDefaults (defaults.set providerId d) := by
  intro other d' hd'
  rw [JsMap.get?_set] at hd'
  split at hd'
  · next heq =>
    cases hd'
    exact ⟨heq ▸ hid, hd⟩
  · exact h other d' hd'

theorem ValidDefaults.delete {defaults : JsMap JsString ProviderModelDefaults} (h : ValidDefaults defaults) (providerId : JsString) :
    ValidDefaults (defaults.delete providerId) := by
  intro other d hd
  rw [JsMap.get?_delete] at hd
  split at hd
  · cases hd
  · exact h other d hd

theorem normalizeProviderModelId_ok {value : Option Json} {label : JsString} (h : normalizeProviderModelId value label = .ok modelId)
    (label' : JsString) : normalizeProviderModelId (some (.str modelId)) label' = .ok modelId := by
  unfold normalizeProviderModelId at h
  split at h
  · next text =>
    split at h
    · cases h
    · next hvalid =>
      cases h
      rw [normalizeProviderModelId]
      simp only [trim_idem]
      exact if_neg hvalid
  · cases h

theorem normalizeProviderModelDefaults_json {d : ProviderModelDefaults} (h : normalizeProviderModelDefaults value = .ok d) :
    normalizeProviderModelDefaults d.json = .ok d := by
  rw [normalizeProviderModelDefaults] at h
  obtain ⟨-, h⟩ := exceptGuard_ok.mp h
  obtain ⟨largeModel, hlarge, h⟩ := exceptBind_ok.mp h
  obtain ⟨smallModel, hsmall, h⟩ := exceptBind_ok.mp h
  split at h
  · cases h
  · next effort _ =>
    cases h
    have heffort : ofText ReasoningEffort.text [.off, .minimal, .low, .medium, .high, .xhigh, .max] (some (.str effort.text)) = some effort :=
      ofText_text (fun _ _ => Control.reasoningEffort_injective) (by cases effort <;> decide)
    have hrec : ¬ (ProviderModelDefaults.json ⟨largeModel, smallModel, effort⟩).isRecord = false := Bool.noConfusion
    rw [normalizeProviderModelDefaults]
    refine exceptGuard_ok.mpr ⟨hrec, exceptBind_ok.mpr ⟨_, normalizeProviderModelId_ok hlarge _, ?_⟩⟩
    refine exceptBind_ok.mpr ⟨_, normalizeProviderModelId_ok hsmall _, ?_⟩
    have hfield : (ProviderModelDefaults.json ⟨largeModel, smallModel, effort⟩).field? (js "reasoningEffort")
        = some (.str effort.text) := rfl
    rw [hfield, heffort]
    rfl

theorem validDefaults_read (row : Option Json) : ValidDefaults (normalizeProviderModelDefaultsRecord row) := by
  have hfold : ∀ (members : List (JsString × Json)) (defaults : JsMap JsString ProviderModelDefaults), ValidDefaults defaults →
      ValidDefaults (members.foldl readDefaults defaults) := by
    intro members
    induction members with
    | nil => exact fun _ h => h
    | cons member members ih =>
      intro defaults h
      rw [List.foldl_cons]
      refine ih _ ?_
      rw [readDefaults]
      split
      · next hid =>
        split
        · next normalized hread => exact h.set hid (normalizeProviderModelDefaults_json hread)
        · exact h
      · exact h
  fun_cases normalizeProviderModelDefaultsRecord row with
  | case1 members => exact hfold members .empty nofun
  | case2 => exact nofun

theorem normalizeProviderModelDefaultsRecord_json {defaults : JsMap JsString ProviderModelDefaults} (h : ValidDefaults defaults) :
    normalizeProviderModelDefaultsRecord (some (modelDefaultsJson defaults)) = defaults := by
  have hfold : ∀ (l : List (JsString × ProviderModelDefaults)) (m : JsMap JsString ProviderModelDefaults),
      (∀ e ∈ l, isResearchModelProviderId e.1 = true ∧ normalizeProviderModelDefaults e.2.json = .ok e.2) →
      (l.map fun e => (e.1, e.2.json)).foldl readDefaults m = l.foldl (fun m e => m.set e.1 e.2) m := by
    intro l
    induction l with
    | nil => exact fun _ _ => rfl
    | cons e l ih =>
      intro m hl
      obtain ⟨hid, hread⟩ := hl e List.mem_cons_self
      have hstep : readDefaults m (e.1, e.2.json) = m.set e.1 e.2 := by
        rw [readDefaults, if_pos hid, hread]
      rw [List.map_cons, List.foldl_cons, List.foldl_cons, hstep]
      exact ih _ fun e' he' => hl e' (List.mem_cons_of_mem _ he')
  refine JsMap.ext_entries ?_
  show ((defaults.entries.map fun e => (e.1, e.2.json)).foldl readDefaults .empty).entries = _
  rw [hfold _ _ fun e he => h e.1 e.2 (JsMap.get?_of_mem he)]
  exact JsMap.entries_foldl_set_empty defaults.nodup

/-! ## What the calls do -/

/-- The definitions that are read are read back when they are written. -/
def Settled (env : ProviderPlatform) (settings : ProviderSettings) : Prop :=
  ∀ d ∈ settings.customProviders, normalizeCustomProviderDefinition env d.json = .ok d

/-- A provider of the id can be saved. -/
def ProviderSettings.hasRoom (settings : ProviderSettings) (providerId : JsString) : Bool :=
  settings.customProviders.length < 32 || settings.customProviders.any (·.id = providerId)

def saved (d : CustomProviderDefinition) (providers : List CustomProviderDefinition) : List CustomProviderDefinition :=
  providers.filter (·.id ≠ d.id) ++ [d]

theorem length_saved {settings : ProviderSettings} (h : settings.hasRoom d.id = true)
    (hlen : settings.customProviders.length ≤ 32) : (saved d settings.customProviders).length ≤ 32 := by
  rw [ProviderSettings.hasRoom, Bool.or_eq_true, decide_eq_true_eq] at h
  rw [saved, List.length_append, List.length_singleton]
  rcases h with hfew | hany
  · exact (List.length_filter_le _ _).trans_lt hfew
  · obtain ⟨old, hold, hid⟩ := List.any_eq_true.mp hany
    have hlt : (settings.customProviders.filter (·.id ≠ d.id)).length < settings.customProviders.length :=
      List.length_filter_lt_length_iff_exists.mpr ⟨old, hold, by simpa using hid⟩
    omega

variable {rows rows' : ProviderRows}

theorem saveCustomProvider_ok {definition : Json} (h : saveCustomProvider env rows definition = .ok rows')
    (hdone : Settled env (getProviderSettings env rows))
    (hurl : ∀ d, normalizeCustomProviderDefinition env definition = .ok d → (getProviderSettings env rows).hasRoom d.id = true →
      normalizeBaseUrl env d.baseUrl = .ok d.baseUrl) :
    ∃ d, normalizeCustomProviderDefinition env definition = .ok d ∧ (getProviderSettings env rows).hasRoom d.id = true ∧
      Settled env (getProviderSettings env rows') ∧ getProviderSettings env rows' =
        { getProviderSettings env rows with customProviders := saved d (getProviderSettings env rows).customProviders } := by
  obtain ⟨d, hd, h⟩ := exceptBind_ok.mp h
  obtain ⟨hroom, h⟩ := exceptGuard_ok.mp h
  cases h
  have hroom : (getProviderSettings env rows).hasRoom d.id = true := by
    rw [ProviderSettings.hasRoom, Bool.or_eq_true, decide_eq_true_eq]
    rw [not_and_or, Nat.not_le, Bool.not_eq_false] at hroom
    exact hroom
  have hall : ∀ e ∈ saved d (getProviderSettings env rows).customProviders, normalizeCustomProviderDefinition env e.json = .ok e := by
    intro e he
    rcases List.mem_append.mp he with hold | hnew
    · exact hdone e (List.mem_of_mem_filter hold)
    · obtain rfl := List.mem_singleton.mp hnew
      exact normalize_json (normal_of_normalize hd) (hurl e hd hroom)
  have hread := readCustomProviders_json (length_saved hroom (length_readCustomProviders _)) hall
  refine ⟨d, hd, hroom, fun e he => hall e (hread ▸ he), ?_⟩
  rw [getProviderSettings]
  simp only
  rw [← saved, hread]
  rfl

theorem removeCustomProvider_ok (h : removeCustomProvider env rows providerId = .ok rows')
    (hdone : Settled env (getProviderSettings env rows)) :
    Settled env (getProviderSettings env rows') ∧ getProviderSettings env rows' =
      { getProviderSettings env rows with
        customProviders := (getProviderSettings env rows).customProviders.filter (·.id ≠ providerId)
        modelDefaults := (getProviderSettings env rows).modelDefaults.delete providerId
        defaultProviderId := if (getProviderSettings env rows).defaultProviderId = some providerId then none
          else (getProviderSettings env rows).defaultProviderId } := by
  rw [removeCustomProvider] at h
  obtain ⟨-, h⟩ := exceptGuard_ok.mp h
  cases h
  have hall : ∀ e ∈ (getProviderSettings env rows).customProviders.filter (·.id ≠ providerId),
      normalizeCustomProviderDefinition env e.json = .ok e := fun e he => hdone e (List.mem_of_mem_filter he)
  have hread : readCustomProviders env (if (getProviderSettings env rows).customProviders.filter (·.id ≠ providerId) = [] then none
      else some (.arr (((getProviderSettings env rows).customProviders.filter (·.id ≠ providerId)).map CustomProviderDefinition.json))) =
        (getProviderSettings env rows).customProviders.filter (·.id ≠ providerId) := by
    split
    · next hnone =>
      rw [hnone]
      rfl
    · exact readCustomProviders_json ((List.length_filter_le _ _).trans (length_readCustomProviders _)) hall
  have hdef := normalizeProviderModelDefaultsRecord_json ((validDefaults_read rows.modelDefaults).delete providerId)
  refine ⟨fun e he => hall e (hread ▸ he), ?_⟩
  rw [getProviderSettings]
  simp only [ProviderSettings.mk.injEq]
  refine ⟨?_, hdef, hread, rfl, rfl⟩
  show Option.filter _ (if (getProviderSettings env rows).defaultProviderId = some providerId then none else rows.defaultProviderId) = _
  by_cases hdefault : (getProviderSettings env rows).defaultProviderId = some providerId
  · rw [if_pos hdefault, if_pos hdefault]
    rfl
  · rw [if_neg hdefault, if_neg hdefault]
    rfl

theorem setDefaultProviderId_ok {providerId : Option JsString}
    (h : setDefaultProviderId env rows providerId = .ok rows') :
    getProviderSettings env rows' = { getProviderSettings env rows with defaultProviderId := providerId } ∧
      ∀ id, providerId = some id → id ∈ builtinProviders ∨ ((getProviderSettings env rows).provider? id).isSome = true := by
  cases providerId with
  | none =>
    cases h
    exact ⟨rfl, nofun⟩
  | some id =>
    rw [setDefaultProviderId] at h
    obtain ⟨hid, h⟩ := exceptGuard_ok.mp h
    obtain ⟨hknown, h⟩ := exceptGuard_ok.mp h
    cases h
    rw [Bool.not_eq_false] at hid
    refine ⟨?_, ?_⟩
    · simp only [getProviderSettings, Option.filter_some, hid, if_true]
    · rintro _ ⟨⟩
      rw [isResearchModelProviderId, Bool.or_eq_true] at hid
      rcases hid with hbuiltin | hcustom
      · exact .inl (List.contains_iff_mem.mp hbuiltin)
      · right
        rw [isCustomProviderId, Bool.and_eq_true] at hcustom
        rw [not_and, Bool.not_eq_false] at hknown
        rw [ProviderSettings.provider?, List.find?_isSome]
        exact List.any_eq_true.mp (hknown hcustom.1)

theorem setProviderModelDefaults_ok {defaults : Json}
    (h : setProviderModelDefaults env rows providerId defaults = .ok rows') :
    ∃ d, normalizeProviderModelDefaults defaults = .ok d ∧
      getProviderSettings env rows' =
        { getProviderSettings env rows with modelDefaults := (getProviderSettings env rows).modelDefaults.set providerId d } ∧
      (providerId ∈ builtinProviders ∨ ∃ provider, (getProviderSettings env rows).provider? providerId = some provider ∧
        provider.hasModel d.largeModel = true ∧ provider.hasModel d.smallModel = true) := by
  rw [setProviderModelDefaults] at h
  obtain ⟨hid, h⟩ := exceptGuard_ok.mp h
  obtain ⟨d, hd, h⟩ := exceptBind_ok.mp h
  obtain ⟨hoffered, h⟩ := exceptGuard_ok.mp h
  cases h
  rw [Bool.not_eq_false] at hid
  have hdef := normalizeProviderModelDefaultsRecord_json
    ((validDefaults_read rows.modelDefaults).set hid (normalizeProviderModelDefaults_json hd))
  refine ⟨d, hd, ?_, ?_⟩
  · rw [getProviderSettings]
    simp only [ProviderSettings.mk.injEq]
    exact ⟨rfl, hdef, rfl, rfl, rfl⟩
  · rw [isResearchModelProviderId, Bool.or_eq_true] at hid
    rcases hid with hbuiltin | hcustom
    · exact .inl (List.contains_iff_mem.mp hbuiltin)
    · right
      rw [isCustomProviderId, Bool.and_eq_true] at hcustom
      rw [not_and, Bool.not_eq_false] at hoffered
      have hoffers := hoffered hcustom.1
      cases hprov : (getProviderSettings env rows).provider? providerId with
      | none =>
        rw [hprov] at hoffers
        cases hoffers
      | some provider =>
        rw [hprov, Option.any_some, Bool.and_eq_true, Bool.and_eq_true] at hoffers
        exact ⟨provider, rfl, hoffers.1.2, hoffers.2⟩

def switchedDefaults (providerId modelId : JsString) (enabled : Bool) (defaults : JsMap JsString ProviderModelDefaults) :
    JsMap JsString ProviderModelDefaults :=
  if (enabled = false ∨ providerId = openaiCodex) ∧
      (defaults.get? providerId).any (·.names (disabledModelId providerId modelId enabled)) = true then defaults.delete providerId
  else defaults

variable {enabled : Bool}

theorem setProviderOptionalModelEnabled_ok
    (h : setProviderOptionalModelEnabled env rows providerId modelId enabled = .ok rows') :
    isOptionalProviderModel providerId modelId = true ∧
      (getProviderSettings env rows').defaultProviderId = (getProviderSettings env rows).defaultProviderId ∧
      (getProviderSettings env rows').customProviders = (getProviderSettings env rows).customProviders ∧
      (getProviderSettings env rows').modelDefaults =
        switchedDefaults providerId modelId enabled (getProviderSettings env rows).modelDefaults := by
  rw [setProviderOptionalModelEnabled] at h
  obtain ⟨hvalid, h⟩ := exceptGuard_ok.mp h
  rw [not_or, Bool.not_eq_false, Bool.not_eq_false] at hvalid
  refine ⟨hvalid.2, ?_⟩
  rw [switchedDefaults]
  dsimp only at h
  split at h
  · next hnamed =>
    cases h
    rw [if_pos hnamed]
    exact ⟨rfl, rfl, normalizeProviderModelDefaultsRecord_json ((validDefaults_read rows.modelDefaults).delete providerId)⟩
  · next hnamed =>
    cases h
    rw [if_neg hnamed]
    exact ⟨rfl, rfl, rfl⟩

/-! ## Consistent settings -/

/-- What is named exists, and nothing that has been switched off is named. -/
structure Consistent (env : ProviderPlatform) (s : Registry) : Prop where
  defaultProvider : ∀ id, (getProviderSettings env s.rows).defaultProviderId = some id →
    id ∈ builtinProviders ∨ ((getProviderSettings env s.rows).provider? id).isSome = true
  modelDefaults : ∀ id d, (getProviderSettings env s.rows).modelDefaults.get? id = some d →
    id ∈ builtinProviders ∨ ∃ provider, (getProviderSettings env s.rows).provider? id = some provider ∧
      provider.hasModel d.largeModel = true ∧ provider.hasModel d.smallModel = true
  switchedOff : ∀ id modelId, (id, modelId) ∈ s.switchedOff → ∀ d, (getProviderSettings env s.rows).modelDefaults.get? id = some d →
    d.names modelId = false

def ProviderCall.LeavesOthers (env : ProviderPlatform) (before after : ProviderSettings) : ProviderCall → Prop
  | saveCustomProvider definition => ∀ d, normalizeCustomProviderDefinition env definition = .ok d →
      after.customProviders.filter (·.id ≠ d.id) = before.customProviders.filter (·.id ≠ d.id)
  | removeCustomProvider providerId =>
      after.customProviders.filter (·.id ≠ providerId) = before.customProviders.filter (·.id ≠ providerId)
  | _ => after.customProviders = before.customProviders

/-- A provider is saved under a URL that is read back, with the models that its defaults name; defaults do
not name a model that has been switched off; and the blue model stays on while the defaults name it. -/
def Accepts (env : ProviderPlatform) (s : Registry) : ProviderCall → Prop
  | .saveCustomProvider definition => ∀ d, normalizeCustomProviderDefinition env definition = .ok d →
      (getProviderSettings env s.rows).hasRoom d.id = true → normalizeBaseUrl env d.baseUrl = .ok d.baseUrl ∧
        ∀ defaults, (getProviderSettings env s.rows).modelDefaults.get? d.id = some defaults →
          d.hasModel defaults.largeModel = true ∧ d.hasModel defaults.smallModel = true
  | .setProviderModelDefaults providerId value => ∀ d, normalizeProviderModelDefaults value = .ok d →
      ∀ modelId, (providerId, modelId) ∈ s.switchedOff → d.names modelId = false
  | .setProviderOptionalModelEnabled providerId modelId enabled =>
      providerId = openaiCodex → modelId = blueModelId → enabled = false →
        ∀ d, (getProviderSettings env s.rows).modelDefaults.get? providerId = some d → d.names blueModelId = false
  | _ => True

theorem find?_saved_self (d : CustomProviderDefinition) (providers : List CustomProviderDefinition) :
    (saved d providers).find? (·.id = d.id) = some d := by
  have hnone : (providers.filter (·.id ≠ d.id)).find? (·.id = d.id) = none := by
    rw [List.find?_eq_none]
    intro e he heq
    exact of_decide_eq_true (List.mem_filter.mp he).2 (of_decide_eq_true heq)
  rw [saved, List.find?_append, hnone, Option.none_or]
  exact List.find?_cons_of_pos (decide_eq_true rfl)

theorem find?_filter_ne {other : JsString} (h : other ≠ id) (providers : List CustomProviderDefinition) :
    (providers.filter (·.id ≠ id)).find? (·.id = other) = providers.find? (·.id = other) := by
  rw [List.find?_filter]
  congr 1
  funext e
  by_cases he : e.id = other
  · simp [he, h]
  · simp [he]

theorem find?_saved_ne {other : JsString} (h : other ≠ d.id) (providers : List CustomProviderDefinition) :
    (saved d providers).find? (·.id = other) = providers.find? (·.id = other) := by
  rw [saved, List.find?_append, find?_filter_ne h, List.find?_cons_of_neg (by simpa using Ne.symm h), List.find?_nil, Option.or_none]

theorem switchedDefaults_get? {defaults : JsMap JsString ProviderModelDefaults}
    {d : ProviderModelDefaults} (h : (switchedDefaults providerId modelId enabled defaults).get? id = some d) :
    defaults.get? id = some d ∧
      (id = providerId → enabled = false ∨ providerId = openaiCodex → d.names (disabledModelId providerId modelId enabled) = false) := by
  rw [switchedDefaults] at h
  split at h
  · rw [JsMap.get?_delete] at h
    split at h
    · cases h
    · next hne => exact ⟨h, fun heq => absurd heq hne⟩
  · next hkept =>
    refine ⟨h, ?_⟩
    rintro rfl hoff
    rw [h, Option.any_some] at hkept
    exact Bool.eq_false_iff.mpr fun hnames => hkept ⟨hoff, hnames⟩

theorem optional_openai (h : isOptionalProviderModel openaiCodex modelId = true) :
    modelId = blueModelId ∨ modelId = redModelId := by
  rw [isOptionalProviderModel, Option.isSome_iff_exists] at h
  obtain ⟨b, hb⟩ := h
  by_contra hne
  obtain ⟨hblue, hred⟩ := not_or.mp hne
  have hnone : optionalModels.lookup (openaiCodex, modelId) = none := by
    rw [List.lookup_eq_none_iff]
    rintro ⟨⟨provider, model⟩, on⟩ hmem
    simp only [optionalModels, List.mem_cons, Prod.mk.injEq, List.not_mem_nil, or_false] at hmem
    rw [bne_iff_ne]
    intro heq
    obtain ⟨hprov, hmodel⟩ := Prod.mk.inj heq
    rcases hmem with ⟨⟨-, h⟩, -⟩ | ⟨⟨-, h⟩, -⟩ | ⟨⟨h, -⟩, -⟩ | ⟨⟨h, -⟩, -⟩
    · exact hblue (hmodel.trans h)
    · exact hred (hmodel.trans h)
    · exact absurd (hprov.trans h) (by decide)
    · exact absurd (hprov.trans h) (by decide)
  rw [hnone] at hb
  cases hb

theorem redModelId_ne_blue : redModelId ≠ blueModelId := by decide

theorem switch_sound {m : JsString} {switchedOff : List (JsString × JsString)}
    {d : ProviderModelDefaults} (hoptional : isOptionalProviderModel providerId modelId = true)
    (hblue : id = providerId → providerId = openaiCodex → modelId = blueModelId → enabled = false → d.names blueModelId = false)
    (hold : (id, m) ∈ switchedOff → d.names m = false)
    (hnew : id = providerId → enabled = false ∨ providerId = openaiCodex → d.names (disabledModelId providerId modelId enabled) = false)
    (h : (id, m) ∈ switch providerId modelId enabled switchedOff) : d.names m = false := by
  rw [switch] at h
  split at h
  · next hopenai =>
    rcases List.mem_cons.mp h with heq | hkept
    · obtain ⟨hid, hm⟩ := Prod.mk.inj heq
      have hdisabled := hnew hid (.inr hopenai)
      rw [disabledModelId, if_pos hopenai] at hdisabled
      subst hopenai
      rcases optional_openai hoptional with rfl | rfl
      · cases enabled with
        | true =>
          rw [if_neg (fun h => redModelId_ne_blue h.1.symm)] at hdisabled
          rw [if_pos rfl, if_pos rfl] at hm
          exact hm ▸ hdisabled
        | false =>
          rw [if_neg Bool.false_ne_true] at hm
          exact hm ▸ hblue hid rfl rfl rfl
      · cases enabled with
        | true =>
          rw [if_pos ⟨rfl, rfl⟩] at hdisabled
          rw [if_pos rfl, if_neg redModelId_ne_blue] at hm
          exact hm ▸ hdisabled
        | false =>
          rw [if_neg (fun h => Bool.false_ne_true h.2)] at hdisabled
          rw [if_neg Bool.false_ne_true] at hm
          exact hm ▸ hdisabled
    · exact hold (List.mem_of_mem_filter hkept)
  · next hother =>
    split at h
    · exact hold (List.mem_of_mem_filter h)
    · next hoff =>
      rcases List.mem_cons.mp h with heq | hkept
      · obtain ⟨hid, hm⟩ := Prod.mk.inj heq
        have hdisabled := hnew hid (.inl (Bool.not_eq_true _ ▸ hoff))
        rw [disabledModelId, if_neg hother] at hdisabled
        exact hm ▸ hdisabled
      · exact hold hkept

theorem step_consistent {s : Registry} {call : ProviderCall} (hdone : Settled env (getProviderSettings env s.rows))
    (h : Consistent env s) (haccepts : Accepts env s call) :
    Settled env (getProviderSettings env (step env s call).rows) ∧ Consistent env (step env s call) ∧
      call.LeavesOthers env (getProviderSettings env s.rows) (getProviderSettings env (step env s call).rows) := by
  rw [step]
  cases happly : call.apply env s.rows with
  | error e =>
    refine ⟨hdone, h, ?_⟩
    cases call with
    | saveCustomProvider definition => exact fun _ _ => rfl
    | _ => exact rfl
  | ok rows' =>
    cases call with
    | saveCustomProvider definition =>
      obtain ⟨d, hd, hroom, hdone', hread⟩ := saveCustomProvider_ok happly hdone fun d hd hroom => (haccepts d hd hroom).1
      have hmodels := (haccepts d hd hroom).2
      refine ⟨hdone', ⟨?_, ?_, ?_⟩, ?_⟩
      · simp only [hread, ProviderSettings.provider?]
        intro id hid
        rcases h.defaultProvider id hid with hbuiltin | hsome
        · exact .inl hbuiltin
        · right
          by_cases heq : id = d.id
          · rw [heq, find?_saved_self]
            rfl
          · rw [find?_saved_ne heq]
            exact hsome
      · simp only [hread, ProviderSettings.provider?]
        intro id defaults hdef
        by_cases heq : id = d.id
        · rw [heq, find?_saved_self]
          exact .inr ⟨d, rfl, hmodels defaults (heq ▸ hdef)⟩
        · rw [find?_saved_ne heq]
          exact h.modelDefaults id defaults hdef
      · simp only [hread]
        exact h.switchedOff
      · intro d' hd'
        obtain rfl := Except.ok.inj (hd.symm.trans hd')
        rw [hread, saved, List.filter_append, List.filter_filter, List.filter_cons_of_neg (by simp), List.filter_nil, List.append_nil]
        simp only [Bool.and_self]
    | removeCustomProvider providerId =>
      obtain ⟨hdone', hread⟩ := removeCustomProvider_ok happly hdone
      refine ⟨hdone', ⟨?_, ?_, ?_⟩, ?_⟩
      · simp only [hread, ProviderSettings.provider?]
        intro id hid
        split at hid
        · cases hid
        · next hother =>
          have hne : id ≠ providerId := fun heq => hother (heq ▸ hid)
          rw [find?_filter_ne hne]
          exact h.defaultProvider id hid
      · simp only [hread, ProviderSettings.provider?]
        intro id d hd
        rw [JsMap.get?_delete] at hd
        split at hd
        · cases hd
        · next hne =>
          rw [find?_filter_ne hne]
          exact h.modelDefaults id d hd
      · simp only [hread]
        intro id modelId hmem d hd
        rw [JsMap.get?_delete] at hd
        split at hd
        · cases hd
        · exact h.switchedOff id modelId hmem d hd
      · show (getProviderSettings env rows').customProviders.filter _ = _
        rw [hread, List.filter_filter]
        simp only [Bool.and_self]
    | setDefaultProviderId providerId =>
      obtain ⟨hread, hknown⟩ := setDefaultProviderId_ok happly
      refine ⟨?_, ⟨?_, ?_, ?_⟩, ?_⟩
      · rw [hread]
        exact hdone
      · simp only [hread]
        exact hknown
      · simp only [hread]
        exact h.modelDefaults
      · simp only [hread]
        exact h.switchedOff
      · show (getProviderSettings env rows').customProviders = _
        rw [hread]
    | setProviderModelDefaults providerId value =>
      obtain ⟨d, hd, hread, hoffered⟩ := setProviderModelDefaults_ok happly
      refine ⟨?_, ⟨?_, ?_, ?_⟩, ?_⟩
      · rw [hread]
        exact hdone
      · simp only [hread]
        exact h.defaultProvider
      · simp only [hread]
        intro id d' hd'
        rw [JsMap.get?_set] at hd'
        split at hd'
        · next heq =>
          cases hd'
          exact heq ▸ hoffered
        · exact h.modelDefaults id d' hd'
      · simp only [hread]
        intro id modelId hmem d' hd'
        rw [JsMap.get?_set] at hd'
        split at hd'
        · next heq =>
          cases hd'
          exact haccepts d hd modelId (heq ▸ hmem)
        · exact h.switchedOff id modelId hmem d' hd'
      · show (getProviderSettings env rows').customProviders = _
        rw [hread]
    | setProviderOptionalModelEnabled providerId modelId enabled =>
      obtain ⟨hoptional, hdefault, hcustom, hread⟩ := setProviderOptionalModelEnabled_ok happly
      refine ⟨?_, ⟨?_, ?_, ?_⟩, hcustom⟩
      · intro d hd
        rw [hcustom] at hd
        exact hdone d hd
      · simp only [hdefault, hcustom, ProviderSettings.provider?]
        exact h.defaultProvider
      · simp only [hcustom, hread, ProviderSettings.provider?]
        intro id d hd
        exact h.modelDefaults id d (switchedDefaults_get? hd).1
      · simp only [hread]
        intro id m hmem d hd
        obtain ⟨hold, hnew⟩ := switchedDefaults_get? hd
        refine switch_sound hoptional (fun hid hopenai hblue hoff => ?_) (fun hmem' => h.switchedOff id m hmem' d hold) hnew hmem
        exact haccepts hopenai hblue hoff d (hid ▸ hold)

theorem start_consistent : Settled env (getProviderSettings env start.rows) ∧ Consistent env start :=
  ⟨nofun, nofun, nofun, nofun⟩

/-- **The settings stay consistent in every run of calls that keep them so**, and a call about one custom
provider leaves the others as they are. -/
theorem providers_consistent (env : ProviderPlatform) (calls : List ProviderCall) (h : RunMeets (step env) (Accepts env) start calls)
    (k : Nat) :
    Consistent env (runSteps (step env) start (calls.take k)) ∧
      ∀ call, calls[k]? = some call →
        call.LeavesOthers env (getProviderSettings env (runSteps (step env) start (calls.take k)).rows)
          (getProviderSettings env (runSteps (step env) start (calls.take (k + 1))).rows) := by
  have hinv := runSteps_invariant_of_meets (I := fun s => Settled env (getProviderSettings env s.rows) ∧ Consistent env s)
    (fun s call hs haccepts =>
      have hstep := step_consistent hs.1 hs.2 haccepts
      ⟨hstep.1, hstep.2.1⟩) start_consistent (h.take k)
  refine ⟨hinv.2, fun call hcall => ?_⟩
  obtain ⟨haccepts, hnext⟩ := h.step_at hcall
  rw [hnext]
  exact (step_consistent hinv.1 hinv.2 haccepts).2.2

namespace Samples

def endpoint : JsString := js "https://models.example/v1"

def platform : ProviderPlatform where
  url? text := if text = endpoint then some ⟨endpoint, js "https:", [], [], [], []⟩ else none
  supportedThinkingLevels _ _ := [.off]

def definition (modelId : String) : Json :=
  .obj [(js "id", .str (js "custom-lab")), (js "name", .str (js "Lab")), (js "baseUrl", .str endpoint),
    (js "models", .arr [.obj [(js "id", .str (js modelId)), (js "name", .str (js modelId))]])]

def defaults (modelId : String) : Json :=
  .obj [(js "largeModel", .str (js modelId)), (js "smallModel", .str (js modelId)), (js "reasoningEffort", .str (js "off"))]

def configured : List ProviderCall :=
  [.saveCustomProvider (definition "m1"), .setProviderModelDefaults (js "custom-lab") (defaults "m1"), .setDefaultProviderId (js "custom-lab")]

def provider (modelId : String) : CustomProviderDefinition :=
  ⟨js "custom-lab", js "Lab", endpoint, 128000, 16000, [⟨js modelId, js modelId⟩], false⟩

end Samples

open Samples in
theorem providers_consistent_configured :
    Consistent platform (runSteps (step platform) start (configured.take 2)) := by
  refine (providers_consistent platform configured ⟨?_, ?_, trivial, trivial⟩ 2).1
  · intro d hd _
    have hread : normalizeCustomProviderDefinition platform (definition "m1") = .ok (provider "m1") := by rfl
    obtain rfl := Except.ok.inj (hread.symm.trans hd)
    exact ⟨rfl, nofun⟩
  · intro d _ modelId hmem
    have hnone : (step platform start (.saveCustomProvider (definition "m1"))).switchedOff = [] := by decide +kernel
    rw [hnone] at hmem
    cases hmem

open Samples in
/-- A provider that is saved without the model its defaults name keeps them, and the blue model can be switched off while the
defaults name it. -/
theorem defaults_left_behind :
    ¬ Consistent platform (runSteps (step platform) start (configured ++ [.saveCustomProvider (definition "m2")])) ∧
      ¬ Consistent platform (runSteps (step platform) start
        [.setProviderModelDefaults openaiCodex (defaults "gpt-daybreak-blue-latest"),
          .setProviderOptionalModelEnabled openaiCodex blueModelId false]) := by
  constructor
  · intro h
    have hdefaults : (getProviderSettings platform (runSteps (step platform) start
        (configured ++ [.saveCustomProvider (definition "m2")])).rows).modelDefaults.get? (js "custom-lab") =
          some ⟨js "m1", js "m1", .off⟩ := by decide +kernel
    have hprovider : (getProviderSettings platform (runSteps (step platform) start
        (configured ++ [.saveCustomProvider (definition "m2")])).rows).provider? (js "custom-lab") = some (provider "m2") := by decide +kernel
    rcases h.modelDefaults _ _ hdefaults with hbuiltin | ⟨found, hfound, hmodel, -⟩
    · exact absurd hbuiltin (by decide)
    · obtain rfl := Option.some.inj (hprovider.symm.trans hfound)
      exact absurd hmodel (by decide)
  · intro h
    have hdefaults : (getProviderSettings platform (runSteps (step platform) start
        [.setProviderModelDefaults openaiCodex (defaults "gpt-daybreak-blue-latest"),
          .setProviderOptionalModelEnabled openaiCodex blueModelId false]).rows).modelDefaults.get? openaiCodex =
          some ⟨blueModelId, blueModelId, .off⟩ := by decide +kernel
    have hoff : (openaiCodex, blueModelId) ∈ (runSteps (step platform) start
        [.setProviderModelDefaults openaiCodex (defaults "gpt-daybreak-blue-latest"),
          .setProviderOptionalModelEnabled openaiCodex blueModelId false]).switchedOff := by decide +kernel
    exact absurd (h.switchedOff _ _ hoff _ hdefaults) (by decide)

end Beale.Registry
