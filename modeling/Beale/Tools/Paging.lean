import Beale.Library.Run
import Beale.Tools.Pages

/-!
# Runs of a tool registry

Calls of tools and reads of pages, in any order and by any agents, over one store.

- `ToolEvent`, `toolStep`: a call is retained and recorded, a page is read.
- `resultPaging`: they do in every run in which a second projection changes nothing there.
-/

namespace Beale.Tools

open Beale.Library
open ToolResultPageStore

inductive ToolEvent where
  | call (agentId : Option JsString) (result : ToolResult)
  /-- The tool `tool_result.page`. -/
  | page (agentId : Option JsString) (toolActionId : JsString) (offset : JsNumber) (maxCharacters : Option JsNumber)

/-- The store that a registry shares with its forks, and which agent's call produced what is under a key. -/
structure ToolRegistry where
  store : ToolResultPageStore
  producers : JsMap JsString JsString

namespace ToolRegistry

def empty : ToolRegistry := ⟨.empty, .empty⟩

def keptFor : ToolEvent → Option (JsString × ToolResult)
  | .call (some agentId) result =>
    if agentId ≠ [] ∧ ToolResultPageStore.keeps result = true then some (agentId, result) else none
  | _ => none

end ToolRegistry

def toolStep (registry : ToolRegistry) (event : ToolEvent) : ToolRegistry where
  store :=
    match event with
    | .call agentId result => (registry.store.retain result agentId).1
    | .page .. => registry.store
  producers :=
    match ToolRegistry.keptFor event with
    | some (agentId, result) => registry.producers.set (pageKey agentId result.actionId) agentId
    | none => registry.producers

def recordedResult (registry : ToolRegistry) (agentId : Option JsString) (result : ToolResult) : ToolResult :=
  projectToolResult (registry.store.retain result agentId).2

/-! ## What a step has to show -/

/-- The preview of a result and the pages that its note points to hold every character of the text at its position, in
every store that still has the text. -/
def ShowsText (agentId : JsString) (result recorded : ToolResult) : Prop :=
  ∃ pagination, recorded.pagination = some pagination ∧
    ∀ (store : ToolResultPageStore) (sizes : Nat → Nat),
      store.entries.get? (pageKey agentId result.actionId) = some ⟨result.actionId, result.toolName, safeText result⟩ →
      (∀ n, 1 ≤ sizes n ∧ sizes n ≤ resultPageMaxCharacters) →
        ∃ pieces, readPages store agentId pagination.toolActionId sizes (safeText result).length pagination.omittedStart =
            some pieces ∧
          ∀ i < (safeText result).length,
            ∃ piece ∈ (0, (previewText recorded).take pagination.omittedStart) :: pieces, ShownAt (safeText result) i piece

/-- A kept result is in the store and shown as a whole, a page is returned to the agent that produced it, and the store
is within its limits. -/
def Complete (registry : ToolRegistry) (event : ToolEvent) : Prop :=
  StoreSound (toolStep registry event).store ∧
    match event with
    | .call agentId result =>
      ∀ agent ∈ agentId, agent ≠ [] → ToolResultPageStore.keeps result = true →
        (toolStep registry event).store.entries.get? (pageKey agent result.actionId) =
            some ⟨result.actionId, result.toolName, safeText result⟩ ∧
          ShowsText agent result (recordedResult registry agentId result)
    | .page agentId toolActionId offset maxCharacters =>
      ∀ page, registry.store.page agentId toolActionId offset
          (maxCharacters.getD (.integer resultPageMaxCharacters)) = some page →
        ∃ agent, agentId = some agent ∧ registry.producers.get? (pageKey agent toolActionId) = some agent

/-! ## What it rests on -/

/-- A second projection does not change the first half of the text. -/
def SameStart (result : ToolResult) : Prop :=
  (safeText (projectToolResult result)).take (modelToolResultMaxCharacters result.toolName / 2) =
    (safeText result).take (modelToolResultMaxCharacters result.toolName / 2)

/-- An id without U+0000. -/
def PlainAgent (agentId : Option JsString) : Prop := ∀ agent ∈ agentId, (0 : UInt16) ∉ agent

theorem plainAgent_some {agent : JsString} (h : (0 : UInt16) ∉ agent) : PlainAgent (some agent) := by
  rintro other hother
  rwa [← Option.some.inj hother]

def SameStartIfKept : ToolEvent → Prop
  | .call agentId result => ∀ agent ∈ agentId, agent ≠ [] → ToolResultPageStore.keeps result = true → SameStart result
  | .page .. => True

def PlainEvent : ToolEvent → Prop
  | .call agentId _ => PlainAgent agentId
  | .page agentId .. => PlainAgent agentId

variable {result : ToolResult}

theorem sameStart_of_plain (h : isShellToolName result.toolName = false ∨ result.modelOutput.isSome) :
    SameStart result := by
  rw [SameStart, safeText_project_of_plain h]

/-! ## Previews and pages -/

section Shows

variable {registry : ToolRegistry} {result : ToolResult} {agentId : JsString}

theorem recordedResult_kept (hagent : agentId ≠ []) (hkeeps : keeps result = true) :
    recordedResult registry (some agentId) result = projectToolResult (paginate result) := by
  rw [recordedResult, retain_of_keeps hagent hkeeps]

theorem previewText_recorded (result : ToolResult) :
    (previewText (projectToolResult (paginate result))).take
        (modelToolResultMaxCharacters result.toolName / 2) =
      (safeText (projectToolResult result)).take (modelToolResultMaxCharacters result.toolName / 2) := by
  have hname : (projectToolResult (paginate result)).toolName = result.toolName :=
    projectToolResult_toolName _
  have hsafe : safeText (projectToolResult (paginate result)) = safeText (projectToolResult result) := by
    rw [paginate, projectToolResult_paginated]
    exact safeText_paginated _ _
  have htake := previewText_take (projectToolResult (paginate result))
  rwa [hname, hsafe] at htake

/-- Pieces at the same offset that show a text up to a point agree with it there. -/
theorem take_eq_of_shown {text piece : JsString} {half : Nat} (hlen : piece.length ≤ half)
    (h : ∀ i < half, piece[i]? = text[i]?) : piece = text.take half := by
  refine List.ext_getElem? fun i => ?_
  rcases Nat.lt_or_ge i half with hi | hi
  · rw [h i hi, List.getElem?_take_of_lt hi]
  · rw [List.getElem?_eq_none (by omega), List.getElem?_eq_none (by rw [List.length_take]; omega)]

/-- A preview and its pages hold the text exactly where its first half is the one that is shown. -/
theorem showsText_iff (hagent : agentId ≠ []) (hkeeps : keeps result = true) :
    ShowsText agentId result (recordedResult registry (some agentId) result) ↔ SameStart result := by
  obtain ⟨-, hlong, hsmall⟩ := keeps_iff.mp hkeeps
  have hhalf : modelToolResultMaxCharacters result.toolName / 2 < (safeText result).length := by omega
  have hfuel : (safeText result).length ≤
      modelToolResultMaxCharacters result.toolName / 2 + (safeText result).length := by omega
  rw [recordedResult_kept hagent hkeeps]
  have hpagination : (projectToolResult (paginate result)).pagination =
      (paginate result).pagination := projectToolResult_pagination _
  constructor
  · rintro ⟨pagination, hsome, hshows⟩
    obtain rfl := Option.some.inj (hsome.symm.trans hpagination)
    -- a store with this text alone, read character by character
    have hget : (⟨JsMap.empty.set (pageKey agentId result.actionId) ⟨result.actionId, result.toolName, safeText result⟩,
        0⟩ : ToolResultPageStore).entries.get? (pageKey agentId result.actionId) =
          some ⟨result.actionId, result.toolName, safeText result⟩ := JsMap.get?_set_self _ _ _
    have hone : ∀ n, 1 ≤ (fun _ : Nat => 1) n ∧ (fun _ : Nat => 1) n ≤ resultPageMaxCharacters :=
      fun _ => ⟨Nat.le_refl 1, show 1 ≤ resultPageMaxCharacters by decide⟩
    obtain ⟨pieces, hpieces, hcovers⟩ := hshows _ _ hget hone
    obtain ⟨pieces', hpieces', hlater, -⟩ := readPages_covers hagent hget hsmall hone hhalf hfuel
    obtain rfl := Option.some.inj (hpieces.symm.trans hpieces')
    rw [SameStart, ← previewText_recorded]
    refine take_eq_of_shown (List.length_take_le _ _) fun i hi => ?_
    obtain ⟨piece, hpiece, hstart, hlast, hshown⟩ := hcovers i (by omega)
    rcases List.mem_cons.mp hpiece with rfl | hpiece
    · exact hshown
    · have hle := hlater piece hpiece
      omega
  · intro hsame
    refine ⟨_, hpagination, fun store sizes hget hsizes => ?_⟩
    obtain ⟨pieces, hpieces, -, hcovers⟩ := readPages_covers hagent hget hsmall hsizes hhalf hfuel
    refine ⟨pieces, hpieces, fun i hi => ?_⟩
    rcases Nat.lt_or_ge i (modelToolResultMaxCharacters result.toolName / 2) with hfirst | hrest
    · refine ⟨_, List.mem_cons_self, ?_⟩
      show ShownAt _ i (0, (previewText _).take (modelToolResultMaxCharacters result.toolName / 2))
      rw [previewText_recorded, hsame]
      exact shownAt_slice (Nat.zero_le i) hfirst (by omega)
    · obtain ⟨piece, hpiece, hshown⟩ := hcovers i hrest hi
      exact ⟨piece, List.mem_cons_of_mem _ hpiece, hshown⟩

end Shows

/-! ## Who produced a text -/

/-- The store is within its limits, and each of its texts is under the key of the agent that produced it. -/
structure Produced (registry : ToolRegistry) : Prop where
  sound : StoreSound registry.store
  produced : ∀ key entry, registry.store.entries.get? key = some entry →
    ∃ agent, registry.producers.get? key = some agent ∧ (0 : UInt16) ∉ agent ∧ key = pageKey agent entry.toolActionId

variable {toolActionId : JsString}

theorem pageKey_inj {agent agent' toolActionId' : JsString} (h : (0 : UInt16) ∉ agent) (h' : (0 : UInt16) ∉ agent')
    (heq : pageKey agent toolActionId = pageKey agent' toolActionId') : agent = agent' := by
  have htake : ∀ {agent toolActionId : JsString}, (0 : UInt16) ∉ agent →
      (pageKey agent toolActionId).takeWhile (· ≠ 0) = agent := by
    intro agent toolActionId hagent
    have hunits : ∀ u ∈ agent, decide (u ≠ 0) = true := fun u hu => decide_eq_true fun hzero => hagent (by rwa [← hzero])
    rw [pageKey, List.takeWhile_append_of_pos hunits, List.takeWhile_cons_of_neg (by decide), List.append_nil]
  rw [← htake h, heq, htake h']

variable {agentId : Option JsString}

theorem page_some {store : ToolResultPageStore}
    {offset maxCharacters : JsNumber} {page : ResultPage}
    (h : store.page agentId toolActionId offset maxCharacters = some page) :
    ∃ agent entry, agentId = some agent ∧ store.entries.get? (pageKey agent toolActionId) = some entry := by
  match agentId with
  | none | some [] => cases h
  | some (u :: rest) =>
    simp only [ToolResultPageStore.page] at h
    split at h
    · next entry _ _ hget _ _ => exact ⟨_, entry, rfl, hget⟩
    · cases h

theorem keptFor_call {agentId : JsString} (hagent : agentId ≠ []) (hkeeps : keeps result = true) :
    ToolRegistry.keptFor (.call (some agentId) result) = some (agentId, result) := if_pos ⟨hagent, hkeeps⟩

theorem keptFor_eq_none (h : ¬ ∃ agent, agentId = some agent ∧ agent ≠ [] ∧ keeps result = true) :
    ToolRegistry.keptFor (.call agentId result) = none := by
  cases agentId with
  | none => rfl
  | some agent => exact if_neg fun hboth => h ⟨agent, rfl, hboth⟩

variable {registry : ToolRegistry} {event : ToolEvent}

theorem Produced.step (h : Produced registry) (hplain : PlainEvent event) :
    Produced (toolStep registry event) := by
  cases event with
  | page agentId toolActionId offset maxCharacters => exact h
  | call agentId result =>
    refine ⟨retain_sound h.sound result agentId, fun key entry hget => ?_⟩
    simp only [toolStep] at hget ⊢
    rcases retain_cases registry.store result agentId with ⟨hsame, hnot⟩ | ⟨agent, rfl, hagent, hkeeps⟩
    · rw [hsame] at hget
      rw [keptFor_eq_none hnot]
      exact h.produced key entry hget
    · rw [retain_of_keeps hagent hkeeps] at hget
      rw [keptFor_call hagent hkeeps]
      have hput := bounded_get? hget
      rw [put_get?] at hput
      show ∃ producer, (registry.producers.set (pageKey agent result.actionId) agent).get? key = some producer ∧ _
      rw [JsMap.get?_set]
      split at hput
      · next heq =>
        cases hput
        exact ⟨agent, if_pos heq, hplain agent rfl, heq⟩
      · next hne =>
        obtain ⟨producer, hproducer, hrest⟩ := h.produced key entry hput
        exact ⟨producer, (if_neg hne).trans hproducer, hrest⟩

/-- A step is complete where a second projection does not change what its preview shows first. -/
theorem Produced.complete (h : Produced registry) (hplain : PlainEvent event)
    (hsame : SameStartIfKept event) : Complete registry event := by
  refine ⟨(h.step hplain).sound, ?_⟩
  cases event with
  | call agentId result =>
    rintro agent hagent hne hkeeps
    obtain rfl := Option.mem_def.mp hagent
    exact ⟨retain_get? h.sound hne hkeeps, (showsText_iff hne hkeeps).mpr (hsame agent rfl hne hkeeps)⟩
  | page agentId toolActionId offset maxCharacters =>
    intro page hpage
    obtain ⟨agent, entry, rfl, hget⟩ := page_some hpage
    obtain ⟨producer, hproducer, hnul, hkey⟩ := h.produced _ entry hget
    rw [pageKey_inj hnul (hplain agent rfl) hkey.symm] at hproducer
    exact ⟨agent, rfl, hproducer⟩

theorem Complete.sameStart (h : Complete registry event) : SameStartIfKept event := by
  cases event with
  | page agentId toolActionId offset maxCharacters => trivial
  | call agentId result =>
    intro agent hagent hne hkeeps
    obtain rfl := Option.mem_def.mp hagent
    exact (showsText_iff hne hkeeps).mp (h.2 agent rfl hne hkeeps).2

theorem produced_empty : Produced .empty := ⟨storeSound_empty, fun _ _ hget => by cases hget⟩

/-- In every run by agents whose ids have no U+0000, the previews and the pages hold the texts if, and only if, a second
projection changes nothing in the first halves. -/
theorem resultPaging (events : List ToolEvent) :
    (RunMeets toolStep (fun _ event => PlainEvent event ∧ SameStartIfKept event) .empty events →
        RunMeets toolStep Complete .empty events) ∧
      (RunMeets toolStep Complete .empty events → RunMeets toolStep (fun _ event => SameStartIfKept event) .empty events) := by
  constructor
  · exact RunMeets.of_invariant (I := Produced) (fun _ _ hproduced hmet => hproduced.step hmet.1)
      (fun _ _ hproduced hmet => hproduced.complete hmet.1 hmet.2) produced_empty
  · exact RunMeets.of_invariant (I := fun _ => True) (fun _ _ _ _ => trivial) (fun _ _ _ hcomplete => hcomplete.sameStart)
      trivial

/-- The result of an inspection, with more output than the model is shown. -/
def inspection : ToolResult where
  actionId := js "action-example-001"
  toolName := js "fixture.inspect"
  status := js "complete"
  summary := js "Inspected a synthetic example."
  output := some (.str (List.replicate 34000 65))
  modelOutput := none
  error := none
  followUpActions := []
  pagination := none

theorem resultPaging_inspection :
    RunMeets toolStep Complete .empty
      [.call (some (js "agent-example")) inspection,
        .page (some (js "agent-example")) (js "action-example-001") (.integer 16000) none,
        .page (some (js "agent-other")) (js "action-example-001") (.integer 16000) none] := by
  have hagent : PlainAgent (some (js "agent-example")) := plainAgent_some (by decide)
  have hother : PlainAgent (some (js "agent-other")) := plainAgent_some (by decide)
  have hsame : SameStart inspection := sameStart_of_plain (.inl (by decide))
  exact (resultPaging _).1 ⟨⟨hagent, fun _ _ _ _ => hsame⟩, ⟨hagent, trivial⟩, ⟨hother, trivial⟩, trivial⟩

def shellResult (stdout : JsString) : ToolResult where
  actionId := js "call_1"
  toolName := js "shell.run"
  status := js "complete"
  summary := js "Ran."
  output := some (.obj [(js "args", .arr [.str (js "token=\"a\"b")]), (js "stdout", .str stdout)])
  modelOutput := none
  error := none
  followUpActions := []
  pagination := none

theorem projectToolResult_shellResult (stdout : JsString) : projectToolResult (shellResult stdout) =
    { shellResult stdout with
      output := some (.obj [(js "args", .arr [.str (js "token=[REDACTED]b")]), (js "stdout", .str stdout)]) } := rfl

set_option maxRecDepth 8000 in
theorem safeText_shellResult (stdout : JsString) : safeText (shellResult stdout) =
    js "\x7b\n  \"status\": \"complete\",\n  \"summary\": \"Ran.\",\n  \"output\": \x7b\n    \"args\": [\n" ++
      js "      \"token=[REDACTED]b\"\n    ],\n    \"stdout\": \"" ++
        (escapeUnits stdout ++ js "\"\n  \x7d,\n  \"followUpActions\": []\n\x7d") := by
  rw [safeText, projectToolResult_shellResult]
  simp only [serializeModelToolResult, visibleOutput, shellResult, Option.getD_none, Option.map_some, Option.map_none,
    Option.toList_some, Option.toList_none, List.append_nil, List.cons_append, List.nil_append, List.map_nil, prettyPrint,
    prettyMembers, prettyElements, quote, List.append_assoc]
  rfl

theorem escapeUnits_replicate (n : Nat) : escapeUnits (List.replicate n 120) = List.replicate n 120 := by
  induction n with
  | zero => rfl
  | succ n ih =>
    cases n with
    | zero => decide
    | succ n =>
      rw [List.replicate_succ, List.replicate_succ, escapeUnits, ← List.replicate_succ, ih]
      rfl

theorem keeps_shellResult : keeps (shellResult (List.replicate 24000 120)) = true := by
  have hlen : (safeText (shellResult (List.replicate 24000 120))).length = 24155 := by
    rw [safeText_shellResult, escapeUnits_replicate, List.length_append, List.length_append, List.length_append,
      List.length_replicate]
    rfl
  refine keeps_iff.mpr ⟨by decide, ?_, ?_⟩
  · rw [hlen]
    decide
  · rw [hlen]
    decide

/-- The preview is redacted once more than the pages: it does not have what they count as its first half. -/
theorem shellResult_incomplete :
    ¬ RunMeets toolStep Complete .empty [.call (some (js "root")) (shellResult (List.replicate 24000 120))] := by
  intro h
  have hsame := h.1.sameStart (js "root") rfl (by decide) keeps_shellResult
  have hunit := congrArg (·[98]?) hsame
  have hhalf : 98 < modelToolResultMaxCharacters (shellResult (List.replicate 24000 120)).toolName / 2 := by decide
  simp only [List.getElem?_take_of_lt hhalf] at hunit
  exact absurd hunit (by decide +kernel)

end Beale.Tools
