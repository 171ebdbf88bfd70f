import Beale.Library.JsMap
import Beale.Tools.Results

/-!
# Pages of tool results

`ToolResultPageStore` keeps the texts of results that are too long for the model, and hands them out in pages.

- `retain`, `page`: the two operations; `evict` drops the oldest texts.
- `retain_sound`, `retain_get?`: a result that is retained is there, and the limits hold.
-/

namespace Beale.Tools

open Beale.Library

def resultPageMaxCharacters : Nat := 8000

def resultPageStoreMaxEntryCharacters : Nat := 8000000

def resultPageStoreMaxCharacters : Nat := 24000000

def resultPageStoreMaxEntries : Nat := 64

structure StoredToolResultPage where
  toolActionId : JsString
  toolName : JsString
  text : JsString

structure ToolResultPageStore where
  entries : JsMap JsString StoredToolResultPage
  characters : Int

structure ResultPage where
  toolActionId : JsString
  toolName : JsString
  offset : Nat
  totalCharacters : Nat
  text : JsString
  nextOffset : Option Nat

def pageKey (agentId toolActionId : JsString) : JsString := agentId ++ 0 :: toolActionId

/-- The entries, and the counter, once the oldest ones are dropped. -/
def evict : List (JsString × StoredToolResultPage) → Int → List (JsString × StoredToolResultPage) × Int
  | [], characters => ([], characters)
  | e :: rest, characters =>
    if resultPageStoreMaxEntries < (e :: rest).length ∨ resultPageStoreMaxCharacters < characters then
      evict rest (characters - e.2.text.length)
    else (e :: rest, characters)

theorem evict_suffix (entries : List (JsString × StoredToolResultPage)) (characters : Int) :
    (evict entries characters).1 <:+ entries := by
  fun_induction evict entries characters with
  | case1 => exact List.suffix_rfl
  | case2 e rest characters _ ih => exact ih.trans (List.suffix_cons e rest)
  | case3 => exact List.suffix_rfl

namespace ToolResultPageStore

def empty : ToolResultPageStore := ⟨.empty, 0⟩

/-- Whether `retain` keeps the text: it is too long for the model, and not for the store. -/
def keeps (result : ToolResult) : Bool :=
  result.toolName ≠ js "tool_result.page" && modelToolResultMaxCharacters result.toolName < (safeText result).length &&
    (safeText result).length ≤ resultPageStoreMaxEntryCharacters

def paginate (result : ToolResult) : ToolResult :=
  let half := modelToolResultMaxCharacters result.toolName / 2
  { result with
    pagination := some ⟨result.actionId, (safeText result).length, half, (safeText result).length - half⟩ }

/-- The store with a text under its key, before it is brought below its limits. -/
def put (store : ToolResultPageStore) (key : JsString) (entry : StoredToolResultPage) : ToolResultPageStore where
  entries := (store.entries.delete key).set key entry
  characters := store.characters - ((store.entries.get? key).elim 0 fun previous => (previous.text.length : Int)) +
    entry.text.length

def bounded (store : ToolResultPageStore) : ToolResultPageStore where
  entries := ⟨(evict store.entries.entries store.characters).1,
    store.entries.nodup.sublist ((evict_suffix _ _).sublist.map _)⟩
  characters := (evict store.entries.entries store.characters).2

def retain (store : ToolResultPageStore) (result : ToolResult) (agentId : Option JsString) :
    ToolResultPageStore × ToolResult :=
  match agentId with
  | none | some [] => (store, result)
  | some (u :: agentId) =>
    if keeps result then
      ((store.put (pageKey (u :: agentId) result.actionId)
        ⟨result.actionId, result.toolName, safeText result⟩).bounded, paginate result)
    else (store, result)

def safeInteger? : JsNumber → Option Int
  | .integer n => if n.natAbs ≤ 9007199254740991 then some n else none
  | .other _ => none

def page (store : ToolResultPageStore) (agentId : Option JsString) (toolActionId : JsString)
    (offset maxCharacters : JsNumber) : Option ResultPage :=
  match agentId with
  | none | some [] => none
  | some (u :: agentId) =>
    match store.entries.get? (pageKey (u :: agentId) toolActionId), safeInteger? offset, safeInteger? maxCharacters with
    | some entry, some offset, some maxCharacters =>
      if offset < 0 ∨ entry.text.length ≤ offset ∨ maxCharacters < 1 ∨ resultPageMaxCharacters < maxCharacters then none
      else
        let last := min entry.text.length (offset.toNat + maxCharacters.toNat)
        some
          { toolActionId := entry.toolActionId
            toolName := entry.toolName
            offset := offset.toNat
            totalCharacters := entry.text.length
            text := (entry.text.take last).drop offset.toNat
            nextOffset := if last < entry.text.length then some last else none }
    | _, _, _ => none

end ToolResultPageStore

/-! ## Limits -/

def totalCharacters (entries : List (JsString × StoredToolResultPage)) : Nat := (entries.map (·.2.text.length)).sum

/-- The counter is right, and the limits hold. -/
structure StoreSound (store : ToolResultPageStore) : Prop where
  counted : store.characters = totalCharacters store.entries.entries
  entries : store.entries.entries.length ≤ resultPageStoreMaxEntries
  characters : totalCharacters store.entries.entries ≤ resultPageStoreMaxCharacters

theorem storeSound_empty : StoreSound .empty := ⟨rfl, Nat.zero_le _, Nat.zero_le _⟩

@[simp] theorem totalCharacters_cons (e : JsString × StoredToolResultPage) (entries : List (JsString × StoredToolResultPage)) :
    totalCharacters (e :: entries) = e.2.text.length + totalCharacters entries := by
  simp [totalCharacters]

@[simp] theorem totalCharacters_append (entries entries' : List (JsString × StoredToolResultPage)) :
    totalCharacters (entries ++ entries') = totalCharacters entries + totalCharacters entries' := by
  simp [totalCharacters]

variable {entries : List (JsString × StoredToolResultPage)} {characters : Int}

/-- What is left is below the limits, and the counter has followed. -/
theorem evict_sound (h : characters = totalCharacters entries) :
    (evict entries characters).2 = totalCharacters (evict entries characters).1 ∧
      (evict entries characters).1.length ≤ resultPageStoreMaxEntries ∧
      totalCharacters (evict entries characters).1 ≤ resultPageStoreMaxCharacters := by
  fun_induction evict entries characters with
  | case1 => exact ⟨h, Nat.zero_le _, Nat.zero_le _⟩
  | case2 e rest characters hfull ih =>
    refine ih ?_
    rw [totalCharacters_cons] at h
    omega
  | case3 e rest characters hfull =>
    refine ⟨h, ?_, ?_⟩
    · show (e :: rest).length ≤ resultPageStoreMaxEntries
      omega
    · show totalCharacters (e :: rest) ≤ resultPageStoreMaxCharacters
      omega

/-- The newest entry is never dropped. -/
theorem evict_concat {e : JsString × StoredToolResultPage}
    (h : characters = totalCharacters (entries ++ [e]))
    (hsmall : e.2.text.length ≤ resultPageStoreMaxCharacters) :
    ∃ entries', (evict (entries ++ [e]) characters).1 = entries' ++ [e] := by
  induction entries generalizing characters with
  | nil =>
    refine ⟨[], ?_⟩
    have hcharacters : characters = e.2.text.length := by
      rw [h]
      simp [totalCharacters]
    have hroom : ¬ (resultPageStoreMaxEntries < [e].length ∨ (resultPageStoreMaxCharacters : Int) < characters) := by
      rw [List.length_singleton, resultPageStoreMaxEntries]
      omega
    rw [List.nil_append, evict, if_neg hroom]
  | cons first entries ih =>
    rw [List.cons_append, evict]
    split
    · refine ih ?_
      rw [List.cons_append, totalCharacters_cons] at h
      omega
    · exact ⟨first :: entries, rfl⟩

theorem totalCharacters_entries (m : JsMap JsString StoredToolResultPage) :
    totalCharacters m.entries = (m.values.map (·.text.length)).sum := by
  rw [totalCharacters, JsMap.values, List.map_map]
  rfl

section Store

variable {store : ToolResultPageStore} {key : JsString} {entry : StoredToolResultPage}

theorem put_entries (store : ToolResultPageStore) (key : JsString) (entry : StoredToolResultPage) :
    (store.put key entry).entries.entries = (store.entries.delete key).entries ++ [(key, entry)] :=
  JsMap.entries_set_new entry (by rw [JsMap.get?_delete, if_pos rfl])

/-- The counter of a store follows a text that takes the place of another. -/
theorem put_counted (h : store.characters = totalCharacters store.entries.entries) :
    (store.put key entry).characters = totalCharacters (store.put key entry).entries.entries := by
  have hdel : (totalCharacters store.entries.entries : Int) -
      ((store.entries.get? key).elim 0 fun previous => (previous.text.length : Int)) =
        totalCharacters (store.entries.delete key).entries := by
    cases hget : store.entries.get? key with
    | none => rw [JsMap.delete_of_none hget, Option.elim_none, Int.sub_zero]
    | some previous =>
      have hperm := ((JsMap.values_perm_of_get? hget).map (·.text.length)).sum_nat
      rw [totalCharacters_entries, hperm, totalCharacters_entries, List.map_cons, List.sum_cons, Option.elim_some]
      omega
  rw [put_entries, totalCharacters_append]
  show store.characters - _ + (entry.text.length : Int) = _
  rw [h, hdel]
  simp [totalCharacters]

theorem bounded_sound (h : store.characters = totalCharacters store.entries.entries) : StoreSound store.bounded :=
  let ⟨hcount, hents, hcharacters⟩ := evict_sound h
  ⟨hcount, hents, hcharacters⟩

theorem bounded_get? (h : store.bounded.entries.get? key = some entry) : store.entries.get? key = some entry :=
  JsMap.get?_of_mem ((evict_suffix _ _).subset (JsMap.mem_of_get? h))

theorem bounded_put (h : store.characters = totalCharacters store.entries.entries)
    (hsmall : entry.text.length ≤ resultPageStoreMaxCharacters) :
    (store.put key entry).bounded.entries.get? key = some entry := by
  have hcount : (store.put key entry).characters = totalCharacters (store.put key entry).entries.entries :=
    put_counted h
  rw [put_entries] at hcount
  obtain ⟨entries, hents⟩ := evict_concat hcount hsmall
  refine JsMap.get?_of_mem ?_
  show (key, entry) ∈ (evict (store.put key entry).entries.entries _).1
  rw [put_entries, hents]
  exact List.mem_append_right _ List.mem_cons_self

theorem put_get? {key' : JsString} : (store.put key entry).entries.get? key' =
    if key' = key then some entry else store.entries.get? key' := by
  show ((store.entries.delete key).set key entry).get? key' = _
  rw [JsMap.get?_set, JsMap.get?_delete]
  split <;> rfl

end Store

/-! ## Retained results -/

section Retain

variable {store : ToolResultPageStore} {result : ToolResult} {agentId : JsString}

theorem keeps_iff : ToolResultPageStore.keeps result = true ↔ result.toolName ≠ js "tool_result.page" ∧
    modelToolResultMaxCharacters result.toolName < (safeText result).length ∧
      (safeText result).length ≤ resultPageStoreMaxEntryCharacters := by
  rw [ToolResultPageStore.keeps, Bool.and_eq_true, Bool.and_eq_true, decide_eq_true_eq, decide_eq_true_eq,
    decide_eq_true_eq, and_assoc]

theorem retain_of_keeps (hagent : agentId ≠ []) (hkeeps : ToolResultPageStore.keeps result = true) :
    store.retain result (some agentId) =
      ((store.put (pageKey agentId result.actionId) ⟨result.actionId, result.toolName, safeText result⟩).bounded,
        ToolResultPageStore.paginate result) := by
  obtain ⟨u, rest, rfl⟩ := List.exists_cons_of_ne_nil hagent
  exact if_pos hkeeps

/-- A call either leaves the store as it is, or puts its text there for its agent. -/
theorem retain_cases (store : ToolResultPageStore) (result : ToolResult) (agentId : Option JsString) :
    store.retain result agentId = (store, result) ∧
        ¬ (∃ agent, agentId = some agent ∧ agent ≠ [] ∧ ToolResultPageStore.keeps result = true) ∨
      ∃ agent, agentId = some agent ∧ agent ≠ [] ∧ ToolResultPageStore.keeps result = true := by
  by_cases h : ∃ agent, agentId = some agent ∧ agent ≠ [] ∧ ToolResultPageStore.keeps result = true
  · exact .inr h
  · refine .inl ⟨?_, h⟩
    match agentId with
    | none | some [] => rfl
    | some (u :: rest) => exact if_neg fun hkeeps => h ⟨_, rfl, List.cons_ne_nil _ _, hkeeps⟩

theorem retain_sound (hsound : StoreSound store) (result : ToolResult) (agentId : Option JsString) :
    StoreSound (store.retain result agentId).1 := by
  rcases retain_cases store result agentId with ⟨hsame, -⟩ | ⟨agent, rfl, hagent, hkeeps⟩
  · rw [hsame]
    exact hsound
  · rw [retain_of_keeps hagent hkeeps]
    exact bounded_sound (put_counted hsound.counted)

theorem retain_get? (hsound : StoreSound store) (hagent : agentId ≠ []) (hkeeps : ToolResultPageStore.keeps result = true) :
    (store.retain result (some agentId)).1.entries.get? (pageKey agentId result.actionId) =
      some ⟨result.actionId, result.toolName, safeText result⟩ := by
  rw [retain_of_keeps hagent hkeeps]
  refine bounded_put hsound.counted ?_
  have hsmall := (keeps_iff.mp hkeeps).2.2
  exact Nat.le_trans hsmall (by decide)

end Retain

/-! ## Reading pages -/

/-- The pages from an offset on, each with where it starts: `nextOffset` is followed until it is absent. -/
def readPages (store : ToolResultPageStore) (agentId toolActionId : JsString) (sizes : Nat → Nat) :
    Nat → Nat → Option (List (Nat × JsString))
  | 0, _ => none
  | fuel + 1, offset =>
    (store.page (some agentId) toolActionId (.integer offset) (.integer (sizes fuel))).bind fun page =>
      match page.nextOffset with
      | none => some [(page.offset, page.text)]
      | some next => (readPages store agentId toolActionId sizes fuel next).map ((page.offset, page.text) :: ·)

/-- The character of a text at a position is shown by a piece that starts at some offset. -/
def ShownAt (text : JsString) (i : Nat) (piece : Nat × JsString) : Prop :=
  piece.1 ≤ i ∧ i < piece.1 + piece.2.length ∧ piece.2[i - piece.1]? = text[i]?

theorem shownAt_slice {text : JsString} {start last i : Nat} (hstart : start ≤ i) (hlast : i < last)
    (hlen : last ≤ text.length) : ShownAt text i (start, (text.take last).drop start) := by
  refine ⟨hstart, ?_, ?_⟩
  · rw [List.length_drop, List.length_take]
    omega
  · rw [List.getElem?_drop, List.getElem?_take_of_lt (by omega)]
    exact congrArg (text[·]?) (by omega)

section Pages

variable {store : ToolResultPageStore} {agentId toolActionId : JsString} {entry : StoredToolResultPage}

section

variable (hagent : agentId ≠ [])
  (hget : store.entries.get? (pageKey agentId toolActionId) = some entry)
  (hsmall : entry.text.length ≤ resultPageStoreMaxEntryCharacters)
include hagent hget hsmall

theorem page_stored {offset size : Nat} (hoffset : offset < entry.text.length)
    (hsize : 1 ≤ size ∧ size ≤ resultPageMaxCharacters) :
    store.page (some agentId) toolActionId (.integer offset) (.integer size) =
      some
        { toolActionId := entry.toolActionId
          toolName := entry.toolName
          offset
          totalCharacters := entry.text.length
          text := (entry.text.take (min entry.text.length (offset + size))).drop offset
          nextOffset :=
            if min entry.text.length (offset + size) < entry.text.length then some (min entry.text.length (offset + size))
            else none } := by
  obtain ⟨u, rest, rfl⟩ := List.exists_cons_of_ne_nil hagent
  have hmax : resultPageStoreMaxEntryCharacters ≤ 9007199254740991 := by decide
  have hpage : resultPageMaxCharacters ≤ 9007199254740991 := by decide
  have hoffsetSafe : ToolResultPageStore.safeInteger? (.integer offset) = some (offset : Int) := if_pos (by omega)
  have hsizeSafe : ToolResultPageStore.safeInteger? (.integer size) = some (size : Int) := if_pos (by omega)
  have hin : ¬ ((offset : Int) < 0 ∨ (entry.text.length : Int) ≤ offset ∨ (size : Int) < 1 ∨
      (resultPageMaxCharacters : Int) < size) := by omega
  simp only [ToolResultPageStore.page, hget, hoffsetSafe, hsizeSafe, if_neg hin, Int.toNat_natCast]

theorem readPages_covers {sizes : Nat → Nat}
    (hsizes : ∀ n, 1 ≤ sizes n ∧ sizes n ≤ resultPageMaxCharacters) {fuel offset : Nat} (hoffset : offset < entry.text.length)
    (hfuel : entry.text.length ≤ offset + fuel) :
    ∃ pieces, readPages store agentId toolActionId sizes fuel offset = some pieces ∧ (∀ piece ∈ pieces, offset ≤ piece.1) ∧
      ∀ i, offset ≤ i → i < entry.text.length → ∃ piece ∈ pieces, ShownAt entry.text i piece := by
  induction fuel generalizing offset with
  | zero => omega
  | succ fuel ih =>
    have hsize := hsizes fuel
    rw [readPages, page_stored hagent hget hsmall hoffset hsize, Option.bind_some]
    by_cases hmore : min entry.text.length (offset + sizes fuel) < entry.text.length
    · rw [if_pos hmore]
      obtain ⟨pieces, hpieces, hlater, hcovers⟩ := ih hmore (by omega)
      refine ⟨(offset, (entry.text.take (min entry.text.length (offset + sizes fuel))).drop offset) :: pieces, ?_,
        fun piece hpiece => ?_, fun i hi hlen => ?_⟩
      · show Option.map _ (readPages store agentId toolActionId sizes fuel _) = _
        rw [hpieces]
        rfl
      · rcases List.mem_cons.mp hpiece with rfl | hpiece
        · exact Nat.le_refl _
        · have hle := hlater piece hpiece
          omega
      · rcases Nat.lt_or_ge i (min entry.text.length (offset + sizes fuel)) with hin | hout
        · exact ⟨_, List.mem_cons_self, shownAt_slice hi hin (Nat.min_le_left _ _)⟩
        · obtain ⟨piece, hpiece, hshown⟩ := hcovers i hout hlen
          exact ⟨piece, List.mem_cons_of_mem _ hpiece, hshown⟩
    · rw [if_neg hmore]
      refine ⟨_, rfl, fun piece hpiece => ?_, fun i hi hlen => ?_⟩
      · rw [List.mem_singleton.mp hpiece]
      · exact ⟨_, List.mem_cons_self, shownAt_slice hi (by omega) (Nat.min_le_left _ _)⟩

end

end Pages

end Beale.Tools
