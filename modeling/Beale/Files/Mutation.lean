import Beale.Library.Client
import Beale.Library.NumberValue
import Beale.Library.Utf8

/-!
# What the file tools write

`file.write` and `file.edit` once the existing bytes have been read: the checks, in
the order of the code, and the bytes that are to be written.
-/

namespace Beale.Files

open Beale.Library

inductive Operation where
  | write
  | edit
deriving DecidableEq

/-- The input of an action, without its path. -/
structure MutationInput where
  operation : Operation
  content : Option Json
  oldText : Option Json
  newText : Option Json
  expectedHash : Option Json
  maxBytes : Option Json

def maxFileBytes : Nat := 1048576

def indexOf (text pattern : JsString) (start : Nat) : Option Nat :=
  (List.range (text.length + 1)).find? fun offset => start ≤ offset && pattern.isPrefixOf (text.drop offset)

/-- `Math.min(input.maxBytes, MAX_FILE_BYTES)`, or `MAX_FILE_BYTES`, is less. -/
def exceedsBudget (maxBytes : Option Json) (length : Nat) : Bool :=
  match maxBytes with
  | some (.num n) => n.value ≠ .nan && (n.value.lt (.finite length) || maxFileBytes < length)
  | _ => maxFileBytes < length

/-- The text of an edit: `oldText` replaced, where it matches exactly once. -/
def editedText (text : JsString) (oldText newText : Option Json) : Except JsString JsString :=
  match oldText.bind Json.asString?, newText.bind Json.asString? with
  | some (u :: rest), some new =>
    let old := u :: rest
    match indexOf text old 0 with
    | none => .error (js "oldText must match exactly once.")
    | some offset =>
      if (indexOf text old (offset + 1)).isSome then .error (js "oldText must match exactly once.")
      else .ok (text.take offset ++ new ++ text.drop (offset + old.length))
  | _, _ => .error (js "oldText must be nonempty and newText must be a string.")

section

-- `createHash("sha256").update(content).digest("hex")`
variable (digest : Bytes → JsString)

/-- `input.expectedHash !== digest(existing)` is not so. -/
def hasHash (expected : Json) (existing : Option Bytes) : Bool :=
  existing.any fun bytes => expected.asString? = some (digest bytes)

def nextText (input : MutationInput) (existing : Option Bytes) : Except JsString JsString :=
  match input.operation, existing with
  | .write, _ =>
    match input.content.bind Json.asString? with
    | none => .error (js "content must be a string.")
    | some content =>
      if existing.isSome && input.expectedHash.isNone then .error (js "Replacing an existing file requires expectedHash.")
      else .ok content
  | .edit, none => .error (js "File does not exist.")
  | .edit, some bytes =>
    if bytes.contains 0 then .error (js "Binary files cannot be edited as text.")
    else
      match decodeUtf8 bytes with
      | none => .error (js "The encoded data was not valid for encoding utf-8")
      | some text => editedText text input.oldText input.newText

def nextContent (input : MutationInput) (existing : Option Bytes) : Except JsString Bytes := do
  if existing.any (maxFileBytes < ·.length) then
    throw (js "File exceeds the bounded editing limit.")
  if input.expectedHash.any fun expected => !hasHash digest expected existing then
    throw (js "File changed or expectedHash does not match.")
  let content ← nextText input existing
  if exceedsBudget input.maxBytes (encodeUtf8 content).length then
    throw (js "Content exceeds the bounded writing limit.")
  return encodeUtf8 content

end

/-! ## The only occurrence -/

/-- The pattern occurs once in the text, also where occurrences overlap, and `content` is the text with that one replaced. -/
def ReplacesOnce (text old new content : JsString) : Prop :=
  ∃ before after, text = before ++ old ++ after ∧ content = before ++ new ++ after ∧
    ∀ before' after', text = before' ++ old ++ after' → before' = before ∧ after' = after

variable {text content : JsString} {offset : Nat} {pattern : JsString}

theorem indexOf_eq_some {start : Nat} (h : indexOf text pattern start = some offset) :
    start ≤ offset ∧ pattern <+: text.drop offset ∧ ∀ other, start ≤ other → other < offset → ¬ pattern <+: text.drop other := by
  rw [indexOf, List.find?_range_eq_some] at h
  obtain ⟨hfound, -, hfirst⟩ := h
  rw [Bool.and_eq_true, decide_eq_true_eq, List.isPrefixOf_iff_prefix] at hfound
  refine ⟨hfound.1, hfound.2, fun other hstart hlt hother => ?_⟩
  have hnot := hfirst other hlt
  rw [Bool.not_eq_true', Bool.and_eq_false_iff] at hnot
  rcases hnot with hnot | hnot
  · exact absurd hstart (of_decide_eq_false hnot)
  · rw [List.isPrefixOf_iff_prefix.mpr hother] at hnot
    cases hnot

theorem indexOf_eq_none {start : Nat} (h : indexOf text pattern start = none)
    (hstart : start ≤ offset) (hlen : offset ≤ text.length) : ¬ pattern <+: text.drop offset := by
  intro hbegins
  rw [indexOf, List.find?_eq_none] at h
  have hnot := h offset (List.mem_range.mpr (Nat.lt_succ_of_le hlen))
  rw [Bool.and_eq_true, decide_eq_true_eq, List.isPrefixOf_iff_prefix] at hnot
  exact hnot ⟨hstart, hbegins⟩

/-- Where the second search starts one unit after the first match, no other occurrence is missed. -/
theorem replacesOnce_of_indexOf {old : JsString} (hfirst : indexOf text old 0 = some offset)
    (hsecond : indexOf text old (offset + 1) = none) (new : JsString) :
    ReplacesOnce text old new (text.take offset ++ new ++ text.drop (offset + old.length)) := by
  obtain ⟨-, ⟨after, hafter⟩, hbef⟩ := indexOf_eq_some hfirst
  have hdrop : text.drop (offset + old.length) = after := by
    rw [← List.drop_drop, ← hafter, List.drop_left]
  have htext : text = text.take offset ++ old ++ after := by
    rw [List.append_assoc, hafter, List.take_append_drop]
  refine ⟨text.take offset, after, htext, by rw [hdrop], fun before' after' heq => ?_⟩
  have hlen : before'.length ≤ text.length := by
    rw [heq, List.append_assoc, List.length_append]
    exact Nat.le_add_right _ _
  have hoccurs : old <+: text.drop before'.length := by
    rw [heq, List.append_assoc, List.drop_left]
    exact List.prefix_append _ _
  have hoffset : before'.length = offset := by
    rcases Nat.lt_trichotomy before'.length offset with hlt | heq | hgt
    · exact absurd hoccurs (hbef _ (Nat.zero_le _) hlt)
    · exact heq
    · exact absurd hoccurs (indexOf_eq_none hsecond hgt hlen)
  have htake : text.take offset = before' := by
    rw [heq, List.append_assoc, ← hoffset, List.take_left]
  refine ⟨htake.symm, ?_⟩
  rw [← hdrop, ← hoffset, ← List.length_append, heq, List.drop_left]

theorem editedText_ok {oldText newText : Option Json}
    (h : editedText text oldText newText = .ok content) :
    ∃ old new, oldText.bind Json.asString? = some old ∧ newText.bind Json.asString? = some new ∧
      ReplacesOnce text old new content := by
  revert h
  fun_cases editedText text oldText newText with
  | case1 => intro h; cases h
  | case2 => intro h; cases h
  | case3 u rest new hnew hold old offset hfirst hsecond =>
    intro h
    cases h
    exact ⟨old, new, hold, hnew, replacesOnce_of_indexOf hfirst (Option.not_isSome_iff_eq_none.mp hsecond) new⟩
  | case4 => intro h; cases h

/-! ## What is written -/

structure WrittenAsAsked (digest : Bytes → JsString) (input : MutationInput) (replaced : Option Bytes) (left : Bytes) : Prop where
  hash : ∀ expected, input.expectedHash = some expected → ∃ bytes, replaced = some bytes ∧ expected.asString? = some (digest bytes)
  content : input.operation = .write → ∃ content, input.content.bind Json.asString? = some content ∧ left = encodeUtf8 content
  edit : input.operation = .edit → ∃ bytes text old new content, replaced = some bytes ∧ decodeUtf8 bytes = some text ∧
    input.oldText.bind Json.asString? = some old ∧ input.newText.bind Json.asString? = some new ∧
    ReplacesOnce text old new content ∧ decodeUtf8 left = some content

/-- Wherever the old text of an edit occurs, the text with the new one in its place has no unpaired surrogate. -/
def staysWellFormed (input : MutationInput) (existing : Option Bytes) : Bool :=
  match input.operation, existing.bind decodeUtf8, input.oldText.bind Json.asString?, input.newText.bind Json.asString? with
  | .edit, some text, some old, some new =>
    (List.range (text.length + 1)).all fun offset =>
      !old.isPrefixOf (text.drop offset) || isWellFormed (text.take offset ++ new ++ text.drop (offset + old.length))
  | _, _, _, _ => true

variable {input : MutationInput} {bytes : Bytes}

theorem ReplacesOnce.isWellFormed {old new : JsString}
    (hop : input.operation = .edit) (htext : decodeUtf8 bytes = some text)
    (hold : input.oldText.bind Json.asString? = some old) (hnew : input.newText.bind Json.asString? = some new)
    (h : ReplacesOnce text old new content) (hwell : staysWellFormed input (some bytes) = true) : isWellFormed content = true := by
  obtain ⟨before, after, rfl, rfl, -⟩ := h
  rw [staysWellFormed, hop, Option.bind_some, htext, hold, hnew] at hwell
  have hmem : before.length ∈ List.range ((before ++ old ++ after).length + 1) := by
    rw [List.mem_range, List.append_assoc, List.length_append]
    omega
  have hat := List.all_eq_true.mp hwell _ hmem
  have hbegins : old.isPrefixOf ((before ++ old ++ after).drop before.length) = true := by
    rw [List.append_assoc, List.drop_left]
    exact List.isPrefixOf_iff_prefix.mpr (List.prefix_append _ _)
  rw [hbegins, Bool.not_true, Bool.false_or, ← List.length_append, List.drop_left, List.append_assoc before old, List.take_left] at hat
  exact hat

variable {existing : Option Bytes}

theorem nextText_ok (h : nextText input existing = .ok content) :
    (input.operation = .write → input.content.bind Json.asString? = some content ∧
        (existing.isSome = true → input.expectedHash.isSome = true)) ∧
      (input.operation = .edit → ∃ before text, existing = some before ∧ decodeUtf8 before = some text ∧
        editedText text input.oldText input.newText = .ok content) := by
  unfold nextText at h
  cases hop : input.operation with
  | write =>
    refine ⟨fun _ => ?_, nofun⟩
    rw [hop] at h
    cases htext : input.content.bind Json.asString? with
    | none =>
      simp only [htext] at h
      cases h
    | some text =>
      simp only [htext] at h
      split at h
      · cases h
      · next hreplaces =>
        cases h
        refine ⟨rfl, fun hexists => ?_⟩
        rw [hexists, Bool.true_and, Option.isNone_iff_eq_none] at hreplaces
        exact Option.isSome_iff_ne_none.mpr hreplaces
  | edit =>
    refine ⟨nofun, fun _ => ?_⟩
    rw [hop] at h
    cases existing with
    | none => cases h
    | some bytes =>
      simp only at h
      split at h
      · cases h
      · cases htext : decodeUtf8 bytes with
        | none =>
          simp only [htext] at h
          cases h
        | some text =>
          simp only [htext] at h
          exact ⟨bytes, text, rfl, htext, h⟩

variable {digest : Bytes → JsString}

theorem nextContent_ok (h : nextContent digest input existing = .ok bytes) :
    (∀ expected, input.expectedHash = some expected → hasHash digest expected existing = true) ∧
      ∃ content, nextText input existing = .ok content ∧ bytes = encodeUtf8 content := by
  rw [nextContent] at h
  obtain ⟨-, h⟩ := Client.exceptGuard_ok.mp h
  obtain ⟨hhash, h⟩ := Client.exceptGuard_ok.mp h
  obtain ⟨content, hcont, h⟩ := Client.exceptBind_ok.mp h
  obtain ⟨-, h⟩ := Client.exceptGuard_ok.mp h
  refine ⟨fun expected hexp => ?_, content, hcont, (Except.ok.inj h).symm⟩
  rw [hexp, Option.any_some, Bool.not_eq_true, Bool.not_eq_false'] at hhash
  exact hhash

/-- **A call that passes the checks writes what it was asked for**, where the new text has no unpaired surrogate. -/
theorem nextContent_sound
    (h : nextContent digest input existing = .ok bytes) (hwell : staysWellFormed input existing = true) :
    WrittenAsAsked digest input existing bytes := by
  obtain ⟨hhash, content, htext, rfl⟩ := nextContent_ok h
  obtain ⟨hwrite, hedit⟩ := nextText_ok htext
  refine ⟨fun expected hexp => ?_, fun hop => ⟨content, (hwrite hop).1, rfl⟩, fun hop => ?_⟩
  · obtain ⟨hsome, heq⟩ := (Option.any_eq_true_iff_get _ _).mp (hhash expected hexp)
    exact ⟨_, (Option.some_get hsome).symm, by simpa using heq⟩
  · obtain ⟨before, text, rfl, htext, hedited⟩ := hedit hop
    obtain ⟨old, new, hold, hnew, hreplaces⟩ := editedText_ok hedited
    have hcont := hreplaces.isWellFormed hop htext hold hnew hwell
    exact ⟨before, text, old, new, content, rfl, htext, hold, hnew, hreplaces, decode_encode_eq_some_iff.mpr hcont⟩

end Beale.Files
