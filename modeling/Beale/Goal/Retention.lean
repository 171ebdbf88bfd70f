import Beale.Goal.Runtime
import Beale.Library.Eviction

/-!
# What is retained of user steering

The requirements are shifted off while they are too many, and then while they are too long
and more than one. Both keep the longest suffix that is small enough, so what comes in
several batches is retained like what comes at once.
-/

namespace Beale.Goal

open Beale.Library

def requirements (messages : List JsString) : List JsString :=
  (messages.map normalizeGoalRequirement).filter (· ≠ [])

/-- Requirements within both limits. -/
structure Fits (steering : List JsString) : Prop where
  count : steering.length ≤ goalRequirementsMaxCount
  total : (steering.map List.length).sum ≤ goalRequirementsMaxChars

/-- What nothing is shifted off. -/
structure Retained (steering : List JsString) : Prop where
  count : steering.length ≤ goalRequirementsMaxCount
  total : steering.length ≤ 1 ∨ (steering.map List.length).sum ≤ goalRequirementsMaxChars

theorem shiftWhile_longest (condition : List JsString → Bool) (hnil : condition [] = false)
    (messages : List JsString) :
    LongestSuffix (condition · = false) messages (shiftWhile condition messages) := by
  induction messages with
  | nil => exact ⟨List.suffix_rfl, hnil, fun _ hs _ => hs⟩
  | cons message rest ih =>
    rw [shiftWhile]
    split
    next hshift =>
      refine ⟨ih.suffix.trans (List.suffix_cons message rest), ih.holds, fun s hs hholds => ?_⟩
      rcases List.suffix_cons_iff.mp hs with rfl | hrest
      · exact absurd (hshift.symm.trans hholds) (by simp)
      · exact ih.longest s hrest hholds
    next hkeep => exact ⟨List.suffix_rfl, Bool.eq_false_iff.mpr hkeep, fun _ hs _ => hs⟩

variable {s : GoalRuntime} {messages messages' : List JsString}

theorem note_longest (s : GoalRuntime) (messages : List JsString) :
    LongestSuffix Retained (s.authoritativeUserSteering ++ requirements messages)
      (s.noteAuthoritativeUserSteering messages).authoritativeUserSteering := by
  have hcount := shiftWhile_longest (fun l => goalRequirementsMaxCount < l.length)
    rfl (s.authoritativeUserSteering ++ requirements messages)
  have hbound := shiftWhile_longest (fun l =>
      1 < l.length && goalRequirementsMaxChars < (l.map List.length).sum) rfl
    (shiftWhile (fun l => goalRequirementsMaxCount < l.length)
      (s.authoritativeUserSteering ++ requirements messages))
  refine (hcount.and (fun t t' hsuffix hfew => ?_) hbound).congr fun t _ => ?_
  · have hlen := hsuffix.length_le
    simp only [decide_eq_false_iff_not, Nat.not_lt] at hfew ⊢
    omega
  · simp only [Bool.and_eq_false_iff, decide_eq_false_iff_not, Nat.not_lt]
    exact ⟨fun h => ⟨h.1, h.2⟩, fun h => ⟨h.count, h.total⟩⟩

theorem Retained.left {steering later : List JsString} (h : Retained (steering ++ later)) :
    Retained steering := by
  obtain ⟨hcount, htotal⟩ := h
  rw [List.map_append, List.sum_append, List.length_append] at htotal
  rw [List.length_append] at hcount
  exact ⟨by omega, by omega⟩

theorem requirements_append (messages messages' : List JsString) :
    requirements (messages ++ messages') = requirements messages ++ requirements messages' := by
  rw [requirements, List.map_append, List.filter_append]
  rfl

/-- Messages in two batches are noted like all of them at once. -/
theorem note_append (s : GoalRuntime) (messages messages' : List JsString) :
    s.noteAuthoritativeUserSteering (messages ++ messages') =
      (s.noteAuthoritativeUserSteering messages).noteAuthoritativeUserSteering messages' := by
  have htwice := (note_longest s messages).append (fun _ _ h => h.left)
    (note_longest (s.noteAuthoritativeUserSteering messages) messages')
  have honce := note_longest s (messages ++ messages')
  rw [requirements_append, ← List.append_assoc] at honce
  exact congrArg (fun steering => { s with authoritativeUserSteering := steering })
    (honce.unique htwice)

theorem note_batches (s : GoalRuntime) (messages : List JsString) (batches : List (List JsString)) :
    runSteps GoalRuntime.noteAuthoritativeUserSteering (s.noteAuthoritativeUserSteering messages)
        batches = s.noteAuthoritativeUserSteering (messages ++ batches.flatten) := by
  induction batches generalizing messages with
  | nil => rw [List.flatten_nil, List.append_nil, runSteps_nil]
  | cons batch batches ih =>
    rw [runSteps_cons, ← note_append, ih, List.flatten_cons, List.append_assoc]

/-! ## Requirements are short -/

theorem compactText_length_le {value : JsString} {maxChars : Nat} (hmax : 0 < maxChars) :
    (compactText value maxChars).length ≤ maxChars := by
  unfold compactText
  dsimp only
  split
  next hshort => exact hshort
  next =>
    have htrim := (trimEnd_isPrefix ((trim (collapseWhitespace value)).take (maxChars - 1))).length_le
    have htake := List.length_take_le (maxChars - 1) (trim (collapseWhitespace value))
    rw [List.length_append, List.length_singleton]
    omega

/-- A single requirement is within the limits. -/
theorem retained_iff_fits {steering : List JsString} (h : steering <:+ requirements messages) :
    Retained steering ↔ Fits steering := by
  constructor
  · rintro ⟨hcount, hone | htotal⟩
    · refine ⟨hcount, ?_⟩
      match steering with
      | [] => exact Nat.zero_le _
      | [requirement] =>
        have hmem := List.mem_of_mem_filter (h.mem (List.mem_singleton_self requirement))
        obtain ⟨message, -, rfl⟩ := List.mem_map.mp hmem
        have hlen : (normalizeGoalRequirement message).length ≤ goalRequirementMaxChars :=
          compactText_length_le (by decide)
        exact hlen.trans (by decide)
    · exact ⟨hcount, htotal⟩
  · exact fun hfits => ⟨hfits.count, .inr hfits.total⟩

/-- Whatever the batches, the longest suffix of the requirements within both limits is
retained. -/
theorem steering_retained (s : GoalRuntime) :
    (∀ batches : List (List JsString),
      LongestSuffix Fits (requirements batches.flatten)
        (runSteps GoalRuntime.noteAuthoritativeUserSteering
          { s with authoritativeUserSteering := [] } batches).authoritativeUserSteering) ∧
    ∀ messages messages',
      s.noteAuthoritativeUserSteering (messages ++ messages') =
        (s.noteAuthoritativeUserSteering messages).noteAuthoritativeUserSteering messages' := by
  refine ⟨fun batches => ?_, note_append s⟩
  have hstart := note_batches { s with authoritativeUserSteering := [] } [] batches
  have hlongest := note_longest { s with authoritativeUserSteering := [] } batches.flatten
  rw [List.nil_append] at hstart hlongest
  show LongestSuffix Fits _ (runSteps _ (GoalRuntime.noteAuthoritativeUserSteering
    { s with authoritativeUserSteering := [] } []) batches).authoritativeUserSteering
  rw [hstart]
  exact hlongest.congr fun steering hsuffix => retained_iff_fits hsuffix

end Beale.Goal
