import Beale.Library.Url

/-!
# Excluded resources

`explicitExclusionFor` finds the recorded exclusion that a locator falls under: by the locator itself, or by a wildcard
host that it lies below.

- `normalizeLocator`, `hostLocator`: the two normal forms of a locator.
- `explicitExclusionFor_iff`: when an excluded resource is found.
-/

namespace Beale.Resources

open Beale.Library

/-- The tables of Unicode, and of hosts. -/
structure TextTables where
  toLowerCase : JsString → JsString
  toLocaleLowerCase : JsString → JsString
  hosts : HostTables

inductive ResourceDirection where
  | inScope
  | outOfScope
deriving DecidableEq

/-- A row of `app_server_research_resources`. Every write of `normalized_locator` is the normal form of the locator. -/
structure ResourceRow where
  workspaceId : JsString
  name : JsString
  locator : JsString
  /-- `explicit_scope`; the other ones are a `runtime_discovery`. -/
  explicitScope : Bool
  direction : Option ResourceDirection
deriving DecidableEq

section Locators

variable (tables : TextTables)

def normalizeLocator (value : JsString) : JsString :=
  tables.toLocaleLowerCase (((trim value).map fun u => if u = 92 then 47 else u).rdropWhile (· = 47))

def isHostUnit (u : UInt16) : Bool := 97 ≤ u && u ≤ 122 || 48 ≤ u && u ≤ 57 || u = 45

/-- Two labels or more, and perhaps a wildcard before them. -/
def isHostName (text : JsString) : Bool :=
  let name := if (js "*.").isPrefixOf text then text.drop 2 else text
  name.all (fun u => isHostUnit u || u = 46) && 2 ≤ (name.splitOn 46).length && ¬ (name.splitOn 46).contains []

def hostLocator (value : JsString) : Option JsString :=
  let normalized := tables.toLowerCase (trim value)
  if (js "http://").isPrefixOf normalized || (js "https://").isPrefixOf normalized then
    (parseHttpUrl tables.hosts normalized).map (·.hostname)
  else if isHostName normalized then some normalized
  else none

def exclusions (rows : List ResourceRow) (workspaceId : JsString) : List ResourceRow :=
  rows.filter fun row => row.workspaceId = workspaceId ∧ row.explicitScope ∧ row.direction = some .outOfScope

def explicitExclusionFor (rows : List ResourceRow) (workspaceId locator : JsString) : Option ResourceRow :=
  let candidate := normalizeLocator tables locator
  let candidateHost := hostLocator tables locator
  (exclusions rows workspaceId).find? fun row =>
    normalizeLocator tables row.locator = candidate ||
      match candidateHost, hostLocator tables row.locator with
      | some host, some excluded =>
        host ≠ [] && (js "*.").isPrefixOf excluded && (excluded.drop 1).isSuffixOf host && host ≠ excluded.drop 2
      | _, _ => false

/-! ## What is excluded -/

def isSchemeUnit (u : UInt16) : Bool := 97 ≤ u && u ≤ 122 || 48 ≤ u && u ≤ 57 || (js "+-.").contains u

/-- The scheme before `://`, and what comes after. -/
def splitScheme (text : JsString) : Option (JsString × JsString) :=
  let scheme := text.takeWhile isSchemeUnit
  let rest := text.drop scheme.length
  if scheme ≠ [] ∧ (js "://").isPrefixOf rest then some (scheme, rest.drop 3) else none

/-- The host of a URL of any scheme, or of a text that is a host with perhaps a port and a path. -/
def namedHost (value : JsString) : Option JsString :=
  let text := tables.toLowerCase (trim value)
  match splitScheme text with
  | some (scheme, rest) =>
    let web := if scheme = js "http" then scheme else js "https"
    (parseHttpUrl tables.hosts (web ++ js "://" ++ rest)).map (·.hostname)
  | none =>
    let authority := text.takeWhile (¬ isAuthorityEnd ·)
    let host := authority.takeWhile (· ≠ 58)
    if isHostName host && (authority.drop (host.length + 1)).all (fun u => 48 ≤ u && u ≤ 57) then some host else none

def Below (host excluded : JsString) : Prop := ∃ suffix, excluded = js "*." ++ suffix ∧ js "." ++ suffix <:+ host

/-- The locator of an exclusion, or its host or one below it. -/
def Denotes (row : ResourceRow) (value : JsString) : Prop :=
  normalizeLocator tables value = normalizeLocator tables row.locator ∨
    ∃ host excluded, namedHost tables value = some host ∧ namedHost tables row.locator = some excluded ∧
      (host = excluded ∨ Below host excluded)

/-- A URL with the scheme `http` or `https`, or a host name and nothing else. -/
def Plain (value : JsString) : Prop :=
  let text := tables.toLowerCase (trim value)
  js "http://" <+: text ∨ js "https://" <+: text ∨ isHostName text = true

end Locators

/-! ## Host names -/

theorem isHostName_units {text : JsString} (h : isHostName text = true) {u : UInt16} (hu : u ∈ text) :
    isHostUnit u = true ∨ u = 46 ∨ u = 42 := by
  rw [isHostName, Bool.and_eq_true, Bool.and_eq_true] at h
  obtain ⟨⟨hunits, -⟩, -⟩ := h
  split at hunits
  · next hwildcard =>
    obtain ⟨name, rfl⟩ := List.isPrefixOf_iff_prefix.mp hwildcard
    rcases List.mem_append.mp hu with hstart | hname
    · simp [js, utf16] at hstart
      rcases hstart with rfl | rfl
      · exact .inr (.inr rfl)
      · exact .inr (.inl rfl)
    · have hunit := List.all_eq_true.mp hunits u hname
      rw [Bool.or_eq_true, decide_eq_true_eq] at hunit
      exact hunit.imp_right .inl
  · have hunit := List.all_eq_true.mp hunits u hu
    rw [Bool.or_eq_true, decide_eq_true_eq] at hunit
    exact hunit.imp_right .inl

theorem isHostName_ne {text : JsString} (h : isHostName text = true) {u v : UInt16} (hu : u ∈ text)
    (hv : isHostUnit v = false ∧ v ≠ 46 ∧ v ≠ 42) : u ≠ v := by
  rintro rfl
  rcases isHostName_units h hu with hunit | rfl | rfl
  · rw [hv.1] at hunit
    cases hunit
  · exact hv.2.1 rfl
  · exact hv.2.2 rfl

/-! ## The two readings of a host -/

section Hosts

variable {tables : TextTables} {value : JsString}

theorem splitScheme_http (rest : JsString) : splitScheme (js "http://" ++ rest) = some (js "http", rest) := rfl

theorem splitScheme_https (rest : JsString) : splitScheme (js "https://" ++ rest) = some (js "https", rest) := rfl

theorem splitScheme_hostName {text : JsString} (h : isHostName text = true) : splitScheme text = none := by
  rw [splitScheme, if_neg]
  rintro ⟨-, hstart⟩
  obtain ⟨rest, heq⟩ := List.isPrefixOf_iff_prefix.mp hstart
  have hcolon : (58 : UInt16) ∈ text := by
    refine List.mem_of_mem_drop (i := (text.takeWhile isSchemeUnit).length) ?_
    rw [← heq]
    exact List.mem_append_left _ (by decide)
  exact isHostName_ne h hcolon ⟨rfl, by decide, by decide⟩ rfl

theorem hostLocator_plain (hplain : Plain tables value) : hostLocator tables value = namedHost tables value := by
  rw [hostLocator, namedHost]
  rw [Plain] at hplain
  generalize tables.toLowerCase (trim value) = text at hplain ⊢
  rcases hplain with ⟨rest, rfl⟩ | ⟨rest, rfl⟩ | hname
  · rw [splitScheme_http, if_pos (by rfl)]
    rfl
  · rw [splitScheme_https, if_pos (by rfl)]
    rfl
  · have hunits : ∀ u ∈ text, u ≠ 47 ∧ u ≠ 92 ∧ u ≠ 63 ∧ u ≠ 35 ∧ u ≠ 58 := fun u hu =>
      ⟨isHostName_ne hname hu (by decide), isHostName_ne hname hu (by decide), isHostName_ne hname hu (by decide),
        isHostName_ne hname hu (by decide), isHostName_ne hname hu (by decide)⟩
    have hauthority : text.takeWhile (fun u => ¬ isAuthorityEnd u) = text := by
      refine List.takeWhile_eq_self_iff.mpr fun u hu => ?_
      obtain ⟨h₁, h₂, h₃, h₄, -⟩ := hunits u hu
      simp [isAuthorityEnd, isSlash, h₁, h₂, h₃, h₄]
    have hhost : text.takeWhile (fun u => u ≠ 58) = text := by
      refine List.takeWhile_eq_self_iff.mpr fun u hu => ?_
      simp [(hunits u hu).2.2.2.2]
    have hcolon : ∀ scheme rest : JsString, text = scheme ++ js "://" ++ rest → False := by
      rintro scheme rest rfl
      exact (hunits 58 (by simp [js, utf16])).2.2.2.2 rfl
    rw [splitScheme_hostName hname, if_neg, if_pos hname]
    · simp only [hauthority, hhost, hname, List.drop_eq_nil_of_le (Nat.le_succ _), List.all_nil, Bool.true_and, if_true]
    · rw [Bool.or_eq_true, List.isPrefixOf_iff_prefix, List.isPrefixOf_iff_prefix]
      rintro (⟨rest, heq⟩ | ⟨rest, heq⟩)
      · exact hcolon (js "http") rest heq.symm
      · exact hcolon (js "https") rest heq.symm

/-- And any other one is not read. -/
theorem hostLocator_not_plain (hplain : ¬ Plain tables value) : hostLocator tables value = none := by
  rw [hostLocator]
  rw [Plain, not_or, not_or] at hplain
  obtain ⟨hhttp, hhttps, hname⟩ := hplain
  rw [if_neg, if_neg hname]
  rw [Bool.or_eq_true, List.isPrefixOf_iff_prefix, List.isPrefixOf_iff_prefix]
  exact fun h => h.elim hhttp hhttps

/-- What the comparison with a wildcard host finds. -/
theorem below_iff {host excluded : JsString} :
    (host ≠ [] && (js "*.").isPrefixOf excluded && (excluded.drop 1).isSuffixOf host && host ≠ excluded.drop 2) = true ↔
      Below host excluded := by
  simp only [Bool.and_eq_true, decide_eq_true_eq, List.isPrefixOf_iff_prefix, List.isSuffixOf_iff_suffix]
  constructor
  · rintro ⟨⟨⟨-, suffix, rfl⟩, hsuffix⟩, -⟩
    exact ⟨suffix, rfl, hsuffix⟩
  · rintro ⟨suffix, rfl, hsuffix⟩
    refine ⟨⟨⟨?_, suffix, rfl⟩, hsuffix⟩, ?_⟩
    · rintro rfl
      have hlen := hsuffix.length_le
      simp [js, utf16] at hlen
    · rintro heq
      have hlen := hsuffix.length_le
      have hstar : (js "*.").length = 2 := by decide
      have hdot : (js ".").length = 1 := by decide
      rw [heq, List.length_drop, List.length_append, List.length_append, hstar, hdot] at hlen
      omega

end Hosts

/-! ## What the guard finds -/

theorem explicitExclusionFor_isSome {tables : TextTables} {rows : List ResourceRow} {workspaceId value : JsString} :
    (explicitExclusionFor tables rows workspaceId value).isSome ↔
      ∃ row ∈ exclusions rows workspaceId, normalizeLocator tables value = normalizeLocator tables row.locator ∨
        Plain tables value ∧ Plain tables row.locator ∧ ∃ host excluded, namedHost tables value = some host ∧
          namedHost tables row.locator = some excluded ∧ Below host excluded := by
  rw [explicitExclusionFor, List.find?_isSome]
  refine exists_congr fun row => and_congr_right fun _ => ?_
  rw [Bool.or_eq_true, decide_eq_true_eq, eq_comm]
  refine or_congr_right ?_
  by_cases hvalue : Plain tables value
  · by_cases hrow : Plain tables row.locator
    · rw [hostLocator_plain hvalue, hostLocator_plain hrow]
      cases namedHost tables value with
      | none => exact ⟨nofun, fun h => by obtain ⟨-, -, host, excluded, hnone, -⟩ := h; cases hnone⟩
      | some host =>
        cases namedHost tables row.locator with
        | none => exact ⟨nofun, fun h => by obtain ⟨-, -, host, excluded, -, hnone, -⟩ := h; cases hnone⟩
        | some excluded =>
          rw [below_iff]
          constructor
          · exact fun h => ⟨hvalue, hrow, host, excluded, rfl, rfl, h⟩
          · rintro ⟨-, -, host', excluded', heq, heq', hbelow⟩
            rwa [Option.some.inj heq, Option.some.inj heq']
    · rw [hostLocator_not_plain hrow]
      constructor
      · intro h
        split at h
        · next hnone => cases hnone
        · cases h
      · exact fun h => absurd h.2.1 hrow
  · rw [hostLocator_not_plain hvalue]
    exact ⟨nofun, fun h => absurd h.1 hvalue⟩

/-- An excluded resource is found exactly where its locator is an excluded one, or where it lies below an excluded
wildcard host and both are plainly spelled. -/
theorem explicitExclusionFor_iff (tables : TextTables) (rows : List ResourceRow) (workspaceId value : JsString) :
    ((∃ row ∈ exclusions rows workspaceId, Denotes tables row value) →
        (explicitExclusionFor tables rows workspaceId value).isSome) ↔
      ((∃ row ∈ exclusions rows workspaceId, Denotes tables row value) →
        ∃ row ∈ exclusions rows workspaceId, normalizeLocator tables value = normalizeLocator tables row.locator ∨
          Plain tables value ∧ Plain tables row.locator ∧ ∃ host excluded, namedHost tables value = some host ∧
            namedHost tables row.locator = some excluded ∧ Below host excluded) := by
  rw [explicitExclusionFor_isSome]

def asciiTables : TextTables := ⟨lowerAscii, lowerAscii, fun _ => none, fun _ => none⟩

/-- A URL of an excluded host is not found. -/
theorem explicitExclusionFor_misses :
    Denotes asciiTables ⟨js "w", js "Login", js "login.example.com", true, some .outOfScope⟩
        (js "https://login.example.com/admin") ∧
      explicitExclusionFor asciiTables [⟨js "w", js "Login", js "login.example.com", true, some .outOfScope⟩] (js "w")
        (js "https://login.example.com/admin") = none := by
  refine ⟨.inr ⟨js "login.example.com", js "login.example.com", ?_, ?_, .inl rfl⟩, ?_⟩ <;> decide +kernel

end Beale.Resources
