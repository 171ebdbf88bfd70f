import Beale.Library.Url

/-!
# Addresses of source repositories

`normalizeSourceRepositoryUrl` reads the address of a repository on a known host and writes it in one form.

- `withProtocol`: the URL that a text stands for, from the forms of SSH too.
-/

namespace Beale.Sources

open Beale.Library

def isTrailingPunctuation (u : UInt16) : Bool := (js "),.;").contains u

/-- The host and the path of `git@host:path`, perhaps with `ssh://` before it. -/
def sshParts (text : JsString) : Option (JsString × JsString) :=
  let rest := if js "ssh://" = lowerAscii (text.take 6) then text.drop 6 else text
  if js "git@" = lowerAscii (rest.take 4) then
    let host := (rest.drop 4).takeWhile fun u => u ≠ 58 ∧ u ≠ 47
    let path := (rest.drop 4).drop (host.length + 1)
    if host ≠ [] ∧ path ≠ [] ∧ path.all (fun u => u ≠ 63 && u ≠ 35) then some (host, path) else none
  else none

def withProtocol (text : JsString) : JsString :=
  match sshParts text with
  | some (host, path) => js "https://" ++ host ++ js "/" ++ path
  | none =>
    if js "http://" = lowerAscii (text.take 7) ∨ js "https://" = lowerAscii (text.take 8) then text
    else js "https://" ++ text

def isGoogleSource (host : JsString) : Bool := (js ".googlesource.com").isSuffixOf host

def isRepositoryHost (host : JsString) : Bool :=
  host = js "github.com" || host = js "gitlab.com" || isGoogleSource host

def isSafeUnit (u : UInt16) : Bool :=
  65 ≤ u && u ≤ 90 || 97 ≤ u && u ≤ 122 || 48 ≤ u && u ≤ 57 || (js "_.-").contains u

def safeRepositoryPathSegment (segment : JsString) : Bool := segment ≠ [] && segment.all isSafeUnit

def endsWithGit (segment : JsString) : Bool := js ".git" = lowerAscii (segment.rtake 4)

def dropGit (segment : JsString) : JsString := if endsWithGit segment then segment.rdrop 4 else segment

/-- The segments up to a `-` or a `+`, on GitHub two of them. -/
def keptSegments (host : JsString) (segments : List JsString) : List JsString :=
  let kept := segments.takeWhile fun segment => segment ≠ js "-" ∧ segment ≠ js "+"
  if host = js "github.com" then kept.take 2 else kept

def minimumPathSegments (host : JsString) : Nat := if isGoogleSource host then 1 else 2

/-- The segments with the last one without `.git`. -/
def namedSegments (segments : List JsString) : List JsString :=
  segments.dropLast ++ [dropGit (segments.getLast?.getD [])]

def repositoryUrl (host : JsString) (segments : List JsString) : JsString :=
  js "https://" ++ host ++ js "/" ++ joinWith (js "/") segments

def nameRepository (host : JsString) (segments : List JsString) : Option (List JsString) :=
  let kept := keptSegments host segments
  if minimumPathSegments host ≤ kept.length ∧ (namedSegments kept).all safeRepositoryPathSegment then
    some (namedSegments kept)
  else none

section Tables

variable (tables : HostTables)

/-- The host, and the segments of the path that are not empty: its `pathname`, split at the slashes. -/
def repositoryPath (value : JsString) : Option (JsString × List JsString) := do
  let trimmed := (trim value).rdropWhile isTrailingPunctuation
  guard (trimmed ≠ [])
  let parsed ← parseHttpUrl tables (withProtocol trimmed)
  let host := lowerAscii parsed.hostname
  guard (parsed.https = true ∧ isRepositoryHost host = true)
  return (host, parsed.segments.filter (· ≠ []))

/-- The host, and the segments that name a repository. -/
def repositoryParts (value : JsString) : Option (JsString × List JsString) := do
  let (host, segments) ← repositoryPath tables value
  let named ← nameRepository host segments
  return (host, named)

def normalizeSourceRepositoryUrl (value : JsString) : Option JsString :=
  (repositoryParts tables value).map fun (host, segments) => repositoryUrl host segments

end Tables

/-- A name from which a second pass takes nothing. -/
def StableName (name : JsString) : Prop :=
  name ≠ js "-" ∧ name.getLast? ≠ some 46 ∧ endsWithGit name = false

instance (name : JsString) : Decidable (StableName name) := inferInstanceAs (Decidable (_ ∧ _ ∧ _))

/-! ## Segments -/

variable {u : UInt16}

theorem isSafeUnit_path (h : isSafeUnit u = true) : isPathUnit u = true ∧ u ≠ 37 ∧ isWhitespace u = false := by
  have hall : ∀ n : Fin 128, isSafeUnit (UInt16.ofNat n.1) = true →
      isPathUnit (UInt16.ofNat n.1) = true ∧ UInt16.ofNat n.1 ≠ 37 ∧ isWhitespace (UInt16.ofNat n.1) = false := by
    decide +kernel
  have hlt : u.toNat < 128 := by
    simp only [isSafeUnit, Bool.or_eq_true, Bool.and_eq_true, decide_eq_true_eq, UInt16.le_iff_toNat_le] at h
    simp [js, utf16] at h
    rcases h with ((h | h) | h) | rfl | rfl | rfl <;> first | omega | decide
  have hu := hall ⟨u.toNat, hlt⟩
  rw [UInt16.ofNat_toNat] at hu
  exact hu h

theorem dropGit_length_le (segment : JsString) : (dropGit segment).length ≤ segment.length := by
  rw [dropGit]
  split
  · exact (List.take_prefix _ _).length_le
  · exact Nat.le_refl _

theorem keptSegments_isPrefix (host : JsString) (segments : List JsString) : keptSegments host segments <+: segments := by
  rw [keptSegments]
  split
  · exact (List.take_prefix _ _).trans (List.takeWhile_prefix _)
  · exact List.takeWhile_prefix _

variable {segments : List JsString}

theorem namedSegments_length (hne : segments ≠ []) :
    (namedSegments segments).length = segments.length := by
  rw [namedSegments, List.length_append, List.length_dropLast, List.length_singleton]
  have hpos := List.length_pos_iff.mpr hne
  omega

variable {host segment name : JsString}

/-- The segments of an address are told apart by its slashes. -/
theorem repositoryUrl_inj {segments' : List JsString} (hne : segments ≠ []) (hne' : segments' ≠ [])
    (hslash : ∀ segment ∈ segments, ∀ u ∈ segment, u ≠ 47) (hslash' : ∀ segment ∈ segments', ∀ u ∈ segment, u ≠ 47)
    (h : repositoryUrl host segments = repositoryUrl host segments') : segments = segments' := by
  rw [repositoryUrl, repositoryUrl] at h
  have hjoin := List.append_cancel_left h
  have hsplit : ∀ {parts : List JsString}, parts ≠ [] → (∀ part ∈ parts, ∀ u ∈ part, u ≠ 47) →
      (joinWith (js "/") parts).splitOnP (· == 47) = parts := fun hparts hunits =>
    splitOnP_joinWith rfl hparts fun part hpart u hu => by simpa using hunits part hpart u hu
  rw [← hsplit hne hslash, hjoin, hsplit hne' hslash']

/-! ## Addresses in normal form -/

/-- A host and the segments of a path that make an address in normal form. -/
structure Named (tables : HostTables) (host : JsString) (segments : List JsString) : Prop where
  parsed : parseHost tables host = some host
  nonempty : host ≠ []
  units : ∀ u ∈ host, isForbiddenDomainUnit u = false
  lower : lowerAscii host = host
  known : isRepositoryHost host = true
  minimum : minimumPathSegments host ≤ segments.length
  github : host = js "github.com" → segments.length ≤ 2
  safe : ∀ segment ∈ segments, safeRepositoryPathSegment segment = true
  kept : ∀ segment ∈ segments.dropLast, segment ≠ js "-" ∧ segment ≠ js "+"
  dots : ∀ segment ∈ segments.dropLast, isSingleDot segment = false ∧ isDoubleDot segment = false

theorem isRepositoryHost_getLast? (h : isRepositoryHost host = true) : host.getLast? = some 109 := by
  rw [isRepositoryHost, Bool.or_eq_true, Bool.or_eq_true, decide_eq_true_eq, decide_eq_true_eq] at h
  rcases h with (rfl | rfl) | hgoogle
  · rfl
  · rfl
  · obtain ⟨start, rfl⟩ := List.isSuffixOf_iff_suffix.mp hgoogle
    rw [List.getLast?_append]
    rfl

theorem minimumPathSegments_pos (host : JsString) : 0 < minimumPathSegments host := by
  rw [minimumPathSegments]
  split <;> decide

theorem safe_units (h : safeRepositoryPathSegment segment = true) (hu : u ∈ segment) :
    isPathUnit u = true ∧ u ≠ 37 ∧ isWhitespace u = false := by
  rw [safeRepositoryPathSegment, Bool.and_eq_true] at h
  exact isSafeUnit_path (List.all_eq_true.mp h.2 u hu)

theorem not_dot_of_parsed {pieces : List JsString} (h : segment ∈ resolveSegments [] pieces)
    (hsafe : safeRepositoryPathSegment segment = true) : isSingleDot segment = false ∧ isDoubleDot segment = false := by
  rcases mem_resolveSegments h with hnone | rfl | ⟨source, hsingle, hdouble, rfl⟩
  · cases hnone
  · exact ⟨rfl, rfl⟩
  · have hsrc := encodeSegment_eq_self fun hpercent => (safe_units hsafe hpercent).2.1 rfl
    rw [hsrc]
    exact ⟨hsingle, hdouble⟩

theorem namedSegments_dropLast (segments : List JsString) : (namedSegments segments).dropLast = segments.dropLast := by
  rw [namedSegments, List.dropLast_concat]

theorem mem_keptSegments (h : segment ∈ keptSegments host segments) :
    segment ≠ js "-" ∧ segment ≠ js "+" := by
  have htake : segment ∈ segments.takeWhile fun segment => segment ≠ js "-" ∧ segment ≠ js "+" := by
    rw [keptSegments] at h
    split at h
    · exact List.mem_of_mem_take h
    · exact h
  simpa using List.mem_takeWhile_imp htake

theorem lowerUnit_ne_of_digit (h : lowerUnit u = 109) : isDigitUnit u = false ∧ u ≠ 46 ∧ u ≠ 93 := by
  refine ⟨Bool.eq_false_iff.mpr fun hdigit => ?_, ?_, ?_⟩
  · rw [isDigitUnit, Bool.and_eq_true, decide_eq_true_eq, decide_eq_true_eq, UInt16.le_iff_toNat_le,
      UInt16.le_iff_toNat_le] at hdigit
    rw [lowerUnit, if_neg] at h
    · rw [h] at hdigit
      exact absurd hdigit.2 (by decide)
    · rw [Bool.and_eq_true, decide_eq_true_eq, decide_eq_true_eq, UInt16.le_iff_toNat_le, UInt16.le_iff_toNat_le]
      simp at hdigit ⊢
      omega
  · rintro rfl
    exact absurd h (by decide)
  · rintro rfl
    exact absurd h (by decide)

variable {tables : HostTables}

theorem parseHost_known (lawful : tables.Lawful) {text hostname : JsString}
    (h : parseHost tables text = some hostname) (hknown : isRepositoryHost (lowerAscii hostname) = true) :
    hostname ≠ [] ∧ (∀ u ∈ hostname, isForbiddenDomainUnit u = false) ∧ lowerAscii hostname = hostname ∧
      parseHost tables hostname = some hostname := by
  have hlast := isRepositoryHost_getLast? hknown
  rw [lowerAscii, List.getLast?_map, Option.map_eq_some_iff] at hlast
  obtain ⟨u, hu, hlower⟩ := hlast
  obtain ⟨hdigit, hdot, hclose⟩ := lowerUnit_ne_of_digit hlower
  refine parseHost_again lawful h ⟨u, List.mem_of_getLast? hu, hdigit, hdot⟩ fun hbracket => ?_
  rw [hu] at hbracket
  exact hclose (Option.some.inj hbracket)

theorem repositoryParts_named (lawful : tables.Lawful) {value : JsString}
    (h : repositoryParts tables value = some (host, segments)) : Named tables host segments := by
  simp only [repositoryParts, optionBind_some, optionPure_some, Prod.mk.injEq] at h
  obtain ⟨⟨host, all⟩, hpath, named, hname, rfl, rfl⟩ := h
  simp only [repositoryPath, optionBind_some, Option.guard_eq_some', optionPure_some, Prod.mk.injEq] at hpath
  obtain ⟨-, -, parsed, hparsed, -, ⟨-, hknown⟩, rfl, rfl⟩ := hpath
  obtain ⟨⟨text, htext⟩, pieces, hpieces⟩ := parseHttpUrl_some hparsed
  obtain ⟨hhost, hunits, hlower, hagain⟩ := parseHost_known lawful htext hknown
  simp only [hlower] at hname hknown ⊢
  set segments := parsed.segments.filter (· ≠ []) with hsegments
  simp only [nameRepository] at hname
  split at hname
  swap
  · cases hname
  next hmet =>
  cases hname
  obtain ⟨hminimum, hsafe⟩ := hmet
  have hne : keptSegments parsed.hostname segments ≠ [] :=
    List.length_pos_iff.mp (Nat.lt_of_lt_of_le (minimumPathSegments_pos _) hminimum)
  have hlen := namedSegments_length hne
  refine ⟨hagain, hhost, hunits, hlower, hknown, hlen ▸ hminimum, fun hgithub => ?_, List.all_eq_true.mp hsafe,
    fun segment hseg => ?_, fun segment hseg => ?_⟩
  · rw [hlen, keptSegments, if_pos hgithub]
    exact List.length_take_le _ _
  · rw [namedSegments_dropLast] at hseg
    exact mem_keptSegments (List.dropLast_subset _ hseg)
  · have hall := List.all_eq_true.mp hsafe segment (List.dropLast_subset _ hseg)
    rw [namedSegments_dropLast] at hseg
    have hmem := (keptSegments_isPrefix _ _).subset (List.dropLast_subset _ hseg)
    rw [hsegments, hpieces] at hmem
    exact not_dot_of_parsed (List.mem_filter.mp hmem).1 hall

theorem Named.nonempty_segments (named : Named tables host segments) : segments ≠ [] :=
  List.length_pos_iff.mp (Nat.lt_of_lt_of_le (minimumPathSegments_pos host) named.minimum)

theorem Named.units_segments
    (named : Named tables host segments) : ∀ segment ∈ segments, ∀ u ∈ segment, isPathUnit u = true :=
  fun segment hseg _ hu => (safe_units (named.safe segment hseg) hu).1

theorem ne_slash_of_path (h : isPathUnit u = true) : u ≠ 47 := by
  rintro rfl
  exact absurd h (by decide)

/-! ## The second pass -/

theorem rdropWhile_append_stop {p : UInt16 → Bool} (hu : p u = false) (stem rest : JsString) :
    (stem ++ u :: rest).rdropWhile p = stem ++ u :: rest.rdropWhile p := by
  induction rest using List.reverseRecOn with
  | nil =>
    rw [List.rdropWhile_nil]
    exact List.rdropWhile_concat_neg _ _ _ (by rw [hu]; exact Bool.false_ne_true)
  | append_singleton rest v ih =>
    have hassoc : stem ++ u :: (rest ++ [v]) = (stem ++ u :: rest) ++ [v] := by simp
    rw [hassoc]
    by_cases hv : p v = true
    · rw [List.rdropWhile_concat_pos _ _ _ hv, List.rdropWhile_concat_pos _ _ _ hv, ih]
    · rw [List.rdropWhile_concat_neg _ _ _ hv, List.rdropWhile_concat_neg _ _ _ hv, hassoc]

/-- An address ends in a slash and the last segment. -/
theorem repositoryUrl_concat (host : JsString) (segments : List JsString) :
    ∃ stem, ∀ name, repositoryUrl host (segments ++ [name]) = stem ++ 47 :: name := by
  rcases List.eq_nil_or_concat segments with rfl | ⟨start, last, rfl⟩
  · exact ⟨js "https://" ++ host, fun name => by rw [repositoryUrl, List.nil_append, joinWith_singleton, List.append_assoc]; rfl⟩
  · refine ⟨js "https://" ++ host ++ js "/" ++ (start.flatMap (· ++ js "/") ++ last), fun name => ?_⟩
    rw [repositoryUrl, joinWith_concat, List.concat_eq_append, List.flatMap_append, List.flatMap_singleton]
    simp [js, utf16]

def bareName (name : JsString) : JsString := name.rdropWhile isTrailingPunctuation

theorem bareName_isPrefix (name : JsString) : bareName name <+: name := List.rdropWhile_prefix _ name

theorem isTrailingPunctuation_safe (h : isSafeUnit u = true) : isTrailingPunctuation u = decide (u = 46) := by
  have hcomma : u ≠ 44 := by rintro rfl; exact absurd h (by decide)
  have hclose : u ≠ 41 := by rintro rfl; exact absurd h (by decide)
  have hsemicolon : u ≠ 59 := by rintro rfl; exact absurd h (by decide)
  simp [isTrailingPunctuation, js, utf16, hcomma, hclose, hsemicolon]

theorem safe_isSafeUnit (h : safeRepositoryPathSegment segment = true) (hu : u ∈ segment) :
    isSafeUnit u = true := by
  rw [safeRepositoryPathSegment, Bool.and_eq_true] at h
  exact List.all_eq_true.mp h.2 u hu

theorem bareName_eq_self_iff (h : safeRepositoryPathSegment name = true) :
    bareName name = name ↔ name.getLast? ≠ some 46 := by
  rw [bareName, List.rdropWhile_eq_self_iff]
  constructor
  · intro hstop hlast
    obtain ⟨start, rfl⟩ := List.getLast?_eq_some_iff.mp hlast
    have hdot := hstop (List.append_ne_nil_of_right_ne_nil _ (List.cons_ne_nil _ _))
    rw [List.getLast_concat] at hdot
    exact hdot rfl
  · intro hlast hne hdot
    rw [isTrailingPunctuation_safe (safe_isSafeUnit h (List.getLast_mem hne)), decide_eq_true_eq] at hdot
    rw [List.getLast?_eq_some_getLast hne, hdot] at hlast
    exact hlast rfl

theorem bareName_last (h : (bareName name).getLast? = some 46) : False := by
  have hne : bareName name ≠ [] := by
    intro hnil
    rw [hnil] at h
    cases h
  have hlast := List.rdropWhile_last_not isTrailingPunctuation name hne
  rw [List.getLast?_eq_some_getLast hne] at h
  exact hlast (by rw [show (List.rdropWhile isTrailingPunctuation name).getLast hne = 46 from Option.some.inj h]; rfl)


/-- What a second pass reads of an address in normal form. -/
theorem repositoryPath_again (named : Named tables host (segments ++ [name])) :
    repositoryPath tables (repositoryUrl host (segments ++ [name])) =
      some (host, (segments ++ [bareName name]).filter (· ≠ [])) := by
  have hsafe : safeRepositoryPathSegment name = true := named.safe name (List.mem_append_right _ List.mem_cons_self)
  have hunits : ∀ segment ∈ segments ++ [bareName name], ∀ u ∈ segment, isPathUnit u = true ∧ u ≠ 37 ∧ isWhitespace u = false := by
    intro segment hseg u hu
    rcases List.mem_append.mp hseg with hseg | hseg
    · exact safe_units (named.safe segment (List.mem_append_left _ hseg)) hu
    · rw [List.mem_singleton.mp hseg] at hu
      exact safe_units hsafe ((bareName_isPrefix name).subset hu)
  have hdots : ∀ segment ∈ segments ++ [bareName name], isSingleDot segment = false ∧ isDoubleDot segment = false := by
    intro segment hseg
    rcases List.mem_append.mp hseg with hseg | hseg
    · exact named.dots segment (by rw [List.dropLast_concat]; exact hseg)
    · obtain rfl := List.mem_singleton.mp hseg
      exact not_dot_of_units (fun u hu => (hunits _ (List.mem_append_right _ List.mem_cons_self) u hu).2.1)
        fun hlast => bareName_last hlast
  obtain ⟨stem, hstem⟩ := repositoryUrl_concat host segments
  have htrim : trim (repositoryUrl host (segments ++ [name])) = repositoryUrl host (segments ++ [name]) := by
    have hname : name.rdropWhile isWhitespace = name := List.rdropWhile_eq_self_iff.mpr fun hne => by
      rw [(safe_units hsafe (List.getLast_mem hne)).2.2]
      exact Bool.false_ne_true
    refine trim_eq_self rfl ?_
    rw [trimEnd, hstem, rdropWhile_append_stop rfl, hname]
  have hbare : (repositoryUrl host (segments ++ [name])).rdropWhile isTrailingPunctuation =
      repositoryUrl host (segments ++ [bareName name]) := by
    rw [hstem, hstem, rdropWhile_append_stop rfl, bareName]
  have hprotocol : withProtocol (repositoryUrl host (segments ++ [bareName name])) =
      repositoryUrl host (segments ++ [bareName name]) := rfl
  have hparsed : parseHttpUrl tables (repositoryUrl host (segments ++ [bareName name])) =
      some ⟨true, host, none, segments ++ [bareName name]⟩ := by
    have hcanonical := parseHttpUrl_canonical named.parsed named.nonempty named.units
      (List.append_ne_nil_of_right_ne_nil segments (List.cons_ne_nil (bareName name) []))
      fun segment hseg u hu => (hunits segment hseg u hu).1
    rw [resolveSegments_plain [] (fun segment hseg u hu => (hunits segment hseg u hu).1) hdots,
      List.nil_append] at hcanonical
    exact hcanonical
  have hne : repositoryUrl host (segments ++ [bareName name]) ≠ [] := List.cons_ne_nil _ _
  rw [repositoryPath, htrim, hbare, hprotocol]
  simp only [guard, if_pos hne, hparsed, named.lower, named.known, Option.bind_eq_bind, Option.pure_def,
    Option.bind_some, and_self, if_true]

theorem keptSegments_all (hkept : ∀ segment ∈ segments, segment ≠ js "-" ∧ segment ≠ js "+")
    (hgithub : host = js "github.com" → segments.length ≤ 2) : keptSegments host segments = segments := by
  have htake : segments.takeWhile (fun segment => segment ≠ js "-" ∧ segment ≠ js "+") = segments :=
    List.takeWhile_eq_self_iff.mpr fun segment hseg => decide_eq_true (hkept segment hseg)
  rw [keptSegments, htake]
  split
  · next h => exact List.take_of_length_le (hgithub h)
  · rfl

theorem dropGit_eq_self_iff : dropGit segment = segment ↔ endsWithGit segment = false := by
  constructor
  · intro h
    refine Bool.eq_false_iff.mpr fun hgit => ?_
    rw [dropGit, if_pos hgit] at h
    have hlen : 4 ≤ segment.length := by
      have hfour := congrArg List.length (of_decide_eq_true hgit)
      rw [lowerAscii, List.length_map, List.rtake_eq_reverse_take_reverse, List.length_reverse, List.length_take,
        List.length_reverse] at hfour
      have hjs : (js ".git").length = 4 := rfl
      omega
    have hdrop := congrArg List.length h
    rw [List.rdrop, List.length_take] at hdrop
    omega
  · intro h
    rw [dropGit, if_neg (by rw [h]; exact Bool.false_ne_true)]

/-- When the segments of a second pass are the ones of the first. -/
theorem nameRepository_again_iff (named : Named tables host (segments ++ [name])) :
    nameRepository host ((segments ++ [bareName name]).filter (· ≠ [])) = some (segments ++ [name]) ↔ StableName name := by
  have hsafe : safeRepositoryPathSegment name = true := named.safe name (List.mem_append_right _ List.mem_cons_self)
  constructor
  · intro h
    simp only [nameRepository] at h
    split at h
    swap
    · cases h
    next hmet =>
    set all := (segments ++ [bareName name]).filter (· ≠ []) with hall
    have hkept : keptSegments host all ≠ [] :=
      List.length_pos_iff.mp (Nat.lt_of_lt_of_le (minimumPathSegments_pos host) hmet.1)
    have hsegments : namedSegments (keptSegments host all) = segments ++ [name] := Option.some.inj h
    -- nothing is lost on the way, since the lengths agree
    have hlen : (keptSegments host all).length = (segments ++ [bareName name]).length := by
      rw [← namedSegments_length hkept, hsegments, List.length_append, List.length_append]
      rfl
    have hfilter : all = segments ++ [bareName name] :=
      List.filter_sublist.eq_of_length_le (hlen ▸ (keptSegments_isPrefix host all).length_le)
    have hstart : keptSegments host all = segments ++ [bareName name] := by
      rw [← hfilter]
      exact (keptSegments_isPrefix host all).eq_of_length_le (by rw [hlen, hfilter])
    rw [hstart, namedSegments, List.dropLast_concat, List.getLast?_concat, Option.getD_some] at hsegments
    have hname : dropGit (bareName name) = name := List.singleton_inj.mp (List.append_cancel_left hsegments)
    have hbare : bareName name = name :=
      (bareName_isPrefix name).eq_of_length_le (by
        have hle := dropGit_length_le (bareName name)
        rw [hname] at hle
        exact hle)
    rw [hbare] at hname hstart
    have hmem : name ∈ keptSegments host all := by
      rw [hstart]
      exact List.mem_append_right _ List.mem_cons_self
    exact ⟨(mem_keptSegments hmem).1, (bareName_eq_self_iff hsafe).mp hbare, dropGit_eq_self_iff.mp hname⟩
  · rintro ⟨hstop, hlast, hgit⟩
    have hall : (segments ++ [bareName name]).filter (· ≠ []) = segments ++ [name] := by
      rw [(bareName_eq_self_iff hsafe).mpr hlast]
      refine List.filter_eq_self.mpr fun segment hseg => ?_
      have hsegmentSafe := named.safe segment hseg
      rw [safeRepositoryPathSegment, Bool.and_eq_true] at hsegmentSafe
      exact hsegmentSafe.1
    have hkept : keptSegments host (segments ++ [name]) = segments ++ [name] := by
      refine keptSegments_all (fun segment hseg => ?_) named.github
      rcases List.mem_append.mp hseg with hseg | hseg
      · exact named.kept segment (by rw [List.dropLast_concat]; exact hseg)
      · obtain rfl := List.mem_singleton.mp hseg
        refine ⟨hstop, ?_⟩
        rintro rfl
        exact absurd hsafe (by decide)
    have hnamed : namedSegments (segments ++ [name]) = segments ++ [name] := by
      rw [namedSegments, List.dropLast_concat, List.getLast?_concat, Option.getD_some, dropGit_eq_self_iff.mpr hgit]
    rw [hall]
    simp only [nameRepository, hkept, hnamed]
    exact if_pos ⟨named.minimum, List.all_eq_true.mpr named.safe⟩

theorem nameRepository_plain {all : List JsString} (h : nameRepository host all = some segments) :
    segments ≠ [] ∧ ∀ segment ∈ segments, ∀ u ∈ segment, u ≠ 47 := by
  simp only [nameRepository] at h
  split at h
  swap
  · cases h
  next hmet =>
  cases h
  refine ⟨List.append_ne_nil_of_right_ne_nil _ (List.cons_ne_nil _ _), fun segment hseg u hu => ?_⟩
  exact ne_slash_of_path (safe_units (List.all_eq_true.mp hmet.2 segment hseg) hu).1

/-- The name of the repository is one that a second pass leaves. -/
def StableSource (tables : HostTables) (value : JsString) : Prop :=
  ∀ host segments, repositoryParts tables value = some (host, segments) → ∀ name ∈ segments.getLast?, StableName name

/-- A second pass leaves an address as it is exactly where it takes nothing from the name. -/
theorem normalize_idem_iff (lawful : tables.Lawful) (value : JsString) :
    (normalizeSourceRepositoryUrl tables value).bind (normalizeSourceRepositoryUrl tables) =
      normalizeSourceRepositoryUrl tables value ↔ StableSource tables value := by
  rw [normalizeSourceRepositoryUrl, StableSource]
  cases hparts : repositoryParts tables value with
  | none => exact ⟨fun _ _ _ h => (nomatch h), fun _ => rfl⟩
  | some parts =>
    obtain ⟨host, segments⟩ := parts
    have named := repositoryParts_named lawful hparts
    rcases List.eq_nil_or_concat segments with rfl | ⟨start, name, hconcat⟩
    · exact absurd rfl named.nonempty_segments
    · rw [List.concat_eq_append] at hconcat
      subst hconcat
      have hagain : normalizeSourceRepositoryUrl tables (repositoryUrl host (start ++ [name])) =
          (nameRepository host ((start ++ [bareName name]).filter (· ≠ []))).map (repositoryUrl host) := by
        simp only [normalizeSourceRepositoryUrl, repositoryParts, repositoryPath_again named, Option.bind_eq_bind,
          Option.bind_some, Option.pure_def]
        cases nameRepository host ((start ++ [bareName name]).filter (· ≠ [])) <;> rfl
      have hstable : (nameRepository host ((start ++ [bareName name]).filter (· ≠ []))).map (repositoryUrl host) =
          some (repositoryUrl host (start ++ [name])) ↔ StableName name := by
        rw [← nameRepository_again_iff named, Option.map_eq_some_iff]
        constructor
        · rintro ⟨segments, hsegments, hurl⟩
          obtain ⟨hne, hslash⟩ := nameRepository_plain hsegments
          rw [hsegments, repositoryUrl_inj hne named.nonempty_segments hslash
            (fun segment hseg u hu => ne_slash_of_path (named.units_segments segment hseg u hu)) hurl]
        · exact fun h => ⟨_, h, rfl⟩
      simp only [Option.map_some, Option.bind_some]
      rw [hagain, hstable]
      constructor
      · rintro h _ _ heq name' hlast
        obtain ⟨-, rfl⟩ := Prod.mk.inj (Option.some.inj heq)
        rw [List.getLast?_concat] at hlast
        cases hlast
        exact h
      · exact fun h => h host _ rfl name (by rw [List.getLast?_concat]; rfl)

end Beale.Sources
