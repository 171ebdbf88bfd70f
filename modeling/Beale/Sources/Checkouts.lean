import Beale.Library.JsMap
import Beale.Library.Run
import Beale.Sources.Repository

/-!
# Checkouts of source repositories

A repository is checked out below a store directory, under a name made of its address and a key made of the ref.

- `checkoutIdentity_iff`: when checkouts and addresses are told apart.
-/

namespace Beale.Sources

open Beale.Library

structure CheckoutPlatform where
  hosts : HostTables
  /-- SHA-256 of a text, as hexadecimal digits. -/
  sha256Hex : JsString → JsString

structure CheckoutPlatform.Lawful (platform : CheckoutPlatform) : Prop where
  hosts : platform.hosts.Lawful
  digest : ∀ text, (platform.sha256Hex text).length = 64

/-- `replace(/[^A-Za-z0-9_.-]+/g, "_")`, after a unit that is replaced (`inRun`) or not. -/
def underscoreUnsafe : Bool → JsString → JsString
  | _, [] => []
  | inRun, u :: rest =>
    if isSafeUnit u then u :: underscoreUnsafe false rest
    else if inRun then underscoreUnsafe true rest else 95 :: underscoreUnsafe true rest

/-- `replace(":", "_")`: the first colon only. -/
def underscoreColon : JsString → JsString
  | [] => []
  | u :: rest => if u = 58 then 95 :: rest else u :: underscoreColon rest

def flatName (host : JsString) (segments : List JsString) : JsString :=
  underscoreUnsafe false (dropGit (joinWith (js "_") (host :: segments)))

def repositorySlug (tables : HostTables) (url : JsString) : Option JsString := do
  let parsed ← parseHttpUrl tables url
  return (flatName (underscoreColon parsed.host) (parsed.segments.filter (· ≠ []))).take 120

def refLabel (ref : JsString) : JsString :=
  let label := (((underscoreUnsafe false ref).dropWhile (· = 95)).rdropWhile (· = 95)).take 48
  if label = [] then js "ref" else label

section Platform

variable (platform : CheckoutPlatform)

def refDigest (ref : JsString) : JsString := (platform.sha256Hex ref).take 12

def repositoryCheckoutKey (ref : JsString) : JsString :=
  if ref = [] then js "default" else refLabel ref ++ js "-" ++ refDigest platform ref

/-- The path of a checkout in a store directory that is an absolute path; an address that is no URL throws. -/
def sourceRepositoryCheckoutPath (root repositoryUrl ref : JsString) : Option JsString := do
  let slug ← repositorySlug platform.hosts repositoryUrl
  return (if root = js "/" then [] else root) ++ js "/" ++ slug ++ js "/" ++ repositoryCheckoutKey platform (trim ref)

/-! ## Materializing -/

/-- A call of `materializeGitRepositoryAsync`, at the point where it finds a checkout or publishes its clone: the address
before it was normalised, and whether Git fails. -/
structure Materialize where
  value : JsString
  ref : JsString
  failed : Bool

/-- What a path of the store was cloned from. -/
structure Origin where
  value : JsString
  ref : JsString
deriving DecidableEq

/-- The checkout that a call leads to: the one at its path, if there is one. -/
def checkoutAt (store : JsMap JsString Origin) (path : JsString) (call : Materialize) : Origin :=
  (store.get? path).getD ⟨call.value, call.ref⟩

/-- The path of the checkout that a call returns, and what it was cloned from. -/
def materialize (root : JsString) (store : JsMap JsString Origin) (call : Materialize) : Option (JsString × Origin) := do
  guard (call.failed = false)
  let url ← normalizeSourceRepositoryUrl platform.hosts call.value
  let path ← sourceRepositoryCheckoutPath platform root url call.ref
  return (path, checkoutAt store path call)

def step (root : JsString) (store : JsMap JsString Origin) (call : Materialize) : JsMap JsString Origin :=
  (materialize platform root store call).elim store fun (path, origin) => store.set path origin

end Platform

/-! ## Names and keys -/

/-- The segments of an address that is read back; a dot segment at its end is resolved. -/
def readSegments (segments : List JsString) : List JsString := (resolveSegments [] segments).filter (· ≠ [])

def checkoutName (host : JsString) (segments : List JsString) : JsString := (flatName host (readSegments segments)).take 120

theorem underscoreColon_eq_self {text : JsString} (h : ∀ u ∈ text, u ≠ 58) : underscoreColon text = text := by
  induction text with
  | nil => rfl
  | cons u text ih =>
    rw [underscoreColon, if_neg (h u List.mem_cons_self), ih fun v hv => h v (List.mem_cons_of_mem _ hv)]

theorem mem_underscoreUnsafe {inRun : Bool} {text : JsString} {u : UInt16} (h : u ∈ underscoreUnsafe inRun text) :
    isSafeUnit u = true := by
  fun_induction underscoreUnsafe inRun text with
  | case1 => cases h
  | case2 inRun v rest hsafe ih =>
    rcases List.mem_cons.mp h with rfl | h
    · exact hsafe
    · exact ih h
  | case3 v rest _ ih => exact ih h
  | case4 inRun v rest _ _ ih =>
    rcases List.mem_cons.mp h with rfl | h
    · decide
    · exact ih h

theorem checkoutName_units {host : JsString} {segments : List JsString} {u : UInt16} (h : u ∈ checkoutName host segments) :
    u ≠ 47 :=
  ne_slash_of_path (isSafeUnit_path (mem_underscoreUnsafe (List.mem_of_mem_take h))).1

theorem repositorySlug_named {tables : HostTables} {host : JsString} {segments : List JsString}
    (named : Named tables host segments) :
    repositorySlug tables (repositoryUrl host segments) = some (checkoutName host segments) := by
  have hparsed := parseHttpUrl_canonical named.parsed named.nonempty named.units named.nonempty_segments named.units_segments
  have hcolon : underscoreColon host = host :=
    underscoreColon_eq_self fun u hu => (hostUnit_of_not_forbidden (named.units u hu)).2.2.2.1
  simp only [repositorySlug, repositoryUrl, hparsed, Option.bind_eq_bind, Option.bind_some, Option.pure_def, HttpUrl.host,
    Option.elim_none, List.append_nil, hcolon]
  rfl

/-- The parts before and after the first slash. -/
theorem append_slash_inj {start start' rest rest' : JsString} (hstart : ∀ u ∈ start, u ≠ 47) (hstart' : ∀ u ∈ start', u ≠ 47)
    (h : start ++ 47 :: rest = start' ++ 47 :: rest') : start = start' ∧ rest = rest' := by
  have htake : ∀ {start rest : JsString}, (∀ u ∈ start, u ≠ 47) → (start ++ 47 :: rest).takeWhile (· ≠ 47) = start := by
    intro start rest hunits
    rw [List.takeWhile_append_of_pos fun u hu => decide_eq_true (hunits u hu), List.takeWhile_cons_of_neg (by decide),
      List.append_nil]
  have hsame : start = start' := by rw [← htake hstart, h, htake hstart']
  subst hsame
  exact ⟨rfl, (List.cons.inj (List.append_cancel_left h)).2⟩

section Keys

variable {platform : CheckoutPlatform}

def SameKey (platform : CheckoutPlatform) (ref ref' : JsString) : Prop :=
  ref = ref' ∨ ref ≠ [] ∧ ref' ≠ [] ∧ refLabel ref = refLabel ref' ∧ refDigest platform ref = refDigest platform ref'

theorem refDigest_length (lawful : platform.Lawful) (ref : JsString) : (refDigest platform ref).length = 12 := by
  rw [refDigest, List.length_take, lawful.digest]
  rfl

theorem key_ne_default {ref : JsString} (h : ref ≠ []) : repositoryCheckoutKey platform ref ≠ js "default" := by
  intro heq
  rw [repositoryCheckoutKey, if_neg h] at heq
  have hmem : (45 : UInt16) ∈ refLabel ref ++ js "-" ++ refDigest platform ref :=
    List.mem_append_left _ (List.mem_append_right _ List.mem_cons_self)
  rw [heq] at hmem
  exact absurd hmem (by decide)

theorem repositoryCheckoutKey_eq_iff (lawful : platform.Lawful) (ref ref' : JsString) :
    repositoryCheckoutKey platform ref = repositoryCheckoutKey platform ref' ↔ SameKey platform ref ref' := by
  constructor
  · intro h
    by_cases hnil : ref = []
    · by_cases hnil' : ref' = []
      · exact .inl (hnil.trans hnil'.symm)
      · rw [hnil] at h
        exact absurd h.symm (key_ne_default hnil')
    · by_cases hnil' : ref' = []
      · rw [hnil'] at h
        exact absurd h (key_ne_default hnil)
      · rw [repositoryCheckoutKey, repositoryCheckoutKey, if_neg hnil, if_neg hnil'] at h
        obtain ⟨hlabel, hdigest⟩ := List.append_inj' h (by rw [refDigest_length lawful, refDigest_length lawful])
        exact .inr ⟨hnil, hnil', List.append_cancel_right hlabel, hdigest⟩
  · rintro (rfl | ⟨hnil, hnil', hlabel, hdigest⟩)
    · rfl
    · rw [repositoryCheckoutKey, repositoryCheckoutKey, if_neg hnil, if_neg hnil', hlabel, hdigest]

end Keys

/-! ## Paths -/

/-- The two repositories have the same name when their segments are joined, and the two refs have the same key. -/
def SharesPath (platform : CheckoutPlatform) (value ref value' ref' : JsString) : Prop :=
  ∃ host segments host' segments', repositoryParts platform.hosts value = some (host, segments) ∧
    repositoryParts platform.hosts value' = some (host', segments') ∧
      checkoutName host segments = checkoutName host' segments' ∧ SameKey platform (trim ref) (trim ref')

section Paths

variable {platform : CheckoutPlatform}

theorem normalize_parts {tables : HostTables} {value url : JsString} (h : normalizeSourceRepositoryUrl tables value = some url) :
    ∃ host segments, repositoryParts tables value = some (host, segments) ∧ url = repositoryUrl host segments := by
  obtain ⟨⟨host, segments⟩, hparts, rfl⟩ := Option.map_eq_some_iff.mp h
  exact ⟨host, segments, hparts, rfl⟩

theorem checkoutPath_named {root host ref : JsString} {segments : List JsString} (named : Named platform.hosts host segments) :
    sourceRepositoryCheckoutPath platform root (repositoryUrl host segments) ref =
      some ((if root = js "/" then [] else root) ++ js "/" ++ checkoutName host segments ++ js "/" ++
        repositoryCheckoutKey platform (trim ref)) := by
  simp only [sourceRepositoryCheckoutPath, repositorySlug_named named, Option.bind_eq_bind, Option.bind_some, Option.pure_def]

theorem checkoutPath_eq_iff (lawful : platform.Lawful) (root : JsString) {value value' url url' ref ref' : JsString}
    (h : normalizeSourceRepositoryUrl platform.hosts value = some url)
    (h' : normalizeSourceRepositoryUrl platform.hosts value' = some url') :
    sourceRepositoryCheckoutPath platform root url ref = sourceRepositoryCheckoutPath platform root url' ref' ↔
      SharesPath platform value ref value' ref' := by
  obtain ⟨host, segments, hparts, rfl⟩ := normalize_parts h
  obtain ⟨host', segments', hparts', rfl⟩ := normalize_parts h'
  rw [checkoutPath_named (repositoryParts_named lawful.hosts hparts),
    checkoutPath_named (repositoryParts_named lawful.hosts hparts'), Option.some.injEq]
  constructor
  · intro heq
    simp only [List.append_assoc] at heq
    obtain ⟨hname, hkey⟩ := append_slash_inj (fun _ => checkoutName_units) (fun _ => checkoutName_units)
      (List.append_cancel_left (List.append_cancel_left heq))
    exact ⟨host, segments, host', segments', hparts, hparts', hname, (repositoryCheckoutKey_eq_iff lawful _ _).mp hkey⟩
  · rintro ⟨_, _, _, _, heq, heq', hname, hkey⟩
    rw [hparts] at heq
    rw [hparts'] at heq'
    cases heq
    cases heq'
    rw [hname, (repositoryCheckoutKey_eq_iff lawful _ _).mpr hkey]

theorem SharesPath.normalized {value ref value' ref' : JsString} (h : SharesPath platform value ref value' ref') :
    ∃ url', normalizeSourceRepositoryUrl platform.hosts value' = some url' := by
  obtain ⟨-, -, host', segments', -, hparts', -⟩ := h
  exact ⟨repositoryUrl host' segments', by rw [normalizeSourceRepositoryUrl, hparts']; rfl⟩

end Paths

/-! ## Runs -/

section Runs

variable {platform : CheckoutPlatform} {root : JsString} {store : JsMap JsString Origin} {call : Materialize}

def ReturnsOwn (platform : CheckoutPlatform) (root : JsString) (store : JsMap JsString Origin) (call : Materialize) : Prop :=
  ∀ path origin, materialize platform root store call = some (path, origin) →
    normalizeSourceRepositoryUrl platform.hosts origin.value = normalizeSourceRepositoryUrl platform.hosts call.value

/-- No checkout of another repository has the name and the key of this call. -/
def NoOtherStored (platform : CheckoutPlatform) (store : JsMap JsString Origin) (call : Materialize) : Prop :=
  call.failed = false → ∀ path origin, store.get? path = some origin →
    SharesPath platform origin.value origin.ref call.value call.ref →
      normalizeSourceRepositoryUrl platform.hosts origin.value = normalizeSourceRepositoryUrl platform.hosts call.value

/-- Every checkout is at the path of what it was cloned from. -/
def StoreSound (platform : CheckoutPlatform) (root : JsString) (store : JsMap JsString Origin) : Prop :=
  ∀ path origin, store.get? path = some origin → ∃ url, normalizeSourceRepositoryUrl platform.hosts origin.value = some url ∧
    sourceRepositoryCheckoutPath platform root url origin.ref = some path

theorem materialize_some {path : JsString} {origin : Origin} (h : materialize platform root store call = some (path, origin)) :
    call.failed = false ∧ origin = checkoutAt store path call ∧
      ∃ url, normalizeSourceRepositoryUrl platform.hosts call.value = some url ∧
        sourceRepositoryCheckoutPath platform root url call.ref = some path := by
  simp only [materialize, optionBind_some, Option.guard_eq_some', optionPure_some, Prod.mk.injEq] at h
  obtain ⟨-, hfail, url, hurl, path, hpath, rfl, rfl⟩ := h
  exact ⟨hfail, rfl, url, hurl, hpath⟩

theorem StoreSound.checkoutAt (hsound : StoreSound platform root store) {path url : JsString}
    (hurl : normalizeSourceRepositoryUrl platform.hosts call.value = some url)
    (hpath : sourceRepositoryCheckoutPath platform root url call.ref = some path) :
    ∃ url, normalizeSourceRepositoryUrl platform.hosts (checkoutAt store path call).value = some url ∧
      sourceRepositoryCheckoutPath platform root url (checkoutAt store path call).ref = some path := by
  rw [Sources.checkoutAt]
  cases hget : store.get? path with
  | none => exact ⟨url, hurl, hpath⟩
  | some origin => exact hsound path origin hget

theorem StoreSound.step (hsound : StoreSound platform root store) : StoreSound platform root (step platform root store call) := by
  rw [Sources.step]
  cases hmaterialize : materialize platform root store call with
  | none => exact hsound
  | some result =>
    obtain ⟨path, origin⟩ := result
    obtain ⟨-, rfl, url, hurl, hpath⟩ := materialize_some hmaterialize
    intro path' origin' hget
    rw [Option.elim_some, JsMap.get?_set] at hget
    split at hget
    · next heq =>
      cases hget
      subst heq
      exact hsound.checkoutAt hurl hpath
    · exact hsound path' origin' hget

theorem returnsOwn_iff (lawful : platform.Lawful) (hsound : StoreSound platform root store) :
    ReturnsOwn platform root store call ↔ NoOtherStored platform store call := by
  constructor
  · intro hown hfail path origin hget hshares
    obtain ⟨url, hurl, hpath⟩ := hsound path origin hget
    obtain ⟨url', hurl'⟩ := hshares.normalized
    have hsame := (checkoutPath_eq_iff lawful root hurl hurl').mpr hshares
    rw [hpath] at hsame
    refine hown path origin ?_
    simp only [materialize, guard, hfail, if_true, hurl', ← hsame, Option.bind_eq_bind, Option.bind_some, Option.pure_def,
      checkoutAt, hget, Option.getD_some]
  · intro hother path origin hmaterialize
    obtain ⟨hfail, rfl, url, hurl, hpath⟩ := materialize_some hmaterialize
    rw [checkoutAt]
    cases hget : store.get? path with
    | none => rfl
    | some stored =>
      obtain ⟨url', hurl', hpath'⟩ := hsound path stored hget
      exact hother hfail path stored hget
        ((checkoutPath_eq_iff lawful root hurl' hurl).mp (hpath'.trans hpath.symm))

end Runs

/-- Checkouts are told apart exactly as far as the names with joined segments are, and a second pass leaves an address
exactly where it takes nothing from the name. -/
theorem checkoutIdentity_iff {platform : CheckoutPlatform} (lawful : platform.Lawful) (root : JsString) :
    (∀ value value' url url' ref ref', normalizeSourceRepositoryUrl platform.hosts value = some url →
      normalizeSourceRepositoryUrl platform.hosts value' = some url' →
        ((sourceRepositoryCheckoutPath platform root url ref = sourceRepositoryCheckoutPath platform root url' ref' →
            url = url' ∧ trim ref = trim ref') ↔
          (SharesPath platform value ref value' ref' → url = url' ∧ trim ref = trim ref'))) ∧
      (∀ calls, RunMeets (step platform root) (ReturnsOwn platform root) .empty calls ↔
        RunMeets (step platform root) (NoOtherStored platform) .empty calls) ∧
      ∀ value, (normalizeSourceRepositoryUrl platform.hosts value).bind (normalizeSourceRepositoryUrl platform.hosts) =
        normalizeSourceRepositoryUrl platform.hosts value ↔ StableSource platform.hosts value := by
  refine ⟨fun value value' url url' ref ref' h h' => ?_, fun calls => ?_, normalize_idem_iff lawful.hosts⟩
  · rw [checkoutPath_eq_iff lawful root h h']
  · exact runMeets_iff_of_invariant (I := StoreSound platform root) (fun _ _ hsound => returnsOwn_iff lawful hsound)
      (fun _ _ hsound _ => hsound.step) (fun _ _ hget => by cases hget) calls

/-- Hosts in plain ASCII, and digests that nothing asks for. -/
def plainPlatform : CheckoutPlatform := ⟨⟨fun _ => none, fun _ => none⟩, fun _ => List.replicate 64 48⟩

theorem plainPlatform_lawful : plainPlatform.Lawful :=
  ⟨⟨fun _ _ h => (nomatch h), fun _ _ h => (nomatch h)⟩, fun _ => rfl⟩

theorem checkoutIdentity_clone :
    (normalizeSourceRepositoryUrl plainPlatform.hosts (js "git@github.com:owner/repository.git")).bind
        (normalizeSourceRepositoryUrl plainPlatform.hosts) =
      normalizeSourceRepositoryUrl plainPlatform.hosts (js "git@github.com:owner/repository.git") := by
  refine ((checkoutIdentity_iff plainPlatform_lawful (js "/store")).2.2 _).mpr fun host segments h name hname => ?_
  have hparts : repositoryParts plainPlatform.hosts (js "git@github.com:owner/repository.git") =
      some (js "github.com", [js "owner", js "repository"]) := by decide +kernel
  rw [hparts] at h
  cases h
  cases hname
  decide

/-- A group with a project, and a project with an underscore, have one checkout; and of two endings each pass takes one. -/
theorem checkoutIdentity_shared :
    sourceRepositoryCheckoutPath plainPlatform (js "/store") (js "https://gitlab.com/a/b/c") [] =
        sourceRepositoryCheckoutPath plainPlatform (js "/store") (js "https://gitlab.com/a/b_c") [] ∧
      normalizeSourceRepositoryUrl plainPlatform.hosts (js "https://gitlab.com/a/b/c") =
        some (js "https://gitlab.com/a/b/c") ∧
      normalizeSourceRepositoryUrl plainPlatform.hosts (js "https://gitlab.com/a/b_c") =
        some (js "https://gitlab.com/a/b_c") ∧
      ¬ RunMeets (step plainPlatform (js "/store")) (ReturnsOwn plainPlatform (js "/store")) .empty
        [⟨js "https://gitlab.com/a/b/c", [], false⟩, ⟨js "https://gitlab.com/a/b_c", [], false⟩] ∧
      normalizeSourceRepositoryUrl plainPlatform.hosts (js "https://github.com/a/b.git.git") =
        some (js "https://github.com/a/b.git") ∧
      normalizeSourceRepositoryUrl plainPlatform.hosts (js "https://github.com/a/b.git") = some (js "https://github.com/a/b") := by
  refine ⟨by decide +kernel, by decide +kernel, by decide +kernel, fun h => ?_, by decide +kernel, by decide +kernel⟩
  have hown := h.2.1 (js "/store/gitlab.com_a_b_c/default") ⟨js "https://gitlab.com/a/b/c", []⟩ (by decide +kernel)
  exact absurd hown (by decide +kernel)

end Beale.Sources
