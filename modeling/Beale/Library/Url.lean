import Beale.Library.JsonText

/-!
# HTTP URLs

What `new URL` makes of a text with the scheme `http` or `https`.

- `parseHost`: host names, with IPv4 addresses in all their spellings.
- `parseHttpUrl`: the parts of a URL.
-/

namespace Beale.Library

def lowerUnit (u : UInt16) : UInt16 := if 65 ≤ u && u ≤ 90 then u + 32 else u

def lowerAscii (s : JsString) : JsString := s.map lowerUnit

/-- The parts of the parser of hosts that are not described here. -/
structure HostTables where
  /-- Percent-decoding and UTS #46, for a domain that is not plain ASCII. -/
  domainToAscii : JsString → Option JsString
  /-- What is between the brackets of an IPv6 address, read and written again. -/
  ipv6 : JsString → Option JsString

structure HttpUrl where
  https : Bool
  hostname : JsString
  port : Option Nat
  /-- The path, which starts with a slash, as its segments. -/
  segments : List JsString
deriving DecidableEq

def HttpUrl.host (url : HttpUrl) : JsString := url.hostname ++ url.port.elim [] fun port => js ":" ++ natText port

/-! ## Hosts -/

/-- ASCII without percent-encoding or labels in Punycode. -/
def isPlainDomain (text : JsString) : Bool :=
  text.all (fun u => u < 128 && u ≠ 37) && ¬ (js "xn--").isPrefixOf (lowerAscii text) &&
    ¬ (lowerAscii text).tails.any (js ".xn--").isPrefixOf

/-- The output of UTS #46 is in lower case, and it is its own output. -/
structure HostTables.Lawful (tables : HostTables) : Prop where
  lower : ∀ text domain, tables.domainToAscii text = some domain → lowerAscii domain = domain
  again : ∀ text domain, tables.domainToAscii text = some domain → isPlainDomain domain = false →
    tables.domainToAscii domain = some domain

def isForbiddenDomainUnit (u : UInt16) : Bool := u ≤ 32 || u = 127 || (js "#/:<>?@[\\]^|%").contains u

def digitIn (radix : Nat) (u : UInt16) : Option Nat :=
  let value :=
    if 48 ≤ u && u ≤ 57 then some (u.toNat - 48)
    else if 97 ≤ lowerUnit u && lowerUnit u ≤ 102 then some ((lowerUnit u).toNat - 87)
    else none
  value.filter (· < radix)

def numberIn (radix : Nat) (text : JsString) : Option Nat :=
  text.foldlM (fun value u => (digitIn radix u).map (radix * value + ·)) 0

/-- A part of an IPv4 address: hexadecimal, octal or decimal. -/
def ipv4Number : JsString → Option Nat
  | [] => none
  | 48 :: 88 :: digits | 48 :: 120 :: digits => numberIn 16 digits
  | 48 :: u :: digits => numberIn 8 (u :: digits)
  | digits => numberIn 10 digits

def domainParts (domain : JsString) : List JsString :=
  let parts := domain.splitOn 46
  if parts.getLast? = some [] ∧ 1 < parts.length then parts.dropLast else parts

def endsInNumber (domain : JsString) : Bool :=
  match (domainParts domain).getLast? with
  | none | some [] => false
  | some last => last.all (fun u => 48 ≤ u && u ≤ 57) || (ipv4Number last).isSome

/-- An IPv4 address in any of its spellings: the last number stands for all the bytes that are left. -/
def ipv4 (domain : JsString) : Option JsString := do
  let numbers ← (domainParts domain).mapM ipv4Number
  guard (numbers.length ≤ 4 ∧ ∀ number ∈ numbers.dropLast, number ≤ 255)
  let last := numbers.getLast?.getD 0
  guard (last < 256 ^ (5 - numbers.length))
  let address := numbers.dropLast.zipIdx.foldl (fun address e => address + e.1 * 256 ^ (3 - e.2)) last
  return joinWith (js ".") ((List.range 4).map fun i => natText (address / 256 ^ (3 - i) % 256))

section Tables

variable (tables : HostTables)

def domainOf (text : JsString) : Option JsString :=
  if isPlainDomain text then some (lowerAscii text) else tables.domainToAscii text

def parseDomain (text : JsString) : Option JsString := do
  let domain ← domainOf tables text
  guard (domain ≠ [] ∧ domain.all (!isForbiddenDomainUnit ·))
  if endsInNumber domain then ipv4 domain else return domain

def parseHost (text : JsString) : Option JsString :=
  if text.head? = some 91 then
    if text.getLast? = some 93 then (tables.ipv6 text.tail.dropLast).map fun address => js "[" ++ address ++ js "]"
    else none
  else parseDomain tables text

end Tables

/-! ## Paths -/

/-- The code points of a text; a surrogate by itself counts as the replacement character. -/
def codePoints : JsString → List Nat
  | [] => []
  | [u] => [if 0xD800 ≤ u && u ≤ 0xDFFF then 0xFFFD else u.toNat]
  | u :: v :: rest =>
    if 0xD800 ≤ u && u ≤ 0xDBFF && 0xDC00 ≤ v && v ≤ 0xDFFF then
      (0x10000 + (u.toNat - 0xD800) * 0x400 + (v.toNat - 0xDC00)) :: codePoints rest
    else (if 0xD800 ≤ u && u ≤ 0xDFFF then 0xFFFD else u.toNat) :: codePoints (v :: rest)

def utf8Bytes (c : Nat) : List Nat :=
  if c < 0x80 then [c]
  else if c < 0x800 then [0xC0 + c / 64, 0x80 + c % 64]
  else if c < 0x10000 then [0xE0 + c / 4096, 0x80 + c / 64 % 64, 0x80 + c % 64]
  else [0xF0 + c / 262144, 0x80 + c / 4096 % 64, 0x80 + c / 64 % 64, 0x80 + c % 64]

def percentByte (byte : Nat) : JsString := js "%" ++ [byte / 16, byte % 16].map fun d => UInt16.ofNat (if d < 10 then 48 + d else 55 + d)

/-- The path percent-encode set. -/
def isPathEncoded (c : Nat) : Bool := c < 32 || 126 < c || (js " \"#<>?^\x60\x7b\x7d").any (·.toNat = c)

def encodeSegment (segment : JsString) : JsString :=
  (codePoints segment).flatMap fun c =>
    if isPathEncoded c then (utf8Bytes c).flatMap percentByte else [UInt16.ofNat c]

def isSingleDot (segment : JsString) : Bool := [js ".", js "%2e"].contains (lowerAscii segment)

def isDoubleDot (segment : JsString) : Bool :=
  [js "..", js ".%2e", js "%2e.", js "%2e%2e"].contains (lowerAscii segment)

/-- The segments of a path, after some that were read. A dot segment at the end leaves an empty one. -/
def resolveSegments (path : List JsString) : List JsString → List JsString
  | [] => path
  | [segment] =>
    if isDoubleDot segment then path.dropLast ++ [[]]
    else if isSingleDot segment then path ++ [[]]
    else path ++ [encodeSegment segment]
  | segment :: next :: segments =>
    if isDoubleDot segment then resolveSegments path.dropLast (next :: segments)
    else if isSingleDot segment then resolveSegments path (next :: segments)
    else resolveSegments (path ++ [encodeSegment segment]) (next :: segments)

/-! ## URLs -/

def isSlash (u : UInt16) : Bool := u = 47 || u = 92

def isAuthorityEnd (u : UInt16) : Bool := isSlash u || u = 63 || u = 35

/-- A text without control characters and blanks around it, and without tabs and line breaks in it. -/
def cleanUrl (text : JsString) : JsString :=
  ((text.dropWhile (· ≤ 32)).rdropWhile (· ≤ 32)).filter fun u => ¬ (u = 9 || u = 10 || u = 13)

/-- What comes after `http:` or `https:`, and which one it is. -/
def httpScheme? (text : JsString) : Option (Bool × JsString) :=
  if js "http:" = lowerAscii (text.take 5) then some (false, text.drop 5)
  else if js "https:" = lowerAscii (text.take 6) then some (true, text.drop 6)
  else none

/-- The host of an authority, and its port; colons in brackets are of the host. -/
def splitPort : Bool → JsString → JsString × Option JsString
  | _, [] => ([], none)
  | bracketed, u :: rest =>
    if u = 58 && !bracketed then ([], some rest)
    else
      let (host, port) := splitPort (if u = 91 then true else if u = 93 then false else bracketed) rest
      (u :: host, port)

/-- The port of a URL; the one of its scheme is left out. -/
def parsePort (https : Bool) : Option JsString → Option (Option Nat)
  | none | some [] => some none
  | some digits => do
    let port ← numberIn 10 digits
    guard (port ≤ 65535)
    return if port = (if https then 443 else 80) then none else some port

def parseHttpUrl (tables : HostTables) (input : JsString) : Option HttpUrl := do
  let (https, rest) ← httpScheme? (cleanUrl input)
  let text := rest.dropWhile isSlash
  let authority := text.takeWhile (¬ isAuthorityEnd ·)
  -- what is before the last `@` is a name and a password
  let (hostText, portText) := splitPort false (authority.reverse.takeWhile (· ≠ 64)).reverse
  guard (hostText ≠ [])
  let hostname ← parseHost tables hostText
  let port ← parsePort https portText
  let path := (text.dropWhile (¬ isAuthorityEnd ·)).takeWhile fun u => ¬ (u = 63 || u = 35)
  return { https, hostname, port, segments := resolveSegments [] ((path.drop 1).splitOnP isSlash) }

/-! ## URLs in canonical form -/

theorem joinWith_cons_cons (separator part next : JsString) (parts : List JsString) :
    joinWith separator (part :: next :: parts) = part ++ separator ++ joinWith separator (next :: parts) := by
  simp [joinWith, List.append_assoc]

@[simp] theorem joinWith_singleton (separator part : JsString) : joinWith separator [part] = part := by
  simp [joinWith]

theorem joinWith_concat (separator : JsString) (parts : List JsString) (last : JsString) :
    joinWith separator (parts ++ [last]) = parts.flatMap (· ++ separator) ++ last := by
  induction parts with
  | nil => rw [List.nil_append, joinWith_singleton, List.flatMap_nil, List.nil_append]
  | cons part parts ih =>
    obtain ⟨next, rest, hcons⟩ : ∃ next rest, parts ++ [last] = next :: rest :=
      List.exists_cons_of_ne_nil (List.append_ne_nil_of_right_ne_nil _ (List.cons_ne_nil _ _))
    rw [List.cons_append, hcons, joinWith_cons_cons, ← hcons, ih, List.flatMap_cons, List.append_assoc (part ++ separator)]

variable {parts : List JsString}

theorem splitOnP_joinWith {p : UInt16 → Bool} {separator : UInt16} (hsep : p separator = true)
    (hne : parts ≠ []) (hparts : ∀ part ∈ parts, ∀ u ∈ part, p u = false) :
    (joinWith [separator] parts).splitOnP p = parts := by
  induction parts with
  | nil => exact absurd rfl hne
  | cons part parts ih =>
    have hpart := hparts part List.mem_cons_self
    cases parts with
    | nil => rw [joinWith_singleton, List.splitOnP_eq_singleton hpart]
    | cons next parts =>
      have hrest := ih (List.cons_ne_nil _ _) fun other hother => hparts other (List.mem_cons_of_mem _ hother)
      rw [joinWith_cons_cons, List.append_assoc, List.singleton_append,
        List.splitOnP_append_cons_of_forall_mem hpart separator hsep, hrest]

def isPathUnit (u : UInt16) : Bool := ¬ isPathEncoded u.toNat && ¬ isSlash u

variable {u : UInt16}

theorem mem_joinWith {separator : JsString} (h : u ∈ joinWith separator parts) :
    u ∈ separator ∨ ∃ part ∈ parts, u ∈ part := by
  induction parts with
  | nil => cases h
  | cons part parts ih =>
    cases parts with
    | nil =>
      rw [joinWith_singleton] at h
      exact .inr ⟨part, List.mem_cons_self, h⟩
    | cons next parts =>
      rw [joinWith_cons_cons, List.append_assoc] at h
      rcases List.mem_append.mp h with hpart | hrest
      · exact .inr ⟨part, List.mem_cons_self, hpart⟩
      · rcases List.mem_append.mp hrest with hsep | hrest
        · exact .inl hsep
        · refine (ih hrest).imp_right ?_
          rintro ⟨other, hother, hu⟩
          exact ⟨other, List.mem_cons_of_mem _ hother, hu⟩

variable {text segment : JsString}

theorem splitPort_plain (h : ∀ u ∈ text, u ≠ 58 ∧ u ≠ 91 ∧ u ≠ 93) :
    splitPort false text = (text, none) := by
  induction text with
  | nil => rfl
  | cons u text ih =>
    obtain ⟨hcolon, hopen, hclose⟩ := h u List.mem_cons_self
    rw [splitPort, if_neg (by simp [hcolon]), if_neg hopen, if_neg hclose,
      ih fun v hv => h v (List.mem_cons_of_mem _ hv)]

theorem not_surrogate (h : u < 128) : (0xD800 ≤ u && u ≤ 0xDFFF) = false := by
  have hle : ¬ (0xD800 : UInt16) ≤ u := by
    rw [UInt16.le_iff_toNat_le]
    have hlt := UInt16.lt_iff_toNat_lt.mp h
    simp at hlt ⊢
    omega
  simp [hle]

theorem not_leadSurrogate (h : u < 128) : (0xD800 ≤ u && u ≤ 0xDBFF) = false := by
  have hle : ¬ (0xD800 : UInt16) ≤ u := by
    rw [UInt16.le_iff_toNat_le]
    have hlt := UInt16.lt_iff_toNat_lt.mp h
    simp at hlt ⊢
    omega
  simp [hle]

theorem codePoints_ascii (h : ∀ u ∈ text, u < 128) : codePoints text = text.map UInt16.toNat := by
  fun_induction codePoints text with
  | case1 => rfl
  | case2 u =>
    rw [not_surrogate (h u List.mem_cons_self)]
    rfl
  | case3 u v rest hpair ih =>
    rw [not_leadSurrogate (h u List.mem_cons_self)] at hpair
    simp at hpair
  | case4 u v rest hpair ih =>
    rw [ih fun w hw => h w (List.mem_cons_of_mem _ hw), not_surrogate (h u List.mem_cons_self)]
    rfl

theorem isPathUnit_lt (h : isPathUnit u = true) : 32 < u ∧ u < 128 := by
  simp only [isPathUnit, isPathEncoded, Bool.and_eq_true, decide_eq_true_eq, Bool.not_eq_true, Bool.or_eq_false_iff,
    decide_eq_false_iff_not] at h
  have hspace : u.toNat ≠ 32 := by
    intro heq
    have hany := h.1.2
    simp [js, utf16, heq] at hany
  rw [UInt16.lt_iff_toNat_lt, UInt16.lt_iff_toNat_lt]
  simp
  omega

theorem encodeSegment_plain (h : ∀ u ∈ segment, isPathUnit u = true) :
    encodeSegment segment = segment := by
  have hascii : ∀ u ∈ segment, u < 128 := fun u hu => (isPathUnit_lt (h u hu)).2
  rw [encodeSegment, codePoints_ascii hascii, List.flatMap_map]
  induction segment with
  | nil => rfl
  | cons u segment ih =>
    have hplain : isPathEncoded u.toNat = false := by
      have hunit := h u List.mem_cons_self
      rw [isPathUnit, Bool.and_eq_true, decide_eq_true_eq, Bool.not_eq_true] at hunit
      exact hunit.1
    rw [List.flatMap_cons, hplain, if_neg Bool.false_ne_true, UInt16.ofNat_toNat, List.singleton_append,
      ih (fun v hv => h v (List.mem_cons_of_mem _ hv)) fun v hv => hascii v (List.mem_cons_of_mem _ hv)]

theorem codePoints_eq (h : ∀ c ∈ codePoints text, c ≤ 126) : (codePoints text).map UInt16.ofNat = text := by
  fun_induction codePoints text with
  | case1 => rfl
  | case2 u =>
    have hle := h _ List.mem_cons_self
    split at hle
    · omega
    · next hsurrogate => rw [List.map_singleton, if_neg hsurrogate, UInt16.ofNat_toNat]
  | case3 u v rest hpair ih =>
    have hle := h _ List.mem_cons_self
    omega
  | case4 u v rest hpair ih =>
    have hle := h _ List.mem_cons_self
    split at hle
    · omega
    · next hsurrogate =>
      rw [List.map_cons, if_neg hsurrogate, UInt16.ofNat_toNat, ih fun c hc => h c (List.mem_cons_of_mem _ hc)]

/-- What is encoded has a percent sign. -/
theorem encodeSegment_eq_self (h : 37 ∉ encodeSegment segment) : encodeSegment segment = segment := by
  have hplain : ∀ c ∈ codePoints segment, isPathEncoded c = false := by
    intro c hc
    refine Bool.eq_false_iff.mpr fun hencoded => h ?_
    refine List.mem_flatMap.mpr ⟨c, hc, ?_⟩
    rw [if_pos hencoded]
    have hbytes : utf8Bytes c ≠ [] := by
      rw [utf8Bytes]
      split
      · exact List.cons_ne_nil _ _
      · split
        · exact List.cons_ne_nil _ _
        · split <;> exact List.cons_ne_nil _ _
    obtain ⟨byte, bytes, hcons⟩ := List.exists_cons_of_ne_nil hbytes
    rw [hcons, List.flatMap_cons]
    exact List.mem_append_left _ List.mem_cons_self
  have hle : ∀ c ∈ codePoints segment, c ≤ 126 := by
    intro c hc
    have hunit := hplain c hc
    rw [isPathEncoded, Bool.or_eq_false_iff, Bool.or_eq_false_iff, decide_eq_false_iff_not, decide_eq_false_iff_not] at hunit
    omega
  have hmap : encodeSegment segment = (codePoints segment).map UInt16.ofNat := by
    rw [encodeSegment, ← List.flatMap_singleton' ((codePoints segment).map UInt16.ofNat), List.flatMap_map]
    refine List.flatMap_congr fun c hc => ?_
    rw [hplain c hc, if_neg Bool.false_ne_true]
  rw [hmap, codePoints_eq hle]

variable {segments : List JsString}

theorem mem_resolveSegments {path : List JsString}
    (h : segment ∈ resolveSegments path segments) : segment ∈ path ∨ segment = [] ∨
      ∃ source, isSingleDot source = false ∧ isDoubleDot source = false ∧ segment = encodeSegment source := by
  fun_induction resolveSegments path segments with
  | case1 path => exact .inl h
  | case2 path last hdouble =>
    rcases List.mem_append.mp h with hpath | hlast
    · exact .inl (List.dropLast_subset _ hpath)
    · exact .inr (.inl (List.mem_singleton.mp hlast))
  | case3 path last _ hsingle =>
    exact (List.mem_append.mp h).imp_right fun hlast => .inl (List.mem_singleton.mp hlast)
  | case4 path last hdouble hsingle =>
    exact (List.mem_append.mp h).imp_right fun hlast =>
      .inr ⟨last, Bool.eq_false_iff.mpr hsingle, Bool.eq_false_iff.mpr hdouble, List.mem_singleton.mp hlast⟩
  | case5 path first next rest hdouble ih => exact (ih h).imp_left fun hpath => List.dropLast_subset _ hpath
  | case6 path first next rest _ hsingle ih => exact ih h
  | case7 path first next rest hdouble hsingle ih =>
    rcases ih h with hpath | hother
    · exact (List.mem_append.mp hpath).imp_right fun hfirst =>
        .inr ⟨first, Bool.eq_false_iff.mpr hsingle, Bool.eq_false_iff.mpr hdouble, List.mem_singleton.mp hfirst⟩
    · exact .inr hother

theorem resolveSegments_plain (path : List JsString)
    (hplain : ∀ segment ∈ segments, ∀ u ∈ segment, isPathUnit u = true)
    (hdots : ∀ segment ∈ segments, isSingleDot segment = false ∧ isDoubleDot segment = false) :
    resolveSegments path segments = path ++ segments := by
  fun_induction resolveSegments path segments with
  | case1 path => rw [List.append_nil]
  | case2 path segment hdouble => rw [(hdots segment List.mem_cons_self).2] at hdouble; cases hdouble
  | case3 path segment _ hsingle => rw [(hdots segment List.mem_cons_self).1] at hsingle; cases hsingle
  | case4 path segment => rw [encodeSegment_plain (hplain segment List.mem_cons_self)]
  | case5 path segment next segments hdouble => rw [(hdots segment List.mem_cons_self).2] at hdouble; cases hdouble
  | case6 path segment next segments _ hsingle => rw [(hdots segment List.mem_cons_self).1] at hsingle; cases hsingle
  | case7 path segment next segments _ _ ih =>
    rw [ih (fun other hother => hplain other (List.mem_cons_of_mem _ hother))
      (fun other hother => hdots other (List.mem_cons_of_mem _ hother)),
      encodeSegment_plain (hplain segment List.mem_cons_self), List.append_assoc, List.singleton_append]

theorem lowerUnit_idem (u : UInt16) : lowerUnit (lowerUnit u) = lowerUnit u := by
  by_cases hupper : (65 ≤ u && u ≤ 90) = true
  · have heq : lowerUnit u = u + 32 := if_pos hupper
    rw [Bool.and_eq_true, decide_eq_true_eq, decide_eq_true_eq, UInt16.le_iff_toNat_le, UInt16.le_iff_toNat_le] at hupper
    have hlower : ¬ (u + 32) ≤ 90 := by
      rw [UInt16.le_iff_toNat_le, UInt16.toNat_add]
      simp at hupper ⊢
      omega
    rw [heq, lowerUnit, if_neg (by simp [hlower])]
  · have heq : lowerUnit u = u := if_neg hupper
    rw [heq, heq]

theorem lowerAscii_idem (s : JsString) : lowerAscii (lowerAscii s) = lowerAscii s := by
  rw [lowerAscii, lowerAscii, List.map_map]
  exact congrArg (List.map · s) (funext lowerUnit_idem)

theorem lowerUnit_lt (h : u < 128) : lowerUnit u < 128 := by
  rw [lowerUnit]
  split
  · next hupper =>
    rw [Bool.and_eq_true, decide_eq_true_eq, decide_eq_true_eq, UInt16.le_iff_toNat_le, UInt16.le_iff_toNat_le] at hupper
    rw [UInt16.lt_iff_toNat_lt, UInt16.toNat_add]
    simp at hupper ⊢
    omega
  · exact h

theorem eq_of_lowerUnit {v : UInt16} (h : lowerUnit u = v) (hv : v < 97) : u = v := by
  rw [lowerUnit] at h
  split at h
  · next hupper =>
    rw [Bool.and_eq_true, decide_eq_true_eq, decide_eq_true_eq, UInt16.le_iff_toNat_le, UInt16.le_iff_toNat_le] at hupper
    have hnat := congrArg UInt16.toNat h
    rw [UInt16.toNat_add] at hnat
    rw [UInt16.lt_iff_toNat_lt] at hv
    simp at hupper hnat hv
    omega
  · exact h

theorem lowerUnit_ne (h : u ≠ 37) : lowerUnit u ≠ 37 := fun hlower => h (eq_of_lowerUnit hlower (by decide))

/-- Without percent signs, a dot segment ends in a dot. -/
theorem not_dot_of_units (hunits : ∀ u ∈ segment, u ≠ 37) (hlast : segment.getLast? ≠ some 46) :
    isSingleDot segment = false ∧ isDoubleDot segment = false := by
  have hnot : ∀ {dots : JsString}, 37 ∈ dots ∨ dots.getLast? = some 46 → lowerAscii segment ≠ dots := by
    rintro dots hdots rfl
    rcases hdots with hpercent | hdot
    · obtain ⟨u, hu, hlower⟩ := List.mem_map.mp hpercent
      exact hunits u hu (eq_of_lowerUnit hlower (by decide))
    · rw [lowerAscii, List.getLast?_map, Option.map_eq_some_iff] at hdot
      obtain ⟨u, hu, hlower⟩ := hdot
      rw [eq_of_lowerUnit hlower (by decide)] at hu
      exact hlast hu
  have hsingle : ∀ dots ∈ [js ".", js "%2e"], 37 ∈ dots ∨ dots.getLast? = some 46 := by decide
  have hdouble : ∀ dots ∈ [js "..", js ".%2e", js "%2e.", js "%2e%2e"], 37 ∈ dots ∨ dots.getLast? = some 46 := by decide
  rw [isSingleDot, isDoubleDot, List.contains_eq_mem, List.contains_eq_mem, decide_eq_false_iff_not, decide_eq_false_iff_not]
  exact ⟨fun hmem => hnot (hsingle _ hmem) rfl, fun hmem => hnot (hdouble _ hmem) rfl⟩

theorem isPlainDomain_lowerAscii (h : isPlainDomain text = true) :
    isPlainDomain (lowerAscii text) = true := by
  rw [isPlainDomain, Bool.and_eq_true, Bool.and_eq_true] at h ⊢
  rw [lowerAscii_idem]
  refine ⟨⟨List.all_eq_true.mpr fun v hv => ?_, h.1.2⟩, h.2⟩
  obtain ⟨u, hu, rfl⟩ := List.mem_map.mp hv
  have hunit := List.all_eq_true.mp h.1.1 u hu
  rw [Bool.and_eq_true, decide_eq_true_eq, decide_eq_true_eq] at hunit ⊢
  exact ⟨lowerUnit_lt hunit.1, lowerUnit_ne hunit.2⟩

/-- What an IPv4 address is written with. -/
theorem ipv4_units {domain address : JsString} (h : ipv4 domain = some address) (hu : u ∈ address) :
    isDigitUnit u = true ∨ u = 46 := by
  simp only [ipv4, optionBind_some, optionPure_some] at h
  obtain ⟨numbers, -, -, -, -, -, rfl⟩ := h
  rcases mem_joinWith hu with hdot | ⟨part, hpart, hu⟩
  · exact .inr (List.mem_singleton.mp hdot)
  · obtain ⟨i, -, rfl⟩ := List.mem_map.mp hpart
    exact .inl (natText_digits _ u hu)

variable {tables : HostTables} {hostname : JsString}

/-- A host name that is no address is read back as it is. -/
theorem parseHost_again (lawful : tables.Lawful)
    (h : parseHost tables text = some hostname) (hname : ∃ u ∈ hostname, isDigitUnit u = false ∧ u ≠ 46)
    (hbracket : hostname.getLast? ≠ some 93) :
    hostname ≠ [] ∧ (∀ u ∈ hostname, isForbiddenDomainUnit u = false) ∧ lowerAscii hostname = hostname ∧
      parseHost tables hostname = some hostname := by
  rw [parseHost] at h
  split at h
  · split at h
    · obtain ⟨address, -, rfl⟩ := Option.map_eq_some_iff.mp h
      exact absurd List.getLast?_concat hbracket
    · cases h
  · simp only [parseDomain, optionBind_some, Option.guard_eq_some', Option.pure_def] at h
    obtain ⟨domain, hdomain, -, ⟨hne, hall⟩, hres⟩ := h
    have hunits : ∀ u ∈ domain, isForbiddenDomainUnit u = false := by simpa using hall
    split at hres
    · obtain ⟨u, hu, hdigit, hdot⟩ := hname
      rcases ipv4_units hres hu with hdigit' | rfl
      · rw [hdigit] at hdigit'
        cases hdigit'
      · exact absurd rfl hdot
    · next hnumber =>
      obtain rfl := Option.some.inj hres
      rw [domainOf] at hdomain
      have hlower : lowerAscii domain = domain := by
        split at hdomain
        · rw [← Option.some.inj hdomain, lowerAscii_idem]
        · exact lawful.lower text domain hdomain
      have hagain : domainOf tables domain = some domain := by
        rw [domainOf]
        by_cases hplain : isPlainDomain domain = true
        · rw [if_pos hplain, hlower]
        · rw [if_neg hplain]
          split at hdomain
          · next htext =>
            rw [← Option.some.inj hdomain] at hplain
            exact absurd (isPlainDomain_lowerAscii htext) hplain
          · exact lawful.again text domain hdomain (Bool.eq_false_iff.mpr hplain)
      have hopen : domain.head? ≠ some 91 := fun hhead =>
        absurd (hunits 91 (List.mem_of_mem_head? hhead)) (by decide)
      refine ⟨hne, hunits, hlower, ?_⟩
      rw [parseHost, if_neg hopen, parseDomain, hagain]
      simp only [Option.bind_eq_bind, Option.bind_some, guard, if_pos (And.intro hne hall), hnumber, Option.pure_def]
      rfl

theorem hostUnit_of_not_forbidden (h : isForbiddenDomainUnit u = false) :
    32 < u ∧ isAuthorityEnd u = false ∧ u ≠ 64 ∧ u ≠ 58 ∧ u ≠ 91 ∧ u ≠ 93 := by
  rw [isForbiddenDomainUnit, Bool.or_eq_false_iff, Bool.or_eq_false_iff, decide_eq_false_iff_not] at h
  obtain ⟨⟨hle, -⟩, hlisted⟩ := h
  simp [js, utf16] at hlisted
  refine ⟨UInt16.not_le.mp hle, ?_⟩
  simp [isAuthorityEnd, isSlash, hlisted]

theorem pathUnit_of_plain (h : isPathUnit u = true) : 32 < u ∧ u ≠ 63 ∧ u ≠ 35 := by
  refine ⟨(isPathUnit_lt h).1, ?_, ?_⟩ <;>
  · rintro rfl
    exact absurd h (by decide)

theorem cleanUrl_eq_self (h : ∀ u ∈ text, 32 < u) : cleanUrl text = text := by
  have hnot : ∀ u ∈ text, ¬ u ≤ 32 := fun u hu => UInt16.not_le.mpr (h u hu)
  have hstart : text.dropWhile (· ≤ 32) = text := by
    cases text with
    | nil => rfl
    | cons u text => rw [List.dropWhile_cons_of_neg (by simpa using hnot u List.mem_cons_self)]
  have hend : text.rdropWhile (· ≤ 32) = text :=
    List.rdropWhile_eq_self_iff.mpr fun hne => by simpa using hnot _ (List.getLast_mem hne)
  rw [cleanUrl, hstart, hend]
  refine List.filter_eq_self.mpr fun u hu => ?_
  have hgt := h u hu
  have h₁ : u ≠ 9 := by rintro rfl; exact absurd hgt (by decide)
  have h₂ : u ≠ 10 := by rintro rfl; exact absurd hgt (by decide)
  have h₃ : u ≠ 13 := by rintro rfl; exact absurd hgt (by decide)
  simp [h₁, h₂, h₃]

/-- A URL that is written with its host and plain segments is read back. -/
theorem parseHttpUrl_canonical {host : JsString}
    (hhost : parseHost tables host = some hostname) (hne : host ≠ []) (hunits : ∀ u ∈ host, isForbiddenDomainUnit u = false)
    (hsegments : segments ≠ []) (hplain : ∀ segment ∈ segments, ∀ u ∈ segment, isPathUnit u = true) :
    parseHttpUrl tables (js "https://" ++ host ++ js "/" ++ joinWith (js "/") segments) =
      some ⟨true, hostname, none, resolveSegments [] segments⟩ := by
  have hhostUnit : ∀ u ∈ host, 32 < u ∧ isAuthorityEnd u = false ∧ u ≠ 64 ∧ u ≠ 58 ∧ u ≠ 91 ∧ u ≠ 93 := fun u hu =>
    hostUnit_of_not_forbidden (hunits u hu)
  have hpath : ∀ u ∈ joinWith (js "/") segments, 32 < u ∧ u ≠ 63 ∧ u ≠ 35 := by
    intro u hu
    rcases mem_joinWith hu with hslash | ⟨segment, hseg, hu⟩
    · obtain rfl := List.mem_singleton.mp hslash
      decide
    · exact pathUnit_of_plain (hplain segment hseg u hu)
  have hclean : cleanUrl (js "https://" ++ host ++ js "/" ++ joinWith (js "/") segments) =
      js "https://" ++ host ++ js "/" ++ joinWith (js "/") segments := by
    refine cleanUrl_eq_self fun u hu => ?_
    simp only [List.mem_append] at hu
    rcases hu with ((hscheme | hhost) | hslash) | hrest
    · exact of_decide_eq_true (List.all_eq_true.mp (by decide : (js "https://").all (32 < ·) = true) u hscheme)
    · exact (hhostUnit u hhost).1
    · obtain rfl := List.mem_singleton.mp hslash
      decide
    · exact (hpath u hrest).1
  have hscheme : httpScheme? (js "https://" ++ host ++ js "/" ++ joinWith (js "/") segments) =
      some (true, js "//" ++ host ++ js "/" ++ joinWith (js "/") segments) := rfl
  have hslashes : (js "//" ++ host ++ js "/" ++ joinWith (js "/") segments).dropWhile isSlash =
      host ++ 47 :: joinWith (js "/") segments := by
    obtain ⟨u, rest, rfl⟩ := List.exists_cons_of_ne_nil hne
    have hnot : isSlash u = false := by
      have hend := (hhostUnit u List.mem_cons_self).2.1
      rw [isAuthorityEnd, Bool.or_eq_false_iff, Bool.or_eq_false_iff] at hend
      exact hend.1.1
    show (u :: rest ++ js "/" ++ joinWith (js "/") segments).dropWhile isSlash = _
    rw [List.append_assoc, List.cons_append, List.dropWhile_cons_of_neg (by rw [hnot]; exact Bool.false_ne_true)]
    rfl
  have hauthority : (host ++ 47 :: joinWith (js "/") segments).takeWhile (fun u => decide ¬ isAuthorityEnd u = true) = host := by
    rw [List.takeWhile_append_of_pos fun u hu => by simp [(hhostUnit u hu).2.1]]
    have hstop : (47 :: joinWith (js "/") segments).takeWhile (fun u => decide ¬ isAuthorityEnd u = true) = [] := rfl
    rw [hstop, List.append_nil]
  have hrest : (host ++ 47 :: joinWith (js "/") segments).dropWhile (fun u => decide ¬ isAuthorityEnd u = true) =
      47 :: joinWith (js "/") segments := by
    rw [List.dropWhile_append_of_pos fun u hu => by simp [(hhostUnit u hu).2.1]]
    rfl
  have huser : (host.reverse.takeWhile (fun u => decide (u ≠ 64))).reverse = host := by
    rw [List.takeWhile_eq_self_iff.mpr fun u hu => by simp [(hhostUnit u (List.mem_reverse.mp hu)).2.2.1], List.reverse_reverse]
  have hport : splitPort false host = (host, none) := splitPort_plain fun u hu => (hhostUnit u hu).2.2.2
  have hquery : (47 :: joinWith (js "/") segments).takeWhile (fun u => decide ¬ (decide (u = 63) || decide (u = 35)) = true) =
      47 :: joinWith (js "/") segments := by
    refine List.takeWhile_eq_self_iff.mpr fun u hu => ?_
    rcases List.mem_cons.mp hu with rfl | hu
    · rfl
    · simp [(hpath u hu).2.1, (hpath u hu).2.2]
  have hsplit : (joinWith (js "/") segments).splitOnP isSlash = segments :=
    splitOnP_joinWith rfl hsegments fun segment hseg u hu => by
      have hunit := hplain segment hseg u hu
      rw [isPathUnit, Bool.and_eq_true, decide_eq_true_eq, decide_eq_true_eq, Bool.not_eq_true, Bool.not_eq_true] at hunit
      exact hunit.2
  rw [parseHttpUrl, hclean, hscheme]
  simp only [Option.bind_eq_bind, Option.bind_some, hslashes, hauthority, huser, hport, hhost, parsePort, hrest, hquery,
    List.drop_one, List.tail_cons, hsplit, guard, if_pos hne, Option.pure_def]

theorem parseHttpUrl_some {input : JsString} {url : HttpUrl} (h : parseHttpUrl tables input = some url) :
    (∃ text, parseHost tables text = some url.hostname) ∧ ∃ segments, url.segments = resolveSegments [] segments := by
  simp only [parseHttpUrl, optionBind_some, optionPure_some] at h
  obtain ⟨⟨https, rest⟩, -, -, -, hostname, hhost, port, -, rfl⟩ := h
  exact ⟨⟨_, hhost⟩, _, rfl⟩

end Beale.Library
