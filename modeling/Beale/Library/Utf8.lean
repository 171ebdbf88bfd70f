import Beale.Library.Json

/-!
# UTF-8 texts of UTF-16 strings

A string is encoded after every surrogate that is no part of a pair has become
U+FFFD, and bytes are decoded only where they are the encoding of some
characters (`fatal: true`).
-/

namespace Beale.Library

abbrev Bytes := List UInt8

def isWellFormed : JsString → Bool
  | [] => true
  | [u] => !isLeadSurrogate u && !isTrailSurrogate u
  | u :: v :: rest =>
    if isLeadSurrogate u && isTrailSurrogate v then isWellFormed rest
    else !isLeadSurrogate u && !isTrailSurrogate u && isWellFormed (v :: rest)

/-- The character of a unit that is no part of a surrogate pair. -/
def unitChar (u : UInt16) : Char :=
  if isLeadSurrogate u || isTrailSurrogate u then '\uFFFD' else Char.ofNat u.toNat

/-- The character of a surrogate pair. -/
def pairChar (u v : UInt16) : Char :=
  Char.ofNat (0x10000 + (u.toNat - 0xD800) * 0x400 + (v.toNat - 0xDC00))

def chars : JsString → List Char
  | [] => []
  | [u] => [unitChar u]
  | u :: v :: rest =>
    if isLeadSurrogate u && isTrailSurrogate v then pairChar u v :: chars rest
    else unitChar u :: chars (v :: rest)

def ofChars (cs : List Char) : JsString := cs.flatMap utf16

/-- `Buffer.from(s, "utf8")`. -/
def encodeUtf8 (s : JsString) : Bytes := (chars s).flatMap String.utf8EncodeChar

/-- `new TextDecoder("utf-8", { fatal: true, ignoreBOM: true }).decode(bytes)`, where it does not throw. -/
def decodeUtf8 (bytes : Bytes) : Option JsString :=
  bytes.toByteArray.utf8Decode?.map fun cs => ofChars cs.toList

/-! ## Characters and code units -/

theorem isLeadSurrogate_iff {u : UInt16} : isLeadSurrogate u = true ↔ 0xD800 ≤ u.toNat ∧ u.toNat ≤ 0xDBFF := by
  simp [isLeadSurrogate, UInt16.le_iff_toNat_le]

theorem isTrailSurrogate_iff {u : UInt16} : isTrailSurrogate u = true ↔ 0xDC00 ≤ u.toNat ∧ u.toNat ≤ 0xDFFF := by
  simp [isTrailSurrogate, UInt16.le_iff_toNat_le]

theorem toNat_ofNat {n : Nat} (h : n.isValidChar) : (Char.ofNat n).toNat = n := by
  rw [Char.ofNat, dif_pos h]
  rfl

theorem utf16_unitChar {u : UInt16} (hlead : isLeadSurrogate u = false) (htrail : isTrailSurrogate u = false) :
    utf16 (unitChar u) = [u] := by
  have hlead' := mt isLeadSurrogate_iff.mpr (Bool.not_eq_true _ ▸ hlead)
  have htrail' := mt isTrailSurrogate_iff.mpr (Bool.not_eq_true _ ▸ htrail)
  have hu := u.toNat_lt
  have hvalid : u.toNat.isValidChar := by
    show _ ∨ _
    omega
  rw [unitChar, hlead, htrail, if_neg (by simp), utf16, toNat_ofNat hvalid, if_pos hu, UInt16.ofNat_toNat]

theorem utf16_pairChar {u v : UInt16} (hlead : isLeadSurrogate u = true) (htrail : isTrailSurrogate v = true) :
    utf16 (pairChar u v) = [u, v] := by
  obtain ⟨hu, hu'⟩ := isLeadSurrogate_iff.mp hlead
  obtain ⟨hv, hv'⟩ := isTrailSurrogate_iff.mp htrail
  have hvalid : (0x10000 + (u.toNat - 0xD800) * 0x400 + (v.toNat - 0xDC00)).isValidChar := by
    show _ ∨ _
    omega
  rw [pairChar, utf16, toNat_ofNat hvalid, if_neg (by omega)]
  have hfirst : 0xD800 + (0x10000 + (u.toNat - 0xD800) * 0x400 + (v.toNat - 0xDC00) - 0x10000) / 0x400 = u.toNat := by omega
  have hsecond : 0xDC00 + (0x10000 + (u.toNat - 0xD800) * 0x400 + (v.toNat - 0xDC00) - 0x10000) % 0x400 = v.toNat := by omega
  simp only [hfirst, hsecond, UInt16.ofNat_toNat]

theorem utf16_cases (c : Char) :
    (∃ u, utf16 c = [u] ∧ isLeadSurrogate u = false ∧ isTrailSurrogate u = false ∧ unitChar u = c) ∨
      ∃ u v, utf16 c = [u, v] ∧ isLeadSurrogate u = true ∧ isTrailSurrogate v = true ∧ pairChar u v = c := by
  have hvalid : c.toNat < 0xD800 ∨ 0xDFFF < c.toNat ∧ c.toNat < 0x110000 := c.valid
  rw [utf16]
  by_cases hc : c.toNat < 0x10000
  · rw [if_pos hc]
    have hnat : (UInt16.ofNat c.toNat).toNat = c.toNat := UInt16.toNat_ofNat_of_lt hc
    have hlead : isLeadSurrogate (UInt16.ofNat c.toNat) = false := by
      refine Bool.eq_false_iff.mpr (mt isLeadSurrogate_iff.mp ?_)
      omega
    have htrail : isTrailSurrogate (UInt16.ofNat c.toNat) = false := by
      refine Bool.eq_false_iff.mpr (mt isTrailSurrogate_iff.mp ?_)
      omega
    refine .inl ⟨_, rfl, hlead, htrail, ?_⟩
    rw [unitChar, hlead, htrail, if_neg (by simp), hnat, Char.ofNat_toNat]
  · rw [if_neg hc]
    have hnat : (UInt16.ofNat (0xD800 + (c.toNat - 0x10000) / 0x400)).toNat = 0xD800 + (c.toNat - 0x10000) / 0x400 :=
      UInt16.toNat_ofNat_of_lt (by show _ < 65536; omega)
    have hnat' : (UInt16.ofNat (0xDC00 + (c.toNat - 0x10000) % 0x400)).toNat = 0xDC00 + (c.toNat - 0x10000) % 0x400 :=
      UInt16.toNat_ofNat_of_lt (by show _ < 65536; omega)
    refine .inr ⟨_, _, rfl, isLeadSurrogate_iff.mpr (by omega), isTrailSurrogate_iff.mpr (by omega), ?_⟩
    rw [pairChar, hnat, hnat']
    have hsum : 0x10000 + (0xD800 + (c.toNat - 0x10000) / 0x400 - 0xD800) * 0x400 +
        (0xDC00 + (c.toNat - 0x10000) % 0x400 - 0xDC00) = c.toNat := by omega
    rw [hsum, Char.ofNat_toNat]

theorem isWellFormed_utf16_append (c : Char) (s : JsString) : isWellFormed (utf16 c ++ s) = isWellFormed s := by
  rcases utf16_cases c with ⟨u, hunits, hlead, htrail, -⟩ | ⟨u, v, hunits, hlead, htrail, -⟩
  · rw [hunits]
    cases s with
    | nil => simp [isWellFormed, hlead, htrail]
    | cons v rest => simp [isWellFormed, hlead, htrail]
  · rw [hunits]
    simp [isWellFormed, hlead, htrail]

theorem isWellFormed_ofChars (cs : List Char) : isWellFormed (ofChars cs) = true := by
  induction cs with
  | nil => rfl
  | cons c cs ih => rwa [ofChars, List.flatMap_cons, isWellFormed_utf16_append]

/-- The characters of a string are the string again exactly if none of its surrogates is unpaired. -/
theorem ofChars_chars_iff {s : JsString} : ofChars (chars s) = s ↔ isWellFormed s = true := by
  constructor
  · intro h
    rw [← h]
    exact isWellFormed_ofChars _
  · intro h
    fun_induction isWellFormed s with
    | case1 => rfl
    | case2 u =>
      simp only [Bool.and_eq_true, Bool.not_eq_true'] at h
      rw [chars, ofChars, List.flatMap_cons, utf16_unitChar h.1 h.2]
      rfl
    | case3 u v rest hpair ih =>
      rw [chars, if_pos hpair, ofChars, List.flatMap_cons]
      rw [Bool.and_eq_true] at hpair
      rw [utf16_pairChar hpair.1 hpair.2]
      exact congrArg (u :: v :: ·) (ih h)
    | case4 u v rest hpair ih =>
      rw [chars, if_neg hpair, ofChars, List.flatMap_cons]
      simp only [Bool.and_eq_true, Bool.not_eq_true'] at h
      rw [utf16_unitChar h.1.1 h.1.2]
      exact congrArg (u :: ·) (ih h.2)

/-! ## Encoding and decoding -/

theorem decode_encode (s : JsString) : decodeUtf8 (encodeUtf8 s) = some (ofChars (chars s)) := by
  have henc : (encodeUtf8 s).toByteArray = (chars s).utf8Encode := rfl
  rw [decodeUtf8, henc, List.utf8Decode?_utf8Encode]
  rfl

/-- **What was encoded is read back exactly if no surrogate of it is unpaired.** -/
theorem decode_encode_eq_some_iff {s : JsString} : decodeUtf8 (encodeUtf8 s) = some s ↔ isWellFormed s = true := by
  rw [decode_encode, Option.some.injEq, ofChars_chars_iff]

end Beale.Library
