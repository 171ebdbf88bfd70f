import Beale.Library.JsString

/-!
# Redacted arguments of commands

`redactShellArguments` takes credentials out of an argument vector: the values of known flags, and what nine regular
expressions find.

- `Pattern`: regular expressions of classes and their repetitions, as a backtracking engine matches them.
- `redactShellText`: the nine replacements, one after another.
-/

namespace Beale.Shell

open Beale.Library

/-! ## Patterns -/

/-- A point of a match: the unit before it, the units after it, how many the match has taken, and how many of them the
replacement keeps. -/
structure Cursor where
  before : Option UInt16
  rest : JsString
  taken : Nat
  kept : Nat

def Cursor.advance (c : Cursor) (n : Nat) : Cursor :=
  { c with before := if n = 0 then c.before else c.rest[n - 1]?, rest := c.rest.drop n, taken := c.taken + n }

inductive Pattern where
  | nothing
  | one (p : UInt16 → Bool)
  | many (p : UInt16 → Bool) (least : Nat)
  /-- `\b`, for a class of word units. -/
  | boundary (word : UInt16 → Bool)
  /-- `^` -/
  | start
  | keep
  | seq (first second : Pattern)
  | alt (first second : Pattern)

namespace Pattern

/-- The first match, in the order in which the alternatives and the repetitions are tried. -/
def run : Pattern → Cursor → (Cursor → Option Cursor) → Option Cursor
  | nothing, c, next => next c
  | one p, c, next => if c.rest.head?.any p then next (c.advance 1) else none
  | many p least, c, next =>
    let most := (c.rest.takeWhile p).length
    (List.range (most + 1 - least)).findSome? fun i => next (c.advance (most - i))
  | boundary word, c, next => if c.before.any word ≠ c.rest.head?.any word then next c else none
  | start, c, next => if c.before = none then next c else none
  | keep, c, next => next { c with kept := c.taken }
  | seq first second, c, next => first.run c fun c => second.run c next
  | alt first second, c, next => (first.run c next).or (second.run c next)

/-- `text.replace(pattern, …)` with the flag `g`: what is kept of each match, and `written`. A match that was found
hides the units that it took. -/
def replaceFrom (pattern : Pattern) (written : JsString) : Option UInt16 → Nat → JsString → JsString
  | _, _, [] => []
  | _, hidden + 1, u :: rest => replaceFrom pattern written (some u) hidden rest
  | before, 0, u :: rest =>
    match pattern.run ⟨before, u :: rest, 0, 0⟩ some with
    | some c => (u :: rest).take c.kept ++ written ++ replaceFrom pattern written (some u) (c.taken - 1) rest
    | none => u :: replaceFrom pattern written (some u) 0 rest

def replaceAll (pattern : Pattern) (written text : JsString) : JsString := replaceFrom pattern written none 0 text

def all (patterns : List Pattern) : Pattern := patterns.foldr seq nothing

/-- One of several patterns, of which there is at least one. -/
def any : List Pattern → Pattern
  | [] => nothing
  | [pattern] => pattern
  | pattern :: patterns => alt pattern (any patterns)

def text (s : JsString) : Pattern := all (s.map fun u => one (· = u))

end Pattern

/-! ## Classes -/

/-- A unit as the flags `iu` compare it: the long s and the sign of Kelvin count as letters. -/
def foldUnit (u : UInt16) : UInt16 :=
  if 65 ≤ u && u ≤ 90 then u + 32 else if u = 0x17F then 115 else if u = 0x212A then 107 else u

def isLetter (u : UInt16) : Bool := 97 ≤ u && u ≤ 122 || 65 ≤ u && u ≤ 90

def isAlphanumeric (u : UInt16) : Bool := isLetter u || 48 ≤ u && u ≤ 57

/-- `[A-Za-z0-9_]` -/
def isWordUnit (u : UInt16) : Bool := isAlphanumeric u || u = 95

def isFoldedWordUnit (u : UInt16) : Bool := isWordUnit (foldUnit u)

/-- A text in any case. -/
def folded (s : JsString) : Pattern := .all (s.map fun u => .one (foldUnit · = u))

def whitespace (least : Nat) : Pattern := .many isWhitespace least

/-- `"[^"]*"`, `'[^']*'`, or units that do not end a value. -/
def quotedOr (valueUnit : UInt16 → Bool) : Pattern :=
  .any [.all [.one (· = 34), .many (· ≠ 34) 0, .one (· = 34)], .all [.one (· = 39), .many (· ≠ 39) 0, .one (· = 39)],
    .many valueUnit 1]

def isValueUnit (u : UInt16) : Bool := ¬ isWhitespace u && u ≠ 44 && u ≠ 59

def hyphenOrUnderscore : Pattern := .one fun u => u = 95 || u = 45

/-- `api[_-]?key` -/
def apiKey : Pattern := .all [folded (js "api"), .alt hyphenOrUnderscore .nothing, folded (js "key")]

/-! ## Redaction -/

def redacted : JsString := js "[REDACTED]"

def redactHeaders : JsString → JsString :=
  Pattern.replaceAll (.all [.boundary isFoldedWordUnit,
    .any ([js "authorization", js "proxy-authorization", js "cookie", js "set-cookie", js "x-api-key", js "api-key"].map
      folded), .keep, whitespace 0, .one (· = 58), whitespace 0, .many (fun u => u ≠ 13 && u ≠ 10) 0])
    (js ": " ++ redacted)

def redactBasic : JsString → JsString :=
  Pattern.replaceAll (.all [.boundary isFoldedWordUnit, folded (js "basic"), whitespace 1,
    .many (fun u => isAlphanumeric (foldUnit u) || (js "+/=").contains u) 8]) (js "Basic " ++ redacted)

def redactGitHubTokens : JsString → JsString :=
  Pattern.replaceAll (.all [.boundary isWordUnit, .text (js "github_pat_"), .many isWordUnit 12, .boundary isWordUnit])
    (js "github_pat_" ++ redacted)

def redactGitHubKeys : JsString → JsString :=
  Pattern.replaceAll (.all [.boundary isWordUnit, .text (js "gh"), .one (js "pousr").contains, .one (· = 95),
    .many isWordUnit 12, .boundary isWordUnit]) (js "gh*_" ++ redacted)

def redactFlagValues : JsString → JsString :=
  Pattern.replaceAll (.all [.alt .start (.one isWhitespace), .text (js "--"),
    .any [folded (js "access-token"), apiKey, folded (js "auth"), folded (js "authorization"), folded (js "client-secret"),
      folded (js "cookie"), folded (js "credential"), folded (js "credentials"), folded (js "password"),
      folded (js "passwd"), folded (js "refresh-token"), folded (js "secret"), folded (js "token"), folded (js "user"),
      folded (js "userpwd")],
    .alt (whitespace 1) (.one (· = 61)), .keep, quotedOr isValueUnit]) redacted

def redactCookieFlag : JsString → JsString :=
  Pattern.replaceAll (.all [.alt .start (.one isWhitespace), .text (js "-b"), whitespace 1, .keep,
    quotedOr fun u => ¬ isWhitespace u]) redacted

def redactAssignments : JsString → JsString :=
  Pattern.replaceAll (.all [.boundary isFoldedWordUnit,
    .any [apiKey, .all [folded (js "access"), .alt hyphenOrUnderscore .nothing, folded (js "token")],
      .all [folded (js "refresh"), .alt hyphenOrUnderscore .nothing, folded (js "token")], folded (js "cookie"),
      folded (js "token"), folded (js "secret"), folded (js "password"), folded (js "credential")],
    whitespace 0, .one (fun u => u = 61 || u = 58), whitespace 0, .keep, quotedOr isValueUnit]) redacted

def redactBearer : JsString → JsString :=
  Pattern.replaceAll (.all [.boundary isFoldedWordUnit, folded (js "bearer"), whitespace 1,
    .many (fun u => isAlphanumeric (foldUnit u) || (js "._~+/=-").contains u) 1]) (js "Bearer " ++ redacted)

def redactKeys : JsString → JsString :=
  Pattern.replaceAll (.all [.boundary isWordUnit,
    .any [.text (js "sk"), .all [.text (js "xox"), .one (js "baprs").contains],
      .all [.text (js "gh"), .one (js "opsu").contains]],
    hyphenOrUnderscore, .many (fun u => isWordUnit u || u = 45) 12, .boundary isWordUnit]) redacted

def redactShellText (value : JsString) : JsString :=
  redactKeys (redactBearer (redactAssignments (redactCookieFlag (redactFlagValues (redactGitHubKeys
    (redactGitHubTokens (redactBasic (redactHeaders value))))))))

def maxAuditArgChars : Nat := 2048

def boundedAuditText (value : JsString) : JsString := (redactShellText value).take maxAuditArgChars

def pairedCredentialFlags : List JsString :=
  [js "--access-token", js "--api-key", js "--apikey", js "--auth", js "--authorization", js "--client-secret",
    js "--cookie", js "--credential", js "--credentials", js "--password", js "--passwd", js "--proxy-user",
    js "--refresh-token", js "--secret", js "--token", js "--user", js "--userpwd", js "-b", js "-u"]

def lowerCaseUnit (u : UInt16) : UInt16 := if 65 ≤ u && u ≤ 90 then u + 32 else if u = 0x212A then 107 else u

def isPairedCredentialFlag (value : JsString) : Bool :=
  pairedCredentialFlags.contains ((trim value).map lowerCaseUnit)

/-- An argument `--flag=value` without its value; the flag starts after the white space and ends in the first `=`. -/
def redactInlineCredentialArgument (value : JsString) : Option JsString :=
  (pairedCredentialFlags.find? fun flag => (flag ++ js "=").isPrefixOf ((trim value).map lowerCaseUnit)).map fun flag =>
    value.take ((value.takeWhile isWhitespace).length + flag.length + 1) ++ redacted

def redactShellArguments : List JsString → List JsString
  | [] => []
  | value :: rest =>
    match redactInlineCredentialArgument value with
    | some inline => boundedAuditText inline :: redactShellArguments rest
    | none =>
      match isPairedCredentialFlag value, rest with
      | true, _ :: rest => boundedAuditText value :: redacted :: redactShellArguments rest
      | _, rest => boundedAuditText value :: redactShellArguments rest

end Beale.Shell
