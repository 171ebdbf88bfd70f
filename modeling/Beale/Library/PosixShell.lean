import Beale.Library.JsString

/-!
# The command language of a POSIX shell

The part of it that takes no expansion: words of plain and quoted characters, and lists of simple commands joined by
`&&`. Whatever has another meaning to the shell is not recognised, so what is recognised means just its words.
-/

namespace Beale.Library

inductive ShellToken where
  | word (text : JsString) (quoted : Bool)
  | andIf
deriving DecidableEq

def isShellBlank (u : UInt16) : Bool := u = 32 || u = 9

/-- What is to be quoted to stand for itself, other than the quotes, blanks and `&`: `|;<>()$` and so on. -/
def isShellSpecial (u : UInt16) : Bool := (js "|;<>()$`\"*?[#~=%\n").contains u

def endWord : Option (JsString × Bool) → List ShellToken
  | some (text, quoted) => [.word text quoted]
  | none => []

/-- Where the recognition stands. -/
inductive LexMode where
  | plain
  | quoted
  | escaped
  /-- after a first `&` -/
  | ampersand

/-- The tokens of a command line, after some of a word. -/
def lexWords : LexMode → Option (JsString × Bool) → JsString → Option (List ShellToken)
  | .plain, word, [] => some (endWord word)
  | _, _, [] => none
  | .quoted, word, u :: rest =>
    if u = 39 then lexWords .plain word rest
    else lexWords .quoted (some (word.elim [] Prod.fst ++ [u], true)) rest
  | .escaped, word, u :: rest =>
    -- a line continuation
    if u = 10 then lexWords .plain word rest
    else lexWords .plain (some (word.elim [] Prod.fst ++ [u], true)) rest
  | .ampersand, word, u :: rest =>
    if u = 38 then (lexWords .plain none rest).map fun tokens => endWord word ++ .andIf :: tokens else none
  | .plain, word, u :: rest =>
    if isShellBlank u then (lexWords .plain none rest).map (endWord word ++ ·)
    else if u = 39 then lexWords .quoted (some (word.elim [] Prod.fst, true)) rest
    else if u = 92 then lexWords .escaped word rest
    else if u = 38 then lexWords .ampersand word rest
    else if isShellSpecial u then none
    else lexWords .plain (some (word.elim [] Prod.fst ++ [u], word.elim false Prod.snd)) rest

def reservedWords : List JsString :=
  [js "!", js "\x7b", js "\x7d", js "case", js "do", js "done", js "elif", js "else", js "esac", js "fi", js "for", js "if",
    js "in", js "then", js "until", js "while"]

/-- The commands of an AND list, after some words of a command. -/
def andList : List JsString → List ShellToken → Option (List (List JsString))
  | [], [] => none
  | word :: words, [] => some [word :: words]
  | [], .andIf :: _ => none
  | word :: words, .andIf :: rest => (andList [] rest).map ((word :: words) :: ·)
  | [], .word text quoted :: rest =>
    if !quoted && reservedWords.contains text then none else andList [text] rest
  | word :: words, .word text _ :: rest => andList (word :: words ++ [text]) rest

/-- The argument vectors that the shell executes one after the other, each if the one before has succeeded. -/
def shellCommands (line : JsString) : Option (List (List JsString)) := (lexWords .plain none line).bind (andList [])

def singleQuote (text : JsString) : JsString :=
  js "'" ++ text.flatMap (fun u => if u = 39 then js "'\\''" else [u]) ++ js "'"

/-! ## Quoted words -/

theorem lexWords_quoted (text word rest : JsString) :
    lexWords .quoted (some (word, true)) (text.flatMap (fun u => if u = 39 then js "'\\''" else [u]) ++ 39 :: rest) =
      lexWords .plain (some (word ++ text, true)) rest := by
  induction text generalizing word with
  | nil =>
    rw [List.flatMap_nil, List.nil_append, List.append_nil]
    rfl
  | cons u text ih =>
    rw [List.flatMap_cons, List.append_assoc]
    split
    · next hquote =>
      -- the closing quote, the quote itself, and the quote that opens again
      have hreopened : ∀ tail : JsString, lexWords .quoted (some (word, true)) (js "'\\''" ++ tail) =
          lexWords .quoted (some (word ++ [39], true)) tail := fun tail => rfl
      rw [hreopened, ih, List.append_assoc, hquote, List.singleton_append]
    · next hplain =>
      rw [List.singleton_append, lexWords, if_neg hplain, Option.elim_some, ih, List.append_assoc, List.singleton_append]

theorem lexWords_singleQuote (text rest : JsString) :
    lexWords .plain none (singleQuote text ++ rest) = lexWords .plain (some (text, true)) rest := by
  have hopened : ∀ tail : JsString, lexWords .plain none (js "'" ++ tail) = lexWords .quoted (some ([], true)) tail :=
    fun tail => rfl
  rw [singleQuote, List.append_assoc, List.append_assoc, hopened]
  exact lexWords_quoted text [] rest

theorem lexWords_blank (word : JsString × Bool) (rest : JsString) :
    lexWords .plain (some word) (32 :: rest) = (lexWords .plain none rest).map (.word word.1 word.2 :: ·) := rfl

/-- Quoted words with a blank between them. -/
theorem lexWords_join (words : List JsString) :
    lexWords .plain none (joinWith (js " ") (words.map singleQuote)) = some (words.map (.word · true)) := by
  induction words with
  | nil => rfl
  | cons word words ih =>
    cases words with
    | nil =>
      have halone := lexWords_singleQuote word []
      rw [List.append_nil] at halone
      rw [List.map_singleton, joinWith, List.intersperse_single, List.flatten_singleton, halone]
      rfl
    | cons next words =>
      have hjoin : joinWith (js " ") ((word :: next :: words).map singleQuote) =
          singleQuote word ++ 32 :: joinWith (js " ") ((next :: words).map singleQuote) := by
        simp [joinWith, js, utf16]
      rw [hjoin, lexWords_singleQuote, lexWords_blank, ih]
      rfl

theorem andList_words (word : JsString) (words texts : List JsString) :
    andList (word :: words) (texts.map (.word · true)) = some [word :: words ++ texts] := by
  induction texts generalizing words with
  | nil => rw [List.map_nil, andList, List.append_nil]
  | cons text texts ih =>
    rw [List.map_cons, andList, List.cons_append, ih, List.cons_append, List.append_assoc, List.singleton_append,
      List.cons_append]

theorem andList_quoted (word : JsString) (words : List JsString) :
    andList [] ((word :: words).map (.word · true)) = some [word :: words] := by
  rw [List.map_cons, andList, if_neg (by simp), andList_words, List.singleton_append]

end Beale.Library
