import ClarityCheck.Text.Blank
import ClarityCheck.Text.Cut

/-!
# Forms and words in contract text

A *form* is an opening parenthesis with its head right behind it, as `ok` in `(ok u1)`. The linter
never builds a syntax tree: it looks for forms and words in the characters of a line or of a whole
document, and this module holds those searches.

* `containsForm`: some opening parenthesis is followed by exactly this head;
* `containsWord`: the word stands somewhere with no symbol character beside it;
* `leadingForm?` and `declaredName`: the head of the form that a line opens with, and the name that
  the form declares.
-/

namespace ClarityCheck.Lint

open ClarityCheck.Text

/-! ## Characters -/

/-- A character that ends the head of a form or a declared name. -/
def isBoundary (c : Char) : Bool := isBlank c || c == '(' || c == ')'

/-- A character that may stand in a symbol of the contract language. -/
def isSymbolChar (c : Char) : Bool :=
  c.isAlphanum || c == '-' || c == '_' || c == '?' || c == '!' || c == '.' || c == '*' || c == '+'
    || c == '/'

/-- A character that the name of a declared function may hold. -/
def isNameChar (c : Char) : Bool :=
  c.isLower || c.isDigit || c == '-' || c == '?' || c == '!'

/-! ## Keywords -/

/-- The head that declares a public function. -/
def publicFunction : List Char := "define-public".toList

/-- The head that declares a data variable. -/
def dataVar : List Char := "define-data-var".toList

/-- The head that declares a map. -/
def dataMap : List Char := "define-map".toList

/-- The heads that declare a function. -/
def functionKeywords : List (List Char) :=
  [publicFunction, "define-private".toList, "define-read-only".toList]

/-- The heads that declare something at the top level of a contract. -/
def declarationKeywords : List (List Char) :=
  functionKeywords ++
    [dataVar, dataMap, "define-constant".toList, "define-fungible-token".toList,
      "define-non-fungible-token".toList, "define-trait".toList, "impl-trait".toList,
      "use-trait".toList]

/-- The heads that build a response. -/
def responseHeads : List (List Char) := ["ok".toList, "err".toList]

/-- The heads that count as a check of the caller. -/
def guardHeads : List (List Char) := ["is-eq".toList, "asserts!".toList]

/-- The word that names the caller of a contract. -/
def callerWord : List Char := "tx-sender".toList

/-! ## Forms -/

/-- What follows a head ends it: the text is over or goes on with a boundary character. -/
def endsHead (rest : List Char) : Bool := rest.head?.all isBoundary

/-- The text begins with the whole head and nothing that would lengthen it. -/
def opensWith (head text : List Char) : Bool :=
  match dropStart? head text with
  | some rest => endsHead rest
  | none => false

/-- Some opening parenthesis of the text has this head right behind it. -/
def containsForm (head : List Char) : List Char → Bool
  | [] => false
  | c :: s => (c == '(' && opensWith head s) || containsForm head s

/-- One of several heads stands behind some opening parenthesis of the text. -/
def containsAnyForm (heads : List (List Char)) (text : List Char) : Bool :=
  heads.any (containsForm · text)

/-! ## Words -/

/-- No symbol character stands here. -/
def isDelimiter (c : Option Char) : Bool := c.all (fun c => !isSymbolChar c)

/-- Looks for the word with delimiters on both sides, from left to right. `before` is the character
in front of the text. The search goes on behind an occurrence that a symbol character touches, so
`skip` characters of the text are passed over first. -/
def findsWord (word : List Char) (before : Option Char) (skip : Nat) : List Char → Bool
  | [] => false
  | c :: s =>
    match skip with
    | n + 1 => findsWord word (some c) n s
    | 0 =>
      match dropStart? word (c :: s) with
      | some rest =>
        (isDelimiter before && isDelimiter rest.head?) ||
          findsWord word (some c) (word.length - 1) s
      | none => findsWord word (some c) 0 s

/-- The word stands somewhere in the text with no symbol character beside it. -/
def containsWord (word text : List Char) : Bool := findsWord word none 0 text

/-! ## Lines -/

/-- The head of the form that a line opens with, and the text behind it. -/
def leadingForm? : List Char → Option (List Char × List Char)
  | '(' :: s => some (s.takeWhile (fun c => !isBoundary c), s.dropWhile (fun c => !isBoundary c))
  | _ => none

/-- The text without one opening parenthesis at its front. -/
def dropOpening : List Char → List Char
  | '(' :: s => s
  | s => s

/-- The name that a function form declares, read from the text behind its keyword. The name may be
wrapped together with its parameters, as in `(define-public (name args) body)`. -/
def declaredName (rest : List Char) : List Char :=
  (trimStart (dropOpening (trimStart rest))).takeWhile (fun c => !isBoundary c)

/-- A line that holds a comment and nothing else. -/
def isComment (line : List Char) : Bool := line.head? == some ';'

end ClarityCheck.Lint
