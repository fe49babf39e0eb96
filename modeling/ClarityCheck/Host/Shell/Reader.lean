import ClarityCheck.Host.Shell.Token

/-!
# Reading scripts

A script is read one line of commands at a time, so that what stands before a mistake is run. The
readers of commands that hold others take the reader of lists of commands as an argument; `commands`
ties them together.
-/

namespace ClarityCheck.Host.Shell

/-- The commands that are part of the language: they cannot be defined anew, and their failure ends
a script. -/
def specialCommands : List String :=
  [".", ":", "break", "continue", "eval", "exec", "exit", "export", "local", "readonly", "return",
    "set", "shift", "times", "trap", "unset"]

/-- A name that a variable or a function may have. -/
def isName : Raw → Bool
  | [] => false
  | c :: s => Token.isNameStart c && s.all Token.isNameChar

namespace Reader

/-! ## Simple commands -/

/-- Splits a word into a name and the value assigned to it. -/
def assignment? (w : Word) : Option (Raw × Word) :=
  let isLetter : Part → Bool
    | .char c false => Token.isNameChar c
    | _ => false
  match Token.plain? (w.takeWhile isLetter), w.dropWhile isLetter with
  | some name, .char '=' false :: value => if isName name then some (name, value) else none
  | _, _ => none

/-- The parts of a simple command, as far as they have been read. -/
structure Simple where
  assignments : List (Raw × Word) := []
  words : List Word := []
  redirections : List Redirection := []

variable (list : (mayBeEmpty : Bool) → Reader Script)

/-- Takes the next token. -/
def next : Reader Token := do
  match (← get).ahead with
  | some t => modify fun c => { c with ahead := none }; return t
  | none => Token.cut (list true)

/-- Looks at the next token. -/
def peek : Reader Token := do
  let t ← next list
  modify fun c => { c with ahead := some t }
  return t

/-- Drops the token that was looked at. -/
def drop : Reader Unit := modify fun c => { c with ahead := none }

/-- Drops the ends of lines, of which there are at most `fuel`, and looks at what follows. -/
def skipNewlines : (fuel : Nat) → Reader Token
  | 0 => peek list
  | fuel + 1 => do
    match ← peek list with
    | .newline => drop; skipNewlines fuel
    | t => return t

/-- Looks at the first token of the next line that has one. -/
def peekBelow : Reader Token := do skipNewlines list ((← get).text.length + 2)

/-- Takes a word that has to come. -/
def word (wanted : Option String) : Reader Word := do
  match ← next list with
  | .word w => return w
  | t => t.unexpected wanted

/-- Takes a keyword that has to come. -/
def keyword (k : String) : Reader Unit := do
  let t ← next list
  if t.keyword? = some k then return () else t.unexpected (some ("\"" ++ k ++ "\""))

/-- Takes an operator that has to come. -/
def operator (o : String) : Reader Unit := do
  match ← next list with
  | .operator p =>
    if p = o then return () else Token.unexpected (.operator p) (some ("\"" ++ o ++ "\""))
  | t => t.unexpected (some ("\"" ++ o ++ "\""))

/-- Takes the word behind the sign of a redirection. -/
def redirection (stream : Nat) (sign : String) : Reader Redirection := do
  let w ← word list none
  match sign with
  | ">>" => return .write stream w .behind
  | ">|" => return .write stream w .over
  | "<" => return .read stream w
  | ">&" | "<&" => return .duplicate stream w
  | "<<" | "<<-" =>
    let c ← get
    let number := c.announced.length + c.documents.length
    let (delimiter, literal) := Token.delimiterOf w
    let a : Announced := ⟨number, delimiter, literal, sign = "<<-"⟩
    set { c with announced := c.announced ++ [a] }
    return .document stream number
  | _ => return .write stream w .anew

/-- Takes redirections, of which there are at most `fuel`. -/
def redirections : (fuel : Nat) → Reader (List Redirection)
  | 0 => return []
  | fuel + 1 => do
    match ← peek list with
    | .redirect n o =>
      drop
      let r ← redirection list n o
      (r :: ·) <$> redirections fuel
    | _ => return []

/-- Reads the body of a function. -/
def function (command : Reader Script) (name : Word) : Reader Script := do
  match ← next list with
  | .operator ")" => pure ()
  | .word _ => Token.unexpected (.word [.mark]) (some "\")\"")
  | t => t.unexpected (some "\")\"")
  match Token.plain? name with
  | some n =>
    if isName n ∧ !specialCommands.contains (String.ofList n) then
      let _ ← peekBelow list
      let body ← command
      return .define n body
    else fail "Bad function name"
  | none => fail "Bad function name"

/-- Reads the parts of a simple command, of which there are at most `fuel`. -/
def simpleFrom (command : Reader Script) (line : Nat) : (fuel : Nat) → Simple → Reader Script
  | 0, s => return .simple line s.assignments s.words s.redirections
  | fuel + 1, s => do
    match ← peek list with
    | .word w =>
      drop
      match s.words, assignment? w with
      | [], some a => simpleFrom command line fuel { s with assignments := s.assignments ++ [a] }
      | words, _ => simpleFrom command line fuel { s with words := words ++ [w] }
    | .redirect n o =>
      drop
      let r ← redirection list n o
      simpleFrom command line fuel { s with redirections := s.redirections ++ [r] }
    | .operator "(" =>
      match s with
      | ⟨[], [name], []⟩ => drop; function list command name
      | s => return .simple line s.assignments s.words s.redirections
    | _ => return .simple line s.assignments s.words s.redirections

/-! ## Commands that hold others -/

/-- Takes words, of which there are at most `fuel`. -/
def words : (fuel : Nat) → Reader (List Word)
  | 0 => return []
  | fuel + 1 => do
    match ← peek list with
    | .word w => drop; (w :: ·) <$> words fuel
    | _ => return []

/-- Takes the patterns in front of a parenthesis. -/
def patterns : (fuel : Nat) → Reader (List Word)
  | 0 => return []
  | fuel + 1 => do
    let w ← word list (some "\")\"")
    match ← next list with
    | .operator "|" => (w :: ·) <$> patterns fuel
    | .operator ")" => return [w]
    | t => t.unexpected (some "\")\"")

/-- Reads the cases of a choice, of which there are at most `fuel`. -/
def cases : (fuel : Nat) → Reader (List (List Word × Script))
  | 0 => return []
  | fuel + 1 => do
    match ← peekBelow list with
    | .operator "(" => drop
    | t =>
      if t.keyword? = some "esac" then
        drop
        return []
    let ps ← patterns list (fuel + 1)
    let body ← list true
    let t ← peekBelow list
    match t with
    | .operator ";;" => drop; ((ps, body) :: ·) <$> cases fuel
    | _ =>
      if t.keyword? = some "esac" then drop; return [(ps, body)]
      else t.unexpected (some "\";;\"")

/-- Reads a condition and the branches behind it, of which there are at most `fuel`. -/
def branches : (fuel : Nat) → Reader Script
  | 0 => return .nothing
  | fuel + 1 => do
    let condition ← list false
    keyword list "then"
    let yes ← list false
    match (← peek list).keyword? with
    | some "elif" => drop; return .conditional condition yes (← branches fuel)
    | some "else" =>
      drop
      let no ← list false
      keyword list "fi"
      return .conditional condition yes no
    | _ =>
      keyword list "fi"
      return .conditional condition yes .nothing

/-- Reads the body of a loop. -/
def body : Reader Script := do
  let _ ← peekBelow list
  keyword list "do"
  let b ← list false
  keyword list "done"
  return b

/-- Reads a loop over words, behind its first word. -/
def forEach (line size : Nat) : Reader Script := do
  let name ← match ← next list with
    | .word w =>
      match (Token.plain? w).filter isName with
      | some n => pure n
      | none => fail "Bad for loop variable"
    | _ => fail "Bad for loop variable"
  let t ← peekBelow list
  if t.keyword? = some "in" then
    drop
    let ws ← words list size
    match ← next list with
    | .newline | .operator ";" => return .forEach line name ws (← body list)
    | t => t.unexpected none
  else
    match t with
    | .operator ";" => drop
    | _ => pure ()
    return .forEach line name [[.parameter ['@'] .value true]] (← body list)

/-- Reads a choice, behind its first word. -/
def choice (line size : Nat) : Reader Script := do
  let w ← word list (some "word")
  let _ ← peekBelow list
  keyword list "in"
  return .choose line w (← cases list size)

/-- The body of a command that begins with a keyword. -/
def compound? (start : String) (line size : Nat) : Option (Reader Script) :=
  match start with
  | "if" => some (branches list size)
  | "while" | "until" => some do
    let condition ← list false
    return .loop (start = "while") condition (← body list)
  | "for" => some (forEach list line size)
  | "case" => some (choice list line size)
  | "\x7b" => some do
    let b ← list false
    keyword list "\x7d"
    return b
  | _ => none

/-- Reads the redirections behind a command that holds others. -/
def withRedirections (line size : Nat) (c : Script) : Reader Script := do
  match ← redirections list size with
  | [] => return c
  | rs => return .redirected line c rs

/-- Puts the text of another name in the place of a word that stands for it, at most `fuel` times.
-/
def expandAliases : (fuel : Nat) → (used : List Raw) → Reader Unit
  | 0, _ => return ()
  | fuel + 1, used => do
    let t ← peek list
    match t, t.keyword? with
    | .word w, none =>
      let aliases := (← get).aliases
      match (Token.plain? w).bind fun n => (aliases.lookup n).map fun v => (n, v) with
      | some (n, v) =>
        if used.contains n then return ()
        else
          modify fun c => { c with ahead := none, text := v ++ c.text }
          expandAliases fuel (n :: used)
      | none => return ()
    | _, _ => return ()

/-- Reads a command. Functions are nested at most `fuel` deep. -/
def command : (fuel : Nat) → Reader Script
  | 0 => return .nothing
  | fuel + 1 => do
    expandAliases list ((← get).aliases.length + 1) []
    let t ← peek list
    let c ← get
    let size := c.text.length + 2
    match t with
    | .operator "(" =>
      drop
      let b ← list false
      operator list ")"
      withRedirections list c.line size (.subshell c.line b)
    | .redirect .. => simpleFrom list (command fuel) c.line size {}
    | .word _ =>
      match t.keyword? with
      | some k =>
        match compound? list k c.line size with
        | some r =>
          drop
          withRedirections list c.line size (← r)
        | none => t.unexpected none
      | none => simpleFrom list (command fuel) c.line size {}
    | _ => t.unexpected none

/-! ## Chains of commands -/

/-- Reads the commands of a pipe behind the first one, of which there are at most `fuel`. -/
def pipeRest : (fuel : Nat) → Reader (List Script)
  | 0 => return []
  | fuel + 1 => do
    match ← peek list with
    | .operator "|" =>
      drop
      let _ ← peekBelow list
      let c ← command list (fuel + 1)
      (c :: ·) <$> pipeRest fuel
    | _ => return []

/-- Reads commands between which pipes stand, negated if an exclamation mark comes first. -/
def pipeline (size : Nat) : Reader Script := do
  let negated := (← peek list).keyword? = some "!"
  if negated then drop
  let first ← command list size
  let p := match ← pipeRest list size with
    | [] => first
    | rest => .pipe (first :: rest)
  return if negated then .negated p else p

/-- Reads the rest of a chain of commands that depend on each other's outcome. -/
def chainFrom : (fuel : Nat) → Script → Reader Script
  | 0, left => return left
  | fuel + 1, left => do
    match ← peek list with
    | .operator "&&" =>
      drop
      let _ ← peekBelow list
      chainFrom fuel (.both left (← pipeline list (fuel + 1)))
    | .operator "||" =>
      drop
      let _ ← peekBelow list
      chainFrom fuel (.either left (← pipeline list (fuel + 1)))
    | _ => return left

/-- Reads a chain of commands. -/
def chain : Reader Script := do
  let size := (← get).text.length + 2
  chainFrom list size (← pipeline list size)

end Reader

namespace Token

/-- A list of commands ends before this token. -/
def closes (t : Token) : Bool :=
  match t with
  | .finish | .operator ")" | .operator ";;" => true
  | t => t.keyword?.any
    ["then", "else", "elif", "fi", "do", "done", "esac", "\x7d"].contains

end Token

namespace Reader

/-- Reads commands one after the other over several lines, up to a token that ends them. -/
def commands : (fuel : Nat) → (mayBeEmpty : Bool) → Reader Script
  | 0, _ => return .nothing
  | fuel + 1, mayBeEmpty => do
    let t ← peekBelow (commands fuel)
    match t with
    | .finish => return .nothing
    | _ =>
      if mayBeEmpty && t.closes then return .nothing
      let first ← chain (commands fuel)
      match ← peek (commands fuel) with
      | .operator ";" => drop; return .sequence first (← commands fuel true)
      | .operator "&" => drop; return .sequence (.background first) (← commands fuel true)
      | .newline => return .sequence first (← commands fuel true)
      | _ => return first

/-- Reads the commands of one line, at most `fuel` of them. -/
def lineRest (list : (mayBeEmpty : Bool) → Reader Script) : (fuel : Nat) → Reader Script
  | 0 => return .nothing
  | fuel + 1 => do
    let first ← chain list
    let behind (first : Script) : Reader Script := do
      match ← peek list with
      | .finish => return first
      | .newline => drop; return first
      | _ => return .sequence first (← lineRest list fuel)
    match ← peek list with
    | .finish => return first
    | .newline => drop; return first
    | .operator ";" => drop; behind first
    | .operator "&" => drop; behind (.background first)
    | t => t.unexpected none

/-- Reads the commands of one line; nothing is left to read when there is no script. -/
def line : (fuel : Nat) → Reader (Option Script)
  | 0 => return none
  | fuel + 1 => do
    let list := commands fuel
    match ← peek list with
    | .finish => return none
    | .newline => drop; return some .nothing
    | _ => some <$> lineRest list (fuel + 1)

end Reader

/-- Where the reading of a text begins. -/
def Cursor.start (text : Raw) : Cursor := ⟨text, 1, none, [], [], []⟩

/-- Reads the commands of the next line of a script. -/
def Cursor.nextLine (c : Cursor) : Except Problem (Option Script × Cursor) :=
  let texts := c.aliases.flatMap (·.2)
  (Reader.line (2 * c.text.length + texts.length + 2)).run { c with documents := [] } |>.map
      fun r =>
    (r.1.map fun s => if r.2.documents.isEmpty then s else .documented r.2.documents s, r.2)

end ClarityCheck.Host.Shell
