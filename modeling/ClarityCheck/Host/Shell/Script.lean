import ClarityCheck.Host.Raw

/-!
# Shell scripts

The commands of a script and the words they are made of. Words hold scripts, whose output takes
their place, and so the two kinds are defined together.
-/

namespace ClarityCheck.Host.Shell

/-- What becomes of what a file holds that is opened for writing. -/
inductive Opening where
  /-- It is dropped, unless the shell is told to keep it. -/
  | anew
  /-- It is dropped in any case. -/
  | over
  /-- It stays, and what is written comes behind it. -/
  | behind
  deriving DecidableEq, Repr

mutual

/-- A piece of a word. What is quoted is neither split into fields nor taken as a pattern. -/
inductive Part where
  | char (c : Char) (quoted : Bool)
  /-- Quotation marks make a field even when nothing is between them. -/
  | mark
  | parameter (name : Raw) (use : Use) (quoted : Bool)
  /-- What a script writes. -/
  | output (script : Script) (quoted : Bool)
  /-- The value of an arithmetic expression. -/
  | sum (expression : List Part) (quoted : Bool)

/-- What becomes of the value of a parameter. -/
inductive Use where
  | value
  /-- The number of its characters. -/
  | length
  /-- A word in place of a value that is missing; an empty one may count as missing. -/
  | orElse (alsoEmpty : Bool) (word : List Part)
  /-- A missing value becomes that of a word. -/
  | orAssign (alsoEmpty : Bool) (word : List Part)
  /-- A missing value is a fault. -/
  | orFail (alsoEmpty : Bool) (word : List Part)
  /-- A word in place of a value that is there. -/
  | andThen (alsoEmpty : Bool) (word : List Part)
  /-- Without the shortest or longest part at one of its ends that a pattern fits. -/
  | trim (atEnd longest : Bool) (pattern : List Part)
  /-- Nothing that can be done. -/
  | unknown

/-- Where a stream of a command goes. -/
inductive Redirection where
  /-- Into a file. -/
  | write (stream : Nat) (file : List Part) (opening : Opening)
  | read (stream : Nat) (file : List Part)
  /-- Where another stream goes; a dash closes the stream. -/
  | duplicate (stream : Nat) (other : List Part)
  /-- A text of the script itself, known by its number. -/
  | document (stream : Nat) (number : Nat)

/-- A script. -/
inductive Script where
  | nothing
  | simple (line : Nat) (assignments : List (Raw × List Part)) (words : List (List Part))
      (redirections : List Redirection)
  | redirected (line : Nat) (body : Script) (redirections : List Redirection)
  | subshell (line : Nat) (body : Script)
  | pipe (commands : List Script)
  | both (left right : Script)
  | either (left right : Script)
  | negated (body : Script)
  | sequence (first second : Script)
  | background (body : Script)
  | conditional (condition yes no : Script)
  /-- Repeats as long as the condition has the wanted outcome. -/
  | loop (wanted : Bool) (condition body : Script)
  | forEach (line : Nat) (name : Raw) (words : List (List Part)) (body : Script)
  | choose (line : Nat) (word : List Part) (cases : List (List (List Part) × Script))
  | define (name : Raw) (body : Script)
  /-- A script with the numbered texts that its redirections name. -/
  | documented (documents : List (Nat × List Part)) (body : Script)

end

/-- A word before it is expanded. -/
abbrev Word := List Part

instance : Inhabited Script := ⟨.nothing⟩

end ClarityCheck.Host.Shell
