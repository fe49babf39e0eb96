import ClarityCheck.Host.Shell.Arithmetic
import ClarityCheck.Host.Shell.Pattern
import ClarityCheck.Host.Shell.Reader
import ClarityCheck.Host.Shell.Task

/-!
# Expanding words

Parameters and the output of scripts take the place of their names, what is not quoted is split into
fields at separators, and fields that are patterns become the paths they fit.
-/

namespace ClarityCheck.Host.Shell

/-- A piece of a word whose parameters have been replaced. -/
inductive Piece where
  | chars (f : Field)
  | mark
  /-- A value that is split into fields. -/
  | split (s : Raw)
  /-- The place between two fields. What stands on both sides are fields even when they are empty.
  -/
  | boundary
  /-- The place between two fields that may be empty and are none then. -/
  | gap
  /-- There was nothing where quoted values were named. -/
  | absent

namespace Piece

/-! ## Fields -/

/-- The fields that are complete, and the one that is not. -/
abbrev Open := List Field × Option Field

/-- Characters join the last field. -/
def extend (o : Open) (f : Field) : Open := (o.1, some (o.2.getD [] ++ f))

/-- The last field is complete. -/
def close (o : Open) : Open := (o.1 ++ o.2.toList, none)

/-- A separator that is a blank. -/
def isBlank (c : Char) : Bool := c == ' ' || c == '\t' || c == '\n'

/-- A value is split at separators. Blanks at the front of a field are left out; behind a field one
other separator and the blanks around it belong to its end. `pending` tells that such a separator
may still come. -/
def addSplit (separators : Raw) (o : Open) (behind pending : Bool) : Raw → Open
  | [] => o
  | c :: s =>
    if !separators.contains c then addSplit separators (extend o [(c, false)]) false false s
    else if isBlank c then
      if behind || o.2.isNone then addSplit separators o behind pending s
      else addSplit separators (close o) true true s
    else if behind && pending then addSplit separators o true false s
    else addSplit separators (close (extend o [])) true false s

/-- A piece joins the fields before it. -/
def add (separators : Raw) (o : Open) : Piece → Open
  | .chars f => extend o f
  | .mark => extend o []
  | .split s => addSplit separators o false false s
  | .boundary => extend (close (extend o [])) []
  | .gap => close o
  | .absent => if o.2 = some [] then (o.1, none) else o

/-- The fields that pieces make. -/
def fieldsOf (separators : Raw) (ps : List Piece) : List Field :=
  (close (ps.foldl (add separators) ([], none))).1

/-- What pieces read when nothing is split. -/
def textOf (ps : List Piece) : Raw :=
  ps.flatMap fun
    | .chars f => f.text
    | .split s => s
    | .boundary | .gap => [' ']
    | .mark | .absent => []

/-- The pattern that pieces make when nothing is split. -/
def patternOf (ps : List Piece) : Field :=
  ps.flatMap fun
    | .chars f => f
    | .split s => Field.plain s
    | .boundary | .gap => [(' ', true)]
    | .mark | .absent => []

/-- Puts a piece in front of others. Characters join those that are quoted like them. -/
def joinTo : Piece → List Piece → List Piece
  | .chars [c], .chars (d :: f) :: ps =>
    if c.2 = d.2 then .chars (c :: d :: f) :: ps else .chars [c] :: .chars (d :: f) :: ps
  | p, ps => p :: ps

/-- A piece of a word that stands for a parameter: what is not quoted in it is split. -/
def asValue (quoted : Bool) : Piece → Piece
  | .chars f =>
    if !quoted && f.all (fun c => !c.2) then .split f.text else .chars f
  | p => p

end Piece

/-! ## Home directories -/

/-- The home directories of users other than the one who runs the shell. -/
def homes : List (String × String) := [("root", "/root")]

/-- Puts the home directory in the place of a tilde that a word begins with. -/
def Word.withHome (t : Task) (inAssignment : Bool) (w : Word) : List Piece × Word :=
  match w with
  | .char '~' false :: rest =>
    let isEnd : Part → Bool
      | .char c false => c == '/' || (inAssignment && c == ':')
      | _ => false
    match Token.plain? (rest.takeWhile (!isEnd ·)) with
    | none => ([], w)
    | some user =>
      let home :=
        if user = [] then t.value? "HOME".toList
        else (homes.lookup (String.ofList user)).map String.toList
      match home with
      | some h => ([.chars (Field.literal h)], rest.dropWhile (!isEnd ·))
      | none => ([], w)
  | w => ([], w)

/-! ## Parameters -/

/-- Something that runs a script for what it writes. -/
abbrev Capture := Script → Deed Raw

/-- A shell that does not accept missing values complains about one. -/
def demandValue (name : Raw) (v : Option Raw) : Deed Raw := do
  match v with
  | some v => return v
  | none =>
    if (← get).rules.contains 'u' ∧ name ≠ ['@'] ∧ name ≠ ['*'] then
      Deed.fail (name ++ ": parameter not set".toList)
    else return []

/-- Sets a variable, unless its value cannot be changed. -/
def setVariable (name value : Raw) : Deed Unit := do
  if ((← get).lookup? name).any (·.constant) then Deed.fail (name ++ ": is read only".toList)
  else modify (·.assign name value)

/-- The pieces of all arguments. -/
def argumentPieces (t : Task) (together quoted : Bool) : List Piece :=
  if quoted && together then
    let between := match t.value? "IFS".toList with
      | some (c :: _) => [c]
      | some [] => []
      | none => [' ']
    [.chars (Field.literal (t.arguments.intersperse between).flatten)]
  else if quoted then
    if t.arguments.isEmpty then [.absent]
    else (t.arguments.map fun a => [Piece.chars (Field.literal a)]).intersperse
      [.boundary] |>.flatten
  else (t.arguments.map fun a => [Piece.split a]).intersperse [.gap] |>.flatten

/-- A value as a piece. -/
def valuePiece (quoted : Bool) (v : Raw) : Piece :=
  if quoted then .chars (Field.literal v) else .split v

/-- Replaces a parameter, where `pieces` expands a word. -/
def parameterPieces (pieces : (quoted : Bool) → Word → Deed (List Piece)) (name : Raw) (use : Use)
    (quoted : Bool) : Deed (List Piece) := do
  let t ← get
  let v := t.parameter? name
  let isMissing (alsoEmpty : Bool) : Bool := match v with
    | none => true
    | some s => alsoEmpty && s.isEmpty
  let own : List Piece :=
    if name = ['@'] ∨ name = ['*'] then argumentPieces t (name = ['*']) quoted
    else [valuePiece quoted (v.getD [])]
  let inPlace (w : Word) : Deed (List Piece) := do
    return (← pieces quoted w).map (Piece.asValue quoted)
  match use with
  | .value => let _ ← demandValue name v; return own
  | .length =>
    let s ← demandValue name v
    return [valuePiece quoted (toString s.length).toList]
  | .orElse alsoEmpty w => if isMissing alsoEmpty then inPlace w else return own
  | .andThen alsoEmpty w => if isMissing alsoEmpty then return [] else inPlace w
  | .orAssign alsoEmpty w =>
    if isMissing alsoEmpty then
      if isName name then
        let s := Piece.textOf (← pieces quoted w)
        setVariable name s
        return [valuePiece quoted s]
      else Deed.fail (name ++ ": bad variable name".toList)
    else return own
  | .orFail alsoEmpty w =>
    if isMissing alsoEmpty then
      if w.isEmpty then
        let more := if alsoEmpty then " or null" else ""
        Deed.fail (name ++ (": parameter not set" ++ more).toList)
      else
        let message := Piece.textOf (← pieces quoted w)
        Deed.fail (name ++ ": ".toList ++ message)
    else return own
  | .trim atEnd longest w =>
    let s ← demandValue name v
    let p := Piece.patternOf (← pieces false w)
    return [valuePiece quoted (Field.trim atEnd longest p s)]
  | .unknown => Deed.fail "Bad substitution".toList

/-- Drops the ends of lines at the end of a text, and what no argument can hold. -/
def asArgument (s : Raw) : Raw :=
  ((s.filter (· ≠ '\x00')).reverse.dropWhile (· = '\n')).reverse

/-- The value of an arithmetic expression. -/
def sumOf (s : Raw) : Deed Raw := do
  let t ← get
  match Arithmetic.evaluate t.value? s with
  | .ok (n, assigned) =>
    assigned.reverse.forM fun a => setVariable a.1 (toString a.2).toList
    return (toString n).toList
  | .error m => Deed.fail m.toList

/-! ## Words -/

/-- Replaces what a part of a word names, where `inner` expands a word within it. -/
def Part.pieces (capture : Capture) (inner : Word → Deed (List Piece)) :
    Part → Deed (List Piece)
  | .char c quoted => return [.chars [(c, quoted)]]
  | .mark => return [.mark]
  | .parameter name use quoted => do
    let within (quoted : Bool) (w : Word) : Deed (List Piece) := do
      let t ← get
      let (home, w) := if quoted then ([], w) else Word.withHome t false w
      return home ++ (← inner w)
    parameterPieces within name use quoted
  | .output script quoted => return [valuePiece quoted (asArgument (← capture script))]
  | .sum expression quoted => do
    let s := Piece.textOf (← inner expression)
    return [valuePiece quoted (← sumOf s)]

/-- Replaces what the parts of a word name. Words stand in each other at most `fuel` deep. -/
def Word.piecesWithin (capture : Capture) : (fuel : Nat) → Word → Deed (List Piece)
  | 0, _ => return []
  | fuel + 1, w => do
    let inner := Word.piecesWithin capture fuel
    let found ← w.foldlM (fun ps p => do return (← p.pieces capture inner).reverse ++ ps) []
    return found.foldl (fun ps p => Piece.joinTo p ps) []

/-- How deep words may stand in each other. -/
def wordDepth : Nat := 1000

/-- Replaces what the parts of a word name. -/
def Word.pieces (capture : Capture) (w : Word) : Deed (List Piece) := do
  let t ← get
  let (home, w) := Word.withHome t false w
  return home ++ (← Word.piecesWithin capture wordDepth w)

/-- The text of a word that is not split. -/
def Word.text (capture : Capture) (w : Word) : Deed Raw := Piece.textOf <$> Word.pieces capture w

/-- The pieces of a value between colons, in at most `fuel` steps. Behind each colon a home
directory may be named. -/
def valuePieces (capture : Capture) : (fuel : Nat) → Word → Deed (List Piece)
  | 0, _ => return []
  | fuel + 1, w => do
    let isColon : Part → Bool
      | .char ':' false => true
      | _ => false
    let (home, first) := Word.withHome (← get) true (w.takeWhile (!isColon ·))
    let ps ← Word.piecesWithin capture wordDepth first
    match w.dropWhile (!isColon ·) with
    | [] => return home ++ ps
    | _ :: rest => return home ++ ps ++ .chars [(':', false)] :: (← valuePieces capture fuel rest)

/-- The text that is assigned to a variable. -/
def Word.value (capture : Capture) (w : Word) : Deed Raw :=
  Piece.textOf <$> valuePieces capture (w.length + 1) w

/-- The arguments that a word stands for. -/
def Word.arguments (capture : Capture) (w : Word) : Deed (List Raw) := do
  let ps ← Word.pieces capture w
  let t ← get
  let separators := (t.value? "IFS".toList).getD " \t\n".toList
  let fields := Piece.fieldsOf separators ps
  return fields.flatMap fun f =>
    if t.rules.contains 'f' then [f.text] else Field.expand t.files f

/-- The arguments that several words stand for. -/
def argumentsOf (capture : Capture) (ws : List Word) : Deed (List Raw) :=
  ws.foldlM (fun as w => do return as ++ (← Word.arguments capture w)) []

end ClarityCheck.Host.Shell
