import ClarityCheck.Host.Utility.Filter

/-!
# Utilities on lines

Utilities that put lines into another order, leave some of them out, or take them apart and
together.
-/

namespace ClarityCheck.Host

/-! ## Lines -/

/-- The lines of a text without their ends. -/
def linesOf (s : Raw) : List Raw :=
  match s with
  | [] => []
  | s =>
    let lines := s.foldr (fun c ps =>
      if c = '\n' then [] :: ps
      else match ps with
        | [] => [[c]]
        | p :: ps => (c :: p) :: ps) [[]]
    if lines.getLast? = some [] then lines.dropLast else lines

/-- Lines with their ends. -/
def joinLines (lines : List Raw) : Raw := lines.flatMap (· ++ ['\n'])

/-- Handles the lines of all operands as one list. -/
def onLines (j : Job) (operands : List Raw) (complain : Raw → SystemError → Raw) (failure : Nat)
    (act : Effect → List Raw → Effect) : Effect :=
  let e := j.filter operands complain failure fun e _ s => e.output (joinLines (linesOf s))
  let read := e.written.flatMap fun w => if w.1 = 1 then linesOf w.2 else []
  let others := e.written.filter (·.1 ≠ 1)
  match e.span with
  | .takes _ => act { e with written := others } read
  | _ => { e with written := others }

/-! ## Sorting -/

/-- How a part of a line is compared. -/
structure SortRule where
  numeric : Bool
  reversed : Bool
  folded : Bool
  blanks : Bool

/-- A part of a line, by the numbers of its first and its last field. -/
structure SortKey where
  first : Nat
  last : Option Nat
  rule : SortRule

/-- The order of texts by their bytes. -/
def compareRaw : Raw → Raw → Ordering
  | [], [] => .eq
  | [], _ :: _ => .lt
  | _ :: _, [] => .gt
  | a :: s, b :: r => if a < b then .lt else if b < a then .gt else compareRaw s r

/-- The number that a text begins with, in billionths. -/
def leadingNumber (s : Raw) : Int :=
  let s := s.dropWhile fun c => c == ' ' || c == '\t'
  let (negative, s) := match s with
    | '-' :: r => (true, r)
    | r => (false, r)
  let whole := s.takeWhile Char.isDigit
  let part := match s.drop whole.length with
    | '.' :: r => r.takeWhile Char.isDigit
    | _ => []
  let digits := whole ++ (part ++ List.replicate 9 '0').take 9
  let n : Int := ((Raw.nat? digits).getD 0 : Nat)
  if negative then -n else n

/-- Compares texts by a rule. -/
def SortRule.compare (r : SortRule) (a b : Raw) : Ordering :=
  let trim (s : Raw) : Raw := if r.blanks then s.dropWhile fun c => c == ' ' || c == '\t' else s
  let fold (s : Raw) : Raw := if r.folded then s.map Char.toUpper else s
  let o := if r.numeric then Ord.compare (leadingNumber a) (leadingNumber b)
    else compareRaw (fold (trim a)) (fold (trim b))
  if r.reversed then o.swap else o

/-- The fields of a line. Without a separator every field begins with the blanks before it. -/
def fieldsOf (separator : Option Char) (line : Raw) : List Raw :=
  match separator with
  | some c => line.foldr (fun d ps =>
      if d = c then [] :: ps
      else match ps with
        | [] => [[d]]
        | p :: ps => (d :: p) :: ps) [[]]
  | none =>
    let isBlank (c : Char) : Bool := c == ' ' || c == '\t'
    let step (c : Char) (ps : List Raw) : List Raw :=
      match ps with
      | [] => [[c]]
      | [] :: ps => [c] :: ps
      | (d :: p) :: ps =>
        if !isBlank c && isBlank d then [c] :: (d :: p) :: ps else (c :: d :: p) :: ps
    line.foldr step []

/-- The part of a line that a key names. -/
def SortKey.part (k : SortKey) (separator : Option Char) (line : Raw) : Raw :=
  let fields := (fieldsOf separator line).drop (k.first - 1)
  let fields := match k.last with
    | some n => fields.take (n + 1 - k.first)
    | none => fields
  match separator with
  | some c => (fields.intersperse [c]).flatten
  | none => fields.flatten

/-- Reads a key. Without letters of its own it follows the general rule. -/
def SortKey.read? (general : SortRule) (s : Raw) : Option SortKey :=
  let cut (s : Raw) : Nat × Raw × Raw :=
    let digits := s.takeWhile Char.isDigit
    let rest := s.drop digits.length
    let rest := match rest with
      | '.' :: r => r.dropWhile Char.isDigit
      | r => r
    ((Raw.nat? digits).getD 0, rest.takeWhile Char.isAlpha, rest.dropWhile Char.isAlpha)
  let (first, letters, rest) := cut s
  let (last, more) := match rest with
    | ',' :: r =>
      let (n, letters, _) := cut r
      (some n, letters)
    | _ => (none, [])
  let letters := letters ++ more
  if first = 0 then none
  else
    some ⟨first, last,
      if letters.isEmpty then general
      else ⟨letters.contains 'n', letters.contains 'r', letters.contains 'f', letters.contains 'b'⟩⟩

/-- Lines in an order, equal ones as they were. -/
def sortedBy (compare : Raw → Raw → Ordering) (lines : List Raw) : List Raw :=
  lines.mergeSort fun a b => compare a b != .gt

/-- Drops what equals the line before it. -/
def dropRepeated (same : Raw → Raw → Bool) : List Raw → List Raw
  | a :: b :: rest =>
    if same a b then dropRepeated same (a :: rest) else a :: dropRepeated same (b :: rest)
  | rest => rest
termination_by lines => lines.length

/-- Sorts lines. -/
def sort : Utility := fun j =>
  let letters :=
    ("nrufbscdgMhVmz".toList.map fun c => (c, false)) ++ [('k', true), ('t', true), ('o', true)]
  let a := Job.Arguments.read letters true j.arguments
  let general : SortRule := ⟨a.has 'n' || a.has 'g', a.has 'r', a.has 'f', a.has 'b'⟩
  let separator := (a.value? 't').bind List.head?
  let keys := (a.values 'k').filterMap (SortKey.read? general)
  let compareKeys (x y : Raw) : Ordering :=
    if keys.isEmpty then general.compare x y
    else keys.foldl (fun o k =>
      o.then (k.rule.compare (k.part separator x) (k.part separator y))) .eq
  let lastResort (x y : Raw) : Ordering :=
    if a.has 's' || a.has 'u' then .eq
    else if a.has 'r' then (compareRaw x y).swap else compareRaw x y
  let compare (x y : Raw) : Ordering := (compareKeys x y).then (lastResort x y)
  match a.problem with
  | some m => (j.misused m).ending 2
  | none =>
    let complain (p : Raw) (e : SystemError) : Raw :=
      if e = .isDirectory then "read failed: ".toList ++ Job.plainly p e
      else "cannot read: ".toList ++ Job.plainly p e
    let missing := a.operands.find? fun p => !(j.source p).toBool
    match missing.map fun p => (p, j.source p) with
    | some (p, .error e) =>
      { j.nothing with written := [j.complaint (complain p e)], status := 2 }
    | _ =>
      onLines j a.operands complain 2 fun e lines =>
        if a.has 'c' then
          let disorder := (lines.zip (lines.drop 1)).zipIdx.find? fun p =>
            compare p.1.1 p.1.2 == .gt || (a.has 'u' && compare p.1.1 p.1.2 == .eq)
          match disorder with
          | some ((_, x), i) =>
            let name := match a.operands with
              | [] => ['-']
              | p :: _ => p
            let m := name ++ ':' :: (toString (i + 2)).toList ++ ": disorder: ".toList ++ x
            { e with written := e.written ++ [j.complaint m], status := 1 }
          | none => e
        else
          let sorted := sortedBy compare lines
          let sorted := if a.has 'u' then dropRepeated (fun x y => compareKeys x y == .eq) sorted
            else sorted
          match a.value? 'o' with
          | some p =>
            match e.files.write (Raw.path p) (Raw.bytes (joinLines sorted)) with
            | .ok files => { e with files }
            | .error err =>
              let m := "open failed: ".toList ++ Job.plainly p err
              { e with written := e.written ++ [j.complaint m], status := 2 }
          | none => e.output (joinLines sorted)

/-! ## Repeated lines -/

/-- Lines in a row that are the same, with their number. -/
def groups (same : Raw → Raw → Bool) (lines : List Raw) : List (Raw × Nat) :=
  lines.foldr (fun line gs =>
    match gs with
    | [] => [(line, 1)]
    | (x, n) :: gs => if same line x then (line, n + 1) :: gs else (line, 1) :: (x, n) :: gs) []

/-- Leaves out lines that repeat the one before. -/
def uniq : Utility := fun j =>
  let letters := ("cdui".toList.map fun c => (c, false)) ++ [('f', true), ('s', true), ('w', true)]
  j.withArguments letters none fun a =>
    let key (s : Raw) : Raw :=
      let s := (List.range (((a.value? 'f').bind Raw.nat?).getD 0)).foldl
        (fun s _ => (s.dropWhile Raw.isSpace).dropWhile (!Raw.isSpace ·)) s
      let s := s.drop (((a.value? 's').bind Raw.nat?).getD 0)
      if a.has 'i' then s.map Char.toLower else s
    onLines j (a.operands.take 1) Job.plainly 1 fun e lines =>
      let gs := groups (fun x y => key x == key y) lines
      let gs := if a.has 'd' then gs.filter (1 < ·.2) else gs
      let gs := if a.has 'u' then gs.filter (·.2 = 1) else gs
      let row (g : Raw × Nat) : Raw := if a.has 'c' then column 7 g.2 ++ ' ' :: g.1 else g.1
      e.output (joinLines (gs.map row))

/-! ## Parts of lines -/

/-- Ranges of places, counted from one; a range without an end has no second number. -/
abbrev Places := List (Nat × Option Nat)

/-- Reads ranges. -/
def readPlaces? (s : Raw) : Option Places :=
  (fieldsOf (some ',') s).mapM fun r =>
    let first := r.takeWhile Char.isDigit
    match r.drop first.length with
    | [] => (Raw.nat? first).bind fun n => if n = 0 then none else some (n, some n)
    | '-' :: last =>
      if first.isEmpty ∧ last.isEmpty then none
      else if last.isEmpty then some ((Raw.nat? first).getD 1, none)
      else (Raw.nat? last).map fun n => ((Raw.nat? first).getD 1, some n)
    | _ => none

/-- A place is in one of the ranges. -/
def Places.holds (ps : Places) (n : Nat) : Bool :=
  ps.any fun p => p.1 ≤ n && (match p.2 with
    | some m => decide (n ≤ m)
    | none => true)

/-- The elements of a list at some places. -/
def Places.pick {α : Type} (ps : Places) (xs : List α) : List α :=
  (xs.zipIdx.filter fun x => ps.holds (x.2 + 1)).map (·.1)

/-- Takes parts of lines. -/
def cut : Utility := fun j =>
  let letters : Job.Letters :=
    [('b', true), ('c', true), ('f', true), ('d', true), ('s', false), ('n', false)]
  j.withArguments letters none fun a =>
    let separator := ((a.value? 'd').bind List.head?).getD '\t'
    match (a.value? 'b').or (a.value? 'c'), a.value? 'f' with
    | none, none => j.misused "you must specify a list of bytes, characters, or fields"
    | some _, some _ => j.misused "only one type of list may be specified"
    | chars, fields =>
      match readPlaces? ((chars.or fields).getD []) with
      | none =>
        if chars.isSome then j.misused "invalid byte or character range"
          else j.misused "invalid field range"
      | some places =>
        let part (line : Raw) : Option Raw :=
          if chars.isSome then some (places.pick line)
          else if !line.contains separator then if a.has 's' then none else some line
          else some ((places.pick (fieldsOf (some separator) line)).intersperse [separator]).flatten
        onLines j a.operands Job.plainly 1 fun e lines =>
          e.output (joinLines (lines.filterMap part))

/-! ## Other orders -/

/-- Turns lines round. -/
def rev : Utility := fun j =>
  onLines j j.arguments (fun p e => "cannot open ".toList ++ Job.plainly p e) 1 fun e lines =>
    e.output (joinLines (lines.map List.reverse))

/-- Writes lines from the last one on. -/
def tac : Utility := fun j =>
  onLines j j.arguments (fun p e => "failed to open '".toList ++ p ++ "' for reading: ".toList
      ++ Job.reason e) 1 fun e lines =>
    e.output (joinLines lines.reverse)

/-- Numbers lines that are not empty. -/
def nl : Utility := fun j =>
  j.withArguments [('b', true), ('w', true), ('s', true), ('n', true), ('v', true)] none fun a =>
    let width := ((a.value? 'w').bind Raw.nat?).getD 6
    let separator := (a.value? 's').getD ['\t']
    let first := ((a.value? 'v').bind Raw.nat?).getD 1
    onLines j a.operands Job.plainly 1 fun e lines =>
      let (rows, _) := lines.foldl (fun (rows, n) line =>
        if line.isEmpty && a.value? 'b' ≠ some ['a'] then
          (rows ++ [List.replicate (width + separator.length) ' '], n)
        else (rows ++ [column width n ++ separator ++ line], n + 1)) (([] : List Raw), first)
      e.output (joinLines rows)

/-- Puts the lines of several sources beside each other. -/
def paste : Utility := fun j =>
  j.withArguments [('d', true), ('s', false)] none fun a =>
    let signs := (a.value? 'd').getD ['\t']
    let signs := if signs.isEmpty then [['\x00']]
      else (setCharsFrom (signs.length + 1) signs).map fun c => [c.1]
    let operands := if a.operands.isEmpty then [['-']] else a.operands
    let join (cells : List Raw) : Raw :=
      (cells.zipIdx.flatMap fun c =>
        (if c.2 = 0
          then [] else ((signs[(c.2 - 1) % signs.length]?).getD []).filter (· ≠ '\x00')) ++ c.1)
    let found := operands.map fun p => (p, j.source p)
    match found.find? fun f => !f.2.toBool with
    | some (p, .error err) =>
      { j.nothing with written := [j.pathComplaint p err], status := 1 }
    | _ =>
      let columns := found.map fun f => linesOf ((f.2.toOption.map Source.known).getD [])
      let rows :=
        if a.has 's' then columns.map join
        else
          let height := (columns.map List.length).foldl max 0
          (List.range height).map fun i => join (columns.map fun c => c.getD i [])
      j.writes (joinLines rows)

end ClarityCheck.Host
