import ClarityCheck.Host.Utility.Basic

/-!
# Filters

Utilities that copy what they read to their output, all of it or a part, as it is or changed.
-/

namespace ClarityCheck.Host

/-- Copies everything. -/
def cat : Utility := fun j =>
  let letters := "nAbEsTuv".toList.map fun c => (c, false)
  j.withArguments letters none fun a =>
    let e := j.filter a.operands Job.plainly 1 fun e _ s => e.output s
    if a.has 'n' then
      let lines := e.written.foldl (fun (n, ws) w =>
        if w.1 = 1 then
          let pieces := w.2.foldr (fun c ps =>
            if c = '\n' then ['\n'] :: ps
            else match ps with
              | [] => [[c]]
              | p :: ps => (c :: p) :: ps) []
          pieces.foldl (fun (n, ws) line =>
            let digits := (toString (n + 1)).toList
            (n + 1, ws ++ [(1, List.replicate (6 - digits.length) ' ' ++ digits ++ '\t' :: line)]))
              (n, ws)
        else (n, ws ++ [w])) ((0 : Nat), ([] : List (Nat × Raw)))
      { e with written := lines.2 }
    else e

/-! ## Beginnings and ends -/

/-- The number of characters of the first lines of a text, added to a number. -/
def widthFrom (width : Nat) : (lines : Nat) → Raw → Nat
  | 0, _ => width
  | _, [] => width
  | n + 1, c :: s => widthFrom (width + 1) (if c = '\n' then n else n + 1) s

/-- The number of characters of the first lines of a text. -/
def widthOfLines (n : Nat) (s : Raw) : Nat := widthFrom 0 n s

/-- The other lines of a text. -/
def otherLines (n : Nat) (s : Raw) : Raw := s.drop (widthOfLines n s)

/-- The number of lines of a text, the last of which need not have an end. -/
def lineCount (s : Raw) : Nat :=
  s.count '\n' + if s.getLast?.any (· ≠ '\n') then 1 else 0

/-- How much is copied. -/
structure Amount where
  lines : Bool
  /-- The amount is what is left out at the other end. -/
  fromOther : Bool
  count : Nat

/-- Reads an amount, in front of which the given sign means what is left out. -/
def Amount.read? (lines : Bool) (sign : Char) (s : Raw) : Option Amount :=
  let (marked, digits) := match s with
    | c :: r => if c = sign then (true, r) else if c = '-' ∨ c = '+' then (false, r) else (false, s)
    | [] => (false, s)
  let (digits, factor) := match digits.getLast? with
    | some 'k' | some 'K' => (digits.dropLast, 1024)
    | some 'b' => (digits.dropLast, 512)
    | some 'm' | some 'M' => (digits.dropLast, 1048576)
    | _ => (digits, 1)
  (Raw.nat? digits).map fun n => ⟨lines, marked, n * factor⟩

/-- The arguments with an amount in short form written out. -/
def spellAmount (args : List Raw) : List Raw :=
  match args with
  | ('-' :: d :: r) :: rest =>
    if (Raw.nat? (d :: r)).isSome then ['-', 'n'] :: (d :: r) :: rest else args
  | args => args

/-- The width of the beginning of a source that is copied; nothing when it has to be waited for
without end. -/
def Amount.headWidth? (a : Amount) (s : Source) : Option Nat :=
  if a.fromOther then
    s.whole?.map fun t =>
      if a.lines then widthOfLines (lineCount t - a.count) t else t.length - a.count
  else if a.lines then
    let known := s.withLines a.count
    match s.after with
    | .ends => some (widthOfLines a.count known)
    | _ => if a.count ≤ known.count '\n' then some (widthOfLines a.count known) else none
  else (s.take? a.count).map (·.length)

/-- The end of a text that is copied. -/
def Amount.tail (a : Amount) (s : Raw) : Raw :=
  if a.fromOther then
    if a.lines then otherLines (a.count - 1) s else s.drop (a.count - 1)
  else if a.lines then otherLines (lineCount s - a.count) s
  else s.drop (s.length - a.count)

/-- Copies a part of each source, with headings between several. -/
def copyParts (j : Job) (sign : Char) (act : Amount → Effect → Raw → Source → Effect) : Effect :=
  let a := Job.Arguments.read
    [('n', true), ('c', true), ('q', false), ('v', false), ('f', false), ('s', true)] true
    (spellAmount j.arguments)
  let chosen := (a.options.filter fun o => o.1 = 'n' ∨ o.1 = 'c').getLast?
  match a.problem, chosen.map fun o => Amount.read? (o.1 = 'n') sign o.2 with
  | some m, _ => j.misused m
  | none, some none =>
    let (letter, value) := chosen.getD ('n', [])
    j.fails 1 ("invalid number of " ++ (if letter = 'n' then "lines" else "bytes") ++ ": '"
      ++ String.ofList value ++ "'")
  | none, amount =>
    let amount := (amount.getD none).getD ⟨true, false, 10⟩
    let operands := if a.operands.isEmpty then [['-']] else a.operands
    let headed := (1 < operands.length && !a.has 'q') || a.has 'v'
    (operands.foldl (fun (e, first) p =>
      match e.span, j.source p with
      | .takes _, .error err =>
        let m := "cannot open '".toList ++ p ++ "' for reading: ".toList ++ Job.reason err
        let m := if err = .isDirectory then
          "error reading '".toList ++ p ++ "': ".toList ++ Job.reason err else m
        ({ e with written := e.written ++ [j.complaint m], status := 1 }, first)
      | .takes _, .ok s =>
        let name := if p = ['-'] then "standard input".toList else p
        let e := if headed then
          e.output ((if first then [] else ['\n']) ++ "==> ".toList ++ name ++ " <==\n".toList)
            else e
        (act amount e p s, false)
      | _, _ => (e, first)) (j.nothing, true)).1

/-- Copies the beginning. -/
def head : Utility := fun j =>
  copyParts j '-' fun amount e p s =>
    match amount.headWidth? s with
    | some n => (e.output ((s.take? n).getD [])).leave p s n
    | none => { e.output s.known with span := s.span [] }

/-- Copies the end. -/
def tail : Utility := fun j =>
  copyParts j '+' fun amount e p s =>
    match s.whole? with
    | some t => (e.output (amount.tail t)).leave p s t.length
    | none => { e with span := s.span [] }

/-! ## Replacing characters -/

/-- The characters of a class. -/
def classMembers (name : String) : Raw :=
  let all := (List.range 128).map Char.ofNat
  match name with
  | "lower" => all.filter Char.isLower
  | "upper" => all.filter Char.isUpper
  | "digit" => all.filter Char.isDigit
  | "alpha" => all.filter Char.isAlpha
  | "alnum" => all.filter Char.isAlphanum
  | "space" => "\t\n\x0b\x0c\r ".toList
  | "blank" => "\t ".toList
  | "punct" => all.filter fun c => 0x20 < c.toNat && c.toNat < 0x7F && !c.isAlphanum
  | "cntrl" => all.filter fun c => c.toNat < 0x20 || c.toNat == 0x7F
  | "print" => all.filter fun c => 0x20 ≤ c.toNat && c.toNat < 0x7F
  | "graph" => all.filter fun c => 0x20 < c.toNat && c.toNat < 0x7F
  | "xdigit" => "0123456789ABCDEFabcdef".toList
  | _ => []

/-- The characters from one to another. -/
def range (a b : Char) : Raw :=
  (List.range (b.toNat + 1 - a.toNat)).map fun i => Char.ofNat (a.toNat + i)

/-- Replaces what backslashes start. The number of a character follows at once. What was replaced is
marked, so that it stands for itself alone. -/
def setCharsFrom : (fuel : Nat) → Raw → List (Char × Bool)
  | 0, s => s.map fun c => (c, false)
  | fuel + 1, s =>
    match s with
    | [] => []
    | '\\' :: c :: r =>
      if (Raw.octal? c).isSome then
        let p := Raw.cutOctal 3 (c :: r)
        (Char.ofNat (p.1 % 256), true) :: setCharsFrom fuel p.2
      else
        let d := match c with
          | 'a' => '\x07'
          | 'b' => '\x08'
          | 'f' => '\x0c'
          | 'n' => '\n'
          | 'r' => '\r'
          | 't' => '\t'
          | 'v' => '\x0b'
          | c => c
        (d, true) :: setCharsFrom fuel r
    | c :: r => (c, false) :: setCharsFrom fuel r

/-- Replaces ranges, classes and repetitions by the characters they hold, in at most `fuel` steps. A
repetition without a number is as long as `rest` says. -/
def setMembersFrom (rest : Nat) : (fuel : Nat) → List (Char × Bool) → Raw
  | 0, s => s.map (·.1)
  | fuel + 1, s =>
    match s with
    | [] => []
    | ('[', false) :: (':', false) :: r =>
      let name := r.takeWhile fun c => c.1 ≠ ':'
      match r.drop name.length with
      | (':', false) :: (']', false) :: more =>
        classMembers (String.ofList (name.map (·.1))) ++ setMembersFrom rest fuel more
      | _ => '[' :: setMembersFrom rest fuel ((':', false) :: r)
    | ('[', false) :: (c, _) :: ('*', false) :: r =>
      let digits := r.takeWhile fun d => d.1.isDigit
      match r.drop digits.length with
      | (']', false) :: more =>
        let n := ((Raw.cutNatural? (digits.map (·.1))).map (·.1)).getD 0
        List.replicate (if n = 0 then rest else n) c ++ setMembersFrom rest fuel more
      | _ => '[' :: setMembersFrom rest fuel (s.drop 1)
    | (a, _) :: ('-', false) :: (b, _) :: r => range a b ++ setMembersFrom rest fuel r
    | (c, _) :: r => c :: setMembersFrom rest fuel r

/-- The characters of a set. -/
def setMembers (rest : Nat) (s : Raw) : Raw :=
  let chars := setCharsFrom (s.length + 1) s
  setMembersFrom rest (chars.length + 1) chars

/-- The character that stands for another one: the one at the same place of the second set, or its
last one when that set is shorter. The last place of a character counts. -/
def replaced (first second : Raw) (c : Char) : Char :=
  match (first.zipIdx.filter fun m => m.1 == c).getLast? with
  | some (_, i) => (second[i]?.or second.getLast?).getD c
  | none => c

/-- Keeps one of several equal characters in a row, if they belong to a set. -/
def squeeze (isMember : Char → Bool) : Raw → Raw
  | a :: b :: s =>
    if a = b ∧ isMember a then squeeze isMember (b :: s) else a :: squeeze isMember (b :: s)
  | s => s

/-- Replaces the characters of one set by those of another, deletes them, or keeps one of several.
-/
def tr : Utility := fun j =>
  let letters := "cCdst".toList.map fun c => (c, false)
  let a := Job.Arguments.read letters false j.arguments
  let complement := a.has 'c' || a.has 'C'
  let most := if a.has 'd' == a.has 's' then 2 else if a.has 'd' then 1 else 2
  let least := if a.has 'd' == a.has 's' then 2 else 1
  let more (m : String) (line : String) : Effect :=
    let e := j.misused m
    { e with written := e.written.take 1 ++ [(2, line.toList)] ++ e.written.drop 1 }
  match a.problem, a.operands with
  | some m, _ => j.misused m
  | none, [] => j.misused "missing operand"
  | none, first :: others =>
    if others.length + 1 < least then
      more ("missing operand after '" ++ String.ofList first ++ "'")
        (if a.has 'd' then "Two strings must be given when both deleting and squeezing repeats.\n"
         else "Two strings must be given when translating.\n")
    else if most < others.length + 1 then
      let extra := String.ofList ((others[most - 1]?).getD [])
      if a.has 'd' ∧ !a.has 's' then
        more ("extra operand '" ++ extra ++ "'")
          "Only one string may be given when deleting without squeezing repeats.\n"
      else j.misused ("extra operand '" ++ extra ++ "'")
    else
      let set := setMembers 0 first
      let second := others.head?.map fun s => setMembers (set.length - (setMembers 0 s).length) s
      let isMember (c : Char) : Bool := set.contains c != complement
      let change (s : Raw) : Raw :=
        if a.has 'd' then
          let s := s.filter (!isMember ·)
          match second with
          | some second => if a.has 's' then squeeze second.contains s else s
          | none => s
        else
          match second with
          | some second =>
            let s := if complement then s.map fun c => if isMember c then second.getLastD c else c
              else s.map (replaced (if a.has 't' then set.take second.length else set) second)
            if a.has 's' then squeeze second.contains s else s
          | none => squeeze isMember s
      j.filter [] Job.plainly 1 fun e _ s => e.output (change s)

/-! ## Counting -/

/-- The number of words of a text. -/
def wordCount (s : Raw) : Nat :=
  (s.foldl (fun (n, inside) c =>
    if Raw.isSpace c then (n, false) else (if inside then n else n + 1, true)) (0, false)).1

/-- The length of the longest line of a text. -/
def longestLine (s : Raw) : Nat :=
  (s.foldl (fun (most, n) c => if c = '\n' then (max most n, 0) else (max most (n + 1), n + 1))
    (0, 0)).1

/-- A number behind blanks that fill a column. -/
def column (width n : Nat) : Raw :=
  let digits := (toString n).toList
  List.replicate (width - digits.length) ' ' ++ digits

/-- Counts lines, words and bytes. -/
def wc : Utility := fun j =>
  j.withArguments ("lwcmL".toList.map fun c => (c, false)) none fun a =>
    let letters := "lwmcL".toList.filter a.has
    let letters := if letters.isEmpty then "lwc".toList else letters
    let operands := if a.operands.isEmpty then [['-']] else a.operands
    let count (s : Raw) (c : Char) : Nat :=
      if c = 'l' then s.count '\n' else if c = 'w' then wordCount s
      else if c = 'L' then longestLine s else s.length
    let found := operands.map fun p => (p, j.source p)
    let sizes := found.filterMap fun
      | (_, .ok s) => if s.isFile then some s.text.length else none
      | _ => none
    let isWide := found.any fun
      | (_, .ok s) => !s.isFile
      | (_, .error e) => e = .isDirectory
    let least := if isWide then 7 else 1
    let width := if letters.length = 1 ∧ operands.length = 1 then 1
      else max least (toString (sizes.foldl (· + ·) 0)).length
    let row (counts : List Nat) (name : Raw) : Raw :=
      ((counts.map (column width)).intersperse [' ']).flatten
        ++ (if name.isEmpty then [] else ' ' :: name)
    let (e, totals) := found.foldl (fun (e, totals) f =>
      match f.2 with
      | .error err =>
        let e := { e with written := e.written ++ [j.pathComplaint f.1 err], status := 1 }
        (if err = .isDirectory then e.line (row (letters.map fun _ => 0) f.1) else e, totals)
      | .ok s =>
        match s.after with
        | .ends =>
          let counts := letters.map (count s.text)
          let e := e.line (row counts (if a.operands.isEmpty then [] else f.1))
          (e.leave f.1 s s.text.length, totals.zipWith (· + ·) counts)
        | _ => ({ e with span := s.span [] }, totals)) (j.nothing, letters.map fun _ => 0)
    if 1 < operands.length then e.line (row totals "total".toList) else e

/-- Copies its input to its output and to files. -/
def tee : Utility := fun j =>
  j.withArguments [('a', false), ('i', false)] none fun a =>
    let opened := j.onEach a.operands (fun files p =>
      if a.has 'a' then
        match files.read p with
        | .ok content => files.write p content
        | .error _ => files.write p []
      else files.write p []) Job.plainly
    let e := j.filter [] Job.plainly 1 fun e _ s => e.output s
    let text := e.written.flatMap fun w => if w.1 = 1 then Raw.bytes w.2 else []
    let files := a.operands.foldl (fun files p =>
      match files.read (Raw.path p) with
      | .ok content => ((files.write (Raw.path p) (content ++ text)).toOption).getD files
      | .error _ => files) opened.files
    { e with written := opened.written ++ e.written, status := opened.status, files }

end ClarityCheck.Host
