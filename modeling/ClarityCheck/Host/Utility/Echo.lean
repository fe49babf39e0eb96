import ClarityCheck.Decimal.Binary64
import ClarityCheck.Host.Utility.Basic

/-!
# Writing arguments

`echo` writes its arguments with blanks between them, `printf` as a format says. Both know signs
that a backslash starts.
-/

namespace ClarityCheck.Host

/-! ## Signs behind a backslash -/

/-- The sign that a backslash and a letter stand for. -/
def escapedSign? : Char → Option Char
  | 'a' => some '\x07'
  | 'b' => some '\x08'
  | 'e' => some '\x1b'
  | 'f' => some '\x0c'
  | 'n' => some '\n'
  | 'r' => some '\r'
  | 't' => some '\t'
  | 'v' => some '\x0b'
  | '\\' => some '\\'
  | '"' => some '"'
  | _ => none

/-- The character of a number in a byte. -/
def byteChar (n : Nat) : Char := Char.ofNat (n % 256)

/-- Replaces what backslashes start, in at most `fuel` steps. A number in base eight may have a zero
in front of its three digits. The second part tells that nothing may follow. -/
def unescapeFrom : (fuel : Nat) → Raw → Raw × Bool
  | 0, s => (s, false)
  | fuel + 1, s =>
    let go (c : Char) (r : Raw) : Raw × Bool :=
      let p := unescapeFrom fuel r
      (c :: p.1, p.2)
    match s with
    | [] => ([], false)
    | '\\' :: 'c' :: _ => ([], true)
    | '\\' :: c :: r =>
      if (Raw.octal? c).isSome then
        let p := Raw.cutOctal (if c = '0' then 4 else 3) (c :: r)
        go (byteChar p.1) p.2
      else
        match escapedSign? c with
        | some d => go d r
        | none => go '\\' (c :: r)
    | c :: r => go c r

/-- Replaces what backslashes start. -/
def unescape (s : Raw) : Raw × Bool := unescapeFrom (s.length + 1) s

/-- Arguments with blanks between them. -/
def joinBlank (args : List Raw) : Raw := (args.intersperse [' ']).flatten

/-- Writes the arguments and the end of a line, which a first argument `-n` takes away. -/
def echo (escapes : Bool) : Utility := fun j =>
  let isFlag (a : Raw) : Bool := match a with
    | '-' :: c :: s => if escapes then a == ['-', 'n'] else (c :: s).all "neE".toList.contains
    | _ => false
  let flags := (if escapes then j.arguments.take 1 else j.arguments).takeWhile isFlag
  let letters := flags.flatten
  let text := joinBlank (j.arguments.drop flags.length)
  let (s, stopped) := if escapes || letters.contains 'e' then unescape text else (text, false)
  j.writes (if letters.contains 'n' || stopped then s else s ++ ['\n'])

/-! ## Formats -/

/-- How a format shows an argument. -/
structure Directive where
  flags : Raw
  width : Nat
  precision : Option Nat
  kind : Char

/-- Fills a text up to a width, with blanks in front or behind. -/
def pad (left : Bool) (width : Nat) (s : Raw) : Raw :=
  let missing := List.replicate (width - s.length) ' '
  if left then s ++ missing else missing ++ s

/-- Fills a text up to the width of a directive. -/
def Directive.pad (d : Directive) (s : Raw) : Raw := Host.pad (d.flags.contains '-') d.width s

/-- The digits of a number in a base. -/
def digitsIn (base n : Nat) (upper : Bool) : Raw :=
  (Nat.toDigits base n).map fun c => if upper then c.toUpper else c

/-- Fills a number with blanks or zeros, behind its sign. -/
def Directive.fill (d : Directive) (sign digits : Raw) (zeros : Bool) : Raw :=
  if zeros && d.flags.contains '0' && !d.flags.contains '-' then
    sign ++ List.replicate (d.width - sign.length - digits.length) '0' ++ digits
  else d.pad (sign ++ digits)

/-- The sign of a number. -/
def Directive.sign (d : Directive) (negative : Bool) : Raw :=
  if negative then ['-'] else if d.flags.contains '+' then ['+']
  else if d.flags.contains ' ' then [' '] else []

/-- A whole number as a directive shows it. Where there is no sign it counts modulo 2^64. -/
def Directive.number (d : Directive) (n : Int) : Raw :=
  let least (digits : Raw) : Raw :=
    let digits := if d.precision = some 0 ∧ n = 0 then [] else digits
    List.replicate (d.precision.getD 0 - digits.length) '0' ++ digits
  let word := (n.emod 0x1_0000_0000_0000_0000).toNat
  let marks (s : String) : Raw := if d.flags.contains '#' && n != 0 then s.toList else []
  match d.kind with
  | 'x' => d.fill (marks "0x") (least (digitsIn 16 word false)) d.precision.isNone
  | 'X' => d.fill (marks "0X") (least (digitsIn 16 word true)) d.precision.isNone
  | 'o' =>
    let digits := least (digitsIn 8 word false)
    d.fill [] (if d.flags.contains '#' && digits.head? != some '0' then '0' :: digits else digits)
      d.precision.isNone
  | 'u' => d.fill [] (least (digitsIn 10 word false)) d.precision.isNone
  | _ => d.fill (d.sign (n < 0)) (least (digitsIn 10 n.natAbs false)) d.precision.isNone

/-! ## Numbers with fractions -/

/-- A quotient with so many places behind the point, a tie to the even digit. -/
def fixedDigits (num den places : Nat) : Raw :=
  let scaled := Decimal.roundDiv (num * Nat.pow 10 places) den
  let digits := digitsIn 10 scaled false
  let digits := List.replicate (places + 1 - digits.length) '0' ++ digits
  let whole := digits.take (digits.length - places)
  if places = 0 then whole else whole ++ '.' :: digits.drop (digits.length - places)

/-- The power of ten of the leading digit of a quotient, found in at most `fuel` steps. -/
def leadingPower (num den : Nat) : (fuel : Nat) → Int → Int
  | 0, e => e
  | fuel + 1, e =>
    if num * Nat.pow 10 (-e).toNat < den * Nat.pow 10 e.toNat then leadingPower num den fuel (e - 1)
    else if den * Nat.pow 10 (e + 1).toNat ≤ num * Nat.pow 10 (-(e + 1)).toNat then
      leadingPower num den fuel (e + 1)
    else e

/-- A quotient with one digit in front of the point and so many behind it, and the power of ten. -/
def scientificDigits (num den places : Nat) : Raw × Int :=
  if num = 0 then (fixedDigits 0 1 places, 0)
  else
    let e := leadingPower num den 700 0
    let s := fixedDigits (num * Nat.pow 10 (-e).toNat) (den * Nat.pow 10 e.toNat) places
    if s.take 2 = ['1', '0'] then (fixedDigits 1 1 places, e + 1) else (s, e)

/-- A power of ten behind its sign, in two digits at least. -/
def exponentPart (e : Int) : Raw :=
  let digits := digitsIn 10 e.natAbs false
  'e' :: (if e < 0 then '-' else '+') :: (List.replicate (2 - digits.length) '0' ++ digits)

/-- Drops zeros at the end of a fraction. -/
def dropFraction (s : Raw) : Raw :=
  if s.contains '.' then
    match s.reverse.dropWhile (· = '0') with
    | '.' :: r => r.reverse
    | r => r.reverse
  else s

/-- A number with a fraction as a directive shows it. -/
def Directive.fraction (d : Directive) (negative : Bool) (x : Decimal.Binary64) : Raw :=
  let (num, den) := (x.numerator, x.denominator)
  let places := d.precision.getD 6
  let digits : Raw := match d.kind.toLower with
    | 'f' => fixedDigits num den places
    | 'e' =>
      let (s, e) := scientificDigits num den places
      s ++ exponentPart e
    | _ =>
      let significant := max places 1
      let (s, e) := scientificDigits num den (significant - 1)
      if e < -4 ∨ (significant : Int) ≤ e then dropFraction s ++ exponentPart e
      else dropFraction (fixedDigits num den ((significant : Int) - 1 - e).toNat)
  let digits := if d.kind.isUpper then digits.map Char.toUpper else digits
  d.fill (d.sign negative) digits true

/-- Reads a number with a fraction: its sign, its value and what follows it. -/
def cutFraction (s : Raw) : Option (Bool × Decimal.Binary64 × Raw) :=
  let s := s.dropWhile fun c => c == ' ' || c == '\t' || c == '\n'
  let (negative, s) := match s with
    | '-' :: r => (true, r)
    | '+' :: r => (false, r)
    | r => (false, r)
  let whole := s.takeWhile Char.isDigit
  let rest := s.drop whole.length
  let (part, rest) := match rest with
    | '.' :: r => (r.takeWhile Char.isDigit, r.dropWhile Char.isDigit)
    | r => ([], r)
  if whole.isEmpty && part.isEmpty then none
  else
    let value (e : Int) : Decimal.Binary64 :=
      Decimal.nearest ((Raw.nat? (whole ++ part)).getD 0) (e - part.length)
    let exponent? : Option (Int × Raw) := match rest with
      | c :: r =>
        if c = 'e' ∨ c = 'E' then
          let (down, r) := match r with
            | '-' :: r => (true, r)
            | '+' :: r => (false, r)
            | r => (false, r)
          (Raw.nat? (r.takeWhile Char.isDigit)).map fun n =>
            (if down then -(n : Int) else n, r.dropWhile Char.isDigit)
        else none
      | [] => none
    match exponent? with
    | some (e, rest) => some (negative, value e, rest)
    | none => some (negative, value 0, rest)

/-! ## Formatting -/

/-- What a format has written so far. -/
structure Formatted where
  written : Raw
  arguments : List Raw
  /-- What was wrong with arguments. -/
  complaints : List Raw
  /-- Nothing more is written, perhaps because something is wrong with the format. -/
  stopped : Bool
  fault : Option Raw

/-- Writes a text. -/
def Formatted.put (f : Formatted) (s : Raw) : Formatted := { f with written := f.written ++ s }

/-- Complains about an argument. -/
def Formatted.complain (f : Formatted) (a : Raw) (message : String) : Formatted :=
  { f with complaints := f.complaints ++ [a ++ ": ".toList ++ message.toList] }

/-- Takes the next argument. -/
def Formatted.next (f : Formatted) : Raw × Formatted :=
  (f.arguments.headD [], { f with arguments := f.arguments.drop 1 })

/-- Takes a whole number. A quotation mark in front stands for the number of a character. -/
def Formatted.nextNumber (f : Formatted) (unsigned : Bool) : Int × Formatted :=
  let (a, f) := f.next
  match a with
  | [] => (0, f)
  | '\'' :: s | '"' :: s => (((s.head?.map Char.toNat).getD 0 : Nat), f)
  | a =>
    match Raw.cutWhole? a with
    | none => (0, f.complain a "expected numeric value")
    | some (n, rest) =>
      let most : Int := if unsigned then 0x1_0000_0000_0000_0000 - 1 else 0x8000_0000_0000_0000 - 1
      let least : Int := if unsigned then -(0x1_0000_0000_0000_0000 - 1) else -0x8000_0000_0000_0000
      let kept := max least (min most n)
      if !rest.isEmpty then (kept, f.complain a "not completely converted")
      else if kept ≠ n then (kept, f.complain a "Numerical result out of range")
      else (n, f)

/-- One argument shown as a directive says. -/
def Formatted.show (f : Formatted) (d : Directive) : Formatted :=
  let cut (s : Raw) : Raw := match d.precision with
    | some n => s.take n
    | none => s
  if d.kind = 's' then
    let (a, f) := f.next
    f.put (d.pad (cut a))
  else if d.kind = 'c' then
    let (a, f) := f.next
    f.put (d.pad [a.headD '\x00'])
  else if d.kind = 'b' then
    let (a, f) := f.next
    let (s, stopped) := unescape a
    { f.put (d.pad (cut s)) with stopped }
  else if "diouxX".toList.contains d.kind then
    let (n, f) := f.nextNumber (d.kind ≠ 'd' ∧ d.kind ≠ 'i')
    f.put (d.number n)
  else
    let (a, f) := f.next
    match a with
    | [] => f.put (d.fraction false (Decimal.nearest 0 0))
    | a =>
      match cutFraction a with
      | none => (f.complain a "expected numeric value").put (d.fraction false (Decimal.nearest 0 0))
      | some (negative, x, rest) =>
        let f := if rest.isEmpty then f else f.complain a "not completely converted"
        f.put (d.fraction negative x)

/-- Reads a directive behind its percent sign, for which widths may be taken from the arguments. -/
def Formatted.directive (f : Formatted) (s : Raw) : Except String (Directive × Formatted × Raw) :=
  let isFlag (c : Char) : Bool := "#-+ 0".toList.contains c
  let number (f : Formatted) (s : Raw) : Int × Formatted × Raw :=
    match s with
    | '*' :: r =>
      let (n, f) := f.nextNumber false
      (n, f, r)
    | s => (((Raw.nat? (s.takeWhile Char.isDigit)).getD 0 : Nat), f, s.dropWhile Char.isDigit)
  let flags := s.takeWhile isFlag
  let (width, f, rest) := number f (s.dropWhile isFlag)
  let (precision, f, rest) := match rest with
    | '.' :: r =>
      let (n, f, r) := number f r
      (if n < 0 then none else some n.toNat, f, r)
    | r => (none, f, r)
  match rest with
  | [] => .error "missing format character"
  | kind :: r =>
    if "bcsdiouxXaAeEfFgG".toList.contains kind then
      .ok (⟨if width < 0 then '-' :: flags else flags, width.natAbs, precision, kind⟩, f, r)
    else
      .error (String.ofList ('%' :: s.take (s.length - r.length)) ++ ": invalid directive")

/-- Goes through a format once, in at most `fuel` steps. -/
def Formatted.through (f : Formatted) : (fuel : Nat) → Raw → Formatted
  | 0, _ => f
  | fuel + 1, s =>
    if f.stopped then f
    else
      match s with
      | [] => f
      | '\\' :: c :: r =>
        if (Raw.octal? c).isSome then
          let p := Raw.cutOctal 3 (c :: r)
          (f.put [byteChar p.1]).through fuel p.2
        else
          match escapedSign? c with
          | some d => (f.put [d]).through fuel r
          | none => (f.put ['\\']).through fuel (c :: r)
      | '%' :: '%' :: r => (f.put ['%']).through fuel r
      | '%' :: r =>
        match f.directive r with
        | .ok (d, f, r) => (f.show d).through fuel r
        | .error m => { f with stopped := true, fault := some m.toList }
      | c :: r => (f.put [c]).through fuel r

/-- Goes through a format as often as there are arguments left that it uses up. -/
def Formatted.repeated (format : Raw) : (fuel : Nat) → Formatted → Formatted
  | 0, f => f
  | fuel + 1, f =>
    let g := f.through (format.length + 1) format
    if g.stopped || g.arguments.isEmpty || g.arguments.length = f.arguments.length then g
    else g.repeated format fuel

/-- Writes the arguments as the first of them says. -/
def printf : Utility := fun j =>
  match if j.arguments.head? = some "--".toList then j.arguments.drop 1 else j.arguments with
  | [] => j.fails 2 "usage: printf format [arg ...]"
  | format :: args =>
    match if j.arguments.head? = some "--".toList then [] else format with
    | '-' :: c :: _ => j.fails 2 ("Illegal option -" ++ c.toString)
    | _ =>
      let f := Formatted.repeated format (args.length + 1) ⟨[], args, [], false, none⟩
      let complaints := (f.complaints ++ f.fault.toList).map j.complaint
      { j.nothing with
        written := (1, f.written) :: complaints
        status := if f.fault.isSome then 2 else if f.complaints.isEmpty then 0 else 1 }

end ClarityCheck.Host
