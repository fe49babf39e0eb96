import ClarityCheck.Url.Basic

/-!
# Reading URLs

`ofChars` reads an absolute URL. A text is first cut into scheme, body, query and fragment, which no
part of a URL can hide; the body is then read as the kind of scheme demands. Segments that stand for
the same or the parent directory are resolved while reading.
-/

namespace ClarityCheck.Url

open ClarityCheck.Text

/-! ## Cutting -/

/-- A character that does not count at either end of a URL. -/
def isMargin (c : Char) : Bool := c.toNat ≤ 0x20

/-- A character that does not count anywhere in a URL. -/
def isBreak (c : Char) : Bool := c == '\t' || c == '\n' || c == '\r'

/-- The characters of a text that count. -/
def significant (s : List Char) : List Char :=
  (((s.dropWhile isMargin).reverse.dropWhile isMargin).reverse).filter (fun c => !isBreak c)

/-- A letter of ASCII. -/
def isLetter (c : Char) : Bool := ('a' ≤ c && c ≤ 'z') || ('A' ≤ c && c ≤ 'Z')

/-- A letter of ASCII in lower case. -/
def lower (c : Char) : Char := if 'A' ≤ c ∧ c ≤ 'Z' then Char.ofNat (c.toNat + 32) else c

/-- A character of a scheme behind its first. -/
def isSchemeChar (c : Char) : Bool := isLetter c || c.isDigit || c == '+' || c == '-' || c == '.'

/-- The scheme of a URL in lower case and what follows its colon. -/
def cutScheme? (s : List Char) : Option (List Char × List Char) :=
  match s with
  | c :: _ =>
    if isLetter c then
      match s.dropWhile isSchemeChar with
      | ':' :: rest => some ((s.takeWhile isSchemeChar).map lower, rest)
      | _ => none
    else none
  | [] => none

/-- The text before a sign, and the text behind it if the sign occurs. -/
def cutAt (sign : Char) (s : List Char) : List Char × Option (List Char) :=
  match cut? sign s with
  | some (a, b) => (a, some b)
  | none => (s, none)

/-- A separator of segments: the slash and, where servers are known, the backslash. -/
def isSeparator (kind : SchemeKind) (c : Char) : Bool := c == '/' || (c == '\\' && kind ≠ .other)

/-- The pieces of a text between characters with a property. -/
def splitWhere (p : Char → Bool) (s : List Char) : List (List Char) :=
  s.foldr (fun c ps => if p c then [] :: ps else consToFirst c ps) [[]]

/-! ## Paths -/

/-- A segment that stands for the same directory. -/
def isSingleDot (s : List Char) : Bool := [".".toList, "%2e".toList].contains (s.map lower)

/-- A segment that stands for the parent directory. -/
def isDoubleDot (s : List Char) : Bool :=
  ["..".toList, ".%2e".toList, "%2e.".toList, "%2e%2e".toList].contains (s.map lower)

/-- A text that names a drive, also in its old spelling. -/
def isDriveName : List Char → Bool
  | [c, d] => isLetter c && (d == ':' || d == '|')
  | _ => false

/-- A segment that no segment for the parent directory goes beyond: the name of a drive, perhaps
with a backslash behind it. -/
def isDriveSegment : List Char → Bool
  | c :: d :: rest => isDriveName [c, d] && (rest.isEmpty || rest.head? == some '\\')
  | _ => false

/-- The segments, the last one first, without the last, unless it names a drive. -/
def dropSegment : List (List Char) → List (List Char)
  | [] => []
  | s :: ss => if isDriveSegment s then s :: ss else ss

/-- What reading the segments of a path has found so far: the segments, the last one first, and
whether a drive was named at the root of the files. -/
structure Trail where
  done : List (List Char)
  hasDrive : Bool := false
  deriving Repr, DecidableEq

/-- Appends a segment that does not stand for a directory. At the root of the files a drive has a
colon, and what follows its name without a separator is a segment of its own. -/
def Trail.push (kind : SchemeKind) (t : Trail) (s : List Char) : Trail :=
  match kind, t.done, Percent.encode Percent.path s with
  | .file, [], c :: d :: rest =>
    if !isDriveName [c, d] then { t with done := [c :: d :: rest] }
    else if rest.isEmpty then ⟨[[c, ':']], true⟩
    else { t with done := [rest, [c, d]] }
  | _, done, s => { t with done := s :: done }

/-- Appends segments. A dot segment at the end leaves an empty segment, so that the path ends in a
slash. -/
def Trail.extend (kind : SchemeKind) (t : Trail) : List (List Char) → Trail
  | [] => t
  | s :: rest =>
    let final := if rest.isEmpty then [[]] else []
    if isDoubleDot s then extend kind { t with done := final ++ dropSegment t.done } rest
    else if isSingleDot s then extend kind { t with done := final ++ t.done } rest
    else extend kind (t.push kind s) rest

/-- The segments that a text writes, whose first separator may be missing, behind others. -/
def Trail.read (kind : SchemeKind) (t : Trail) (s : List Char) : Trail :=
  let inner := match s with
    | c :: r => if isSeparator kind c then r else c :: r
    | [] => []
  t.extend kind (splitWhere (isSeparator kind) inner)

/-- The path of a URL other than one of a file. -/
def pathOf (kind : SchemeKind) (s : List Char) : UrlPath :=
  .segments (Trail.read kind ⟨[], false⟩ s).done.reverse

/-- The path of a URL of a file, which does not start with an empty segment in front of another. -/
def filePathOf (segments : List (List Char)) : UrlPath :=
  match segments.dropWhile (·.isEmpty) with
  | [] => .segments [[]]
  | segments => .segments segments

/-! ## Servers -/

/-- The login that a text writes. Without a name and a password there is none. -/
def loginOf (s : List Char) : Option Login :=
  let (name, password) := cutAt ':' s
  let name := Percent.encode Percent.userinfo name
  let password := match password with
    | some [] => none
    | p => p.map (Percent.encode Percent.userinfo)
  if name.isEmpty ∧ password.isNone then none else some ⟨name, password⟩

/-- The text behind the last sign and, if it occurs, the text before. -/
def cutAtLast (sign : Char) (s : List Char) : Option (List Char) × List Char :=
  match cutAt sign s.reverse with
  | (tail, some front) => (some front.reverse, tail.reverse)
  | (tail, none) => (none, tail.reverse)

/-- Cuts a host and a port at the first colon that is not between brackets. -/
def cutPort (inside : Bool) : List Char → List Char × Option (List Char)
  | [] => ([], none)
  | c :: s =>
    if c = ':' ∧ !inside then ([], some s)
    else
      let r := cutPort (if c = '[' then true else if c = ']' then false else inside) s
      (c :: r.1, r.2)

/-- The port that a text writes and what follows it, which may start with a backslash. Without
digits, or when it is the scheme's own, there is no port. -/
def portOf (scheme s : List Char) : Except ParseError (Option Nat × List Char) :=
  let digits := s.takeWhile Char.isDigit
  let rest := s.dropWhile Char.isDigit
  let n := digits.foldl (fun n c => n * 10 + (c.toNat - 0x30)) 0
  if 65535 < n then .error .invalidPort
  else if !rest.isEmpty && rest.head? != some '\\' then .error .invalidPort
  else .ok (if digits.isEmpty ∨ defaultPort? scheme = some n then none else some n, rest)

/-- The host that a text writes. -/
def hostOf (kind : SchemeKind) (s : List Char) : Except ParseError (Option Host) :=
  if kind = .other then
    if s.isEmpty then .ok none else (Host.ofOther s).map some
  else (Host.ofServer s).map some

/-- A login needs a host, and so does a port. -/
def needsHost (kind : SchemeKind) (login : Option (List Char)) (port : Option (List Char)) : Bool :=
  kind != .other || port.isSome || login == some [] || (login.bind loginOf).isSome

/-- The server that a text writes and what follows its port. -/
def serverOf (kind : SchemeKind) (scheme s : List Char) : Except ParseError (Server × List Char) :=
  let (login, rest) := cutAtLast '@' s
  let (host, port) := cutPort false rest
  if host.isEmpty && needsHost kind login port then .error .emptyHost
  else
    match hostOf kind host with
    | .error e => .error e
    | .ok host =>
      match (match port with
        | some p => portOf scheme p
        | none => .ok (none, [])) with
      | .error e => .error e
      | .ok (port, rest) => .ok (⟨login.bind loginOf, host, port⟩, rest)

/-! ## Bodies -/

/-- A server and the path behind it. -/
def readServer (kind : SchemeKind) (scheme s : List Char) :
    Except ParseError (Option Server × UrlPath) :=
  let authority := s.takeWhile (fun c => !isSeparator kind c)
  match serverOf kind scheme authority with
  | .error e => .error e
  | .ok (server, behind) =>
    let rest := behind ++ s.drop authority.length
    .ok (some server,
      if kind = .other ∧ rest.isEmpty then .segments [] else pathOf kind rest)

/-- A file on a host whose path a text writes. A drive has no host. -/
def fileOn (host : Host) (s : List Char) : Option Server × UrlPath :=
  let t := Trail.read .file ⟨[], false⟩ s
  (some ⟨none, if t.hasDrive then none else some host, none⟩, filePathOf t.done.reverse)

/-- A file of this machine. Where the place of the host was left empty the path starts with an empty
segment, so that a drive behind it keeps its spelling. -/
def localFile (hostLeftEmpty : Bool) (s : List Char) : Option Server × UrlPath :=
  let t := Trail.read .file ⟨if hostLeftEmpty then [[]] else [], false⟩ s
  (some ⟨none, none, none⟩, filePathOf t.done.reverse)

/-- The body of a URL of a file. The local host counts as none. -/
def readFile (s : List Char) : Except ParseError (Option Server × UrlPath) :=
  match s with
  | c :: d :: r =>
    if isSeparator .file c ∧ isSeparator .file d then
      let name := r.takeWhile (fun c => !isSeparator .file c)
      let rest := r.drop name.length
      if isDriveName name then .ok (localFile false r)
      else if name.isEmpty then .ok (localFile true rest)
      else
        match Host.ofServer name with
        | .error e => .error e
        | .ok h =>
          .ok (if h = .domain "localhost".toList then localFile true rest else fileOn h rest)
    else .ok (localFile false s)
  | s => .ok (localFile false s)

/-- The body of a URL: its server, if it has one, and its path. -/
def readBody (kind : SchemeKind) (scheme s : List Char) :
    Except ParseError (Option Server × UrlPath) :=
  match kind with
  | .server => readServer .server scheme (s.dropWhile (isSeparator .server))
  | .file => readFile s
  | .other =>
    match s with
    | '/' :: '/' :: r => readServer .other scheme r
    | '/' :: r => .ok (none, pathOf .other ('/' :: r))
    | s => .ok (none, .plain (Percent.encode Percent.controls s))

/-- Reads a text as an absolute URL. -/
def ofChars (s : List Char) : Except ParseError Url :=
  match cutScheme? (significant s) with
  | none => .error .relative
  | some (scheme, rest) =>
    let (front, fragment) := cutAt '#' rest
    let (body, query) := cutAt '?' front
    let kind := kindOf scheme
    match readBody kind scheme body with
    | .error e => .error e
    | .ok (server, path) =>
      let querySet := if kind = .other then Percent.query else Percent.serverQuery
      .ok ⟨scheme, server, path, query.map (Percent.encode querySet),
        fragment.map (Percent.encode Percent.fragment)⟩

end ClarityCheck.Url
