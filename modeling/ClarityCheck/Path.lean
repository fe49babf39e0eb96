import ClarityCheck.Text.Utf8

/-!
# Paths

A path is a sequence of bytes with slashes between its parts. Paths need not be text; `display`
shows any path as text.

Main statement: `isAbsolute_join` (joining to an absolute path gives an absolute path).
-/

namespace ClarityCheck

/-- The byte between the parts of a path. -/
def slash : UInt8 := 0x2F

/-- A path as it is written. -/
structure Path where
  bytes : Bytes
  deriving DecidableEq, Repr

/-- The name of a directory entry. -/
abbrev FileName := Bytes

namespace Path

/-- The path that a text writes. -/
def ofString (s : String) : Path := ⟨Text.Utf8.encode s.toList⟩

/-- The path as text, with U+FFFD for what is no text. -/
def display (p : Path) : String := String.ofList (Text.Utf8.decodeLossy p.bytes)

/-- The path is written in UTF-8. -/
def isText (p : Path) : Bool := (Text.Utf8.decode? p.bytes).isSome

/-- A path is absolute when it starts at the root. -/
def isAbsolute (p : Path) : Bool := p.bytes.head? == some slash

/-- Puts a slash at the end of a path that neither is empty nor has one there. -/
def withSeparator (bs : Bytes) : Bytes :=
  match bs.getLast? with
  | none => bs
  | some b => if b = slash then bs else bs ++ [slash]

/-- The path `q` as seen from the directory `p`. An absolute path stands for itself. -/
def join (p q : Path) : Path :=
  if q.isAbsolute then q else ⟨withSeparator p.bytes ++ q.bytes⟩

/-- Joining to an absolute path gives an absolute path. -/
theorem isAbsolute_join {p q : Path} (h : p.isAbsolute = true) : (p.join q).isAbsolute = true := by
  unfold join
  split
  · assumption
  · cases hp : p.bytes with
    | nil => simp [isAbsolute, hp] at h
    | cons b bs =>
      have hb : b = slash := by simpa [isAbsolute, hp] using h
      simp only [isAbsolute, withSeparator]
      cases hl : (b :: bs).getLast? with
      | none => simp at hl
      | some c => by_cases hc : c = slash <;> simp [hc, hb]

/-- The name of an entry below a path. -/
def child (p : Path) (name : FileName) : Path := p.join ⟨name⟩

/-! ## Parts -/

/-- The pieces of bytes between separators. -/
def splitBytes (sep : UInt8) (bs : Bytes) : List Bytes :=
  bs.foldr (fun b ps =>
    if b = sep then [] :: ps
    else match ps with
      | [] => [[b]]
      | p :: ps => (b :: p) :: ps) [[]]

/-- The pieces of bytes between slashes. -/
def splitSlashes (bs : Bytes) : List Bytes := splitBytes slash bs

/-- The name of the directory itself. -/
def dot : FileName := [0x2E]

/-- The name of the directory above. -/
def dotDot : FileName := [0x2E, 0x2E]

/-- The names along a path that matter: no empty ones and none that stand for the same directory. -/
def names (p : Path) : List FileName :=
  (splitSlashes p.bytes).filter (fun n => n ≠ [] ∧ n ≠ dot)

/-- The parts of a path in its short form: a leading dot of a relative path counts as a part, other
dots and repeated slashes do not. -/
def parts (p : Path) : List FileName :=
  match splitSlashes p.bytes with
  | [] => []
  | first :: rest =>
    (if first = [] then [] else [first]) ++ rest.filter (fun n => n ≠ [] ∧ n ≠ dot)

/-- The name of the entry that a path ends in, if it ends in one. -/
def fileName? (p : Path) : Option FileName :=
  match p.parts.getLast? with
  | some n => if n = dot ∨ n = dotDot then none else some n
  | none => none

/-- A name before and behind its last dot. A dot at the front of a name starts no extension. -/
def cutExtension (name : FileName) : FileName × Option FileName :=
  if name = dotDot then (name, none)
  else
    match name.reverse.span (· ≠ 0x2E) with
    | (_, []) => (name, none)
    | (_, [_]) => (name, none)
    | (ext, _ :: stem) => (stem.reverse, some ext.reverse)

/-- The name that a path ends in without its extension. -/
def fileStem? (p : Path) : Option FileName := p.fileName?.map (fun n => (cutExtension n).1)

/-- Drops slashes and dots that stand for the same directory from the front of the reversed bytes of
a path, as long as something remains. -/
def dropTrailingFrom : Bytes → Bytes
  | b :: c :: r =>
    if b = slash ∨ (b = 0x2E ∧ c = slash) then dropTrailingFrom (c :: r) else b :: c :: r
  | r => r

/-- The bytes of a path up to the end of its last part. -/
def dropTrailing (p : Path) : Bytes := (dropTrailingFrom p.bytes.reverse).reverse

/-- The path without the slashes at its end, of which the root keeps one. -/
def withoutSlashes (p : Path) : Path :=
  match p.bytes.reverse.dropWhile (· = slash) with
  | [] => ⟨p.bytes.take 1⟩
  | r => ⟨r.reverse⟩

/-- The path with another extension. A path that ends in no name stays as it is. -/
def withExtension (p : Path) (ext : FileName) : Path :=
  match p.fileName? with
  | none => p
  | some name =>
    let before := p.dropTrailing.take (p.dropTrailing.length - name.length)
    ⟨before ++ (cutExtension name).1 ++ [0x2E] ++ ext⟩

/-- The path of the directory that holds what a path stands for: the path without its last part. The
root and the empty path have none. -/
def parent? (p : Path) : Option Path :=
  match p.parts.getLast? with
  | none => none
  | some name =>
    let bs := p.dropTrailing
    some ⟨dropTrailing ⟨bs.take (bs.length - name.length)⟩⟩

/-- The path as an absolute one, seen from a directory. Names stay as they are written, also those
that lead upwards. -/
def absolute (p : Path) (directory : Path) : Path :=
  let start : Path :=
    if p.isAbsolute then
      match p.bytes with
      | _ :: b :: rest =>
        if b = slash ∧ rest.head? ≠ some slash then ⟨[slash, slash]⟩ else ⟨[slash]⟩
      | _ => ⟨[slash]⟩
    else directory
  let joined := p.names.foldl child start
  if p.bytes.getLast? = some slash then ⟨withSeparator joined.bytes⟩ else joined

/-- The directories of a list with colons between them, empty ones left out. -/
def listed (bs : Bytes) : List Path := ((splitBytes 0x3A bs).filter (· ≠ [])).map Path.mk

end Path

end ClarityCheck
