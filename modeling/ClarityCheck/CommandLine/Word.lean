import ClarityCheck.Text.Utf8

/-!
# Words of a command line

A command line is a list of words, each a sequence of bytes. The dashes at its front tell what a
word may be: two dashes alone end the options, two dashes and more name an option in full, one dash
and more are letters that stand for options, and everything else is plain.

Main statement: `long_ofBytes` (a full name is read back from what writes it).
-/

namespace ClarityCheck.CommandLine

open ClarityCheck.Text

/-- The byte of a dash. -/
def dash : UInt8 := 0x2D

/-- The byte of an equals sign. -/
def equals : UInt8 := 0x3D

/-- What a word may be. -/
inductive Word where
  /-- The end of the options. -/
  | separator
  /-- The full name of an option, perhaps with a value behind an equals sign. -/
  | long (name : Bytes) (value : Option Bytes)
  /-- Letters, or a letter with a value. There is at least one byte. -/
  | short (letters : Bytes)
  | plain
  deriving DecidableEq, Repr

namespace Word

/-- The parts of bytes before and after the first equals sign. -/
def cutEquals (bs : Bytes) : Bytes × Option Bytes :=
  match bs.dropWhile (· ≠ equals) with
  | [] => (bs, none)
  | _ :: value => (bs.takeWhile (· ≠ equals), some value)

/-- What the bytes of a word make it. -/
def ofBytes (bs : Bytes) : Word :=
  match bs with
  | a :: b :: rest =>
    if a = dash then
      if b = dash then
        if rest = [] then .separator
        else
          let (name, value) := cutEquals rest
          .long name value
      else .short (b :: rest)
    else .plain
  | _ => .plain

/-- The bytes of the full name of an option, perhaps with a value. -/
def writeLong (name : Bytes) : Option Bytes → Bytes
  | none => dash :: dash :: name
  | some value => dash :: dash :: (name ++ equals :: value)

theorem cutEquals_of_not_mem {name : Bytes} (h : equals ∉ name) :
    cutEquals name = (name, none) := by
  have hd : name.dropWhile (fun b => decide (b ≠ equals)) = [] := by
    induction name with
    | nil => rfl
    | cons b name ih =>
      simp only [List.mem_cons, not_or] at h
      rw [List.dropWhile_cons_of_pos (by simpa using Ne.symm h.1), ih h.2]
  simp only [cutEquals, hd]

theorem cutEquals_append {name : Bytes} (h : equals ∉ name) (value : Bytes) :
    cutEquals (name ++ equals :: value) = (name, some value) := by
  have hall : ∀ b ∈ name, decide (b ≠ equals) = true := by
    intro b hb
    have : b ≠ equals := fun e => h (e ▸ hb)
    simpa using this
  simp only [cutEquals, List.dropWhile_append_of_pos hall, List.takeWhile_append_of_pos hall]
  simp

/-- A full name is read back from what writes it. -/
theorem long_ofBytes {name : Bytes} (hn : name ≠ []) (h : equals ∉ name) (value : Option Bytes) :
    ofBytes (writeLong name value) = .long name value := by
  cases value with
  | none => simp [writeLong, ofBytes, hn, cutEquals_of_not_mem h]
  | some v => simp [writeLong, ofBytes, cutEquals_append h]

end Word

/-! ## Names -/

/-- The bytes that write a text. -/
def bytesOf (s : String) : Bytes := Utf8.encode s.toList

/-- Bytes as a text for messages. -/
def shown (bs : Bytes) : String := String.ofList (Utf8.decodeLossy bs)

/-- Bytes as a text, if they are one. -/
def text? (bs : Bytes) : Option String := (Utf8.decode? bs).map String.ofList

end ClarityCheck.CommandLine
