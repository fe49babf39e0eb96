/-!
# Blank characters

What counts as white space throughout the library is the Unicode property `White_Space`, and
everything that trims, splits into words or asks whether a text is empty goes by it.

Main statements: `isBlank_iff_mem` (the property lists exactly 25 characters) and `trim_eq_nil_iff`
(a text trims to nothing exactly when all of it is blank).
-/

namespace ClarityCheck.Text

/-- The code points with the Unicode property `White_Space`. -/
def blankCodes : List Nat :=
  [0x09, 0x0A, 0x0B, 0x0C, 0x0D, 0x20, 0x85, 0xA0, 0x1680, 0x2000, 0x2001, 0x2002, 0x2003,
    0x2004, 0x2005, 0x2006, 0x2007, 0x2008, 0x2009, 0x200A, 0x2028, 0x2029, 0x202F, 0x205F, 0x3000]

/-- A character is blank when it has the Unicode property `White_Space`. -/
def isBlank (c : Char) : Bool :=
  let n := c.toNat
  n == 0x20 || (0x09 ≤ n && n ≤ 0x0D) || n == 0x85 || n == 0xA0 || n == 0x1680
    || (0x2000 ≤ n && n ≤ 0x200A) || n == 0x2028 || n == 0x2029 || n == 0x202F || n == 0x205F
    || n == 0x3000

/-- The ranges tested by `isBlank` cover the listed code points and no others. -/
theorem isBlank_iff_mem (c : Char) : isBlank c = true ↔ c.toNat ∈ blankCodes := by
  simp only [isBlank, blankCodes, Bool.or_eq_true, Bool.and_eq_true, beq_iff_eq, decide_eq_true_eq,
    List.mem_cons, List.not_mem_nil, or_false]
  omega

/-! ## Trimming -/

/-- The text without its leading blanks. -/
def trimStart (s : List Char) : List Char := s.dropWhile isBlank

/-- The text without its trailing blanks. -/
def trimEnd (s : List Char) : List Char := (s.reverse.dropWhile isBlank).reverse

/-- The text without blanks at either end. -/
def trim (s : List Char) : List Char := trimEnd (trimStart s)

theorem dropWhile_eq_nil_iff (s : List Char) :
    s.dropWhile isBlank = [] ↔ ∀ c ∈ s, isBlank c = true := by
  induction s with
  | nil => simp
  | cons c s ih => by_cases h : isBlank c <;> simp [h, ih]

/-- A text trims to nothing exactly when all of it is blank. -/
theorem trim_eq_nil_iff (s : List Char) : trim s = [] ↔ ∀ c ∈ s, isBlank c = true := by
  rw [← dropWhile_eq_nil_iff s]
  unfold trim trimEnd trimStart
  rw [List.reverse_eq_nil_iff, dropWhile_eq_nil_iff]
  cases hs : s.dropWhile isBlank with
  | nil => simp
  | cons c r =>
    have hc : isBlank c = false := by simpa [hs] using List.head?_dropWhile_not isBlank s
    simp [hc]

/-- The text without blanks at either end, as a string. -/
def trimString (s : String) : String := String.ofList (trim s.toList)

/-- A string holds nothing but blanks. -/
def isBlankString (s : String) : Bool := s.toList.all isBlank

/-! ## Words -/

/-- Counts the maximal runs of characters that are not blank; `inWord` tells whether the character
before belongs to such a run. -/
def wordCountFrom (inWord : Bool) : List Char → Nat
  | [] => 0
  | c :: s =>
    if isBlank c then wordCountFrom false s
    else if inWord then wordCountFrom true s
    else wordCountFrom true s + 1

/-- The number of words of a text, a word being a maximal run of characters that are not blank. -/
def wordCount (s : List Char) : Nat := wordCountFrom false s

end ClarityCheck.Text
