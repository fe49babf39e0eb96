import ClarityCheck.Proofs.Lint.JoinedLines
import Mathlib.Data.List.Infix

/-!
# Padding a document

Blank lines and comments may be put between the lines of a document, and in front of and behind
them, without any effect on the errors, as long as each of these lines closes what it opens and
declares nothing. An error stays with its line, which has a new number.

* `ofText_filler`: a filler leaves the open forms as they are
* `scanBalance_padded`, `lineErrors_padded`: the errors of the parts of the check, one row at a time
* `errors_padded`: the errors of a padded document
-/

namespace ClarityCheck.Lint

open Text

/-! ## Fillers -/

/-- A line of a document. -/
structure Line where
  chars : List Char
  oneLine : '\n' ∉ chars

/-- A line that holds no code, closes what it opens and declares nothing. -/
structure Filler extends Line where
  /-- The line is blank or a comment. -/
  noCode : trim chars = [] ∨ (trim chars).head? = some ';'
  /-- Nothing is closed that the line has not opened. -/
  opensFirst : ∀ p ∈ chars.inits, p.count ')' ≤ p.count '('
  /-- Everything is closed that the line has opened. -/
  closes : chars.count ')' = chars.count '('
  noDeclaration : ∀ keyword ∈ declarationKeywords, containsForm keyword chars = false

/-- A comment may speak of forms. -/
example : Filler where
  chars := "  ;; calls (ok (get-owner))".toList
  oneLine := by decide
  noCode := by decide
  opensFirst := by decide
  closes := by decide
  noDeclaration := by decide

/-! ## What fillers do to open forms -/

theorem ofText_open (depth : Nat) (s : List Char) :
    Balance.ofText depth ('(' :: s) = Balance.ofText (depth + 1) s := rfl

theorem ofText_close (depth : Nat) (s : List Char) :
    Balance.ofText (depth + 1) (')' :: s) = Balance.ofText depth s := rfl

theorem ofText_other {c : Char} (ho : c ≠ '(') (hc : c ≠ ')') (depth : Nat) (s : List Char) :
    Balance.ofText depth (c :: s) = Balance.ofText depth s := by
  simp [Balance.ofText, Balance.step, ho, hc]

/-- In a text that opens before it closes, counting what is open before it, no closer is stray. -/
theorem ofText_of_opensFirst {s : List Char} {depth : Nat}
    (h : ∀ p ∈ s.inits, p.count ')' ≤ depth + p.count '(') :
    Balance.ofText depth s = ⟨0, depth + s.count '(' - s.count ')'⟩ := by
  induction s generalizing depth with
  | nil => simp [Balance.ofText]
  | cons c s ih =>
    simp only [List.mem_inits] at h ih
    have hbegin : ∀ p, p <+: s → (c :: p).count ')' ≤ depth + (c :: p).count '(' :=
      fun p hp => h _ (List.cons_prefix_cons.2 ⟨rfl, hp⟩)
    by_cases ho : c = '('
    · subst ho
      simp only [List.count_cons_self, List.count_cons_of_ne (show '(' ≠ ')' by decide)] at hbegin ⊢
      rw [ofText_open, ih fun p hp => by have := hbegin p hp; omega, Nat.add_right_comm,
        Nat.add_assoc]
    by_cases hc : c = ')'
    · subst hc
      simp only [List.count_cons_self, List.count_cons_of_ne (show ')' ≠ '(' by decide)] at hbegin ⊢
      obtain ⟨d, rfl⟩ : ∃ d, depth = d + 1 :=
        Nat.exists_eq_add_one.2 (Nat.succ_le_iff.1 (by simpa using hbegin [] List.nil_prefix))
      rw [ofText_close, ih fun p hp => by have := hbegin p hp; omega]
      congr 1
      omega
    · simp only [List.count_cons_of_ne ho, List.count_cons_of_ne hc] at hbegin ⊢
      rw [ofText_other ho hc, ih hbegin]

/-- A filler leaves the open forms as they are. -/
theorem ofText_filler (f : Filler) (depth : Nat) : Balance.ofText depth f.chars = ⟨0, depth⟩ := by
  rw [ofText_of_opensFirst fun p hp => Nat.le_trans (f.opensFirst p hp) (Nat.le_add_left _ _),
    f.closes, Nat.add_sub_cancel]

theorem isCode_filler (f : Filler) : isCode (trim f.chars) = false := by
  rcases f.noCode with h | h <;> simp [isCode, isComment, h]

/-! ## Padded documents -/

/-- A line of a padded document: one of its own or a filler. -/
inductive Row where
  | own (line : Line)
  | filler (filler : Filler)

/-- The line that stands in a row. -/
def Row.line : Row → Line
  | .own line => line
  | .filler f => f.toLine

/-- The line of a row that does not pad. -/
def Row.ownLine? : Row → Option Line
  | .own line => some line
  | .filler _ => none

/-- The lines of the document that rows pad. -/
def ownLines (rows : List Row) : List (List Char) := (rows.filterMap Row.ownLine?).map Line.chars

/-- The lines of the padded document. -/
def paddedLines (rows : List Row) : List (List Char) := rows.map (·.line.chars)

/-- How many rows stand in front of a line of the document, before which there are `n` other lines
of it. -/
def rowsBefore : List Row → Nat → Nat
  | [], n => n
  | .filler _ :: rows, n => rowsBefore rows n + 1
  | .own _ :: _, 0 => 0
  | .own _ :: rows, n + 1 => rowsBefore rows n + 1

/-- The number that a line of the document has in the padded document. -/
def newNumber (rows : List Row) (number : Nat) : Nat := rowsBefore rows (number - 1) + 1

variable (rows : List Row)

@[simp] theorem ownLines_own (line : Line) :
    ownLines (.own line :: rows) = line.chars :: ownLines rows := rfl

@[simp] theorem ownLines_filler (f : Filler) : ownLines (.filler f :: rows) = ownLines rows := rfl

@[simp] theorem paddedLines_own (line : Line) :
    paddedLines (.own line :: rows) = line.chars :: paddedLines rows := rfl

@[simp] theorem paddedLines_filler (f : Filler) :
    paddedLines (.filler f :: rows) = f.chars :: paddedLines rows := rfl

/-- A line of the document stands in the padded document under its new number. -/
theorem getElem?_rowsBefore {n : Nat} (h : n < (ownLines rows).length) :
    (paddedLines rows)[rowsBefore rows n]? = (ownLines rows)[n]? := by
  induction rows generalizing n with
  | nil => simp [ownLines] at h
  | cons row rows ih =>
    cases row with
    | filler f => simpa [rowsBefore] using ih h
    | own line =>
      cases n with
      | zero => simp [rowsBefore]
      | succ n => simpa [rowsBefore] using ih (by simpa using h)

/-! ## Errors with their lines -/

/-- An error and the line that it is reported at. -/
structure Located where
  finding : Finding
  line : Nat

namespace Located

/-- The diagnostic that reports an error. -/
def diagnostic (e : Located) : Diagnostic := e.finding.onLine e.line

/-- The error in the padded document: code without a declaration is reported at the first line,
forms that are not closed at the last line, and all else at the new number of its line. -/
def moved (rows : List Row) (e : Located) : Located where
  finding := e.finding
  line := match e.finding with
    | .noDeclaration => e.line
    | .unclosed _ => rows.length
    | _ => newNumber rows e.line

end Located

/-- The finding is an error. -/
def Finding.isError (f : Finding) : Bool := f.severity == .error

/-- The errors on parentheses. -/
def balanceErrors (lines : List (List Char)) : List Located :=
  let b := scanBalance 1 0 lines
  b.1.map (Located.mk .strayCloser) ++ if b.2 = 0 then [] else [⟨.unclosed b.2, lines.length⟩]

/-- The error on code without a declaration. -/
def declarationErrors (lines : List (List Char)) : List Located :=
  if lines.any (fun l => isCode (trim l)) && !lines.any (containsAnyForm declarationKeywords) then
    [⟨.noDeclaration, 1⟩]
  else []

/-- The errors of successive lines, the first of which has the given number. -/
def lineErrors (line : Nat) : List (List Char) → List Located
  | [] => []
  | l :: ls =>
    ((lineFindings l).filter Finding.isError).map (Located.mk · line) ++ lineErrors (line + 1) ls

/-- The errors of a document in the order of the check. -/
def errorsOf (lines : List (List Char)) : List Located :=
  balanceErrors lines ++ declarationErrors lines ++ lineErrors 1 lines

theorem declarationKeywords_oneLine : ∀ keyword ∈ declarationKeywords, '\n' ∉ keyword := by decide

/-- The errors of the lines of a document are those that the check reports. -/
theorem filter_isError_linesDiagnostics (line : Nat) (ls : List (List Char)) :
    (linesDiagnostics line ls).filter (·.isError) =
      (lineErrors line ls).map Located.diagnostic := by
  induction ls generalizing line with
  | nil => rfl
  | cons l ls ih =>
    simp only [linesDiagnostics, lineErrors, List.filter_append, ih, List.map_append,
      List.filter_map, List.map_map]
    rfl

theorem filter_isError_balanceDiagnostics (lines : List (List Char)) :
    (balanceDiagnostics lines).filter (·.isError) =
      (balanceErrors lines).map Located.diagnostic := by
  unfold balanceDiagnostics balanceErrors
  rw [List.filter_append, List.map_append, List.map_map, List.filter_eq_self.2]
  · congr 1
    split <;> rfl
  · intro d hd
    obtain ⟨n, -, rfl⟩ := List.mem_map.1 hd
    rfl

theorem filter_isError_declarationDiagnostics (lines : List (List Char)) :
    (declarationDiagnostics (document lines) lines).filter (·.isError) =
      (declarationErrors lines).map Located.diagnostic := by
  unfold declarationDiagnostics declarationErrors
  rw [containsAnyForm_document declarationKeywords_oneLine]
  split <;> rfl

theorem filter_isError_responseDiagnostics (source : List Char) :
    (responseDiagnostics source).filter (·.isError) = [] := by
  unfold responseDiagnostics
  split <;> rfl

/-- The check reports the errors of a document, one after the other. -/
theorem errors_check_document {lines : List (List Char)} (h : ∀ l ∈ lines, '\n' ∉ l) :
    (check (String.ofList (document lines))).errors = (errorsOf lines).map Located.diagnostic := by
  by_cases hne : lines = []
  · subst hne
    rfl
  · have herrors (source : List Char) : (check (String.ofList source)).errors =
        (diagnostics source).filter (·.isError) := by
      rw [check, String.toList_ofList, Verdict.ofDiagnostics]
    rw [herrors, diagnostics, splitLines_document hne h]
    simp only [List.filter_append, filter_isError_balanceDiagnostics,
      filter_isError_declarationDiagnostics, filter_isError_linesDiagnostics,
      filter_isError_responseDiagnostics, errorsOf, List.map_append, List.append_nil]

/-! ## Rows without effect -/

/-- Counting from one more puts every stray closer one line further down. -/
theorem scanBalance_succ (line depth : Nat) (ls : List (List Char)) :
    scanBalance (line + 1) depth ls =
      ((scanBalance line depth ls).1.map (· + 1), (scanBalance line depth ls).2) := by
  induction ls generalizing line depth with
  | nil => rfl
  | cons l ls ih => simp [scanBalance, ih (line + 1)]

/-- The stray closers of a padded document are those of the document. -/
theorem scanBalance_padded (depth : Nat) :
    scanBalance 0 depth (paddedLines rows) =
      ((scanBalance 0 depth (ownLines rows)).1.map (rowsBefore rows),
        (scanBalance 0 depth (ownLines rows)).2) := by
  induction rows generalizing depth with
  | nil => simp [paddedLines, ownLines, scanBalance]
  | cons row rows ih =>
    cases row with
    | filler f =>
      rw [paddedLines_filler, ownLines_filler, scanBalance, ofText_filler, scanBalance_succ, ih]
      simp [rowsBefore, Function.comp_def]
    | own line =>
      rw [paddedLines_own, ownLines_own, scanBalance, scanBalance, scanBalance_succ,
        scanBalance_succ, ih]
      simp [rowsBefore, Function.comp_def]

theorem lineErrors_succ (line : Nat) (ls : List (List Char)) :
    lineErrors (line + 1) ls = (lineErrors line ls).map fun e => { e with line := e.line + 1 } := by
  induction ls generalizing line with
  | nil => rfl
  | cons l ls ih => simp [lineErrors, ih (line + 1)]

theorem lineErrors_padded :
    lineErrors 0 (paddedLines rows) =
      (lineErrors 0 (ownLines rows)).map fun e => { e with line := rowsBefore rows e.line } := by
  induction rows with
  | nil => rfl
  | cons row rows ih =>
    cases row with
    | filler f =>
      rw [paddedLines_filler, ownLines_filler, lineErrors, lineErrors_succ, ih]
      simp [rowsBefore, Function.comp_def, lineFindings, isCode_filler]
    | own line =>
      rw [paddedLines_own, ownLines_own, lineErrors, lineErrors, lineErrors_succ,
        lineErrors_succ, ih]
      simp [rowsBefore, Function.comp_def]

/-! ## The errors of a padded document -/

/-- The findings of a line. -/
def Finding.IsOfLine : Finding → Prop
  | .strayCloser | .unclosed _ | .noDeclaration | .noResponse => False
  | _ => True

theorem isOfLine_of_mem_lineFindings {l : List Char} {f : Finding} (h : f ∈ lineFindings l) :
    f.IsOfLine := by
  unfold lineFindings formFindings functionFindings nameFindings callerFindings at h
  grind [Finding.IsOfLine]

theorem moved_of_isOfLine {f : Finding} (h : f.IsOfLine) (line : Nat) :
    Located.moved rows ⟨f, line⟩ = ⟨f, newNumber rows line⟩ := by
  cases f with
  | noDeclaration | unclosed => exact h.elim
  | _ => rfl

theorem isOfLine_of_mem_lineErrors {line : Nat} {ls : List (List Char)} {e : Located}
    (h : e ∈ lineErrors line ls) : e.finding.IsOfLine := by
  induction ls generalizing line with
  | nil => simp [lineErrors] at h
  | cons l ls ih =>
    rcases List.mem_append.1 h with h | h
    · obtain ⟨f, hf, rfl⟩ := List.mem_map.1 h
      exact isOfLine_of_mem_lineFindings (List.mem_filter.1 hf).1
    · exact ih h

theorem balanceErrors_padded :
    balanceErrors (paddedLines rows) = (balanceErrors (ownLines rows)).map
      (Located.moved rows) := by
  unfold balanceErrors
  rw [scanBalance_succ, scanBalance_padded, scanBalance_succ]
  simp only [List.map_append, List.map_map]
  congr 1
  split <;> simp [Located.moved, paddedLines]

theorem declarationErrors_padded :
    declarationErrors (paddedLines rows) =
      (declarationErrors (ownLines rows)).map (Located.moved rows) := by
  have hany {p : List Char → Bool} (hp : ∀ f : Filler, p f.chars = false) :
      (paddedLines rows).any p = (ownLines rows).any p := by
    induction rows with
    | nil => rfl
    | cons row rows ih => cases row <;> simp [ih, hp]
  unfold declarationErrors
  rw [hany isCode_filler, hany fun f => ?_]
  · split <;> rfl
  · simpa [containsAnyForm] using f.noDeclaration

theorem lineErrors_moved :
    lineErrors 1 (paddedLines rows) = (lineErrors 1 (ownLines rows)).map (Located.moved rows) := by
  have hmoved : ∀ e ∈ lineErrors 0 (ownLines rows),
    Located.moved rows { e with line := e.line + 1 } =
      { e with line := rowsBefore rows e.line + 1 } :=
    fun e he => moved_of_isOfLine rows (isOfLine_of_mem_lineErrors he) (e.line + 1)
  rw [lineErrors_succ, lineErrors_padded, lineErrors_succ, List.map_map, List.map_map]
  exact List.map_congr_left fun e he => (hmoved e he).symm

theorem oneLine_paddedLines : ∀ l ∈ paddedLines rows, '\n' ∉ l := by
  simp only [paddedLines, List.mem_map]
  rintro _ ⟨row, -, rfl⟩
  exact row.line.oneLine

theorem oneLine_ownLines : ∀ l ∈ ownLines rows, '\n' ∉ l := by
  simp only [ownLines, List.mem_map]
  rintro _ ⟨line, -, rfl⟩
  exact line.oneLine

/-- The errors of a padded document are those of the document, and each has moved with its line. A
line is the same under its new number. -/
theorem errors_padded :
    (check (String.ofList (document (ownLines rows)))).errors =
        (errorsOf (ownLines rows)).map Located.diagnostic ∧
      (check (String.ofList (document (paddedLines rows)))).errors =
        (errorsOf (ownLines rows)).map (fun e => (e.moved rows).diagnostic) ∧
      (check (String.ofList (document (paddedLines rows)))).errors.map Diagnostic.message =
        (check (String.ofList (document (ownLines rows)))).errors.map Diagnostic.message ∧
      (check (String.ofList (document (paddedLines rows)))).isValid =
        (check (String.ofList (document (ownLines rows)))).isValid ∧
      ∀ n < (ownLines rows).length,
        (paddedLines rows)[newNumber rows (n + 1) - 1]? = (ownLines rows)[n]? := by
  have hown := errors_check_document (oneLine_ownLines rows)
  have hpadded : (check (String.ofList (document (paddedLines rows)))).errors =
      (errorsOf (ownLines rows)).map fun e => (e.moved rows).diagnostic := by
    rw [errors_check_document (oneLine_paddedLines rows)]
    simp only [errorsOf, balanceErrors_padded, declarationErrors_padded, lineErrors_moved,
      List.map_append, List.map_map, Function.comp_def]
  refine ⟨hown, hpadded, ?_, ?_, fun n hn => getElem?_rowsBefore rows hn⟩
  · rw [hown, hpadded, List.map_map, List.map_map]
    rfl
  · simp only [Verdict.isValid, hown, hpadded, List.isEmpty_map]

end ClarityCheck.Lint
