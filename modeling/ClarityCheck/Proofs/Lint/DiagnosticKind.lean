import ClarityCheck.Proofs.Json.Integers
import ClarityCheck.Proofs.Lint.InsertedLines

/-!
# Kinds of diagnostics

A verdict holds lines and messages, not findings. The first word of a message tells which kind of
finding it reports, so that the diagnostics of a kind can be picked out of a verdict.

* `kind_onLine`: a diagnostic is of the kind of its finding
* `errors_check`, `warnings_check`: the parts of a verdict in their order
* `ofLines_errors`, `ofLines_warnings`: the diagnostics of single lines in a verdict
* `atLine_linesDiagnostics`: the diagnostics of one line
-/

namespace ClarityCheck.Lint

open Text

/-! ## The kinds -/

/-- The kinds of findings: what a finding says without the names and numbers in it. -/
inductive Kind where
  | strayCloser
  | unclosed
  | noDeclaration
  | missingName
  | invalidName
  | noResult
  | shortDataVar
  | shortDataMap
  | unguardedCaller
  | noResponse
  deriving DecidableEq, Repr

namespace Kind

/-- All kinds. -/
def all : List Kind :=
  [.strayCloser, .unclosed, .noDeclaration, .missingName, .invalidName, .noResult, .shortDataVar,
    .shortDataMap, .unguardedCaller, .noResponse]

/-- The word that messages of a kind begin with. Only those on unclosed forms have none of their
own: they begin with a number. -/
def word? : Kind → Option (List Char)
  | .strayCloser => some "unmatched".toList
  | .unclosed => none
  | .noDeclaration => some "contract".toList
  | .missingName => some "missing".toList
  | .invalidName => some "invalid".toList
  | .noResult => some "function".toList
  | .shortDataVar => some "define-data-var".toList
  | .shortDataMap => some "define-map".toList
  | .unguardedCaller => some "tx-sender".toList
  | .noResponse => some "public".toList

/-- The first word of a message. -/
def firstWord (message : String) : List Char := message.toList.takeWhile (· != ' ')

/-- The kind that a message belongs to. -/
def ofMessage (message : String) : Kind :=
  (all.find? (·.word? == some (firstWord message))).getD .unclosed

/-- The kinds on parentheses. -/
def isOfBalance : Kind → Bool
  | .strayCloser | .unclosed => true
  | _ => false

/-- The kinds on single lines: those on the names of functions, their results, the parts of data
declarations and the caller's identity. -/
def isOfLine : Kind → Bool
  | .missingName | .invalidName | .noResult | .shortDataVar | .shortDataMap | .unguardedCaller =>
    true
  | _ => false

theorem isOfLine_of_isOfBalance {k : Kind} (h : k.isOfBalance = true) : k.isOfLine = false := by
  cases k with
  | strayCloser | unclosed => rfl
  | _ => cases h

/-- The kinds on the names of functions. -/
def isOfName : Kind → Bool
  | .missingName | .invalidName => true
  | _ => false

end Kind

/-- The kind of a finding. -/
def Finding.kind : Finding → Kind
  | .strayCloser => .strayCloser
  | .unclosed _ => .unclosed
  | .noDeclaration => .noDeclaration
  | .missingName _ => .missingName
  | .invalidName _ => .invalidName
  | .noResult _ => .noResult
  | .shortDataVar => .shortDataVar
  | .shortDataMap => .shortDataMap
  | .unguardedCaller => .unguardedCaller
  | .noResponse => .noResponse

/-- The kind of a diagnostic, by its message. -/
def Diagnostic.kind (d : Diagnostic) : Kind := Kind.ofMessage d.message

/-! ## The first word of a message -/

theorem firstWord_of_append {message : String} {word rest : List Char}
    (h : message.toList = word ++ ' ' :: rest) (hw : ' ' ∉ word) :
    Kind.firstWord message = word := by
  rw [Kind.firstWord, h, List.takeWhile_append_of_pos]
  · simp
  · intro c hc
    have hne : c ≠ ' ' := fun he => hw (he ▸ hc)
    simpa using hne

theorem starts_append {first : String} {word : List Char}
    (h : ∃ rest, first.toList = word ++ ' ' :: rest) (more : String) :
    ∃ rest, (first ++ more).toList = word ++ ' ' :: rest := by
  obtain ⟨rest, hrest⟩ := h
  refine ⟨rest ++ more.toList, ?_⟩
  rw [String.toList_append, hrest, List.append_assoc, List.cons_append]

/-- A message begins with the word of its kind. -/
theorem message_starts {f : Finding} {word : List Char} (h : f.kind.word? = some word) :
    ∃ rest, f.message.toList = word ++ ' ' :: rest := by
  -- The equations of `Finding.message` take long to make, so the definition is opened without them.
  cases f with
  | unclosed n => cases h
  | strayCloser | noDeclaration | shortDataVar | shortDataMap | unguardedCaller | noResponse =>
    cases h
    delta Finding.message
    exact ⟨_, String.toList_ofList⟩
  | missingName keyword =>
    cases h
    delta Finding.message
    refine starts_append ?_ _
    exact ⟨_, String.toList_ofList⟩
  | noResult name | invalidName name =>
    cases h
    delta Finding.message
    refine starts_append (starts_append ?_ _) _
    exact ⟨_, String.toList_ofList⟩

theorem message_unclosed (n : Nat) :
    ∃ rest, (Finding.unclosed n).message.toList = Nat.toDigits 10 n ++ ' ' :: rest := by
  delta Finding.message
  refine starts_append (?_ : ∃ rest, (toString n ++ " unclosed ").toList = _) _
  exact ⟨"unclosed ".toList,
    by rw [String.toList_append, Nat.toString_eq_repr, Nat.toList_repr]; rfl⟩

theorem word_of_kind : ∀ {k : Kind} {word : List Char}, k.word? = some word →
    ' ' ∉ word ∧ word.any (fun c => !c.isDigit) = true ∧ Kind.all.find? (·.word? == some word) =
      some k := by
  intro k word h
  cases k <;> cases h <;> decide

/-- A number is the word of no kind. -/
theorem find?_of_digits {word : List Char} (h : ∀ c ∈ word, c.isDigit = true) :
    Kind.all.find? (·.word? == some word) = none := by
  rw [List.find?_eq_none]
  intro k _ hk
  obtain ⟨-, hany, -⟩ := word_of_kind (beq_iff_eq.1 hk)
  obtain ⟨c, hc, hdigit⟩ := List.any_eq_true.1 hany
  rw [h c hc] at hdigit
  contradiction

/-- The first word of a message tells the kind of what it reports. -/
theorem ofMessage_message (f : Finding) : Kind.ofMessage f.message = f.kind := by
  cases hword : f.kind.word? with
  | some word =>
    obtain ⟨rest, hrest⟩ := message_starts hword
    obtain ⟨hspace, -, hfind⟩ := word_of_kind hword
    rw [Kind.ofMessage, firstWord_of_append hrest hspace, hfind, Option.getD_some]
  | none =>
    obtain ⟨n, rfl⟩ : ∃ n, f = .unclosed n := by
      cases f with
      | unclosed n => exact ⟨n, rfl⟩
      | _ => cases hword
    obtain ⟨rest, hrest⟩ := message_unclosed n
    have hdigits : ∀ c ∈ Nat.toDigits 10 n, c.isDigit = true := Json.isDigit_of_mem_toDigits
    have hspace : ' ' ∉ Nat.toDigits 10 n := by
      intro hm
      have := hdigits ' ' hm
      contradiction
    rw [Kind.ofMessage, firstWord_of_append hrest hspace, find?_of_digits hdigits]
    rfl

/-- A diagnostic is of the kind of its finding. -/
@[simp] theorem kind_onLine (f : Finding) (line : Nat) : (f.onLine line).kind = f.kind :=
  ofMessage_message f

/-! ## The parts of a verdict -/

theorem mem_balanceDiagnostics {lines : List (List Char)} {d : Diagnostic}
    (h : d ∈ balanceDiagnostics lines) : d.isError = true ∧ d.kind.isOfBalance = true := by
  rw [balanceDiagnostics, List.mem_append] at h
  rcases h with h | h
  · obtain ⟨n, -, rfl⟩ := List.mem_map.1 h
    exact ⟨rfl, by rw [kind_onLine]; rfl⟩
  · split at h
    · cases h
    · rw [List.mem_singleton] at h
      subst h
      exact ⟨rfl, by rw [kind_onLine]; rfl⟩

theorem mem_declarationDiagnostics {source : List Char} {lines : List (List Char)} {d : Diagnostic}
    (h : d ∈ declarationDiagnostics source lines) : d = Finding.noDeclaration.onLine 1 := by
  unfold declarationDiagnostics at h
  split at h
  · exact List.mem_singleton.1 h
  · cases h

theorem mem_responseDiagnostics {source : List Char} {d : Diagnostic}
    (h : d ∈ responseDiagnostics source) : d = Finding.noResponse.onLine 1 := by
  unfold responseDiagnostics at h
  split at h
  · exact List.mem_singleton.1 h
  · cases h

/-- A diagnostic of successive lines reports a finding of one of them under its number. -/
theorem mem_linesDiagnostics {start : Nat} {lines : List (List Char)} {d : Diagnostic} :
    d ∈ linesDiagnostics start lines ↔
      ∃ i, ∃ h : i < lines.length, ∃ f ∈ lineFindings lines[i], d = f.onLine (start + i) := by
  induction lines generalizing start with
  | nil => simp [linesDiagnostics]
  | cons l ls ih =>
    rw [linesDiagnostics, List.mem_append, ih]
    constructor
    · rintro (h | ⟨i, hi, f, hf, rfl⟩)
      · obtain ⟨f, hf, rfl⟩ := List.mem_map.1 h
        exact ⟨0, by simp, f, hf, rfl⟩
      · exact ⟨i + 1, by simpa using hi, f, hf, by rw [Nat.add_right_comm, Nat.add_assoc]⟩
    · rintro ⟨i, hi, f, hf, rfl⟩
      cases i with
      | zero => exact .inl (List.mem_map.2 ⟨f, hf, rfl⟩)
      | succ i =>
        exact .inr ⟨i, by simpa using hi, f, hf, by rw [Nat.add_right_comm, Nat.add_assoc]⟩

theorem isOfLine_of_mem_linesDiagnostics {start : Nat} {lines : List (List Char)} {d : Diagnostic}
    (h : d ∈ linesDiagnostics start lines) : d.kind.isOfLine = true := by
  obtain ⟨i, hi, f, hf, rfl⟩ := mem_linesDiagnostics.1 h
  rw [kind_onLine]
  have := isOfLine_of_mem_lineFindings hf
  cases f with
  | strayCloser | unclosed | noDeclaration | noResponse => exact this.elim
  | _ => rfl

/-- The errors of a verdict: those on parentheses, the missing declaration and those of the lines.
-/
theorem errors_check (source : String) :
    (check source).errors = balanceDiagnostics (splitLines source.toList) ++
      declarationDiagnostics source.toList (splitLines source.toList) ++
      (linesDiagnostics 1 (splitLines source.toList)).filter (·.isError) := by
  show (diagnostics source.toList).filter (·.isError) = _
  simp only [diagnostics, List.filter_append]
  rw [filter_isError_responseDiagnostics, List.append_nil, List.filter_eq_self.2,
    List.filter_eq_self.2]
  · intro d hd
    rw [mem_declarationDiagnostics hd]
    rfl
  · exact fun d hd => (mem_balanceDiagnostics hd).1

/-- No other error is on parentheses. -/
theorem isOfBalance_of_mem_others {source : List Char} {start : Nat} {lines : List (List Char)}
    {p : Diagnostic → Bool} {d : Diagnostic}
    (h : d ∈ declarationDiagnostics source lines ++ (linesDiagnostics start lines).filter p) :
    d.kind.isOfBalance = false := by
  rcases List.mem_append.1 h with h | h
  · rw [mem_declarationDiagnostics h, kind_onLine]
    rfl
  · have hline := isOfLine_of_mem_linesDiagnostics (List.mem_filter.1 h).1
    by_contra hbalance
    simp [Kind.isOfLine_of_isOfBalance (Bool.not_eq_false _ ▸ hbalance)] at hline

/-- The errors on parentheses of a verdict. -/
theorem filter_isOfBalance_errors (source : String) :
    (check source).errors.filter (·.kind.isOfBalance) =
      balanceDiagnostics (splitLines source.toList) := by
  rw [errors_check, List.append_assoc, List.filter_append,
    List.filter_eq_self.2 fun d hd => (mem_balanceDiagnostics hd).2, List.filter_eq_nil_iff.2,
    List.append_nil]
  intro d hd
  simp [isOfBalance_of_mem_others hd]

/-- The warnings of a verdict: those of the lines and the missing response. -/
theorem warnings_check (source : String) :
    (check source).warnings =
      (linesDiagnostics 1 (splitLines source.toList)).filter (fun d => !d.isError) ++
        responseDiagnostics source.toList := by
  show (diagnostics source.toList).filter (fun d => !d.isError) = _
  simp only [diagnostics, List.filter_append]
  have hbalance : (balanceDiagnostics (splitLines source.toList)).filter (fun d => !d.isError) =
      [] := by
    rw [List.filter_eq_nil_iff]
    intro d hd
    simp [(mem_balanceDiagnostics hd).1]
  have hdeclaration : (declarationDiagnostics source.toList (splitLines source.toList)).filter
      (fun d => !d.isError) = [] := by
    rw [List.filter_eq_nil_iff]
    intro d hd
    rw [mem_declarationDiagnostics hd]
    decide
  have hresponse : (responseDiagnostics source.toList).filter (fun d => !d.isError) =
      responseDiagnostics source.toList := by
    rw [List.filter_eq_self]
    intro d hd
    rw [mem_responseDiagnostics hd]
    rfl
  rw [hbalance, hdeclaration, hresponse, List.nil_append, List.nil_append]

/-! ## The diagnostics of single lines -/

/-- The diagnostics on single lines among others. -/
def ofLines (ds : List Diagnostic) : List Diagnostic := ds.filter (·.kind.isOfLine)

theorem ofLines_linesDiagnostics (start : Nat) (lines : List (List Char)) (p : Diagnostic → Bool) :
    ofLines ((linesDiagnostics start lines).filter p) = (linesDiagnostics start lines).filter p :=
  List.filter_eq_self.2 fun _ hd => isOfLine_of_mem_linesDiagnostics (List.mem_filter.1 hd).1

theorem ofLines_errors (source : String) : ofLines (check source).errors =
    (linesDiagnostics 1 (splitLines source.toList)).filter (·.isError) := by
  have hfront : ofLines (balanceDiagnostics (splitLines source.toList) ++
      declarationDiagnostics source.toList (splitLines source.toList)) = [] := by
    rw [ofLines, List.filter_eq_nil_iff]
    intro d hd
    rcases List.mem_append.1 hd with hd | hd
    · simp [Kind.isOfLine_of_isOfBalance (mem_balanceDiagnostics hd).2]
    · rw [mem_declarationDiagnostics hd, kind_onLine]
      decide
  rw [errors_check, ofLines, List.filter_append]
  exact congrArg₂ _ hfront (ofLines_linesDiagnostics _ _ _)

theorem ofLines_warnings (source : String) : ofLines (check source).warnings =
    (linesDiagnostics 1 (splitLines source.toList)).filter (fun d => !d.isError) := by
  have hback : ofLines (responseDiagnostics source.toList) = [] := by
    rw [ofLines, List.filter_eq_nil_iff]
    intro d hd
    rw [mem_responseDiagnostics hd, kind_onLine]
    decide
  rw [warnings_check, ofLines, List.filter_append]
  exact (congrArg₂ _ (ofLines_linesDiagnostics _ _ _) hback).trans (List.append_nil _)

/-- The diagnostics on a line. -/
def atLine (number : Nat) (ds : List Diagnostic) : List Diagnostic := ds.filter (·.line == number)

/-- The diagnostics of one of successive lines are its findings. -/
theorem atLine_linesDiagnostics (start : Nat) {lines : List (List Char)} {i : Nat}
    (h : i < lines.length) :
    atLine (start + i) (linesDiagnostics start lines) =
      (lineFindings lines[i]).map (·.onLine (start + i)) := by
  induction lines generalizing start i with
  | nil => simp at h
  | cons l ls ih =>
    rw [linesDiagnostics, atLine, List.filter_append]
    cases i with
    | zero =>
      have hself : ∀ d ∈ (lineFindings l).map (·.onLine start), (d.line == start + 0) = true := by
        intro d hd
        obtain ⟨f, -, rfl⟩ := List.mem_map.1 hd
        simp [Finding.onLine]
      have hlater : ∀ d ∈ linesDiagnostics (start + 1) ls, ¬(d.line == start + 0) = true := by
        intro d hd
        obtain ⟨j, -, f, -, rfl⟩ := mem_linesDiagnostics.1 hd
        simp [Finding.onLine]
        omega
      rw [List.filter_eq_self.2 hself, List.filter_eq_nil_iff.2 hlater, List.append_nil]
      rfl
    | succ i =>
      have hearlier : ∀ d ∈ (lineFindings l).map (·.onLine start),
          ¬(d.line == start + (i + 1)) = true := by
        intro d hd
        obtain ⟨f, -, rfl⟩ := List.mem_map.1 hd
        simp [Finding.onLine]
      have hnext := ih (start + 1) (i := i) (by simpa using h)
      rw [List.filter_eq_nil_iff.2 hearlier, List.nil_append, ← Nat.add_assoc, Nat.add_right_comm]
      exact hnext

end ClarityCheck.Lint
