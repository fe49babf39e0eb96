import ClarityCheck.Proofs.Lint.DiagnosticKind
import ClarityCheck.Proofs.Lint.LineMargins

/-!
# The names of functions

A line that opens with a function form declares the name behind its keyword. The scanner of the
check reads the same name as the grammar: blanks, at most one opening parenthesis, blanks again, and
then everything up to the next blank or parenthesis. Only such lines have errors on names, and each
has at most one.

* `names_iff`: the scanner reads what the grammar says
* `names_bare`, `names_wrapped`: the layouts of a function form
* `nameErrors_of_opens`: the errors on the name of a function form
* `wordCount_eq`: the words of a line are its parts between blanks
* `names_checked`: the check of names and of data declarations
-/

namespace ClarityCheck.Lint

open Text

/-! ## The grammar -/

/-- The second text is left when the leading blanks of the first one are skipped. -/
def SkipsBlanks (s t : List Char) : Prop :=
  ∃ blanks, s = blanks ++ t ∧ (∀ c ∈ blanks, isBlank c = true) ∧ ∀ c ∈ t.head?, isBlank c = false

/-- The second text is left when an opening parenthesis in front of the first one is skipped. -/
def SkipsOpening (s t : List Char) : Prop := s = '(' :: t ∨ s = t ∧ t.head? ≠ some '('

/-- No character ends a head or a name. -/
def IsRun (n : List Char) : Prop := ∀ c ∈ n, isBoundary c = false

/-- The text begins with these characters up to the first blank or parenthesis. -/
def LeadingRun (s n : List Char) : Prop := ∃ after, s = n ++ after ∧ IsRun n ∧ EndsHere after

/-- The name that a text behind a keyword declares. -/
def Names (rest n : List Char) : Prop :=
  ∃ s t u, SkipsBlanks rest s ∧ SkipsOpening s t ∧ SkipsBlanks t u ∧ LeadingRun u n

/-- The trimmed line is an opening parenthesis, the whole keyword and the rest. -/
def Opens (line keyword rest : List Char) : Prop :=
  trim line = '(' :: (keyword ++ rest) ∧ EndsHere rest

/-- A lowercase letter, a digit or one of the three signs that names may hold. -/
def NameChar (c : Char) : Prop :=
  'a' ≤ c ∧ c ≤ 'z' ∨ '0' ≤ c ∧ c ≤ '9' ∨ c = '-' ∨ c = '?' ∨ c = '!'

/-! ## The scanner reads the grammar -/

theorem skipsBlanks_iff {s t : List Char} : SkipsBlanks s t ↔ trimStart s = t := by
  constructor
  · rintro ⟨blanks, rfl, hblanks, ht⟩
    rw [trimStart_append hblanks]
    cases t with
    | nil => rfl
    | cons c t =>
      have hc : isBlank c = false := ht c rfl
      exact List.dropWhile_cons_of_neg (by simp [hc])
  · rintro rfl
    refine ⟨s.takeWhile isBlank, List.takeWhile_append_dropWhile.symm,
      fun c hc => List.mem_takeWhile_imp hc, ?_⟩
    intro c hc
    have := List.head?_dropWhile_not isBlank s
    rwa [← trimStart, Option.mem_def.1 hc] at this

theorem dropOpening_of_head?_ne {s : List Char} (h : s.head? ≠ some '(') : dropOpening s = s := by
  unfold dropOpening
  split
  · exact absurd rfl h
  · rfl

theorem skipsOpening_iff {s t : List Char} : SkipsOpening s t ↔ dropOpening s = t := by
  constructor
  · rintro (rfl | ⟨rfl, hs⟩)
    · rfl
    · exact dropOpening_of_head?_ne hs
  · rintro rfl
    by_cases hs : s.head? = some '('
    · obtain ⟨t, rfl⟩ := List.head?_eq_some_iff.1 hs
      exact .inl rfl
    · rw [dropOpening_of_head?_ne hs]
      exact .inr ⟨rfl, hs⟩

section

variable {n after : List Char}

theorem takeWhile_run (hn : IsRun n) (hafter : EndsHere after) :
    (n ++ after).takeWhile (fun c => !isBoundary c) = n := by
  rw [List.takeWhile_append_of_pos fun c hc => by simp [hn c hc]]
  cases after with
  | nil => simp
  | cons c after =>
    have hc : isBoundary c = true := hafter c rfl
    simp [hc]

theorem dropWhile_run (hn : IsRun n) (hafter : EndsHere after) :
    (n ++ after).dropWhile (fun c => !isBoundary c) = after := by
  rw [List.dropWhile_append_of_pos fun c hc => by simp [hn c hc]]
  cases after with
  | nil => rfl
  | cons c after =>
    have hc : isBoundary c = true := hafter c rfl
    simp [hc]

end

theorem isRun_takeWhile (s : List Char) : IsRun (s.takeWhile fun c => !isBoundary c) := by
  intro c hc
  simpa using List.mem_takeWhile_imp hc

theorem endsHere_dropWhile (s : List Char) : EndsHere (s.dropWhile fun c => !isBoundary c) := by
  intro c hc
  have := List.head?_dropWhile_not (fun c => !isBoundary c) s
  rw [Option.mem_def.1 hc] at this
  simpa using this

theorem leadingRun_iff {s n : List Char} :
    LeadingRun s n ↔ s.takeWhile (fun c => !isBoundary c) = n := by
  constructor
  · rintro ⟨after, rfl, hn, hafter⟩
    exact takeWhile_run hn hafter
  · rintro rfl
    exact ⟨_, List.takeWhile_append_dropWhile.symm, isRun_takeWhile s, endsHere_dropWhile s⟩

/-- The scanner reads the name of the grammar. -/
theorem names_iff {rest n : List Char} : Names rest n ↔ declaredName rest = n := by
  constructor
  · rintro ⟨s, t, u, hs, ht, hu, hn⟩
    rw [skipsBlanks_iff] at hs hu
    rw [skipsOpening_iff] at ht
    rw [leadingRun_iff] at hn
    rw [declaredName, hs, ht, hu, hn]
  · intro h
    exact ⟨_, _, _, skipsBlanks_iff.2 rfl, skipsOpening_iff.2 rfl, skipsBlanks_iff.2 rfl,
      leadingRun_iff.2 h⟩

/-- Whatever stands behind a keyword, it declares one name, which may be empty. -/
theorem existsUnique_names (rest : List Char) : ∃! n, Names rest n :=
  ⟨declaredName rest, names_iff.2 rfl, fun _ h => (names_iff.1 h).symm⟩

/-! ## The layouts -/

section

variable {a b n after : List Char}

/-- Nothing in front of a name is skipped. An empty name stands where the form ends. -/
theorem head?_layout (hn : IsRun n) (hempty : n = [] → ∀ c ∈ after.head?, c = ')') :
    ∀ c ∈ (n ++ after).head?, isBlank c = false ∧ c ≠ '(' := by
  intro c hc
  cases n with
  | nil =>
    rw [hempty rfl c hc]
    decide
  | cons d n =>
    obtain rfl : d = c := by simpa using hc
    have hd : isBoundary d = false := hn d List.mem_cons_self
    simp only [isBoundary, Bool.or_eq_false_iff, beq_eq_false_iff_ne] at hd
    exact ⟨hd.1.1, hd.1.2⟩

/-- The bare layout: the name stands behind the keyword. -/
theorem names_bare (ha : ∀ c ∈ a, isBlank c = true) (hn : IsRun n) (hafter : EndsHere after)
    (hempty : n = [] → ∀ c ∈ after.head?, c = ')') : Names (a ++ (n ++ after)) n := by
  have hhead := head?_layout hn hempty
  have hblank : ∀ c ∈ (n ++ after).head?, isBlank c = false := fun c hc => (hhead c hc).1
  have hopening : (n ++ after).head? ≠ some '(' := fun h => (hhead _ h).2 rfl
  refine ⟨n ++ after, n ++ after, n ++ after, ⟨a, rfl, ha, hblank⟩, .inr ⟨rfl, hopening⟩, ?_, ?_⟩
  · exact ⟨[], rfl, fun _ hc => (List.not_mem_nil hc).elim, hblank⟩
  · exact ⟨after, rfl, hn, hafter⟩

/-- The wrapped layout: the name stands behind a parenthesis of its own. -/
theorem names_wrapped (ha : ∀ c ∈ a, isBlank c = true) (hb : ∀ c ∈ b, isBlank c = true)
    (hn : IsRun n) (hafter : EndsHere after) (hempty : n = [] → ∀ c ∈ after.head?, c = ')') :
    Names (a ++ '(' :: (b ++ (n ++ after))) n := by
  have hblank : ∀ c ∈ (n ++ after).head?, isBlank c = false :=
    fun c hc => (head?_layout hn hempty c hc).1
  refine ⟨_, _, _, ⟨a, rfl, ha, ?_⟩, .inl rfl, ⟨b, rfl, hb, hblank⟩, ⟨after, rfl, hn, hafter⟩⟩
  intro c hc
  obtain rfl : '(' = c := by simpa using hc
  decide

end

/-! ## Lines and their forms -/

theorem leadingForm?_eq_some_iff {line keyword rest : List Char} :
    leadingForm? (trim line) = some (keyword, rest) ↔ Opens line keyword rest ∧ IsRun keyword := by
  constructor
  · intro h
    unfold leadingForm? at h
    split at h
    · next s hs =>
      cases h
      refine ⟨⟨?_, endsHere_dropWhile s⟩, isRun_takeWhile s⟩
      rw [hs, List.takeWhile_append_dropWhile]
    · cases h
  · rintro ⟨⟨hline, hrest⟩, hkeyword⟩
    rw [hline, leadingForm?, takeWhile_run hkeyword hrest, dropWhile_run hkeyword hrest]

theorem isRun_declarationKeywords : ∀ keyword ∈ declarationKeywords, IsRun keyword := by
  intro keyword hk c hc
  have hall : declarationKeywords.all (fun keyword => keyword.all fun c => !isBoundary c) =
    true := by decide
  simpa using List.all_eq_true.1 (List.all_eq_true.1 hall keyword hk) c hc

/-- The form that a line opens with stands in the line. -/
theorem Opens.hasForm {line keyword rest : List Char} (h : Opens line keyword rest) :
    HasForm keyword line := by
  obtain ⟨a, b, -, hb, hl⟩ := exists_blanks line
  refine ⟨a, rest ++ b, ?_, ?_⟩
  · conv_lhs => rw [hl, h.1]
    simp
  · intro c hc
    cases rest with
    | nil =>
      have : c ∈ b := List.mem_of_mem_head? hc
      simp [isBoundary, hb c this]
    | cons d rest => exact h.2 c hc

theorem Opens.isCode {line keyword rest : List Char} (h : Opens line keyword rest) :
    isCode (trim line) = true := by
  rw [h.1]
  rfl

/-- The findings of a line that opens with a function form. -/
theorem lineFindings_of_function {line keyword rest : List Char} (hk : keyword ∈ functionKeywords)
    (h : Opens line keyword rest) :
    lineFindings line = functionFindings (trim line) keyword rest ++
      callerFindings (trim line) := by
  have hrun := isRun_declarationKeywords keyword (List.mem_append_left _ hk)
  rw [lineFindings, if_pos h.isCode, formFindings, leadingForm?_eq_some_iff.2 ⟨h, hrun⟩]
  simp only [List.contains_iff_mem.2 hk, if_true]

/-- A finding on a name is one on a line that opens with a function form. -/
theorem opens_of_mem_lineFindings {line : List Char} {f : Finding} (h : f ∈ lineFindings line)
    (hname : f.kind.isOfName = true) :
    ∃ keyword ∈ functionKeywords, ∃ rest, Opens line keyword rest := by
  cases hform : leadingForm? (trim line) with
  | some form =>
    obtain ⟨head, rest⟩ := form
    refine ⟨head, ?_, rest, (leadingForm?_eq_some_iff.1 hform).1⟩
    by_contra hhead
    unfold lineFindings formFindings callerFindings at h
    simp only [hform, List.contains_iff_mem, hhead, if_false] at h
    grind [Finding.kind, Kind.isOfName]
  | none =>
    unfold lineFindings formFindings callerFindings at h
    simp only [hform] at h
    grind [Finding.kind, Kind.isOfName]

/-! ## Words -/

/-- The parts of a text between blanks. -/
def tokens (s : List Char) : List (List Char) := (s.splitOnP isBlank).filter (· ≠ [])

/-- Within a word, the first part goes on with it and is no word of its own. -/
theorem wordCountFrom_eq (s : List Char) :
    wordCountFrom false s = (tokens s).length ∧
      wordCountFrom true s = ((s.splitOnP isBlank).tail.filter (· ≠ [])).length := by
  unfold tokens
  induction s with
  | nil => exact ⟨rfl, rfl⟩
  | cons c s ih =>
    rw [wordCountFrom, wordCountFrom, List.splitOnP_cons_eq_if_modifyHead]
    by_cases hc : isBlank c = true
    · rw [if_pos hc, if_pos hc, if_pos hc]
      exact ⟨ih.1, ih.1⟩
    · rw [if_neg hc, if_neg hc, if_neg hc]
      obtain ⟨part, parts, hparts⟩ := List.exists_cons_of_ne_nil (List.splitOnP_ne_nil isBlank s)
      rw [hparts] at ih ⊢
      constructor
      · show wordCountFrom true s + 1 = _
        rw [ih.2]
        rfl
      · exact ih.2

/-- The words of a text are counted. -/
theorem wordCount_eq (s : List Char) : wordCount s = (tokens s).length := (wordCountFrom_eq s).1

section

variable {a b : List Char}

theorem wordCountFrom_blank (hb : ∀ c ∈ b, isBlank c = true) (inWord : Bool) :
    wordCountFrom inWord b = 0 := by
  induction b generalizing inWord with
  | nil => rfl
  | cons c b ih =>
    obtain ⟨hc, hb⟩ := List.forall_mem_cons.1 hb
    rw [wordCountFrom, if_pos hc, ih hb]

theorem wordCountFrom_blank_append (ha : ∀ c ∈ a, isBlank c = true) (s : List Char) :
    wordCountFrom false (a ++ s) = wordCountFrom false s := by
  induction a with
  | nil => rfl
  | cons c a ih =>
    obtain ⟨hc, ha⟩ := List.forall_mem_cons.1 ha
    rw [List.cons_append, wordCountFrom, if_pos hc, ih ha]

theorem wordCountFrom_append_blank (hb : ∀ c ∈ b, isBlank c = true) (s : List Char)
    (inWord : Bool) :
    wordCountFrom inWord (s ++ b) = wordCountFrom inWord s := by
  induction s generalizing inWord with
  | nil => exact wordCountFrom_blank hb inWord
  | cons c s ih => rw [List.cons_append, wordCountFrom, wordCountFrom, ih, ih]

end

theorem wordCount_trim (line : List Char) : wordCount (trim line) = wordCount line := by
  obtain ⟨a, b, ha, hb, hl⟩ := exists_blanks line
  conv_rhs => rw [hl, wordCount, List.append_assoc, wordCountFrom_blank_append ha,
    wordCountFrom_append_blank hb]
  rfl

/-! ## The errors of a line -/

/-- The errors on names that the check reports on a line. -/
def nameErrors (source : String) (number : Nat) : List Diagnostic :=
  (atLine number (check source).errors).filter (·.kind.isOfName)

/-- The errors that the check reports on a line, but for those on parentheses. -/
def formErrors (source : String) (number : Nat) : List Diagnostic :=
  (atLine number (check source).errors).filter (fun d => !d.kind.isOfBalance)

/-- The errors of a line are its findings that are errors. -/
theorem atLine_errors (source : String) {i : Nat} (h : i < (splitLines source.toList).length) :
    atLine (i + 1) (ofLines (check source).errors) =
      ((lineFindings (splitLines source.toList)[i]).filter (·.severity == .error)).map
        (·.onLine (i + 1)) := by
  rw [ofLines_errors, atLine, List.filter_comm, ← atLine, Nat.add_comm i 1,
    atLine_linesDiagnostics 1 h, List.filter_map]
  rfl

theorem isOfLine_of_isOfName {k : Kind} (h : k.isOfName = true) : k.isOfLine = true := by
  cases k with
  | missingName | invalidName => rfl
  | _ => cases h

theorem nameErrors_eq (source : String) {i : Nat} (h : i < (splitLines source.toList).length) :
    nameErrors source (i + 1) =
      ((lineFindings (splitLines source.toList)[i]).filter (·.kind.isOfName)).map
        (·.onLine (i + 1)) := by
  have hofLines : nameErrors source (i + 1) =
      (atLine (i + 1) (ofLines (check source).errors)).filter (·.kind.isOfName) := by
    rw [nameErrors, atLine, atLine, ofLines, List.filter_filter, List.filter_filter,
      List.filter_filter]
    refine List.filter_congr fun d _ => ?_
    by_cases hname : d.kind.isOfName = true
    · simp [hname, isOfLine_of_isOfName hname]
    · simp [hname]
  rw [hofLines, atLine_errors source h, List.filter_map, List.filter_filter]
  refine congrArg _ (List.filter_congr fun f _ => ?_)
  rw [Function.comp_apply, kind_onLine]
  cases f <;> rfl

theorem nameChar_iff (c : Char) : isNameChar c = true ↔ NameChar c := by
  have hlower : c.isLower = true ↔ 'a' ≤ c ∧ c ≤ 'z' := by
    show (decide _ && decide _) = true ↔ _
    rw [Bool.and_eq_true, decide_eq_true_iff, decide_eq_true_iff]
    rfl
  simp only [isNameChar, NameChar, Bool.or_eq_true, hlower, Json.isDigit_iff, beq_iff_eq, or_assoc]

theorem nameErrors_eq_nameFindings {source : String} {i : Nat}
    (h : i < (splitLines source.toList).length) {keyword rest n : List Char}
    (hk : keyword ∈ functionKeywords) (hopens : Opens (splitLines source.toList)[i] keyword rest)
    (hname : Names rest n) :
    nameErrors source (i + 1) = (nameFindings keyword n).map (·.onLine (i + 1)) := by
  have hfindings : ((lineFindings (splitLines source.toList)[i]).filter (·.kind.isOfName)) =
      nameFindings keyword n := by
    rw [lineFindings_of_function hk hopens, functionFindings, names_iff.1 hname, List.filter_append,
      List.filter_append]
    have hnames : (nameFindings keyword n).filter (·.kind.isOfName) = nameFindings keyword n := by
      unfold nameFindings
      split_ifs <;> rfl
    have hcaller : (callerFindings (trim (splitLines source.toList)[i])).filter (·.kind.isOfName) =
        [] := by
      unfold callerFindings
      split_ifs <;> rfl
    rw [hnames, hcaller, List.append_nil]
    split_ifs
    · exact List.append_nil _
    · exact List.append_nil _
  rw [nameErrors_eq source h, hfindings]

/-- The errors on the name of a function form: there is none, or it is missing, or it holds
characters that names may not hold. -/
theorem nameErrors_of_opens {source : String} {i : Nat} (h : i < (splitLines source.toList).length)
    {keyword rest n : List Char} (hk : keyword ∈ functionKeywords)
    (hopens : Opens (splitLines source.toList)[i] keyword rest) (hname : Names rest n) :
    (n = [] → nameErrors source (i + 1) =
        [⟨.error, i + 1, "missing function name after " ++ String.ofList keyword⟩]) ∧
      (n ≠ [] → (∀ c ∈ n, NameChar c) → nameErrors source (i + 1) = []) ∧
      ((∃ c ∈ n, ¬NameChar c) → nameErrors source (i + 1) =
        [⟨.error, i + 1, "invalid identifier '" ++ String.ofList n
          ++ "': function names may only use lowercase letters, digits, '-', '?' and '!'"⟩]) := by
  have hall : n.all isNameChar = true ↔ ∀ c ∈ n, NameChar c := by
    rw [List.all_eq_true]
    exact forall₂_congr fun c _ => nameChar_iff c
  rw [nameErrors_eq_nameFindings h hk hopens hname, nameFindings]
  refine ⟨?_, ?_, ?_⟩
  · rintro rfl
    rfl
  · intro hne hchars
    rw [if_neg (by simpa using hne), if_pos (hall.2 hchars)]
    rfl
  · rintro ⟨c, hc, hbad⟩
    have hne : n ≠ [] := List.ne_nil_of_mem hc
    rw [if_neg (by simpa using hne), if_neg fun ha => hbad (hall.1 ha c hc)]
    rfl

/-- A diagnostic on a name is on a line that opens with a function form. -/
theorem opens_of_isOfName {source : String} {d : Diagnostic}
    (hd : d ∈ (check source).errors ++ (check source).warnings) (hname : d.kind.isOfName = true) :
    ∃ i, ∃ h : i < (splitLines source.toList).length, d.line = i + 1 ∧
      ∃ keyword ∈ functionKeywords, ∃ rest, Opens (splitLines source.toList)[i] keyword rest := by
  have hline : d ∈ linesDiagnostics 1 (splitLines source.toList) := by
    have hkind := isOfLine_of_isOfName hname
    rcases List.mem_append.1 hd with hd | hd
    · have : d ∈ ofLines (check source).errors := List.mem_filter.2 ⟨hd, hkind⟩
      rw [ofLines_errors] at this
      exact (List.mem_filter.1 this).1
    · have : d ∈ ofLines (check source).warnings := List.mem_filter.2 ⟨hd, hkind⟩
      rw [ofLines_warnings] at this
      exact (List.mem_filter.1 this).1
  obtain ⟨i, hi, f, hf, rfl⟩ := mem_linesDiagnostics.1 hline
  rw [kind_onLine] at hname
  exact ⟨i, hi, Nat.add_comm 1 i, opens_of_mem_lineFindings hf hname⟩

/-! ## Data declarations -/

/-- What the error on a data declaration with this keyword says. -/
def shortMessage (keyword : List Char) : String :=
  if keyword = dataVar then "define-data-var requires a name, a type and an initial value"
  else "define-map requires a name, a key type and a value type"

/-- Where something is declared, the errors of a line are those of its form. -/
theorem formErrors_eq {source : String} {i : Nat} (h : i < (splitLines source.toList).length)
    {keyword rest : List Char} (hk : keyword ∈ declarationKeywords)
    (hopens : Opens (splitLines source.toList)[i] keyword rest) :
    formErrors source (i + 1) = ((lineFindings (splitLines source.toList)[i]).filter
      (·.severity == .error)).map (·.onLine (i + 1)) := by
  have hform : containsAnyForm declarationKeywords source.toList = true := by
    have hline : (splitLines source.toList).any (containsAnyForm declarationKeywords) = true :=
      List.any_eq_true.2
        ⟨_, List.getElem_mem h, containsAnyForm_iff.2 ⟨keyword, hk, hopens.hasForm⟩⟩
    rwa [← containsAnyForm_document, document_splitLines] at hline
    exact fun head hm => (isHead_declarationKeywords head hm).not_mem (by decide)
  have hdeclared : declarationDiagnostics source.toList (splitLines source.toList) = [] := by
    rw [declarationDiagnostics, hform, Bool.not_true, Bool.and_false]
    rfl
  have hkinds : ∀ d ∈ (check source).errors, (!d.kind.isOfBalance) = d.kind.isOfLine := by
    intro d hd
    rw [errors_check, hdeclared, List.append_nil] at hd
    rcases List.mem_append.1 hd with hd | hd
    · have hbalance := (mem_balanceDiagnostics hd).2
      rw [hbalance, Kind.isOfLine_of_isOfBalance hbalance]
      rfl
    · have hline := isOfLine_of_mem_linesDiagnostics (List.mem_filter.1 hd).1
      cases hbalance : d.kind.isOfBalance with
      | false => exact hline.symm
      | true => exact absurd hline (by simp [Kind.isOfLine_of_isOfBalance hbalance])
  rw [formErrors, atLine, List.filter_comm, List.filter_congr hkinds, ← ofLines, ← atLine,
    atLine_errors source h]

/-- The finding on a data declaration with this keyword. -/
def shortData (keyword : List Char) : Finding :=
  if keyword = dataVar then .shortDataVar else .shortDataMap

theorem formFindings_of_data {line keyword rest : List Char}
    (hk : keyword = dataVar ∨ keyword = dataMap) (hopens : Opens line keyword rest) :
    formFindings (trim line) = if (tokens line).length < 4 then [shortData keyword] else [] := by
  have hrun : IsRun keyword :=
    isRun_declarationKeywords keyword (by rcases hk with rfl | rfl <;> decide)
  rw [formFindings, leadingForm?_eq_some_iff.2 ⟨hopens, hrun⟩, ← wordCount_eq,
    ← wordCount_trim line]
  rcases hk with rfl | rfl
  · rfl
  · rfl

/-- A data variable or a map has an error exactly when it has fewer than four words. -/
theorem formErrors_of_data {source : String} {i : Nat} (h : i < (splitLines source.toList).length)
    {keyword rest : List Char} (hk : keyword = dataVar ∨ keyword = dataMap)
    (hopens : Opens (splitLines source.toList)[i] keyword rest) :
    formErrors source (i + 1) = if (tokens (splitLines source.toList)[i]).length < 4 then
      [⟨.error, i + 1, shortMessage keyword⟩] else [] := by
  have hmem : keyword ∈ declarationKeywords := by rcases hk with rfl | rfl <;> decide
  have hcaller :
      (callerFindings (trim (splitLines source.toList)[i])).filter (·.severity == .error) = [] := by
    unfold callerFindings
    split_ifs <;> rfl
  rw [formErrors_eq h hmem hopens, lineFindings, if_pos hopens.isCode, List.filter_append, hcaller,
    List.append_nil, formFindings_of_data hk hopens]
  split_ifs
  · rcases hk with rfl | rfl
    · rfl
    · rfl
  · rfl

/-! ## The check of names -/

/-- The check of names. The text behind the keyword of a function form declares one name, the same
in both layouts; the errors of the line on names go by it, and no other line has any. A data
variable or a map has an error of its form exactly when it has fewer than four words. -/
theorem names_checked (source : String) :
    (∀ rest, ∃! n, Names rest n) ∧
      (∀ a b n after, (∀ c ∈ a, isBlank c = true) → (∀ c ∈ b, isBlank c = true) → IsRun n →
        EndsHere after → (n = [] → ∀ c ∈ after.head?, c = ')') →
          Names (a ++ (n ++ after)) n ∧ Names (a ++ '(' :: (b ++ (n ++ after))) n) ∧
      (∀ i, ∀ h : i < (splitLines source.toList).length, ∀ keyword ∈ functionKeywords, ∀ rest n,
        Opens (splitLines source.toList)[i] keyword rest → Names rest n →
          (n = [] → nameErrors source (i + 1) =
              [⟨.error, i + 1, "missing function name after " ++ String.ofList keyword⟩]) ∧
            (n ≠ [] → (∀ c ∈ n, NameChar c) → nameErrors source (i + 1) = []) ∧
            ((∃ c ∈ n, ¬NameChar c) → nameErrors source (i + 1) =
              [⟨.error, i + 1, "invalid identifier '" ++ String.ofList n
                ++
                  "': function names may only use lowercase letters, digits, '-', '?' and '!'"⟩])) ∧
      (∀ d ∈ (check source).errors ++ (check source).warnings, d.kind.isOfName = true →
        ∃ i, ∃ h : i < (splitLines source.toList).length, d.line = i + 1 ∧
          ∃ keyword ∈ functionKeywords, ∃ rest, Opens (splitLines source.toList)[i] keyword rest) ∧
      (∀ i, ∀ h : i < (splitLines source.toList).length, ∀ keyword, keyword = dataVar ∨
        keyword = dataMap →
        ∀ rest, Opens (splitLines source.toList)[i] keyword rest →
          formErrors source (i + 1) = if (tokens (splitLines source.toList)[i]).length < 4 then
            [⟨.error, i + 1, shortMessage keyword⟩] else []) := by
  refine ⟨existsUnique_names, ?_, ?_, ?_, ?_⟩
  · intro a b n after ha hb hn hafter hempty
    exact ⟨names_bare ha hn hafter hempty, names_wrapped ha hb hn hafter hempty⟩
  · intro i h keyword hk rest n hopens hname
    exact nameErrors_of_opens h hk hopens hname
  · intro d hd hname
    exact opens_of_isOfName hd hname
  · intro i h keyword hk rest hopens
    exact formErrors_of_data h hk hopens

end ClarityCheck.Lint
