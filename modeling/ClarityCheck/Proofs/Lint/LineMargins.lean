import ClarityCheck.Proofs.Lint.JoinedLines
import ClarityCheck.Proofs.Text.Trimming

/-!
# The margins of lines

Blanks at the ends of lines are no part of what the check looks at: a document is checked as if all
its lines had been trimmed. So its indentation, blanks behind its lines and the way its lines end do
not matter.

* `diagnostics_tidied`: the diagnostics of a document are those of its trimmed lines
* `check_of_margins`: margins, carriage returns and another indentation
-/

namespace ClarityCheck.Lint

open Text

/-! ## Blanks in a single line -/

theorem step_of_isBlank (b : Balance) {c : Char} (hc : isBlank c = true) : b.step c = b := by
  have ho : c ≠ '(' := by
    rintro rfl
    revert hc
    decide
  have hc' : c ≠ ')' := by
    rintro rfl
    revert hc
    decide
  rw [Balance.step, if_neg ho, if_neg hc']

theorem foldl_step_of_blank {s : List Char} (hs : ∀ c ∈ s, isBlank c = true) (b : Balance) :
    s.foldl Balance.step b = b := by
  induction s generalizing b with
  | nil => rfl
  | cons c s ih =>
    rw [List.foldl_cons, step_of_isBlank b (hs c (by simp)), ih fun d hd => hs d (by simp [hd])]

/-- The blanks around a line open and close nothing. -/
theorem ofText_trim (depth : Nat) (l : List Char) :
    Balance.ofText depth (trim l) = Balance.ofText depth l := by
  obtain ⟨a, b, ha, hb, hl⟩ := exists_blanks l
  conv_rhs => rw [hl]
  rw [Balance.ofText, Balance.ofText, List.foldl_append, List.foldl_append, foldl_step_of_blank ha,
    foldl_step_of_blank hb]

/-- A head that a form can have: a blank would end it. -/
def IsHead (head : List Char) : Prop := ∀ c ∈ head, isBlank c = false

theorem IsHead.not_mem {head : List Char} (hh : IsHead head) {b : Char} (hb : isBlank b = true) :
    b ∉ head := by
  intro hm
  have := hh b hm
  simp [hb] at this

theorem containsForm_of_blank (head : List Char) {s : List Char} (hs : ∀ c ∈ s, isBlank c = true) :
    containsForm head s = false := by
  induction s with
  | nil => rfl
  | cons c s ih =>
    have ho : (c == '(') = false := by
      rw [beq_eq_false_iff_ne]
      rintro rfl
      have := hs '(' (by simp)
      revert this
      decide
    rw [containsForm, ho, Bool.false_and, Bool.false_or, ih fun d hd => hs d (by simp [hd])]

/-- Forms stand between the blanks around a line. -/
theorem containsForm_trim {head : List Char} (hh : IsHead head) (l : List Char) :
    containsForm head (trim l) = containsForm head l := by
  -- No head holds a blank, so a form stands on one side of each blank.
  have hbefore {a : List Char} (ha : ∀ c ∈ a, isBlank c = true) (s : List Char) :
      containsForm head (a ++ s) = containsForm head s := by
    induction a with
    | nil => rfl
    | cons c a ih =>
      have hc := ha c (by simp)
      have := containsForm_append_blank hc (hh.not_mem hc) [] (a ++ s)
      simpa [containsForm, ih fun d hd => ha d (by simp [hd])] using this
  have hafter {b : List Char} (hb : ∀ c ∈ b, isBlank c = true) (s : List Char) :
      containsForm head (s ++ b) = containsForm head s := by
    cases b with
    | nil => rw [List.append_nil]
    | cons c b =>
      have hc := hb c (by simp)
      have hrest := containsForm_of_blank head fun d (hd : d ∈ b) => hb d (by simp [hd])
      rw [containsForm_append_blank hc (hh.not_mem hc), hrest, Bool.or_false]
  obtain ⟨a, b, ha, hb, hl⟩ := exists_blanks l
  conv_rhs => rw [hl]
  rw [hafter hb, hbefore ha]

theorem lineFindings_trim (l : List Char) : lineFindings (trim l) = lineFindings l := by
  rw [lineFindings, lineFindings, trim_trim]

/-! ## Documents of trimmed lines -/

/-- The document with all its lines trimmed. -/
def tidied (source : List Char) : List Char := document ((splitLines source).map trim)

theorem splitLines_tidied (source : List Char) :
    splitLines (tidied source) = (splitLines source).map trim := by
  refine splitLines_document (by simpa using splitLines_ne_nil source) fun l hl => ?_
  obtain ⟨m, hm, rfl⟩ := List.mem_map.1 hl
  exact fun h => oneLine_splitLines source m hm ((trim_sublist m).subset h)

theorem containsForm_tidied {head : List Char} (hh : IsHead head) (source : List Char) :
    containsForm head (tidied source) = containsForm head source := by
  have hn : '\n' ∉ head := hh.not_mem (by decide)
  conv_rhs => rw [← document_splitLines source]
  rw [tidied, containsForm_document hn, containsForm_document hn, List.any_map]
  exact congrArg (List.any _) (funext fun l => containsForm_trim hh l)

theorem containsAnyForm_tidied {heads : List (List Char)} (hh : ∀ head ∈ heads, IsHead head)
    (source : List Char) :
    containsAnyForm heads (tidied source) = containsAnyForm heads source := by
  unfold containsAnyForm
  rw [Bool.eq_iff_iff, List.any_eq_true, List.any_eq_true]
  exact exists_congr fun head => and_congr_right fun hm => by rw [containsForm_tidied (hh head hm)]

theorem isHead_of_all {head : List Char} (h : head.all (fun c => !isBlank c) = true) :
    IsHead head := by
  intro c hc
  simpa using List.all_eq_true.1 h c hc

theorem isHead_publicFunction : IsHead publicFunction := isHead_of_all (by decide)

theorem isHead_of_all_all {heads : List (List Char)}
    (h : heads.all (fun head => head.all fun c => !isBlank c) = true) :
    ∀ head ∈ heads, IsHead head :=
  fun head hm => isHead_of_all (List.all_eq_true.1 h head hm)

theorem isHead_declarationKeywords : ∀ head ∈ declarationKeywords, IsHead head :=
  isHead_of_all_all (by decide)

theorem isHead_responseHeads : ∀ head ∈ responseHeads, IsHead head := isHead_of_all_all (by decide)

theorem scanBalance_trim (line depth : Nat) (ls : List (List Char)) :
    scanBalance line depth (ls.map trim) = scanBalance line depth ls := by
  induction ls generalizing line depth with
  | nil => rfl
  | cons l ls ih => simp only [List.map_cons, scanBalance, ofText_trim, ih]

theorem linesDiagnostics_trim (line : Nat) (ls : List (List Char)) :
    linesDiagnostics line (ls.map trim) = linesDiagnostics line ls := by
  induction ls generalizing line with
  | nil => rfl
  | cons l ls ih => simp only [List.map_cons, linesDiagnostics, lineFindings_trim, ih]

theorem any_isCode_trim (ls : List (List Char)) :
    (ls.map trim).any (fun l => isCode (trim l)) = ls.any (fun l => isCode (trim l)) := by
  rw [List.any_map]
  exact congrArg (List.any ls) (funext fun l => congrArg isCode (trim_trim l))

/-- The check of a document finds what it finds in the document of the trimmed lines. -/
theorem diagnostics_tidied (source : List Char) :
    diagnostics (tidied source) = diagnostics source := by
  simp only [diagnostics, balanceDiagnostics, declarationDiagnostics, responseDiagnostics,
    splitLines_tidied, scanBalance_trim, linesDiagnostics_trim, any_isCode_trim, List.length_map,
    containsForm_tidied isHead_publicFunction, containsAnyForm_tidied isHead_declarationKeywords,
    containsAnyForm_tidied isHead_responseHeads]

/-- Documents whose lines are the same but for their ends are checked the same. -/
theorem check_congr {s t : List Char} (h : (splitLines s).map trim = (splitLines t).map trim) :
    check (String.ofList s) = check (String.ofList t) := by
  rw [check, check, String.toList_ofList, String.toList_ofList, ← diagnostics_tidied s,
    ← diagnostics_tidied t, tidied, tidied, h]

/-! ## Documents with other margins -/

/-- Blanks within a line. -/
structure Margin where
  chars : List Char
  blank : ∀ c ∈ chars, isBlank c = true
  oneLine : '\n' ∉ chars

/-- The blanks on both sides of a line. -/
structure Margins where
  left : Margin
  right : Margin

/-- A line with blanks on both sides. -/
def Margins.around (m : Margins) (l : List Char) : List Char := m.left.chars ++ l ++ m.right.chars

/-- The document with more blanks around its lines, which are numbered from zero. -/
def withMargins (margins : Nat → Margins) (source : String) : String :=
  String.ofList (document ((splitLines source.toList).mapIdx fun i l => (margins i).around l))

/-- The document with a carriage return in front of each line feed. -/
def withReturns (source : String) : String :=
  String.ofList (source.toList.flatMap fun c => if c = '\n' then ['\r', '\n'] else [c])

/-- The document with other blanks in front of its lines. -/
def reindented (indentation : Nat → Margin) (source : String) : String :=
  String.ofList
    (document ((splitLines source.toList).mapIdx fun i l => (indentation i).chars ++ trimStart l))

/-- New lines are the lines of the document that is put together from them. -/
theorem splitLines_mapIdx {f : Nat → List Char → List Char} (source : List Char)
    (hf : ∀ i l, '\n' ∉ l → '\n' ∉ f i l) :
    splitLines (document ((splitLines source).mapIdx f)) = (splitLines source).mapIdx f := by
  refine splitLines_document (by simpa using splitLines_ne_nil source) fun m hm => ?_
  obtain ⟨i, hi, rfl⟩ := List.mem_mapIdx.1 hm
  exact hf i _ (oneLine_splitLines source _ (List.getElem_mem hi))

/-- Lines that are put together from lines with the same trimmed parts are checked the same. -/
theorem check_mapIdx {f : Nat → List Char → List Char} (source : String)
    (hf : ∀ i l, '\n' ∉ l → '\n' ∉ f i l) (ht : ∀ i l, trim (f i l) = trim l) :
    check (String.ofList (document ((splitLines source.toList).mapIdx f))) = check source := by
  conv_rhs => rw [← String.ofList_toList (s := source)]
  refine check_congr ?_
  rw [splitLines_mapIdx _ hf]
  refine List.ext_getElem (by simp) fun i h₁ h₂ => ?_
  simp [ht]

/-- The lines of a document that end in carriage returns, but for the last one. -/
def returned : List (List Char) → List (List Char)
  | [] => []
  | [l] => [l]
  | l :: l' :: ls => (l ++ ['\r']) :: returned (l' :: ls)

theorem flatMap_of_oneLine {l : List Char} (hl : '\n' ∉ l) :
    l.flatMap (fun c => if c = '\n' then ['\r', '\n'] else [c]) = l := by
  induction l with
  | nil => rfl
  | cons c l ih =>
    simp only [List.mem_cons, not_or] at hl
    rw [List.flatMap_cons, if_neg (Ne.symm hl.1), ih hl.2, List.singleton_append]

theorem flatMap_document {lines : List (List Char)} (h : ∀ l ∈ lines, '\n' ∉ l) :
    (document lines).flatMap (fun c => if c = '\n' then ['\r', '\n'] else [c]) =
      document (returned lines) := by
  induction lines with
  | nil => rfl
  | cons l ls ih =>
    have hl := flatMap_of_oneLine (h l (by simp))
    cases ls with
    | nil => rw [document_singleton, hl, returned, document_singleton]
    | cons l' ls =>
      have hls := ih fun m hm => h m (List.mem_cons_of_mem _ hm)
      obtain ⟨r, rs, hr⟩ : ∃ r rs, returned (l' :: ls) = r :: rs := by
        cases ls <;> exact ⟨_, _, rfl⟩
      rw [document_cons_cons, List.flatMap_append, List.flatMap_cons, hl, hls, returned, hr,
        document_cons_cons, if_pos rfl]
      simp

theorem map_trim_returned (lines : List (List Char)) :
    (returned lines).map trim = lines.map trim := by
  induction lines with
  | nil => rfl
  | cons l ls ih =>
    cases ls with
    | nil => rfl
    | cons l' ls =>
      have :=
        trim_around (a := []) (b := ['\r']) (by simp) (List.forall_mem_singleton.2 (by decide)) l
      rw [returned, List.map_cons, ih, List.map_cons]
      simpa using this

theorem oneLine_returned {lines : List (List Char)} (h : ∀ l ∈ lines, '\n' ∉ l) :
    ∀ l ∈ returned lines, '\n' ∉ l := by
  induction lines with
  | nil => simp [returned]
  | cons l ls ih =>
    cases ls with
    | nil => exact h
    | cons l' ls =>
      have hl := h l (by simp)
      rintro m (_ | ⟨_, hm⟩)
      · simp [hl]
      · exact ih (fun n hn => h n (List.mem_cons_of_mem _ hn)) m hm

theorem check_withReturns (source : String) : check (withReturns source) = check source := by
  have hlines := oneLine_splitLines source.toList
  have hne : returned (splitLines source.toList) ≠ [] := by
    obtain ⟨l, ls, hl⟩ := List.exists_cons_of_ne_nil (splitLines_ne_nil source.toList)
    rw [hl]
    cases ls <;> simp [returned]
  conv_rhs => rw [← String.ofList_toList (s := source)]
  refine check_congr ?_
  conv_lhs => rw [← document_splitLines source.toList]
  rw [flatMap_document hlines, splitLines_document hne (oneLine_returned hlines), map_trim_returned]

/-- Blanks that are put around the lines of a document, carriage returns in front of its line feeds
and another indentation leave the whole verdict as it is. -/
theorem check_of_margins (source : String) (margins : Nat → Margins) (indentation : Nat → Margin) :
    check (withMargins margins source) = check source ∧
    check (withReturns source) = check source ∧
    check (reindented indentation source) = check source := by
  refine ⟨check_mapIdx source (fun i l hl => ?_) (fun i l => ?_), check_withReturns source,
    check_mapIdx source (fun i l hl => ?_) fun i l => ?_⟩
  · simp [Margins.around, hl, (margins i).left.oneLine, (margins i).right.oneLine]
  · exact trim_around (margins i).left.blank (margins i).right.blank l
  · have hstart : '\n' ∉ trimStart l := fun h => hl ((List.dropWhile_suffix _).subset h)
    simp [hstart, (indentation i).oneLine]
  · have := trim_around (b := []) (indentation i).blank (by simp) (trimStart l)
    rw [List.append_nil] at this
    rw [this, trim_trimStart]

end ClarityCheck.Lint
