import ClarityCheck.Proofs.Toml.QuotedText
import ClarityCheck.Toml.Document
import Mathlib.Data.List.Forall2
import Mathlib.Data.List.TakeWhile

/-!
# Plain TOML documents

A plain document has headers and entries whose keys need no quotes, and whose values are strings
without escapes, truth values and empty arrays. It is read line by line.

* `tokens_documentText`: the tokens of a plain document are the pieces it is written from
* `ofTokens_documentText`: the expressions that are read from it write its lines
* `add_entry`: what one of its entries adds to a table
-/

namespace ClarityCheck.Toml

/-! ## Pieces of a text -/

/-- A stretch of text with the kind of token that it is. -/
abbrev Piece := Token.Kind × List Char

/-- The tokens that stand one behind the other, with `start` characters before the first. -/
def laid (start : Nat) : List Piece → List Token
  | [] => [⟨.finish, start, []⟩]
  | (kind, chars) :: ps => ⟨kind, start, chars⟩ :: laid (start + chars.length) ps

/-- A text is cut into these pieces. -/
inductive Cuts : List Piece → List Char → Prop where
  | nil : Cuts [] []
  | cons {kind : Token.Kind} {c : Char} {w s : List Char} {ps : List Piece}
      (h : Token.scan c (w ++ s) = (kind, w.length)) (hs : Cuts ps s) :
      Cuts ((kind, c :: w) :: ps) (c :: (w ++ s))

variable {ps : List Piece} {s w : List Char}

/-- The pieces of a text are its tokens. -/
theorem tokensFrom_of_cuts (h : Cuts ps s) (start : Nat) :
    Token.tokensFrom start s = laid start ps := by
  induction h generalizing start with
  | nil => rw [Token.tokensFrom, laid]
  | @cons kind c w s ps h _ ih =>
    rw [Token.tokensFrom, laid]
    simp only [h, List.take_left', List.drop_left', Token.stop, ih]

theorem Cuts.mark {kind : Token.Kind} {c : Char} (h : Cuts ps s) (hc : Token.scan c s = (kind, 0)) :
    Cuts ((kind, [c]) :: ps) (c :: s) :=
  .cons (w := []) hc h

/-- A single blank. -/
theorem Cuts.blank (h : Cuts ps s) (hs : ∃ c t, s = c :: t ∧ Token.isBlank c = false) :
    Cuts ((.blank, [' ']) :: ps) (' ' :: s) := by
  refine h.mark ?_
  obtain ⟨c, t, rfl, hc⟩ := hs
  change (Token.Kind.blank, ((c :: t).takeWhile Token.isBlank).length) = _
  simp [hc]

/-! ## Words -/

/-- A word that stands as it is in a key. -/
structure IsBare (name : String) : Prop where
  ne_nil : name.toList ≠ []
  chars : ∀ c ∈ name.toList, Word.isNameChar c = true

/-- A string that stands as it is between quotation marks. -/
def IsPlain (s : String) : Prop :=
  ∀ c ∈ s.toList, Word.isPlain .basic c = true ∧ c ≠ '"' ∧ c ≠ '\\'

-- The general instance for statements about all characters would try each of them.
instance (name : String) : Decidable (IsBare name) :=
  decidable_of_iff (name.toList ≠ [] ∧ name.toList.all Word.isNameChar = true)
    ⟨fun h => ⟨h.1, List.all_eq_true.mp h.2⟩, fun h => ⟨h.ne_nil, List.all_eq_true.mpr h.chars⟩⟩

instance (s : String) : Decidable (IsPlain s) :=
  decidable_of_iff (s.toList.all (fun c => Word.isPlain .basic c && c != '"' && c != '\\') = true)
    (by simp [IsPlain, and_assoc])

theorem ne_of_isNameChar {c d : Char} (h : Word.isNameChar c = true)
    (hd : Word.isNameChar d = false) :
    c ≠ d := by
  rintro rfl
  rw [h] at hd
  contradiction

theorem not_endsAtom {c : Char} (h : Word.isNameChar c = true) : Token.endsAtom c = false := by
  have hall : ".=,[]\x7b\x7d \t#\r\n".toList.all (fun d => !Word.isNameChar d) = true := by decide
  rw [Token.endsAtom, List.contains_eq_mem, decide_eq_false_iff_not]
  intro hm
  have := List.all_eq_true.mp hall c hm
  simp [h] at this

theorem scan_atom {c : Char} (hc : Word.isNameChar c = true) (s : List Char) :
    Token.scan c s = (.atom, (s.takeWhile fun d => !Token.endsAtom d).length) := by
  have hne {d : Char} (hd : Word.isNameChar d = false) : c ≠ d := ne_of_isNameChar hc hd
  have hblank : Token.isBlank c = false := by
    simp [Token.isBlank, hne (d := ' ') (by decide), hne (d := '\t') (by decide)]
  unfold Token.scan
  rw [if_neg (hne (by decide)), if_neg (hne (by decide)), if_neg (hne (by decide)),
    if_neg (hne (by decide)), if_neg (hne (by decide)), if_neg (hne (by decide)),
    if_neg (hne (by decide)), if_neg (by simp [hblank]), if_neg (hne (by decide)),
    if_neg (hne (by decide)), if_neg (hne (by decide)), if_neg (hne (by decide)),
    if_neg (hne (by decide))]

/-- A word of a key up to what ends it. -/
theorem Cuts.bare {name : String} (hn : IsBare name) (h : Cuts ps s)
    (hs : ∃ c t, s = c :: t ∧ Token.endsAtom c = true) :
    Cuts ((.atom, name.toList) :: ps) (name.toList ++ s) := by
  obtain ⟨hne, hchars⟩ := hn
  obtain ⟨c, w, hw⟩ := List.exists_cons_of_ne_nil hne
  rw [hw] at hchars ⊢
  refine .cons ?_ h
  rw [scan_atom (hchars c (by simp)), List.takeWhile_append_of_pos]
  · obtain ⟨d, t, rfl, hd⟩ := hs
    simp [hd]
  · intro d hd
    simp [not_endsAtom (hchars d (by simp [hd]))]

theorem scan_quote (h : ∀ t, s ≠ '"' :: '"' :: t) :
    Token.scan '"' s = (.string .basic, Token.basicLength s) := by
  unfold Token.scan
  rw [if_neg (by decide), if_neg (by decide), if_neg (by decide), if_neg (by decide),
    if_neg (by decide), if_neg (by decide), if_neg (by decide), if_neg (by decide),
    if_neg (by decide), if_neg (by decide), if_neg (by decide), if_neg (by decide), if_pos rfl]
  split
  · next t => exact absurd rfl (h t)
  · rfl

/-- A quoted text up to its closing quotation mark. -/
theorem Cuts.quoted (t : List Char) (h : Cuts ps s) (hs : s.head? ≠ some '"') :
    Cuts ((.string .basic, Toml.quoted t) :: ps) (Toml.quoted t ++ s) := by
  have hlong : ∀ r, escaped t ++ '"' :: s ≠ '"' :: '"' :: r := by
    intro r hr
    cases t with
    | nil =>
      have hquote : s = '"' :: r := (List.cons.inj hr).2
      exact hs (by rw [hquote]; rfl)
    | cons c t =>
      rw [escaped_cons] at hr
      rcases escape_cases c with ⟨he, hc⟩ | ⟨u, he, -⟩
      · rw [he] at hr
        exact hc.2.1 (List.cons.inj hr).1
      · rw [he] at hr
        exact absurd (List.cons.inj hr).1 (by decide)
  have hlist : Toml.quoted t ++ s = '"' :: ((escaped t ++ ['"']) ++ s) := by
    rw [Toml.quoted, List.cons_append]
  rw [hlist]
  refine .cons ?_ h
  rw [List.append_assoc, List.singleton_append, scan_quote hlong, basicLength_escaped,
    List.length_append]
  rfl

theorem quoted_of_isPlain {s : String} (hs : IsPlain s) :
    quoted s.toList = '"' :: (s.toList ++ ['"']) := by
  rw [quoted, escaped_of_standsAlone hs]

/-- A string up to its closing quotation mark. -/
theorem Cuts.string {t : String} (ht : IsPlain t) (h : Cuts ps s) (hs : s.head? ≠ some '"') :
    Cuts ((.string .basic, '"' :: (t.toList ++ ['"'])) :: ps)
      ('"' :: (t.toList ++ ['"'] ++ s)) := by
  have hquoted := h.quoted t.toList hs
  rwa [quoted_of_isPlain ht] at hquoted

/-! ## Lines -/

/-- A value that is written without escapes. -/
inductive Value where
  | string (s : String)
  | boolean (b : Bool)
  | empty
  deriving DecidableEq, Repr

/-- A line of a plain document. -/
inductive Line where
  | header (first : String) (more : List String)
  | entry (key : String) (value : Value)
  | empty
  deriving DecidableEq, Repr

def Value.IsPlain : Value → Prop
  | .string s => Toml.IsPlain s
  | .boolean _ | .empty => True

/-- A line whose keys and strings need no quotes and no escapes. -/
def Line.IsPlain : Line → Prop
  | .header first more => IsBare first ∧ ∀ name ∈ more, IsBare name
  | .entry key value => IsBare key ∧ value.IsPlain
  | .empty => True

/-- The name of a truth value. -/
def truthName (b : Bool) : String := if b then "true" else "false"

def Value.pieces : Value → List Piece
  | .string s => [(.string .basic, '"' :: (s.toList ++ ['"']))]
  | .boolean b => [(.atom, (truthName b).toList)]
  | .empty => [(.openBracket, ['[']), (.closeBracket, [']'])]

/-- The further parts of a key. -/
def keyPieces : List String → List Piece
  | [] => []
  | name :: more => (.dot, ['.']) :: (.atom, name.toList) :: keyPieces more

def Line.pieces : Line → List Piece
  | .header first more =>
    (.openBracket, ['[']) :: (.atom, first.toList) :: keyPieces more ++
      [(.closeBracket, [']']), (.newline, ['\n'])]
  | .entry key value =>
    (.atom, key.toList) :: (.blank, [' ']) :: (.equals, ['=']) :: (.blank, [' ']) :: value.pieces ++
      [(.newline, ['\n'])]
  | .empty => [(.newline, ['\n'])]

/-- The text of pieces. -/
def joined (ps : List Piece) : List Char := ps.flatMap (·.2)

theorem cuts_keyPieces {more : List String} (hm : ∀ name ∈ more, IsBare name) {t : List Char}
    (h : Cuts ps (']' :: t)) :
    Cuts (keyPieces more ++ ps) (joined (keyPieces more) ++ ']' :: t) := by
  induction more with
  | nil => exact h
  | cons name more ih =>
    have hrest := ih fun n hn => hm n (by simp [hn])
    have hend : ∃ c u, joined (keyPieces more) ++ ']' :: t = c :: u ∧ Token.endsAtom c = true := by
      cases more <;> exact ⟨_, _, rfl, by decide⟩
    simpa [keyPieces, joined] using (hrest.bare (hm name (by simp)) hend).mark (c := '.') rfl

theorem cuts_value {v : Value} (hv : v.IsPlain) {t : List Char} (h : Cuts ps ('\n' :: t)) :
    Cuts (v.pieces ++ ps) (joined v.pieces ++ '\n' :: t) := by
  cases v with
  | string s => simpa [Value.pieces, joined] using h.string hv (by simp)
  | boolean b =>
    have hb : IsBare (truthName b) := by cases b <;> decide
    simpa [Value.pieces, joined] using h.bare hb ⟨_, _, rfl, by decide⟩
  | empty => exact (h.mark (c := ']') rfl).mark (c := '[') rfl

/-- A plain line is cut into its pieces. -/
theorem cuts_line {l : Line} (hl : l.IsPlain) (h : Cuts ps s) :
    Cuts (l.pieces ++ ps) (joined l.pieces ++ s) := by
  have hnewline : Cuts ((.newline, ['\n']) :: ps) ('\n' :: s) := h.mark rfl
  cases l with
  | header first more =>
    obtain ⟨hf, hm⟩ := hl
    have hkey := cuts_keyPieces hm (hnewline.mark (c := ']') rfl)
    have hend : ∃ c u, joined (keyPieces more) ++ ']' :: '\n' :: s = c :: u ∧
        Token.endsAtom c = true := by
      cases more <;> exact ⟨_, _, rfl, by decide⟩
    simpa [Line.pieces, joined] using (hkey.bare hf hend).mark (c := '[') rfl
  | entry key value =>
    obtain ⟨hk, hv⟩ := hl
    have hvalue := cuts_value hv hnewline
    have hstart : ∃ c u, joined value.pieces ++ '\n' :: s = c :: u ∧ Token.isBlank c = false := by
      cases value with
      | boolean b => cases b <;> exact ⟨_, _, rfl, by decide⟩
      | _ => exact ⟨_, _, rfl, by decide⟩
    have hequals := ((hvalue.blank hstart).mark (c := '=') rfl).blank ⟨_, _, rfl, by decide⟩
    simpa [Line.pieces, joined] using hequals.bare hk ⟨_, _, rfl, by decide⟩
  | empty => exact hnewline

/-- The text of a document. -/
def documentText (lines : List Line) : List Char := joined (lines.flatMap Line.pieces)

/-- The tokens of a plain document are its pieces. -/
theorem tokens_documentText {lines : List Line} (h : ∀ l ∈ lines, l.IsPlain) :
    Token.tokens (documentText lines) = laid 0 (lines.flatMap Line.pieces) := by
  refine tokensFrom_of_cuts ?_ 0
  induction lines with
  | nil => exact .nil
  | cons l lines ih =>
    have hrest := ih fun k hk => h k (by simp [hk])
    simpa [documentText, joined] using cuts_line (h l (by simp)) hrest

/-! ## Expressions -/

/-- A word is this name without quotes. -/
def Word.Spells (w : Word) (name : String) : Prop := w.quote = none ∧ w.chars = name.toList

/-- A literal writes a plain value. -/
inductive Value.Written : Value → Literal → Prop where
  | string (s : String) (start : Nat) :
    Written (.string s) (.word ⟨some .basic, start, '"' :: (s.toList ++ ['"'])⟩)
  | boolean {b : Bool} {w : Word} (h : w.Spells (truthName b)) : Written (.boolean b) (.word w)
  | empty : Written .empty (.array [])

/-- An expression writes a plain line. -/
inductive Line.Written : Line → Expression → Prop where
  | header {first : String} {more : List String} {w : Word} {ws : List Word} (h : w.Spells first)
      (hs : List.Forall₂ Word.Spells ws more) : Written (.header first more)
        (.header false (w :: ws))
  | entry {key : String} {value : Value} {w : Word} {v : Literal} (h : w.Spells key)
      (hv : value.Written v) : Written (.entry key value) (.entry [w] v)

/-- Expressions write plain lines, of which the empty ones have none. -/
inductive Written : List Line → List Expression → Prop where
  | nil : Written [] []
  | empty {lines : List Line} {es : List Expression} (h : Written lines es) :
    Written (.empty :: lines) es
  | line {l : Line} {lines : List Line} {e : Expression} {es : List Expression} (h : l.Written e)
      (hs : Written lines es) : Written (l :: lines) (e :: es)

namespace Written

variable {lines : List Line} {es : List Expression}

theorem of_header {first : String} {more : List String}
    (h : Written (.header first more :: lines) es) :
    ∃ w ws es', es = .header false (w :: ws) :: es' ∧ w.Spells first ∧
      List.Forall₂ Word.Spells ws more ∧ Written lines es' := by
  obtain _ | _ | ⟨h, hs⟩ := h
  obtain ⟨hw, hws⟩ | _ := h
  exact ⟨_, _, _, rfl, hw, hws, hs⟩

theorem of_entry {key : String} {value : Value} (h : Written (.entry key value :: lines) es) :
    ∃ w x es', es = .entry [w] x :: es' ∧ w.Spells key ∧ value.Written x ∧ Written lines es' := by
  obtain _ | _ | ⟨h, hs⟩ := h
  obtain _ | ⟨hw, hx⟩ := h
  exact ⟨_, _, _, rfl, hw, hx, hs⟩

theorem of_empty (h : Written (.empty :: lines) es) : Written lines es := by
  obtain _ | h | ⟨h, -⟩ := h
  · exact h
  · cases h

theorem of_nil (h : Written [] es) : es = [] := by
  cases h
  rfl

end Written

theorem keyRest_keyPieces (start : Nat) (more : List String) (rest : List Piece) :
    ∃ ws start',
      Expression.keyRest false (laid start (keyPieces more ++ (.closeBracket, [']']) :: rest))
      = (ws, true, laid start' ((.closeBracket, [']']) :: rest)) ∧
      List.Forall₂ Word.Spells ws more := by
  induction more generalizing start with
  | nil => exact ⟨[], start, rfl, .nil⟩
  | cons name more ih =>
    obtain ⟨ws, start', hws, hspell⟩ := ih (start + 1 + name.toList.length)
    refine ⟨⟨none, start + 1, name.toList⟩ :: ws, start', ?_, .cons ⟨rfl, rfl⟩ hspell⟩
    simp only [keyPieces, List.cons_append, laid, List.length_cons, List.length_nil] at hws ⊢
    simp [Expression.keyRest, Word.ofToken?, hws]

/-- The header of a plain table. -/
theorem readHeader_line (t : Token) (start : Nat) (first : String) (more : List String)
    (rest : List Piece) :
    ∃ w ws start',
      Expression.readHeader false t (laid start ((.atom, first.toList) :: keyPieces more ++
        [(.closeBracket, [']']), (.newline, ['\n'])] ++ rest))
      = .ok (.header false (w :: ws), laid start' rest) ∧ w.Spells first ∧
        List.Forall₂ Word.Spells ws more := by
  obtain ⟨ws, start', hws, hspell⟩ :=
    keyRest_keyPieces (start + first.toList.length) more ((.newline, ['\n']) :: rest)
  refine ⟨⟨none, start, first.toList⟩, ws, start' + 1 + 1, ?_, ⟨rfl, rfl⟩, hspell⟩
  have hkey : Expression.keyRest true (laid start ((.atom, first.toList) :: keyPieces more ++
        [(.closeBracket, [']']), (.newline, ['\n'])] ++ rest))
      = (⟨none, start, first.toList⟩ :: ws, true,
          laid start' ((.closeBracket, [']']) :: (.newline, ['\n']) :: rest)) := by
    simp only [List.cons_append, List.append_assoc, List.nil_append, laid] at hws ⊢
    simp [Expression.keyRest, Word.ofToken?, hws]
  unfold Expression.readHeader
  rw [hkey]
  rfl

theorem laid_ne_nil (start : Nat) (ps : List Piece) : laid start ps ≠ [] := by
  cases ps <;> simp [laid]

/-- The value of a plain entry. -/
theorem readValue_value (ending fuel start : Nat) (v : Value) (rest : List Piece) :
    ∃ x start', Expression.readValue ending (fuel + 2) 0
        (laid start (v.pieces ++ (.newline, ['\n']) :: rest))
      = .ok (x, laid start' ((.newline, ['\n']) :: rest)) ∧ v.Written x := by
  cases v with
  | string s => exact ⟨_, _, rfl, .string s start⟩
  | boolean b =>
    refine ⟨.word ⟨none, start, (truthName b).toList⟩, start + (truthName b).toList.length, ?_,
      .boolean ⟨rfl, rfl⟩⟩
    obtain ⟨t, ts, ht⟩ := List.exists_cons_of_ne_nil
      (laid_ne_nil (start + (truthName b).toList.length + 1) rest)
    simp only [Value.pieces, List.cons_append, List.nil_append, laid, List.length_singleton, ht]
    simp [Expression.readValue, Expression.cutBare, Token.isBare]
  | empty => exact ⟨_, _, rfl, .empty⟩

/-- A plain entry behind its equals sign. -/
theorem readEntry_value (ending fuel start : Nat) (key : List Word) (v : Value)
    (rest : List Piece) :
    ∃ x start', Expression.readEntry ending (fuel + 2) key
        (laid start ((.blank, [' ']) :: v.pieces ++ (.newline, ['\n']) :: rest))
      = .ok (.entry key x, laid start' rest) ∧ v.Written x := by
  obtain ⟨x, start', hx, hv⟩ := readValue_value ending fuel (start + 1) v rest
  refine ⟨x, start' + 1, ?_, hv⟩
  have hskip :
    Expression.skipBlank (laid start ((.blank, [' ']) :: v.pieces ++ (.newline, ['\n']) :: rest))
      = laid (start + 1) (v.pieces ++ (.newline, ['\n']) :: rest) := by
    cases v <;> rfl
  rw [Expression.readEntry, hskip, hx]
  rfl

/-- The expressions of a plain document are those of its lines. -/
theorem readAllWithin_lines (ending : Nat) (lines : List Line) :
    ∀ fuel start, lines.length + 2 ≤ fuel →
    ∃ es, Expression.readAllWithin ending fuel (laid start (lines.flatMap Line.pieces)) = .ok es ∧
      Written lines es := by
  induction lines with
  | nil =>
    intro fuel start hf
    obtain ⟨fuel, rfl⟩ := Nat.exists_eq_add_of_lt hf
    exact ⟨[], rfl, .nil⟩
  | cons l lines ih =>
    intro fuel start hf
    -- One unit of fuel is for the line, and the two that its value needs are left.
    obtain ⟨fuel, rfl⟩ : ∃ k, fuel = k + 3 := ⟨fuel - 3, by simp at hf; omega⟩
    have hf' : lines.length + 2 ≤ fuel + 2 := by simp at hf; omega
    rw [List.flatMap_cons]
    cases l with
    | header first more =>
      obtain ⟨w, ws, start', hr, h, hs⟩ :=
        readHeader_line ⟨.openBracket, start, ['[']⟩ (start + 1) first more
          (lines.flatMap Line.pieces)
      obtain ⟨es, hes, hw⟩ := ih (fuel + 2) start' hf'
      refine ⟨_, ?_, .line (.header h hs) hw⟩
      simp only [Line.pieces, List.cons_append, List.append_assoc, List.nil_append, laid,
        List.length_singleton] at hr ⊢
      simp [Expression.readAllWithin, Expression.spacingFault?, hr, hes, Except.map]
    | entry key value =>
      obtain ⟨x, start', hr, hv⟩ := readEntry_value ending fuel (start + key.toList.length + 1 + 1)
        [⟨none, start, key.toList⟩] value (lines.flatMap Line.pieces)
      obtain ⟨es, hes, hw⟩ := ih (fuel + 2) start' hf'
      refine ⟨_, ?_, .line (.entry (w := ⟨none, start, key.toList⟩) ⟨rfl, rfl⟩ hv) hw⟩
      simp only [Line.pieces, List.cons_append, List.append_assoc, List.nil_append, laid,
        List.length_singleton] at hr ⊢
      simp [Expression.readAllWithin, Expression.spacingFault?, Expression.keyRest, Word.ofToken?,
        Expression.readAfterKey, Expression.skipBlank, hr, hes, Except.map]
    | empty =>
      obtain ⟨es, hes, hw⟩ := ih (fuel + 2) (start + 1) hf'
      exact ⟨es, hes, .empty hw⟩

theorem length_le_length_pieces (lines : List Line) :
    lines.length ≤ (lines.flatMap Line.pieces).length := by
  induction lines with
  | nil => simp
  | cons l lines ih =>
    have hl : 1 ≤ l.pieces.length := by cases l <;> simp [Line.pieces]
    rw [List.flatMap_cons, List.length_append, List.length_cons]
    omega

theorem length_laid (start : Nat) (ps : List Piece) : (laid start ps).length = ps.length + 1 := by
  induction ps generalizing start with
  | nil => rfl
  | cons p ps ih => rw [laid, List.length_cons, ih, List.length_cons]

/-- A plain document starts with no byte order mark. -/
theorem documentTokens_documentText {lines : List Line} (h : ∀ l ∈ lines, l.IsPlain) :
    documentTokens (documentText lines) = laid 0 (lines.flatMap Line.pieces) := by
  unfold documentTokens
  split
  · next s hs =>
    exfalso
    cases lines with
    | nil => simp [documentText, joined] at hs
    | cons l lines =>
      have hl := h l (by simp)
      cases l with
      | header first more => simp [documentText, joined, Line.pieces] at hs
      | entry key value =>
        obtain ⟨c, w, hw⟩ := List.exists_cons_of_ne_nil hl.1.ne_nil
        have hc := hl.1.chars c (by simp [hw])
        simp only [documentText, joined, List.flatMap_cons, Line.pieces, List.cons_append, hw] at hs
        rw [(List.cons.inj hs).1] at hc
        exact absurd hc (by decide)
      | empty => simp [documentText, joined, Line.pieces] at hs
  · exact tokens_documentText h

/-- The tokens of a plain document write its lines. -/
theorem ofTokens_documentText {lines : List Line} (h : ∀ l ∈ lines, l.IsPlain) :
    ∃ es, Expression.ofTokens (documentTokens (documentText lines)) = .ok es ∧
    Written lines es := by
  rw [documentTokens_documentText h]
  refine readAllWithin_lines _ lines _ 0 ?_
  have := length_le_length_pieces lines
  rw [length_laid]
  omega

/-! ## What words and values stand for -/

theorem name_of_spells {w : Word} {name : String} (h : w.Spells name) (hn : IsBare name) :
    w.name = .ok name := by
  obtain ⟨hq, hc⟩ := h
  have hdrop : name.toList.dropWhile Word.isNameChar = [] :=
    List.dropWhile_eq_nil_iff.mpr hn.chars
  unfold Word.name
  rw [hq, hc]
  simp only [if_neg hn.ne_nil, hdrop, String.ofList_toList]

/-- A quoted text stands for the text. -/
theorem string_quoted (s : String) (start : Nat) :
    Word.string ⟨some .basic, start, quoted s.toList⟩ .basic = .ok s := by
  have hdrop : Text.dropEnd? ['"'] (escaped s.toList ++ ['"']) = some (escaped s.toList) := by
    simp [Text.dropEnd?, Text.dropStart?]
  simp only [Word.string, Word.delimiter, quoted, List.length_singleton, List.drop_succ_cons,
    List.drop_zero, hdrop, Word.dropFirstNewline, Word.isLong, Bool.false_eq_true, if_false,
    unescape_escaped]
  simp [Except.map]

/-- A string is what stands between its quotation marks. -/
theorem string_plain {s : String} (hs : IsPlain s) (start : Nat) :
    Word.string ⟨some .basic, start, '"' :: (s.toList ++ ['"'])⟩ .basic = .ok s := by
  rw [← quoted_of_isPlain hs]
  exact string_quoted s start

/-- What a plain value stands for. -/
def Value.node : Value → Node
  | .string s => .scalar (.string s)
  | .boolean b => .scalar (.boolean b)
  | .empty => .array []

theorem node_of_written {v : Value} {x : Literal} (h : v.Written x) (hv : v.IsPlain) :
    x.node = .ok v.node := by
  cases h with
  | string s start =>
    simp [Literal.node, Word.scalar, string_plain hv, Except.map, Value.node]
  | @boolean b w h =>
    obtain ⟨q, start, chars⟩ := w
    obtain ⟨rfl, rfl⟩ := h
    cases b <;> rfl
  | empty => rfl

/-- What adding a plain entry under its key makes of the table. -/
theorem add_entry {key : String} {value : Value} {w : Word} {x : Literal}
    {root current current' : Entries} {header : Option Header} (hw : w.Spells key) (hk : IsBare key)
    (hx : value.Written x) (hv : value.IsPlain)
    (h : Entries.alter (fun
      | none => .ok (some value.node)
      | some _ => .error (Entries.duplicate ⟨key, w⟩)) key current = .ok current') :
    Progress.add ⟨root, header, current⟩ (.entry [w] x) = .ok ⟨root, header, current'⟩ := by
  simp only [Progress.add, readParts, name_of_spells hw hk, node_of_written hx hv]
  exact congrArg (Except.map fun current => (⟨root, header, current⟩ : Progress)) h

end ClarityCheck.Toml
