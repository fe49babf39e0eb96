import ClarityCheck.Proofs.Json.Integers
import ClarityCheck.Proofs.Settings.DistinctNames
import ClarityCheck.Proofs.Toml.PlainDocument

/-!
# Listings

A listing is a TOML document without tables that gives texts and natural numbers, one on each line.
The texts may hold any characters, and the numbers have to fit into 64 bits with a sign.

* `ofTokens_listing`: the expressions of a listing are its entries
* `ofString_listing`: the members of the object that a listing writes
* `refusal?_listing`: a listing goes by the rules of the first edition
-/

namespace ClarityCheck.Toml

open Settings (map_eq_ok_iff)

/-- A text or a natural number. -/
inductive Atomic where
  | text (s : String)
  | number (n : Nat)
  deriving DecidableEq, Repr

namespace Atomic

/-- A value as it is written. -/
def chars : Atomic → List Char
  | .text s => quoted s.toList
  | .number n => Nat.toDigits 10 n

/-- The quotes around a value. -/
def quote? : Atomic → Option Quote
  | .text _ => some .basic
  | .number _ => none

/-- The kind of the token that writes a value. -/
def kind : Atomic → Token.Kind
  | .text _ => .string .basic
  | .number _ => .atom

/-- The word that writes a value. -/
def word (v : Atomic) (start : Nat) : Word := ⟨v.quote?, start, v.chars⟩

/-- What a value stands for. -/
def scalar (v : Atomic) (start : Nat) : Scalar :=
  match v with
  | .text s => .string s
  | .number n => .integer (v.word start) (some n)

/-- A value as a JSON value. -/
def json : Atomic → Json
  | .text s => .str s
  | .number n => .ofNat n

/-- A number fits into 64 bits with a sign. -/
def Fits : Atomic → Prop
  | .text _ => True
  | .number n => n < 0x8000_0000_0000_0000

end Atomic

/-- A key with its value. -/
abbrev Entry := String × Atomic

/-- The pieces of a line of a listing. -/
def Entry.pieces (e : Entry) : List Piece :=
  [(.atom, e.1.toList), (.blank, [' ']), (.equals, ['=']), (.blank, [' ']), (e.2.kind, e.2.chars),
    (.newline, ['\n'])]

/-- The text of a listing. -/
def listing (es : List Entry) : List Char := joined (es.flatMap Entry.pieces)

/-! ## Tokens -/

section

variable {ps : List Piece} {s : List Char}

theorem isBare_digits (n : Nat) : IsBare (String.ofList (Nat.toDigits 10 n)) where
  ne_nil := by
    rw [String.toList_ofList]
    exact Nat.toDigits_ne_nil
  chars := by
    intro c hc
    rw [String.toList_ofList] at hc
    have hdigit : c.isDigit = true := Json.isDigit_of_mem_toDigits c hc
    simp [Word.isNameChar, Char.isAlphanum, hdigit]

theorem cuts_atomic (v : Atomic) (h : Cuts ps ('\n' :: s)) :
    Cuts ((v.kind, v.chars) :: ps) (v.chars ++ '\n' :: s) := by
  cases v with
  | text t => exact h.quoted t.toList (by simp)
  | number n =>
    have := h.bare (isBare_digits n) ⟨_, _, rfl, by decide⟩
    rwa [String.toList_ofList] at this

theorem head_atomic (v : Atomic) (s : List Char) :
    ∃ c t, v.chars ++ s = c :: t ∧ Token.isBlank c = false := by
  cases v with
  | text t => exact ⟨_, _, rfl, by decide⟩
  | number n =>
    obtain ⟨c, t, ht⟩ := List.exists_cons_of_ne_nil (Nat.toDigits_ne_nil (b := 10) (n := n))
    have hdigit : c.isDigit = true :=
      Json.isDigit_of_mem_toDigits c (by rw [ht]; exact List.mem_cons_self)
    refine ⟨c, t ++ s, by rw [Atomic.chars, ht, List.cons_append], ?_⟩
    rw [Token.isBlank, Bool.or_eq_false_iff, beq_eq_false_iff_ne, beq_eq_false_iff_ne]
    constructor
    · rintro rfl
      revert hdigit
      decide
    · rintro rfl
      revert hdigit
      decide

/-- A line of a listing is cut into its pieces. -/
theorem cuts_entry {e : Entry} (he : IsBare e.1) (h : Cuts ps s) :
    Cuts (e.pieces ++ ps) (joined e.pieces ++ s) := by
  have hnewline : Cuts ((.newline, ['\n']) :: ps) ('\n' :: s) := h.mark rfl
  have hvalue := cuts_atomic e.2 hnewline
  have hequals :=
    ((hvalue.blank (head_atomic e.2 _)).mark (c := '=') rfl).blank ⟨_, _, rfl, by decide⟩
  simpa [Entry.pieces, joined] using hequals.bare he ⟨_, _, rfl, by decide⟩

end

variable {es : List Entry}

/-- A listing starts with no byte order mark, and its tokens are its pieces. -/
theorem documentTokens_listing (hes : ∀ e ∈ es, IsBare e.1) :
    documentTokens (listing es) = laid 0 (es.flatMap Entry.pieces) := by
  have hcuts : Cuts (es.flatMap Entry.pieces) (listing es) := by
    induction es with
    | nil => exact .nil
    | cons e es ih =>
      obtain ⟨he, hes⟩ := List.forall_mem_cons.1 hes
      have := cuts_entry he (ih hes)
      rwa [listing, List.flatMap_cons, joined, List.flatMap_append]
  unfold documentTokens
  split
  · next s hs =>
    exfalso
    cases es with
    | nil => cases hs
    | cons e es =>
      obtain ⟨hne, hchars⟩ := hes e List.mem_cons_self
      obtain ⟨c, w, hw⟩ := List.exists_cons_of_ne_nil hne
      have hc := hchars c (by rw [hw]; exact List.mem_cons_self)
      simp only [listing, joined, List.flatMap_cons, Entry.pieces, List.cons_append, hw] at hs
      rw [(List.cons.inj hs).1] at hc
      exact absurd hc (by decide)
  · exact tokensFrom_of_cuts hcuts 0

/-! ## Expressions -/

/-- An expression writes an entry. -/
def Entry.WrittenBy (x : Expression) (e : Entry) : Prop :=
  ∃ w start, x = .entry [w] (.word (e.2.word start)) ∧ w.Spells e.1

theorem readValue_atomic (ending fuel start : Nat) (v : Atomic) (rest : List Piece) :
    Expression.readValue ending (fuel + 2) 0
      (laid start ((v.kind, v.chars) :: (.newline, ['\n']) :: rest)) =
      .ok (.word (v.word start), laid (start + v.chars.length) ((.newline, ['\n']) :: rest)) := by
  cases v with
  | text s => rfl
  | number n =>
    obtain ⟨t, ts, ht⟩ := List.exists_cons_of_ne_nil
      (laid_ne_nil (start + (Nat.toDigits 10 n).length + 1) rest)
    simp only [Atomic.kind, Atomic.chars, Atomic.word, Atomic.quote?, laid,
      List.length_singleton, ht]
    simp [Expression.readValue, Expression.cutBare, Token.isBare]

theorem readEntry_atomic (ending fuel start : Nat) (key : List Word) (v : Atomic)
    (rest : List Piece) :
    ∃ start', Expression.readEntry ending (fuel + 2) key
        (laid start ((.blank, [' ']) :: (v.kind, v.chars) :: (.newline, ['\n']) :: rest)) =
      .ok (.entry key (.word (v.word (start + 1))), laid start' rest) := by
  have hskip : Expression.skipBlank
    (laid start ((.blank, [' ']) :: (v.kind, v.chars) :: (.newline, ['\n']) :: rest))
      = laid (start + 1) ((v.kind, v.chars) :: (.newline, ['\n']) :: rest) := by
    cases v <;> rfl
  rw [Expression.readEntry, hskip, readValue_atomic]
  exact ⟨_, rfl⟩

/-- The expressions of a listing are its entries. -/
theorem readAllWithin_listing (ending : Nat) (es : List Entry) :
    ∀ fuel start, es.length + 2 ≤ fuel →
    ∃ xs, Expression.readAllWithin ending fuel (laid start (es.flatMap Entry.pieces)) = .ok xs ∧
      List.Forall₂ Entry.WrittenBy xs es := by
  induction es with
  | nil =>
    intro fuel start hf
    obtain ⟨fuel, rfl⟩ := Nat.exists_eq_add_of_lt hf
    exact ⟨[], rfl, .nil⟩
  | cons e es ih =>
    intro fuel start hf
    -- One unit of fuel is for the line, and the two that its value needs are left.
    rw [List.length_cons] at hf
    obtain ⟨fuel, rfl⟩ : ∃ k, fuel = k + 3 := ⟨fuel - 3, by omega⟩
    obtain ⟨start', hentry⟩ := readEntry_atomic ending fuel (start + e.1.toList.length + 1 + 1)
      [⟨none, start, e.1.toList⟩] e.2 (es.flatMap Entry.pieces)
    obtain ⟨xs, hxs, hwritten⟩ := ih (fuel + 2) start' (by omega)
    refine ⟨_, ?_, .cons
      ⟨⟨none, start, e.1.toList⟩, start + e.1.toList.length + 1 + 1 + 1, rfl, rfl, rfl⟩ hwritten⟩
    simp only [List.flatMap_cons, Entry.pieces, List.cons_append, List.nil_append, laid,
      List.length_singleton] at hentry ⊢
    simp [Expression.readAllWithin, Expression.spacingFault?, Expression.keyRest, Word.ofToken?,
      Expression.readAfterKey, Expression.skipBlank, hentry, hxs, Except.map]

theorem length_le_length_pieces_listing (es : List Entry) :
    es.length ≤ (es.flatMap Entry.pieces).length := by
  induction es with
  | nil => exact le_rfl
  | cons e es ih =>
    rw [List.flatMap_cons, List.length_append, List.length_cons]
    have : e.pieces.length = 6 := rfl
    omega

theorem ofTokens_listing (hes : ∀ e ∈ es, IsBare e.1) : ∃ xs,
    Expression.ofTokens (documentTokens (listing es)) = .ok xs ∧
    List.Forall₂ Entry.WrittenBy xs es := by
  rw [documentTokens_listing hes]
  refine readAllWithin_listing _ es _ 0 ?_
  have := length_le_length_pieces_listing es
  rw [length_laid]
  omega

/-! ## What the values stand for -/

theorem hexValue?_of_isDigit {c : Char} (h : c.isDigit = true) :
    Word.hexValue? c = some (c.toNat - 0x30) ∧ c.toNat - 0x30 < 10 := by
  have hrange := (Json.isDigit_iff c).1 h
  have hhigh : c.toNat ≤ 57 := hrange.2
  exact ⟨if_pos hrange, by omega⟩

theorem ne_of_isDigit {c d : Char} (h : c.isDigit = true) (hd : d.isDigit = false) : c ≠ d := by
  rintro rfl
  rw [h] at hd
  cases hd

theorem natOf?_digits {ds : List Char} (hne : ds ≠ []) (hds : ∀ c ∈ ds, c.isDigit = true) :
    Word.natOf? .ten ds = some (Nat.ofDigitChars 10 ds 0) := by
  have hany : ds.any (fun c => (Word.digitValue? .ten c).isNone) = false := by
    rw [List.any_eq_false]
    intro c hc
    obtain ⟨hvalue, hlt⟩ := hexValue?_of_isDigit (hds c hc)
    simp [Word.digitValue?, hvalue, Base.size, hlt]
  have hfold : ∀ n, ds.foldl (fun n c => n * Base.ten.size + (Word.hexValue? c).getD 0) n =
      Nat.ofDigitChars 10 ds n := by
    clear hne hany
    induction ds with
    | nil => exact fun n => rfl
    | cons c ds ih =>
      obtain ⟨hc, hds⟩ := List.forall_mem_cons.1 hds
      intro n
      rw [List.foldl_cons, ih hds, Nat.ofDigitChars_cons, (hexValue?_of_isDigit hc).1, Nat.mul_comm]
      rfl
  rw [Word.natOf?, if_neg (by simp [hne, hany]), hfold]

theorem intOf?_digits (n : Nat) : Word.intOf? .ten (Nat.toDigits 10 n) = some (n : Int) := by
  have hdigits : ∀ c ∈ Nat.toDigits 10 n, c.isDigit = true := Json.isDigit_of_mem_toDigits
  have hunderscores : Word.dropUnderscores (Nat.toDigits 10 n) = Nat.toDigits 10 n := by
    refine List.filter_eq_self.2 fun c hc => ?_
    simpa using ne_of_isDigit (hdigits c hc) (d := '_') (by decide)
  have hnat := natOf?_digits Nat.toDigits_ne_nil hdigits
  rw [Nat.ofDigitChars_ten_toDigits] at hnat
  unfold Word.intOf?
  rw [hunderscores]
  split
  · next ds hplus =>
    exact absurd rfl
      (ne_of_isDigit (hdigits '+' (by rw [hplus]; exact List.mem_cons_self)) (d := '+') (by decide))
  · next ds hminus =>
    exact absurd rfl
      (ne_of_isDigit (hdigits '-' (by rw [hminus]; exact List.mem_cons_self)) (d := '-')
        (by decide))
  · rw [hnat]
    rfl

/-- The digits of a number are read as an integer. -/
theorem bare_digits (n start : Nat) : Word.bare ⟨none, start, Nat.toDigits 10 n⟩ =
    .ok (.integer ⟨none, start, Nat.toDigits 10 n⟩ (some n)) := by
  have hdigits : ∀ c ∈ Nat.toDigits 10 n, c.isDigit = true := Json.isDigit_of_mem_toDigits
  -- No zero stands in front of other digits, so that nothing reads as a base or as a date.
  have hzero : ¬((Nat.toDigits 10 n).head? = some '0' ∧ 1 < (Nat.toDigits 10 n).length) := by
    rintro ⟨hhead, hlength⟩
    by_cases hn : n = 0
    · subst hn
      exact absurd hlength (by decide)
    · obtain ⟨c, s, hcons, hc⟩ := Json.toDigits_eq_cons hn
      rw [hcons] at hhead
      exact hc (Option.some.inj hhead)
  have hinteger (w : Word) (hw : w.chars = Nat.toDigits 10 n) :
      w.integer (Nat.toDigits 10 n) = .ok (.integer w (some n)) := by
    have hunderscore : (Nat.toDigits 10 n).contains '_' = false := by
      rw [List.contains_eq_mem, decide_eq_false_iff_not]
      exact fun hm => absurd rfl (ne_of_isDigit (hdigits '_' hm) (d := '_') (by decide))
    rw [Word.integer, if_neg hzero, hw, Word.underscoreFault?, hunderscore, intOf?_digits]
    rfl
  have hdate (w : Word) (hw : w.chars = Nat.toDigits 10 n) :
      w.numberOrDate (Nat.toDigits 10 n) = .ok (.integer w (some n)) := by
    have hrest : (Nat.toDigits 10 n).dropWhile Char.isDigit = [] :=
      List.dropWhile_eq_nil_iff.2 hdigits
    rw [Word.numberOrDate, hrest]
    exact hinteger w hw
  obtain ⟨c, s, hcons⟩ := List.exists_cons_of_ne_nil (Nat.toDigits_ne_nil (b := 10) (n := n))
  have hc : c.isDigit = true := hdigits c (by rw [hcons]; exact List.mem_cons_self)
  have hne {d : Char} (hd : d.isDigit = false) : c ≠ d := ne_of_isDigit hc hd
  have hbase (w : Word) (hw : w.chars = Nat.toDigits 10 n) :
      w.numberInBase false (Nat.toDigits 10 n) = .ok (.integer w (some n)) := by
    unfold Word.numberInBase
    split
    · next letter r hletter =>
      rw [hletter] at hzero
      exact absurd ⟨rfl, by simp⟩ hzero
    · exact hdate w hw
  rw [Word.bare, hcons]
  simp only [hne (d := '+') (by decide), hne (d := '-') (by decide), hne (d := '.') (by decide), hc,
    or_self, true_or, if_false, if_true]
  rw [← hcons]
  exact hbase _ rfl

/-- A value is read from its word. -/
theorem node_atomic (v : Atomic) (start : Nat) :
    (Literal.word (v.word start)).node = .ok (.scalar (v.scalar start)) := by
  rw [Literal.node, Word.scalar]
  cases v with
  | text s =>
    simp only [Atomic.word, Atomic.quote?, Atomic.chars, string_quoted]
    rfl
  | number n =>
    simp only [Atomic.word, Atomic.quote?, Atomic.chars, bare_digits]
    rfl

theorem toJson_atomic {v : Atomic} (hv : v.Fits) (start : Nat) :
    (Node.scalar (v.scalar start)).toJson = .ok v.json := by
  rw [Node.toJson]
  cases v with
  | text s => rfl
  | number n =>
    have hn : n < 0x8000_0000_0000_0000 := hv
    rw [Atomic.scalar, Scalar.toJson, if_pos (by omega)]
    rfl

/-! ## Members -/

/-- A value goes under a key that is free. -/
theorem alter_new {current : Entries} {key : String} (node : Node) (fault : Node → Fault)
    (h : current.lookup key = none) : ∃ after,
    Entries.alter (fun
      | none => .ok (some node)
      | some n => .error (fault n)) key current = .ok after ∧
      (∀ k, after.lookup k = if k = key then some node else current.lookup k) ∧
      ∀ e ∈ after, e = (key, node) ∨ e ∈ current := by
  have hfront (rest : Entries) (k : String) : ((key, node) :: rest).lookup k =
      if k = key then some node else rest.lookup k := by
    rw [List.lookup_cons]
    by_cases hk : k = key
    · simp [hk]
    · rw [if_neg hk, beq_eq_false_iff_ne.2 hk]
  induction current with
  | nil => exact ⟨[(key, node)], rfl, hfront [], fun e he => .inl (List.mem_singleton.1 he)⟩
  | cons entry rest ih =>
    obtain ⟨k, n⟩ := entry
    rw [List.lookup_cons] at h
    split at h
    · cases h
    · next hkey =>
      have hne : k ≠ key := fun he => by simp [he] at hkey
      rw [Entries.alter, if_neg hne]
      split
      · exact ⟨(key, node) :: (k, n) :: rest, rfl, hfront _, fun e he => List.mem_cons.1 he⟩
      · obtain ⟨after, hafter, hlookup, hmem⟩ := ih h
        refine ⟨(k, n) :: after, by rw [hafter]; rfl, fun j => ?_, fun e he => ?_⟩
        · rw [List.lookup_cons, List.lookup_cons, hlookup]
          by_cases hj : j = key
          · subst hj
            rw [hkey, if_pos rfl]
          · rw [if_neg hj, if_neg hj]
        · rcases List.mem_cons.1 he with rfl | he
          · exact .inr List.mem_cons_self
          · exact (hmem e he).imp_right (List.mem_cons_of_mem _)

theorem add_atomic {root current : Entries} {x : Expression} {e : Entry} (hx : Entry.WrittenBy x e)
    (he : IsBare e.1) (h : current.lookup e.1 = none) : ∃ start after,
    Progress.add ⟨root, none, current⟩ x = .ok ⟨root, none, after⟩ ∧
      (∀ k, after.lookup k = if k = e.1 then some (.scalar (e.2.scalar start))
        else current.lookup k) ∧
      ∀ m ∈ after, m = (e.1, .scalar (e.2.scalar start)) ∨ m ∈ current := by
  obtain ⟨w, start, rfl, hw⟩ := hx
  obtain ⟨after, hafter, hlookup, hmem⟩ :=
    alter_new (.scalar (e.2.scalar start)) (fun _ => Entries.duplicate ⟨e.1, w⟩) h
  refine ⟨start, after, ?_, hlookup, hmem⟩
  simp only [Progress.add, readParts, name_of_spells hw he, node_atomic]
  exact congrArg (Except.map fun current => (⟨root, none, current⟩ : Progress)) hafter

/-- The table of a listing has what the listing gives. -/
theorem addAll_listing {root current : Entries} {xs : List Expression}
    (hxs : List.Forall₂ Entry.WrittenBy xs es) (hes : ∀ e ∈ es, IsBare e.1 ∧ e.2.Fits)
    (hnodup : (es.map (·.1)).Nodup) (hfree : ∀ e ∈ es, current.lookup e.1 = none)
    (hcurrent : ∀ m ∈ current, ∃ j, m.2.toJson = .ok j) :
    ∃ after, Progress.addAll xs ⟨root, none, current⟩ = .ok after ∧
      (∀ k, (after.lookup k).map Node.toJson =
        ((es.lookup k).map fun v => .ok v.json).or ((current.lookup k).map Node.toJson)) ∧
      ∀ m ∈ after, ∃ j, m.2.toJson = .ok j := by
  induction hxs generalizing current with
  | nil => exact ⟨current, rfl, fun k => rfl, hcurrent⟩
  | @cons x e xs es hx _ ih =>
    obtain ⟨he, hes⟩ := List.forall_mem_cons.1 hes
    rw [List.map_cons, List.nodup_cons] at hnodup
    obtain ⟨start, next, hadd, hlookup, hmem⟩ :=
      @add_atomic root current x e hx he.1 (hfree e List.mem_cons_self)
    have hother : ∀ e' ∈ es, e'.1 ≠ e.1 :=
      fun e' he' hkey => hnodup.1 (hkey ▸ List.mem_map_of_mem he')
    have hfree' : ∀ e' ∈ es, next.lookup e'.1 = none := by
      intro e' he'
      rw [hlookup, if_neg (hother e' he')]
      exact hfree e' (List.mem_cons_of_mem _ he')
    have hnext : ∀ m ∈ next, ∃ j, m.2.toJson = .ok j := by
      intro m hm
      rcases hmem m hm with rfl | hm
      · exact ⟨_, toJson_atomic he.2 start⟩
      · exact hcurrent m hm
    obtain ⟨after, hafter, hlookup', hjson⟩ := ih hes hnodup.2 hfree' hnext
    refine ⟨after, ?_, fun k => ?_, hjson⟩
    · rw [Progress.addAll, hadd]
      exact hafter
    · rw [hlookup', hlookup, List.lookup_cons]
      by_cases hk : k = e.1
      · subst hk
        have hnone : es.lookup e.1 = none := by
          rw [List.lookup_eq_none_iff]
          exact fun e' he' => by simpa using (hother e' he').symm
        rw [hnone, if_pos rfl, beq_self_eq_true]
        exact congrArg some (toJson_atomic he.2 start)
      · rw [if_neg hk, beq_eq_false_iff_ne.2 hk]

theorem entriesJson_eq_ok {entries : Entries} (h : ∀ m ∈ entries, ∃ j, m.2.toJson = .ok j) :
    ∃ members, Node.entriesJson entries = .ok members ∧
      ∀ k, (members.lookup k).map Except.ok = (entries.lookup k).map Node.toJson := by
  induction entries with
  | nil => exact ⟨[], rfl, fun k => rfl⟩
  | cons entry rest ih =>
    obtain ⟨key, node⟩ := entry
    obtain ⟨⟨j, hj⟩, hrest⟩ := List.forall_mem_cons.1 h
    obtain ⟨members, hmembers, hlookup⟩ := ih hrest
    refine ⟨(key, j) :: members, ?_, fun k => ?_⟩
    · have hnode : node.toJson = .ok j := hj
      rw [Node.entriesJson, hnode, hmembers]
      rfl
    · rw [List.lookup_cons, List.lookup_cons]
      split
      · exact congrArg some hj.symm
      · exact hlookup k

/-- The members of the object that a listing writes are its entries. -/
theorem ofString_listing (hes : ∀ e ∈ es, IsBare e.1 ∧ e.2.Fits) (hnodup : (es.map (·.1)).Nodup) :
    ∃ members, ofString (String.ofList (listing es)) = .ok members ∧
      ∀ k, members.lookup k = (es.lookup k).map Atomic.json := by
  obtain ⟨xs, hxs, hwritten⟩ := ofTokens_listing fun e he => (hes e he).1
  obtain ⟨after, hafter, hlookup, hjson⟩ := @addAll_listing es [] [] xs hwritten hes hnodup
    (fun _ _ => rfl) fun _ hm => by cases hm
  obtain ⟨members, hmembers, hmembers'⟩ := entriesJson_eq_ok hjson
  refine ⟨members, ?_, fun k => ?_⟩
  · rw [ofString, readTokens, String.toList_ofList, hxs]
    simp only [Progress.beginning, hafter, hmembers]
    rfl
  · have := hmembers' k
    rw [hlookup] at this
    cases hm : members.lookup k <;> cases he : es.lookup k <;> simp_all

/-! ## Numbers of documents -/

theorem node_of_entriesJson {entries : Entries} {members : List (String × Json)}
    (h : Node.entriesJson entries = .ok members) :
    ∀ m ∈ members, ∃ node : Node, node.toJson = .ok m.2 := by
  induction entries generalizing members with
  | nil =>
    cases h
    exact fun m hm => by cases hm
  | cons entry rest ih =>
    obtain ⟨key, node⟩ := entry
    rw [Node.entriesJson] at h
    split at h
    · cases h
    · next j hj =>
      obtain ⟨members', hmembers, rfl⟩ := map_eq_ok_iff.1 h
      exact List.forall_mem_cons.2 ⟨⟨node, hj⟩, ih hmembers⟩

theorem lt_of_toJson {node : Node} {n : Nat} (h : node.toJson = .ok (.ofNat n)) :
    n < 0x8000_0000_0000_0000 := by
  cases node with
  | scalar s =>
    rw [Node.toJson] at h
    cases s with
    | integer w value =>
      cases value with
      | none => cases h
      | some i =>
        rw [Scalar.toJson] at h
        split at h
        · next hi =>
          cases h
          omega
        · cases h
    | decimal =>
      rw [Scalar.toJson] at h
      split at h <;> cases h
    | _ => cases h
  | array items =>
    rw [Node.toJson] at h
    obtain ⟨_, -, hj⟩ := map_eq_ok_iff.1 h
    cases hj
  | table origin entries =>
    rw [Node.toJson] at h
    obtain ⟨_, -, hj⟩ := map_eq_ok_iff.1 h
    cases hj
  | tables last before =>
    rw [Node.toJson] at h
    split at h
    · cases h
    · obtain ⟨_, -, hj⟩ := map_eq_ok_iff.1 h
      cases hj

/-- A natural number of a document fits into 64 bits with a sign. -/
theorem lt_of_ofString {source : String} {members : List (String × Json)}
    (h : ofString source = .ok members) {k : String} {n : Nat}
    (hn : members.lookup k = some (.ofNat n)) : n < 0x8000_0000_0000_0000 := by
  obtain ⟨entries, -, hentries⟩ := entries_of_ofString h
  obtain ⟨before, after, rfl, -⟩ := List.lookup_eq_some_iff.1 hn
  obtain ⟨node, hnode⟩ := node_of_entriesJson hentries (k, .ofNat n) (by simp)
  exact lt_of_toJson hnode

/-! ## The first edition -/

theorem ofText_digits {ds : List Char} (hne : ds ≠ []) (hds : ∀ c ∈ ds, c.isDigit = true) :
    Moment.Piece.ofText ds = [.digits ds] := by
  induction ds with
  | nil => exact absurd rfl hne
  | cons c ds ih =>
    obtain ⟨hc, hds⟩ := List.forall_mem_cons.1 hds
    rw [Moment.Piece.ofText, if_pos hc]
    cases ds with
    | nil => rfl
    | cons d ds =>
      rw [ih (List.cons_ne_nil _ _) hds]
      rfl

/-- What begins without digits and what holds nothing else is no time. -/
theorem shortTimeFault?_eq_none {t : Token}
    (h : ∀ ds q ps, Moment.Piece.ofText t.chars ≠ .digits ds :: q :: ps) :
    Edition.shortTimeFault? t = none := by
  have hshort : Edition.shortTime? t.chars = none := by
    unfold Edition.shortTime?
    split
    · next hpieces => exact absurd hpieces (h _ _ _)
    · rfl
  unfold Edition.shortTimeFault?
  rw [hshort]
  split
  · next hnone => cases hnone
  · split
    · next hpieces => exact absurd hpieces (h _ _ _)
    · rfl

/-- A key begins without digits. -/
def Entry.IsNamed (e : Entry) : Prop := ∃ c s, e.1.toList = c :: s ∧ c.isDigit = false

theorem shortTimeFault?_key {e : Entry} (h : e.IsNamed) (start : Nat) :
    Edition.shortTimeFault? ⟨.atom, start, e.1.toList⟩ = none := by
  obtain ⟨c, s, hcons, hc⟩ := h
  refine shortTimeFault?_eq_none fun ds q ps => ?_
  have hchar : ∀ d : List Char, Moment.Piece.ofChar c ≠ .digits d := by
    intro d
    unfold Moment.Piece.ofChar
    split <;> exact fun h => by cases h
  rw [hcons, Moment.Piece.ofText, if_neg (by simp [hc])]
  split
  · exact fun h => by cases h
  · exact fun h => hchar ds (List.cons.inj h).1

/-- Outside of arrays and braces, the token is no fault. -/
def Token.Passes (t : Token) : Prop := ∀ isDate ts, ∃ isDate',
  Edition.faultWithin? [] isDate (t :: ts) = Edition.faultWithin? [] isDate' ts

theorem faultWithin?_laid {ps : List Piece} (h : ∀ p ∈ ps, ∀ start, Token.Passes ⟨p.1, start, p.2⟩)
    (start : Nat) (isDate : Bool) : Edition.faultWithin? [] isDate (laid start ps) = none := by
  induction ps generalizing start isDate with
  | nil => rfl
  | cons p ps ih =>
    obtain ⟨hp, hps⟩ := List.forall_mem_cons.1 h
    obtain ⟨isDate', hpass⟩ := hp start isDate (laid (start + p.2.length) ps)
    rw [laid, hpass, ih hps]

theorem passes_atom {chars : List Char} {start : Nat}
    (h : Edition.shortTimeFault? ⟨.atom, start, chars⟩ = none) :
    Token.Passes ⟨.atom, start, chars⟩ := by
  intro isDate ts
  refine ⟨(Moment.refusal? chars).isNone, ?_⟩
  simp only [Edition.faultWithin?, h]

theorem passes_atomic (v : Atomic) (start : Nat) : Token.Passes ⟨v.kind, start, v.chars⟩ := by
  cases v with
  | text s =>
    have hescapes : Edition.escapeFault? start (quoted s.toList) = none := by
      obtain ⟨position, h⟩ := escapeFault?_escaped s.toList ['"'] (start + 1)
      rw [quoted, Edition.escapeFault?, h]
      · rfl
      · exact fun d t hquote _ => absurd hquote (by decide)
    intro isDate ts
    refine ⟨false, ?_⟩
    simp only [Edition.faultWithin?, Atomic.kind, Atomic.chars, hescapes]
  | number n =>
    refine passes_atom (shortTimeFault?_eq_none fun ds q ps => ?_)
    rw [Atomic.chars, ofText_digits Nat.toDigits_ne_nil Json.isDigit_of_mem_toDigits]
    exact fun h => by cases h

theorem passes_pieces {e : Entry} (he : e.IsNamed) :
    ∀ p ∈ e.pieces, ∀ start, Token.Passes ⟨p.1, start, p.2⟩ := by
  rw [Entry.pieces]
  simp only [List.forall_mem_cons]
  refine ⟨fun start => passes_atom (shortTimeFault?_key he start), ?_, ?_, ?_,
    fun start => passes_atomic e.2 start, ?_, fun _ hp => by cases hp⟩
  · exact fun start isDate ts => ⟨isDate, rfl⟩
  · exact fun start isDate ts => ⟨false, rfl⟩
  · exact fun start isDate ts => ⟨isDate, rfl⟩
  · exact fun start isDate ts => ⟨false, rfl⟩

/-- A listing goes by the rules of the first edition. -/
theorem refusal?_listing (hes : ∀ e ∈ es, IsBare e.1 ∧ e.IsNamed) :
    Edition.refusal? (String.ofList (listing es)) = none := by
  have hpieces : ∀ p ∈ es.flatMap Entry.pieces, ∀ start, Token.Passes ⟨p.1, start, p.2⟩ := by
    intro p hp
    obtain ⟨e, he, hp⟩ := List.mem_flatMap.1 hp
    exact passes_pieces (hes e he).2 p hp
  rw [Edition.refusal?, String.toList_ofList, documentTokens_listing fun e he => (hes e he).1,
    Edition.fault?, faultWithin?_laid hpieces]
  rfl

end ClarityCheck.Toml
