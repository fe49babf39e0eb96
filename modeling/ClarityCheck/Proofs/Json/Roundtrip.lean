import ClarityCheck.Proofs.Json.Integers
import ClarityCheck.Text.Blank

/-!
# The round trip of JSON

The compact text of a value is read back, with any blanks around it, as long as arrays and objects
are not nested too deeply and all numbers are integers below the limit. Only integers beyond 64 bits
are not what they were: they come back as doubles.

* `yields_readString`: a string with its escapes
* `readsBack_of_fits`: a value in front of anything that ends a number
* `ofString?_of_holds`: a whole text
* `get?_asRead_eq_str_iff`: the members that are strings are kept
-/

namespace ClarityCheck.Json

open Text

/-! ## Strings -/

theorem hexValue?_hexDigit : ∀ n < 16, hexValue? (hexDigit n) = some n := by decide

/-- The escape of a control character is read back. -/
theorem yields_readEscape_code (c : Char) (hc : c.toNat < 0x20) (s : List Char) :
    Yields
      (readEscape ('u' :: '0' :: '0' :: hexDigit (c.toNat / 16) :: hexDigit (c.toNat % 16) :: s))
      c s := by
  have h0 : hexValue? '0' = some 0 := by decide
  have h1 := hexValue?_hexDigit (c.toNat / 16) (by omega)
  have h2 := hexValue?_hexDigit (c.toNat % 16) (by omega)
  have hcode : ((0 * 16 + 0) * 16 + c.toNat / 16) * 16 + c.toNat % 16 = c.toNat := by omega
  have hc' : Char.ofNat c.toNat = c := Char.ofNat_toNat c
  simp only [readEscape, readCodeUnits, readHex4, h0, h1, h2, hcode]
  rw [if_neg (by omega), if_pos (by omega)]
  simp [Yields, plain, Except.map, hc', Rest.widen]

theorem yields_readEscape {e c : Char} (he : e ≠ 'u') (h : shortEscape? e = some c)
    (s : List Char) :
    Yields (readEscape (e :: s)) c s := by
  rw [readEscape, h]
  · rfl
  · exact he

/-- A character is written as it is, behind a backslash or by its code. -/
theorem escapeChar_cases (c : Char) :
    (∃ e, escapeChar c = ['\\', e] ∧ e ≠ 'u' ∧ shortEscape? e = some c) ∨
    (escapeChar c = ['\\', 'u', '0', '0', hexDigit (c.toNat / 16), hexDigit (c.toNat % 16)] ∧
      c.toNat < 0x20) ∨
    (escapeChar c = [c] ∧ c ≠ '"' ∧ c ≠ '\\' ∧ ¬c.toNat < 0x20) := by
  by_cases hshort : c ∈ ['"', '\\', '\x08', '\t', '\n', '\x0c', '\r']
  · left
    simp only [List.mem_cons, List.not_mem_nil, or_false] at hshort
    rcases hshort with rfl | rfl | rfl | rfl | rfl | rfl | rfl <;>
      exact ⟨_, rfl, by decide, by decide⟩
  · simp only [List.mem_cons, List.not_mem_nil, or_false, not_or] at hshort
    obtain ⟨h1, h2, h3, h4, h5, h6, h7⟩ := hshort
    unfold escapeChar
    rw [if_neg h1, if_neg h2, if_neg h3, if_neg h4, if_neg h5, if_neg h6, if_neg h7]
    by_cases h : c.toNat < 0x20
    · exact .inr (.inl ⟨if_pos h, h⟩)
    · exact .inr (.inr ⟨if_neg h, h1, h2, h⟩)

/-- What follows a backslash stands for one character. -/
theorem readCharsOnto_backslash {n : Nat} {read t s : List Char} {c : Char}
    (h : Yields (readEscape t) c s) (hs : ('\\' :: t).length ≤ n) :
    ∃ hs', readCharsOnto read ('\\' :: t) hs = readCharsOnto (c :: read) s hs' := by
  obtain ⟨hlt, e⟩ := h.eq
  rw [readCharsOnto, if_neg (by decide), if_pos rfl, e]
  exact ⟨_, rfl⟩

/-- The text of a character inside a string is read as this character. -/
theorem readCharsOnto_escapeChar {n : Nat} {read : List Char} (c : Char) {s : List Char}
    (hs : (escapeChar c ++ s).length ≤ n) :
    ∃ hs', readCharsOnto read (escapeChar c ++ s) hs = readCharsOnto (c :: read) s hs' := by
  revert hs
  rcases escapeChar_cases c with ⟨e, he, hu, hshort⟩ | ⟨he, hc⟩ | ⟨he, hq, hb, hc⟩ <;> rw [he]
  · exact readCharsOnto_backslash (yields_readEscape hu hshort s)
  · exact readCharsOnto_backslash (yields_readEscape_code c hc s)
  · rw [List.cons_append, List.nil_append]
    intro hs
    rw [readCharsOnto, if_neg hq, if_neg hb, if_neg hc]
    exact ⟨_, rfl⟩

/-- The characters of a string that has been written are read back. -/
theorem yields_readCharsOnto {n : Nat} (s : List Char) {rest : List Char} : ∀ (read : List Char)
    (hs : (s.flatMap escapeChar ++ '"' :: rest).length ≤ n),
    Yields (readCharsOnto read (s.flatMap escapeChar ++ '"' :: rest) hs) (read.reverse ++ s)
      rest := by
  induction s with
  | nil =>
    intro read
    -- The bound is about the text, so it is introduced when the text has its form.
    rw [List.flatMap_nil, List.nil_append, List.append_nil]
    intro hs
    rw [readCharsOnto, if_pos rfl]
    rfl
  | cons c s ih =>
    intro read
    rw [List.flatMap_cons, List.append_assoc]
    intro hs
    obtain ⟨hs', e⟩ := readCharsOnto_escapeChar c hs
    rw [e]
    simpa using ih (c :: read) hs'

theorem yields_readString (s rest : List Char) :
    Yields (readString (s.flatMap escapeChar ++ '"' :: rest)) s rest :=
  yields_readCharsOnto s [] _

/-! ## Values -/

/-- At most so many arrays and objects stand inside one another, and all numbers are integers below
the limit. -/
inductive Fits : Nat → Json → Prop where
  | null {d : Nat} : Fits d .null
  | bool {d : Nat} (b : Bool) : Fits d (.bool b)
  | integer {d : Nat} {z : Int} (h : z.natAbs < integerLimit) : Fits d (.num (.integer z))
  | str {d : Nat} (s : String) : Fits d (.str s)
  | arr {d : Nat} {vs : List Json} (h : ∀ v ∈ vs, Fits d v) : Fits (d + 1) (.arr vs)
  | obj {d : Nat} {ms : List (String × Json)} (h : ∀ m ∈ ms, Fits d m.2) : Fits (d + 1) (.obj ms)

mutual

/-- What a value is read as when it has been written. -/
def asRead : Json → Json
  | .num n => .num n.asRead
  | .arr vs => .arr (elementsAsRead vs)
  | .obj ms => .obj (membersAsRead ms)
  | .null => .null
  | .bool b => .bool b
  | .str s => .str s

/-- What the elements of an array are read as. -/
def elementsAsRead : List Json → List Json
  | [] => []
  | v :: vs => asRead v :: elementsAsRead vs

/-- What the members of an object are read as. -/
def membersAsRead : List (String × Json) → List (String × Json)
  | [] => []
  | (k, v) :: ms => (k, asRead v) :: membersAsRead ms

end

theorem skipSpace_cons {c : Char} (hc : isSpace c = false) (s : List Char) :
    skipSpace (c :: s) = c :: s := by
  simp [skipSpace, hc]

theorem render_num (n : Number) : (Json.num n).render = n.render := rfl

theorem render_str (s : String) : (Json.str s).render = renderString s.toList := rfl

theorem render_arr_cons (v : Json) (vs : List Json) :
    (Json.arr (v :: vs)).render = '[' :: v.render ++ renderElements vs ++ [']'] := rfl

theorem render_obj_cons (k : String) (v : Json) (ms : List (String × Json)) :
    (Json.obj ((k, v) :: ms)).render
      = '\x7b' :: renderString k.toList ++ ':' :: v.render ++ renderMembers ms ++ ['\x7d'] := rfl

/-- The text of an integer is its digits, behind a sign if it is negative. -/
theorem render_integer (z : Int) :
    Number.render (.integer z)
      = if z < 0 then '-' :: Nat.toDigits 10 z.natAbs else Nat.toDigits 10 z.natAbs := by
  change (toString z).toList = _
  rw [Int.toString_eq_repr, Int.repr_eq_if]
  split
  · next h =>
    rw [if_neg (by omega), Nat.toList_repr]
    congr 1
    omega
  · next h =>
    rw [if_pos (by omega), String.toList_append, Nat.toList_repr]
    have : (-z).toNat = z.natAbs := by omega
    rw [this]
    rfl

theorem isSpace_eq_false {c : Char} (hc : isBlank c = false) : isSpace c = false := by
  by_contra h
  simp only [isSpace, Bool.not_eq_false, Bool.or_eq_true, beq_iff_eq] at h
  rcases h with ((rfl | rfl) | rfl) | rfl <;> revert hc <;> decide

theorem isDigit_not {c : Char} (hc : c.isDigit = true) :
    isBlank c = false ∧ ∀ d ∈ ['[', ']', '\x7b', '-', '"', 'n', 't', 'f'], c ≠ d := by
  constructor
  · by_contra h
    rw [Bool.not_eq_false, isBlank_iff_mem] at h
    have : ∀ n ∈ blankCodes, n < 48 ∨ 57 < n := by decide
    have := this _ h
    obtain ⟨h1, h2⟩ : 48 ≤ c.toNat ∧ c.toNat ≤ 57 := (isDigit_iff c).1 hc
    omega
  · rintro d hd rfl
    have hall : ['[', ']', '\x7b', '-', '"', 'n', 't', 'f'].all (!Char.isDigit ·) = true := by
      decide
    have := List.all_eq_true.mp hall c hd
    simp [hc] at this

/-- The first character of a value. -/
theorem render_eq_cons {d : Nat} {v : Json} (h : Fits d v) :
    ∃ c s, v.render = c :: s ∧ isBlank c = false ∧ c ≠ ']' := by
  cases h with
  | null => exact ⟨_, _, rfl, by decide, by decide⟩
  | bool b => cases b <;> exact ⟨_, _, rfl, by decide, by decide⟩
  | str s => exact ⟨_, _, rfl, by decide, by decide⟩
  | @arr d vs h => cases vs <;> exact ⟨_, _, rfl, by decide, by decide⟩
  | @obj d ms h => rcases ms with _ | ⟨⟨k, v⟩, ms⟩ <;> exact ⟨_, _, rfl, by decide, by decide⟩
  | @integer d z h =>
    rw [render_num, render_integer]
    split
    · exact ⟨_, _, rfl, by decide, by decide⟩
    · obtain ⟨c, s, hs⟩ :=
        List.exists_cons_of_ne_nil (Nat.toDigits_ne_nil (b := 10) (n := z.natAbs))
      have hc := isDigit_not (isDigit_of_mem_toDigits (n := z.natAbs) c (by simp [hs]))
      exact ⟨c, s, hs, hc.1, hc.2 _ (by decide)⟩

/-! ## Reading values back -/

/-- A value is read from its first character that is not blank. -/
theorem plain_readValue (d : Nat) (s : List Char) :
    plain (readValue d s) =
      match skipSpace s with
      | [] => .error (.before .eofInValue [])
      | c :: t =>
        if c = '[' ∨ c = '\x7b' then
          match d with
          | 0 => .error (.inView .tooDeep (c :: t))
          | d + 1 =>
            plain (if c = '[' then readArray (readValue d) t else readObject (readValue d) t)
        else plain (readScalar (c :: t)) := by
  unfold readValue
  split
  · next h => simp only [h]; rfl
  · next c t h =>
    simp only [h]
    split
    · cases d with
      | zero => rfl
      | succ d =>
        dsimp only
        generalize (if c = '[' then readArray (readValue d) t else readObject (readValue d) t) = x
        cases x <;> rfl
    · generalize readScalar (c :: t) = x
      cases x <;> rfl

/-- A value that is no array and no object. -/
theorem yields_readValue_scalar {d : Nat} {c : Char} {t rest : List Char} {v : Json}
    (hc : isSpace c = false) (ha : c ≠ '[') (ho : c ≠ '\x7b')
    (h : Yields (readScalar (c :: t)) v rest) :
    Yields (readValue d (c :: t)) v rest := by
  rw [Yields, plain_readValue, skipSpace_cons hc]
  dsimp only
  rw [if_neg (by simp [ha, ho]), h]

theorem yields_readValue_integer {d : Nat} {z : Int} {rest : List Char}
    (h : z.natAbs < integerLimit) (hrest : EndsNumber rest) :
    Yields (readValue d (Number.render (.integer z) ++ rest)) (.num (Number.integer z).asRead)
      rest := by
  obtain ⟨x, hx⟩ := ofDigits_ok (decide (z < 0)) h
  have hread : (Number.integer z).asRead = x := by simp [Number.asRead, hx, Except.toOption]
  have hy := yields_readUnsigned hrest hx
  rw [hread, render_integer]
  by_cases hz : z < 0
  · rw [decide_eq_true hz] at hy
    obtain ⟨_, e⟩ := hy.eq
    rw [if_pos hz, List.cons_append]
    refine yields_readValue_scalar (by decide) (by decide) (by decide) ?_
    rw [readScalar, if_neg (by decide), if_neg (by decide), if_neg (by decide), if_neg (by decide),
      if_pos rfl, e]
    rfl
  · obtain ⟨c, s, hs⟩ := List.exists_cons_of_ne_nil (Nat.toDigits_ne_nil (b := 10) (n := z.natAbs))
    have hd := isDigit_of_mem_toDigits (n := z.natAbs) c (by simp [hs])
    obtain ⟨hc, hne⟩ := isDigit_not hd
    rw [decide_eq_false hz, hs, List.cons_append] at hy
    obtain ⟨_, e⟩ := hy.eq
    rw [if_neg hz, hs, List.cons_append]
    refine yields_readValue_scalar (isSpace_eq_false hc) (hne _ (by decide)) (hne _ (by decide)) ?_
    rw [readScalar, if_neg (hne _ (by decide)), if_neg (hne _ (by decide)),
      if_neg (hne _ (by decide)), if_neg (hne _ (by decide)), if_neg (hne _ (by decide)),
      if_pos hd, e]
    rfl

theorem yields_readValue_str {d : Nat} (s : String) (rest : List Char) :
    Yields (readValue d (renderString s.toList ++ rest)) (.str s) rest := by
  obtain ⟨_, e⟩ := (yields_readString s.toList rest).eq
  have hs :
      renderString s.toList ++ rest = '"' :: (s.toList.flatMap escapeChar ++ '"' :: rest) := by
    simp [renderString]
  rw [hs]
  refine yields_readValue_scalar (by decide) (by decide) (by decide) ?_
  rw [readScalar, if_neg (by decide), if_neg (by decide), if_neg (by decide), if_pos rfl, e]
  simp [Yields, plain, Except.map, Rest.widen]

/-! ## Arrays -/

section Elements

variable {n : Nat} {element : Reader Json} {read : List Json} {rest t r : List Char} {v : Json}

theorem yields_readMoreElements_end (hs : (']' :: rest).length ≤ n) :
    Yields (readMoreElements element read (']' :: rest) hs) read.reverse rest := by
  have hspace := skipSpace_cons (c := ']') (by decide) rest
  unfold readMoreElements
  split
  · next h => simp [hspace] at h
  · next c t h =>
    obtain ⟨rfl, rfl⟩ := List.cons.inj (hspace.symm.trans h)
    rfl

/-- The element behind a comma. -/
theorem readMoreElements_comma {c : Char} {s : List Char} (ht : skipSpace t = c :: s) (hc : c ≠ ']')
    (h : Yields (element t) v r) (hs : (',' :: t).length ≤ n) :
    ∃ hs', readMoreElements element read (',' :: t) hs =
      readMoreElements element (v :: read) r hs' := by
  have hspace := skipSpace_cons (c := ',') (by decide) t
  obtain ⟨hlt, e⟩ := h.eq
  refine ⟨by rw [List.length_cons] at hs; omega, ?_⟩
  rw [readMoreElements]
  split
  · next h => simp [hspace] at h
  · next c t h =>
    obtain ⟨rfl, rfl⟩ := List.cons.inj (hspace.symm.trans h)
    simp [ht, hc, e]

end Elements

/-- An element reader reads a written value back. -/
def ReadsBack (element : Reader Json) (v : Json) : Prop :=
  (∃ c s, v.render = c :: s ∧ isBlank c = false ∧ c ≠ ']') ∧
    ∀ rest, EndsNumber rest → Yields (element (v.render ++ rest)) v.asRead rest

theorem ReadsBack.skipSpace {element : Reader Json} {v : Json} (h : ReadsBack element v)
    (rest : List Char) : ∃ c s, skipSpace (v.render ++ rest) = c :: s ∧ c ≠ ']' := by
  obtain ⟨⟨c, s, hs, hblank, hc⟩, -⟩ := h
  exact ⟨c, s ++ rest, by rw [hs, List.cons_append, skipSpace_cons (isSpace_eq_false hblank)], hc⟩

/-- The elements of an array behind the first are read back. -/
theorem yields_readMoreElements {n : Nat} {element : Reader Json} {vs : List Json}
    (h : ∀ v ∈ vs, ReadsBack element v) {rest : List Char} : ∀ (read : List Json)
    (hs : (renderElements vs ++ ']' :: rest).length ≤ n),
    Yields (readMoreElements element read (renderElements vs ++ ']' :: rest) hs)
      (read.reverse ++ elementsAsRead vs) rest := by
  induction vs with
  | nil =>
    intro read
    rw [renderElements, List.nil_append, elementsAsRead, List.append_nil]
    exact yields_readMoreElements_end
  | cons v vs ih =>
    intro read
    have hends : EndsNumber (renderElements vs ++ ']' :: rest) := by
      cases vs <;> exact endsNumber_cons.mpr (by decide)
    have hv := h v (by simp)
    obtain ⟨c, s, hskip, hc⟩ := hv.skipSpace (renderElements vs ++ ']' :: rest)
    have htext : renderElements (v :: vs) ++ ']' :: rest
        = ',' :: (v.render ++ (renderElements vs ++ ']' :: rest)) := by
      simp [renderElements]
    rw [htext]
    intro hs
    obtain ⟨hs', e⟩ := readMoreElements_comma hskip hc (hv.2 _ hends) hs
    rw [e]
    simpa [elementsAsRead] using ih (fun w hw => h w (by simp [hw])) (v.asRead :: read) hs'

/-- The elements of an array are read back. -/
theorem yields_readElements {element : Reader Json} {vs : List Json}
    (h : ∀ v ∈ vs, ReadsBack element v) (rest : List Char) :
    ∃ t, (Json.arr vs).render ++ rest = '[' :: t ∧
      Yields (readElements element t) (elementsAsRead vs) rest := by
  cases vs with
  | nil => exact ⟨']' :: rest, rfl, rfl⟩
  | cons v vs =>
    have hends : EndsNumber (renderElements vs ++ ']' :: rest) := by
      cases vs <;> exact endsNumber_cons.mpr (by decide)
    have hv := h v (by simp)
    obtain ⟨c, s, hskip, hc⟩ := hv.skipSpace (renderElements vs ++ ']' :: rest)
    obtain ⟨_, e⟩ := (hv.2 _ hends).eq
    refine ⟨v.render ++ (renderElements vs ++ ']' :: rest), by simp [render_arr_cons], ?_⟩
    have hvs : ∀ w ∈ vs, ReadsBack element w := fun w hw => h w (by simp [hw])
    obtain ⟨_, e'⟩ := (@yields_readMoreElements _ element vs hvs rest [v.asRead] le_rfl).eq
    unfold readElements
    split
    · next h => simp [hskip] at h
    · next c' t h =>
      obtain ⟨rfl, rfl⟩ := List.cons.inj (hskip.symm.trans h)
      rw [if_neg hc, e]
      simp only [e']
      rfl

/-! ## Objects -/

/-- A member as it stands behind the quotation mark of its name. -/
def memberText (k : String) (v : Json) (rest : List Char) : List Char :=
  k.toList.flatMap escapeChar ++ '"' :: ':' :: (v.render ++ rest)

section Members

variable {n : Nat} {element : Reader Json} {read : List (String × Json)} {rest t r : List Char}
  {k : String} {v : Json} {m : String × Json}

theorem yields_readColon (t : List Char) : Yields (readColon (':' :: t)) () t := by
  have hspace := skipSpace_cons (c := ':') (by decide) t
  unfold readColon
  split
  · next h => simp [hspace] at h
  · next c' t' h =>
    obtain ⟨rfl, rfl⟩ := List.cons.inj (hspace.symm.trans h)
    rfl

theorem yields_readMember (hv : ReadsBack element v) (hrest : EndsNumber rest) :
    Yields (readMember element (memberText k v rest)) (k, v.asRead) rest := by
  obtain ⟨_, e₁⟩ := (yields_readString k.toList (':' :: (v.render ++ rest))).eq
  obtain ⟨_, e₂⟩ := (yields_readColon (v.render ++ rest)).eq
  obtain ⟨_, e₃⟩ := (hv.2 rest hrest).eq
  unfold readMember memberText
  simp only [e₁, e₂, e₃, String.ofList_toList]
  rfl

theorem yields_readMoreMembers_end (hs : ('\x7d' :: rest).length ≤ n) :
    Yields (readMoreMembers element read ('\x7d' :: rest) hs) read.reverse rest := by
  have hspace := skipSpace_cons (c := '\x7d') (by decide) rest
  unfold readMoreMembers
  split
  · next h => simp [hspace] at h
  · next c t h =>
    obtain ⟨rfl, rfl⟩ := List.cons.inj (hspace.symm.trans h)
    rfl

/-- The member behind a comma. -/
theorem readMoreMembers_comma (h : Yields (readMember element t) m r)
    (hs : (',' :: '"' :: t).length ≤ n) :
    ∃ hs', readMoreMembers element read (',' :: '"' :: t) hs
      = readMoreMembers element (m :: read) r hs' := by
  have hspace := skipSpace_cons (c := ',') (by decide) ('"' :: t)
  have hquote := skipSpace_cons (c := '"') (by decide) t
  obtain ⟨hlt, e⟩ := h.eq
  refine ⟨by simp only [List.length_cons] at hs; omega, ?_⟩
  rw [readMoreMembers]
  split
  · next h => simp [hspace] at h
  · next c t' h =>
    obtain ⟨rfl, rfl⟩ := List.cons.inj (hspace.symm.trans h)
    rw [if_neg (by decide), if_pos rfl]
    split
    · next h => simp [hquote] at h
    · next d u h =>
      obtain ⟨rfl, rfl⟩ := List.cons.inj (hquote.symm.trans h)
      simp [e]

end Members

/-- The members of an object behind the first are read back. -/
theorem yields_readMoreMembers {n : Nat} {element : Reader Json} {ms : List (String × Json)}
    (h : ∀ m ∈ ms, ReadsBack element m.2) {rest : List Char} : ∀ (read : List (String × Json))
    (hs : (renderMembers ms ++ '\x7d' :: rest).length ≤ n),
    Yields (readMoreMembers element read (renderMembers ms ++ '\x7d' :: rest) hs)
      (read.reverse ++ membersAsRead ms) rest := by
  induction ms with
  | nil =>
    intro read
    rw [renderMembers, List.nil_append, membersAsRead, List.append_nil]
    exact yields_readMoreMembers_end
  | cons m ms ih =>
    obtain ⟨k, v⟩ := m
    intro read
    have hends : EndsNumber (renderMembers ms ++ '\x7d' :: rest) := by
      rcases ms with _ | ⟨⟨k, v⟩, ms⟩ <;> exact endsNumber_cons.mpr (by decide)
    have htext : renderMembers ((k, v) :: ms) ++ '\x7d' :: rest
        = ',' :: '"' :: memberText k v (renderMembers ms ++ '\x7d' :: rest) := by
      simp [renderMembers, renderString, memberText]
    rw [htext]
    intro hs
    obtain ⟨hs', e⟩ := readMoreMembers_comma (yields_readMember (h (k, v) (by simp)) hends) hs
    rw [e]
    simpa [membersAsRead] using ih (fun w hw => h w (by simp [hw])) ((k, v.asRead) :: read) hs'

/-- The members of an object are read back. -/
theorem yields_readMembers {element : Reader Json} {ms : List (String × Json)}
    (h : ∀ m ∈ ms, ReadsBack element m.2) (rest : List Char) :
    ∃ t, (Json.obj ms).render ++ rest = '\x7b' :: t ∧
      Yields (readMembers element t) (membersAsRead ms) rest := by
  rcases ms with _ | ⟨⟨k, v⟩, ms⟩
  · exact ⟨'\x7d' :: rest, rfl, rfl⟩
  · have hends : EndsNumber (renderMembers ms ++ '\x7d' :: rest) := by
      rcases ms with _ | ⟨⟨k, v⟩, ms⟩ <;> exact endsNumber_cons.mpr (by decide)
    refine ⟨'"' :: memberText k v (renderMembers ms ++ '\x7d' :: rest), ?_, ?_⟩
    · simp [render_obj_cons, renderString, memberText]
    have hquote := skipSpace_cons (c := '"') (by decide)
      (memberText k v (renderMembers ms ++ '\x7d' :: rest))
    obtain ⟨_, e⟩ := (yields_readMember (k := k) (h (k, v) (by simp)) hends).eq
    have hms : ∀ w ∈ ms, ReadsBack element w.2 := fun w hw => h w (by simp [hw])
    obtain ⟨_, e'⟩ := (@yields_readMoreMembers _ element ms hms rest [(k, v.asRead)] le_rfl).eq
    unfold readMembers
    split
    · next h => simp [hquote] at h
    · next c' t h =>
      obtain ⟨rfl, rfl⟩ := List.cons.inj (hquote.symm.trans h)
      rw [if_neg (by decide), if_pos rfl, e]
      simp only [e']
      rfl

/-! ## The round trip -/

theorem yields_readValue_arr {d : Nat} {t rest : List Char} {vs : List Json}
    (h : Yields (readElements (readValue d) t) vs rest) :
    Yields (readValue (d + 1) ('[' :: t)) (.arr vs) rest := by
  obtain ⟨_, e⟩ := h.eq
  rw [Yields, plain_readValue, skipSpace_cons (by decide)]
  dsimp only
  rw [if_pos (.inl rfl), if_pos rfl, readArray, e]
  rfl

theorem yields_readValue_obj {d : Nat} {t rest : List Char} {ms : List (String × Json)}
    (h : Yields (readMembers (readValue d) t) ms rest) :
    Yields (readValue (d + 1) ('\x7b' :: t)) (.obj ms) rest := by
  obtain ⟨_, e⟩ := h.eq
  rw [Yields, plain_readValue, skipSpace_cons (by decide)]
  dsimp only
  rw [if_pos (.inr rfl), if_neg (by decide), readObject, e]
  rfl

/-- A value that fits is read back from its text. -/
theorem readsBack_of_fits {d : Nat} {v : Json} (h : Fits d v) : ReadsBack (readValue d) v := by
  refine ⟨render_eq_cons h, ?_⟩
  -- The depth goes down at each array and each object, as it does in the reader.
  induction h with
  | null =>
    exact fun rest _ => yields_readValue_scalar (by decide) (by decide) (by decide) rfl
  | bool b =>
    intro rest _
    cases b <;> exact yields_readValue_scalar (by decide) (by decide) (by decide) rfl
  | integer hz => exact fun rest hrest => yields_readValue_integer hz hrest
  | str s => exact fun rest _ => yields_readValue_str s rest
  | arr hvs ih =>
    intro rest _
    obtain ⟨t, ht, h⟩ := yields_readElements (fun v hv => ⟨render_eq_cons (hvs v hv), ih v hv⟩) rest
    rw [ht]
    exact yields_readValue_arr h
  | obj hms ih =>
    intro rest _
    obtain ⟨t, ht, h⟩ := yields_readMembers (fun m hm => ⟨render_eq_cons (hms m hm), ih m hm⟩) rest
    rw [ht]
    exact yields_readValue_obj h

theorem skipSpace_append {before : List Char} (hb : ∀ c ∈ before, isSpace c = true)
    (s : List Char) :
    skipSpace (before ++ s) = skipSpace s :=
  List.dropWhile_append_of_pos hb

/-- Blanks in front of a value do not count. -/
theorem yields_readValue_append {d : Nat} {before s rest : List Char} {v : Json}
    (hb : ∀ c ∈ before, isSpace c = true) (h : Yields (readValue d s) v rest) :
    Yields (readValue d (before ++ s)) v rest := by
  rw [Yields, plain_readValue] at *
  rwa [skipSpace_append hb]

/-- A text holds a value with blanks around it. -/
def Holds (text : String) (v : Json) : Prop :=
  ∃ before after : List Char, (∀ c ∈ before, isSpace c = true) ∧ (∀ c ∈ after, isSpace c = true) ∧
    text.toList = before ++ v.render ++ after

theorem Holds.not_blank {text : String} {v : Json} (h : Holds text v) {d : Nat} (hv : Fits d v) :
    isBlankString text = false := by
  obtain ⟨before, after, -, -, htext⟩ := h
  obtain ⟨c, s, hs, hc, -⟩ := render_eq_cons hv
  rw [isBlankString, htext, hs, List.all_eq_false]
  exact ⟨c, by simp, by simp [hc]⟩

/-- The text of a value that fits is read back, whatever blanks stand around it. -/
theorem ofString?_of_holds {text : String} {v : Json} (h : Holds text v)
    (hv : Fits nestingLimit v) :
    ofString? text = some v.asRead := by
  obtain ⟨before, after, hb, ha, htext⟩ := h
  have hends : EndsNumber after := by
    intro c hc
    have := ha c (List.mem_of_mem_head? hc)
    simp only [isSpace, Bool.or_eq_true, beq_iff_eq] at this
    rcases this with ((rfl | rfl) | rfl) | rfl <;> decide
  have hskip : skipSpace after = [] := by
    simpa [skipSpace] using skipSpace_append ha []
  obtain ⟨_, e⟩ := (yields_readValue_append hb ((readsBack_of_fits hv).2 after hends)).eq
  rw [ofString?, htext, List.append_assoc, ofChars, e]
  simp [readEnd, hskip, Except.toOption]

/-! ## Members of what is read -/

theorem membersAsRead_eq (ms : List (String × Json)) :
    membersAsRead ms = ms.map fun m => (m.1, m.2.asRead) := by
  induction ms with
  | nil => rfl
  | cons m ms ih => rw [membersAsRead, ih, List.map_cons]

theorem get?_asRead (name : String) (v : Json) : v.asRead.get? name = (v.get? name).map asRead := by
  cases v with
  | obj ms =>
    simp only [asRead, get?, membersAsRead_eq, ← List.map_reverse]
    induction ms.reverse with
    | nil => rfl
    | cons m ms ih =>
      rw [List.map_cons, List.lookup_cons, List.lookup_cons]
      split
      · rfl
      · exact ih
  | _ => rfl

/-- Reading back keeps the members that are strings. -/
theorem get?_asRead_eq_str_iff {name s : String} {v : Json} :
    v.asRead.get? name = some (.str s) ↔ v.get? name = some (.str s) := by
  rw [get?_asRead]
  cases v.get? name with
  | none => simp
  | some w => cases w <;> simp [asRead]

end ClarityCheck.Json
