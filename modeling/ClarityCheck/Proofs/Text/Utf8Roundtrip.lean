import ClarityCheck.Text.Utf8
import Mathlib.Data.UInt

/-!
# Texts are read back from UTF-8

The first byte of a character announces what follows it, and each further byte adds six bits, so
that the reader has the whole code point when the last byte arrives. The ranges of the bytes leave
each code point one way to be written.

Main statement: `decode?_eq_some_iff` (the bytes that are read as a text are the ones that write
it).
-/

namespace ClarityCheck.Text.Utf8

/-! ## First bytes -/

/-- The least byte that may follow the first one of three or four. -/
def lowAfter (a : Nat) (least : UInt8) : UInt8 := if a = 0 then least else 0x80

/-- The greatest byte that may follow the first one of three or four. -/
def highAfter (a last : Nat) (greatest : UInt8) : UInt8 := if a = last then greatest else 0xBF

theorem leading?_one : ∀ a < 128, leading? (UInt8.ofNat a) = some (0, 0, 0, a) := by decide

theorem leading?_two : ∀ a < 30,
    leading? (UInt8.ofNat (a + 2 + 192)) = some (1, 0x80, 0xBF, a + 2) := by decide

theorem leading?_three : ∀ a < 16,
    leading? (UInt8.ofNat (a + 224)) = some (2, lowAfter a 0xA0, highAfter a 13 0x9F, a) := by
      decide

theorem leading?_four : ∀ a < 5,
    leading? (UInt8.ofNat (a + 240)) = some (3, lowAfter a 0x90, highAfter a 4 0x8F, a) := by decide

theorem decodeFrom_first {b low high : UInt8} {missing bits : Nat} {bs : Bytes}
    (h : leading? b = some (missing + 1, low, high, bits)) :
    decodeFrom .start (b :: bs) = decodeFrom (.inside (missing + 1) low high bits) bs := by
  simp [decodeFrom, State.step, State.begin, h]

/-! ## Further bytes -/

/-- A byte with these six bits lies in a range. -/
structure Fits (low high : UInt8) (d : Nat) : Prop where
  lt : d < 64
  low : low.toNat ≤ d + 128
  high : d + 128 ≤ high.toNat

namespace Fits

variable {low high : UInt8} {d missing bits : Nat} {bs : Bytes}

theorem any (h : d < 64) : Fits 0x80 0xBF d :=
  ⟨h, by simp, by simp; omega⟩

theorem after {a last : Nat} {least greatest : UInt8} (h : d < 64)
    (hlow : a = 0 → least.toNat ≤ d + 128) (hhigh : a = last → d + 128 ≤ greatest.toNat) :
    Fits (lowAfter a least) (highAfter a last greatest) d where
  lt := h
  low := by
    unfold lowAfter
    split
    · next ha => exact hlow ha
    · exact (any h).low
  high := by
    unfold highAfter
    split
    · next ha => exact hhigh ha
    · exact (any h).high

theorem toNat (h : Fits low high d) : (UInt8.ofNat (d + 128)).toNat = d + 128 := by
  have := h.lt
  rw [UInt8.toNat_ofNat']
  omega

theorem isWithin (h : Fits low high d) :
    (low ≤ UInt8.ofNat (d + 128) && UInt8.ofNat (d + 128) ≤ high) = true := by
  simp only [Bool.and_eq_true, decide_eq_true_eq, UInt8.le_iff_toNat_le, h.toNat]
  exact ⟨h.low, h.high⟩

theorem decodeFrom_last (h : Fits low high d) :
    decodeFrom (.inside 1 low high bits) (UInt8.ofNat (d + 128) :: bs) =
      some (Char.ofNat (bits * 64 + d)) :: decodeFrom .start bs := by
  simp only [decodeFrom, State.step, h.isWithin, ↓reduceIte, h.toNat, Nat.add_sub_cancel]
  rfl

theorem decodeFrom_further (h : Fits low high d) :
    decodeFrom (.inside (missing + 2) low high bits) (UInt8.ofNat (d + 128) :: bs) =
      decodeFrom (.inside (missing + 1) 0x80 0xBF (bits * 64 + d)) bs := by
  simp only [decodeFrom, State.step, h.isWithin, ↓reduceIte, h.toNat, Nat.add_sub_cancel]
  rfl

end Fits

/-! ## Characters and texts -/

theorem decodeFrom_encodeChar (c : Char) (bs : Bytes) :
    decodeFrom .start (encodeChar c ++ bs) = some c :: decodeFrom .start bs := by
  have hvalid : c.val.toNat < 0xD800 ∨ 0xDFFF < c.val.toNat ∧ c.val.toNat < 0x110000 := c.valid
  have hc : Char.ofNat c.val.toNat = c := Char.ofNat_toNat c
  unfold encodeChar String.utf8EncodeChar
  generalize c.val.toNat = v at hvalid hc
  have hlast : v % 64 < 64 := Nat.mod_lt v (by decide)
  have hsecond : v / 64 % 64 < 64 := Nat.mod_lt _ (by decide)
  have hthird : v / 4096 % 64 < 64 := Nat.mod_lt _ (by decide)
  simp only
  split
  · next h =>
    simp [decodeFrom, State.step, State.begin, leading?_one v (by omega), hc]
  split
  · next h₁ h₂ =>
    rw [show v / 64 % 32 = v / 64 - 2 + 2 by omega]
    simp only [List.cons_append, List.nil_append]
    rw [decodeFrom_first (leading?_two _ (by omega)), (Fits.any hlast).decodeFrom_last,
      show (v / 64 - 2 + 2) * 64 + v % 64 = v by omega, hc]
  split
  · next h₁ h₂ h₃ =>
    rw [show v / 4096 % 16 = v / 4096 by omega]
    simp only [List.cons_append, List.nil_append]
    have hfits : Fits (lowAfter (v / 4096) 0xA0) (highAfter (v / 4096) 13 0x9F) (v / 64 % 64) :=
      .after hsecond (by simp; omega) (by simp; omega)
    rw [decodeFrom_first (leading?_three _ (by omega)), hfits.decodeFrom_further,
      (Fits.any hlast).decodeFrom_last,
      show (v / 4096 * 64 + v / 64 % 64) * 64 + v % 64 = v by omega, hc]
  · next h₁ h₂ h₃ =>
    rw [show v / 262144 % 8 = v / 262144 by omega]
    simp only [List.cons_append, List.nil_append]
    have hfits :
        Fits (lowAfter (v / 262144) 0x90) (highAfter (v / 262144) 4 0x8F) (v / 4096 % 64) :=
      .after hthird (by simp; omega) (by simp; omega)
    rw [decodeFrom_first (leading?_four _ (by omega)), hfits.decodeFrom_further,
      (Fits.any hsecond).decodeFrom_further, (Fits.any hlast).decodeFrom_last,
      show ((v / 262144 * 64 + v / 4096 % 64) * 64 + v / 64 % 64) * 64 + v % 64 = v by omega, hc]

theorem decodeUnits_encode (s : List Char) : decodeUnits (encode s) = s.map some := by
  unfold decodeUnits
  induction s with
  | nil => rfl
  | cons c s ih =>
    rw [encode, List.flatMap_cons, decodeFrom_encodeChar, List.map_cons]
    exact congrArg _ ih

/-- The bytes that write a text are read as that text. -/
theorem decode?_encode (s : List Char) : decode? (encode s) = some s := by
  have hread : (s.map some).mapM id = some s := by
    induction s with
    | nil => rfl
    | cons c s ih => simp [ih]
  rw [decode?, decodeUnits_encode, hread]

/-- Different texts are written by different bytes. -/
theorem encode_injective {s t : List Char} (h : encode s = encode t) : s = t := by
  have hread := congrArg decode? h
  rwa [decode?_encode, decode?_encode, Option.some.injEq] at hread

/-! ## Bytes that are read as a text -/

theorem State.begin_silent {b : UInt8} (h : (State.begin b).1 = []) :
    (State.begin b).2 ≠ .start := by
  unfold State.begin at h ⊢
  split at h
  · cases h
  · simp
  · cases h

/-- A byte that neither completes nor breaks off a character leaves the reader inside one. -/
theorem State.step_silent {s : State} {b : UInt8} (h : (s.step b).1 = []) :
    (s.step b).2 ≠ .start := by
  cases s with
  | start => exact begin_silent h
  | inside missing low high bits =>
    rw [step] at h ⊢
    split at h
    · next hin =>
      rw [if_pos hin]
      rcases missing with _ | _ | n
      · cases h
      · cases h
      · simp
    · cases h

theorem decodeFrom_nil {s : State} (h : s ≠ .start) : decodeFrom s [] = [none] := by
  cases s with
  | start => exact absurd rfl h
  | inside => rfl

theorem decodeFrom_ne_nil (s : State) {bs : Bytes} (h : bs ≠ []) : decodeFrom s bs ≠ [] := by
  induction bs generalizing s with
  | nil => exact absurd rfl h
  | cons b bs ih =>
    rw [decodeFrom]
    intro hnil
    obtain ⟨hstep, hrest⟩ := List.append_eq_nil_iff.mp hnil
    by_cases hbs : bs = []
    · rw [hbs, decodeFrom_nil (State.step_silent hstep)] at hrest
      cases hrest
    · exact ih _ hbs hrest

/-- What a first byte announces, in numbers. -/
theorem leading?_spec : ∀ n < 256, ∀ r ∈ leading? (UInt8.ofNat n),
    r.1 = 0 ∧ r.2.2.2 = n ∧ n < 128 ∨
    r.1 = 1 ∧ n = r.2.2.2 + 192 ∧ 2 ≤ r.2.2.2 ∧ r.2.2.2 < 32 ∧ r.2.1 = 0x80 ∧ r.2.2.1 = 0xBF ∨
    r.1 = 2 ∧ n = r.2.2.2 + 224 ∧ r.2.2.2 < 16 ∧
      r.2.1 = lowAfter r.2.2.2 0xA0 ∧ r.2.2.1 = highAfter r.2.2.2 13 0x9F ∨
    r.1 = 3 ∧ n = r.2.2.2 + 240 ∧ r.2.2.2 < 5 ∧
      r.2.1 = lowAfter r.2.2.2 0x90 ∧ r.2.2.1 = highAfter r.2.2.2 4 0x8F := by decide +kernel

theorem val_ofNat {n : Nat} (h : n < 0xD800 ∨ 0xDFFF < n ∧ n < 0x110000) :
    (Char.ofNat n).val.toNat = n := by
  unfold Char.ofNat
  rw [dif_pos (show n.isValidChar from h)]
  rfl

theorem encodeChar_one {a : Nat} (ha : a < 128) : encodeChar (Char.ofNat a) = [UInt8.ofNat a] := by
  have hval := val_ofNat (n := a) (.inl (by omega))
  unfold encodeChar String.utf8EncodeChar
  simp only [hval]
  rw [if_pos (by omega)]

theorem encodeChar_two {a d : Nat} (ha : 2 ≤ a) (ha' : a < 32) (hd : d < 64) :
    encodeChar (Char.ofNat (a * 64 + d)) = [UInt8.ofNat (a + 192), UInt8.ofNat (d + 128)] := by
  have hval := val_ofNat (n := a * 64 + d) (.inl (by omega))
  unfold encodeChar String.utf8EncodeChar
  simp only [hval]
  rw [if_neg (by omega), if_pos (by omega), show (a * 64 + d) / 64 % 32 = a by omega,
    show (a * 64 + d) % 64 = d by omega]

theorem encodeChar_three {a d e : Nat} (ha : a < 16)
    (hd : Fits (lowAfter a 0xA0) (highAfter a 13 0x9F) d) (he : e < 64) :
    encodeChar (Char.ofNat ((a * 64 + d) * 64 + e)) =
      [UInt8.ofNat (a + 224), UInt8.ofNat (d + 128), UInt8.ofNat (e + 128)] := by
  have hlow : a = 0 → 32 ≤ d := by
    rintro rfl
    have := hd.low
    simp [lowAfter] at this
    omega
  have hhigh : a = 13 → d < 32 := by
    rintro rfl
    have := hd.high
    simp [highAfter] at this
    omega
  have := hd.lt
  have hval := val_ofNat (n := (a * 64 + d) * 64 + e) (by omega)
  unfold encodeChar String.utf8EncodeChar
  simp only [hval]
  rw [if_neg (by omega), if_neg (by omega), if_pos (by omega),
    show ((a * 64 + d) * 64 + e) / 4096 % 16 = a by omega,
    show ((a * 64 + d) * 64 + e) / 64 % 64 = d by omega,
    show ((a * 64 + d) * 64 + e) % 64 = e by omega]

theorem encodeChar_four {a d e f : Nat} (ha : a < 5)
    (hd : Fits (lowAfter a 0x90) (highAfter a 4 0x8F) d) (he : e < 64) (hf : f < 64) :
    encodeChar (Char.ofNat (((a * 64 + d) * 64 + e) * 64 + f)) =
      [UInt8.ofNat (a + 240), UInt8.ofNat (d + 128), UInt8.ofNat (e + 128),
        UInt8.ofNat (f + 128)] := by
  have hlow : a = 0 → 16 ≤ d := by
    rintro rfl
    have := hd.low
    simp [lowAfter] at this
    omega
  have hhigh : a = 4 → d < 16 := by
    rintro rfl
    have := hd.high
    simp [highAfter] at this
    omega
  have := hd.lt
  have hval := val_ofNat (n := ((a * 64 + d) * 64 + e) * 64 + f) (by omega)
  unfold encodeChar String.utf8EncodeChar
  simp only [hval]
  rw [if_neg (by omega), if_neg (by omega), if_neg (by omega),
    show (((a * 64 + d) * 64 + e) * 64 + f) / 262144 % 8 = a by omega,
    show (((a * 64 + d) * 64 + e) * 64 + f) / 4096 % 64 = d by omega,
    show (((a * 64 + d) * 64 + e) * 64 + f) / 64 % 64 = e by omega,
    show (((a * 64 + d) * 64 + e) * 64 + f) % 64 = f by omega]

section

variable {low high : UInt8} {missing bits : Nat} {bs : Bytes} {c : Char} {rest : List (Option Char)}

/-- A character that has begun goes on with a byte that has six bits. -/
theorem exists_fits_of_inside (hlow : 0x80 ≤ low) (hhigh : high ≤ 0xBF)
    (h : decodeFrom (.inside (missing + 1) low high bits) bs = some c :: rest) :
    ∃ d tail, bs = UInt8.ofNat (d + 128) :: tail ∧ Fits low high d := by
  cases bs with
  | nil => simp [decodeFrom] at h
  | cons b tail =>
    rw [decodeFrom, State.step] at h
    split at h
    · next hin =>
      obtain ⟨hb, hb'⟩ : low ≤ b ∧ b ≤ high := by simpa using hin
      rw [UInt8.le_iff_toNat_le] at hlow hhigh hb hb'
      have h80 : (0x80 : UInt8).toNat = 128 := rfl
      have hBF : (0xBF : UInt8).toNat = 191 := rfl
      have hbyte : b.toNat - 128 + 128 = b.toNat := by omega
      refine ⟨b.toNat - 128, tail, ?_, by omega, by omega, by omega⟩
      rw [hbyte, UInt8.ofNat_toNat]
    · simp at h

theorem low_lowAfter {a : Nat} {least : UInt8} (h : 0x80 ≤ least) : 0x80 ≤ lowAfter a least := by
  unfold lowAfter
  split
  · exact h
  · exact UInt8.le_refl _

theorem highAfter_le {a last : Nat} {greatest : UInt8} (h : greatest ≤ 0xBF) :
    highAfter a last greatest ≤ 0xBF := by
  unfold highAfter
  split
  · exact h
  · exact UInt8.le_refl _

/-- The first character that is read was written by the first bytes. -/
theorem exists_append_of_decodeFrom (h : decodeFrom .start bs = some c :: rest) :
    ∃ tail, bs = encodeChar c ++ tail ∧ decodeFrom .start tail = rest := by
  cases bs with
  | nil => cases h
  | cons b bs =>
    have hb : UInt8.ofNat b.toNat = b := UInt8.ofNat_toNat
    rcases hl : leading? b with _ | ⟨missing, low, high, bits⟩
    · simp [decodeFrom, State.step, State.begin, hl] at h
    have hspec := leading?_spec b.toNat b.toNat_lt _ (hb.symm ▸ hl)
    dsimp only at hspec
    rcases hspec with ⟨rfl, rfl, hlt⟩ | ⟨rfl, hn, ha, ha', rfl, rfl⟩ | ⟨rfl, hn, ha, rfl, rfl⟩ |
      ⟨rfl, hn, ha, rfl, rfl⟩
    · rw [decodeFrom, State.step, State.begin, hl] at h
      obtain ⟨hc, hrest⟩ := List.cons.inj h
      obtain rfl := Option.some.inj hc
      exact ⟨bs, by rw [encodeChar_one hlt, hb]; rfl, hrest⟩
    all_goals rw [decodeFrom_first hl] at h
    · obtain ⟨d, tail, rfl, hd⟩ := exists_fits_of_inside (by decide) (by decide) h
      rw [hd.decodeFrom_last] at h
      obtain ⟨hc, hrest⟩ := List.cons.inj h
      obtain rfl := Option.some.inj hc
      exact ⟨tail, by rw [encodeChar_two ha ha' hd.lt, ← hn, hb]; rfl, hrest⟩
    · obtain ⟨d, tail, rfl, hd⟩ :=
        exists_fits_of_inside (low_lowAfter (by decide)) (highAfter_le (by decide)) h
      rw [hd.decodeFrom_further] at h
      obtain ⟨e, tail, rfl, he⟩ := exists_fits_of_inside (by decide) (by decide) h
      rw [he.decodeFrom_last] at h
      obtain ⟨hc, hrest⟩ := List.cons.inj h
      obtain rfl := Option.some.inj hc
      exact ⟨tail, by rw [encodeChar_three ha hd he.lt, ← hn, hb]; rfl, hrest⟩
    · obtain ⟨d, tail, rfl, hd⟩ :=
        exists_fits_of_inside (low_lowAfter (by decide)) (highAfter_le (by decide)) h
      rw [hd.decodeFrom_further] at h
      obtain ⟨e, tail, rfl, he⟩ := exists_fits_of_inside (by decide) (by decide) h
      rw [he.decodeFrom_further] at h
      obtain ⟨f, tail, rfl, hf⟩ := exists_fits_of_inside (by decide) (by decide) h
      rw [hf.decodeFrom_last] at h
      obtain ⟨hc, hrest⟩ := List.cons.inj h
      obtain rfl := Option.some.inj hc
      exact ⟨tail, by rw [encodeChar_four ha hd he.lt hf.lt, ← hn, hb]; rfl, hrest⟩

theorem eq_encode_of_decodeFrom {s : List Char} (h : decodeFrom .start bs = s.map some) :
    bs = encode s := by
  induction s generalizing bs with
  | nil =>
    by_contra hne
    exact decodeFrom_ne_nil .start hne h
  | cons c s ih =>
    obtain ⟨tail, rfl, htail⟩ := exists_append_of_decodeFrom h
    rw [ih htail]
    rfl

end

theorem eq_map_some_of_mapM {units : List (Option Char)} {s : List Char}
    (h : units.mapM id = some s) :
    units = s.map some := by
  induction units generalizing s with
  | nil =>
    obtain rfl := Option.some.inj h
    rfl
  | cons u units ih =>
    rw [List.mapM_cons] at h
    cases u with
    | none => cases h
    | some c =>
      cases hm : units.mapM id with
      | none =>
        rw [hm] at h
        cases h
      | some t =>
        rw [hm] at h
        obtain rfl := Option.some.inj h
        rw [ih hm]
        rfl

/-- Bytes are read as a text exactly if they are the ones that write it. -/
theorem decode?_eq_some_iff {bs : Bytes} {s : List Char} : decode? bs = some s ↔ bs = encode s := by
  constructor
  · intro h
    exact eq_encode_of_decodeFrom (eq_map_some_of_mapM h)
  · rintro rfl
    exact decode?_encode s

end ClarityCheck.Text.Utf8
