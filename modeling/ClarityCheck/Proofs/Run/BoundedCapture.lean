import ClarityCheck.Proofs.Text.Utf8Roundtrip
import ClarityCheck.Run.Reading

/-!
# Bounded capture

A run that ends by itself reports, for each of its streams, the text of as many bytes as its limit
allows, however the bytes come in. A limit that falls inside a character leaves one U+FFFD in the
place of its beginning.

* `decodeUnits_take_encodeChar`: the beginning of a character is read as one broken character
* `decodeLossy_take_encode`: how the bytes of a text are read up to a limit
* `supervise_reported`: what a run reports of its streams
-/

namespace ClarityCheck

/-! ## Broken characters -/

namespace Text.Utf8

/-- The characters that bytes complete or break off on the way, and the state after them. -/
def readOn (s : State) : Bytes → List (Option Char) × State
  | [] => ([], s)
  | b :: bs =>
    let next := s.step b
    (next.1 ++ (readOn next.2 bs).1, (readOn next.2 bs).2)

theorem decodeFrom_append (s : State) (a b : Bytes) :
    decodeFrom s (a ++ b) = (readOn s a).1 ++ decodeFrom (readOn s a).2 b := by
  induction a generalizing s with
  | nil => rfl
  | cons x a ih => simp [decodeFrom, readOn, ih]

theorem readOn_silent {s : State} {bs : Bytes} (hne : bs ≠ []) (h : (readOn s bs).1 = []) :
    (readOn s bs).2 ≠ .start := by
  induction bs generalizing s with
  | nil => exact absurd rfl hne
  | cons b bs ih =>
    obtain ⟨hstep, hrest⟩ := List.append_eq_nil_iff.mp h
    by_cases hbs : bs = []
    · subst hbs
      exact State.step_silent hstep
    · exact ih hbs hrest

theorem length_encodeChar (c : Char) : (encodeChar c).length = c.utf8Size :=
  String.length_utf8EncodeChar c

/-- The beginning of a character is read as one broken character. -/
theorem decodeUnits_take_encodeChar {c : Char} {n : Nat} (hpos : 0 < n) (hlt : n < c.utf8Size) :
    decodeUnits ((encodeChar c).take n) = [none] := by
  have hlength := length_encodeChar c
  have hfront : (encodeChar c).take n ≠ [] := by
    intro h
    have := congrArg List.length h
    rw [List.length_take, List.length_nil] at this
    omega
  have hback : (encodeChar c).drop n ≠ [] := by
    intro h
    have := congrArg List.length h
    rw [List.length_drop, List.length_nil] at this
    omega
  -- The whole character is one unit, and the rest of its bytes gives at least one, so that its
  -- beginning gives none before it ends.
  have hwhole : (readOn .start ((encodeChar c).take n)).1 ++
      decodeFrom (readOn .start ((encodeChar c).take n)).2 ((encodeChar c).drop n) = [some c] := by
    rw [← decodeFrom_append, List.take_append_drop]
    simpa [decodeFrom] using decodeFrom_encodeChar c []
  have hsilent : (readOn .start ((encodeChar c).take n)).1 = [] := by
    rcases List.append_eq_singleton_iff.mp hwhole with ⟨h, -⟩ | ⟨-, h⟩
    · exact h
    · exact absurd h (decodeFrom_ne_nil _ hback)
  have hread := decodeFrom_append .start ((encodeChar c).take n) []
  rw [List.append_nil, hsilent, decodeFrom_nil (readOn_silent hfront hsilent)] at hread
  exact hread

/-! ## Texts cut anywhere -/

theorem encode_cons (c : Char) (cs : List Char) :
    encode (c :: cs) = encodeChar c ++ encode cs := rfl

theorem decodeLossy_encode (cs : List Char) : decodeLossy (encode cs) = cs := by
  simp [decodeLossy, decodeUnits_encode, Function.comp_def]

theorem decodeLossy_encodeChar_append (c : Char) (bs : Bytes) :
    decodeLossy (encodeChar c ++ bs) = c :: decodeLossy bs := by
  simp [decodeLossy, decodeUnits, decodeFrom_encodeChar]

/-- The longest beginning of a text whose bytes fit into a room. -/
def fitting : (room : Nat) → List Char → List Char
  | _, [] => []
  | room, c :: cs => if c.utf8Size ≤ room then c :: fitting (room - c.utf8Size) cs else []

/-- A text is the longest beginning of another one whose bytes fit into a room. -/
structure IsFitting (room : Nat) (cs kept : List Char) : Prop where
  front : kept <+: cs
  fits : size kept ≤ room
  longest : ∀ other, other <+: cs → size other ≤ room → other <+: kept

/-- A position in the bytes of a text lies between two characters, or at an end. -/
def IsBoundary (cs : List Char) (position : Nat) : Prop :=
  ∃ front, front <+: cs ∧ size front = position

theorem isFitting_fitting (room : Nat) (cs : List Char) : IsFitting room cs (fitting room cs) := by
  fun_induction fitting room cs with
  | case1 room => exact ⟨List.prefix_rfl, Nat.zero_le _, fun _ h _ => h⟩
  | case2 room c cs hfits ih =>
    refine ⟨(List.prefix_cons_inj c).mpr ih.front, ?_, fun other hother hsize => ?_⟩
    · have := ih.fits
      rw [size_cons]
      omega
    · cases other with
      | nil => exact List.nil_prefix
      | cons d other =>
        obtain ⟨rfl, hrest⟩ := List.cons_prefix_cons.mp hother
        rw [size_cons] at hsize
        exact (List.prefix_cons_inj d).mpr (ih.longest other hrest (by omega))
  | case3 room c cs hlong =>
    refine ⟨List.nil_prefix, Nat.zero_le _, fun other hother hsize => ?_⟩
    cases other with
    | nil => exact List.nil_prefix
    | cons d other =>
      obtain ⟨rfl, -⟩ := List.cons_prefix_cons.mp hother
      rw [size_cons] at hsize
      omega

theorem size_le_of_prefix {front cs : List Char} (h : front <+: cs) : size front ≤ size cs := by
  obtain ⟨back, rfl⟩ := h
  simp [size_eq_length_encode, encode]

namespace IsFitting

variable {room : Nat} {cs kept : List Char}

/-- A room ends between two characters when what fits into it fills it. -/
theorem size_eq_iff (h : IsFitting room cs kept) : size kept = room ↔ IsBoundary cs room := by
  constructor
  · exact fun hsize => ⟨kept, h.front, hsize⟩
  · rintro ⟨front, hfront, hsize⟩
    have := size_le_of_prefix (h.longest front hfront hsize.le)
    have := h.fits
    omega

end IsFitting

/-- The bytes of a text up to a limit are read as the characters that fit, with one U+FFFD for a
character that the limit cuts. -/
theorem decodeLossy_take_encode {room : Nat} {cs : List Char} (h : room < size cs) :
    decodeLossy ((encode cs).take room) =
      fitting room cs ++ if size (fitting room cs) = room then [] else [replacement] := by
  fun_induction fitting room cs with
  | case1 room => cases h
  | case2 room c cs hfits ih =>
    rw [size_cons] at h
    have hlength := length_encodeChar c
    rw [encode_cons, List.take_append, List.take_of_length_le (by omega), hlength,
      decodeLossy_encodeChar_append, ih (by omega), size_cons, List.cons_append]
    have hiff : size (fitting (room - c.utf8Size) cs) = room - c.utf8Size ↔
        c.utf8Size + size (fitting (room - c.utf8Size) cs) = room := by omega
    simp only [hiff]
  | case3 room c cs hlong =>
    rw [encode_cons, List.take_append_of_le_length (by rw [length_encodeChar]; omega)]
    cases room with
    | zero => rfl
    | succ room =>
      rw [decodeLossy, decodeUnits_take_encodeChar (Nat.succ_pos room) (by omega)]
      rfl

end Text.Utf8

/-! ## What a run reports -/

namespace Run

open Text.Utf8
  (encode decodeLossy decodeLossy_encode decodeLossy_take_encode fitting isFitting_fitting
  replacement IsFitting IsBoundary)

/-- What a run reports of a stream of which it captures a number of bytes. -/
structure Reported (limit : Nat) (f : Feed) (text : String) : Prop where
  /-- The stream has been read to its end. -/
  consumed : (readCapped limit f.pieces).2 = []
  lossy : text = String.ofList (decodeLossy (f.stream.take (min limit f.stream.length)))
  whole : ∀ cs, f.stream = encode cs → f.stream.length ≤ limit → text = String.ofList cs
  cut : ∀ cs, f.stream = encode cs → limit < f.stream.length → ∃ kept, IsFitting limit cs kept ∧
    (IsBoundary cs limit → text = String.ofList kept) ∧
    (¬IsBoundary cs limit → text = String.ofList (kept ++ [replacement]))

theorem arrival_ok {limit k : Nat} {f : Feed} {c : Captured}
    (h : (f.arrival limit k).captured = some (.ok c)) :
    readCapped limit f.pieces = (.ok c, []) := by
  simp only [Feed.arrival] at h
  split at h
  · exact readCapped_eq_of_ok (Option.some.inj h)
  · cases h

theorem awaitCapture_ok {timeout : Duration} {limit fuel k : Nat} {f : Feed} {c : Captured}
    (h : awaitCapture timeout (f.arrival limit) fuel k = some (.ok c)) :
    readCapped limit f.pieces = (.ok c, []) := by
  induction fuel generalizing k with
  | zero => cases h
  | succ fuel ih =>
    rw [awaitCapture] at h
    split at h
    · next hend =>
      cases h
      exact arrival_ok hend
    · cases h
    · split at h
      · cases h
      · split at h
        · cases h
        · exact ih h

theorem supervise_ok {timeout : Duration} {limit : Nat} {looks : Nat → Look} {out err : Feed}
    {o : Output} {actions : List Action}
    (h : supervise timeout ⟨looks, out.arrival limit, err.arrival limit⟩ = some (.ok o, actions)) :
    ∃ c d, readCapped limit out.pieces = (.ok c, []) ∧ readCapped limit err.pieces = (.ok d, []) ∧
      o.stdout = c.text ∧ o.stderr = d.text ∧ o.truncated = (c.truncated || d.truncated) := by
  unfold supervise at h
  split at h
  · cases h
  · cases h
  split at h
  · cases h
  · cases h
  next c hout =>
  split at h
  · cases h
  · cases h
  next d herr =>
  cases h
  exact ⟨c, d, awaitCapture_ok hout, awaitCapture_ok herr, rfl, rfl, rfl⟩

variable {limit : Nat} {f : Feed} {c : Captured}

theorem truncated_iff (h : readCapped limit f.pieces = (.ok c, [])) :
    c.truncated = true ↔ limit < f.stream.length := by
  rw [(readCapped_ok h).1, keep, decide_eq_true_eq]
  rfl

theorem reported_text (h : readCapped limit f.pieces = (.ok c, [])) : Reported limit f c.text := by
  have htext : c.text = String.ofList (decodeLossy (f.stream.take limit)) := by
    rw [(readCapped_ok h).1]
    rfl
  refine ⟨by rw [h], ?_, fun cs hcs hle => ?_, fun cs hcs hlt => ?_⟩
  · rw [htext, ← List.take_eq_take_min]
  · rw [htext, List.take_of_length_le hle, hcs, decodeLossy_encode]
  · have hfitting := isFitting_fitting limit cs
    rw [hcs, ← Text.Utf8.size_eq_length_encode] at hlt
    rw [hcs, decodeLossy_take_encode hlt] at htext
    refine ⟨fitting limit cs, hfitting, fun hboundary => ?_, fun hboundary => ?_⟩
    · rw [htext, if_pos (hfitting.size_eq_iff.mpr hboundary), List.append_nil]
    · rw [htext, if_neg (mt hfitting.size_eq_iff.mp hboundary)]

/-- A run that ends by itself reports the first bytes of each stream, up to the limit and as text,
has read both to their end, and says truthfully whether it has dropped any. -/
theorem supervise_reported {timeout : Duration} {limit : Nat} {looks : Nat → Look} {out err : Feed}
    {o : Output} {actions : List Action}
    (h : supervise timeout ⟨looks, out.arrival limit, err.arrival limit⟩ = some (.ok o, actions)) :
    Reported limit out o.stdout ∧ Reported limit err o.stderr ∧
      (o.truncated = true ↔ limit < out.stream.length ∨ limit < err.stream.length) := by
  obtain ⟨c, d, hout, herr, hstdout, hstderr, htruncated⟩ := supervise_ok h
  refine ⟨hstdout ▸ reported_text hout, hstderr ▸ reported_text herr, ?_⟩
  rw [htruncated, Bool.or_eq_true, truncated_iff hout, truncated_iff herr]

/-- Two characters arrive in pieces that cut the second one, and so does the limit. -/
theorem supervise_reported_cut :
    let looks : Nat → Look := fun _ => ⟨.ok (some (some 0)), false, .ofMilliseconds 0⟩
    let waits : Nat → Wait := fun k => ⟨.ofMilliseconds 100, k == 1, false⟩
    let out : Feed := ⟨[.bytes [0x6E, 0xC3], .interrupted, .bytes [0xA9]], waits⟩
    let err : Feed := ⟨[], waits⟩
    let o : Output := ⟨some 0, "n\uFFFD", "", true⟩
    supervise (.ofMilliseconds 100) ⟨looks, out.arrival 2, err.arrival 2⟩ = some (.ok o, []) ∧
      Reported 2 out o.stdout ∧ Reported 2 err o.stderr ∧
      (o.truncated = true ↔ 2 < out.stream.length ∨ 2 < err.stream.length) := by
  intro looks waits out err o
  have h : supervise (.ofMilliseconds 100) ⟨looks, out.arrival 2, err.arrival 2⟩ =
      some (.ok o, []) := rfl
  exact ⟨h, supervise_reported h⟩

end Run

end ClarityCheck
