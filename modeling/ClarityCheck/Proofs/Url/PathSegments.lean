import ClarityCheck.Url.Parser
import Mathlib.Data.List.DropRight

/-!
# Paths with segments behind them

The path of a URL of a server is read segment by segment, and dot segments take back what was read
before them. What a text has left at its end is a directory: segments behind it that are no dot
segments follow there as they are.

* `splitWhere_append_cons`, `splitWhere_eq_concat`: the pieces of a text
* `extend_append`, `extend_plain`: reading segments one after another
* `pathOf_append`: the path of a text with segments behind it
* `rdropWhile_render_pathOf`: the path of a text without slashes at its end is its directory
-/

namespace ClarityCheck.Url

open Text

/-! ## Pieces -/

theorem splitWhere_ne_nil (p : Char → Bool) (s : List Char) : splitWhere p s ≠ [] := by
  cases s with
  | nil => exact List.cons_ne_nil _ _
  | cons c s =>
    rw [splitWhere, List.foldr_cons]
    split
    · exact List.cons_ne_nil _ _
    · unfold consToFirst
      split <;> exact List.cons_ne_nil _ _

theorem splitWhere_cons (p : Char → Bool) (c : Char) (s : List Char) :
    splitWhere p (c :: s) = if p c then [] :: splitWhere p s else consToFirst c (splitWhere p s) :=
      rfl

theorem consToFirst_append (c : Char) {ps : List (List Char)} (h : ps ≠ [])
    (qs : List (List Char)) :
    consToFirst c (ps ++ qs) = consToFirst c ps ++ qs := by
  cases ps with
  | nil => exact absurd rfl h
  | cons p ps => rfl

theorem splitWhere_append_cons {p : Char → Bool} {c : Char} (hc : p c = true) (s t : List Char) :
    splitWhere p (s ++ c :: t) = splitWhere p s ++ splitWhere p t := by
  induction s with
  | nil => simp [hc, splitWhere]
  | cons d s ih =>
    rw [List.cons_append, splitWhere_cons, splitWhere_cons, ih]
    split
    · rfl
    · exact consToFirst_append d (splitWhere_ne_nil p s) _

theorem splitWhere_eq_singleton {p : Char → Bool} {s : List Char} (h : ∀ c ∈ s, p c = false) :
    splitWhere p s = [s] := by
  induction s with
  | nil => rfl
  | cons c s ih =>
    have hs : splitWhere p s = [s] := ih fun d hd => h d (List.mem_cons_of_mem _ hd)
    rw [splitWhere_cons, hs, h c List.mem_cons_self]
    rfl

theorem rtakeWhile_append_cons {p : Char → Bool} {c : Char} (hc : p c = false) (s t : List Char) :
    (s ++ c :: t).rtakeWhile p = t.rtakeWhile p := by
  induction t using List.reverseRecOn with
  | nil => rw [List.rtakeWhile_concat_neg _ _ _ (by simp [hc]), List.rtakeWhile_nil]
  | append_singleton t d ih =>
    rw [← List.cons_append, ← List.append_assoc, List.rtakeWhile_concat, List.rtakeWhile_concat, ih]

/-- The last piece is what stands behind the last separator. -/
theorem splitWhere_eq_concat (p : Char → Bool) (s : List Char) :
    ∃ front, splitWhere p s = front ++ [s.rtakeWhile (fun c => !p c)] := by
  have hlast : splitWhere p (s.rtakeWhile (fun c => !p c)) = [s.rtakeWhile (fun c => !p c)] :=
    splitWhere_eq_singleton fun c hc => by simpa using List.mem_rtakeWhile_imp hc
  have hs : s.rdropWhile (fun c => !p c) ++ s.rtakeWhile (fun c => !p c) = s :=
    List.rdropWhile_append_rtakeWhile
  rcases List.eq_nil_or_concat (s.rdropWhile (fun c => !p c)) with hnil | ⟨front, c, hfront⟩
  · rw [hnil, List.nil_append] at hs
    exact ⟨[], by rw [hs] at hlast; rw [hlast, hs]; rfl⟩
  · have hc : p c = true := by
      have := List.rdropWhile_last_not (fun c => !p c) s (by simp [hfront])
      simpa [hfront] using this
    refine ⟨splitWhere p front, ?_⟩
    conv_lhs => rw [← hs, hfront, List.concat_eq_append, List.append_assoc, List.singleton_append,
      splitWhere_append_cons hc, hlast]

/-! ## Names -/

/-- A text that stays as it is as a segment of a path. -/
structure IsPlainName (s : List Char) : Prop where
  chars : ∀ c ∈ s, Percent.path c = false ∧ isSeparator .server c = false
  single : isSingleDot s = false
  double : isDoubleDot s = false

theorem IsPlainName.nil : IsPlainName [] := ⟨by simp, by decide, by decide⟩

/-- Segments that stand behind others as they are. -/
structure AreNames (ps : List (List Char)) : Prop where
  ne_nil : ps ≠ []
  plain : ∀ p ∈ ps, IsPlainName p

theorem IsPlainName.encode_eq {s : List Char} (h : IsPlainName s) :
    Percent.encode Percent.path s = s :=
  Percent.encode_eq_self fun c hc => (h.chars c hc).1

theorem splitWhere_append_render {ps : List (List Char)} (h : ∀ p ∈ ps, IsPlainName p)
    (s : List Char) :
    splitWhere (isSeparator .server) (s ++ (UrlPath.segments ps).render) =
      splitWhere (isSeparator .server) s ++ ps := by
  induction ps generalizing s with
  | nil => simp [UrlPath.render]
  | cons p ps ih =>
    have hp : splitWhere (isSeparator .server) p = [p] :=
      splitWhere_eq_singleton fun c hc => ((h p List.mem_cons_self).chars c hc).2
    have hps := ih (fun q hq => h q (List.mem_cons_of_mem _ hq)) p
    change splitWhere _ (s ++ '/' :: (p ++ (UrlPath.segments ps).render)) = _
    rw [splitWhere_append_cons rfl, hps, hp]
    rfl

/-! ## Trails -/

/-- The trail behind a segment that others follow. -/
def Trail.pass (t : Trail) (s : List Char) : Trail :=
  if isDoubleDot s then { t with done := dropSegment t.done }
  else if isSingleDot s then t
  else t.push .server s

theorem Trail.push_server (t : Trail) (s : List Char) :
    t.push .server s = { t with done := Percent.encode Percent.path s :: t.done } := rfl

theorem Trail.extend_append (t : Trail) (xs : List (List Char)) {ys : List (List Char)}
    (hys : ys ≠ []) :
    t.extend .server (xs ++ ys) = (xs.foldl pass t).extend .server ys := by
  induction xs generalizing t with
  | nil => rfl
  | cons x xs ih =>
    have hmore : (xs ++ ys).isEmpty = false := by simp [hys]
    rw [List.cons_append, extend, hmore, List.foldl_cons, ← ih, pass]
    split
    · rfl
    · split <;> rfl

theorem Trail.extend_singleton (t : Trail) {s : List Char} (hsingle : isSingleDot s = false)
    (hdouble : isDoubleDot s = false) : t.extend .server [s] = t.pass s := by
  simp [extend, pass, hsingle, hdouble]

theorem Trail.extend_plain {ps : List (List Char)} (h : ∀ p ∈ ps, IsPlainName p) (t : Trail) :
    t.extend .server ps = { t with done := ps.reverse ++ t.done } := by
  induction ps generalizing t with
  | nil => rfl
  | cons p ps ih =>
    have hp : IsPlainName p := h p List.mem_cons_self
    rw [extend, if_neg (by simp [hp.double]), if_neg (by simp [hp.single]),
      ih fun q hq => h q (List.mem_cons_of_mem _ hq), push_server, hp.encode_eq]
    simp

/-! ## Directories -/

/-- The segments of the text of a path. -/
def segmentsOf : List Char → List (List Char)
  | [] => []
  | _ :: s => splitWhere (isSeparator .server) s

/-- The segments of a path that the text of a path leaves in front of those behind it. -/
def directoryOf (s : List Char) : List (List Char) :=
  ((segmentsOf s).foldl Trail.pass ⟨[], false⟩).done.reverse

theorem pathOf_append {s : List Char} (hs : ∀ c ∈ s.head?, isSeparator .server c = true)
    {ps : List (List Char)} (h : AreNames ps) :
    pathOf .server (s ++ (UrlPath.segments ps).render) = .segments (directoryOf s ++ ps) := by
  have hread : Trail.read .server ⟨[], false⟩ (s ++ (UrlPath.segments ps).render) =
      Trail.extend .server ⟨[], false⟩ (segmentsOf s ++ ps) := by
    cases s with
    | nil =>
      -- the separator that may be missing is that of the first segment
      cases ps with
      | nil => exact absurd rfl h.ne_nil
      | cons p ps =>
        have hp : splitWhere (isSeparator .server) p = [p] :=
          splitWhere_eq_singleton fun c hc => ((h.plain p List.mem_cons_self).chars c hc).2
        have hsplit :=
          splitWhere_append_render (fun q hq => h.plain q (List.mem_cons_of_mem p hq)) p
        change Trail.extend .server _ (splitWhere _ (p ++ (UrlPath.segments ps).render)) = _
        rw [hsplit, hp]
        rfl
    | cons c s =>
      have hc : isSeparator .server c = true := hs c rfl
      unfold Trail.read
      rw [List.cons_append]
      dsimp only
      rw [if_pos hc, splitWhere_append_render h.plain, segmentsOf]
  rw [pathOf, hread, Trail.extend_append _ _ h.ne_nil, Trail.extend_plain h.plain, directoryOf]
  simp

/-! ## Names at the end -/

theorem hexDigit_ne_slash : ∀ n < 16, Percent.hexDigit n ≠ '/' := by decide

theorem ne_slash_of_mem_encode {set : CharSet} {s : List Char} (h : ∀ c ∈ s, c ≠ '/') :
    ∀ c ∈ Percent.encode set s, c ≠ '/' := by
  intro c hc
  obtain ⟨d, hd, hc⟩ := List.mem_flatMap.1 hc
  unfold Percent.encodeChar at hc
  split at hc
  · obtain ⟨b, -, hc⟩ := List.mem_flatMap.1 hc
    have hb : b.toNat < 256 := b.toNat_lt
    simp only [Percent.encodeByte, List.mem_cons, List.not_mem_nil, or_false] at hc
    obtain rfl | rfl | rfl := hc
    · decide
    · exact hexDigit_ne_slash _ (by omega)
    · exact hexDigit_ne_slash _ (by omega)
  · rw [List.mem_singleton.1 hc]
    exact h d hd

theorem encode_ne_nil {set : CharSet} {s : List Char} (h : s ≠ []) : Percent.encode set s ≠ [] := by
  cases s with
  | nil => exact absurd rfl h
  | cons c s =>
    have hchar : Percent.encodeChar set c ≠ [] := by
      unfold Percent.encodeChar
      split
      · have hbytes : Utf8.encodeChar c ≠ [] := by
          rw [← List.length_pos_iff, Utf8.encodeChar, String.length_utf8EncodeChar]
          exact c.utf8Size_pos
        obtain ⟨b, bs, hb⟩ := List.exists_cons_of_ne_nil hbytes
        rw [hb]
        exact List.cons_ne_nil _ _
      · exact List.cons_ne_nil _ _
    rw [Percent.encode, List.flatMap_cons]
    exact List.append_ne_nil_of_left_ne_nil hchar _

/-- The text of a path whose last segment is a name. -/
structure EndsInName (s : List Char) : Prop where
  ne_nil : s.rtakeWhile (fun c => !isSeparator .server c) ≠ []
  single : isSingleDot (s.rtakeWhile (fun c => !isSeparator .server c)) = false
  double : isDoubleDot (s.rtakeWhile (fun c => !isSeparator .server c)) = false

theorem directoryOf_cons {c : Char} {s : List Char} (h : EndsInName s) :
    ∃ front, directoryOf (c :: s) =
      front ++ [Percent.encode Percent.path (s.rtakeWhile (fun c => !isSeparator .server c))] := by
  obtain ⟨front, hfront⟩ := splitWhere_eq_concat (isSeparator .server) s
  rw [directoryOf, segmentsOf, hfront, List.foldl_append, List.foldl_cons, List.foldl_nil,
    Trail.pass, if_neg (by simp [h.double]), if_neg (by simp [h.single]), Trail.push_server]
  exact ⟨_, List.reverse_cons⟩

theorem pathOf_cons {c : Char} (hc : isSeparator .server c = true) {s : List Char}
    (h : EndsInName s) :
    pathOf .server (c :: s) = .segments (directoryOf (c :: s)) := by
  obtain ⟨front, hfront⟩ := splitWhere_eq_concat (isSeparator .server) s
  have hread : Trail.read .server ⟨[], false⟩ (c :: s) =
      Trail.extend .server ⟨[], false⟩ (splitWhere (isSeparator .server) s) := by
    unfold Trail.read
    dsimp only
    rw [if_pos hc]
  rw [pathOf, hread, directoryOf, segmentsOf, hfront,
    Trail.extend_append _ _ (List.cons_ne_nil _ _), Trail.extend_singleton _ h.single h.double,
    List.foldl_append, List.foldl_cons, List.foldl_nil]

theorem rdropWhile_render_append {segments ps : List (List Char)} (hps : ∀ p ∈ ps, p = []) :
    (UrlPath.segments (segments ++ ps)).render.rdropWhile (· = '/') =
      (UrlPath.segments segments).render.rdropWhile (· = '/') := by
  induction ps using List.reverseRecOn with
  | nil => rw [List.append_nil]
  | append_singleton ps p ih =>
    have hp : p = [] := hps p (by simp)
    have hrender : (UrlPath.segments (segments ++ (ps ++ [p]))).render =
        (UrlPath.segments (segments ++ ps)).render ++ ['/'] := by
      simp [UrlPath.render, hp]
    rw [hrender, List.rdropWhile_concat_pos _ _ _ (by decide), ih fun q hq => hps q (by simp [hq])]

theorem rdropWhile_render_concat (front : List (List Char)) {s : List Char} (hne : s ≠ [])
    (h : ∀ c ∈ s, c ≠ '/') :
    (UrlPath.segments (front ++ [s])).render.rdropWhile (· = '/') =
      (UrlPath.segments (front ++ [s])).render := by
  rw [List.rdropWhile_eq_self_iff]
  intro hrender
  have hlast : (UrlPath.segments (front ++ [s])).render.getLast hrender = s.getLast hne := by
    simp [UrlPath.render, hne]
  rw [hlast]
  simpa using h _ (List.getLast_mem hne)

/-- Without slashes at its end, the path of a text is its directory, also when slashes stand behind
it. -/
theorem rdropWhile_render_pathOf {s : List Char} (hs : ∀ c ∈ s.head?, isSeparator .server c = true)
    (hend : ∀ t ∈ s.tail?, EndsInName t) {ps : List (List Char)} (hps : ∀ p ∈ ps, p = []) :
    (pathOf .server (s ++ (UrlPath.segments ps).render)).render.rdropWhile (· = '/') =
      (UrlPath.segments (directoryOf s)).render := by
  have hplain : ∀ p ∈ ps, IsPlainName p := fun p hp => hps p hp ▸ IsPlainName.nil
  have hpath : (pathOf .server (s ++ (UrlPath.segments ps).render)).render.rdropWhile (· = '/') =
      (UrlPath.segments (directoryOf s)).render.rdropWhile (· = '/') := by
    by_cases hne : ps = []
    · rw [hne]
      cases s with
      | nil => rfl
      | cons c s =>
        have hself : (c :: s) ++ (UrlPath.segments []).render = c :: s := List.append_nil _
        rw [hself, pathOf_cons (hs c rfl) (hend s rfl)]
    · rw [pathOf_append hs ⟨hne, hplain⟩, rdropWhile_render_append hps]
  rw [hpath]
  cases s with
  | nil => rfl
  | cons c s =>
    have hname : EndsInName s := hend s rfl
    obtain ⟨front, hfront⟩ := directoryOf_cons (c := c) hname
    rw [hfront]
    refine rdropWhile_render_concat front (encode_ne_nil hname.ne_nil)
      (ne_slash_of_mem_encode fun d hd => ?_)
    rintro rfl
    exact absurd (List.mem_rtakeWhile_imp hd) (by decide)

end ClarityCheck.Url
