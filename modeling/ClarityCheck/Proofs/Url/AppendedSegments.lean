import ClarityCheck.Proofs.Settings.OptionAndVariable
import ClarityCheck.Proofs.Url.PathSegments

/-!
# URLs with more text behind them

What becomes of segments that are written behind the text of a URL of a server. If the text holds a
sign that starts a query or a fragment, they vanish in there. Otherwise the segments of the text up
to its end are a directory, and those behind follow in the path as they are written.

* `significant_eq_counted`, `counted_append`: the characters that count
* `ofChars_of_significant`: a URL of a server from its scheme and what follows the colon
* `Cut.ofChars_extended`, `IsRead.ofChars_of_sign`: the URL of a text with segments behind it
* `exists_isRead`: what a URL tells of the text without the slashes at its end
-/

namespace ClarityCheck.Url

open Text
open Settings (map_eq_ok_iff)

/-! ## Characters that count -/

/-- The characters that count of a text behind which others do. -/
def counted (s : List Char) : List Char := (s.dropWhile isMargin).filter (fun c => !isBreak c)

theorem isBreak_eq_false {c : Char} (h : isMargin c = false) : isBreak c = false := by
  rw [← Bool.not_eq_true] at h ⊢
  intro hbreak
  simp only [isBreak, Bool.or_eq_true, beq_iff_eq] at hbreak
  obtain (rfl | rfl) | rfl := hbreak <;> exact h (by decide)

theorem filter_isBreak_eq_self {m : List Char} (h : ∀ c ∈ m, isMargin c = false) :
    m.filter (fun c => !isBreak c) = m :=
  List.filter_eq_self.2 fun c hc => by simp [isBreak_eq_false (h c hc)]

theorem dropWhile_isMargin_append {m : List Char} (h : ∀ c ∈ m, isMargin c = false)
    (t : List Char) :
    (t ++ m).dropWhile isMargin = t.dropWhile isMargin ++ m := by
  rw [List.dropWhile_append]
  split
  · next hnil =>
    rw [List.isEmpty_iff.1 hnil, List.nil_append]
    cases m with
    | nil => rfl
    | cons c m => rw [List.dropWhile_cons_of_neg (by simp [h c List.mem_cons_self])]
  · rfl

theorem counted_append {m : List Char} (h : ∀ c ∈ m, isMargin c = false) (t : List Char) :
    counted (t ++ m) = counted t ++ m := by
  rw [counted, dropWhile_isMargin_append h, List.filter_append, filter_isBreak_eq_self h, counted]

theorem mem_counted_iff {s : List Char} {c : Char} (h : isMargin c = false) :
    c ∈ counted s ↔ c ∈ s := by
  rw [counted, List.mem_filter, isBreak_eq_false h]
  refine ⟨fun hc => (List.dropWhile_sublist _).subset hc.1, fun hc => ⟨?_, rfl⟩⟩
  rw [← List.takeWhile_append_dropWhile (p := isMargin) (l := s), List.mem_append] at hc
  exact hc.resolve_left fun hmem => by simp [List.mem_takeWhile_imp hmem] at h

theorem significant_eq_filter (s : List Char) :
    significant s = ((s.dropWhile isMargin).rdropWhile isMargin).filter (fun c => !isBreak c) := rfl

/-- Characters that count only when others stand behind them are at the end of the text. -/
theorem counted_eq_significant_append (s : List Char) :
    ∃ junk, counted s = significant s ++ junk ∧ ∀ c ∈ junk, isMargin c = true := by
  refine ⟨((s.dropWhile isMargin).rtakeWhile isMargin).filter (fun c => !isBreak c), ?_,
    fun c hc => ?_⟩
  · rw [significant_eq_filter, ← List.filter_append, List.rdropWhile_append_rtakeWhile, counted]
  · exact List.mem_rtakeWhile_imp (List.mem_filter.1 hc).1

theorem significant_eq_counted {s : List Char} (h : ∀ c ∈ s.getLast?, isMargin c = false) :
    significant s = counted s := by
  rcases List.eq_nil_or_concat s with rfl | ⟨front, c, rfl⟩
  · rfl
  · have hc : isMargin c = false := h c (by simp)
    have hlast : ∀ d ∈ [c], isMargin d = false := by simpa using hc
    rw [significant_eq_filter, List.concat_eq_append, dropWhile_isMargin_append hlast,
      List.rdropWhile_concat_neg _ _ _ (by simp [hc]), counted, dropWhile_isMargin_append hlast]

/-! ## Schemes -/

/-- A name that can stand in front of the first colon of a URL. -/
structure IsSchemeName (name : List Char) : Prop where
  head : ∃ c ∈ name.head?, isLetter c = true
  chars : ∀ c ∈ name, isSchemeChar c = true

theorem cutScheme?_eq_some_iff {s scheme rest : List Char} :
    cutScheme? s = some (scheme, rest) ↔
      ∃ name, s = name ++ ':' :: rest ∧ IsSchemeName name ∧ scheme = name.map lower := by
  constructor
  · intro h
    unfold cutScheme? at h
    split at h
    · next c t =>
      split at h
      · next hc =>
        split at h
        · next hdrop =>
          cases h
          refine ⟨(c :: t).takeWhile isSchemeChar, ?_,
            ⟨⟨c, ?_, hc⟩, fun d => List.mem_takeWhile_imp⟩, rfl⟩
          · rw [← hdrop, List.takeWhile_append_dropWhile]
          · rw [List.takeWhile_cons_of_pos (by simp [isSchemeChar, hc])]
            rfl
        · cases h
      · cases h
    · cases h
  · rintro ⟨name, rfl, ⟨⟨c, hc, hletter⟩, hchars⟩, rfl⟩
    obtain ⟨t, rfl⟩ : ∃ t, name = c :: t := List.head?_eq_some_iff.1 hc
    have hdrop : (c :: (t ++ ':' :: rest)).dropWhile isSchemeChar = ':' :: rest := by
      rw [← List.cons_append, List.dropWhile_append_of_pos hchars]
      rfl
    have htake : (c :: (t ++ ':' :: rest)).takeWhile isSchemeChar = c :: t := by
      rw [← List.cons_append, List.takeWhile_append_of_pos hchars]
      exact List.append_nil _
    simp only [cutScheme?, List.cons_append, hletter, if_true, hdrop, htake]

/-! ## Signs -/

/-- A sign that ends the body of a URL. -/
def isSign (c : Char) : Bool := c = '#' || c = '?'

theorem isMargin_of_isSign {c : Char} (h : isSign c = true) : isMargin c = false := by
  simp only [isSign, Bool.or_eq_true, decide_eq_true_eq] at h
  obtain rfl | rfl := h <;> decide

theorem isSchemeChar_of_isSign {c : Char} (h : isSign c = true) : isSchemeChar c = false := by
  simp only [isSign, Bool.or_eq_true, decide_eq_true_eq] at h
  obtain rfl | rfl := h <;> decide

/-- The body of a URL from what follows the colon. -/
def bodyOf (rest : List Char) : List Char := rest.takeWhile (fun c => !isSign c)

theorem bodyOf_of_mem {s : List Char} {c : Char} (hmem : c ∈ s) (hc : isSign c = true)
    (t : List Char) :
    bodyOf (s ++ t) = bodyOf s := by
  rw [bodyOf, List.takeWhile_append, if_neg, bodyOf]
  intro hlength
  have hall : s.takeWhile (fun c => !isSign c) = s := (List.takeWhile_prefix _).eq_of_length hlength
  simpa [hc] using List.takeWhile_eq_self_iff.1 hall c hmem

theorem bodyOf_eq_self {s : List Char} (h : ∀ c ∈ s, isSign c = false) : bodyOf s = s :=
  List.takeWhile_eq_self_iff.2 fun c hc => by simp [h c hc]

theorem cut?_eq_none_iff {sep : Char} {s : List Char} : cut? sep s = none ↔ sep ∉ s := by
  unfold cut?
  split
  · next h =>
    exact iff_of_true rfl fun hmem => by simpa using List.dropWhile_eq_nil_iff.1 h sep hmem
  · next c rest h =>
    have hc : c = sep := by
      have := List.head?_dropWhile_not (fun d => decide (d ≠ sep)) s
      rw [h] at this
      simpa using this
    have hmem : c ∈ s := (List.dropWhile_sublist _).subset (h ▸ List.mem_cons_self)
    exact iff_of_false (by simp) fun hsep => hsep (hc ▸ hmem)

theorem cutAt_fst (sign : Char) (s : List Char) : (cutAt sign s).1 = s.takeWhile (· ≠ sign) := by
  unfold cutAt
  split
  · next h =>
    unfold cut? at h
    split at h
    · cases h
    · cases h
      rfl
  · next h =>
    have hsign : sign ∉ s := cut?_eq_none_iff.1 h
    refine (List.takeWhile_eq_self_iff.2 fun c hc => decide_eq_true ?_).symm
    rintro rfl
    exact hsign hc

theorem cutAt_snd_eq_none_iff {sign : Char} {s : List Char} :
    (cutAt sign s).2 = none ↔ sign ∉ s := by
  rw [← cut?_eq_none_iff, cutAt]
  split <;> simp [*]

theorem cutAt_body (rest : List Char) : (cutAt '?' (cutAt '#' rest).1).1 = bodyOf rest := by
  rw [cutAt_fst, cutAt_fst, List.takeWhile_takeWhile, bodyOf]
  congr 1
  funext c
  simp [isSign, Bool.and_comm]

/-- The query of a URL of a server from what follows the colon. -/
def queryOf (rest : List Char) : Option (List Char) :=
  (cutAt '?' (cutAt '#' rest).1).2.map (Percent.encode Percent.serverQuery)

/-- The fragment of a URL from what follows the colon. -/
def fragmentOf (rest : List Char) : Option (List Char) :=
  (cutAt '#' rest).2.map (Percent.encode Percent.fragment)

theorem fragmentOf_eq_none_iff {rest : List Char} : fragmentOf rest = none ↔ '#' ∉ rest := by
  rw [fragmentOf, Option.map_eq_none_iff, cutAt_snd_eq_none_iff]

theorem queryOf_eq_none_iff {rest : List Char} (h : '#' ∉ rest) :
    queryOf rest = none ↔ '?' ∉ rest := by
  have hself : rest.takeWhile (· ≠ '#') = rest :=
    List.takeWhile_eq_self_iff.2 fun c hc => decide_eq_true fun he => h (he ▸ hc)
  rw [queryOf, Option.map_eq_none_iff, cutAt_snd_eq_none_iff, cutAt_fst, hself]

/-- A URL has neither a query nor a fragment when no sign stands behind its scheme. -/
theorem queryOf_fragmentOf_eq_none_iff {rest : List Char} :
    queryOf rest = none ∧ fragmentOf rest = none ↔ ∀ c ∈ rest, isSign c = false := by
  have hsigns : (∀ c ∈ rest, isSign c = false) ↔ '#' ∉ rest ∧ '?' ∉ rest := by
    simp only [isSign, Bool.or_eq_false_iff, decide_eq_false_iff_not]
    exact ⟨fun h => ⟨fun hc => (h _ hc).1 rfl, fun hc => (h _ hc).2 rfl⟩,
      fun h c hc => ⟨fun he => h.1 (he ▸ hc), fun he => h.2 (he ▸ hc)⟩⟩
  rw [hsigns, fragmentOf_eq_none_iff]
  exact ⟨fun h => ⟨h.2, (queryOf_eq_none_iff h.2).1 h.1⟩,
    fun h => ⟨(queryOf_eq_none_iff h.1).2 h.2, h.1⟩⟩

theorem ofChars_eq {s name rest : List Char} (hs : significant s = name ++ ':' :: rest)
    (hname : IsSchemeName name) (hkind : kindOf (name.map lower) = .server) :
    ofChars s = (readBody .server (name.map lower) (bodyOf rest)).map (fun r =>
      ⟨name.map lower, r.1, r.2, queryOf rest, fragmentOf rest⟩) := by
  have hcut : cutScheme? (significant s) = some (name.map lower, rest) :=
    cutScheme?_eq_some_iff.2 ⟨name, hs, hname, rfl⟩
  unfold ofChars
  rw [hcut]
  dsimp only
  rw [cutAt_body, hkind]
  cases readBody .server (name.map lower) (bodyOf rest) <;> rfl

/-! ## Servers -/

theorem subset_of_cutAtLast {sign : Char} {s tail : List Char} {front : Option (List Char)}
    (h : cutAtLast sign s = (front, tail)) : tail ⊆ s := by
  have htail : tail = ((cutAt sign s.reverse).1).reverse := by
    unfold cutAtLast at h
    split at h <;> next hcut =>
      cases h
      rw [hcut]
  rw [htail, cutAt_fst]
  intro c hc
  exact List.mem_reverse.1 ((List.takeWhile_sublist _).subset (List.mem_reverse.1 hc))

theorem subset_of_cutPort {inside : Bool} {s port : List Char}
    (h : (cutPort inside s).2 = some port) :
    port ⊆ s := by
  fun_induction cutPort inside s with
  | case1 => cases h
  | case2 =>
    cases h
    exact List.subset_cons_self _ _
  | case3 inside c s hc r ih =>
    exact fun d hd => List.mem_cons_of_mem _ (ih h hd)

theorem portOf_snd {scheme s rest : List Char} {port : Option Nat}
    (h : portOf scheme s = .ok (port, rest)) (hs : '\\' ∉ s) : rest = [] := by
  unfold portOf at h
  dsimp only at h
  split at h
  · cases h
  · split at h
    · cases h
    · next hrest =>
      cases h
      cases hd : s.dropWhile Char.isDigit with
      | nil => rfl
      | cons c t =>
        have hc : c ∈ s := (List.dropWhile_sublist _).subset (hd ▸ List.mem_cons_self)
        have hslash : c ≠ '\\' := fun he => hs (he ▸ hc)
        simp [hd, hslash] at hrest

/-- Nothing is left behind a server in whose text no backslash stands. -/
theorem serverOf_snd {kind : SchemeKind} {scheme s behind : List Char} {server : Server}
    (h : serverOf kind scheme s = .ok (server, behind)) (hs : '\\' ∉ s) : behind = [] := by
  unfold serverOf at h
  split at h
  next login rest hlast =>
  split at h
  next host port hport =>
  split at h
  · cases h
  · split at h
    · cases h
    · split at h
      · cases h
      · next hbehind =>
        cases h
        cases port with
        | some text =>
          have htext : text ⊆ s := fun c hc =>
            subset_of_cutAtLast hlast (subset_of_cutPort (by rw [hport]) hc)
          exact portOf_snd hbehind fun hmem => hs (htext hmem)
        | none =>
          cases hbehind
          rfl

/-- The text of the server in the body of a URL of a server. -/
def authorityOf (body : List Char) : List Char :=
  (body.dropWhile (isSeparator .server)).takeWhile (fun c => !isSeparator .server c)

/-- The text of the path in the body of a URL of a server. -/
def pathTextOf (body : List Char) : List Char :=
  (body.dropWhile (isSeparator .server)).dropWhile (fun c => !isSeparator .server c)

theorem isSeparator_of_mem_head? (body : List Char) :
    ∀ c ∈ (pathTextOf body).head?, isSeparator .server c = true := by
  intro c hc
  have := List.head?_dropWhile_not (fun c => !isSeparator .server c)
    (body.dropWhile (isSeparator .server))
  rw [pathTextOf] at hc
  rw [Option.mem_def.1 hc] at this
  simpa using this

theorem drop_length_takeWhile (p : Char → Bool) (s : List Char) :
    s.drop (s.takeWhile p).length = s.dropWhile p := by
  induction s with
  | nil => rfl
  | cons c s ih => cases h : p c <;> simp [h, ih]

theorem readBody_server (scheme body : List Char) :
    readBody .server scheme body = (serverOf .server scheme (authorityOf body)).map (fun r =>
      (some r.1, pathOf .server (pathTextOf body))) := by
  have hslash : '\\' ∉ authorityOf body := fun hmem => by
    simpa [isSeparator] using List.mem_takeWhile_imp hmem
  rw [readBody, readServer, drop_length_takeWhile, ← authorityOf, ← pathTextOf]
  cases h : serverOf .server scheme (authorityOf body) with
  | error e => rfl
  | ok r =>
    obtain ⟨server, behind⟩ := r
    rw [serverOf_snd h hslash]
    rfl

/-- A server has a host, so its text is not empty. -/
theorem serverOf_nil (scheme : List Char) : serverOf .server scheme [] = .error .emptyHost := rfl

theorem ofChars_of_significant {s name rest : List Char} (hs : significant s = name ++ ':' :: rest)
    (hname : IsSchemeName name) (hkind : kindOf (name.map lower) = .server) :
    ofChars s = (serverOf .server (name.map lower) (authorityOf (bodyOf rest))).map (fun r =>
      ⟨name.map lower, some r.1, pathOf .server (pathTextOf (bodyOf rest)), queryOf rest,
        fragmentOf rest⟩) := by
  rw [ofChars_eq hs hname hkind, readBody_server]
  cases serverOf .server (name.map lower) (authorityOf (bodyOf rest)) <;> rfl

/-! ## Texts with more behind them -/

/-- What stays as it is in a segment is no margin and no sign. -/
theorem isMargin_isSign_of_path {c : Char} (h : Percent.path c = false) :
    isMargin c = false ∧ isSign c = false := by
  have hsign : isSign c = false := by
    rw [← Bool.not_eq_true] at h ⊢
    intro hsign
    simp only [isSign, Bool.or_eq_true, decide_eq_true_eq] at hsign
    obtain rfl | rfl := hsign <;> exact h (by decide)
  refine ⟨?_, hsign⟩
  have hblank : c ≠ ' ' := by
    rintro rfl
    exact absurd h (by decide)
  have hcontrol : ¬c.toNat < 0x20 := by
    intro hlt
    simp [Percent.path, Percent.fragment, Percent.controls, hlt] at h
  have hcode : c.toNat ≠ 0x20 := fun he => hblank (Char.toNat_inj.1 he)
  simp only [isMargin, decide_eq_false_iff_not]
  omega

theorem mem_render {ps : List (List Char)} (h : ∀ p ∈ ps, IsPlainName p) :
    ∀ c ∈ (UrlPath.segments ps).render, isMargin c = false ∧ isSign c = false := by
  intro c hc
  obtain ⟨p, hp, hc⟩ := List.mem_flatMap.1 hc
  rcases List.mem_cons.1 hc with rfl | hc
  · decide
  · exact isMargin_isSign_of_path ((h p hp).chars c hc).1

theorem render_ne_nil {ps : List (List Char)} (h : ps ≠ []) :
    (UrlPath.segments ps).render ≠ [] := by
  cases ps with
  | nil => exact absurd rfl h
  | cons p ps => exact List.cons_ne_nil _ _

theorem head?_render (ps : List (List Char)) :
    ∀ c ∈ (UrlPath.segments ps).render.head?, c = '/' := by
  cases ps with
  | nil => simp [UrlPath.render]
  | cons p ps => simp [UrlPath.render]

theorem authorityOf_eq_nil_iff {body : List Char} :
    authorityOf body = [] ↔ ∀ c ∈ body, isSeparator .server c = true := by
  rw [← List.dropWhile_eq_nil_iff, authorityOf]
  cases hx : body.dropWhile (isSeparator .server) with
  | nil => simp
  | cons c x =>
    have hc : isSeparator .server c = false := by
      simpa [hx] using List.head?_dropWhile_not (isSeparator .server) body
    simp [hc]

theorem dropWhile_append_of_authorityOf {body : List Char} (h : authorityOf body ≠ [])
    (m : List Char) :
    (body ++ m).dropWhile (isSeparator .server) = body.dropWhile (isSeparator .server) ++ m := by
  rw [List.dropWhile_append, if_neg]
  rw [List.isEmpty_iff, List.dropWhile_eq_nil_iff]
  exact fun hall => h (authorityOf_eq_nil_iff.2 hall)

theorem stops_at_slash {m : List Char} (hm : ∀ c ∈ m.head?, c = '/') :
    m.takeWhile (fun c => !isSeparator .server c) = [] ∧
      m.dropWhile (fun c => !isSeparator .server c) = m := by
  cases m with
  | nil => exact ⟨rfl, rfl⟩
  | cons c m =>
    rw [hm c rfl]
    exact ⟨List.takeWhile_cons_of_neg (by decide), List.dropWhile_cons_of_neg (by decide)⟩

theorem authorityOf_append {body m : List Char} (h : authorityOf body ≠ [])
    (hm : ∀ c ∈ m.head?, c = '/') : authorityOf (body ++ m) = authorityOf body := by
  rw [authorityOf, dropWhile_append_of_authorityOf h, List.takeWhile_append, (stops_at_slash hm).1]
  split
  · next hlength =>
    rw [List.append_nil, authorityOf, (List.takeWhile_prefix _).eq_of_length hlength]
  · rfl

theorem pathTextOf_append {body m : List Char} (h : authorityOf body ≠ [])
    (hm : ∀ c ∈ m.head?, c = '/') : pathTextOf (body ++ m) = pathTextOf body ++ m := by
  rw [pathTextOf, dropWhile_append_of_authorityOf h, List.dropWhile_append, (stops_at_slash hm).2]
  split
  · next hnil => rw [pathTextOf, List.isEmpty_iff.1 hnil, List.nil_append]
  · rfl

/-- A text that begins with the scheme of a server, as far as its characters count. -/
structure Cut (text name rest : List Char) : Prop where
  counted_eq : counted text = name ++ ':' :: rest
  isName : IsSchemeName name
  kind : kindOf (name.map lower) = .server

section

variable {t name rest : List Char} {ps : List (List Char)}

theorem Cut.significant_append (hcut : Cut t name rest) (h : ∀ p ∈ ps, IsPlainName p)
    (hlast : ps = [] → ∀ c ∈ t.getLast?, isMargin c = false) :
    significant (t ++ (UrlPath.segments ps).render) =
      name ++ ':' :: (rest ++ (UrlPath.segments ps).render) := by
  have hmargin : ∀ c ∈ (t ++ (UrlPath.segments ps).render).getLast?, isMargin c = false := by
    intro c hc
    by_cases hne : ps = []
    · rw [hne] at hc
      exact hlast hne c (by simpa [UrlPath.render] using hc)
    · rw [List.getLast?_append_of_ne_nil _ (render_ne_nil hne)] at hc
      exact (mem_render h c (List.mem_of_getLast? hc)).1
  rw [significant_eq_counted hmargin, counted_append fun c hc => (mem_render h c hc).1,
    hcut.counted_eq, List.append_assoc, List.cons_append]

/-- Behind a sign more text changes neither the server nor the path. -/
theorem Cut.ofChars_hidden (hcut : Cut t name rest) {c : Char} (hmem : c ∈ rest)
    (hc : isSign c = true) (h : AreNames ps) :
    ofChars (t ++ (UrlPath.segments ps).render) =
      (serverOf .server (name.map lower) (authorityOf (bodyOf rest))).map (fun r =>
        ⟨name.map lower, some r.1, pathOf .server (pathTextOf (bodyOf rest)),
          queryOf (rest ++ (UrlPath.segments ps).render),
          fragmentOf (rest ++ (UrlPath.segments ps).render)⟩) := by
  have hsignificant := hcut.significant_append h.plain fun he => absurd he h.ne_nil
  rw [ofChars_of_significant hsignificant hcut.isName hcut.kind, bodyOf_of_mem hmem hc]

/-- What stands behind a text without a sign belongs to its path. -/
theorem Cut.ofChars_shown (hcut : Cut t name rest) (hrest : ∀ c ∈ rest, isSign c = false)
    (hauth : authorityOf rest ≠ []) (h : ∀ p ∈ ps, IsPlainName p)
    (hlast : ps = [] → ∀ c ∈ t.getLast?, isMargin c = false) :
    ofChars (t ++ (UrlPath.segments ps).render) =
      (serverOf .server (name.map lower) (authorityOf rest)).map (fun r =>
        ⟨name.map lower, some r.1, pathOf .server (pathTextOf rest ++ (UrlPath.segments ps).render),
          none, none⟩) := by
  have hsigns : ∀ c ∈ rest ++ (UrlPath.segments ps).render, isSign c = false := fun c hc =>
    (List.mem_append.1 hc).elim (hrest c) fun hc => (mem_render h c hc).2
  obtain ⟨hquery, hfragment⟩ := queryOf_fragmentOf_eq_none_iff.2 hsigns
  rw [ofChars_of_significant (hcut.significant_append h hlast) hcut.isName hcut.kind,
    bodyOf_eq_self hsigns, authorityOf_append hauth (head?_render ps),
    pathTextOf_append hauth (head?_render ps), hquery, hfragment]

/-- Segments behind a text without a sign follow in its path as they are. -/
theorem Cut.ofChars_extended (hcut : Cut t name rest) (hrest : ∀ c ∈ rest, isSign c = false)
    (hauth : authorityOf rest ≠ []) (h : AreNames ps) :
    ofChars (t ++ (UrlPath.segments ps).render) =
      (serverOf .server (name.map lower) (authorityOf rest)).map (fun r =>
        ⟨name.map lower, some r.1, .segments (directoryOf (pathTextOf rest) ++ ps), none,
          none⟩) := by
  rw [hcut.ofChars_shown hrest hauth h.plain fun he => absurd he h.ne_nil,
    pathOf_append (isSeparator_of_mem_head? rest) h]

theorem cutScheme?_of_ofChars {s : List Char} {u : Url} (h : ofChars s = .ok u) :
    ∃ rest, cutScheme? (significant s) = some (u.scheme, rest) := by
  unfold ofChars at h
  split at h
  · cases h
  · next scheme rest hcut =>
    dsimp only at h
    split at h
    · cases h
    · cases h
      exact ⟨rest, hcut⟩

/-- What a URL of a server is read from: the text is cut behind the scheme, also when what stands at
its end does not count. -/
theorem exists_cut {u : Url} (h : ofChars (t ++ (UrlPath.segments ps).render) = .ok u)
    (hps : ∀ p ∈ ps, IsPlainName p) (hkind : kindOf u.scheme = .server) :
    ∃ name rest rest' junk, Cut t name rest ∧ u.scheme = name.map lower ∧
      significant (t ++ (UrlPath.segments ps).render) = name ++ ':' :: rest' ∧
      rest ++ (UrlPath.segments ps).render = rest' ++ junk ∧ ∀ c ∈ junk, isMargin c = true := by
  obtain ⟨rest', hscheme⟩ := cutScheme?_of_ofChars h
  obtain ⟨name, hs, hname, hu⟩ := cutScheme?_eq_some_iff.1 hscheme
  obtain ⟨junk, hjunk, hmargin⟩ := counted_eq_significant_append (t ++ (UrlPath.segments ps).render)
  rw [counted_append fun c hc => (mem_render hps c hc).1, hs] at hjunk
  have hsplit : counted t ++ (UrlPath.segments ps).render = (name ++ [':']) ++ (rest' ++ junk) := by
    rw [hjunk]
    simp
  -- the colon stands in front of the first slash, so it is one of the text
  have hcut : ∃ rest, counted t = (name ++ [':']) ++ rest ∧
      rest' ++ junk = rest ++ (UrlPath.segments ps).render := by
    obtain ⟨more, hmore, hrender⟩ | hcut := List.append_eq_append_iff.1 hsplit
    · cases more with
      | nil => exact ⟨[], by rw [hmore, List.append_nil, List.append_nil], hrender.symm⟩
      | cons c more =>
        have hc : c = '/' := head?_render ps c (by rw [hrender]; rfl)
        have hmem : c ∈ name ++ [':'] := hmore ▸ by simp
        exfalso
        rcases List.mem_append.1 hmem with hmem | hmem
        · exact absurd (hname.chars c hmem) (by rw [hc]; decide)
        · exact absurd (List.mem_singleton.1 hmem) (by rw [hc]; decide)
    · exact hcut
  obtain ⟨rest, hcounted, hrest⟩ := hcut
  refine ⟨name, rest, rest', junk, ⟨?_, hname, hu ▸ hkind⟩, hu, hs, hrest.symm, hmargin⟩
  rw [hcounted, List.append_assoc, List.singleton_append]

/-- A text that is read as a URL of a server, perhaps with slashes behind it. -/
structure IsRead (text name rest : List Char) (u : Url) : Prop extends Cut text name rest where
  scheme : u.scheme = name.map lower
  /-- Behind a sign the slashes change neither the server nor the path. -/
  hidden : ∀ c ∈ rest, isSign c = true → ∃ server behind,
    serverOf .server (name.map lower) (authorityOf (bodyOf rest)) = .ok (server, behind) ∧
      u.server = some server ∧ u.path = pathOf .server (pathTextOf (bodyOf rest))
  /-- The server stands in the text. -/
  shown : authorityOf rest ≠ []

theorem exists_isRead {u : Url} (h : ofChars (t ++ (UrlPath.segments ps).render) = .ok u)
    (hps : ∀ p ∈ ps, p = []) (hkind : kindOf u.scheme = .server) :
    ∃ name rest, IsRead t name rest u := by
  have hplain : ∀ p ∈ ps, IsPlainName p := fun p hp => hps p hp ▸ IsPlainName.nil
  have hslashes : ∀ c ∈ (UrlPath.segments ps).render, c = '/' := by
    intro c hc
    obtain ⟨p, hp, hc⟩ := List.mem_flatMap.1 hc
    rwa [hps p hp, List.mem_singleton] at hc
  obtain ⟨name, rest, rest', junk, hcut, hscheme, hs, hrest, hjunk⟩ := exists_cut h hplain hkind
  rw [ofChars_of_significant hs hcut.isName hcut.kind] at h
  obtain ⟨⟨server, behind⟩, hserver, rfl⟩ := map_eq_ok_iff.1 h
  refine ⟨name, rest, hcut, rfl, fun c hc hsign => ?_, fun hnil => ?_⟩
  -- a sign always counts, so the body ends at the same one
  · have hmem : c ∈ rest' := by
      have hboth : c ∈ rest' ++ junk := hrest ▸ List.mem_append_left _ hc
      exact (List.mem_append.1 hboth).resolve_right fun hmem =>
        absurd (hjunk c hmem) (by simp [isMargin_of_isSign hsign])
    have hbody : bodyOf rest' = bodyOf rest := by
      rw [← bodyOf_of_mem hmem hsign junk, ← hrest, bodyOf_of_mem hc hsign]
    exact ⟨server, behind, hbody ▸ hserver, rfl, by rw [hbody]⟩
  -- only separators would stand where the server is read
  · have hall : ∀ c ∈ bodyOf rest', isSeparator .server c = true := by
      intro c hc
      have hmem : c ∈ rest ++ (UrlPath.segments ps).render :=
        hrest ▸ List.mem_append_left _ ((List.takeWhile_sublist _).subset hc)
      rcases List.mem_append.1 hmem with hmem | hmem
      · exact authorityOf_eq_nil_iff.1 hnil c hmem
      · rw [hslashes c hmem]
        decide
    rw [authorityOf_eq_nil_iff.2 hall, serverOf_nil] at hserver
    cases hserver

theorem Cut.mem_iff (hcut : Cut t name rest) {c : Char} (hc : isSign c = true) :
    c ∈ rest ↔ c ∈ t := by
  have hname : c ∉ name := fun hmem =>
    absurd (hcut.isName.chars c hmem) (by simp [isSchemeChar_of_isSign hc])
  have hcolon : c ≠ ':' := by
    rintro rfl
    exact absurd hc (by decide)
  have hcounted : c ∈ t ↔ c ∈ name ++ ':' :: rest :=
    hcut.counted_eq ▸ (mem_counted_iff (isMargin_of_isSign hc)).symm
  rw [hcounted]
  simp [hname, hcolon]

/-- Segments behind a text with a sign vanish in the query or the fragment. -/
theorem IsRead.ofChars_of_sign {u : Url} (hread : IsRead t name rest u) {c : Char} (hmem : c ∈ rest)
    (hc : isSign c = true) (h : AreNames ps) :
    ∃ query fragment, ofChars (t ++ (UrlPath.segments ps).render) =
      .ok { u with query := query, fragment := fragment } ∧ ¬(query = none ∧ fragment = none) := by
  obtain ⟨server, behind, hserver, hu, hpath⟩ := hread.hidden c hmem hc
  refine ⟨queryOf (rest ++ (UrlPath.segments ps).render),
    fragmentOf (rest ++ (UrlPath.segments ps).render), ?_, fun hnone => ?_⟩
  · rw [hread.ofChars_hidden hmem hc h, hserver, hread.scheme, hu, hpath]
    rfl
  · have := queryOf_fragmentOf_eq_none_iff.1 hnone c (List.mem_append_left _ hmem)
    simp [hc] at this

end

end ClarityCheck.Url
