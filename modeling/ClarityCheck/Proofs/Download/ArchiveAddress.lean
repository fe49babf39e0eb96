import ClarityCheck.Proofs.Url.AppendedSegments
import ClarityCheck.Release

/-!
# Archives below their base

The address of an archive is written behind the text of the base, so what the base is as a URL
decides where the archive is found. Bases that are folders have all their archives below them, and
every other base has none there. Slashes at the end of the base and letters v in front of the
version never matter.

* `IsRead.follows_of_follows`: below a base either everything is found that stands behind it or
  nothing
* `IsRead.follows_of_endsInName`: bases below which everything is found by their looks
* `IsOffered.areNames`: the version and the file name stand in the path as they are
* `archives_below_base`: the archives of any base
-/

namespace ClarityCheck

open Settings (map_eq_ok_iff mapError_eq_ok_iff)

namespace Url

/-! ## Below a URL -/

variable {t name rest : List Char} {ps : List (List Char)} {u : Url}

/-- Segments behind a text are found below a URL: on its server, behind its path without slashes at
the end, with nothing behind them. -/
def Follows (u : Url) (text : List Char) (ps : List (List Char)) : Prop :=
  ∃ path, ofChars (text ++ (UrlPath.segments ps).render) =
    .ok ⟨u.scheme, u.server, path, none, none⟩ ∧
    path.render = u.path.render.rdropWhile (· = '/') ++ (UrlPath.segments ps).render

theorem render_append (ps qs : List (List Char)) : (UrlPath.segments (ps ++ qs)).render =
    (UrlPath.segments ps).render ++ (UrlPath.segments qs).render := List.flatMap_append

theorem IsRead.isSign_of_follows (hread : IsRead t name rest u) (h : AreNames ps)
    (hfollows : Follows u t ps) : ∀ c ∈ rest, isSign c = false := by
  intro c hmem
  rw [← Bool.not_eq_true]
  intro hc
  obtain ⟨path, hpath, -⟩ := hfollows
  obtain ⟨query, fragment, hu, hnone⟩ := hread.ofChars_of_sign hmem hc h
  rw [hpath] at hu
  cases hu
  exact hnone ⟨rfl, rfl⟩

/-- Whether segments behind a text without a sign are found below its URL does not depend on them.
-/
theorem IsRead.follows_iff (hread : IsRead t name rest u) (hrest : ∀ c ∈ rest, isSign c = false)
    (h : AreNames ps) :
    Follows u t ps ↔ (∃ server behind,
      serverOf .server (name.map lower) (authorityOf rest) = .ok (server, behind) ∧
        u.server = some server) ∧
      (UrlPath.segments (directoryOf (pathTextOf rest))).render =
        u.path.render.rdropWhile (· = '/') := by
  have hpath := hread.ofChars_extended hrest hread.shown h
  rw [Follows, hpath, ← hread.scheme]
  cases hserver : serverOf .server u.scheme (authorityOf rest) with
  | error e => simp [Except.map]
  | ok r =>
    obtain ⟨server, behind⟩ := r
    simp [Except.map, render_append, eq_comm]

/-- Below a URL either everything that stands behind its text is found or nothing. -/
theorem IsRead.follows_of_follows (hread : IsRead t name rest u) (h : AreNames ps)
    (hfollows : Follows u t ps) {qs : List (List Char)} (hq : AreNames qs) : Follows u t qs := by
  have hrest := hread.isSign_of_follows h hfollows
  exact (hread.follows_iff hrest hq).2 ((hread.follows_iff hrest h).1 hfollows)

/-- Segments are found below a URL when that of the text with them is on its server and has its path
with them behind it. -/
theorem IsRead.follows_of_path (hread : IsRead t name rest u) (h : AreNames ps) {c : Char}
    (hmem : c ∈ (UrlPath.segments ps).render) (hc : c ≠ '/') {v : Url}
    (hv : ofChars (t ++ (UrlPath.segments ps).render) = .ok v) (hscheme : v.scheme = u.scheme)
    (hserver : v.server = u.server)
    (hpath : v.path.render = u.path.render.rdropWhile (· = '/') ++ (UrlPath.segments ps).render) :
    Follows u t ps := by
  have hrest : ∀ d ∈ rest, isSign d = false := by
    intro d hd
    rw [← Bool.not_eq_true]
    intro hsign
    obtain ⟨query, fragment, hhidden, -⟩ := hread.ofChars_of_sign hd hsign h
    rw [hv] at hhidden
    cases hhidden
    -- the path would end in the segments and in slashes alone
    have hslashes : (UrlPath.segments ps).render = u.path.render.rtakeWhile (· = '/') :=
      List.append_cancel_left (hpath.symm.trans List.rdropWhile_append_rtakeWhile.symm)
    have hslash := List.mem_rtakeWhile_imp (hslashes ▸ hmem)
    exact hc (of_decide_eq_true hslash)
  have hparts := hread.ofChars_extended hrest hread.shown h
  obtain ⟨r, -, rfl⟩ := map_eq_ok_iff.1 (hparts ▸ hv)
  exact ⟨_, hscheme ▸ hserver ▸ hv, hpath⟩

theorem exists_append_pathTextOf (body : List Char) : ∃ front, body = front ++ pathTextOf body := by
  refine ⟨body.takeWhile (isSeparator .server) ++ authorityOf body, ?_⟩
  rw [List.append_assoc, authorityOf, pathTextOf, List.takeWhile_append_dropWhile,
    List.takeWhile_append_dropWhile]

theorem Cut.isSign_of_not_mem (hcut : Cut t name rest) (hquery : '?' ∉ t) (hfragment : '#' ∉ t) :
    ∀ c ∈ rest, isSign c = false := by
  intro c hc
  rw [← Bool.not_eq_true]
  intro hsign
  have hmem : c ∈ t := (hcut.mem_iff hsign).1 hc
  simp only [isSign, Bool.or_eq_true, decide_eq_true_eq] at hsign
  obtain rfl | rfl := hsign
  · exact hfragment hmem
  · exact hquery hmem

/-- Segments behind a text without a sign that ends in a name are found below its URL, whether or
not slashes stand between them. -/
theorem IsRead.follows_of_endsInName (hread : IsRead t name rest u)
    (hrest : ∀ c ∈ rest, isSign c = false) (hends : EndsInName (counted t)) {qs : List (List Char)}
    (hqs : ∀ q ∈ qs, q = []) (hlast : qs = [] → ∀ c ∈ t.getLast?, isMargin c = false)
    (hu : ofChars (t ++ (UrlPath.segments qs).render) = .ok u) (h : AreNames ps) :
    Follows u t ps := by
  have hplain : ∀ q ∈ qs, IsPlainName q := fun q hq => hqs q hq ▸ IsPlainName.nil
  have hname : ∀ s ∈ (pathTextOf rest).tail?, EndsInName s := by
    intro s hs
    obtain ⟨c, hpath⟩ : ∃ c, pathTextOf rest = c :: s := by
      cases hpath : pathTextOf rest with
      | nil =>
        rw [hpath] at hs
        cases hs
      | cons c s' =>
        rw [hpath] at hs
        cases hs
        exact ⟨c, rfl⟩
    have hc : isSeparator .server c = true := isSeparator_of_mem_head? rest c (by rw [hpath]; rfl)
    obtain ⟨front, hfront⟩ := exists_append_pathTextOf rest
    have hcounted : counted t = (name ++ ':' :: front) ++ c :: s := by
      rw [hread.counted_eq]
      conv_lhs => rw [hfront, hpath]
      simp
    have hsame : (counted t).rtakeWhile (fun c => !isSeparator .server c) =
        s.rtakeWhile (fun c => !isSeparator .server c) := by
      rw [hcounted, rtakeWhile_append_cons (by simp [hc])]
    exact ⟨hsame ▸ hends.ne_nil, hsame ▸ hends.single, hsame ▸ hends.double⟩
  rw [hread.ofChars_shown hrest hread.shown hplain hlast] at hu
  obtain ⟨⟨server, behind⟩, hserver, rfl⟩ := map_eq_ok_iff.1 hu
  exact (hread.follows_iff hrest h).2 ⟨⟨server, behind, hserver, rfl⟩,
    (rdropWhile_render_pathOf (isSeparator_of_mem_head? rest) hname hqs).symm⟩

/-- What stands behind a text is on the server of its URL when all of the text counts there. -/
theorem IsRead.exists_server (hread : IsRead t name rest u) {qs : List (List Char)}
    (hqs : ∀ q ∈ qs, q = []) (hlast : qs = [] → ∀ c ∈ t.getLast?, isMargin c = false)
    (hu : ofChars (t ++ (UrlPath.segments qs).render) = .ok u) (h : AreNames ps) :
    ∃ v, ofChars (t ++ (UrlPath.segments ps).render) = .ok v ∧ v.scheme = u.scheme ∧
      v.server = u.server := by
  by_cases hsign : ∃ c ∈ rest, isSign c = true
  · obtain ⟨c, hmem, hc⟩ := hsign
    obtain ⟨query, fragment, hv, -⟩ := hread.ofChars_of_sign hmem hc h
    exact ⟨_, hv, rfl, rfl⟩
  · have hrest : ∀ c ∈ rest, isSign c = false := fun c hc =>
      Bool.not_eq_true _ ▸ fun hsigned => hsign ⟨c, hc, hsigned⟩
    have hplain : ∀ q ∈ qs, IsPlainName q := fun q hq => hqs q hq ▸ IsPlainName.nil
    rw [hread.ofChars_shown hrest hread.shown hplain hlast] at hu
    obtain ⟨r, hserver, rfl⟩ := map_eq_ok_iff.1 hu
    rw [hread.ofChars_extended hrest hread.shown h, hserver]
    exact ⟨_, rfl, rfl, rfl⟩

/-- Different segments behind a text without a sign give different paths. -/
theorem IsRead.render_eq_of_path (hread : IsRead t name rest u)
    (hrest : ∀ c ∈ rest, isSign c = false) {qs : List (List Char)} (h : AreNames ps)
    (hq : AreNames qs) {v w : Url} (hv : ofChars (t ++ (UrlPath.segments ps).render) = .ok v)
    (hw : ofChars (t ++ (UrlPath.segments qs).render) = .ok w)
    (hpath : v.path.render = w.path.render) :
    (UrlPath.segments ps).render = (UrlPath.segments qs).render := by
  rw [hread.ofChars_extended hrest hread.shown h] at hv
  rw [hread.ofChars_extended hrest hread.shown hq] at hw
  obtain ⟨r, -, rfl⟩ := map_eq_ok_iff.1 hv
  obtain ⟨r, -, rfl⟩ := map_eq_ok_iff.1 hw
  rw [render_append, render_append] at hpath
  exact List.append_cancel_left hpath

theorem render_replicate (k : Nat) :
    (UrlPath.segments (List.replicate k [])).render = List.replicate k '/' := by
  induction k with
  | zero => rfl
  | succ k ih =>
    rw [List.replicate_succ, List.replicate_succ, ← ih, UrlPath.render, List.flatMap_cons,
      UrlPath.render, List.singleton_append]

end Url

namespace Release

open Url

/-! ## Bases -/

/-- The text of a base without slashes at its end. -/
def folderText (base : String) : List Char := base.toList.rdropWhile (· = '/')

theorem exists_slashes (base : String) :
    ∃ k, base.toList = folderText base ++ (UrlPath.segments (List.replicate k [])).render := by
  refine ⟨(base.toList.rtakeWhile (· = '/')).length, ?_⟩
  have hslashes : base.toList.rtakeWhile (· = '/') =
      List.replicate (base.toList.rtakeWhile (· = '/')).length '/' :=
    List.eq_replicate_of_mem fun c hc => by simpa using List.mem_rtakeWhile_imp hc
  rw [render_replicate, ← hslashes, folderText, List.rdropWhile_append_rtakeWhile]

/-- A base below which archives are found: with one slash behind it instead of those at its end, it
is a URL of the same server with the same path up to slashes at the end, and nothing stands behind
the path. -/
def IsFolder (base : String) (u : Url) : Prop :=
  ∃ path, Url.ofChars (folderText base ++ ['/']) = .ok ⟨u.scheme, u.server, path, none, none⟩ ∧
    path.render = u.path.render.rdropWhile (· = '/') ++ ['/']

theorem counts_at_end {base : String} (h : base.toList.getLast?.any isMargin = false) :
    ∀ c ∈ base.toList.getLast?, isMargin c = false := by
  intro c hc
  rwa [Option.mem_def.1 hc] at h

/-- A base that looks like a folder: nothing in it starts a query or a fragment, its end counts, and
without slashes there it ends in a name. -/
structure LooksLikeFolder (base : String) : Prop where
  query : '?' ∉ base.toList
  fragment : '#' ∉ base.toList
  last : ∀ c ∈ base.toList.getLast?, isMargin c = false
  name : EndsInName (counted (folderText base))

/-! ## Archives -/

/-- A character of a version. -/
def isVersionChar (c : Char) : Bool := isLetter c || c.isDigit || c == '.' || c == '-' || c == '+'

/-- A version and a target that an archive may be published for. -/
structure IsOffered (version target : String) : Prop where
  version : ∀ c ∈ version.toList, isVersionChar c = true
  target : ∃ system architecture, Host.releaseTarget? system architecture = some target

/-- The path of an archive below its base. -/
def archivePath (version target : String) : List Char :=
  "/v".toList ++ version.toList.dropWhile (· = 'v') ++ "/clarinet-".toList ++ target.toList ++
    ".tar.gz".toList

/-- The segments that the address of an archive has behind its base. -/
def archiveSegments (version target : String) : List (List Char) :=
  ['v' :: version.toList.dropWhile (· = 'v'), (archiveName target).toList]

theorem render_archiveSegments (version target : String) :
    (UrlPath.segments (archiveSegments version target)).render = archivePath version target := by
  simp [UrlPath.render, archiveSegments, archivePath, archiveName]

theorem archiveUrl_eq_ok_iff {base version target : String} {u : Url} :
    archiveUrl ⟨base, version⟩ target = .ok u ↔
      Url.ofChars (folderText base ++ (UrlPath.segments (archiveSegments version target)).render) =
        .ok u := by
  have haddress : address ⟨base, version⟩ target =
      folderText base ++ (UrlPath.segments (archiveSegments version target)).render := by
    simp [address, UrlPath.render, archiveSegments]
    rfl
  rw [archiveUrl, haddress, mapError_eq_ok_iff]

theorem lt_of_isVersionChar {c : Char} (h : isVersionChar c = true) : c.toNat < 128 := by
  simp only [isVersionChar, isLetter, Char.isDigit, Bool.or_eq_true, Bool.and_eq_true,
    decide_eq_true_eq, beq_iff_eq] at h
  obtain ((((h | h) | h) | rfl) | rfl) | rfl := h
  · exact Nat.lt_of_le_of_lt h.2 (by decide)
  · exact Nat.lt_of_le_of_lt h.2 (by decide)
  · exact Nat.lt_of_le_of_lt h.2 (by decide)
  all_goals decide

theorem plain_of_isVersionChar : ∀ n < 128, isVersionChar (Char.ofNat n) = true →
    Percent.path (Char.ofNat n) = false ∧ isSeparator .server (Char.ofNat n) = false := by
  decide

/-- Characters of a version are a segment as they stand, unless they may begin a dot segment. -/
theorem isPlainName_cons {c : Char} {s : List Char} (hc : lower c ≠ '.' ∧ lower c ≠ '%')
    (h : ∀ d ∈ c :: s, isVersionChar d = true) : IsPlainName (c :: s) := by
  refine ⟨fun d hd => ?_, ?_, ?_⟩
  · have hplain := plain_of_isVersionChar d.toNat (lt_of_isVersionChar (h d hd))
    rw [Char.ofNat_toNat] at hplain
    exact hplain (h d hd)
  · simp [isSingleDot, hc]
  · simp [isDoubleDot, hc]

theorem isVersionChar_of_target {target : String}
    (h : ∃ system architecture, Host.releaseTarget? system architecture = some target) :
    ∀ c ∈ target.toList, isVersionChar c = true := by
  obtain ⟨system, architecture, h⟩ := h
  unfold Host.releaseTarget? at h
  split at h <;> cases h <;> exact List.all_eq_true.1 (by decide)

theorem IsOffered.areNames {version target : String} (h : IsOffered version target) :
    AreNames (archiveSegments version target) := by
  refine ⟨List.cons_ne_nil _ _, fun p hp => ?_⟩
  simp only [archiveSegments, List.mem_cons, List.not_mem_nil, or_false] at hp
  obtain rfl | rfl := hp
  · refine isPlainName_cons (by decide) fun c hc => ?_
    rcases List.mem_cons.1 hc with rfl | hc
    · decide
    · exact h.version c ((List.dropWhile_sublist _).subset hc)
  · have hname : (archiveName target).toList =
        'c' :: ("larinet-".toList ++ target.toList ++ ".tar.gz".toList) := by simp [archiveName]
    rw [hname]
    have hfront : ∀ c ∈ 'c' :: "larinet-".toList, isVersionChar c = true :=
      List.all_eq_true.1 (by decide)
    have hback : ∀ c ∈ ".tar.gz".toList, isVersionChar c = true :=
      List.all_eq_true.1 (by decide)
    refine isPlainName_cons (by decide) fun c hc => ?_
    rw [List.append_assoc, ← List.cons_append, List.mem_append, List.mem_append] at hc
    obtain hc | hc | hc := hc
    · exact hfront c hc
    · exact isVersionChar_of_target h.target c hc
    · exact hback c hc

theorem archivePath_injective {version₁ version₂ target₁ target₂ : String}
    (h₁ : IsOffered version₁ target₁) (h₂ : IsOffered version₂ target₂)
    (h : archivePath version₁ target₁ = archivePath version₂ target₂) :
    version₁.toList.dropWhile (· = 'v') = version₂.toList.dropWhile (· = 'v') ∧
    target₁ = target₂ := by
  have hslash {version target : String} (h : IsOffered version target) :
      '/' ∉ version.toList.dropWhile (· = 'v') := fun hmem =>
    absurd (h.version _ ((List.dropWhile_sublist _).subset hmem)) (by decide)
  have hcut : version₁.toList.dropWhile (· = 'v') ++ '/' :: (archiveName target₁).toList =
      version₂.toList.dropWhile (· = 'v') ++ '/' :: (archiveName target₂).toList := by
    simpa [archivePath, archiveName] using h
  have hpieces := congrArg (Text.splitOn '/') hcut
  rw [Text.splitOn_append_cons (hslash h₁), Text.splitOn_append_cons (hslash h₂), List.cons.injEq]
    at hpieces
  rw [hpieces.1] at hcut
  refine ⟨hpieces.1, String.toList_inj.1 ?_⟩
  simpa [archiveName] using List.append_cancel_left hcut

/-- Where the archives of a base are found that is a URL. -/
structure ArchivesOf (base : String) (u : Url) : Prop where
  /-- All archives of a folder are below it. -/
  found : IsFolder base u → ∀ version target, IsOffered version target →
    ∃ path, archiveUrl ⟨base, version⟩ target = .ok ⟨u.scheme, u.server, path, none, none⟩ ∧
      path.render = u.path.render.rdropWhile (· = '/') ++ archivePath version target
  /-- No archive of any other base is there. -/
  missed : ¬IsFolder base u → ∀ version target, IsOffered version target →
    ∀ v, archiveUrl ⟨base, version⟩ target = .ok v → v.scheme = u.scheme → v.server = u.server →
      v.path.render ≠ u.path.render.rdropWhile (· = '/') ++ archivePath version target
  /-- A base without signs that ends in a name is a folder. -/
  folder : LooksLikeFolder base → IsFolder base u
  /-- Archives are on the server of the base, unless what the base ends in counts only with more
  behind it. -/
  server : (∀ c ∈ base.toList.getLast?, isMargin c = false) → ∀ version target,
    IsOffered version target →
    ∃ v, archiveUrl ⟨base, version⟩ target = .ok v ∧ v.scheme = u.scheme ∧ v.server = u.server
  /-- Without signs in the base no two archives have one path. -/
  distinct : '?' ∉ base.toList → '#' ∉ base.toList → ∀ version₁ target₁ version₂ target₂,
    IsOffered version₁ target₁ → IsOffered version₂ target₂ →
      ∀ v₁ v₂, archiveUrl ⟨base, version₁⟩ target₁ = .ok v₁ →
        archiveUrl ⟨base, version₂⟩ target₂ = .ok v₂ →
        v₁.path.render = v₂.path.render →
          version₁.toList.dropWhile (· = 'v') = version₂.toList.dropWhile (· = 'v') ∧
            target₁ = target₂

theorem address_append (base version target : String) (j k : Nat) :
    address ⟨base ++ String.ofList (List.replicate j '/'),
        String.ofList (List.replicate k 'v') ++ version⟩ target =
      address ⟨base, version⟩ target := by
  have hbase : trimmedBase ⟨base ++ String.ofList (List.replicate j '/'),
      String.ofList (List.replicate k 'v') ++ version⟩ = trimmedBase ⟨base, version⟩ := by
    simp [trimmedBase]
  have hversion : trimmedVersion ⟨base ++ String.ofList (List.replicate j '/'),
      String.ofList (List.replicate k 'v') ++ version⟩ = trimmedVersion ⟨base, version⟩ := by
    simp [trimmedVersion]
  rw [address, address, hbase, hversion]

theorem isFolder_iff {base : String} {u : Url} :
    IsFolder base u ↔ Follows u (folderText base) [[]] := Iff.rfl

theorem follows_archiveSegments_iff {base version target : String} {u : Url} :
    Follows u (folderText base) (archiveSegments version target) ↔
      ∃ path, archiveUrl ⟨base, version⟩ target = .ok ⟨u.scheme, u.server, path, none, none⟩ ∧
        path.render = u.path.render.rdropWhile (· = '/') ++ archivePath version target := by
  simp only [Follows, archiveUrl_eq_ok_iff, render_archiveSegments]

theorem archivesOf {base : String} {u : Url} (hu : Url.ofChars base.toList = .ok u)
    (hscheme : u.scheme = "http".toList ∨ u.scheme = "https".toList) : ArchivesOf base u := by
  obtain ⟨k, hbase⟩ := exists_slashes base
  have hslashes : ∀ p ∈ List.replicate k ([] : List Char), p = [] :=
    fun p => List.eq_of_mem_replicate
  have hkind : kindOf u.scheme = .server := by
    obtain h | h := hscheme <;> rw [h] <;> decide
  rw [hbase] at hu
  obtain ⟨name, rest, hread⟩ := exists_isRead hu hslashes hkind
  have hnil : AreNames [([] : List Char)] :=
    ⟨List.cons_ne_nil _ _, fun _ hp => List.mem_singleton.1 hp ▸ IsPlainName.nil⟩
  have htext : folderText base ⊆ base.toList := (List.rdropWhile_prefix _ _).subset
  have hend (hlast : ∀ c ∈ base.toList.getLast?, isMargin c = false) :
      List.replicate k ([] : List Char) = [] → ∀ c ∈ (folderText base).getLast?,
          isMargin c = false := by
    intro hk c hc
    rw [hk] at hbase
    exact hlast c (by rw [hbase]; simpa [UrlPath.render] using hc)
  -- All that the archives of a base depend on is what can follow the part of it that is read.
  refine ⟨?found, ?missed, ?folder, ?server, ?distinct⟩
  case found =>
    intro hfolder version target hoffered
    exact follows_archiveSegments_iff.1
      (hread.follows_of_follows hnil (isFolder_iff.1 hfolder) hoffered.areNames)
  case missed =>
    intro hfolder version target hoffered v hv hvscheme hvserver hvpath
    have hmem : 'v' ∈ (UrlPath.segments (archiveSegments version target)).render := by
      simp [UrlPath.render, archiveSegments]
    rw [← render_archiveSegments] at hvpath
    have hfollows :=
      hread.follows_of_path hoffered.areNames hmem (by decide) (archiveUrl_eq_ok_iff.1 hv)
      hvscheme hvserver hvpath
    exact hfolder (isFolder_iff.2 (hread.follows_of_follows hoffered.areNames hfollows hnil))
  case folder =>
    intro hlooks
    have hrest := hread.isSign_of_not_mem (fun hc => hlooks.query (htext hc)) fun hc =>
      hlooks.fragment (htext hc)
    exact isFolder_iff.2
      (hread.follows_of_endsInName hrest hlooks.name hslashes (hend hlooks.last) hu hnil)
  case server =>
    intro hlast version target hoffered
    obtain ⟨v, hv, hparts⟩ := hread.exists_server hslashes (hend hlast) hu hoffered.areNames
    exact ⟨v, archiveUrl_eq_ok_iff.2 hv, hparts⟩
  case distinct =>
    intro hquery hfragment version₁ target₁ version₂ target₂ h₁ h₂ v₁ v₂ hv₁ hv₂ hpath
    have hrest :=
      hread.isSign_of_not_mem (fun hc => hquery (htext hc)) (fun hc => hfragment (htext hc))
    have hrender :=
      hread.render_eq_of_path hrest h₁.areNames h₂.areNames (archiveUrl_eq_ok_iff.1 hv₁)
      (archiveUrl_eq_ok_iff.1 hv₂) hpath
    rw [render_archiveSegments, render_archiveSegments] at hrender
    exact archivePath_injective h₁ h₂ hrender

/-- Slashes at the end of a base and letters v in front of a version never matter. Where the
archives of a base are found depends on whether it is a folder. -/
theorem archives_below_base (base : String) :
    (∀ version target j k,
      archiveUrl ⟨base ++ String.ofList (List.replicate j '/'),
        String.ofList (List.replicate k 'v') ++ version⟩ target =
          archiveUrl ⟨base, version⟩ target) ∧
    ∀ u, Url.ofChars base.toList = .ok u → u.scheme = "http".toList ∨ u.scheme = "https".toList →
      ArchivesOf base u := by
  refine ⟨fun version target j k => ?_, fun u hu hscheme => archivesOf hu hscheme⟩
  rw [archiveUrl, archiveUrl, address_append]

/-- The URL of the server at `https://[::1]:8443/dl` with some path and some query. -/
def localUrl (segments : List (List Char)) (query : Option (List Char)) : Url :=
  ⟨"https".toList, some ⟨none, some (.ipv6 [0, 0, 0, 0, 0, 0, 0, 1]), some 8443⟩,
    .segments segments, query, none⟩

theorem isOffered_macos : IsOffered "v2.1.0" "macos-arm64" :=
  ⟨List.all_eq_true.1 (by decide), "macos", "aarch64", rfl⟩

theorem isOffered_linux : IsOffered "2.0.0" "linux-x64-glibc" :=
  ⟨List.all_eq_true.1 (by decide), "linux", "x86_64", rfl⟩

theorem looksLikeFolder_local : LooksLikeFolder "https://[::1]:8443/dl//" :=
  ⟨by decide, by decide, counts_at_end (by decide), ⟨by decide, by decide, by decide⟩⟩

theorem not_isFolder_of_query : ¬IsFolder "https://[::1]:8443/dl?mirror=eu"
    (localUrl ["dl".toList] (some "mirror=eu".toList)) := by
  rintro ⟨path, hpath, -⟩
  have hread : Url.ofChars (folderText "https://[::1]:8443/dl?mirror=eu" ++ ['/']) =
      .ok (localUrl ["dl".toList] (some "mirror=eu/".toList)) := by decide +kernel
  rw [hread] at hpath
  cases hpath

/-- A base with slashes at its end is a folder, and one with a query is none. -/
theorem archives_below_local :
    (∃ path, archiveUrl ⟨"https://[::1]:8443/dl//", "v2.1.0"⟩ "macos-arm64" =
        .ok ⟨"https".toList, (localUrl [] none).server, path, none, none⟩ ∧
      path.render = "/dl/v2.1.0/clarinet-macos-arm64.tar.gz".toList) ∧
    archiveUrl ⟨"https://[::1]:8443/dl//", "v2.1.0"⟩ "macos-arm64" ≠
      archiveUrl ⟨"https://[::1]:8443/dl//", "2.0.0"⟩ "linux-x64-glibc" ∧
    ∃ v, archiveUrl ⟨"https://[::1]:8443/dl?mirror=eu", "2.0.0"⟩ "linux-x64-glibc" = .ok v ∧
      v.server = (localUrl [] none).server ∧
      v.path.render ≠ "/dl/v2.0.0/clarinet-linux-x64-glibc.tar.gz".toList := by
  have hfolder :=
    (archives_below_base "https://[::1]:8443/dl//").2 (localUrl ["dl".toList, [], []] none)
    (by decide +kernel) (.inr rfl)
  have hquery := (archives_below_base "https://[::1]:8443/dl?mirror=eu").2
    (localUrl ["dl".toList] (some "mirror=eu".toList)) (by decide +kernel) (.inr rfl)
  obtain ⟨path, hpath, hrender⟩ :=
    hfolder.found (hfolder.folder looksLikeFolder_local) _ _ isOffered_macos
  obtain ⟨v, hv, hscheme, hserver⟩ := hquery.server (counts_at_end (by decide)) _ _ isOffered_linux
  have hmissed := hquery.missed not_isFolder_of_query _ _ isOffered_linux v hv hscheme hserver
  have hfound : (localUrl ["dl".toList, [], []] none).path.render.rdropWhile (· = '/') ++
      archivePath "v2.1.0" "macos-arm64" = "/dl/v2.1.0/clarinet-macos-arm64.tar.gz".toList := by
    decide +kernel
  have hwanted :
      (localUrl ["dl".toList] (some "mirror=eu".toList)).path.render.rdropWhile (· = '/') ++
        archivePath "2.0.0" "linux-x64-glibc" =
          "/dl/v2.0.0/clarinet-linux-x64-glibc.tar.gz".toList := by
    decide +kernel
  refine ⟨⟨path, hpath, hfound ▸ hrender⟩, fun hsame => ?_, v, hv, hserver, hwanted ▸ hmissed⟩
  have htargets :=
    hfolder.distinct (by decide) (by decide) _ _ _ _ isOffered_macos isOffered_linux _ _ hpath
    (hsame ▸ hpath) rfl
  exact absurd htargets.2 (by decide)

/-- With a query in the base the archive is asked for at the path of the base. -/
theorem archive_hidden_by_query :
    ∃ u v, Url.ofChars "https://[::1]:8443/dl?mirror=eu".toList = .ok u ∧
    u.scheme = "https".toList ∧
      IsOffered "2.0.0" "linux-x64-glibc" ∧
      archiveUrl ⟨"https://[::1]:8443/dl?mirror=eu", "2.0.0"⟩ "linux-x64-glibc" = .ok v ∧
      v.path.render ≠ u.path.render.rdropWhile (· = '/') ++ archivePath "2.0.0" "linux-x64-glibc" :=
  ⟨localUrl ["dl".toList] (some "mirror=eu".toList),
    localUrl ["dl".toList] (some "mirror=eu/v2.0.0/clarinet-linux-x64-glibc.tar.gz".toList),
    by decide +kernel, rfl, isOffered_linux, by decide +kernel, by decide +kernel⟩

end Release

end ClarityCheck
