import ClarityCheck.Proofs.Files.StandingDirectory
import Mathlib

/-!
# Fronts of paths

A path with parts is a front, the name that it ends in, and perhaps slashes and dots that change
nothing. The parent of the path has the names of the front, and the path with another extension has
the same front.

* `exists_endsIn`: paths with parts have a front
* `Standing.parent`: the parent of a path that stands stands
* `entry_of_locate`: where a path with a front leads
* `hasDirectory_of_nameless`: a path that ends in no name leads to a directory, or nowhere
-/

namespace ClarityCheck

namespace Path

variable {p q : Path} {front : Bytes} {name : FileName}

/-! ## Slashes and dots at the end -/

theorem parts_append (a b : Bytes) : parts ⟨a ++ slash :: b⟩ = parts ⟨a⟩ ++ names ⟨b⟩ := by
  cases h : splitSlashes a with
  | nil => exact absurd h (splitBytes_ne_nil slash a)
  | cons first rest =>
    have hsplit : splitSlashes (a ++ slash :: b) = first :: (rest ++ splitSlashes b) := by
      rw [splitSlashes, splitBytes_append, ← splitSlashes, h]
      rfl
    simp [parts, names, hsplit, h]

theorem names_snoc_slash (a : Bytes) : names ⟨a ++ [slash]⟩ = names ⟨a⟩ := by
  rw [names_append]
  simp [names, splitSlashes, splitBytes]

theorem parts_snoc_slash (a : Bytes) : parts ⟨a ++ [slash]⟩ = parts ⟨a⟩ := by
  rw [parts_append]
  simp [names, splitSlashes, splitBytes]

theorem names_dot : names ⟨dot⟩ = [] := by decide

/-- What is dropped at the end of a path changes neither its parts nor its names. -/
theorem dropTrailingFrom_spec (r : Bytes) :
    parts ⟨(dropTrailingFrom r).reverse⟩ = parts ⟨r.reverse⟩ ∧
      names ⟨(dropTrailingFrom r).reverse⟩ = names ⟨r.reverse⟩ ∧ dropTrailingFrom r <:+ r := by
  induction r with
  | nil => exact ⟨rfl, rfl, List.suffix_rfl⟩
  | cons b r ih =>
    cases r with
    | nil => exact ⟨rfl, rfl, List.suffix_rfl⟩
    | cons c r =>
      rw [dropTrailingFrom]
      split
      · next hb =>
        obtain ⟨hparts, hnames, hback⟩ := ih
        rw [hparts, hnames]
        refine ⟨?_, ?_, hback.trans (List.suffix_cons b _)⟩
        · rcases hb with rfl | ⟨rfl, rfl⟩
          · rw [List.reverse_cons (a := slash), parts_snoc_slash]
          · rw [List.reverse_cons, List.reverse_cons, List.reverse_cons, List.append_assoc,
              parts_snoc_slash]
            change _ = parts ⟨r.reverse ++ slash :: dot⟩
            rw [parts_append, names_dot, List.append_nil]
        · rcases hb with rfl | ⟨rfl, rfl⟩
          · rw [List.reverse_cons (a := slash), names_snoc_slash]
          · rw [List.reverse_cons, List.reverse_cons, List.reverse_cons, List.append_assoc,
              names_snoc_slash]
            change _ = names ⟨r.reverse ++ slash :: dot⟩
            rw [names_append, names_dot, List.append_nil]
      · exact ⟨rfl, rfl, List.suffix_rfl⟩

theorem dropTrailingFrom_tight {r s : Bytes} {b c : UInt8} (h : dropTrailingFrom r = b :: c :: s) :
    b ≠ slash ∧ ¬(b = 0x2E ∧ c = slash) := by
  induction r with
  | nil => cases h
  | cons b' r ih =>
    cases r with
    | nil => cases h
    | cons c' r =>
      rw [dropTrailingFrom] at h
      split at h
      · exact ih h
      · next hb =>
        cases h
        exact not_or.mp hb

theorem parts_dropTrailing (p : Path) : parts ⟨p.dropTrailing⟩ = p.parts := by
  have h := (dropTrailingFrom_spec p.bytes.reverse).1
  rwa [List.reverse_reverse] at h

theorem names_dropTrailing (p : Path) : names ⟨p.dropTrailing⟩ = p.names := by
  have h := (dropTrailingFrom_spec p.bytes.reverse).2.1
  rwa [List.reverse_reverse] at h

theorem dropTrailing_prefix (p : Path) : p.dropTrailing <+: p.bytes := by
  have h := (dropTrailingFrom_spec p.bytes.reverse).2.2
  rwa [← List.reverse_prefix, List.reverse_reverse] at h

/-- What remains ends in no slash and in no dot behind a slash, unless it is a single byte. -/
theorem dropTrailing_tight {a : Bytes} (b : UInt8) (ha : a ≠ []) (h : p.dropTrailing = a ++ [b]) :
    b ≠ slash ∧ ¬(b = 0x2E ∧ a.getLast? = some slash) := by
  have hr : dropTrailingFrom p.bytes.reverse = b :: a.reverse := by
    have := congrArg List.reverse h
    rwa [dropTrailing, List.reverse_reverse, List.reverse_append] at this
  cases har : a.reverse with
  | nil => exact absurd (List.reverse_eq_nil_iff.mp har) ha
  | cons c s =>
    rw [har] at hr
    obtain ⟨h₁, h₂⟩ := dropTrailingFrom_tight hr
    refine ⟨h₁, fun ⟨hb, hlast⟩ => h₂ ⟨hb, ?_⟩⟩
    rw [← List.reverse_reverse a, har, List.reverse_cons, List.getLast?_concat] at hlast
    exact Option.some.inj hlast

/-! ## The name that a path ends in -/

theorem exists_cut (bs : Bytes) : ∃ front last, bs = front ++ last ∧ slash ∉ last ∧
    (front = [] ∨ ∃ a, front = a ++ [slash]) := by
  induction bs with
  | nil => exact ⟨[], [], rfl, by simp, .inl rfl⟩
  | cons b bs ih =>
    obtain ⟨front, last, rfl, hlast, rfl | ⟨a, rfl⟩⟩ := ih
    · by_cases hb : b = slash
      · exact ⟨[b], last, rfl, hlast, .inr ⟨[], by rw [hb]; rfl⟩⟩
      · exact ⟨[], b :: last, rfl, by simp [Ne.symm hb, hlast], .inl rfl⟩
    · exact ⟨b :: (a ++ [slash]), last, rfl, hlast, .inr ⟨b :: a, rfl⟩⟩

/-- A path is a front and the name that it ends in, up to slashes and dots that change nothing. -/
structure EndsIn (p : Path) (front : Bytes) (name : FileName) : Prop where
  eq : p.dropTrailing = front ++ name
  cut : front = [] ∨ ∃ a, front = a ++ [slash]
  ne_nil : name ≠ []
  slash_not_mem : slash ∉ name
  /-- A dot stands for the path as a whole only. -/
  dot : name = dot → front = []

theorem exists_endsIn (h : p.parts.getLast? = some name) : ∃ front, EndsIn p front name := by
  obtain ⟨front, last, heq, hlast, hfront⟩ := exists_cut p.dropTrailing
  rw [← parts_dropTrailing, heq] at h
  rcases hfront with rfl | ⟨a, rfl⟩
  · have hsplit : splitSlashes last = [last] := splitBytes_of_not_mem hlast
    rw [List.nil_append, parts, hsplit] at h
    by_cases hne : last = []
    · simp [hne] at h
    · obtain rfl : last = name := by simpa [hne] using h
      exact ⟨[], heq, .inl rfl, hne, hlast, fun _ => rfl⟩
  · -- Behind a slash the name is neither empty nor a dot, since both would have been dropped.
    have hne : last ≠ [] := by
      rintro rfl
      rw [List.append_nil] at heq h
      by_cases ha : a = []
      · subst ha
        cases h
      · exact (dropTrailing_tight slash ha heq).1 rfl
    have hdot : last ≠ Path.dot := by
      rintro rfl
      refine (dropTrailing_tight (a := a ++ [slash]) 0x2E (by simp) heq).2 ⟨rfl, ?_⟩
      rw [List.getLast?_concat]
    have hnames : names ⟨last⟩ = [last] := by
      rw [names, splitSlashes, splitBytes_of_not_mem hlast]
      simp [hne, hdot]
    rw [List.append_assoc, List.singleton_append, parts_append, hnames, List.getLast?_concat] at h
    obtain rfl := Option.some.inj h
    exact ⟨a ++ [slash], heq, .inr ⟨a, rfl⟩, hne, hlast, fun h => absurd h hdot⟩

theorem isAbsolute_of_prefix {a : Bytes} (ha : a ≠ []) (h : a <+: p.bytes) :
    isAbsolute ⟨a⟩ = p.isAbsolute := by
  obtain ⟨t, ht⟩ := h
  obtain ⟨b, bs, rfl⟩ := List.exists_cons_of_ne_nil ha
  rw [isAbsolute, isAbsolute, ← ht]
  rfl

theorem isAbsolute_of_slash_not_mem (h : slash ∉ name) : isAbsolute ⟨name⟩ = false := by
  cases name with
  | nil => rfl
  | cons b bs =>
    have : b ≠ slash := fun hb => h (by simp [hb])
    simp [isAbsolute, this]

namespace EndsIn

theorem front_prefix (h : EndsIn p front name) : front <+: p.bytes :=
  (List.prefix_append front name).trans (h.eq ▸ p.dropTrailing_prefix)

theorem names (h : EndsIn p front name) :
    p.names = Path.names ⟨front⟩ ++ if name = Path.dot then [] else [name] := by
  have hname : Path.names ⟨name⟩ = if name = Path.dot then [] else [name] := by
    rw [Path.names, splitSlashes, splitBytes_of_not_mem h.slash_not_mem]
    by_cases hd : name = Path.dot <;> simp [hd, h.ne_nil]
  rw [← names_dropTrailing, h.eq, ← hname]
  rcases h.cut with rfl | ⟨a, rfl⟩
  · rfl
  · rw [List.append_assoc, List.singleton_append, names_append, names_snoc_slash]

/-- A path is absolute when its front is. -/
theorem isAbsolute (h : EndsIn p front name) : Path.isAbsolute ⟨front⟩ = p.isAbsolute := by
  by_cases hf : front = []
  · have hname : name <+: p.bytes := by
      have := h.eq ▸ p.dropTrailing_prefix
      rwa [hf] at this
    rw [← isAbsolute_of_prefix h.ne_nil hname, isAbsolute_of_slash_not_mem h.slash_not_mem, hf]
    rfl
  · exact isAbsolute_of_prefix hf h.front_prefix

/-- A front is no longer than the path without the slashes at its end. -/
theorem length_front_le (h : EndsIn p front name) :
    front.length ≤ p.withoutSlashes.bytes.length := by
  obtain ⟨t, ht, hslash⟩ := p.bytes_withoutSlashes
  have hwhole : front ++ name <+: p.withoutSlashes.bytes ++ t := by
    rw [← h.eq, ← ht]
    exact p.dropTrailing_prefix
  rcases List.prefix_or_prefix_of_prefix hwhole (List.prefix_append _ t) with hle | ⟨u, hu⟩
  · have := hle.length_le
    rw [List.length_append] at this
    omega
  · -- Otherwise the name would end in one of the slashes.
    have hut : u <+: t := by
      rw [← hu] at hwhole
      exact (List.prefix_append_right_inj _).mp hwhole
    have hlast : (front ++ name).getLast? = some (name.getLast h.ne_nil) := by
      rw [List.getLast?_append, List.getLast?_eq_getLast_of_ne_nil h.ne_nil]
      rfl
    by_cases hnil : u = []
    · rw [hnil, List.append_nil] at hu
      rw [hu, List.length_append]
      omega
    · rw [← hu, List.getLast?_append, List.getLast?_eq_getLast_of_ne_nil hnil] at hlast
      have hmem : u.getLast hnil = slash := hslash _ (hut.subset (List.getLast_mem hnil))
      rw [hmem] at hlast
      exact absurd (Option.some.inj hlast ▸ List.getLast_mem h.ne_nil) h.slash_not_mem

end EndsIn

/-- The parent of a path is its front without what changes nothing. -/
theorem exists_of_parent? (h : p.parent? = some q) :
    ∃ front name, EndsIn p front name ∧ q = ⟨dropTrailing ⟨front⟩⟩ := by
  unfold parent? at h
  split at h
  · cases h
  · next name hlast =>
    obtain ⟨front, hends⟩ := exists_endsIn hlast
    refine ⟨front, name, hends, ?_⟩
    simp only [hends.eq, List.length_append, Nat.add_sub_cancel, List.take_left'] at h
    exact (Option.some.inj h).symm

/-- The parent of a path is shorter. -/
theorem length_parent?_lt (h : p.parent? = some q) : q.bytes.length < p.bytes.length := by
  obtain ⟨front, name, hends, rfl⟩ := exists_of_parent? h
  calc
    (Path.dropTrailing ⟨front⟩).length ≤ front.length :=
      (Path.dropTrailing_prefix ⟨front⟩).length_le
    _ < (front ++ name).length := by
      rw [List.length_append]
      exact Nat.lt_add_of_pos_right (List.length_pos_of_ne_nil hends.ne_nil)
    _ = p.dropTrailing.length := by rw [hends.eq]
    _ ≤ p.bytes.length := p.dropTrailing_prefix.length_le

/-- A path without parts has no names. -/
theorem names_of_parts_nil (h : p.parts = []) : p.names = [] := by
  unfold parts at h
  unfold names
  cases hs : splitSlashes p.bytes with
  | nil => rfl
  | cons first rest =>
    rw [hs] at h
    obtain ⟨hfirst, hrest⟩ := List.append_eq_nil_iff.mp h
    have hnil : first = [] := by
      by_contra hne
      simp [hne] at hfirst
    rw [List.filter_cons, hrest]
    simp [hnil]

theorem dropTrailing_ne_nil (h : p.bytes ≠ []) : p.dropTrailing ≠ [] := by
  have hfrom (r : Bytes) (hr : r ≠ []) : dropTrailingFrom r ≠ [] := by
    induction r with
    | nil => exact hr
    | cons b r ih =>
      cases r with
      | nil => exact hr
      | cons c r =>
        rw [dropTrailingFrom]
        split
        · exact ih (List.cons_ne_nil _ _)
        · exact hr
  exact mt List.reverse_eq_nil_iff.mp (hfrom _ (mt List.reverse_eq_nil_iff.mp h))

end Path

namespace Files

open ClarityCheck.Path (EndsIn)

variable {files files' : Files} {p q root : Path} {l m : Location} {front : Bytes} {name : FileName}

/-! ## Parents that stand -/

/-- The parent of a path that stands stands. -/
theorem Standing.parent (h : Standing files p) (hq : p.parent? = some q) : Standing files q := by
  obtain ⟨front, name, hends, rfl⟩ := Path.exists_of_parent? hq
  by_cases hfront : front = []
  · subst hfront
    exact .empty rfl
  cases h with
  | empty h =>
    have := hends.front_prefix
    rw [h] at this
    exact absurd (List.prefix_nil.mp this) hfront
  | @leads links m hp hl =>
    have hne : Path.dropTrailing ⟨front⟩ ≠ [] := Path.dropTrailing_ne_nil hfront
    have hdropped : Path.dropTrailing ⟨front⟩ <+: front := Path.dropTrailing_prefix ⟨front⟩
    have hstart : startOf ⟨Path.dropTrailing ⟨front⟩⟩ files.directory =
        startOf p files.directory := by
      rw [startOf, startOf, Path.isAbsolute_of_prefix hne (hdropped.trans hends.front_prefix)]
    have hsound : IsSound ⟨Path.dropTrailing ⟨front⟩⟩ := by
      refine ⟨hne, fun hz => hp.zero_not_mem ?_, ?_⟩
      · obtain ⟨t, ht, hslash⟩ := p.bytes_withoutSlashes
        have hmem := (hdropped.trans hends.front_prefix).subset hz
        rw [ht] at hmem
        rcases List.mem_append.mp hmem with hw | hw
        · exact hw
        · exact absurd (hslash 0 hw) (by decide)
      · have := hdropped.length_le
        have := hends.length_front_le
        have := hp.length_le
        simp only at *
        omega
    -- The way to the path comes by its parent, whose names are the first ones.
    have hway := hl.way
    rw [hends.names, ← Path.names_dropTrailing ⟨front⟩, advance_append] at hway
    split at hway
    · next links' l' hfirst =>
      have hleads : Leads files ⟨Path.dropTrailing ⟨front⟩⟩ links' l' := by
        constructor <;> rw [hstart]
        · exact hl.start
        · exact hfirst
      exact .leads hsound.withoutSlashes hleads
    · cases hway

theorem Standing.onTheWay (h : Standing files root) (hq : root.OnTheWay q) : Standing files q := by
  induction hq with
  | root => exact h
  | parent _ he ih => exact ih.parent he

/-- On the way to a path that stands there is nothing to be added. -/
theorem Grown.same_of_standing (h : Grown root files files') (hs : Standing files root)
    (x : Location) :
    files'.get? x = files.get? x := by
  by_cases hx : files.get? x = none
  · by_contra hne
    obtain ⟨-, q, hq, hl⟩ := h.new x hx (fun hx' => hne (hx'.trans hx.symm))
    cases hs.onTheWay hq with
    | empty he =>
      have hsound := (locate_ok hl).1
      obtain ⟨t, ht, -⟩ := q.bytes_withoutSlashes
      exact hsound.ne_nil (List.append_eq_nil_iff.mp (ht.symm.trans he)).1
    | leads hp hl' =>
      obtain ⟨y, hy, hg, -⟩ := (leads_withoutSlashes_iff.2 hl').exists_locate false hp
      have := locate_grows h.directory h.same (fun hn => absurd hn hg) hy
      obtain rfl : y = x := Except.ok.inj (this.symm.trans hl)
      exact hg hx
  · exact h.same x hx

end Files

/-! ## Extensions -/

namespace Path

variable {p : Path} {front : Bytes} {name ext : FileName}

/-- The extension of the name that a path ends in. -/
def extension? (p : Path) : Option FileName := p.fileName?.bind fun n => (cutExtension n).2

theorem cutExtension_cases (name : FileName) : cutExtension name = (name, none) ∨
    ∃ stem ext, cutExtension name = (stem, some ext) ∧ name = stem ++ 0x2E :: ext := by
  unfold cutExtension
  split
  · exact .inl rfl
  have happend :=
    List.takeWhile_append_dropWhile (p := fun b => decide (b ≠ 0x2E)) (l := name.reverse)
  have hdot := List.head?_dropWhile_not (fun b => decide (b ≠ 0x2E)) name.reverse
  rw [List.span_eq_takeWhile_dropWhile]
  split
  · exact .inl rfl
  · exact .inl rfl
  · next ext b stem hne hspan =>
    obtain ⟨ha, hb⟩ := Prod.mk.inj hspan
    rw [ha, hb] at happend
    rw [hb] at hdot
    have hbdot : b = 0x2E := by simpa using hdot
    refine .inr ⟨_, _, rfl, ?_⟩
    rw [← List.reverse_reverse name, ← happend, hbdot]
    simp

/-- The name with another extension, or with one if it has none. -/
def renamed (name ext : FileName) : FileName := (cutExtension name).1 ++ 0x2E :: ext

/-- A name gets another extension only if it has another one. -/
theorem renamed_ne (h : (cutExtension name).2 ≠ some ext) : renamed name ext ≠ name := by
  unfold renamed
  rcases cutExtension_cases name with hc | ⟨stem, ext', hc, hname⟩
  · rw [hc]
    intro he
    have := congrArg List.length he
    simp at this
  · rw [hc] at h ⊢
    intro he
    rw [hname] at he
    simp only [List.append_cancel_left_eq, List.cons.injEq, true_and] at he
    exact h (by rw [he])

theorem isEntryName_renamed (hs : slash ∉ name) (he : slash ∉ ext) (hlen : 1 < ext.length) :
    IsEntryName (renamed name ext) := by
  have hstem : slash ∉ (cutExtension name).1 := by
    rcases cutExtension_cases name with hc | ⟨stem, ext', hc, hname⟩
    · rwa [hc]
    · rw [hc]
      rw [hname] at hs
      exact fun hm => hs (List.mem_append_left _ hm)
  have hlong : 2 < (renamed name ext).length := by
    rw [renamed, List.length_append, List.length_cons]
    omega
  refine ⟨?_, ?_, ?_, ?_⟩
  · rintro h
    simp [h] at hlong
  · rintro h
    simp [h, dot] at hlong
  · rintro h
    simp [h, dotDot] at hlong
  · simp only [renamed, List.mem_append, List.mem_cons, not_or]
    exact ⟨hstem, by decide, he⟩

/-- A path that ends in a name has a front. -/
theorem exists_of_fileName? (h : p.fileName? = some name) :
    ∃ front, EndsIn p front name ∧ IsEntryName name := by
  unfold fileName? at h
  split at h
  · next n hlast =>
    split at h
    · cases h
    · next hn =>
      obtain rfl := Option.some.inj h
      obtain ⟨front, hends⟩ := exists_endsIn hlast
      rw [not_or] at hn
      exact ⟨front, hends, hends.ne_nil, hn.1, hn.2, hends.slash_not_mem⟩
  · cases h

/-- A path with another extension is its front with the renamed name behind it. -/
theorem withExtension_eq (h : p.fileName? = some name) (hends : EndsIn p front name)
    (hn : IsEntryName (renamed name ext)) :
    p.withExtension ext = child ⟨front⟩ (renamed name ext) := by
  have hsep : withSeparator front = front := by
    rcases hends.cut with rfl | ⟨a, rfl⟩
    · rfl
    · simp [withSeparator]
  have hbytes : (p.withExtension ext).bytes = (child ⟨front⟩ (renamed name ext)).bytes := by
    rw [child_bytes _ hn, hsep, withExtension, h]
    simp only [hends.eq, List.length_append, Nat.add_sub_cancel, List.take_left', renamed,
      List.append_assoc, List.singleton_append]
  exact congrArg Path.mk hbytes

end Path

namespace Files

open ClarityCheck.Path (EndsIn)

variable {files files' : Files} {p q root : Path} {l m : Location} {front : Bytes} {name : FileName}
  {follow : Bool} {links : Nat}

/-! ## Where paths lead that end in a name, and those that do not -/

theorem steps_of_endsIn (h : EndsIn p front name) (hn : IsEntryName name) :
    steps p = Path.names ⟨front⟩ ++ [name] ∨ steps p = Path.names ⟨front⟩ ++ [name] ++
      [Path.dot] := by
  have hnames := h.names
  rw [if_neg hn.ne_dot] at hnames
  rw [← hnames]
  exact steps_eq p

theorem startOf_front (h : EndsIn p front name) (directory : Location) :
    startOf ⟨front⟩ directory = startOf p directory := by
  rw [startOf, startOf, h.isAbsolute]

/-- A walk to a dot ends in a directory. -/
theorem hasDirectory_of_walk_dot {names : List FileName} (hl : files.hasDirectory l = true)
    (h : walk files follow links l (names ++ [Path.dot]) = .ok m) :
    files.hasDirectory m = true := by
  rw [walk_append _ (by simp)] at h
  split at h
  · next links' l' hway =>
    rw [walk, if_pos rfl, walk] at h
    cases h
    exact advance_hasDirectory hl hway
  · cases h

/-- A walk upwards ends in a directory. -/
theorem hasDirectory_of_walk_dotDot {names : List FileName} (hl : files.hasDirectory l = true)
    (h : walk files follow links l (names ++ [Path.dotDot]) = .ok m) :
    files.hasDirectory m = true := by
  rw [walk_append _ (by simp)] at h
  split at h
  · next links' l' hway =>
    rw [walk, if_neg (by decide), if_pos rfl, walk] at h
    cases h
    exact hasDirectory_dropLast (advance_hasDirectory hl hway)
  · cases h

theorem hasDirectory_of_walk_nil (hl : files.hasDirectory l = true)
    (h : walk files follow links l [] = .ok m) : files.hasDirectory m = true := by
  rw [walk] at h
  cases h
  exact hl

/-- A path that ends in no name leads to a directory, if anywhere. -/
theorem hasDirectory_of_nameless (hp : p.fileName? = none) (h : files.locate follow p = .ok m) :
    files.hasDirectory m = true := by
  obtain ⟨-, hs, hw⟩ := locate_ok h
  rcases steps_eq p with hsteps | hsteps
  · rw [hsteps] at hw
    unfold Path.fileName? at hp
    split at hp
    · next name hlast =>
      obtain ⟨front, hends⟩ := Path.exists_endsIn hlast
      split at hp
      · next hname =>
        rw [hends.names] at hw
        by_cases hdot : name = Path.dot
        · rw [if_pos hdot, hends.dot hdot] at hw
          exact hasDirectory_of_walk_nil hs hw
        · obtain rfl := hname.resolve_left hdot
          rw [if_neg hdot] at hw
          exact hasDirectory_of_walk_dotDot hs hw
      · cases hp
    · next hnone =>
      rw [Path.names_of_parts_nil (List.getLast?_eq_none_iff.mp hnone)] at hw
      exact hasDirectory_of_walk_nil hs hw
  · rw [hsteps] at hw
    exact hasDirectory_of_walk_dot hs hw

/-- A path that ends in a name leads to a directory, or to the entry of this name in the directory
that its front leads to. -/
theorem entry_of_locate (hends : EndsIn p front name) (hn : IsEntryName name)
    (h : files.locate false p = .ok m) :
    files.hasDirectory m = true ∨ ∃ links l, Leads files ⟨front⟩ links l ∧ m = l ++ [name] := by
  obtain ⟨-, hs, hw⟩ := locate_ok h
  rcases steps_of_endsIn hends hn with hsteps | hsteps
  · right
    rw [hsteps, walk_append _ (by simp)] at hw
    split at hw
    · next links l hway =>
      rw [← startOf_front hends] at hs hway
      exact ⟨links, l, ⟨hs, hway⟩, (walk_entry hn (.inl rfl) hw).1⟩
    · cases hw
  · rw [hsteps] at hw
    exact .inl (hasDirectory_of_walk_dot hs hw)

end Files

end ClarityCheck
