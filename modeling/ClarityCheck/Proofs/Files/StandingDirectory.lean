import ClarityCheck.Proofs.Files.Changes

/-!
# Directories that stand

Where the names of a path lead to a directory, every walk along them ends at something. So creating
a directory that has been created before, which staging does with its root each time, changes
nothing.

* `advance_of_walk`, `exists_walk_of_advance`: walks that end in directories
* `standing_of_createDirectories`: a path that has been created stands
* `createDirectories_of_standing`: creating a path that stands changes nothing
-/

namespace ClarityCheck

/-! ## Slashes at the end -/

namespace Path

variable {p : Path}

theorem names_of_slashes {t : Bytes} (h : ∀ b ∈ t, b = slash) : names ⟨t⟩ = [] := by
  induction t with
  | nil => rfl
  | cons b t ih =>
    obtain rfl : b = slash := h b (by simp)
    have ht := ih fun b hb => h b (by simp [hb])
    have := names_append [] t
    rw [List.nil_append] at this
    rw [this, ht]
    rfl

theorem names_append_slashes (a : Bytes) {t : Bytes} (h : ∀ b ∈ t, b = slash) :
    names ⟨a ++ t⟩ = names ⟨a⟩ := by
  cases t with
  | nil => rw [List.append_nil]
  | cons b t =>
    obtain rfl : b = slash := h b (by simp)
    have ht : names ⟨t⟩ = [] := names_of_slashes fun b hb => h b (by simp [hb])
    rw [names_append, ht, List.append_nil]

/-- A path is its short form and slashes, unless it consists of slashes. -/
theorem bytes_withoutSlashes (p : Path) :
    ∃ t, p.bytes = p.withoutSlashes.bytes ++ t ∧ ∀ b ∈ t, b = slash := by
  have hsplit :=
    congrArg List.reverse
      (List.takeWhile_append_dropWhile (p := (· = slash)) (l := p.bytes.reverse))
  rw [List.reverse_append, List.reverse_reverse] at hsplit
  have hslash : ∀ b ∈ (p.bytes.reverse.takeWhile (· = slash)).reverse, b = slash := by
    intro b hb
    have := List.all_eq_true.mp List.all_takeWhile b (List.mem_reverse.mp hb)
    simpa using this
  unfold withoutSlashes
  split
  · next hd =>
    rw [hd, List.reverse_nil, List.nil_append] at hsplit
    refine ⟨p.bytes.drop 1, (List.take_append_drop 1 p.bytes).symm, fun b hb => ?_⟩
    rw [← hsplit] at hb
    exact hslash b (List.mem_of_mem_drop hb)
  · next r hne => exact ⟨_, hsplit.symm, hslash⟩

theorem names_withoutSlashes (p : Path) : p.withoutSlashes.names = p.names := by
  obtain ⟨t, ht, hslash⟩ := p.bytes_withoutSlashes
  have := names_append_slashes p.withoutSlashes.bytes hslash
  rw [← ht] at this
  exact this.symm

theorem withoutSlashes_ne_nil (h : p.bytes ≠ []) : p.withoutSlashes.bytes ≠ [] := by
  intro hn
  unfold withoutSlashes at hn
  split at hn
  · cases hb : p.bytes with
    | nil => exact h hb
    | cons b bs => simp [hb] at hn
  · next hne => exact hne (by simpa using hn)

theorem isAbsolute_withoutSlashes (p : Path) : p.withoutSlashes.isAbsolute = p.isAbsolute := by
  obtain ⟨t, ht, -⟩ := p.bytes_withoutSlashes
  by_cases hp : p.bytes = []
  · obtain ⟨h, -⟩ := List.append_eq_nil_iff.1 (ht.symm.trans hp)
    rw [isAbsolute, isAbsolute, h, hp]
  · obtain ⟨b, bs, hb⟩ := List.exists_cons_of_ne_nil (withoutSlashes_ne_nil hp)
    rw [isAbsolute, isAbsolute, ht, hb]
    rfl

end Path

namespace Files

variable {files files' : Files} {l m : Location} {p : Path} {links links' : Nat}
  {names : List FileName}

theorem IsSound.withoutSlashes (h : IsSound p) : IsSound p.withoutSlashes := by
  obtain ⟨t, ht, hslash⟩ := p.bytes_withoutSlashes
  refine ⟨Path.withoutSlashes_ne_nil h.ne_nil, fun hz => h.zero_not_mem ?_, ?_⟩
  · rw [ht]
    exact List.mem_append_left t hz
  · have := h.length_le
    rw [ht, List.length_append] at this
    omega

theorem steps_eq (p : Path) : steps p = p.names ∨ steps p = p.names ++ [Path.dot] := by
  unfold steps
  split
  · split
    · exact Or.inr rfl
    · exact Or.inl (List.append_nil _)
  · exact Or.inl rfl

/-! ## Walks to directories -/

/-- The way along names that lead to a directory, with or without a dot behind them. -/
theorem advance_steps_iff : advance files links l (steps p) = .ok (links', m) ↔
    advance files links l p.names = .ok (links', m) := by
  rcases steps_eq p with hs | hs
  · rw [hs]
  · rw [hs, advance_append]
    rcases hn : advance files links l p.names with e | ⟨k, x⟩
    · simp
    · simp [advance]

/-- A walk that ends in a directory leads there. -/
theorem advance_of_walk {follow : Bool} (h : walk files follow links l names = .ok m)
    (hm : files.get? m = some .directory) :
    ∃ links', advance files links l names = .ok (links', m) := by
  fun_induction walk files follow links l names with
  | case1 => exact ⟨_, by rw [advance, Except.ok.inj h]⟩
  | case2 _ _ _ ih => rw [advance, if_pos rfl]; exact ih h
  | case3 _ _ _ h1 ih => rw [advance, if_neg h1, if_pos rfl]; exact ih h
  | case7 _ _ _ _ h1 h2 h3 hd ih =>
    rw [advance, if_neg h1, if_neg h2, if_neg h3, hd]
    exact ih h
  | case11 _ _ _ h1 h2 h3 _ hd _ _ ht ih =>
    rw [advance, if_neg h1, if_neg h2, if_neg h3, hd]
    simp only [if_neg ht]
    exact ih h
  -- The other walks fail, or end at a name where no directory is.
  | _ => grind

/-- Names that lead to a directory are walked along, and something stands at the end: the directory,
or a link to it that is not followed. -/
theorem exists_walk_of_advance (follow : Bool) (hl : files.hasDirectory l = true)
    (h : advance files links l names = .ok (links', m)) :
    ∃ x, walk files follow links l names = .ok x ∧ files.get? x ≠ none ∧
    (follow = true → x = m) := by
  fun_induction advance files links l names with
  | case1 _ l =>
    obtain ⟨-, rfl⟩ := Prod.mk.inj (Except.ok.inj h)
    exact ⟨l, by rw [walk], by simp [hasDirectory_iff.1 hl], fun _ => rfl⟩
  | case2 _ _ _ ih => rw [walk, if_pos rfl]; exact ih hl h
  | case3 _ _ _ h1 ih => rw [walk, if_neg h1, if_pos rfl]; exact ih (hasDirectory_dropLast hl) h
  | case6 _ _ _ _ h1 h2 h3 hd ih =>
    rw [walk, if_neg h1, if_neg h2, if_neg h3, hd]
    exact ih (hasDirectory_iff.2 hd) h
  | case9 l name rest h1 h2 h3 target hd links ht ih =>
    rw [walk, if_neg h1, if_neg h2, if_neg h3, hd]
    simp only [if_neg ht]
    split
    · next hlast =>
      refine ⟨_, rfl, by simp [hd], fun hf => ?_⟩
      simp [hf] at hlast
    · exact ih (hasDirectory_startOf hl) h
  | case4 | case5 | case7 | case8 | case10 | case11 => cases h

/-- A path that stands for a directory leads there. -/
theorem leads_of_locate {follow : Bool} (h : files.locate follow p = .ok m)
    (hm : files.get? m = some .directory) : ∃ links, Leads files p links m := by
  obtain ⟨-, hs, hw⟩ := locate_ok h
  obtain ⟨links, hway⟩ := advance_of_walk hw hm
  exact ⟨links, hs, advance_steps_iff.1 hway⟩

/-- A path that leads to a directory stands for something, and for the directory if links are
followed. -/
theorem Leads.exists_locate (follow : Bool) (hl : Leads files p links m) (hp : IsSound p) :
    ∃ x, files.locate follow p = .ok x ∧ files.get? x ≠ none ∧ (follow = true → x = m) := by
  rw [locate_of_isSound hp, if_pos hl.start]
  exact exists_walk_of_advance follow hl.start (advance_steps_iff.2 hl.way)

/-! ## Creating what stands -/

theorem startOf_withoutSlashes (p : Path) (directory : Location) :
    startOf p.withoutSlashes directory = startOf p directory := by
  rw [startOf, startOf, Path.isAbsolute_withoutSlashes]

theorem leads_withoutSlashes_iff :
    Leads files p.withoutSlashes links m ↔ Leads files p links m := by
  constructor
  · rintro ⟨hs, hw⟩
    rw [startOf_withoutSlashes] at hs hw
    rw [Path.names_withoutSlashes] at hw
    exact ⟨hs, hw⟩
  · rintro ⟨hs, hw⟩
    refine ⟨?_, ?_⟩ <;> rw [startOf_withoutSlashes]
    · exact hs
    · rw [Path.names_withoutSlashes]
      exact hw

/-- There is no directory left to be created for a path. -/
inductive Standing (files : Files) (p : Path) : Prop
  | empty (h : p.bytes = [])
  | leads {links : Nat} {m : Location} (hp : IsSound p.withoutSlashes) (hl : Leads files p links m)

/-- What stands still stands when files change only where nothing stood. -/
theorem Standing.congr (h : Standing files p) (hd : files'.directory = files.directory)
    (same : ∀ x, files.get? x ≠ none → files'.get? x = files.get? x) : Standing files' p := by
  cases h with
  | empty h => exact .empty h
  | leads hp hl => exact .leads hp (hl.congr (.inr hd) same)

/-- A path that has been created stands. -/
theorem standing_of_createDirectory (h : files.createDirectory p = .ok files') :
    Standing files' p := by
  have hgrown := createDirectory_grown h
  obtain ⟨m, hm, hg, hne, hd, rfl⟩ := createDirectory_ok h
  have hself : (files.put m .directory).get? m = some .directory := by
    rw [get?_put_new hg hne hd, if_pos rfl]
  have hl := locate_grows hgrown.directory hgrown.same (fun _ => hself) hm
  obtain ⟨links, hway⟩ := leads_of_locate hl hself
  exact .leads (locate_ok hm).1 (leads_withoutSlashes_iff.1 hway)

theorem standing_of_isDirectory (h : files.isDirectory p = true) : Standing files p := by
  unfold isDirectory stat at h
  cases hm : files.locate true p with
  | error e => simp [hm] at h
  | ok m =>
    have hg : files.get? m = some .directory := by
      cases hg : files.get? m with
      | none => simp [hm, hg] at h
      | some n => cases n <;> simp_all
    obtain ⟨links, hl⟩ := leads_of_locate hm hg
    exact .leads (locate_ok hm).1.withoutSlashes hl

theorem standing_of_createDirectoriesWithin {fuel : Nat}
    (h : createDirectoriesWithin fuel files p = (.ok (), files')) : Standing files' p := by
  -- Where a path cannot be created, it has to be that of a directory.
  have hlast {files : Files} {e : SystemError}
      (h : (if files.isDirectory p then (.ok () : Except SystemError Unit) else .error e, files)
        = (.ok (), files')) : Standing files' p := by
    obtain ⟨h, rfl⟩ := Prod.mk.inj h
    split at h
    · next hd => exact standing_of_isDirectory hd
    · cases h
  unfold createDirectoriesWithin at h
  split at h
  · next hp => exact .empty hp
  split at h
  · next hc =>
    obtain ⟨-, rfl⟩ := Prod.mk.inj h
    exact standing_of_createDirectory hc
  split at h
  · split at h
    · split at h
      · cases h
      · split at h
        · next hc =>
          obtain ⟨-, rfl⟩ := Prod.mk.inj h
          exact standing_of_createDirectory hc
        · exact hlast h
    · cases h
  · exact hlast h

/-- A path that has been created with its parents stands. -/
theorem standing_of_createDirectories (h : files.createDirectories p = (.ok (), files')) :
    Standing files' p :=
  standing_of_createDirectoriesWithin h

theorem createDirectory_of_leads (hp : IsSound p.withoutSlashes) (hl : Leads files p links m) :
    files.createDirectory p = .error .exists_ := by
  have hne : p.bytes ≠ [] := by
    intro h
    obtain ⟨t, ht, -⟩ := p.bytes_withoutSlashes
    exact hp.ne_nil (List.append_eq_nil_iff.1 (ht.symm.trans h)).1
  obtain ⟨x, hx, hg, -⟩ := (leads_withoutSlashes_iff.2 hl).exists_locate false hp
  rw [createDirectory, if_neg hne, hx]
  cases hn : files.get? x with
  | none => exact absurd hn hg
  | some n => simp only [hn]

/-- Creating a path that stands changes nothing. -/
theorem createDirectories_of_standing (h : Standing files p) :
    (files.createDirectories p).2 = files := by
  have hkind : SystemError.exists_.kindOf ≠ .notFound := by decide
  unfold createDirectories createDirectoriesWithin
  cases h with
  | empty h => rw [if_pos h]
  | leads hp hl =>
    rw [createDirectory_of_leads hp hl]
    simp only [if_neg hkind]
    split <;> rfl

/-- Creating a path that leads to a directory succeeds. -/
theorem createDirectories_of_leads (hp : IsSound p) (hl : Leads files p links m) :
    files.createDirectories p = (.ok (), files) := by
  have hkind : SystemError.exists_.kindOf ≠ .notFound := by decide
  have hdir : files.isDirectory p = true := by
    obtain ⟨x, hx, -, hxm⟩ := hl.exists_locate true hp
    obtain rfl := hxm rfl
    simp [isDirectory, stat, hx, hasDirectory_iff.1 hl.hasDirectory]
  unfold createDirectories createDirectoriesWithin
  rw [if_neg hp.ne_nil, createDirectory_of_leads hp.withoutSlashes hl]
  simp only [if_neg hkind, hdir, ↓reduceIte]

end Files

end ClarityCheck
