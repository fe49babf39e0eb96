import ClarityCheck.Proofs.Files.Walk

/-!
# What changes of files change

Each operation is described by what stands where afterwards. Creating a path with its missing
parents adds directories along that path and nothing else, which `Grown` says for whole sequences of
steps.

* `createDirectory_ok`, `write_ok`: the operations one by one
* `createDirectories_grown`: creating a path with its parents
* `removeTree_cases`: what is left of a tree that is removed
-/

namespace ClarityCheck

/-- The paths on the way to a path: the path itself and the paths of its parents. -/
inductive Path.OnTheWay (root : Path) : Path → Prop
  | root : OnTheWay root root
  | parent {p q : Path} : OnTheWay root p → p.parent? = some q → OnTheWay root q

theorem Path.OnTheWay.trans {root p q : Path} (hp : OnTheWay root p) (hq : OnTheWay p q) :
    OnTheWay root q := by
  induction hq with
  | root => exact hp
  | parent _ he ih => exact .parent ih he

namespace Files

variable {files files' files'' : Files} {l m : Location} {p root : Path}

/-! ## Single operations -/

theorem ne_nil_of_get? (h : files.get? l = none) : l ≠ [] := by
  rintro rfl
  simp at h

/-- A directory is created in a directory, where nothing stood. -/
theorem createDirectory_ok (h : files.createDirectory p = .ok files') :
    ∃ m, files.locate false p.withoutSlashes = .ok m ∧ files.get? m = none ∧ m ≠ [] ∧
      files.hasDirectory m.dropLast = true ∧ files' = files.put m .directory := by
  unfold createDirectory at h
  split at h
  · cases h
  split at h
  · cases h
  next m hm =>
  split at h
  · cases h
  next hg =>
  refine ⟨m, hm, hg, ne_nil_of_get? hg, locate_dropLast hm, ?_⟩
  simpa using h.symm

/-- A file is written in a directory, where nothing stood or a file. -/
theorem write_ok {content : Bytes} (hp : p.withoutSlashes = p)
    (h : files.write p content = .ok files') :
    ∃ m, files.locate true p = .ok m ∧ files.hasDirectory m.dropLast = true ∧
      (files.get? m = none → files' = files.put m (.file content .plain)) := by
  unfold write at h
  simp only [hp, decide_true] at h
  split at h
  · cases h
  next m hm =>
  refine ⟨m, hm, locate_dropLast hm, fun hg => ?_⟩
  simpa [hg] using h.symm

/-- What was there before something was placed where nothing stood. -/
theorem get?_put_new {n : Node} (hg : files.get? m = none) (hm : m ≠ [])
    (hd : files.hasDirectory m.dropLast = true) (x : Location) :
    (files.put m n).get? x = if x = m then some n else files.get? x :=
  get?_put files x n hm hd (by simp [hasDirectory, hg])

/-! ## Directories on the way -/

/-- Files with directories added where paths on the way to a path lead, and nothing else changed. -/
structure Grown (root : Path) (files files' : Files) : Prop where
  directory : files'.directory = files.directory
  same : ∀ x, files.get? x ≠ none → files'.get? x = files.get? x
  new : ∀ x, files.get? x = none → files'.get? x ≠ none →
    files'.get? x = some .directory ∧
      ∃ p, root.OnTheWay p ∧ files'.locate false p.withoutSlashes = .ok x

namespace Grown

theorem refl (root : Path) (files : Files) : Grown root files files where
  directory := rfl
  same _ _ := rfl
  new _ hx hx' := absurd hx hx'

theorem trans (h : Grown root files files') (h' : Grown root files' files'') :
    Grown root files files'' where
  directory := h'.directory.trans h.directory
  same x hx := by
    rw [h'.same x (by rw [h.same x hx]; exact hx), h.same x hx]
  new x hx hx'' := by
    by_cases hx' : files'.get? x = none
    · exact h'.new x hx' hx''
    · -- A directory of the first step is still there and still found after the second.
      obtain ⟨hd, p, hp, hl⟩ := h.new x hx hx'
      refine ⟨by rw [h'.same x hx', hd], p, hp, ?_⟩
      exact locate_grows h'.directory h'.same (fun h => absurd h hx') hl

theorem mono {q : Path} (hq : root.OnTheWay q) (h : Grown q files files') :
    Grown root files files' where
  directory := h.directory
  same := h.same
  new x hx hx' := by
    obtain ⟨hd, p, hp, hl⟩ := h.new x hx hx'
    exact ⟨hd, p, hq.trans hp, hl⟩

/-- Files that show the same have grown the same. -/
theorem congr (h : Grown root files files') (hd : files''.directory = files'.directory)
    (same : ∀ x, files''.get? x = files'.get? x) : Grown root files files'' where
  directory := hd.trans h.directory
  same x hx := by rw [same, h.same x hx]
  new x hx hx' := by
    obtain ⟨hg, p, hp, hl⟩ := h.new x hx (by rw [← same]; exact hx')
    refine ⟨by rw [same, hg], p, hp, locate_grows hd (fun y _ => same y) ?_ hl⟩
    simp [same, hg]

end Grown

theorem createDirectory_grown (h : files.createDirectory p = .ok files') :
    Grown p files files' := by
  obtain ⟨m, hm, hg, hne, hd, rfl⟩ := createDirectory_ok h
  have hput := get?_put_new (n := .directory) hg hne hd
  have same (x : Location) (hx : files.get? x ≠ none) :
      (files.put m .directory).get? x = files.get? x := by
    rw [hput, if_neg]
    rintro rfl
    exact hx hg
  refine ⟨rfl, same, fun x hx hx' => ?_⟩
  have hself : (files.put m .directory).get? m = some .directory := by rw [hput, if_pos rfl]
  have he : x = m := by
    by_contra hne
    rw [hput, if_neg hne] at hx'
    exact hx' hx
  have hl : (files.put m .directory).locate false p.withoutSlashes = .ok m := by
    refine locate_grows ?_ same (fun _ => hself) hm
    rfl
  rw [he]
  exact ⟨hself, p, .root, hl⟩

theorem createDirectoriesWithin_grown (fuel : Nat) (files : Files) (p : Path) :
    Grown p files (createDirectoriesWithin fuel files p).2 := by
  induction fuel generalizing files p with
  | zero =>
    unfold createDirectoriesWithin
    split
    · exact .refl p files
    split
    · next h => exact createDirectory_grown h
    split
    · exact .refl p files
    · exact .refl p files
  | succ fuel ih =>
    unfold createDirectoriesWithin
    split
    · exact .refl p files
    split
    · next h => exact createDirectory_grown h
    split
    · split
      · next q hf hq =>
        obtain rfl := Nat.succ.inj hf
        have hparent := (ih files q).mono (.parent .root hq)
        split
        · next hr => rw [hr] at hparent; exact hparent
        · next hr =>
          rw [hr] at hparent
          split
          · next h => exact hparent.trans (createDirectory_grown h)
          · exact hparent
      · exact .refl p files
    · exact .refl p files

/-- Creating a path with its missing parents adds directories on the way to it and nothing else,
also when it fails. -/
theorem createDirectories_grown (files : Files) (p : Path) :
    Grown p files (files.createDirectories p).2 :=
  createDirectoriesWithin_grown _ files p

/-! ## Removing a tree -/

/-- Nothing stands below what is no directory, so that it goes away like a tree. -/
theorem get?_erase_below (hm : m ≠ []) (hd : files.hasDirectory m = false) (x : Location) :
    (files.erase m).get? x = if m <+: x then none else files.get? x := by
  rw [get?_erase files m x hm hd]
  by_cases hx : x = m
  · simp [hx]
  · by_cases hp : m <+: x
    · rw [if_neg hx, if_pos hp, get?_below hp (Ne.symm hx) hd]
    · rw [if_neg hx, if_neg hp]

/-- A path whose place is a directory, a link or empty, so that it can be cleared. -/
def Clearable (files : Files) (p : Path) : Prop :=
  ∀ m, files.locate false p = .ok m → m ≠ [] ∧
    (files.get? m = none ∨ files.get? m = some .directory ∨ ∃ target,
      files.get? m = some (.link target))

/-- What is left when a path has been cleared as far as possible. -/
theorem removeTree_cases (hc : Clearable files p) (hm : files.locate false p = .ok m) :
    (∃ files', files.removeTree p = .ok files' ∧ files'.directory = files.directory ∧
      ∀ x, files'.get? x = if m <+: x then none else files.get? x) ∨
    ((∃ e, files.removeTree p = .error e) ∧
      ∀ x, files.get? x = if m <+: x then none else files.get? x) := by
  obtain ⟨hne, hg | hg | ⟨target, hg⟩⟩ := hc m hm
  · right
    refine ⟨⟨.notFound, by simp [removeTree, hm, hg]⟩, fun x => ?_⟩
    split
    · next hp =>
      by_contra hx
      exact not_below hg hx hp
    · rfl
  · left
    refine ⟨files.eraseTree m, by simp [removeTree, hm, hg], rfl, fun x => ?_⟩
    exact get?_eraseTree files m x hne
  · left
    have hd : files.hasDirectory m = false := by simp [hasDirectory, hg]
    exact ⟨files.erase m, by simp [removeTree, hm, hg], rfl, get?_erase_below hne hd⟩

end Files

end ClarityCheck
