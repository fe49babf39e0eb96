import ClarityCheck.Proofs.Files.StandingDirectory

/-!
# Files that consist of directories

For every path that the system looks up there are files in which it leads to a directory
(`exists_directories`). Where nothing but directories stands, an operation that only needs a
directory somewhere succeeds without a change.

* `exists_directories`: directories along given names
* `isFile_of_only`, `removeFile_of_only`, `changeMode_of_only`: operations that change nothing there
-/

namespace ClarityCheck

namespace Files

variable {files files' : Files} {l m : Location} {p : Path} {links : Nat}

/-! ## Nothing but directories -/

/-- Nothing but directories stands anywhere. -/
def OnlyDirectories (files : Files) : Prop := ∀ x n, files.get? x = some n → n = .directory

theorem onlyDirectories_nil (directory : Location) : OnlyDirectories ⟨[], directory⟩ := by
  intro x n hx
  cases x with
  | nil => exact (Option.some.inj hx).symm
  | cons name rest => cases hx

/-- Names that are short enough lead through directories in some files. -/
theorem exists_directories (links : Nat) {names : List FileName}
    (hlen : ∀ name ∈ names, name.length ≤ nameLimit) (ho : OnlyDirectories files)
    (hl : files.hasDirectory l = true) :
    ∃ files' m, files'.directory = files.directory ∧ OnlyDirectories files' ∧
      (∀ x, files.get? x ≠ none → files'.get? x = files.get? x) ∧
      advance files' links l names = .ok (links, m) := by
  induction names generalizing files l with
  | nil => exact ⟨files, l, rfl, ho, fun _ _ => rfl, by rw [advance]⟩
  | cons name names ih =>
    have hrest : ∀ n ∈ names, n.length ≤ nameLimit := fun n hn => hlen n (by simp [hn])
    by_cases h1 : name = Path.dot
    · obtain ⟨files', m, hd, ho', hs, ha⟩ := ih hrest ho hl
      exact ⟨files', m, hd, ho', hs, by rw [advance, if_pos h1]; exact ha⟩
    by_cases h2 : name = Path.dotDot
    · obtain ⟨files', m, hd, ho', hs, ha⟩ := ih hrest ho (hasDirectory_dropLast hl)
      exact ⟨files', m, hd, ho', hs, by rw [advance, if_neg h1, if_pos h2]; exact ha⟩
    -- The directory of this name is there already or can be added.
    obtain ⟨files₁, hd₁, ho₁, hs₁, hl₁⟩ : ∃ files₁ : Files, files₁.directory = files.directory ∧
        OnlyDirectories files₁ ∧ (∀ x, files.get? x ≠ none → files₁.get? x = files.get? x) ∧
        files₁.get? (l ++ [name]) = some .directory := by
      cases hg : files.get? (l ++ [name]) with
      | some n => exact ⟨files, rfl, ho, fun _ _ => rfl, by rw [hg, ho _ _ hg]⟩
      | none =>
        have hput := get?_put_new (n := .directory) hg (by simp) (by simpa using hl)
        refine ⟨files.put (l ++ [name]) .directory, rfl, fun x n hx => ?_, fun x hx => ?_,
          by simp [hput]⟩
        · rw [hput] at hx
          split at hx
          · exact (Option.some.inj hx).symm
          · exact ho x n hx
        · rw [hput, if_neg]
          rintro rfl
          exact hx hg
    obtain ⟨files', m, hd, ho', hs, ha⟩ := ih hrest ho₁ (hasDirectory_iff.mpr hl₁)
    refine ⟨files', m, hd.trans hd₁, ho', fun x hx => ?_, ?_⟩
    · rw [hs x (by rwa [hs₁ x hx]), hs₁ x hx]
    · rw [advance, if_neg h1, if_neg h2, if_neg (Nat.not_lt.mpr (hlen name (by simp))),
        hs _ (by simp [hl₁]), hl₁]
      exact ha

/-- Where a path leads that is walked along from the root. -/
theorem leads_of_advance (hd : files.directory = [])
    (h : advance files linkLimit [] p.names = .ok (links, m)) : Leads files p links m := by
  have hstart : startOf p files.directory = [] := by simp [startOf, hd]
  exact ⟨by rw [hstart]; exact hasDirectory_nil files, by rw [hstart]; exact h⟩

section

variable (ho : OnlyDirectories files) (hd : files.directory = [])
include ho

theorem isFile_of_only (p : Path) : files.isFile p = false := by
  unfold isFile stat
  cases files.locate true p with
  | error e => rfl
  | ok l =>
    cases hg : files.get? l with
    | none => simp [hg]
    | some n => simp [hg, ho _ _ hg]

theorem removeFile_of_only (p : Path) : ∃ e, files.removeFile p = .error e := by
  unfold removeFile
  cases files.locate false p with
  | error e => exact ⟨e, rfl⟩
  | ok l =>
    cases hg : files.get? l with
    | none => exact ⟨.notFound, by simp [hg]⟩
    | some n => exact ⟨.isDirectory, by simp [hg, ho _ _ hg]⟩

include hd

/-- A path leads where its names do. -/
theorem locate_of_only (hp : IsSound p) (h : advance files linkLimit [] p.names = .ok (links, m))
    (follow : Bool) : files.locate follow p = .ok m := by
  have hl := leads_of_advance hd h
  obtain ⟨x, hx, hg, -⟩ := hl.exists_locate follow hp
  obtain ⟨n, hn⟩ := Option.ne_none_iff_exists'.1 hg
  obtain ⟨links', hl'⟩ := leads_of_locate hx (by rw [hn, ho _ _ hn])
  obtain ⟨-, rfl⟩ : links' = links ∧ x = m := by simpa using hl'.way.symm.trans hl.way
  exact hx

theorem changeMode_of_only (hp : IsSound p) (mode : Nat)
    (h : advance files linkLimit [] p.names = .ok (links, m)) :
    files.changeMode p mode = .ok files := by
  have hm : files.get? m = some .directory :=
    hasDirectory_iff.mp (advance_hasDirectory (hasDirectory_nil files) h)
  rw [changeMode, locate_of_only ho hd hp h true]
  simp only [hm]

end

end Files

end ClarityCheck
