import ClarityCheck.Workspace.Staging

/-!
# Handles of staged projects

Whoever stages a project gets a handle, which holds the directory of the project until the directory
is taken out. A handle is released by `close`, which tells whether the directory could be removed,
by `cleanUp`, which does not, or by `drop`, which happens to every handle in the end.

Main statements: `drop_eq` (all three leave the same files) and `close_emptied` (a handle that is
released again does nothing).
-/

namespace ClarityCheck.Workspace

/-- A handle of a staged project. -/
structure Handle where
  project : Project
  /-- The directory has not been taken out. -/
  holds : Bool
  deriving DecidableEq, Repr

namespace Handle

/-- The handle of a project that has just been staged. -/
def of (p : Project) : Handle := ⟨p, true⟩

/-- The handle after its directory has been taken out. -/
def emptied (h : Handle) : Handle := { h with holds := false }

/-- Lets a handle go: a directory that it still holds is removed, if that is possible. -/
def drop (h : Handle) (files : Files) : Files := if h.holds then h.project.drop files else files

/-- Takes the directory out and removes it, and lets the emptied handle go. -/
def close (h : Handle) (files : Files) : Except SystemError Unit × Files :=
  if h.holds then
    match h.project.close files with
    | .ok files => (.ok (), h.emptied.drop files)
    | .error e => (.error e, h.emptied.drop files)
  else (.ok (), h.emptied.drop files)

/-- Closes a handle, whether or not its directory can be removed. -/
def cleanUp (h : Handle) (files : Files) : Files := (h.close files).2

@[simp] theorem project_emptied (h : Handle) : h.emptied.project = h.project := rfl

@[simp] theorem holds_emptied (h : Handle) : h.emptied.holds = false := rfl

/-- An emptied handle goes without a trace. -/
@[simp] theorem drop_emptied (h : Handle) (files : Files) : h.emptied.drop files = files := rfl

/-- An emptied handle is closed without a trace. -/
@[simp] theorem close_emptied (h : Handle) (files : Files) :
    h.emptied.close files = (.ok (), files) := rfl

/-- Closing and letting go leave the same files. -/
theorem drop_eq (h : Handle) (files : Files) : h.drop files = (h.close files).2 := by
  unfold drop close
  cases h.holds with
  | false => rfl
  | true =>
    simp only [if_true, Project.drop, discard, Project.close]
    cases files.removeTree h.project.directory <;> rfl

/-- A handle is closed in vain exactly when the directory that it holds cannot be removed. -/
theorem close_error_iff (h : Handle) (files : Files) : (∃ e, (h.close files).1 = .error e) ↔
    h.holds = true ∧ ∃ e, files.removeTree h.project.directory = .error e := by
  unfold close
  cases h.holds with
  | false => simp
  | true =>
    simp only [if_true, Project.close]
    cases files.removeTree h.project.directory with
    | ok after =>
      constructor
      · rintro ⟨e, he⟩
        cases he
      · rintro ⟨-, e, he⟩
        cases he
    | error e => exact ⟨fun _ => ⟨trivial, e, rfl⟩, fun _ => ⟨_, rfl⟩⟩

end Handle

end ClarityCheck.Workspace
