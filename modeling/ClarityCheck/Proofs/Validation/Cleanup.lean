import ClarityCheck.Proofs.Validation.Protocol
import Mathlib

/-!
# What a validation leaves

Whatever becomes of a check, its project goes away. If the program that ran kept to the project,
what is left of the validation are directories on the way to the root where projects are staged.

* `cleared_discard`: nothing stands at the path of a discarded project, and the rest is as it was
* `leaves_no_project`: the same for whole validations
-/

namespace ClarityCheck

open Files Workspace

variable {σ : Type} {files files' filled before : Files} {p root : Path} {place : Location}
  {project : Project} {contract : Contract}

/-! ## Discarded projects -/

/-- At a path there is a directory or nothing. -/
def AtMostDirectory (files : Files) (p : Path) : Prop :=
  ∀ m, files.locate false p = .ok m → files.get? m = none ∨ files.get? m = some .directory

/-- A path has been cleared: nothing stands there any more, and nothing else has changed. -/
structure Cleared (p : Path) (files files' : Files) : Prop where
  directory : files'.directory = files.directory
  gone : ∀ l, files'.locate false p = .ok l → files'.get? l = none
  kept : ∀ x, (∀ m, files.locate false p = .ok m → ¬m <+: x) → files'.get? x = files.get? x

theorem cleared_discard (hv : Vacant before p place) (left : AtMostDirectory files p) :
    Cleared p files (discard files p) := by
  have hc : Clearable files p := fun m hm =>
    ⟨hv.ne_nil_of_locate hm, (left m hm).imp id Or.inl⟩
  rcases hm : files.locate false p with e | m
  · have hd : discard files p = files := by
      unfold Workspace.discard removeTree
      rw [hm]
    rw [hd]
    refine ⟨rfl, fun l hl => ?_, fun _ _ => rfl⟩
    rw [hm] at hl
    cases hl
  · obtain ⟨hdir, hget⟩ := discard_spec hc hm
    refine ⟨hdir, fun l hl => ?_, fun x hx => ?_⟩
    · exact get?_of_locate_removed (hv.ne_nil_of_locate hm) hm hdir hget hl
    · rw [hget, if_neg (hx m hm)]

/-- If the program that ran kept to its project, the root is all that is left. -/
theorem rooted_discard (staged : Staged root contract before filled project place)
    (hd : files.directory = filled.directory)
    (outside : ∀ x, ¬place <+: x → files.get? x = filled.get? x)
    (left : AtMostDirectory files project.directory) :
    (discard files project.directory).directory = before.directory ∧
      ∀ x, (discard files project.directory).get? x = (rooted before root).get? x := by
  have houtside (x : Location) (hx : ¬place <+: x) :
      files.get? x = (rooted before root).get? x := by
    rw [outside x hx, staged.filled.outside x hx]
  have hl := staged.vacant.locate houtside
  obtain ⟨hdir, hget⟩ := discard_restores staged.vacant houtside (left place hl)
  refine ⟨?_, hget⟩
  rw [hdir, hd, staged.filled.directory, (grown_rooted before root).directory]

/-! ## Validations -/

namespace Validation

/-- What a validation leaves that got a compiler and the world `w` with it: directories on the way
to the root if nothing could be staged, else what the program that ran left without the project. -/
inductive CleansUp (v : Validator σ) (contract : Contract) (t : Token) (b : Compiler.Binary)
    (w : World σ) : Verdict × World σ → Prop
  | notStaged {verdict : Verdict} {ticket : Nat} {files : Files}
      (grown : Grown v.root w.scene.files files) :
    CleansUp v contract t b w (verdict, { w with ticket, scene := { w.scene with files } })
  | checked {project : Project} {filled files : Files} {place : Location} {ticket : Nat}
      {outcome : Run.Outcome} {after : Scene σ}
      (staged : Staged v.root contract w.scene.files filled project place)
      (ran : v.executor (v.request b project) t { w.scene with files := filled } = (outcome, after))
      (cleared : AtMostDirectory after.files project.directory →
        Cleared project.directory after.files files)
      (restored : AtMostDirectory after.files project.directory →
        after.files.directory = filled.directory →
        (∀ x, ¬place <+: x → after.files.get? x = filled.get? x) →
        Grown v.root w.scene.files files ∧ files.get? place = none) :
    CleansUp v contract t b w (.classify outcome,
      if outcome.isStartFailure then
        v.provider.invalidate { w with ticket, scene := { after with files } }
      else { w with ticket, scene := { after with files } })

/-- No validation leaves its project behind. Without a compiler, or when it was cancelled before, it
does not change anything itself. -/
theorem leaves_no_project (v : Validator σ) (contract : Contract) (t : Token) (w : World σ) :
    (t.isCancelled w.scene = true → (v.validate contract t w).2 = w) ∧
    (t.isCancelled w.scene = false → ∀ e w', v.provider.ensure w = (.error e, w') →
      (v.validate contract t w).2 = w') ∧
    (t.isCancelled w.scene = false → ∀ b w', v.provider.ensure w = (.ok b, w') →
      CleansUp v contract t b w' (v.validate contract t w)) := by
  obtain ⟨verdict, es, w', hv, -, hp⟩ := validate_protocol v contract t w []
  rw [hv]
  cases hp with
  | cancelled hc => exact ⟨fun _ => rfl, by simp [hc], by simp [hc]⟩
  | unavailable hc he => exact ⟨by simp [hc], by simp [he], by simp [he]⟩
  | @notStaged b w₁ e ticket files hc he hs =>
    have hstage := stage_spec v.root contract w₁.ticket w₁.scene.files
    rw [hs] at hstage
    obtain ⟨hd, hg⟩ := hstage
    refine ⟨by simp [hc], by simp [he], fun _ b' w' he' => ?_⟩
    obtain ⟨rfl, rfl⟩ : b = b' ∧ w₁ = w' := by simpa using he.symm.trans he'
    have hgrown := grown_rooted w₁.scene.files v.root
    exact .notStaged (hgrown.congr (hd.trans hgrown.directory.symm) hg)
  | @checked b w₁ project ticket files place request outcome after hc he hs staged hq hr =>
    refine ⟨by simp [hc], by simp [he], fun _ b' w' he' => ?_⟩
    obtain ⟨rfl, rfl⟩ : b = b' ∧ w₁ = w' := by simpa using he.symm.trans he'
    subst hq
    refine .checked staged hr (fun left => cleared_discard staged.vacant left)
      fun left hd outside => ?_
    obtain ⟨hdir, hget⟩ := rooted_discard staged hd outside left
    have hgrown := grown_rooted w₁.scene.files v.root
    exact ⟨hgrown.congr (hdir.trans hgrown.directory.symm) hget,
      (hget place).trans staged.vacant.absent⟩

/-! ## Directories on the way -/

/-- If nobody else changes anything, what a validation leaves is the root. -/
theorem rooted_of_inert (v : Validator σ) (contract : Contract) (t : Token) {w : World σ}
    {b : Compiler.Binary} (hc : t.isCancelled w.scene = false)
    (hp : v.provider.ensure w = (.ok b, w)) (hi : ∀ w, v.provider.invalidate w = w)
    (he : ∀ r t s, (v.executor r t s).2 = s) :
    (v.validate contract t w).2.scene.files.directory = w.scene.files.directory ∧
      ∀ x, (v.validate contract t w).2.scene.files.get? x =
        (rooted w.scene.files v.root).get? x := by
  obtain ⟨verdict, es, w', hv, -, hcase⟩ := validate_protocol v contract t w []
  rw [hv]
  cases hcase with
  | cancelled hc' => simp [hc] at hc'
  | unavailable _ hp' => simp [hp] at hp'
  | @notStaged b' w₁ e ticket files _ hp' hs =>
    obtain ⟨rfl, rfl⟩ : b = b' ∧ w = w₁ := by simpa using hp.symm.trans hp'
    have hstage := stage_spec v.root contract w.ticket w.scene.files
    rw [hs] at hstage
    exact hstage
  | @checked b' w₁ project ticket files place request outcome after _ hp' hs staged _ hr =>
    obtain ⟨rfl, rfl⟩ : b = b' ∧ w = w₁ := by simpa using hp.symm.trans hp'
    obtain rfl : { w.scene with files } = after := by
      have := he request t { w.scene with files }
      rw [hr] at this
      exact this.symm
    have left : AtMostDirectory files project.directory := by
      intro m hm
      have hl := staged.vacant.locate staged.filled.outside
      obtain rfl := Except.ok.inj (hl.symm.trans hm)
      right
      have := staged.filled.inside []
      rwa [List.append_nil] at this
    have hfinal := rooted_discard staged rfl (fun _ _ => rfl) left
    rw [hi, ite_self]
    exact hfinal

/-- A validator whose root is named by way of a directory that may be missing. -/
def roundabout : Validator Unit where
  provider := ⟨fun w => (.ok (.answering (.ofString "clarinet")), w), id⟩
  executor := fun _ _ s => (.ok ⟨some 0, "", "", false⟩, s)
  root := .ofString "/work/x/.."
  limits := {}

/-- A world with nothing but the directory that the validator's root comes to. -/
def bare : World Unit := ⟨⟨⟨[([entry "work"], .directory)], []⟩, false, ()⟩, none, 0⟩

/-- A contract with a single variable. -/
def counter : Contract where
  name := "counter"
  requestedName := "counter"
  body := "(define-data-var n uint u0)"
  safe := by
    have hall : "counter".toList.all Contract.isNameChar = true := by decide
    exact ⟨by decide, by decide, fun c hc => .inl (List.all_eq_true.mp hall c hc)⟩

/-- The directories that are left need not be the root. -/
theorem left_beside_root :
    bare.scene.files.get? [entry "work", entry "x"] = none ∧
    (roundabout.validate counter .fresh bare).2.scene.files.get? [entry "work", entry "x"] =
      some .directory ∧
    (roundabout.validate counter .fresh bare).2.scene.files.locate true roundabout.root =
      .ok [entry "work"] := by
  obtain ⟨hd, hg⟩ := rooted_of_inert roundabout counter .fresh (w := bare) rfl rfl (fun _ => rfl)
    (fun _ _ _ => rfl)
  have hx : (rooted bare.scene.files roundabout.root).get? [entry "work", entry "x"] =
      some .directory := by cbv
  have hroot : (rooted bare.scene.files roundabout.root).locate true roundabout.root =
      .ok [entry "work"] := by cbv
  refine ⟨by cbv, (hg _).trans hx, ?_⟩
  have hd' := hd.trans (grown_rooted bare.scene.files roundabout.root).directory.symm
  rw [locate_congr hd' hg, hroot]

end Validation

end ClarityCheck
