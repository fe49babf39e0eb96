import ClarityCheck.Proofs.Files.StandingDirectory
import ClarityCheck.Proofs.Text.Utf8Roundtrip
import ClarityCheck.Proofs.Workspace.ProjectLayout
import ClarityCheck.Workspace.Handle
import Mathlib.Logic.Relation

/-!
# The life of staged projects

Projects are staged under one root and released one after the other. Meanwhile somebody else may
delete their directories and change what these hold. `Step` lists what can happen; `Ordered` is what
every step keeps once a project has been staged: the directories that stand are those of the
projects that have neither been released nor deleted, and nothing else has changed since the root
was created.

* `directoryName_injective`: different tickets have different names
* `Ordered.add`, `Ordered.clear`, `Ordered.inside`: what single steps keep
* `tidy_of_steps`: what holds after any number of steps
-/

namespace ClarityCheck.Workspace

open Files Text Relation

/-! ## Names of tickets -/

theorem directoryName_injective {t t' : Nat} (h : directoryName t = directoryName t') : t = t' := by
  have hlist : Nat.toDigits 10 t ++ '-' :: nameTail t = Nat.toDigits 10 t' ++
      '-' :: nameTail t' := by
    simpa [directoryName, Nat.toString_eq_ofList_toDigits] using congrArg String.toList h
  -- The digits of the ticket are what stands in front of the hyphen.
  have hcut (n : Nat) (rest : List Char) :
      (Nat.toDigits 10 n ++ '-' :: rest).takeWhile Char.isDigit = Nat.toDigits 10 n := by
    rw [List.takeWhile_append_of_pos fun c => Nat.isDigit_of_mem_toDigits (by decide) (by decide),
      List.takeWhile_cons_of_neg (by decide), List.append_nil]
  have hdigits := congrArg (List.takeWhile Char.isDigit) hlist
  rw [hcut, hcut] at hdigits
  calc t = Nat.ofDigitChars 10 (Nat.toDigits 10 t) 0 := Nat.ofDigitChars_ten_toDigits.symm
    _ = Nat.ofDigitChars 10 (Nat.toDigits 10 t') 0 := by rw [hdigits]
    _ = t' := Nat.ofDigitChars_ten_toDigits

theorem entry_directoryName_injective {t t' : Nat}
    (h : entry (directoryName t) = entry (directoryName t')) : t = t' :=
  directoryName_injective (String.toList_inj.1 (Utf8.encode_injective h))

/-- The path of a ticket's directory under a root. -/
def ticketPath (base : Path) (t : Nat) : Path := base.child (entry (directoryName t))

theorem ticketPath_injective {base : Path} {t t' : Nat}
    (h : ticketPath base t = ticketPath base t') :
    t = t' := by
  have hnames := congrArg Path.names h
  rw [ticketPath, ticketPath, Path.names_child _ (isEntryName_directoryName t),
    Path.names_child _ (isEntryName_directoryName t')] at hnames
  exact entry_directoryName_injective (List.singleton_inj.1 (List.append_cancel_left hnames))

/-- The location of a ticket's directory under a location. -/
def ticketPlace (l : Location) (t : Nat) : Location := l ++ [entry (directoryName t)]

/-- The directory of a ticket is not inside that of another one. -/
theorem eq_of_prefix_ticketPlace {l : Location} {t t' : Nat}
    (h : ticketPlace l t <+: ticketPlace l t') :
    t = t' := by
  have heq : ticketPlace l t = ticketPlace l t' := h.eq_of_length (by simp [ticketPlace])
  exact entry_directoryName_injective (List.singleton_inj.1 (List.append_cancel_left heq))

/-! ## Steps -/

/-- A project that has been staged. -/
structure Slot where
  handle : Handle
  /-- Somebody else has deleted the directory. -/
  deleted : Bool := false

namespace Slot

/-- The directory of the project. -/
def directory (slot : Slot) : Path := slot.handle.project.directory

/-- The project has neither been released nor deleted. -/
def isLive (slot : Slot) : Bool := slot.handle.holds && !slot.deleted

/-- The slot after its handle has been released. -/
def released (slot : Slot) : Slot := { slot with handle := slot.handle.emptied }

/-- The slot after somebody else has deleted the directory. -/
def lost (slot : Slot) : Slot := { slot with deleted := true }

@[simp] theorem directory_released (slot : Slot) : slot.released.directory = slot.directory := rfl

@[simp] theorem directory_lost (slot : Slot) : slot.lost.directory = slot.directory := rfl

@[simp] theorem isLive_released (slot : Slot) : slot.released.isLive = false := rfl

@[simp] theorem isLive_lost (slot : Slot) : slot.lost.isLive = false := by simp [isLive, lost]

end Slot

/-- The files, the next ticket, and the projects that have been staged so far. -/
structure Stock where
  files : Files
  ticket : Nat
  slots : List Slot

/-- The ways to release a handle. -/
inductive Release where
  | close
  | cleanUp
  | drop
  deriving DecidableEq, Repr

/-- What a release leaves. -/
def Release.run (r : Release) (h : Handle) (files : Files) : Files :=
  match r with
  | .close => (h.close files).2
  | .cleanUp => h.cleanUp files
  | .drop => h.drop files

/-- Every release leaves what closing leaves. -/
theorem Release.run_eq (r : Release) (h : Handle) (files : Files) :
    r.run h files = (h.close files).2 := by
  cases r with
  | close => rfl
  | cleanUp => rfl
  | drop => exact h.drop_eq files

/-- The tree at a path is gone, and nothing else has changed. -/
structure Deleted (p : Path) (files files' : Files) : Prop where
  directory : files'.directory = files.directory
  tree : ∃ w, files.locate false p = .ok w ∧ ∀ x, files'.get? x = if w <+: x then none
    else files.get? x

/-- Nothing has changed but for what lies inside the directory at a path. -/
structure ChangedInside (p : Path) (files files' : Files) : Prop where
  directory : files'.directory = files.directory
  outside : ∃ w, files.locate false p = .ok w ∧ files'.get? w = files.get? w ∧
    ∀ x, ¬w <+: x → files'.get? x = files.get? x

/-- What can happen to projects under one root. -/
inductive Step (root : Path) (s : Stock) : Stock → Prop
  | staged {contract : Contract} {project : Project} {ticket : Nat} {files : Files}
    (h : stage root contract s.ticket s.files = (.ok project, ticket, files)) :
    Step root s ⟨files, ticket, s.slots ++ [{ handle := .of project }]⟩
  | notStaged {contract : Contract} {e : StagingError} {ticket : Nat} {files : Files}
    (h : stage root contract s.ticket s.files = (.error e, ticket, files)) :
    Step root s ⟨files, ticket, s.slots⟩
  | released (r : Release) {i : Nat} {slot : Slot} (hi : s.slots[i]? = some slot) :
    Step root s ⟨r.run slot.handle s.files, s.ticket, s.slots.set i slot.released⟩
  /-- Somebody else deletes the directory of a project. -/
  | deleted {i : Nat} {slot : Slot} {files : Files} (hi : s.slots[i]? = some slot)
    (h : Deleted slot.directory s.files files) :
    Step root s ⟨files, s.ticket, s.slots.set i slot.lost⟩
  /-- Somebody else changes what the directory of a project holds. -/
  | changed {i : Nat} {slot : Slot} {files : Files} (hi : s.slots[i]? = some slot)
    (h : ChangedInside slot.directory s.files files) :
    Step root s ⟨files, s.ticket, s.slots⟩

/-! ## The ground of projects -/

variable {root base : Path} {start made files files' : Files} {l w : Location} {s : Stock}
  {slot : Slot} {i t ticket : Nat} {contract : Contract} {project : Project}

/-- Files in which the root has been created, the absolute form of the root, and the location that
it leads to. -/
structure Ground (root : Path) (made : Files) (base : Path) (l : Location) : Prop where
  standing : Standing made root
  absolute : absoluteRoot made root = .ok base
  leads : ∃ links, Leads made base links l

/-- Files that have changed only where nothing stood. -/
structure Kept (made files : Files) : Prop where
  directory : files.directory = made.directory
  same : ∀ x, made.get? x ≠ none → files.get? x = made.get? x

/-- The absolute form of the root is the same in other files. -/
theorem Kept.absoluteRoot (h : Kept made files) (hb : Workspace.absoluteRoot made root = .ok base) :
    Workspace.absoluteRoot files root = .ok base := by
  unfold Workspace.absoluteRoot at hb ⊢
  split at hb
  · next hr => rw [if_pos hr]; exact hb
  next hr =>
  split at hb
  · next hd =>
    have hd' : files.hasDirectory files.directory = true := by
      have := hasDirectory_iff.1 hd
      rw [h.directory, hasDirectory_iff, h.same _ (by simp [this]), this]
    rw [if_neg hr, if_pos hd', currentPath, h.directory]
    exact hb
  · cases hb

/-- The path of a ticket's directory leads to its place. -/
theorem Ground.locate (g : Ground root made base l) (h : Kept made files)
    (hn : Names base (entry (directoryName t))) {follow : Bool}
    (hlink : follow = false ∨ ∀ target, files.get? (ticketPlace l t) ≠ some (.link target)) :
    files.locate follow (ticketPath base t) = .ok (ticketPlace l t) := by
  obtain ⟨links, hl⟩ := g.leads
  exact hn.locate (hl.congr (.inr h.directory) h.same) hlink

/-! ## What every step keeps -/

/-- The project of a slot is that of a ticket, and its directory's path can be looked up. -/
structure Slot.Of (base : Path) (slot : Slot) (t : Nat) : Prop where
  directory : slot.directory = ticketPath base t
  names : Names base (entry (directoryName t))

theorem Slot.Of.unique {t' : Nat} (h : slot.Of base t) (h' : slot.Of base t') : t = t' :=
  ticketPath_injective (h.directory.symm.trans h'.directory)

/-- The directories that stand are those of live projects, and nothing else differs from the files
in which the root was created. -/
structure Ordered (made : Files) (base : Path) (l : Location) (s : Stock) : Prop where
  directory : s.files.directory = made.directory
  /-- Each project has its own ticket, for which nothing stood before. -/
  slots : ∀ (i : Nat) (slot : Slot), s.slots[i]? = some slot → ∃ t < s.ticket, slot.Of base t ∧
    made.get? (ticketPlace l t) = none ∧
    s.files.get? (ticketPlace l t) = if slot.isLive then some .directory else none
  distinct : ∀ (i j : Nat) (slot slot' : Slot), s.slots[i]? = some slot → s.slots[j]? = some slot' →
    slot.directory = slot'.directory → i = j
  others : ∀ x,
    (∀ (i : Nat) (slot : Slot) t, s.slots[i]? = some slot → slot.isLive = true → slot.Of base t →
    ¬ticketPlace l t <+: x) → s.files.get? x = made.get? x

theorem slot_of_concat {slots : List Slot} {slot' : Slot} (h : (slots ++ [slot])[i]? = some slot') :
    slots[i]? = some slot' ∨ i = slots.length ∧ slot' = slot := by
  by_cases hi : i < slots.length
  · rw [List.getElem?_append_left hi] at h
    exact .inl h
  · rw [List.getElem?_append_right (Nat.le_of_not_lt hi)] at h
    rw [List.getElem?_singleton] at h
    split at h
    · next h0 => exact .inr ⟨by omega, (Option.some.inj h).symm⟩
    · cases h

theorem slot_of_set {slots : List Slot} {slot' : Slot} {j : Nat}
    (h : (slots.set i slot)[j]? = some slot') :
    j ≠ i ∧ slots[j]? = some slot' ∨ j = i ∧ slot' = slot := by
  rw [List.getElem?_set] at h
  split at h
  · next hij =>
    split at h
    · exact .inr ⟨hij.symm, (Option.some.inj h).symm⟩
    · cases h
  · next hij => exact .inl ⟨Ne.symm hij, h⟩

namespace Ordered

theorem of_nil (made : Files) (base : Path) (l : Location) (ticket : Nat) :
    Ordered made base l ⟨made, ticket, []⟩ := by
  refine ⟨rfl, ?_, ?_, fun _ _ => rfl⟩
  · intro i slot hi
    cases hi
  · intro i j slot slot' hi
    cases hi

/-- Nothing has changed where something stood. -/
theorem kept (h : Ordered made base l s) : Kept made s.files where
  directory := h.directory
  same x hx := by
    refine h.others x fun i slot t hi _ ht => ?_
    obtain ⟨t', -, ht', hg, -⟩ := h.slots i slot hi
    obtain rfl := ht.unique ht'
    exact not_below hg hx

/-- Files that show the same, and a ticket that is not smaller. -/
theorem congr (h : Ordered made base l s) (hd : files.directory = s.files.directory)
    (same : ∀ x, files.get? x = s.files.get? x) (ht : s.ticket ≤ ticket) :
    Ordered made base l ⟨files, ticket, s.slots⟩ where
  directory := hd.trans h.directory
  slots i slot hi := by
    obtain ⟨t, hlt, hof, hg, hs⟩ := h.slots i slot hi
    exact ⟨t, Nat.lt_of_lt_of_le hlt ht, hof, hg, (same _).trans hs⟩
  distinct := h.distinct
  others x hx := (same x).trans (h.others x hx)

/-- A project of a new ticket is added. -/
theorem add (h : Ordered made base l s) (hle : s.ticket ≤ t) (hlt : t < ticket)
    (hof : slot.Of base t) (hlive : slot.isLive = true) (hd : files.directory = s.files.directory)
    (absent : s.files.get? (ticketPlace l t) = none)
    (stands : files.get? (ticketPlace l t) = some .directory)
    (outside : ∀ x, ¬ticketPlace l t <+: x → files.get? x = s.files.get? x) :
    Ordered made base l ⟨files, ticket, s.slots ++ [slot]⟩ := by
  -- The tickets of earlier projects are smaller.
  have hnew {i : Nat} {slot' : Slot} {t' : Nat} (hi : s.slots[i]? = some slot')
    (ht' : slot'.Of base t') :
      t ≠ t' := by
    obtain ⟨t₁, hlt₁, hof₁, -⟩ := h.slots i slot' hi
    have := ht'.unique hof₁
    omega
  have habsent : made.get? (ticketPlace l t) = none := by
    rw [← h.others _ fun i slot' t' hi _ ht' hp => hnew hi ht' (eq_of_prefix_ticketPlace hp).symm,
      absent]
  refine ⟨hd.trans h.directory, fun i slot' hi => ?_, fun i j slot₁ slot₂ hi hj he => ?_,
    fun x hx => ?_⟩
  · rcases slot_of_concat hi with hi | ⟨-, rfl⟩
    · obtain ⟨t', hlt', hof', hg, hs⟩ := h.slots i slot' hi
      have hapart : ¬ticketPlace l t <+: ticketPlace l t' := fun hp =>
        hnew hi hof' (eq_of_prefix_ticketPlace hp)
      exact ⟨t', Nat.lt_trans (Nat.lt_of_lt_of_le hlt' hle) hlt, hof', hg,
        (outside _ hapart).trans hs⟩
    · exact ⟨t, hlt, hof, habsent, by rw [stands, if_pos hlive]⟩
  · rcases slot_of_concat hi with hi' | ⟨rfl, rfl⟩ <;>
      rcases slot_of_concat hj with hj' | ⟨rfl, rfl⟩
    · exact h.distinct i j slot₁ slot₂ hi' hj' he
    · exact absurd rfl (hnew hi' ⟨he.trans hof.directory, hof.names⟩)
    · exact absurd rfl (hnew hj' ⟨he.symm.trans hof.directory, hof.names⟩)
    · rfl
  · have hout : ¬ticketPlace l t <+: x := hx s.slots.length slot t (by simp) hlive hof
    rw [outside x hout]
    refine h.others x fun i slot' t' hi hl ht' => hx i slot' t' ?_ hl ht'
    obtain ⟨hlength, -⟩ := List.getElem?_eq_some_iff.1 hi
    rw [List.getElem?_append_left hlength, hi]

/-- The directory of a project is removed, and the project is not live any more. -/
theorem clear {slot' : Slot} (h : Ordered made base l s) (hi : s.slots[i]? = some slot)
    (hof : slot.Of base t) (hsame : slot'.directory = slot.directory) (hlive : slot'.isLive = false)
    (hd : files.directory = s.files.directory)
    (gone : ∀ x, files.get? x = if ticketPlace l t <+: x then none else s.files.get? x) :
    Ordered made base l ⟨files, s.ticket, s.slots.set i slot'⟩ := by
  obtain ⟨t₁, hlt, hof₁, habsent, -⟩ := h.slots i slot hi
  obtain rfl := hof.unique hof₁
  -- Projects with different paths have different tickets, so the removal concerns no other one.
  have hother {j : Nat} {slot₁ : Slot} {t₁ : Nat} (hj : s.slots[j]? = some slot₁)
    (ht : slot₁.Of base t₁)
      (hji : j ≠ i) : t ≠ t₁ := by
    rintro rfl
    exact hji (h.distinct j i slot₁ slot hj hi (ht.directory.trans hof.directory.symm))
  refine ⟨hd.trans h.directory, fun j slot₁ hj => ?_, fun j k slot₁ slot₂ hj hk he => ?_,
    fun x hx => ?_⟩
  · rcases slot_of_set hj with ⟨hji, hj⟩ | ⟨-, rfl⟩
    · obtain ⟨t₁, hlt₁, hof₁, hg, hs⟩ := h.slots j slot₁ hj
      have hapart : ¬ticketPlace l t <+: ticketPlace l t₁ := fun hp =>
        hother hj hof₁ hji (eq_of_prefix_ticketPlace hp)
      exact ⟨t₁, hlt₁, hof₁, hg, by rw [gone, if_neg hapart, hs]⟩
    · refine ⟨t, hlt, ⟨hsame.trans hof.directory, hof.names⟩, habsent, ?_⟩
      rw [gone, if_pos (List.prefix_refl _), hlive]
      rfl
  · rcases slot_of_set hj with ⟨-, hj'⟩ | ⟨rfl, rfl⟩ <;> rcases slot_of_set hk
      with ⟨-, hk'⟩ | ⟨rfl, rfl⟩
    · exact h.distinct j k slot₁ slot₂ hj' hk' he
    · exact h.distinct j k slot₁ slot hj' hi (he.trans hsame)
    · exact h.distinct j k slot slot₂ hi hk' (hsame.symm.trans he)
    · rfl
  · rw [gone]
    split
    · next hp =>
      by_contra hne
      exact not_below habsent (Ne.symm hne) hp
    · next hp =>
      refine h.others x fun j slot₁ t₁ hj hl ht => ?_
      by_cases hji : j = i
      · subst hji
        obtain rfl := Option.some.inj (hi.symm.trans hj)
        obtain rfl := hof.unique ht
        exact hp
      · refine hx j slot₁ t₁ ?_ hl ht
        rw [List.getElem?_set, if_neg (Ne.symm hji), hj]

/-- What lies inside the directory of a project changes. -/
theorem inside (h : Ordered made base l s) (hi : s.slots[i]? = some slot) (hof : slot.Of base t)
    (hd : files.directory = s.files.directory)
    (same : files.get? (ticketPlace l t) = s.files.get? (ticketPlace l t))
    (outside : ∀ x, ¬ticketPlace l t <+: x → files.get? x = s.files.get? x) :
    Ordered made base l ⟨files, s.ticket, s.slots⟩ := by
  obtain ⟨t₁, -, hof₁, habsent, hs⟩ := h.slots i slot hi
  obtain rfl := hof.unique hof₁
  refine ⟨hd.trans h.directory, fun j slot₁ hj => ?_, h.distinct, fun x hx => ?_⟩
  · obtain ⟨t₁, hlt₁, hof₁, hg, hs₁⟩ := h.slots j slot₁ hj
    refine ⟨t₁, hlt₁, hof₁, hg, Eq.trans ?_ hs₁⟩
    by_cases htt : t = t₁
    · rw [← htt]
      exact same
    · exact outside _ fun hp => htt (eq_of_prefix_ticketPlace hp)
  · rw [← h.others x hx]
    by_cases hp : ticketPlace l t <+: x
    · -- The project is not live, so neither before nor after does anything stand below its place.
      have hdead : slot.isLive = false := by
        by_contra hl
        exact hx i slot t hi (by simpa using hl) hof hp
      have hnone : s.files.get? (ticketPlace l t) = none := by rw [hs, hdead]; rfl
      have hbelow {files : Files} (hn : files.get? (ticketPlace l t) = none) :
          files.get? x = none := by
        by_contra hne
        exact not_below hn hne hp
      rw [hbelow hnone, hbelow (same.trans hnone)]
    · exact outside x hp

end Ordered

/-! ## Releases -/

/-- The path of a project leads to the place of its ticket. -/
theorem Ordered.locate (h : Ordered made base l s) (g : Ground root made base l)
    (hof : slot.Of base t) :
    s.files.locate false slot.directory = .ok (ticketPlace l t) := by
  rw [hof.directory]
  exact g.locate h.kept hof.names (.inl rfl)

/-- Closing a handle leaves nothing at the place of its project and changes nothing else. It fails
when the directory has been deleted and the handle does not know. -/
theorem Ordered.close (h : Ordered made base l s) (g : Ground root made base l)
    (hi : s.slots[i]? = some slot) : ∃ t, slot.Of base t ∧
      (slot.handle.close s.files).2.directory = s.files.directory ∧
      (∀ x, (slot.handle.close s.files).2.get? x =
        if ticketPlace l t <+: x then none else s.files.get? x) ∧
      ((∃ e, (slot.handle.close s.files).1 = .error e) ↔
        slot.handle.holds = true ∧ slot.deleted = true) := by
  obtain ⟨t, -, hof, habsent, hs⟩ := h.slots i slot hi
  have hl : s.files.locate false slot.handle.project.directory = .ok (ticketPlace l t) :=
    h.locate g hof
  have hclear : Clearable s.files slot.handle.project.directory := by
    intro m hm
    obtain rfl := Except.ok.inj (hl.symm.trans hm)
    refine ⟨by simp [ticketPlace], ?_⟩
    rw [hs]
    cases slot.isLive <;> simp
  obtain ⟨hdir, hget⟩ := discard_spec hclear hl
  refine ⟨t, hof, ?_, ?_, ?_⟩
  · rw [← Handle.drop_eq, Handle.drop]
    split
    · exact hdir
    · rfl
  · intro x
    rw [← Handle.drop_eq, Handle.drop]
    split
    · exact hget x
    · next hholds =>
      -- The handle has been emptied, so nothing stands where its project was.
      have hnone : s.files.get? (ticketPlace l t) = none := by rw [hs]; simp [Slot.isLive, hholds]
      split
      · next hp =>
        by_contra hx
        exact not_below hnone hx hp
      · rfl
  · rw [Handle.close_error_iff]
    refine and_congr_right fun hholds => ?_
    have hlive : slot.isLive = !slot.deleted := by simp [Slot.isLive, hholds]
    rw [hlive] at hs
    cases hd : slot.deleted <;> simp [removeTree, hl, hs, hd]

/-! ## Runs -/

/-- What holds between the steps: nothing has been staged, and at most the root has been created, or
every project has its place. -/
inductive Settled (root : Path) (start : Files) (s : Stock) : Prop
  | empty (h : s.slots = []) (grown : Grown root start s.files)
  | ground {made : Files} {base : Path} {l : Location} (grown : Grown root start made)
    (g : Ground root made base l) (h : Ordered made base l s)

theorem createDirectories_of_stage {ticket' : Nat}
    (h : stage root contract ticket files = (.ok project, ticket', files')) :
    files.createDirectories root = (.ok (), rooted files root) := by
  unfold stage at h
  rcases hr : files.createDirectories root with ⟨e | _, made⟩
  · simp [hr] at h
  · rw [rooted, hr]

/-- Staging finds the ground that it found before. -/
theorem Settled.rooted {links : Nat} (h : Settled root start s)
    (hc : s.files.createDirectories root = (.ok (), Workspace.rooted s.files root))
    (hb : absoluteRoot (Workspace.rooted s.files root) root = .ok base)
    (hl : Leads (Workspace.rooted s.files root) base links l) :
    ∃ made, Grown root start made ∧ Ground root made base l ∧
      Ordered made base l ⟨Workspace.rooted s.files root, s.ticket, s.slots⟩ := by
  cases h with
  | empty h grown =>
    refine ⟨_, grown.trans (grown_rooted s.files root),
      ⟨standing_of_createDirectories hc, hb, links, hl⟩, ?_⟩
    rw [h]
    exact .of_nil ..
  | @ground made base₀ l₀ grown g h =>
    -- The root still stands, so creating it again changes nothing, and it leads to the same
    -- location.
    have hsame : Workspace.rooted s.files root = s.files :=
      createDirectories_of_standing (g.standing.congr h.kept.directory h.kept.same)
    rw [hsame] at hb hl ⊢
    obtain rfl := Except.ok.inj ((h.kept.absoluteRoot g.absolute).symm.trans hb)
    obtain ⟨links₀, hl₀⟩ := g.leads
    obtain ⟨-, rfl⟩ : links₀ = links ∧ l₀ = l := by
      simpa using (hl₀.congr (.inr h.kept.directory) h.kept.same).way.symm.trans hl.way
    exact ⟨made, grown, g, h⟩

/-- Every step keeps what holds between the steps. -/
theorem Settled.step {s' : Stock} (h : Settled root start s) (hs : Step root s s') :
    Settled root start s' := by
  cases hs with
  | @staged contract project ticket files hs =>
    have hstaged := stage_spec root contract s.ticket s.files
    rw [hs] at hstaged
    obtain ⟨w, -, hvacant, hfilled⟩ := hstaged
    obtain ⟨⟨base, t, hbase, hdir, hle, hlt⟩, -⟩ := stage_ok hs
    -- The new directory's path is that of its ticket: one name further than where the root leads.
    have hlocated := hvacant.located
    rw [hdir] at hlocated
    have hn := isEntryName_directoryName t
    obtain ⟨links, l, hl, rfl, hlen⟩ := locate_child hn hlocated
    obtain ⟨made, grown, g, h⟩ := h.rooted (createDirectories_of_stage hs) hbase hl
    have hstands : files.get? (ticketPlace l t) = some .directory := by
      rw [ticketPlace, ← List.append_nil (l ++ _), hfilled.inside]
      rfl
    exact .ground grown g
      (h.add hle hlt ⟨hdir, hn, hlen, (locate_ok hlocated).1⟩ rfl hfilled.directory
      hvacant.absent hstands hfilled.outside)
  | @notStaged contract e ticket files hs =>
    have hfailed := stage_spec root contract s.ticket s.files
    rw [hs] at hfailed
    obtain ⟨hdir, hget⟩ := hfailed
    have hgrown := grown_rooted s.files root
    have hticket := le_stage root contract s.ticket s.files
    rw [hs] at hticket
    cases h with
    | empty h grown =>
      exact .empty h ((grown.trans hgrown).congr (hdir.trans hgrown.directory.symm) hget)
    | ground grown g h =>
      have hsame : Workspace.rooted s.files root = s.files :=
        createDirectories_of_standing (g.standing.congr h.kept.directory h.kept.same)
      rw [hsame] at hget
      exact .ground grown g (h.congr hdir hget hticket)
  | @released r i slot hi =>
    cases h with
    | empty h => simp [h] at hi
    | ground grown g h =>
      obtain ⟨t, hof, hdir, hget, -⟩ := h.close g hi
      rw [r.run_eq]
      exact .ground grown g (h.clear hi hof rfl rfl hdir hget)
  | @deleted i slot files hi hdeleted =>
    cases h with
    | empty h => simp [h] at hi
    | ground grown g h =>
      obtain ⟨t, -, hof, -⟩ := h.slots i slot hi
      obtain ⟨w, hw, hget⟩ := hdeleted.tree
      -- Whoever deletes the directory finds it where the project has it.
      obtain rfl := Except.ok.inj (hw.symm.trans (h.locate g hof))
      exact .ground grown g (h.clear hi hof rfl slot.isLive_lost hdeleted.directory hget)
  | @changed i slot files hi hchanged =>
    cases h with
    | empty h => simp [h] at hi
    | ground grown g h =>
      obtain ⟨t, -, hof, -⟩ := h.slots i slot hi
      obtain ⟨w, hw, hsame, hout⟩ := hchanged.outside
      obtain rfl := Except.ok.inj (hw.symm.trans (h.locate g hof))
      exact .ground grown g (h.inside hi hof hchanged.directory hsame hout)

/-- What holds after any number of steps. -/
theorem settled_of_steps (h : ReflTransGen (Step root) ⟨start, ticket, []⟩ s) :
    Settled root start s := by
  induction h with
  | refl => exact .empty rfl (.refl root start)
  | tail _ hs ih => exact ih.step hs

/-- The projects of a root and the files they stand in: `made` is what there would be without them.
-/
structure Tidy (root : Path) (start made : Files) (s : Stock) : Prop where
  /-- Without the projects there is what was there at the start, and directories on the way to the
  root. -/
  grown : Grown root start made
  directory : s.files.directory = start.directory
  /-- The directories of the projects stand directly under the root and have the names of tickets.
  -/
  below : s.slots ≠ [] → ∃ base, absoluteRoot made root = .ok base ∧
    ∀ slot ∈ s.slots, ∃ t < s.ticket, slot.directory = ticketPath base t
  /-- A directory stands exactly where nothing stood without a project that is live. -/
  stands : ∀ slot ∈ s.slots, s.files.isDirectory slot.directory = slot.isLive ∧
    ∃ w, s.files.locate false slot.directory = .ok w ∧ made.get? w = none ∧
      s.files.get? w = if slot.isLive then some .directory else none
  /-- Outside the directories of live projects nothing differs. -/
  others : ∀ x, (∀ slot ∈ s.slots, slot.isLive = true → ∀ w,
    s.files.locate false slot.directory = .ok w → ¬w <+: x) → s.files.get? x = made.get? x
  /-- All projects have had different directories, none of which is inside another. -/
  distinct : s.slots.Pairwise fun slot slot' => slot.directory ≠ slot'.directory ∧
    ∀ w w', s.files.locate false slot.directory = .ok w →
      s.files.locate false slot'.directory = .ok w' →
      ¬w <+: w' ∧ ¬w' <+: w
  /-- A release takes away what stands at the place of the project, and nothing else. -/
  release : ∀ slot ∈ s.slots, ∀ r : Release, ∀ w, s.files.locate false slot.directory = .ok w →
    (r.run slot.handle s.files).directory = s.files.directory ∧
    ∀ x, (r.run slot.handle s.files).get? x = if w <+: x then none else s.files.get? x
  /-- All kinds of release leave the same files, and closing fails exactly when the directory cannot
  be removed, which is when somebody else has deleted it. -/
  close : ∀ slot ∈ s.slots,
    (∀ r : Release, r.run slot.handle s.files = (slot.handle.close s.files).2) ∧
    ((∃ e, (slot.handle.close s.files).1 = .error e) ↔
      slot.handle.holds = true ∧ ∃ e, s.files.removeTree slot.directory = .error e) ∧
    ((∃ e, (slot.handle.close s.files).1 = .error e) ↔ slot.handle.holds = true ∧
      slot.deleted = true)
  /-- Nothing is left of projects whose handles have all been released. -/
  left : (∀ slot ∈ s.slots, slot.handle.holds = false) → ∀ x, s.files.get? x = made.get? x

/-- A directory stands at the path of a project exactly if the project is live. -/
theorem Ordered.isDirectory (h : Ordered made base l s) (g : Ground root made base l)
    (hof : slot.Of base t)
    (hs : s.files.get? (ticketPlace l t) = if slot.isLive then some .directory else none) :
    s.files.isDirectory slot.directory = slot.isLive := by
  have hl : s.files.locate true slot.directory = .ok (ticketPlace l t) := by
    rw [hof.directory]
    refine g.locate h.kept hof.names (.inr fun target => ?_)
    rw [hs]
    cases slot.isLive <;> simp
  rw [Files.isDirectory, stat, hl]
  cases hlive : slot.isLive <;> simp [hs, hlive]

theorem Ordered.tidy (h : Ordered made base l s) (g : Ground root made base l)
    (grown : Grown root start made) : Tidy root start made s := by
  have hplace {slot : Slot} (hm : slot ∈ s.slots) :
      ∃ (i t : Nat), s.slots[i]? = some slot ∧ t < s.ticket ∧ slot.Of base t ∧
        s.files.locate false slot.directory = .ok (ticketPlace l t) ∧
        made.get? (ticketPlace l t) = none ∧
        s.files.get? (ticketPlace l t) = if slot.isLive then some .directory else none := by
    obtain ⟨i, hi⟩ := List.mem_iff_getElem?.1 hm
    obtain ⟨t, hlt, hof, hg, hs⟩ := h.slots i slot hi
    exact ⟨i, t, hi, hlt, hof, h.locate g hof, hg, hs⟩
  have hothers (x : Location) (hx : ∀ slot ∈ s.slots, slot.isLive = true → ∀ w,
      s.files.locate false slot.directory = .ok w → ¬w <+: x) : s.files.get? x = made.get? x :=
    h.others x fun i slot t hi hl hof => hx slot (List.mem_of_getElem? hi) hl _ (h.locate g hof)
  refine ⟨grown, h.directory.trans grown.directory, ?_, ?_, hothers, ?_, ?_, ?_, ?_⟩
  · refine fun _ => ⟨base, g.absolute, fun slot hm => ?_⟩
    obtain ⟨-, t, -, hlt, hof, -⟩ := hplace hm
    exact ⟨t, hlt, hof.directory⟩
  · intro slot hm
    obtain ⟨-, t, -, -, hof, hl, hg, hs⟩ := hplace hm
    exact ⟨h.isDirectory g hof hs, _, hl, hg, hs⟩
  · rw [List.pairwise_iff_getElem]
    intro i j hi hj hij
    obtain ⟨t, -, hof, -⟩ := h.slots i _ (List.getElem?_eq_getElem hi)
    obtain ⟨t', -, hof', -⟩ := h.slots j _ (List.getElem?_eq_getElem hj)
    have hne : s.slots[i].directory ≠ s.slots[j].directory := fun he =>
      Nat.ne_of_lt hij
        (h.distinct i j _ _ (List.getElem?_eq_getElem hi) (List.getElem?_eq_getElem hj) he)
    have htt : t ≠ t' := by
      rintro rfl
      exact hne (hof.directory.trans hof'.directory.symm)
    refine ⟨hne, fun w w' hw hw' => ?_⟩
    obtain rfl := Except.ok.inj ((h.locate g hof).symm.trans hw)
    obtain rfl := Except.ok.inj ((h.locate g hof').symm.trans hw')
    exact ⟨fun hp => htt (eq_of_prefix_ticketPlace hp),
      fun hp => htt (eq_of_prefix_ticketPlace hp).symm⟩
  · intro slot hm r w hw
    obtain ⟨i, -, hi, -⟩ := hplace hm
    obtain ⟨t, hof, hdir, hget, -⟩ := h.close g hi
    obtain rfl := Except.ok.inj ((h.locate g hof).symm.trans hw)
    rw [r.run_eq]
    exact ⟨hdir, hget⟩
  · intro slot hm
    obtain ⟨i, -, hi, -⟩ := hplace hm
    obtain ⟨-, -, -, -, herror⟩ := h.close g hi
    exact ⟨fun r => r.run_eq _ _, slot.handle.close_error_iff _, herror⟩
  · refine fun hall x => hothers x fun slot hm hl => ?_
    simp [Slot.isLive, hall slot hm] at hl

/-- After any number of steps the directories that stand are those of the projects that have neither
been released nor deleted by somebody else, and all else is as it was but for directories on the way
to the root. A release takes one directory away and changes nothing else, in whichever way it is
done; closing alone tells that the directory was gone. -/
theorem tidy_of_steps (h : ReflTransGen (Step root) ⟨start, ticket, []⟩ s) :
    ∃ made, Tidy root start made s := by
  cases settled_of_steps h with
  | empty h grown =>
    refine ⟨s.files, grown, grown.directory, ?_, ?_, fun _ _ => rfl, ?_, ?_, ?_, fun _ _ => rfl⟩
    all_goals simp [h]
  | ground grown g h => exact ⟨_, h.tidy g grown⟩

/-- Files with nothing but a root. -/
def yard : Files := ⟨[([entry "work"], .directory)], []⟩

theorem stage_yard : ∃ files', stage (.ofString "/work") climbing 0 yard =
    (.ok (.at_ (ticketPath (.ofString "/work") 0) climbing.name), 1, files') := by
  have hl : Leads yard (.ofString "/work") linkLimit [entry "work"] := ⟨by cbv, by cbv⟩
  exact stage_of_names climbing (createDirectories_of_leads (by decide +kernel) hl) rfl hl
    (by decide +kernel) ⟨isEntryName_directoryName 0, by decide +kernel, by decide +kernel⟩ rfl
    ⟨isEntryName_manifestFile, by decide +kernel, by decide +kernel⟩
    ⟨isEntryName_contractsDirectory, by decide +kernel, by decide +kernel⟩
    ⟨isEntryName_contractFile _, by decide +kernel, by decide +kernel⟩

/-- A handle whose directory somebody else has deleted is closed in vain. -/
theorem tidy_of_steps_lost : ∃ s slot, ReflTransGen (Step (.ofString "/work")) ⟨yard, 0, []⟩ s ∧
    s.slots = [slot] ∧ slot.deleted = true ∧ (∃ made, Tidy (.ofString "/work") yard made s) ∧
    ∃ e, (slot.handle.close s.files).1 = .error e := by
  obtain ⟨files₁, hs⟩ := stage_yard
  let slot : Slot := { handle := .of (.at_ (ticketPath (.ofString "/work") 0) climbing.name) }
  have hstaged : ReflTransGen (Step (.ofString "/work")) ⟨yard, 0, []⟩ ⟨files₁, 1, [slot]⟩ :=
    .single (.staged hs)
  obtain ⟨made₁, h₁⟩ := tidy_of_steps hstaged
  obtain ⟨-, w, hw, habsent, -⟩ := h₁.stands _ (List.mem_singleton_self _)
  have hdeleted : Deleted slot.directory files₁ (files₁.eraseTree w) :=
    ⟨rfl, w, hw, fun x => get?_eraseTree files₁ w x (ne_nil_of_get? habsent)⟩
  have hlost : ReflTransGen (Step (.ofString "/work")) ⟨yard, 0, []⟩
      ⟨files₁.eraseTree w, 1, [slot.lost]⟩ := hstaged.tail (.deleted (i := 0) rfl hdeleted)
  obtain ⟨made, h⟩ := tidy_of_steps hlost
  exact ⟨_, _, hlost, rfl, rfl, ⟨made, h⟩,
    ((h.close _ (List.mem_singleton_self _)).2.2).2 ⟨rfl, rfl⟩⟩

end ClarityCheck.Workspace
