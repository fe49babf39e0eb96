import ClarityCheck.Proofs.Files.Changes
import ClarityCheck.Workspace.Staging

/-!
# What staging leaves

A project is staged in a directory that did not exist (`Vacant`), holds what `contents` lists, and
is the only change besides directories on the way to the root. Staging that fails changes nothing
else than these directories.

* `populate_spec`: what filling the directory of a project changes
* `discard_restores`: a project that is discarded leaves nothing
* `stage_spec`: what stands where when a contract has been staged, and when it could not be
-/

namespace ClarityCheck.Workspace

open Files Text

variable {files files' made : Files} {p root : Path} {w l : Location} {contract : Contract}
  {name : FileName} {links : Nat}

/-! ## The names of a project -/

/-- The name of an entry as bytes. -/
def entry (name : String) : FileName := Utf8.encode name.toList

theorem join_ofString (p : Path) (name : String) :
    p.join (.ofString name) = p.child (entry name) := rfl

theorem isEntryName_manifestFile : IsEntryName (entry manifestFile) :=
  isEntryName_encode (by decide) (by decide)

theorem isEntryName_contractsDirectory : IsEntryName (entry contractsDirectory) :=
  isEntryName_encode (by decide) (by decide)

theorem isEntryName_contractFile (contract : Contract) :
    IsEntryName (entry (contractFile contract.name)) := by
  refine isEntryName_encode ?_ ?_
  · simp only [contractFile, String.toList_append, List.mem_append, not_or]
    refine ⟨fun h => ?_, by decide⟩
    rcases contract.safe.chars _ h with hc | hc <;> revert hc <;> decide
  · simp [contractFile]

theorem slash_not_mem_nameTail (n : Nat) : '/' ∉ nameTail n := by
  have hdigit : ∀ m < 36, nameDigit m ≠ '/' := by decide
  intro h
  obtain ⟨i, -, hi⟩ := List.mem_map.mp h
  exact hdigit _ (Nat.mod_lt _ (by decide)) hi

theorem isEntryName_directoryName (ticket : Nat) : IsEntryName (entry (directoryName ticket)) := by
  refine isEntryName_encode ?_ ?_
  · simp only [directoryName, String.toList_append, List.mem_append, not_or, String.toList_ofList]
    refine ⟨⟨⟨by decide, fun h => ?_⟩, by decide⟩, slash_not_mem_nameTail ticket⟩
    rw [Nat.toString_eq_ofList_toDigits, String.toList_ofList] at h
    have : '/'.isDigit = true := Nat.isDigit_of_mem_toDigits (by decide) (by decide) h
    revert this
    decide
  · simp [directoryName]

/-! ## Places for projects -/

/-- A path stands for a location where nothing stands yet, in a directory that exists. -/
structure Vacant (files : Files) (p : Path) (w : Location) : Prop where
  absent : files.get? w = none
  located : files.locate false p = .ok w
  isAbsolute : p.isAbsolute = true
  place : ∃ parent name links l, p = parent.child name ∧ IsEntryName name ∧
    name.length ≤ nameLimit ∧
    Leads files parent links l ∧ w = l ++ [name]

namespace Vacant

theorem ne_nil (h : Vacant files p w) : w ≠ [] := ne_nil_of_get? h.absent

/-- What stood somewhere stands outside the place. -/
theorem same_of_outside (h : Vacant made p w) (outside : ∀ x, ¬w <+: x → files.get? x = made.get? x)
    (x : Location) (hx : made.get? x ≠ none) : files.get? x = made.get? x :=
  outside x (not_below h.absent hx)

/-- Whatever changes at the place, its path stands for it. -/
theorem locate (h : Vacant made p w) (outside : ∀ x, ¬w <+: x → files.get? x = made.get? x) :
    files.locate false p = .ok w := by
  obtain ⟨parent, name, links, l, rfl, hn, hlen, hl, rfl⟩ := h.place
  have habs : parent.isAbsolute = true := by rw [← Path.isAbsolute_child hn]; exact h.isAbsolute
  obtain ⟨hsound, -, -⟩ := locate_ok h.located
  exact (hl.congr (Or.inl habs) (h.same_of_outside outside)).locate_eq hsound hn hlen

/-- The path of a place stands for no root. -/
theorem ne_nil_of_locate (h : Vacant made p w) (hl : files.locate false p = .ok l) : l ≠ [] := by
  obtain ⟨parent, name, -, -, rfl, hn, -, -, -⟩ := h.place
  obtain ⟨-, l', -, rfl, -⟩ := locate_child hn hl
  simp

end Vacant

/-! ## Filling a project -/

/-- What a staged project holds, named as seen from its directory. -/
def contents (contract : Contract) (x : Location) : Option Node :=
  if x = [] then some .directory
  else if x = [entry manifestFile] then some (.file (entry (manifest contract.name)) .plain)
  else if x = [entry contractsDirectory] then some .directory
  else if x = [entry contractsDirectory, entry (contractFile contract.name)] then
    some (.file (entry contract.body) .plain)
  else none

/-- Files with one more node. -/
structure Extended (files files' : Files) (l : Location) (n : Node) : Prop where
  directory : files'.directory = files.directory
  absent : files.get? l = none
  get : ∀ x, files'.get? x = if x = l then some n else files.get? x

theorem Extended.leads {n : Node} (h : Extended files files' l n) (hl : Leads files p links w) :
    Leads files' p links w := by
  refine hl.congr (Or.inr h.directory) fun x hx => ?_
  rw [h.get, if_neg]
  rintro rfl
  exact hx h.absent

/-- Nothing is below a node that is new. -/
theorem Extended.absent_below {n : Node} (h : Extended files files' l n) {x : Location}
    (hx : x ≠ []) :
    files'.get? (l ++ x) = none := by
  rw [h.get, if_neg (by simpa using hx), get?_below (List.prefix_append l x) (by simpa using hx)]
  simp [hasDirectory, h.absent]

theorem createDirectory_child (hl : Leads files p links l) (hn : IsEntryName name)
    (h : files.createDirectory (p.child name) = .ok files') :
    Extended files files' (l ++ [name]) .directory ∧
    Leads files' (p.child name) links (l ++ [name]) := by
  obtain ⟨m, hm, hg, hne, hd, rfl⟩ := createDirectory_ok h
  rw [Path.withoutSlashes_child p hn] at hm
  obtain ⟨rfl, hlen⟩ := hl.locate hn (Or.inl rfl) hm
  have he : Extended files (files.put (l ++ [name]) .directory) (l ++ [name]) .directory :=
    ⟨rfl, hg, get?_put_new hg hne hd⟩
  refine ⟨he, (he.leads hl).child hn hlen ?_⟩
  rw [he.get, if_pos rfl]

theorem writeFile_child {content : String} (hl : Leads files p links l) (hn : IsEntryName name)
    (hg : files.get? (l ++ [name]) = none)
    (h : writeFile files (p.child name) content = .ok files') :
    Extended files files' (l ++ [name]) (.file (entry content) .plain) := by
  have hw : files.write (p.child name) (entry content) = .ok files' := by
    unfold writeFile at h
    change (files.write (p.child name) (entry content)).mapError _ = _ at h
    cases hr : files.write (p.child name) (entry content) with
    | error e => rw [hr] at h; cases h
    | ok f => rw [hr] at h; cases h; rfl
  obtain ⟨m, hm, hd, hput⟩ := write_ok (Path.withoutSlashes_child p hn) hw
  obtain ⟨rfl, -⟩ := hl.locate hn (Or.inr (by simp [hg])) hm
  rw [hput hg]
  exact ⟨rfl, hg, get?_put_new hg (by simp) hd⟩

/-- Files that differ from others in what one directory holds, which is listed as seen from it. -/
structure Filled (files files' : Files) (w : Location) (listed : Location → Option Node) :
    Prop where
  directory : files'.directory = files.directory
  outside : ∀ x, ¬w <+: x → files'.get? x = files.get? x
  inside : ∀ x, files'.get? (w ++ x) = listed x

theorem Filled.extended {listed : Location → Option Node} {t : Location} {n : Node}
    {files'' : Files} (h : Filled files files' w listed) (he : Extended files' files'' (w ++ t) n) :
    Filled files files'' w fun x => if x = t then some n else listed x where
  directory := he.directory.trans h.directory
  outside x hx := by
    rw [he.get, if_neg, h.outside x hx]
    rintro rfl
    exact hx (List.prefix_append w t)
  inside x := by simp only [he.get, List.append_right_inj, h.inside]

/-- Filling a project changes nothing outside its directory, and fills it as listed if it succeeds.
-/
theorem populate_spec (contract : Contract) (hl : Leads files p links w)
    (hempty : ∀ x, x ≠ [] → files.get? (w ++ x) = none) :
    ∃ listed, Filled files (populate files (.at_ p contract.name) contract).2 w listed ∧
      listed [] = some .directory ∧
      ((populate files (.at_ p contract.name) contract).1 = .ok () →
        listed = contents contract) := by
  have h₀ : Filled files files w fun x => if x = [] then some .directory else none := by
    refine ⟨rfl, fun _ _ => rfl, fun x => ?_⟩
    split
    · next hx => rw [hx, List.append_nil, hasDirectory_iff.mp hl.hasDirectory]
    · next hx => exact hempty x hx
  have hne : entry manifestFile ≠ entry contractsDirectory := by decide
  unfold populate
  simp only
  split
  · exact ⟨_, h₀, rfl, by simp⟩
  next files₁ hr₁ =>
  obtain ⟨he₁, hc₁⟩ := createDirectory_child hl isEntryName_contractsDirectory hr₁
  have hl₁ := he₁.leads hl
  have h₁ := h₀.extended he₁
  split
  · exact ⟨_, h₁, by simp, by simp⟩
  next files₂ hr₂ =>
  have he₂ := writeFile_child hl₁ isEntryName_manifestFile
    (by rw [h₁.inside]; simp [hne]) hr₂
  have h₂ := h₁.extended he₂
  split
  · exact ⟨_, h₂, by simp, by simp⟩
  next files₃ hr₃ =>
  have hc₂ := he₂.leads hc₁
  have he₃ := writeFile_child hc₂ (isEntryName_contractFile contract)
    (by rw [List.append_assoc, h₂.inside]; simp) hr₃
  rw [List.append_assoc] at he₃
  have h₃ := h₂.extended he₃
  refine ⟨_, h₃, by simp, fun _ => ?_⟩
  funext x
  -- The listing names the same four entries in another order.
  unfold contents
  grind

/-! ## Creating and discarding the directory -/

/-- The directory of a project is new, and its name is that of a ticket. -/
theorem createFresh_ok {fuel ticket : Nat} (hr : root.isAbsolute = true)
    (h : (createFresh files root fuel ticket).1 = .ok (p, files')) :
    ∃ w, Vacant files p w ∧ Extended files files' w .directory ∧ ∃ links,
      Leads files' p links w := by
  induction fuel generalizing ticket with
  | zero =>
    unfold createFresh at h
    cases h
  | succ fuel ih =>
    have hn := isEntryName_directoryName ticket
    unfold createFresh at h
    simp only [join_ofString] at h
    split at h
    · next hc =>
      obtain ⟨rfl, rfl⟩ := Prod.mk.inj (Except.ok.inj h)
      obtain ⟨m, hm, hg, -⟩ := createDirectory_ok hc
      rw [Path.withoutSlashes_child root hn] at hm
      obtain ⟨links, l, hl, rfl, hlen⟩ := locate_child hn hm
      obtain ⟨he, hway⟩ := createDirectory_child hl hn hc
      have habs : (root.child (entry (directoryName ticket))).isAbsolute = true := by
        rw [Path.isAbsolute_child hn, hr]
      exact ⟨_, ⟨hg, hm, habs, root, _, links, l, rfl, hn, hlen, hl, rfl⟩, he, links, hway⟩
    · split at h
      · exact ih h
      · cases h

theorem absoluteRoot_ok (h : absoluteRoot files root = .ok p) : p.isAbsolute = true := by
  unfold absoluteRoot at h
  split at h
  · next hr => cases h; exact hr
  split at h
  · cases h
    exact Path.isAbsolute_join (isAbsolute_pathOf _)
  · cases h

theorem createBelow_ok {ticket : Nat} (h : (createBelow files root ticket).1 = .ok (p, files')) :
    ∃ w, Vacant files p w ∧ Extended files files' w .directory ∧ ∃ links,
      Leads files' p links w := by
  unfold createBelow at h
  split at h
  · cases h
  · next hr => exact createFresh_ok (absoluteRoot_ok hr) h

/-- A path that can be cleared stands for nothing after its tree has been discarded. -/
theorem discard_spec (hc : Clearable files p) (hm : files.locate false p = .ok w) :
    (discard files p).directory = files.directory ∧
      ∀ x, (discard files p).get? x = if w <+: x then none else files.get? x := by
  unfold discard
  rcases removeTree_cases hc hm with ⟨files', hr, hd, hg⟩ | ⟨⟨e, hr⟩, hg⟩
  · rw [hr]
    exact ⟨hd, hg⟩
  · rw [hr]
    exact ⟨rfl, hg⟩

/-- Discarding what a vacant place was filled with brings back what there was. -/
theorem discard_restores (hv : Vacant made p w)
    (outside : ∀ x, ¬w <+: x → files.get? x = made.get? x)
    (left : files.get? w = none ∨ files.get? w = some .directory) :
    (discard files p).directory = files.directory ∧ ∀ x,
      (discard files p).get? x = made.get? x := by
  have hl : files.locate false p = .ok w := hv.locate outside
  have hc : Clearable files p := by
    intro m hm
    obtain rfl := Except.ok.inj (hl.symm.trans hm)
    exact ⟨hv.ne_nil, left.imp id Or.inl⟩
  obtain ⟨hdir, hget⟩ := discard_spec hc hl
  refine ⟨hdir, fun x => ?_⟩
  rw [hget]
  split
  · next hx =>
    by_contra hne
    exact not_below hv.absent (Ne.symm hne) hx
  · next hx => exact outside x hx

/-! ## Staging -/

/-- The files after the root has been created with its missing parents, as far as that is possible.
-/
def rooted (files : Files) (root : Path) : Files := (files.createDirectories root).2

theorem grown_rooted (files : Files) (root : Path) : Grown root files (rooted files root) :=
  createDirectories_grown files root

/-- What stands where when a contract has been staged: the root was created first, and then the
project at the place `w`. -/
structure Staged (root : Path) (contract : Contract) (files files' : Files) (project : Project)
    (w : Location) : Prop where
  project_eq : project = .at_ project.directory contract.name
  vacant : Vacant (rooted files root) project.directory w
  filled : Filled (rooted files root) files' w (contents contract)

/-- Staging that fails leaves what creating the root has left, and staging that does not fail leaves
the project as well. -/
theorem stage_spec (root : Path) (contract : Contract) (ticket : Nat) (files : Files) :
    match stage root contract ticket files with
    | (.error _, _, files') => files'.directory = files.directory ∧
        ∀ x, files'.get? x = (rooted files root).get? x
    | (.ok project, _, files') => ∃ w, Staged root contract files files' project w := by
  have hdir : (rooted files root).directory = files.directory := (grown_rooted files root).directory
  unfold stage
  rcases hr : files.createDirectories root with ⟨e | _, made⟩
  · have hmade : rooted files root = made := by rw [rooted, hr]
    rw [hmade] at hdir
    exact ⟨hdir, fun x => by rw [hmade]⟩
  obtain rfl : rooted files root = made := by rw [rooted, hr]
  rcases hb : createBelow (rooted files root) root ticket with ⟨e | ⟨p, files₁⟩, ticket'⟩
  · simpa [hb] using hdir
  obtain ⟨w, hv, he, links, hl⟩ := createBelow_ok (congrArg Prod.fst hb)
  have hempty (x : Location) (hx : x ≠ []) : files₁.get? (w ++ x) = none := by
    rw [he.get, if_neg (by simpa using hx), get?_below (List.prefix_append w x) (by simpa using hx)]
    simp [hasDirectory, hv.absent]
  have hmade (x : Location) (hx : ¬w <+: x) : files₁.get? x = (rooted files root).get? x := by
    rw [he.get, if_neg]
    rintro rfl
    exact hx (List.prefix_refl _)
  obtain ⟨listed, hf, hlisted, hok⟩ := populate_spec contract hl hempty
  have hf' :
      Filled (rooted files root) (populate files₁ (.at_ p contract.name) contract).2 w listed :=
    ⟨hf.directory.trans he.directory, fun x hx => (hf.outside x hx).trans (hmade x hx), hf.inside⟩
  simp only [hb]
  rcases hp : populate files₁ (.at_ p contract.name) contract with ⟨e | _, files₂⟩
  · rw [hp] at hf'
    have hw : files₂.get? w = some .directory := by
      rw [← hlisted, ← hf'.inside, List.append_nil]
    obtain ⟨hd, hg⟩ := discard_restores hv hf'.outside (Or.inr hw)
    exact ⟨(hd.trans hf'.directory).trans hdir, hg⟩
  · rw [hp] at hf' hok
    obtain rfl := hok rfl
    exact ⟨w, rfl, hv, hf'⟩

end ClarityCheck.Workspace
