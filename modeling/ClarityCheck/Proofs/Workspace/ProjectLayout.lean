import ClarityCheck.Proofs.Workspace.Manifest
import ClarityCheck.Proofs.Workspace.Staging
import Mathlib

/-!
# The layout of a staged project

A project that has been staged is one new directory directly under the root. It holds a manifest, a
directory for contracts and the contract's file, and its manifest leads back to that file, whatever
name was asked for.

* `Workspace.laidOut_stage`: what a project that has been staged leaves, and what can be read from
  it
* `Workspace.stage_layout`: the layout and the manifest of a staged project, from the name and the
  text that a caller gives
* `Workspace.stage_of_names`: a root where staging succeeds
-/

namespace ClarityCheck

open Files Text

namespace Files

variable {files : Files} {p : Path} {l : Location} {name : FileName} {links : Nat}

instance : Decidable (IsSound p) :=
  decidable_of_iff (p.bytes ≠ [] ∧ 0 ∉ p.bytes ∧ p.bytes.length ≤ pathLimit)
    ⟨fun h => ⟨h.1, h.2.1, h.2.2⟩, fun h => ⟨h.1, h.2, h.3⟩⟩

/-- A name that the system looks up behind a path. -/
structure Names (p : Path) (name : FileName) : Prop where
  isEntryName : IsEntryName name
  length_le : name.length ≤ nameLimit
  isSound : IsSound (p.child name)

namespace Names

/-- A path stands for an entry of the directory that the path before it leads to, unless a link has
to be followed. -/
theorem locate {follow : Bool} (h : Names p name) (hl : Leads files p links l)
    (hlink : follow = false ∨ ∀ target, files.get? (l ++ [name]) ≠ some (.link target)) :
    files.locate follow (p.child name) = .ok (l ++ [name]) := by
  obtain ⟨hn, hlen, hp⟩ := h
  have hentry : walk files follow links l [name] = .ok (l ++ [name]) := by
    rw [walk, if_neg hn.ne_dot, if_neg hn.ne_dotDot, if_neg (Nat.not_lt.mpr hlen)]
    cases hg : files.get? (l ++ [name]) with
    | none => rfl
    | some n => cases n with
      | link target =>
        obtain rfl : follow = false := hlink.resolve_right fun h => h target hg
        rfl
      | file | directory | device => simp [walk]
  rw [locate_of_isSound hp, startOf_child hn, if_pos hl.start, steps_child p hn,
    walk_append _ (by simp), hl.way]
  exact hentry

theorem createDirectory (h : Names p name) (hl : Leads files p links l)
    (hg : files.get? (l ++ [name]) = none) :
    files.createDirectory (p.child name) = .ok (files.put (l ++ [name]) .directory) := by
  rw [Files.createDirectory, if_neg h.isSound.ne_nil, Path.withoutSlashes_child p h.isEntryName,
    h.locate hl (.inl rfl)]
  simp only [hg]

theorem write {content : Bytes} (h : Names p name) (hl : Leads files p links l)
    (hg : files.get? (l ++ [name]) = none) :
    files.write (p.child name) content = .ok (files.put (l ++ [name]) (.file content .plain)) := by
  simp only [Files.write, Path.withoutSlashes_child p h.isEntryName, decide_true,
    h.locate hl (.inr (by simp [hg])), ne_eq, not_true_eq_false, if_false, hg]

theorem read {content : Bytes} {permissions : Permissions} (h : Names p name)
    (hl : Leads files p links l)
    (hg : files.get? (l ++ [name]) = some (.file content permissions)) :
    files.read (p.child name) = .ok content := by
  simp only [Files.read, stat, h.locate hl (.inr (by simp [hg])), hg]

end Names

end Files

namespace Workspace

variable {files files' : Files} {p root : Path} {w : Location} {contract : Contract}
  {project : Project}

/-! ## Where a project stands -/

theorem createFresh_eq {fuel ticket ticket' : Nat}
    (h : createFresh files root fuel ticket = (.ok (p, files'), ticket')) :
    ∃ t, p = root.child (entry (directoryName t)) ∧ ticket ≤ t ∧ t < ticket' := by
  induction fuel generalizing ticket with
  | zero =>
    unfold createFresh at h
    cases h
  | succ fuel ih =>
    unfold createFresh at h
    simp only [join_ofString] at h
    split at h
    · obtain ⟨hp, rfl⟩ := Prod.mk.inj h
      obtain ⟨rfl, -⟩ := Prod.mk.inj (Except.ok.inj hp)
      exact ⟨ticket, rfl, Nat.le_refl _, Nat.lt_succ_self _⟩
    · split at h
      · obtain ⟨t, hp, hle, hlt⟩ := ih h
        exact ⟨t, hp, Nat.le_of_succ_le hle, hlt⟩
      · cases h

/-- The directory of a project has the name of a ticket that has not been used, and stands directly
under the root. -/
theorem createBelow_eq {ticket ticket' : Nat}
    (h : createBelow files root ticket = (.ok (p, files'), ticket')) :
    ∃ base t, absoluteRoot files root = .ok base ∧ p = base.child (entry (directoryName t)) ∧
      ticket ≤ t ∧ t < ticket' := by
  unfold createBelow at h
  split at h
  · cases h
  · next base hr =>
    obtain ⟨t, ht⟩ := createFresh_eq h
    exact ⟨base, t, hr, ht⟩

theorem le_createFresh (files : Files) (root : Path) (fuel ticket : Nat) :
    ticket ≤ (createFresh files root fuel ticket).2 := by
  induction fuel generalizing ticket with
  | zero =>
    unfold createFresh
    exact Nat.le_refl _
  | succ fuel ih =>
    unfold createFresh
    simp only
    split
    · exact Nat.le_succ _
    · split
      · exact Nat.le_of_succ_le (ih _)
      · exact Nat.le_refl _

/-- Tickets that have been used are not used again. -/
theorem le_stage (root : Path) (contract : Contract) (ticket : Nat) (files : Files) :
    ticket ≤ (stage root contract ticket files).2.1 := by
  have hbelow (files : Files) : ticket ≤ (createBelow files root ticket).2 := by
    unfold createBelow
    split
    · exact Nat.le_refl _
    · exact le_createFresh ..
  unfold stage
  split
  · exact Nat.le_refl _
  next made _ =>
    have := hbelow made
    split
    · next h => rwa [h] at this
    · next h =>
      rw [h] at this
      simp only
      split <;> exact this

theorem names_of_writeFile {content : String} {name : FileName} (hn : IsEntryName name)
    (h : writeFile files (p.child name) content = .ok files') : Names p name := by
  unfold writeFile at h
  cases hr : files.write (p.child name) (Utf8.encode content.toList) with
  | error e => rw [hr] at h; cases h
  | ok f =>
    obtain ⟨m, hm, -, -⟩ := write_ok (Path.withoutSlashes_child p hn) hr
    exact ⟨hn, length_le_of_locate hm name (by simp [Path.names_child p hn]), (locate_ok hm).1⟩

/-- The files of a project that has been filled can be looked up. -/
theorem names_of_populate (h : (populate files (.at_ p contract.name) contract).1 = .ok ()) :
    Names p (entry manifestFile) ∧
      Names (p.child (entry contractsDirectory)) (entry (contractFile contract.name)) := by
  unfold populate at h
  simp only at h
  split at h
  · cases h
  split at h
  · cases h
  next hmanifest =>
  split at h
  · cases h
  next hsource =>
  exact ⟨names_of_writeFile isEntryName_manifestFile hmanifest,
    names_of_writeFile (isEntryName_contractFile contract) hsource⟩

/-- Where a project stands that has been staged, and that its files can be looked up. -/
theorem stage_ok {ticket ticket' : Nat}
    (h : stage root contract ticket files = (.ok project, ticket', files')) :
    (∃ base t, absoluteRoot (rooted files root) root = .ok base ∧
      project.directory = base.child (entry (directoryName t)) ∧ ticket ≤ t ∧ t < ticket') ∧
    project = .at_ project.directory contract.name ∧
    Names project.directory (entry manifestFile) ∧
    Names (project.directory.child (entry contractsDirectory))
      (entry (contractFile contract.name)) := by
  unfold stage at h
  rcases hr : files.createDirectories root with ⟨e | _, made⟩
  · simp [hr] at h
  obtain rfl : rooted files root = made := by rw [rooted, hr]
  rcases hb : createBelow (rooted files root) root ticket with ⟨e | ⟨p, files₁⟩, t⟩
  · simp [hr, hb] at h
  rcases hp : populate files₁ (.at_ p contract.name) contract with ⟨e | _, files₂⟩
  · simp [hr, hb, hp] at h
  simp only [hr, hb, hp, Prod.mk.injEq, Except.ok.injEq] at h
  obtain ⟨rfl, rfl, -⟩ := h
  exact ⟨createBelow_eq hb, rfl, names_of_populate (congrArg Prod.fst hp)⟩

theorem contents_manifest (contract : Contract) :
    contents contract [entry manifestFile] =
      some (.file (entry (manifest contract.name)) .plain) := by
  rw [contents, if_neg (by simp), if_pos rfl]

theorem contents_contracts (contract : Contract) :
    contents contract [entry contractsDirectory] = some .directory := by
  rw [contents, if_neg (by simp), if_neg (by decide), if_pos rfl]

theorem contents_source (contract : Contract) :
    contents contract [entry contractsDirectory, entry (contractFile contract.name)]
      = some (.file (entry contract.body) .plain) := by
  rw [contents, if_neg (by simp), if_neg (by simp), if_neg (by simp), if_pos rfl]

/-- What staging leaves when a project has been staged at the location `w`. -/
structure LaidOut (root : Path) (contract : Contract) (files files' : Files) (project : Project)
    (w : Location) : Prop where
  /-- The location is that of an entry of the root. -/
  below : ∃ base links l name, absoluteRoot (rooted files root) root = .ok base ∧
    Leads (rooted files root) base links l ∧ IsEntryName name ∧
    project.directory = base.child name ∧ w = l ++ [name]
  /-- Nothing stood there. -/
  fresh : files.get? w = none
  /-- The tree that stands there now. -/
  tree : ∀ x, files'.get? (w ++ x) = contents contract x
  /-- Besides there is only what was there when the root had been created. -/
  outside : ∀ x, ¬w <+: x → files'.get? x = (rooted files root).get? x
  /-- Creating the root has added nothing but directories on the way to it. -/
  root : Grown root files (rooted files root)
  directory : files'.directory = files.directory
  /-- What can be read by the project's own paths. -/
  manifest : files'.read project.manifestPath = .ok (Utf8.encode (manifest contract.name).toList)
  source : files'.read project.sourcePath = .ok (Utf8.encode contract.body.toList)

theorem laidOut_stage {ticket ticket' : Nat}
    (h : stage root contract ticket files = (.ok project, ticket', files')) :
    ∃ w, LaidOut root contract files files' project w := by
  have hgrown := grown_rooted files root
  have hspec := stage_spec root contract ticket files
  rw [h] at hspec
  obtain ⟨w, hstaged⟩ := hspec
  obtain ⟨⟨base, t, hbase, hdir, -⟩, hproject, hmanifest, hsource⟩ := stage_ok h
  have hn := isEntryName_directoryName t
  have hlocated := hstaged.vacant.located
  rw [hdir] at hlocated
  obtain ⟨links, l, hl, rfl, hlen⟩ := locate_child hn hlocated
  have hnode := hstaged.filled.inside
  -- The directories on the way to the project still stand in the files that staging leaves.
  have hbaseLeads : Leads files' base links l := hl.congr (.inr hstaged.filled.directory)
    (hstaged.vacant.same_of_outside hstaged.filled.outside)
  have hlead : Leads files' project.directory links (l ++ [entry (directoryName t)]) := by
    rw [hdir]
    refine hbaseLeads.child hn hlen ?_
    rw [← List.append_nil (l ++ _), hnode]
    rfl
  have hcontracts := hlead.child isEntryName_contractsDirectory (by decide)
    (by rw [hnode, contents_contracts])
  refine ⟨_, ⟨base, links, l, _, hbase, hl, hn, hdir, rfl⟩, ?_, hnode,
    hstaged.filled.outside, hgrown, hstaged.filled.directory.trans hgrown.directory, ?_, ?_⟩
  · by_contra hne
    have := hgrown.same _ hne
    rw [hstaged.vacant.absent] at this
    exact hne this.symm
  · rw [hproject]
    exact hmanifest.read hlead ((hnode _).trans (contents_manifest contract))
  · have hget : files'.get? (l ++ [entry (directoryName t)] ++ [entry contractsDirectory] ++
        [entry (contractFile contract.name)]) = some (.file (entry contract.body) .plain) := by
      rw [List.append_assoc]
      exact (hnode _).trans (contents_source contract)
    rw [hproject]
    exact hsource.read hcontracts hget

/-- A slash is put behind a path that ends in a name. -/
theorem withSeparator_entry (a : Bytes) {name : FileName} (hn : IsEntryName name) :
    Path.withSeparator (a ++ name) = a ++ name ++ [slash] := by
  have hlast : (a ++ name).getLast? = some (name.getLast hn.ne_nil) := by
    rw [List.getLast?_append, List.getLast?_eq_getLast_of_ne_nil hn.ne_nil]
    rfl
  have hne : name.getLast hn.ne_nil ≠ slash := fun h =>
    hn.slash_not_mem (h ▸ List.getLast_mem hn.ne_nil)
  simp only [Path.withSeparator, hlast, if_neg hne]

/-- The path that the manifest names is that of the contract's file. -/
theorem join_contractPath (p : Path) (contract : Contract) :
    p.join (.ofString (contractPath contract.name)) = (Project.at_ p contract.name).sourcePath := by
  have hdirectory := isEntryName_contractsDirectory
  have hbytes : (Path.ofString (contractPath contract.name)).bytes
      = entry contractsDirectory ++ slash :: entry (contractFile contract.name) := by
    simp only [Path.ofString, contractPath, entry, Utf8.encode, String.toList_append,
      List.flatMap_append, List.append_assoc]
    rfl
  have hrelative : (Path.ofString (contractPath contract.name)).isAbsolute = false := by
    rw [Path.isAbsolute, hbytes]
    rfl
  have hsource : ((p.child (entry contractsDirectory)).child
      (entry (contractFile contract.name))).bytes
        = (p.join (.ofString (contractPath contract.name))).bytes := by
    rw [Path.child_bytes _ (isEntryName_contractFile contract), Path.child_bytes p hdirectory,
      withSeparator_entry _ hdirectory, Path.join, if_neg (by simp [hrelative]), hbytes]
    simp
  exact (congrArg Path.mk hsource).symm

theorem ofInput_ok {name body : String} (h : Contract.ofInput name body = .ok contract) :
    contract.name = String.ofList (Contract.safeName name.toList) ∧ contract.body = body := by
  unfold Contract.ofInput at h
  split at h
  · cases h
  split at h
  · cases h
  · obtain rfl := Except.ok.inj h
    exact ⟨rfl, rfl⟩

/-! ## Staging that succeeds -/

theorem writeFile_of_names (content : String) (h : Names p name) (hl : Leads files p links l)
    (hg : files.get? (l ++ [name]) = none) :
    ∃ files', writeFile files (p.child name) content = .ok files' ∧
      Extended files files' (l ++ [name]) (.file (entry content) .plain) := by
  have hw : writeFile files (p.child name) content
      = .ok (files.put (l ++ [name]) (.file (Utf8.encode content.toList) .plain)) := by
    rw [writeFile, h.write hl hg]
    rfl
  exact ⟨_, hw, writeFile_child hl h.isEntryName hg hw⟩

/-- A project is filled where its directory is empty and its files can be looked up. -/
theorem populate_of_names (hl : Leads files p links w)
    (hempty : ∀ x, x ≠ [] → files.get? (w ++ x) = none)
    (hmanifest : Names p (entry manifestFile)) (hcontracts : Names p (entry contractsDirectory))
    (hsource : Names (p.child (entry contractsDirectory)) (entry (contractFile contract.name))) :
    (populate files (.at_ p contract.name) contract).1 = .ok () := by
  have hne : entry manifestFile ≠ entry contractsDirectory := by decide
  have hcreate := hcontracts.createDirectory hl (hempty _ (by simp))
  obtain ⟨he₁, hc₁⟩ := createDirectory_child hl hcontracts.isEntryName hcreate
  obtain ⟨files₂, hw₂, he₂⟩ := writeFile_of_names (manifest contract.name) hmanifest (he₁.leads hl)
    (by rw [he₁.get, if_neg (by simpa using hne), hempty _ (by simp)])
  obtain ⟨files₃, hw₃, -⟩ := writeFile_of_names contract.body hsource (he₂.leads hc₁) (by
    rw [he₂.get, if_neg (by simp), he₁.get, if_neg (by simp), List.append_assoc,
      hempty _ (by simp)])
  unfold populate
  simp only [Project.at_, join_ofString, hcreate, hw₂, hw₃]

/-- Staging succeeds with the first ticket if the root can be created, nothing stands at the
directory of that ticket, and the project's paths can be looked up. -/
theorem stage_of_names (contract : Contract) {base : Path} {ticket : Nat} {made : Files}
    (hr : files.createDirectories root = (.ok (), made)) (hb : absoluteRoot made root = .ok base)
    (hl : Leads made base links l) (hg : made.get? (l ++ [entry (directoryName ticket)]) = none)
    (hn : Names base (entry (directoryName ticket)))
    (hp : p = base.child (entry (directoryName ticket)))
    (hmanifest : Names p (entry manifestFile)) (hcontracts : Names p (entry contractsDirectory))
    (hsource : Names (p.child (entry contractsDirectory)) (entry (contractFile contract.name))) :
    ∃ files', stage root contract ticket files
      = (.ok (.at_ p contract.name), ticket + 1, files') := by
  subst hp
  have hcreate := hn.createDirectory hl hg
  obtain ⟨he, hway⟩ := createDirectory_child hl hn.isEntryName hcreate
  have hempty (x : Location) (hx : x ≠ []) :
      (made.put (l ++ [entry (directoryName ticket)]) .directory).get?
        (l ++ [entry (directoryName ticket)] ++ x) = none := he.absent_below hx
  have hfilled := populate_of_names hway hempty hmanifest hcontracts hsource
  have hbelow : createBelow made root ticket = (.ok (base.child (entry (directoryName ticket)),
      made.put (l ++ [entry (directoryName ticket)]) .directory), ticket + 1) := by
    simp only [createBelow, hb]
    unfold createFresh
    simp only [join_ofString, hcreate]
  rw [stage, hr]
  simp only [hbelow]
  rcases hpop : populate (made.put (l ++ [entry (directoryName ticket)]) .directory)
    (.at_ (base.child (entry (directoryName ticket))) contract.name) contract with ⟨e | _, files'⟩
  · rw [hpop] at hfilled
    cases hfilled
  · exact ⟨files', rfl⟩

/-- A project that has been staged for a name and a text lies in one new directory under the root,
which holds what `contents` lists, and nothing changes besides but for directories on the way to the
root. The manifest reads as that of the safe name, and the path it gives is that of the contract's
file. -/
theorem stage_layout {name body : String} {ticket ticket' : Nat}
    (hc : Contract.ofInput name body = .ok contract)
    (hs : stage root contract ticket files = (.ok project, ticket', files')) :
    contract.name = String.ofList (Contract.safeName name.toList) ∧ contract.body = body ∧
    (∃ w, LaidOut root contract files files' project w) ∧
    Toml.ofString (manifest contract.name) = .ok (manifestMembers contract.name) ∧
    project.directory.join (.ofString (contractPath contract.name)) = project.sourcePath := by
  obtain ⟨hname, hbody⟩ := ofInput_ok hc
  obtain ⟨-, hproject, -, -⟩ := stage_ok hs
  refine ⟨hname, hbody, laidOut_stage hs, ofString_manifest contract.safe, ?_⟩
  rw [join_contractPath, ← hproject]

/-- A contract whose requested name leads upwards. -/
def climbing : Contract where
  name := "up"
  requestedName := "../up"
  body := "(ok u1)"
  safe := by
    have hall : "up".toList.all Contract.isNameChar = true := by decide
    exact ⟨by decide, by decide, fun c hc => .inl (List.all_eq_true.mp hall c hc)⟩

theorem ofInput_climbing : Contract.ofInput "../up" "(ok u1)" = .ok climbing := by
  have hname : String.ofList (Contract.safeName "../up".toList) = "up" := by decide +kernel
  rw [Contract.ofInput, if_neg (by decide), if_neg (by decide)]
  congr 2

theorem stage_layout_climbing : ∃ project files',
    Contract.ofInput "../up" "(ok u1)" = .ok climbing ∧
    stage (.ofString "/work") climbing 0 ⟨[], []⟩ = (.ok project, 1, files') ∧
    climbing.name = String.ofList (Contract.safeName "../up".toList) ∧ climbing.body = "(ok u1)" ∧
    (∃ w, LaidOut (.ofString "/work") climbing ⟨[], []⟩ files' project w) ∧
    Toml.ofString (manifest climbing.name) = .ok (manifestMembers climbing.name) ∧
    project.directory.join (.ofString (contractPath climbing.name)) = project.sourcePath := by
  have hr : (⟨[], []⟩ : Files).createDirectories (.ofString "/work")
      = (.ok (), ⟨[([entry "work"], .directory)], []⟩) := by cbv
  have hl : Leads ⟨[([entry "work"], .directory)], []⟩ (.ofString "/work") linkLimit
      [entry "work"] :=
    ⟨by cbv, by cbv⟩
  obtain ⟨files', hs⟩ := stage_of_names climbing hr rfl hl (by decide +kernel)
    ⟨isEntryName_directoryName 0, by decide +kernel, by decide +kernel⟩ rfl
    ⟨isEntryName_manifestFile, by decide +kernel, by decide +kernel⟩
    ⟨isEntryName_contractsDirectory, by decide +kernel, by decide +kernel⟩
    ⟨isEntryName_contractFile _, by decide +kernel, by decide +kernel⟩
  exact ⟨_, files', ofInput_climbing, hs, stage_layout ofInput_climbing hs⟩

/-- Files with a directory in `/work`. -/
def beside : Files := ⟨[([entry "work", entry "x"], .directory), ([entry "work"], .directory)], []⟩

/-- The directories that are created for the root need not be above it. -/
theorem staged_beside_root : ∃ project files',
    Contract.ofInput "../up" "(ok u1)" = .ok climbing ∧
    stage (.ofString "/work/x/..") climbing 0 ⟨[], []⟩ = (.ok project, 1, files') ∧
    files'.locate true (.ofString "/work/x/..") = .ok [entry "work"] ∧
    files'.locate false project.directory = .ok [entry "work", entry (directoryName 0)] ∧
    files'.get? [entry "work", entry "x"] = some .directory := by
  have hr : (⟨[], []⟩ : Files).createDirectories (.ofString "/work/x/..") = (.ok (), beside) := by
    cbv
  have hl : Leads beside (.ofString "/work/x/..") linkLimit [entry "work"] := ⟨by cbv, by cbv⟩
  obtain ⟨files', hs⟩ := stage_of_names climbing hr rfl hl (by decide +kernel)
    ⟨isEntryName_directoryName 0, by decide +kernel, by decide +kernel⟩ rfl
    ⟨isEntryName_manifestFile, by decide +kernel, by decide +kernel⟩
    ⟨isEntryName_contractsDirectory, by decide +kernel, by decide +kernel⟩
    ⟨isEntryName_contractFile _, by decide +kernel, by decide +kernel⟩
  have hstaged := stage_spec (.ofString "/work/x/..") climbing 0 ⟨[], []⟩
  rw [hs] at hstaged
  obtain ⟨_, -, hvacant, hfilled⟩ := hstaged
  have hrooted : rooted ⟨[], []⟩ (.ofString "/work/x/..") = beside := congrArg Prod.snd hr
  rw [hrooted] at hvacant hfilled
  obtain ⟨rfl, -⟩ := hl.locate (isEntryName_directoryName 0) (.inl rfl) hvacant.located
  have hroot : beside.locate true (.ofString "/work/x/..") = .ok [entry "work"] := by cbv
  refine ⟨_, files', ofInput_climbing, hs, ?_, hvacant.locate hfilled.outside, ?_⟩
  · exact locate_grows hfilled.directory (hvacant.same_of_outside hfilled.outside)
      (fun hg => absurd hg (by decide +kernel)) hroot
  · rw [hfilled.outside _ (by decide +kernel)]
    rfl

end Workspace

end ClarityCheck
