import ClarityCheck.Download.OnDisk
import ClarityCheck.Proofs.Files.Changes
import ClarityCheck.Workspace.OnDisk

/-!
# Disks without mishaps

On a disk that meets with no mishap everything comes out as in a file system: a file that is written
in pieces is the file that is written at once.

* `write_eq`: writing a file is emptying it and writing to its end
* `stageOn_calm`: staging on a calm disk
* `fetchingOn_calm`: downloading to a calm disk
-/

namespace ClarityCheck

/-! ## Files that are written in pieces -/

namespace Files

variable {files : Files} {l : Location}

/-- A file that is placed twice is placed as the second time says. -/
theorem put_put {n n' : Node} (h : files.hasDirectory l = false)
    (h' : (files.put l n).hasDirectory l = false) : (files.put l n).put l n' = files.put l n' := by
  rw [put, h', put, put, h]
  simp

theorem hasDirectory_put {n : Node} (hl : l ≠ []) (hn : n ≠ .directory) :
    (files.put l n).hasDirectory l = false := by
  rw [hasDirectory, get?_of_ne_nil _ hl, lookup_put, if_pos rfl]
  split
  · simpa using hn
  · rfl

theorem append_put {before bytes : Bytes} {permissions : Permissions} (hl : l ≠ [])
    (hd : files.hasDirectory l.dropLast = true) (h : files.hasDirectory l = false) :
    (files.put l (.file before permissions)).append l bytes =
      files.put l (.file (before ++ bytes) permissions) := by
  rw [append, get?_put_self files _ hl hd]
  exact put_put h (hasDirectory_put hl (by simp))

/-- Writing a file is emptying it and writing to its end. -/
theorem write_eq (files : Files) (p : Path) (content : Bytes) :
    files.write p content =
      match files.write p [] with
      | .error e => .error e
      | .ok files' =>
        match files.locate true p with
        | .error e => .error e
        | .ok l => .ok (files'.append l content) := by
  unfold write
  simp only
  by_cases hp : p.withoutSlashes = p
  · simp only [hp, decide_true, not_true_eq_false, ne_eq, ↓reduceIte]
    rcases hm : files.locate true p with e | l
    · rfl
    simp only
    have hd := locate_dropLast hm
    rcases hg : files.get? l with _ | n
    · have hl := ne_nil_of_get? hg
      simp only [append_put hl hd (by simp [hasDirectory, hg]), List.nil_append]
    · cases n with
      | directory => rfl
      | file before permissions =>
        have hl : l ≠ [] := by
          rintro rfl
          simp at hg
        simp only [append_put hl hd (by simp [hasDirectory, hg]), List.nil_append]
      | link target | device d => simp only [append, hg]
  · simp only [hp, decide_false, ne_eq, not_false_eq_true, ↓reduceIte]
    split <;> rfl

/-- What is written to the end of a file in two pieces is written at once. -/
theorem append_append (files : Files) (l : Location) (a b : Bytes) :
    (files.append l a).append l b = files.append l (a ++ b) := by
  by_cases hl : l = []
  · subst hl
    rfl
  rcases hg : files.get? l with _ | n
  · simp only [append, hg]
  cases n with
  | file before permissions =>
    have hd : files.hasDirectory l.dropLast = true := by
      rw [get?_of_ne_nil _ hl] at hg
      by_contra hd
      simp [hd] at hg
    have happend (bytes : Bytes) :
        files.append l bytes = files.put l (.file (before ++ bytes) permissions) := by
      simp only [append, hg]
    rw [happend, happend, append_put hl hd (by simp [hasDirectory, hg]), List.append_assoc]
  | link target | device d | directory => simp only [append, hg]

/-- A file that has been opened is written to as it stands. -/
theorem append_nil_of_write {p : Path} {files' : Files} (h : files.write p [] = .ok files')
    (hl : files.locate true p = .ok l) : files'.append l [] = files' := by
  have he := write_eq files p []
  rw [h, hl] at he
  exact (Except.ok.inj he).symm

/-- A file that has been written can be looked up. -/
theorem exists_locate_of_write {p : Path} {content : Bytes} {files' : Files}
    (h : files.write p content = .ok files') : ∃ l, files.locate true p = .ok l := by
  rw [write_eq] at h
  split at h
  · cases h
  · split at h
    · cases h
    · next l hl => exact ⟨l, hl⟩

end Files

/-! ## Single requests -/

namespace Disk

open Files (exists_locate_of_write)

variable {d : Disk} {r : Request} {change : Files → Except SystemError Files} {files : Files}
  {e : SystemError} {p : Path}

/-- A request that meets with no mishap does what the file system does. -/
theorem ask_of_none {mishaps : Mishaps} (hm : mishaps d.log.length = none)
    (h : change d.files = .ok files) :
    d.ask mishaps r change = (.ok (), ⟨files, d.log ++ [(r, none)]⟩) := by
  simp only [ask, hm, h, answer, errorOf?]

theorem ask_calm_ok (h : change d.files = .ok files) :
    d.ask .calm r change = (.ok (), ⟨files, d.log ++ [(r, none)]⟩) :=
  ask_of_none rfl h

theorem ask_calm_error (h : change d.files = .error e) :
    d.ask .calm r change = (.error e, ⟨d.files, d.log ++ [(r, some e)]⟩) := by
  simp only [ask, Mishaps.calm, h, answer, errorOf?]

/-- An answer is this one, and this is what the disk holds then, whatever has been asked of it. -/
def Gives {α ε : Type} (answer : Except ε α × Disk) (result : Except ε α) (files : Files) : Prop :=
  ∃ log, answer = (result, ⟨files, log⟩)

theorem createDirectory_calm_ok (h : d.files.createDirectory p = .ok files) :
    Gives (d.createDirectory .calm p) (.ok ()) files :=
  ⟨_, ask_calm_ok h⟩

theorem createDirectory_calm_error (h : d.files.createDirectory p = .error e) :
    Gives (d.createDirectory .calm p) (.error e) d.files :=
  ⟨_, ask_calm_error h⟩

theorem createDirectoriesWithin_calm (fuel : Nat) (p : Path) (d : Disk) :
    Gives (d.createDirectoriesWithin .calm fuel p) (d.files.createDirectoriesWithin fuel p).1
      (d.files.createDirectoriesWithin fuel p).2 := by
  induction fuel generalizing p d with
  | zero =>
    unfold createDirectoriesWithin Files.createDirectoriesWithin
    split
    · exact ⟨_, rfl⟩
    rcases hc : d.files.createDirectory p with e | files
    · obtain ⟨log, hd⟩ := createDirectory_calm_error hc
      rw [hd]
      simp only
      split
      · exact ⟨_, rfl⟩
      · exact ⟨_, rfl⟩
    · obtain ⟨log, hd⟩ := createDirectory_calm_ok hc
      rw [hd]
      exact ⟨_, rfl⟩
  | succ fuel ih =>
    unfold createDirectoriesWithin Files.createDirectoriesWithin
    split
    · exact ⟨_, rfl⟩
    rcases hc : d.files.createDirectory p with e | files
    · obtain ⟨log, hd⟩ := createDirectory_calm_error hc
      rw [hd]
      simp only
      split
      · -- What is missing is the parent: it is created first, and the path is asked for once more.
        rcases hp : p.parent? with _ | parent
        · exact ⟨_, rfl⟩
        simp only
        obtain ⟨log', hparent⟩ := ih parent ⟨d.files, log⟩
        rw [hparent]
        rcases hr : d.files.createDirectoriesWithin fuel parent with ⟨e | _, files'⟩
        · exact ⟨_, rfl⟩
        simp only
        rcases hc' : files'.createDirectory p with e | files''
        · obtain ⟨log'', hd'⟩ := createDirectory_calm_error (d := ⟨files', log'⟩) hc'
          rw [hd']
          exact ⟨_, rfl⟩
        · obtain ⟨log'', hd'⟩ := createDirectory_calm_ok (d := ⟨files', log'⟩) hc'
          rw [hd']
          exact ⟨_, rfl⟩
      · exact ⟨_, rfl⟩
    · obtain ⟨log, hd⟩ := createDirectory_calm_ok hc
      rw [hd]
      exact ⟨_, rfl⟩

theorem openFile_calm_ok {l : Location} (h : d.files.write p [] = .ok files)
    (hl : d.files.locate true p = .ok l) : Gives (d.openFile .calm p) (.ok l) files := by
  rw [openFile, ask_calm_ok h]
  simp only [hl]
  exact ⟨_, rfl⟩

theorem openFile_calm_error (h : d.files.write p [] = .error e) :
    Gives (d.openFile .calm p) (.error e) d.files := by
  rw [openFile, ask_calm_error h]
  exact ⟨_, rfl⟩

theorem append_calm (l : Location) (bytes : Bytes) (d : Disk) :
    Gives (d.append .calm l bytes) (.ok ()) (d.files.append l bytes) :=
  ⟨_, rfl⟩

theorem write_calm_ok {content : Bytes} (h : d.files.write p content = .ok files) :
    Gives (d.write .calm p content) (.ok ()) files := by
  obtain ⟨l, hl⟩ := exists_locate_of_write h
  rw [Files.write_eq, hl] at h
  rcases hopen : d.files.write p [] with e | files'
  · rw [hopen] at h
    cases h
  · obtain ⟨log, ho⟩ := openFile_calm_ok hopen hl
    rw [hopen] at h
    rw [write, ho]
    simp only
    rw [← Except.ok.inj h]
    exact append_calm l content ⟨files', log⟩

theorem write_calm_error {content : Bytes} (h : d.files.write p content = .error e) :
    Gives (d.write .calm p content) (.error e) d.files := by
  rcases hopen : d.files.write p [] with e' | files'
  · obtain ⟨log, ho⟩ := openFile_calm_error hopen
    rw [Files.write_eq, hopen] at h
    rw [write, ho, ← Except.error.inj h]
    exact ⟨_, rfl⟩
  · -- A file that can be emptied can be written.
    obtain ⟨l, hl⟩ := exists_locate_of_write hopen
    rw [Files.write_eq, hopen, hl] at h
    cases h

end Disk

/-! ## Staging -/

namespace Workspace

open Disk

variable {root : Path} {contract : Contract}

theorem createFreshOn_calm (root : Path) (fuel ticket : Nat) (d : Disk) :
    match createFresh d.files root fuel ticket with
    | (.ok (p, files), next) => ∃ log, createFreshOn .calm .exists_ root fuel ticket d
        = (.ok p, next, ⟨files, log⟩)
    | (.error e, next) => ∃ log, createFreshOn .calm .exists_ root fuel ticket d
        = (.error e, next, ⟨d.files, log⟩) := by
  induction fuel generalizing ticket d with
  | zero => exact ⟨_, rfl⟩
  | succ fuel ih =>
    unfold createFresh createFreshOn
    simp only
    rcases hc : d.files.createDirectory (root.join (.ofString (directoryName ticket)))
      with e | files
    · obtain ⟨log, hd⟩ := createDirectory_calm_error hc
      rw [hd]
      by_cases hk : e.kindOf = .alreadyExists
      · simp only [hk, ↓reduceIte]
        exact ih (ticket + 1) ⟨d.files, log⟩
      · simp only [hk, ↓reduceIte]
        exact ⟨_, rfl⟩
    · obtain ⟨log, hd⟩ := createDirectory_calm_ok hc
      rw [hd]
      exact ⟨_, rfl⟩

theorem createBelowOn_calm (root : Path) (ticket : Nat) (d : Disk) :
    match createBelow d.files root ticket with
    | (.ok (p, files), next) =>
      ∃ log, createBelowOn .calm ⟨d.files.nodes.length + 1, .exists_⟩ root ticket d
        = (.ok p, next, ⟨files, log⟩)
    | (.error e, next) =>
      ∃ log, createBelowOn .calm ⟨d.files.nodes.length + 1, .exists_⟩ root ticket d
        = (.error e, next, ⟨d.files, log⟩) := by
  unfold createBelow createBelowOn
  rcases absoluteRoot d.files root with e | base
  · exact ⟨_, rfl⟩
  · exact createFreshOn_calm base _ ticket d

theorem writeFileOn_calm (p : Path) (content : String) (d : Disk) :
    match writeFile d.files p content with
    | .ok files => Gives (writeFileOn .calm p content d) (.ok ()) files
    | .error e => Gives (writeFileOn .calm p content d) (.error e) d.files := by
  unfold writeFile writeFileOn
  rcases hw : d.files.write p (Text.Utf8.encode content.toList) with e | files
  · obtain ⟨log, hd⟩ := write_calm_error hw
    rw [hd]
    exact ⟨_, rfl⟩
  · obtain ⟨log, hd⟩ := write_calm_ok hw
    rw [hd]
    exact ⟨_, rfl⟩

theorem populateOn_calm (p : Project) (contract : Contract) (d : Disk) :
    Gives (populateOn .calm p contract d) (populate d.files p contract).1
      (populate d.files p contract).2 := by
  unfold populate populateOn
  simp only
  rcases hc : d.files.createDirectory (p.directory.join (.ofString contractsDirectory))
    with e | files
  · obtain ⟨log, hd⟩ := createDirectory_calm_error hc
    rw [hd]
    exact ⟨_, rfl⟩
  obtain ⟨log, hd⟩ := createDirectory_calm_ok hc
  rw [hd]
  simp only
  have hmanifest := writeFileOn_calm p.manifestPath (manifest contract.name) ⟨files, log⟩
  rcases hw : writeFile files p.manifestPath (manifest contract.name) with e | files'
  · rw [hw] at hmanifest
    obtain ⟨log', hd'⟩ := hmanifest
    rw [hd']
    exact ⟨_, rfl⟩
  rw [hw] at hmanifest
  obtain ⟨log', hd'⟩ := hmanifest
  rw [hd']
  simp only
  have hsource := writeFileOn_calm p.sourcePath contract.body ⟨files', log'⟩
  rcases hw' : writeFile files' p.sourcePath contract.body with e | files'' <;> rw [hw'] at hsource
  · exact hsource
  · exact hsource

theorem discardOn_calm (h : Handle) (hh : h.holds = true) (d : Disk) :
    (h.discardOn d).files = discard d.files h.project.directory := by
  unfold Handle.discardOn Handle.dropOn discard
  simp only [hh, Handle.holds_emptied, ↓reduceIte, Bool.false_eq_true]
  rcases hr : d.files.removeTree h.project.directory with e | files
  · rw [removeTree, ask_calm_error hr]
  · rw [removeTree, ask_calm_ok hr]

/-- Staging on a disk without mishaps is staging in its files. -/
theorem stageOn_calm (root : Path) (contract : Contract) (ticket : Nat) (d : Disk) :
    ∃ log,
      stageOn .calm ⟨(d.files.createDirectories root).2.nodes.length + 1, .exists_⟩ root contract
          ticket d =
        ((stage root contract ticket d.files).1.map .of, (stage root contract ticket d.files).2.1,
          ⟨(stage root contract ticket d.files).2.2, log⟩) := by
  unfold stage stageOn
  obtain ⟨log, hd⟩ := createDirectoriesWithin_calm (root.bytes.length + 1) root d
  rw [createDirectories, Files.createDirectories, hd]
  rcases hr : d.files.createDirectoriesWithin (root.bytes.length + 1) root with ⟨e | _, files⟩
  · exact ⟨_, rfl⟩
  simp only
  have hbelow := createBelowOn_calm root ticket ⟨files, log⟩
  rcases hb : createBelow files root ticket with ⟨e | ⟨p, files'⟩, next⟩
  · rw [hb] at hbelow
    obtain ⟨log', hd'⟩ := hbelow
    rw [hd']
    exact ⟨_, rfl⟩
  rw [hb] at hbelow
  obtain ⟨log', hd'⟩ := hbelow
  rw [hd']
  simp only
  obtain ⟨log'', hd''⟩ := populateOn_calm (.at_ p contract.name) contract ⟨files', log'⟩
  rw [show (Handle.of (.at_ p contract.name)).project = .at_ p contract.name from rfl, hd'']
  rcases hp : populate files' (.at_ p contract.name) contract with ⟨e | _, files''⟩
  · have hdiscard := discardOn_calm (.of (.at_ p contract.name)) rfl ⟨files'', log''⟩
    refine ⟨((Handle.of (.at_ p contract.name)).discardOn ⟨files'', log''⟩).log, ?_⟩
    simp only
    rw [← show _ = discard files'' p from hdiscard]
    rfl
  · exact ⟨_, rfl⟩

end Workspace

/-! ## Downloads -/

namespace Download

open Disk

theorem copyOn_calm (l : Location) (brokenOff : Option SystemError) (chunks : List Bytes)
    (written : Nat) (d : Disk) (h : d.files.append l [] = d.files) :
    Gives (copyOn .calm l brokenOff chunks written d)
      (match brokenOff with | some e => .error e | none => .ok (written + chunks.flatten.length))
      (d.files.append l chunks.flatten) := by
  induction chunks generalizing written d with
  | nil =>
    rw [List.flatten_nil, h]
    cases brokenOff <;> exact ⟨_, rfl⟩
  | cons chunk chunks ih =>
    obtain ⟨log, hd⟩ := append_calm l chunk d
    obtain ⟨log', hrest⟩ := ih (written + chunk.length) ⟨d.files.append l chunk, log⟩
      (by rw [Files.append_append, List.append_nil])
    refine ⟨log', ?_⟩
    rw [copyOn, hd]
    simp only [hrest, Files.append_append, List.flatten_cons, List.length_append, Nat.add_assoc]

theorem writeBodyOn_calm (p : Path) (chunks : List Bytes) (brokenOff : Option SystemError)
    (d : Disk) :
    Gives (writeBodyOn .calm p chunks brokenOff d) (writeBody d.files p chunks brokenOff).1
      (writeBody d.files p chunks brokenOff).2 := by
  unfold writeBody writeBodyOn
  rw [Files.write_eq]
  rcases hopen : d.files.write p [] with e | files
  · obtain ⟨log, hd⟩ := openFile_calm_error hopen
    rw [hd]
    exact ⟨_, rfl⟩
  obtain ⟨l, hl⟩ := Files.exists_locate_of_write hopen
  obtain ⟨log, hd⟩ := openFile_calm_ok hopen hl
  obtain ⟨log', hcopy⟩ := copyOn_calm l brokenOff chunks 0 ⟨files, log⟩
    (Files.append_nil_of_write hopen hl)
  rw [hd, hl]
  simp only [hcopy]
  cases brokenOff with
  | some e => exact ⟨_, rfl⟩
  | none =>
    simp only [Nat.zero_add]
    exact ⟨_, rfl⟩

theorem removeFile_files (p : Path) (d : Disk) : (d.removeFile p).2.files = discard d.files p := by
  unfold discard
  rcases hr : d.files.removeFile p with e | files
  · rw [removeFile, ask_calm_error hr]
  · rw [removeFile, ask_calm_ok hr]

theorem installOn_calm (destination : Path) (chunks : List Bytes) (brokenOff : Option SystemError)
    (d : Disk) : Gives (installOn .calm destination chunks brokenOff d)
      (install d.files destination chunks brokenOff).1
      (install d.files destination chunks brokenOff).2 := by
  have hremoved (d : Disk) {α : Type} (result : Except Failure α) :
      Gives (result, (d.removeFile (partialPath destination)).2) result
        (discard d.files (partialPath destination)) :=
    ⟨_, by rw [← removeFile_files]⟩
  unfold install installOn
  obtain ⟨log, hd⟩ := writeBodyOn_calm (partialPath destination) chunks brokenOff d
  simp only [hd]
  rcases hw : writeBody d.files (partialPath destination) chunks brokenOff with ⟨e | written, files⟩
  · exact hremoved _ _
  simp only
  rcases hr : files.rename (partialPath destination) destination with e | files'
  · rw [rename, ask_calm_error hr]
    exact hremoved _ _
  · rw [rename, ask_calm_ok hr]
    exact ⟨_, rfl⟩

/-- Downloading to a disk without mishaps is downloading to its files. -/
theorem fetchingOn_calm {σ : Type} (network : Network σ) (url : Url) (destination : Path)
    (timeout : Duration) (s : Scene σ) : ∃ log, fetchingOn .calm network url destination timeout s =
      ((fetching network url destination timeout s).1,
        (fetching network url destination timeout s).2, log) := by
  unfold fetching fetchingOn
  rcases network url timeout s with ⟨cause | ⟨status, chunks, brokenOff⟩, s'⟩
  · exact ⟨_, rfl⟩
  simp only
  split
  · obtain ⟨log, hd⟩ := installOn_calm destination chunks brokenOff ⟨s'.files, []⟩
    rw [hd]
    exact ⟨_, rfl⟩
  · exact ⟨_, rfl⟩

end Download

end ClarityCheck
