import ClarityCheck.Proofs.Files.CalmDisk
import ClarityCheck.Proofs.Files.PathFront
import ClarityCheck.Proofs.Workspace.ProjectLayout

/-!
# Staging that fails goes back

A request that fails is the last one that staging makes, but for the removal of the directory that
it has created. Then everything is as it was, except that directories may have been added on the way
to a root that was not there.

* `createDirectoriesWithin_made`: what is asked to create a root
* `createFreshOn_trying`: what is asked to create a new directory in it
* `write_writing`: what is asked to write a file
* `populateOn_spec`: what is asked to fill a project, and what that changes
* `stageOn_retreats`: what is asked to stage a contract, and what is left if that fails
-/

namespace ClarityCheck

/-! ## Creating the root -/

namespace Disk

open Files

variable {mishaps : Mishaps} {d d' : Disk} {p root : Path} {e : SystemError}

/-- Requests to create a root or a parent of it. -/
def Making (root : Path) (es : List Entry) : Prop :=
  ∀ entry ∈ es, ∃ p, root.OnTheWay p ∧ entry.1 = .createDirectory p

/-- The error of a root that could not be created: that of the last request, or that of a tree
without a root if the last request was for a path without a parent, and the answer that something is
missing. -/
inductive Blames (es : List Entry) : SystemError → Prop
  | last {p : Path} {e : SystemError} (h : es.getLast? = some (.createDirectory p, some e)) :
    Blames es e
  | noParent {p : Path} {e : SystemError} (h : es.getLast? = some (.createDirectory p, some e))
    (hk : e.kindOf = .notFound) (hp : p.parent? = none) : Blames es noWholeTree

theorem Blames.append {fs : List Entry} (es : List Entry) (h : Blames fs e) :
    Blames (es ++ fs) e := by
  have hlast {entry : Entry} (hf : fs.getLast? = some entry) :
      (es ++ fs).getLast? = some entry := by
    rw [List.getLast?_append, hf]
    rfl
  cases h with
  | last h => exact .last (hlast h)
  | noParent h hk hp => exact .noParent (hlast h) hk hp

theorem Making.append {es fs : List Entry} (h : Making root es) (h' : Making root fs) :
    Making root (es ++ fs) := by
  intro entry hm
  rcases List.mem_append.mp hm with hm | hm
  · exact h entry hm
  · exact h' entry hm

theorem Making.mono {es : List Entry} (hp : root.OnTheWay p) (h : Making p es) :
    Making root es := by
  intro entry hm
  obtain ⟨q, hq, heq⟩ := h entry hm
  exact ⟨q, hp.trans hq, heq⟩

/-- What a request for a directory does, with the entry that is made about it. -/
theorem createDirectory_grown {result : Except SystemError Unit}
    (h : d.createDirectory mishaps p = (result, d')) :
    Grown p d.files d'.files ∧ d'.log = d.log ++ [(.createDirectory p, errorOf? result)] ∧
      (∀ e, result = .error e → d'.files = d.files) := by
  cases result with
  | ok _ =>
    obtain ⟨hfiles, hlog⟩ := ask_ok h
    exact ⟨Files.createDirectory_grown hfiles, hlog, by simp⟩
  | error e =>
    obtain ⟨hfiles, hlog⟩ := ask_error h
    exact ⟨hfiles ▸ Grown.refl p d.files, hlog, fun _ _ => hfiles⟩

theorem making_single (p : Path) (answer : Option SystemError) :
    Making p [(.createDirectory p, answer)] := by
  intro entry hm
  rw [List.mem_singleton.mp hm]
  exact ⟨p, .root, rfl⟩

/-- What creating a directory with its parents asks for and adds, and what it blames if it fails. -/
structure Made (root : Path) (d d' : Disk) (result : Except SystemError Unit) : Prop where
  grown : Grown root d.files d'.files
  log : ∃ es, d'.log = d.log ++ es ∧ Making root es ∧ ∀ e, result = .error e → Blames es e

theorem Made.none (root : Path) (d : Disk) : Made root d d (.ok ()) where
  grown := .refl root d.files
  log := ⟨[], (List.append_nil _).symm, by simp [Making], by simp⟩

theorem Made.single {result result' : Except SystemError Unit}
    (h : d.createDirectory mishaps p = (result, d'))
    (he : ∀ e, result' = .error e → Blames [(.createDirectory p, errorOf? result)] e) :
    Made p d d' result' := by
  obtain ⟨hgrown, hlog, -⟩ := createDirectory_grown h
  exact ⟨hgrown, _, hlog, making_single p _, he⟩

theorem Made.trans {d₁ : Disk} {result result' : Except SystemError Unit}
    (h : Made root d d₁ result) (h' : Made root d₁ d' result') : Made root d d' result' := by
  obtain ⟨es, hlog, hes, -⟩ := h.log
  obtain ⟨fs, hlog', hfs, hblames⟩ := h'.log
  exact ⟨h.grown.trans h'.grown, es ++ fs, by rw [hlog', hlog, List.append_assoc], hes.append hfs,
    fun e he => (hblames e he).append es⟩

theorem Made.mono {result : Except SystemError Unit} (hp : root.OnTheWay p)
    (h : Made p d d' result) :
    Made root d d' result := by
  obtain ⟨es, hlog, hes, hblames⟩ := h.log
  exact ⟨h.grown.mono hp, es, hlog, hes.mono hp, hblames⟩

/-- Where a path cannot be created, the error is blamed unless it is that of a directory. -/
theorem Made.last (h : d.createDirectory mishaps p = (.error e, d')) :
    Made p d d' (if d'.files.isDirectory p then .ok () else .error e) := by
  refine .single h fun e' he => ?_
  split at he
  · cases he
  · cases he
    exact .last rfl

/-- Creating a path with its parents asks for directories on the way to it only, and blames the last
request if it fails. Parents get shorter, so that as many as the path has bytes are enough. -/
theorem createDirectoriesWithin_made {fuel : Nat} {result : Except SystemError Unit}
    (hfuel : p.bytes.length < fuel)
    (h : d.createDirectoriesWithin mishaps fuel p = (result, d')) : Made p d d' result := by
  induction fuel generalizing d d' p result with
  | zero => exact absurd hfuel (Nat.not_lt_zero _)
  | succ fuel ih =>
    unfold createDirectoriesWithin at h
    split at h
    · cases h
      exact .none p d
    rcases hc : d.createDirectory mishaps p with ⟨e | _, d₁⟩ <;> rw [hc] at h
    · simp only at h
      have hfirst : Made p d d₁ (.ok ()) := .single hc (by simp)
      split at h
      · next hk =>
        rcases hp : p.parent? with _ | parent <;> rw [hp] at h
        · cases h
          refine .single hc fun e' he => ?_
          cases he
          exact .noParent rfl hk hp
        simp only at h
        have hway : p.OnTheWay parent := .parent .root hp
        have hshorter : parent.bytes.length < fuel :=
          Nat.lt_of_lt_of_le (Path.length_parent?_lt hp) (Nat.le_of_lt_succ hfuel)
        rcases hparent : createDirectoriesWithin mishaps fuel parent d₁ with ⟨e | _, d₂⟩
          <;> rw [hparent] at h
        · cases h
          exact hfirst.trans ((ih hshorter hparent).mono hway)
        simp only at h
        have hsecond := hfirst.trans ((ih hshorter hparent).mono hway)
        rcases hc' : d₂.createDirectory mishaps p with ⟨e | _, d₃⟩ <;> rw [hc'] at h
        · cases h
          exact hsecond.trans (.last hc')
        · cases h
          exact hsecond.trans (.single hc' (by simp))
      · cases h
        exact .last hc
    · cases h
      exact .single hc (by simp)

/-! ## Writing a file -/

/-- Requests to write a file, and the error that the writing ends with. -/
inductive Writing (p : Path) (content : Bytes) : List Entry → Option SystemError → Prop
  | notOpened (e : SystemError) : Writing p content [(.openFile p, some e)] (some e)
  | brokenOff (l : Location) (e : SystemError) :
    Writing p content [(.openFile p, none), (.append l content, some e)] (some e)
  | written (l : Location) : Writing p content [(.openFile p, none), (.append l content, none)] none

theorem write_writing {content : Bytes} {result : Except SystemError Unit}
    (h : d.write mishaps p content = (result, d')) :
    ∃ es, d'.log = d.log ++ es ∧ Writing p content es (errorOf? result) := by
  unfold write openFile at h
  rcases ho : d.ask mishaps (.openFile p) (·.write p []) with ⟨e | _, d₁⟩ <;> rw [ho] at h
  · cases h
    exact ⟨_, (ask_error ho).2, .notOpened e⟩
  obtain ⟨hopen, hlog⟩ := ask_ok ho
  obtain ⟨l, hl⟩ := exists_locate_of_write hopen
  simp only [hl] at h
  obtain ⟨-, -, -, hlog'⟩ := append_answer h
  rw [hlog, List.append_assoc] at hlog'
  refine ⟨_, hlog', ?_⟩
  cases result with
  | error e => exact .brokenOff l e
  | ok _ => exact .written l

end Disk

namespace Workspace

open Files Disk Text

variable {mishaps : Mishaps} {retries : Retries} {exhausted : SystemError} {d d' : Disk}
  {p root base : Path} {w l : Location} {name : FileName} {links fuel ticket next : Nat}
  {contract : Contract} {files : Files}

/-! ## Creating the directory of a project -/

/-- Requests for a new directory whose names belong to the tickets from one on, and what comes of
them. -/
inductive Trying (base : Path) (exhausted : SystemError) :
    (ticket : Nat) → List Entry → Except SystemError Path → Prop
  | exhausted (ticket : Nat) : Trying base exhausted ticket [] (.error exhausted)
  | taken {ticket : Nat} {e : SystemError} {es : List Entry} {result : Except SystemError Path}
    (h : e.kindOf = .alreadyExists) (rest : Trying base exhausted (ticket + 1) es result) :
    Trying base exhausted ticket
      ((.createDirectory (base.child (entry (directoryName ticket))), some e) :: es) result
  | refused {ticket : Nat} {e : SystemError} (h : e.kindOf ≠ .alreadyExists) :
    Trying base exhausted ticket
      [(.createDirectory (base.child (entry (directoryName ticket))), some e)]
      (.error (.text e.kindOf (e.message ++ " at path "
        ++ quotedBytes (base.child (entry (directoryName ticket))).bytes)))
  | created (ticket : Nat) :
    Trying base exhausted ticket
      [(.createDirectory (base.child (entry (directoryName ticket))), none)]
      (.ok (base.child (entry (directoryName ticket))))

/-- Looking for a new directory changes nothing until one is found, which is vacant before. -/
theorem createFreshOn_trying {result : Except SystemError Path} (hb : base.isAbsolute = true)
    (h : createFreshOn mishaps exhausted base fuel ticket d = (result, next, d')) :
    (∃ es, d'.log = d.log ++ es ∧ Trying base exhausted ticket es result) ∧
    (∀ e, result = .error e → d'.files = d.files) ∧
    (∀ p, result = .ok p → ∃ w, Vacant d.files p w ∧ Extended d.files d'.files w .directory ∧
      ∃ links, Leads d'.files p links w) := by
  induction fuel generalizing ticket d with
  | zero =>
    cases h
    exact ⟨⟨[], (List.append_nil _).symm, .exhausted _⟩, fun _ _ => rfl, by simp⟩
  | succ fuel ih =>
    unfold createFreshOn at h
    simp only [join_ofString] at h
    rcases hc : d.createDirectory mishaps (base.child (entry (directoryName ticket)))
      with ⟨e | _, d₁⟩ <;> rw [hc] at h
    · obtain ⟨hfiles, hlog⟩ := ask_error hc
      simp only at h
      split at h
      · next hk =>
        obtain ⟨⟨es, hes, htrying⟩, hsame, hfresh⟩ := ih h
        rw [hlog, List.append_assoc] at hes
        rw [hfiles] at hsame hfresh
        exact ⟨⟨_, hes, .taken hk htrying⟩, hsame, hfresh⟩
      · next hk =>
        cases h
        exact ⟨⟨_, hlog, .refused hk⟩, fun _ _ => hfiles, by simp⟩
    · obtain ⟨hfiles, hlog⟩ := ask_ok hc
      cases h
      refine ⟨⟨_, hlog, .created ticket⟩, by simp, fun p hp => ?_⟩
      obtain rfl := Except.ok.inj hp
      have hcreate : d.files.createDirectory (base.child (entry (directoryName ticket)))
          = .ok d'.files := hfiles
      have hfresh : (createFresh d.files base 1 ticket).1 =
          .ok (base.child (entry (directoryName ticket)), d'.files) := by
        unfold createFresh
        simp only [join_ofString]
        rw [hcreate]
      exact createFresh_ok hb hfresh

/-- What is asked to create a directory below a root that has been created. -/
inductive Placing (made : Files) (root : Path) (exhausted : SystemError) (ticket : Nat) :
    List Entry → Except SystemError Path → Prop
  /-- It is not known where a relative root is. -/
  | nowhere {e : SystemError} (h : absoluteRoot made root = .error e) :
    Placing made root exhausted ticket [] (.error e)
  | tried {base : Path} {es : List Entry} {result : Except SystemError Path}
    (h : absoluteRoot made root = .ok base) (trying : Trying base exhausted ticket es result) :
    Placing made root exhausted ticket es result

theorem createBelowOn_placing {result : Except SystemError Path}
    (h : createBelowOn mishaps retries root ticket d = (result, next, d')) :
    (∃ es, d'.log = d.log ++ es ∧ Placing d.files root retries.exhausted ticket es result) ∧
    (∀ e, result = .error e → d'.files = d.files) ∧
    (∀ p, result = .ok p → ∃ w, Vacant d.files p w ∧ Extended d.files d'.files w .directory ∧
      ∃ links, Leads d'.files p links w) := by
  unfold createBelowOn at h
  split at h
  · next e he =>
    cases h
    exact ⟨⟨[], (List.append_nil _).symm, .nowhere he⟩, fun _ _ => rfl, by simp⟩
  · next base hbase =>
    obtain ⟨⟨es, hlog, htrying⟩, hrest⟩ := createFreshOn_trying (absoluteRoot_ok hbase) h
    exact ⟨⟨es, hlog, .tried hbase htrying⟩, hrest⟩

/-! ## Filling it -/

/-- Writing a new file of a project changes nothing else, however far it comes. -/
theorem write_child {content : Bytes} {result : Except SystemError Unit}
    (hl : Leads d.files p links l) (hn : IsEntryName name) (hg : d.files.get? (l ++ [name]) = none)
    (h : d.write mishaps (p.child name) content = (result, d')) :
    ((∃ e, result = .error e) ∧ d'.files = d.files) ∨
      ∃ stored, Extended d.files d'.files (l ++ [name]) (.file stored .plain) := by
  unfold Disk.write openFile at h
  rcases ho : d.ask mishaps (.openFile (p.child name)) (·.write (p.child name) []) with ⟨e | _, d₁⟩
    <;> rw [ho] at h
  · cases h
    exact .inl ⟨⟨e, rfl⟩, (ask_error ho).1⟩
  have hopen := (ask_ok ho).1
  obtain ⟨m, hm, hd, hput⟩ := write_ok (Path.withoutSlashes_child p hn) hopen
  obtain ⟨rfl, -⟩ := hl.locate hn (.inr (by simp [hg])) hm
  simp only [hm] at h
  obtain ⟨stored, hfiles, -, -⟩ := append_answer h
  have hne : l ++ [name] ≠ [] := by simp
  rw [hput hg, append_put hne hd (by simp [hasDirectory, hg]), List.nil_append] at hfiles
  refine .inr ⟨stored, ?_⟩
  rw [hfiles]
  exact ⟨rfl, hg, get?_put_new hg hne hd⟩

/-- What is asked to fill the directory of a project, and the error that it ends with. -/
inductive Filling (p : Project) (contract : Contract) : List Entry → Option StagingError → Prop
  | contracts (e : SystemError) :
    Filling p contract [(.createDirectory (p.directory.child (entry contractsDirectory)), some e)]
      (some (.noDirectory (p.directory.child (entry contractsDirectory)) e))
  | manifest {es : List Entry} {e : SystemError}
    (h : Writing p.manifestPath (entry (manifest contract.name)) es (some e)) :
    Filling p contract
      ((.createDirectory (p.directory.child (entry contractsDirectory)), none) :: es)
      (some (.notWritten p.manifestPath e))
  | source {es fs : List Entry} {e : SystemError}
    (h : Writing p.manifestPath (entry (manifest contract.name)) es none)
    (h' : Writing p.sourcePath (entry contract.body) fs (some e)) :
    Filling p contract
      ((.createDirectory (p.directory.child (entry contractsDirectory)), none) :: (es ++ fs))
      (some (.notWritten p.sourcePath e))
  | filled {es fs : List Entry}
    (h : Writing p.manifestPath (entry (manifest contract.name)) es none)
    (h' : Writing p.sourcePath (entry contract.body) fs none) :
    Filling p contract
      ((.createDirectory (p.directory.child (entry contractsDirectory)), none) :: (es ++ fs)) none

theorem writeFileOn_child {content : String} {result : Except StagingError Unit}
    (hl : Leads d.files p links l) (hn : IsEntryName name) (hg : d.files.get? (l ++ [name]) = none)
    (h : writeFileOn mishaps (p.child name) content d = (result, d')) :
    (∃ es answer, d'.log = d.log ++ es ∧ Writing (p.child name) (entry content) es answer ∧
      errorOf? result = answer.map (.notWritten (p.child name))) ∧
    ((∃ e, result = .error e) ∧ d'.files = d.files ∨
      ∃ stored, Extended d.files d'.files (l ++ [name]) (.file stored .plain)) := by
  unfold writeFileOn at h
  rcases hw : d.write mishaps (p.child name) (Utf8.encode content.toList) with ⟨e | _, d₁⟩
    <;> rw [hw] at h
  all_goals
    cases h
    obtain ⟨es, hlog, hwriting⟩ := write_writing hw
    refine ⟨⟨es, _, hlog, hwriting, rfl⟩, ?_⟩
  · exact (write_child hl hn hg hw).imp (And.imp_left fun _ => ⟨_, rfl⟩) id
  · exact (write_child hl hn hg hw).imp (And.imp_left fun ⟨_, he⟩ => nomatch he) id

/-- A directory stands at a location, and outside it nothing has changed. -/
structure Entered (files files' : Files) (w : Location) : Prop where
  directory : files'.directory = files.directory
  outside : ∀ x, ¬w <+: x → files'.get? x = files.get? x
  stands : files'.get? w = some .directory

theorem Entered.extended {files' files'' : Files} {t : Location} {n : Node}
    (h : Entered files files' w) (ht : t ≠ []) (he : Extended files' files'' (w ++ t) n) :
    Entered files files'' w where
  directory := he.directory.trans h.directory
  outside x hx := by
    rw [he.get, if_neg, h.outside x hx]
    rintro rfl
    exact hx (List.prefix_append w t)
  stands := by rw [he.get, if_neg (by simpa using ht), h.stands]

theorem Entered.written {files' files'' : Files} {t : Location} {P : Prop}
    (h : Entered files files' w) (ht : t ≠ [])
    (hw : P ∧ files'' = files' ∨ ∃ stored, Extended files' files'' (w ++ t) (.file stored .plain)) :
    Entered files files'' w := by
  rcases hw with ⟨-, rfl⟩ | ⟨stored, he⟩
  · exact h
  · exact h.extended ht he

/-- Filling the directory of a project changes nothing outside it, however far it comes. -/
theorem populateOn_spec {result : Except StagingError Unit} (hl : Leads d.files p links w)
    (hempty : ∀ x, x ≠ [] → d.files.get? (w ++ x) = none)
    (h : populateOn mishaps (.at_ p contract.name) contract d = (result, d')) :
    Entered d.files d'.files w ∧
      ∃ es, d'.log = d.log ++ es ∧
      Filling (.at_ p contract.name) contract es (errorOf? result) := by
  have h₀ : Entered d.files d.files w := ⟨rfl, fun _ _ => rfl, hasDirectory_iff.mp hl.hasDirectory⟩
  have hne : entry manifestFile ≠ entry contractsDirectory := by decide
  unfold populateOn at h
  simp only [join_ofString, show (Project.at_ p contract.name).directory = p from rfl] at h
  rcases hc : d.createDirectory mishaps (p.child (entry contractsDirectory)) with ⟨e | _, d₁⟩
    <;> rw [hc] at h
  · obtain ⟨hfiles, hlog⟩ := ask_error hc
    cases h
    exact ⟨hfiles.symm ▸ h₀, _, hlog, .contracts e⟩
  obtain ⟨hcreate, hlog₁⟩ := ask_ok hc
  obtain ⟨he₁, hc₁⟩ := createDirectory_child hl isEntryName_contractsDirectory hcreate
  have hl₁ := he₁.leads hl
  have h₁ := h₀.extended (by simp) he₁
  have hmanifest : d₁.files.get? (w ++ [entry manifestFile]) = none := by
    rw [he₁.get, if_neg (by simpa using hne), hempty _ (by simp)]
  simp only at h
  rcases hm : writeFileOn mishaps (p.child (entry manifestFile)) (manifest contract.name) d₁
    with ⟨e | _, d₂⟩
  all_goals
    rw [show writeFileOn mishaps (Project.at_ p contract.name).manifestPath _ d₁ = _ from hm] at h
    obtain ⟨⟨es, answer, hlog₂, hwriting, hanswer⟩, hw⟩ :=
      writeFileOn_child hl₁ isEntryName_manifestFile hmanifest hm
  · cases h
    refine ⟨h₁.written (by simp) hw, _, by rw [hlog₂, hlog₁, List.append_assoc], ?_⟩
    obtain ⟨e', rfl, rfl⟩ := Option.map_eq_some_iff.mp hanswer.symm
    exact .manifest hwriting
  obtain rfl := Option.map_eq_none_iff.mp hanswer.symm
  -- The manifest is there; only now the contract is written, into the directory that stands beside
  -- it.
  obtain ⟨stored, he₂⟩ := hw.resolve_left fun ⟨⟨_, he⟩, _⟩ => nomatch he
  have hsource : d₂.files.get? (w ++ [entry contractsDirectory] ++
      [entry (contractFile contract.name)]) = none := by
    rw [he₂.get, if_neg (by simp), he₁.get, if_neg (by simp), List.append_assoc, hempty _ (by simp)]
  obtain ⟨⟨fs, answer', hlog₃, hwriting', hanswer'⟩, hw'⟩ :=
    writeFileOn_child (he₂.leads hc₁) (isEntryName_contractFile contract) hsource h
  rw [List.append_assoc] at hw'
  have hlog : d'.log =
      d.log ++ (.createDirectory (p.child (entry contractsDirectory)), none) :: (es ++ fs) := by
    rw [hlog₃, hlog₂, hlog₁, List.append_assoc, List.append_assoc]
    rfl
  refine ⟨(h₁.extended (by simp) he₂).written (by simp) hw', _, hlog, ?_⟩
  rw [hanswer']
  cases answer' with
  | none => exact .filled hwriting hwriting'
  | some e => exact .source hwriting hwriting'

/-! ## Staging as a whole -/

/-- What is asked of a disk to stage a contract, and how that ends: the step that fails is the last
one, and its error says what has failed. -/
inductive Course (files : Files) (root : Path) (exhausted : SystemError) (contract : Contract)
    (ticket : Nat) : List Entry → Except StagingError Path → Prop
  /-- The root cannot be created. -/
  | root {es : List Entry} {e : SystemError} (making : Making root es) (blames : Blames es e) :
    Course files root exhausted contract ticket es (.error (.noDirectory root e))
  /-- No directory can be created in it. -/
  | directory {es fs : List Entry} {e : SystemError} {made : Files} (making : Making root es)
    (grown : Grown root files made) (placing : Placing made root exhausted ticket fs (.error e)) :
    Course files root exhausted contract ticket (es ++ fs) (.error (.noDirectory root e))
  /-- The directory cannot be filled, and is removed once. -/
  | project {es fs gs : List Entry} {made : Files} {p : Path} {e : StagingError}
    (making : Making root es) (grown : Grown root files made)
    (placing : Placing made root exhausted ticket fs (.ok p))
    (filling : Filling (.at_ p contract.name) contract gs (some e)) :
    Course files root exhausted contract ticket (es ++ fs ++ gs ++ [(.removeTree p, none)])
      (.error e)
  /-- The project is there. -/
  | staged {es fs gs : List Entry} {made : Files} {p : Path} (making : Making root es)
    (grown : Grown root files made) (placing : Placing made root exhausted ticket fs (.ok p))
    (filling : Filling (.at_ p contract.name) contract gs none) :
    Course files root exhausted contract ticket (es ++ fs ++ gs) (.ok p)

/-- A directory that is discarded is removed once, and what stood outside it is what is left. -/
theorem discardOn_of_entered {made : Files} {h : Handle} (hh : h.holds = true)
    (hv : Vacant made h.project.directory w) (he : Entered made d.files w) :
    (h.discardOn d).log = d.log ++ [(.removeTree h.project.directory, none)] ∧
      (h.discardOn d).files.directory = made.directory ∧
      ∀ x, (h.discardOn d).files.get? x = made.get? x := by
  have hremove : d.files.removeTree h.project.directory = .ok (d.files.eraseTree w) := by
    simp only [Files.removeTree, hv.locate he.outside, he.stands]
  have hasked :
      d.ask .calm (.removeTree h.project.directory) (·.removeTree h.project.directory) = _ :=
    ask_calm_ok hremove
  have hdiscard : h.discardOn d =
      ⟨d.files.eraseTree w, d.log ++ [(.removeTree h.project.directory, none)]⟩ := by
    simp only [Handle.discardOn, Handle.dropOn, hh, Handle.holds_emptied, ↓reduceIte,
      Bool.false_eq_true, Disk.removeTree, hasked]
  rw [hdiscard]
  refine ⟨rfl, he.directory, fun x => ?_⟩
  rw [get?_eraseTree _ _ _ hv.ne_nil]
  split
  · next hx =>
    by_contra hne
    exact not_below hv.absent (Ne.symm hne) hx
  · next hx => exact he.outside x hx

/-- What staging asks for and leaves. -/
theorem stageOn_spec {result : Except StagingError Handle}
    (h : stageOn mishaps retries root contract ticket d = (result, next, d')) :
    (∃ es, d'.log = d.log ++ es ∧ Course d.files root retries.exhausted contract ticket es
      (result.map (·.project.directory))) ∧
    ∀ e, result = .error e → Grown root d.files d'.files := by
  unfold stageOn Disk.createDirectories at h
  rcases hr : d.createDirectoriesWithin mishaps (root.bytes.length + 1) root with ⟨e | _, d₁⟩
    <;> rw [hr] at h
  all_goals
    obtain ⟨hgrown, es, hlog₁, hmaking, hblames⟩ :=
      createDirectoriesWithin_made (Nat.lt_succ_self _) hr
  · cases h
    exact ⟨⟨es, hlog₁, .root hmaking (hblames e rfl)⟩, fun _ _ => hgrown⟩
  simp only at h
  rcases hb : createBelowOn mishaps retries root ticket d₁ with ⟨e | p, next', d₂⟩ <;> rw [hb] at h
  all_goals
    obtain ⟨⟨fs, hlog₂, hplacing⟩, hsame, hfresh⟩ := createBelowOn_placing hb
    rw [hlog₁, List.append_assoc] at hlog₂
  · cases h
    refine ⟨⟨es ++ fs, hlog₂, .directory hmaking hgrown hplacing⟩, fun _ _ => ?_⟩
    rw [hsame e rfl]
    exact hgrown
  obtain ⟨w, hv, he, links, hl⟩ := hfresh p rfl
  have hempty (x : Location) (hx : x ≠ []) : d₂.files.get? (w ++ x) = none := he.absent_below hx
  simp only [Handle.of] at h
  rcases hp : populateOn mishaps (.at_ p contract.name) contract d₂
    with ⟨e | _, d₃⟩ <;> rw [hp] at h
  all_goals
    obtain ⟨hentered, gs, hlog₃, hfilling⟩ := populateOn_spec hl hempty hp
    rw [hlog₂, List.append_assoc] at hlog₃
  · have hentered' : Entered d₁.files d₃.files w := by
      refine ⟨hentered.directory.trans he.directory, fun x hx => ?_, hentered.stands⟩
      rw [hentered.outside x hx, he.get, if_neg]
      rintro rfl
      exact hx (List.prefix_refl x)
    obtain ⟨hlog₄, hdir, hget⟩ :=
      discardOn_of_entered (h := .of (.at_ p contract.name)) rfl hv hentered'
    cases h
    refine ⟨⟨es ++ fs ++ gs ++ [(.removeTree p, none)], ?_,
      .project hmaking hgrown hplacing hfilling⟩, fun _ _ => hgrown.congr hdir hget⟩
    rw [hlog₃, List.append_assoc] at hlog₄
    exact hlog₄
  · cases h
    exact ⟨⟨es ++ fs ++ gs, hlog₃, .staged hmaking hgrown hplacing hfilling⟩, by simp⟩

/-- Staging makes its requests in order and none after one that fails, but for the removal of the
directory that it has created. If it fails, nothing is left but directories that were missing on the
way to the root, and everything else is what it was; where the root was there already, everything
is. Without mishaps this is the staging of the library. -/
theorem stageOn_retreats {result : Except StagingError Handle}
    (h : stageOn mishaps retries root contract ticket d = (result, next, d')) :
    (∃ es, d'.log = d.log ++ es ∧ Course d.files root retries.exhausted contract ticket es
      (result.map (·.project.directory))) ∧
    (∀ e, result = .error e → Grown root d.files d'.files ∧
      (Standing d.files root → ∀ x, d'.files.get? x = d.files.get? x)) ∧
    (mishaps = .calm → retries = ⟨(rooted d.files root).nodes.length + 1, .exists_⟩ →
      stage root contract ticket d.files = (result.map (·.project), next, d'.files)) := by
  obtain ⟨hcourse, hgrown⟩ := stageOn_spec h
  refine ⟨hcourse, fun e he => ⟨hgrown e he, (hgrown e he).same_of_standing⟩, ?_⟩
  rintro rfl rfl
  obtain ⟨log, hcalm⟩ := stageOn_calm root contract ticket d
  rw [rooted] at h
  rw [h] at hcalm
  simp only [Prod.mk.injEq] at hcalm
  obtain ⟨rfl, rfl, rfl⟩ := hcalm
  rcases stage root contract ticket d.files with ⟨e | project, next, files⟩ <;> rfl

/-! ## A disk that is full -/

/-- A new directory is created where no mishap comes. -/
theorem createDirectory_of_none (h : Names p name) (hl : Leads d.files p links l)
    (hg : d.files.get? (l ++ [name]) = none) (hm : mishaps d.log.length = none) :
    ∃ d', d.createDirectory mishaps (p.child name) = (.ok (), d') ∧
      d'.log.length = d.log.length + 1 ∧ Extended d.files d'.files (l ++ [name]) .directory ∧
      Leads d'.files (p.child name) links (l ++ [name]) := by
  have hcreate := h.createDirectory hl hg
  exact ⟨_, ask_of_none hm hcreate, by simp, createDirectory_child hl h.isEntryName hcreate⟩

/-- A new file is opened where no mishap comes. -/
theorem openFile_child (h : Names p name) (hl : Leads d.files p links l)
    (hg : d.files.get? (l ++ [name]) = none) (hm : mishaps d.log.length = none) :
    d.openFile mishaps (p.child name) = (.ok (l ++ [name]),
      ⟨d.files.put (l ++ [name]) (.file [] .plain),
        d.log ++ [(.openFile (p.child name), none)]⟩) := by
  rw [openFile, ask_of_none hm (h.write hl hg)]
  simp only [h.locate hl (.inr (by simp [hg]))]

/-- A new file of a project is written where no mishap comes. -/
theorem writeFileOn_of_none (content : String) (h : Names p name) (hl : Leads d.files p links l)
    (hg : d.files.get? (l ++ [name]) = none) (hm : mishaps d.log.length = none)
    (hm' : mishaps (d.log.length + 1) = none) :
    ∃ d', writeFileOn mishaps (p.child name) content d = (.ok (), d') ∧
      d'.log.length = d.log.length + 2 ∧
      ∃ stored, Extended d.files d'.files (l ++ [name]) (.file stored .plain) := by
  obtain ⟨d', hwrite⟩ : ∃ d', d.write mishaps (p.child name) (entry content) = (.ok (), d') := by
    rw [Disk.write, openFile_child h hl hg hm]
    simp only [Disk.append, List.length_append, List.length_singleton, hm']
    exact ⟨_, rfl⟩
  obtain ⟨es, hlog, hwriting⟩ := write_writing hwrite
  have hextended := (write_child hl h.isEntryName hg hwrite).resolve_left (by simp)
  refine ⟨d', ?_, ?_, hextended⟩
  · unfold entry at hwrite
    rw [writeFileOn, hwrite]
  · rw [hlog, List.length_append]
    cases hwriting
    rfl

/-- A mishap while the content is stored ends the writing of a new file. -/
theorem writeFileOn_of_some (content : String) (h : Names p name) (hl : Leads d.files p links l)
    (hg : d.files.get? (l ++ [name]) = none) (hm : mishaps d.log.length = none) {mishap : Mishap}
    (hm' : mishaps (d.log.length + 1) = some mishap) :
    ∃ d', writeFileOn mishaps (p.child name) content d =
      (.error (.notWritten (p.child name) mishap.error), d') := by
  rw [writeFileOn, Disk.write, openFile_child h hl hg hm]
  simp only [Disk.append, List.length_append, List.length_singleton, hm']
  exact ⟨_, rfl⟩

/-- A mishap while the text of the contract is stored, the fifth request, ends the filling of a
project. -/
theorem populateOn_of_some (contract : Contract) (hl : Leads d.files p links w)
    (hempty : ∀ x, x ≠ [] → d.files.get? (w ++ x) = none)
    (hmanifest : Names p (entry manifestFile)) (hcontracts : Names p (entry contractsDirectory))
    (hsource : Names (p.child (entry contractsDirectory)) (entry (contractFile contract.name)))
    (hm : ∀ k, k < 4 → mishaps (d.log.length + k) = none) {mishap : Mishap}
    (hm' : mishaps (d.log.length + 4) = some mishap) :
    ∃ d', populateOn mishaps (.at_ p contract.name) contract d =
      (.error (.notWritten (Project.at_ p contract.name).sourcePath mishap.error), d') := by
  have hne : entry manifestFile ≠ entry contractsDirectory := by decide
  obtain ⟨d₁, hd₁, hlen₁, he₁, hc₁⟩ :=
    createDirectory_of_none hcontracts hl (hempty _ (by simp)) (hm 0 (by omega))
  obtain ⟨d₂, hd₂, hlen₂, _, he₂⟩ :=
    writeFileOn_of_none (manifest contract.name) hmanifest (he₁.leads hl)
    (by rw [he₁.get, if_neg (by simpa using hne), hempty _ (by simp)])
    (by rw [hlen₁]; exact hm 1 (by omega)) (by rw [hlen₁]; exact hm 2 (by omega))
  rw [hlen₁] at hlen₂
  obtain ⟨d₃, hd₃⟩ := writeFileOn_of_some contract.body hsource (he₂.leads hc₁)
    (by rw [he₂.get, if_neg (by simp), he₁.absent_below (by simp)])
    (by rw [hlen₂]; exact hm 3 (by omega)) (by rw [hlen₂]; exact hm')
  refine ⟨d₃, ?_⟩
  unfold populateOn
  simp only [Project.at_, join_ofString, hd₁, hd₂, hd₃]

/-- A disk that is full when the text of a contract is stored. -/
def fullLate : Mishaps := fun k => if k = 6 then some ⟨.code 28, 3⟩ else none

/-- Files with nothing but a root. -/
def emptyRoot : Files := ⟨[([entry "work"], .directory)], []⟩

/-- The project that is begun on that disk. -/
def begun : Project := .at_ ((Path.ofString "/work").child (entry (directoryName 0))) climbing.name

/-- That disk when the root has been found to be there, which is the first request. -/
def afterRoot : Disk := ⟨emptyRoot, [(.createDirectory (.ofString "/work"), some .exists_)]⟩

/-- Everything goes well on that disk until the contract is written. -/
theorem stageOn_fullLate : ∃ d',
    stageOn fullLate ⟨1, .exists_⟩ (.ofString "/work") climbing 0 ⟨emptyRoot, []⟩ =
      (.error (.notWritten begun.sourcePath (.code 28)), 1, d') := by
  have hl : Leads emptyRoot (.ofString "/work") linkLimit [entry "work"] := ⟨by cbv, by cbv⟩
  have hn : Names (.ofString "/work") (entry (directoryName 0)) :=
    ⟨isEntryName_directoryName 0, by decide +kernel, by decide +kernel⟩
  have hroot : Disk.createDirectories fullLate (.ofString "/work") ⟨emptyRoot, []⟩ =
      (.ok (), afterRoot) := by cbv
  have hfree : fullLate afterRoot.log.length = none := rfl
  obtain ⟨d₁, hd₁, hlen₁, he, hway⟩ := createDirectory_of_none (d := afterRoot) hn hl rfl hfree
  have hbelow : createBelowOn fullLate ⟨1, .exists_⟩ (.ofString "/work") 0 afterRoot =
      (.ok begun.directory, 1, d₁) := by
    have habsolute : absoluteRoot afterRoot.files (.ofString "/work") = .ok (.ofString "/work") :=
      rfl
    simp only [createBelowOn, habsolute, createFreshOn, join_ofString, hd₁]
    rfl
  have hnone : ∀ k, k < 4 → fullLate (d₁.log.length + k) = none := by
    rw [hlen₁]
    decide
  obtain ⟨d', hfull⟩ := populateOn_of_some climbing hway (fun x hx => he.absent_below hx)
    ⟨isEntryName_manifestFile, by decide +kernel, by decide +kernel⟩
    ⟨isEntryName_contractsDirectory, by decide +kernel, by decide +kernel⟩
    ⟨isEntryName_contractFile _, by decide +kernel, by decide +kernel⟩
    hnone (show fullLate (d₁.log.length + 4) = some ⟨.code 28, 3⟩ by rw [hlen₁]; rfl)
  have hfilling :
    populateOn fullLate (Handle.of (.at_ begun.directory climbing.name)).project climbing d₁ =
      (.error (.notWritten begun.sourcePath (.code 28)), d') := hfull
  refine ⟨(Handle.of begun).discardOn d', ?_⟩
  rw [stageOn, hroot]
  simp only [hbelow, hfilling]
  rfl

/-- The directory with a part of the project is removed, and everything is as it was. -/
theorem stageOn_retreats_full : ∃ d', ∃ result : Except StagingError Handle,
    result = .error (.notWritten begun.sourcePath (.code 28)) ∧
    (∃ p, d'.log.getLast? = some (.removeTree p, none)) ∧
    (∀ x, d'.files.get? x = emptyRoot.get? x) ∧
    stageOn fullLate ⟨1, .exists_⟩ (.ofString "/work") climbing 0 ⟨emptyRoot, []⟩ =
      (result, 1, d') ∧
    (∃ es, d'.log = [] ++ es ∧ Course emptyRoot (.ofString "/work") .exists_ climbing 0 es
      (result.map (·.project.directory))) ∧
    (∀ e, result = .error e → Grown (.ofString "/work") emptyRoot d'.files ∧
      (Standing emptyRoot (.ofString "/work") → ∀ x, d'.files.get? x = emptyRoot.get? x)) ∧
    (fullLate = .calm → (⟨1, .exists_⟩ : Retries) =
        ⟨(rooted emptyRoot (.ofString "/work")).nodes.length + 1, .exists_⟩ →
      stage (.ofString "/work") climbing 0 emptyRoot = (result.map (·.project), 1, d'.files)) := by
  obtain ⟨d', h⟩ := stageOn_fullLate
  obtain ⟨⟨es, hlog, hcourse⟩, hsame, -⟩ := stageOn_retreats h
  have hstanding : Standing emptyRoot (.ofString "/work") :=
    .leads (by decide +kernel) ⟨by cbv, by cbv⟩
  refine ⟨d', _, rfl, ?_, (hsame _ rfl).2 hstanding, h, stageOn_retreats h⟩
  cases hcourse with
  | project => exact ⟨_, by rw [hlog, List.nil_append, List.getLast?_append]; rfl⟩

end Workspace

end ClarityCheck
