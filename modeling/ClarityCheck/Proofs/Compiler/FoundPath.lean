import ClarityCheck.Compiler.Search
import ClarityCheck.Proofs.Files.DirectoriesOnly
import Mathlib

/-!
# Paths of compilers that are found

A compiler is asked in one directory and run in another, so its path has to be absolute, or the bare
name that is looked up along the search path. A downloaded compiler is the exception: its path is
that of the directory for downloads, which may be relative.

* `anchored_ensure`: what a search finds when its steps find anchored paths only
* `anchored_iff`: the plans with which all paths are anchored, whatever is done
-/

namespace ClarityCheck.Compiler

open Files

variable {σ : Type} {plan : Plan} {s : Searcher σ} {memory : Memory} {scene scene' : Scene σ}
  {b : Binary} {files : Files} {p : Path}

/-! ## Operations -/

/-- What can be done with a provider, its memory and the scene. -/
inductive Operation (σ : Type) where
  | ensure
  | invalidate
  | clear
  | store (binary : Binary)
  /-- Something else changes the scene. -/
  | meanwhile (change : Scene σ → Scene σ)

namespace Operation

/-- Memory and scene after an operation. -/
def take (s : Searcher σ) (m : Memory × Scene σ) : Operation σ → Memory × Scene σ
  | ensure => (s.ensure m.1 m.2).2
  | invalidate => (m.1.invalidate, m.2)
  | clear => (m.1.clear, m.2)
  | store b => (m.1.store b, m.2)
  | meanwhile change => (m.1, change m.2)

/-- Memory and scene after several operations. -/
def run (s : Searcher σ) (m : Memory × Scene σ) (ops : List (Operation σ)) : Memory × Scene σ :=
  ops.foldl (take s) m

end Operation

/-! ## Anchored paths -/

/-- A path that names the same program from every directory: it is absolute, or the bare name of the
compiler. -/
def Plan.Anchors (plan : Plan) (p : Path) : Prop := p.isAbsolute = true ∨ p = plan.command

theorem isAbsolute_anchored (hf : files.isFile p = true) :
    (anchored files p).isAbsolute = true := by
  have hstart : files.hasDirectory (startOf p files.directory) = true := by
    unfold isFile stat at hf
    cases hl : files.locate true p with
    | error e => simp [hl] at hf
    | ok l => exact (locate_ok hl).2.1
  have hcond : p.isAbsolute = true ∨ files.hasDirectory files.directory = true := by
    cases hp : p.isAbsolute with
    | true => exact Or.inl rfl
    | false =>
      rw [startOf, hp] at hstart
      exact Or.inr hstart
  rw [anchored, if_pos hcond]
  exact Path.isAbsolute_absolute p (isAbsolute_pathOf files.directory)

theorem isEntryName_command (plan : Plan) : IsEntryName plan.command.bytes := by
  unfold Plan.command
  cases plan.family <;> exact isEntryName_encode (by decide) (by decide)

theorem path_answering (p : Path) : (Binary.answering p).path = p := rfl

/-! ## Steps of the search -/

namespace Searcher

/-- A step finds anchored paths only. -/
def FindsAnchored (plan : Plan) (f : Scene σ → Found × Scene σ) : Prop :=
  ∀ scene b scene', f scene = (.ok b, scene') → plan.Anchors b.path

theorem ask_path {step : Step} (h : s.ask step p scene = (.ok b, scene')) : b.path = p := by
  unfold ask at h
  split at h
  · split at h <;> cases h
    rfl
  · cases h

theorem tryFile_anchored (step : Step) (p : Path) : FindsAnchored s.plan (s.tryFile step p) := by
  intro scene b scene' h
  unfold tryFile at h
  split at h
  · next hf =>
    left
    rw [ask_path h]
    exact isAbsolute_anchored hf
  · cases h

theorem onSearchPath?_isAbsolute (h : s.onSearchPath? files = some p) : p.isAbsolute = true := by
  obtain ⟨q, hq, rfl⟩ := Option.map_eq_some_iff.mp h
  exact isAbsolute_anchored (List.find?_some hq)

theorem trySearchPath_anchored : FindsAnchored s.plan s.trySearchPath := by
  intro scene b scene' h
  unfold trySearchPath at h
  split at h
  · exact Or.inr (ask_path h)
  next p hp =>
  split at h
  · next ha =>
    cases h
    left
    rw [ask_path ha]
    exact onSearchPath?_isAbsolute hp
  · exact Or.inr (ask_path h)

/-- A downloaded compiler lies where the plan says, and the plan allows for the download. -/
theorem tryDownload_ok (h : s.tryDownload scene = (.ok b, scene')) :
    b.path = s.plan.cachedBinary ∧
      (∃ target url, s.plan.family.releaseTarget? = some target ∧
        s.plan.release.archiveUrl target = .ok url) ∧
      ∃ (files : Files) (l : Location), files.locate true s.plan.cachedBinary = .ok l := by
  unfold tryDownload at h
  split at h
  · cases h
  next target ht =>
  split at h
  · cases h
  next url hu =>
  unfold fetchArchive at h
  split at h
  · cases h
  simp only at h
  split at h
  · cases h
  unfold unpackArchive at h
  simp only at h
  split at h
  · cases h
  split at h
  rotate_left
  · cases h
  unfold finishDownload at h
  simp only at h
  split at h
  · cases h
  next hm =>
  refine ⟨ask_path h, ⟨target, url, ht, hu⟩, ?_⟩
  unfold changeMode at hm
  split at hm
  · cases hm
  · next hl => exact ⟨_, _, hl⟩

/-- A download that goes well from the first step to the last. -/
theorem tryDownload_eq {target : String} {url : Url} {files₁ files₄ : Files}
    {scene₂ scene₃ scene₅ : Scene σ} {n : Nat} {o o' : Run.Output}
    (ht : s.plan.family.releaseTarget? = some target)
    (hu : s.plan.release.archiveUrl target = .ok url)
    (hc : scene.files.createDirectories s.plan.cacheDirectory = (.ok (), files₁))
    (hf : s.fetcher url (s.plan.archive target) s.plan.downloadTimeout
      { scene with files := files₁ } = (.ok n, scene₂))
    (hx : s.executor (s.unpack (s.plan.archive target)) .fresh scene₂ = (.ok o, scene₃))
    (ho : o.success = true)
    (hm : (discard scene₃.files (s.plan.archive target)).changeMode s.plan.cachedBinary
      programMode = .ok files₄)
    (hp : s.executor (s.probe s.plan.cachedBinary) .fresh { scene₃ with files := files₄ } =
      (.ok o', scene₅))
    (ho' : o'.success = true) :
    s.tryDownload scene = (.ok (.answering s.plan.cachedBinary), scene₅) := by
  simp only [tryDownload, ht, hu, fetchArchive, hc, hf, unpackArchive, hx, ho, ↓reduceIte,
    finishDownload, hm, ask, hp, ho']

/-! ## Searches and operations -/

theorem mem_steps {f : Scene σ → Found × Scene σ} (h : f ∈ s.steps) :
    f = s.tryFile .cache s.plan.cachedBinary ∨ f = s.tryFile .hostedBuild s.plan.hostedBinary ∨
      f = s.trySearchPath ∨ f = if s.plan.allowsDownload then s.tryDownload
        else fun scene => (.error ⟨.download, .disabled⟩, scene) := by
  unfold steps at h
  simp only [List.mem_append, List.mem_singleton] at h
  rcases h with ((h | h) | h) | h
  · exact Or.inl h
  · split at h
    · exact Or.inr (Or.inl (List.mem_singleton.mp h))
    · cases h
  · exact Or.inr (Or.inr (Or.inl h))
  · exact Or.inr (Or.inr (Or.inr h))

theorem firstFound_ok {fs : List (Scene σ → Found × Scene σ)}
    (h : firstFound fs scene = (.ok b, scene')) : ∃ f ∈ fs, ∃ s₀ s₁, f s₀ = (.ok b, s₁) := by
  induction fs generalizing scene with
  | nil => cases h
  | cons f fs ih =>
    unfold firstFound at h
    split at h
    · next hf =>
      cases h
      exact ⟨f, by simp, _, _, hf⟩
    · split at h
      · next hr =>
        cases h
        obtain ⟨g, hg, hfound⟩ := ih hr
        exact ⟨g, by simp [hg], hfound⟩
      · cases h

/-- A search that starts from anchored paths, and whose steps find such paths only, finds and
remembers anchored paths. -/
theorem anchored_ensure (hsteps : ∀ f ∈ s.steps, FindsAnchored s.plan f)
    (hm : ∀ b, memory = some b → s.plan.Anchors b.path) (scene : Scene σ) :
    (∀ b, (s.ensure memory scene).1 = .ok b → s.plan.Anchors b.path) ∧
      ∀ b, (s.ensure memory scene).2.1 = some b → s.plan.Anchors b.path := by
  have hresolve (scene₀ : Scene σ) (b : Binary) (h : (s.resolve scene₀).1 = .ok b) :
      s.plan.Anchors b.path := by
    unfold resolve at h
    split at h
    · next hr =>
      cases h
      obtain ⟨f, hf, s₀, s₁, he⟩ := firstFound_ok hr
      exact hsteps f hf _ _ _ he
    · cases h
  have hreverify (scene₀ : Scene σ) (b : Binary) (h : (s.reverify memory scene₀).1 = some b) :
      s.plan.Anchors b.path := by
    unfold reverify at h
    split at h
    · cases h
    next b₀ =>
    split at h
    · next ha =>
      cases h
      rw [ask_path ha]
      exact hm b₀ rfl
    · cases h
  -- What is remembered is given again, or it is asked again, or a search takes its place.
  unfold ensure
  split
  · next path =>
    have hpath : s.plan.Anchors path := hm _ rfl
    exact ⟨fun b hb => by cases hb; exact hpath, fun b hb => by cases hb; exact hpath⟩
  · next hverified =>
    rcases hv : s.reverify memory scene with ⟨_ | b, scene₁⟩
    · rcases hr : s.resolve scene₁ with ⟨e | b, scene₂⟩ <;> simp only [hr]
      · exact ⟨by simp, by simp⟩
      · have hb := hresolve scene₁ b (by rw [hr])
        exact ⟨fun b' h => by cases h; exact hb, fun b' h => by cases h; exact hb⟩
    · have hb := hreverify scene b (by rw [hv])
      exact ⟨fun b' h => by cases h; exact hb, fun b' h => by cases h; exact hb⟩

theorem anchored_run (hsteps : ∀ f ∈ s.steps, FindsAnchored s.plan f) {m : Memory × Scene σ}
    (hm : ∀ b, m.1 = some b → s.plan.Anchors b.path) {ops : List (Operation σ)}
    (hops : ∀ b, .store b ∈ ops → s.plan.Anchors b.path) :
    ∀ b, (Operation.run s m ops).1 = some b → s.plan.Anchors b.path := by
  induction ops generalizing m with
  | nil => exact hm
  | cons op ops ih =>
    refine ih (m := op.take s m) ?_ fun b hb => hops b (by simp [hb])
    cases op with
    | ensure => exact (anchored_ensure hsteps hm m.2).2
    | invalidate =>
      intro b hb
      obtain ⟨b₀, hb₀, rfl⟩ := Option.map_eq_some_iff.mp hb
      exact hm b₀ hb₀
    | clear => exact fun b hb => by cases hb
    | store b₀ =>
      rintro b ⟨⟩
      exact hops b₀ (by simp)
    | meanwhile change => exact hm

end Searcher

/-! ## Downloads -/

/-- A plan that allows for a download whose path depends on the directory it is seen from. -/
structure Plan.Exposed (plan : Plan) : Prop where
  allowed : plan.allowsDownload = true
  published : ∃ target url, plan.family.releaseTarget? = some target ∧
    plan.release.archiveUrl target = .ok url
  relative : plan.cacheDirectory.isAbsolute = false
  ne_nil : plan.cacheDirectory.bytes ≠ []
  sound : IsSound plan.cachedBinary
  length_le : ∀ name ∈ plan.cachedBinary.names, name.length ≤ nameLimit

theorem cachedBinary_bytes (plan : Plan) :
    plan.cachedBinary.bytes = Path.withSeparator plan.cacheDirectory.bytes ++ plan.command.bytes :=
  Path.child_bytes plan.cacheDirectory (isEntryName_command plan)

/-- Where an exposed plan puts a download is not anchored. -/
theorem Plan.Exposed.not_anchors (h : plan.Exposed) : ¬plan.Anchors plan.cachedBinary := by
  rintro (ha | hc)
  · have := Path.isAbsolute_child (p := plan.cacheDirectory) (isEntryName_command plan)
    rw [h.relative] at this
    exact absurd (ha.symm.trans this) (by simp)
  · have hlen := congrArg (fun q => q.bytes.length) hc
    obtain ⟨a, ha⟩ := Path.withSeparator_eq plan.cacheDirectory.bytes h.ne_nil
    simp only [cachedBinary_bytes, ha, List.length_append, List.length_singleton] at hlen
    omega

/-- A plan that is not exposed anchors all downloads that go well. -/
theorem anchors_of_not_exposed {s : Searcher σ} (h : ¬s.plan.Exposed)
    (ha : s.plan.allowsDownload = true) (hd : s.tryDownload scene = (.ok b, scene')) :
    s.plan.Anchors b.path := by
  obtain ⟨hb, hpublished, files, l, hl⟩ := Searcher.tryDownload_ok hd
  rw [hb]
  by_cases habs : s.plan.cacheDirectory.isAbsolute = true
  · exact Or.inl (Path.isAbsolute_join habs)
  by_cases hne : s.plan.cacheDirectory.bytes = []
  · right
    have hbytes := cachedBinary_bytes s.plan
    rw [hne, Path.withSeparator, List.getLast?_nil] at hbytes
    exact congrArg Path.mk hbytes
  · exact absurd
      ⟨ha, hpublished, by simpa using habs, hne, (locate_ok hl).1, length_le_of_locate hl⟩ h

/-- Where there are no files and the bare name does not answer, what is found is what is downloaded.
-/
theorem ensure_of_download {s : Searcher σ} (ha : s.plan.allowsDownload = true)
    (hfile : ∀ p, scene.files.isFile p = false)
    (hask : ∃ a, s.ask .searchPath s.plan.command scene = (.error a, scene))
    (hd : s.tryDownload scene = (.ok b, scene')) : (s.ensure none scene).1 = .ok b := by
  obtain ⟨a, hask⟩ := hask
  have htry (step : Step) (p : Path) :
      s.tryFile step p scene = (.error ⟨step, .absent p⟩, scene) := by
    simp [Searcher.tryFile, hfile]
  have hnone : s.onSearchPath? scene.files = none := by
    simp only [Searcher.onSearchPath?, Option.map_eq_none_iff, List.find?_eq_none]
    exact fun p _ => by simp [hfile p]
  have hpath : s.trySearchPath scene = (.error a, scene) := by
    simp only [Searcher.trySearchPath, hnone, hask]
  have hfound : ∃ as, Searcher.firstFound s.steps scene = (.ok b, as) := by
    refine ⟨scene', ?_⟩
    unfold Searcher.steps
    rw [if_pos ha]
    split <;> simp [Searcher.firstFound, htry, hpath, hd]
  obtain ⟨scene'', hfound⟩ := hfound
  unfold Searcher.ensure Searcher.reverify Searcher.resolve
  simp only [hfound]

/-- Runs any program, once something has been delivered. -/
def late : Run.Executor Bool := fun r _ s =>
  if s.state then (.ok ⟨some 0, "", "", false⟩, s)
  else (.error ⟨r.program.display, .notStarted .notFound⟩, s)

/-- Delivers whatever is wanted. -/
def delivering : Download.Fetcher Bool := fun _ _ _ s => (.ok 0, { s with state := true })

/-- An exposed plan can come to the compiler that it downloads. -/
theorem Plan.Exposed.exists_download (h : plan.Exposed) :
    ∃ files : Files,
      ((⟨plan, late, delivering⟩ : Searcher Bool).ensure none ⟨files, false, false⟩).1 =
      .ok (.answering plan.cachedBinary) := by
  obtain ⟨target, url, ht, hu⟩ := h.published
  obtain ⟨files, m, hd, ho, -, hway⟩ :=
    exists_directories linkLimit h.length_le (onlyDirectories_nil []) (hasDirectory_nil _)
  have hnames : plan.cachedBinary.names = plan.cacheDirectory.names ++ [plan.command.bytes] :=
    Path.names_child plan.cacheDirectory (isEntryName_command plan)
  obtain ⟨links, l, hcache⟩ : ∃ links l,
      advance files linkLimit [] plan.cacheDirectory.names = .ok (links, l) := by
    rw [hnames, advance_append] at hway
    split at hway
    · next hcache => exact ⟨_, _, hcache⟩
    · cases hway
  have hsound : IsSound plan.cacheDirectory := by
    have hpre : plan.cacheDirectory.bytes <+: plan.cachedBinary.bytes := by
      rw [cachedBinary_bytes]
      exact (Path.prefix_withSeparator _).trans (List.prefix_append ..)
    exact ⟨h.ne_nil, fun hz => h.sound.zero_not_mem (hpre.subset hz),
      Nat.le_trans hpre.length_le h.sound.length_le⟩
  have hm : (Searcher.discard files (plan.archive target)).changeMode plan.cachedBinary
      programMode = .ok files := by
    obtain ⟨e, he⟩ := removeFile_of_only ho (plan.archive target)
    rw [Searcher.discard, he]
    exact changeMode_of_only ho hd h.sound _ hway
  refine ⟨files, ensure_of_download h.allowed (isFile_of_only ho) ⟨_, rfl⟩
    (Searcher.tryDownload_eq ht hu
      (createDirectories_of_leads hsound (leads_of_advance hd hcache)) rfl rfl
      rfl hm rfl rfl)⟩

/-- Whatever is done from an empty memory on, a plan finds anchored paths only, unless it is
exposed. Anchored paths other than the bare name lead to the same place from every directory. -/
theorem anchored_iff (plan : Plan) :
    (∀ (σ : Type) (executor : Run.Executor σ) (fetcher : Download.Fetcher σ) (scene : Scene σ)
      (ops : List (Operation σ)), (∀ b, .store b ∈ ops → plan.Anchors b.path) →
      ∀ m, Operation.run ⟨plan, executor, fetcher⟩ (none, scene) ops = m →
      ∀ b, ((⟨plan, executor, fetcher⟩ : Searcher σ).ensure m.1 m.2).1 = .ok b →
        plan.Anchors b.path ∧
        (b.path ≠ plan.command → ∀ (files : Files) (follow : Bool) (directory : Location),
          { files with directory }.locate follow b.path = files.locate follow b.path)) ↔
      ¬plan.Exposed := by
  constructor
  · intro hall h
    obtain ⟨files, hb⟩ := h.exists_download
    have hfound := (hall Bool late delivering ⟨files, false, false⟩ [] (by simp) _ rfl _ hb).1
    rw [path_answering] at hfound
    exact h.not_anchors hfound
  · intro h σ executor fetcher scene ops hops m hm b hb
    have hsteps : ∀ f ∈ (⟨plan, executor, fetcher⟩ : Searcher σ).steps,
        Searcher.FindsAnchored plan f := by
      intro f hf
      rcases Searcher.mem_steps hf with rfl | rfl | rfl | rfl
      · exact Searcher.tryFile_anchored _ _
      · exact Searcher.tryFile_anchored _ _
      · exact Searcher.trySearchPath_anchored
      · intro scene b scene' hd
        split at hd
        · next ha => exact anchors_of_not_exposed (s := ⟨plan, executor, fetcher⟩) h ha hd
        · cases hd
    have hmem := Searcher.anchored_run hsteps (m := (none, scene)) (by simp) hops
    rw [hm] at hmem
    have ha := (Searcher.anchored_ensure hsteps hmem m.2).1 b hb
    refine ⟨ha, fun hne files follow directory => ?_⟩
    exact locate_of_isAbsolute (ha.resolve_right hne) follow directory

/-- A plan that keeps downloads in a directory below the one it is seen from. -/
def nearby : Plan :=
  { Plan.of .unix (.ofString "cache") (some []) with
    allowsDownload := true
    release := ⟨"http://[::1]", "2.11.2"⟩ }

/-- The files when an archive has been unpacked. -/
def unpacked : Files where
  nodes := [(["cache", "clarinet"].map fun name => (Path.ofString name).bytes, .file [] .program),
    ([(Path.ofString "cache").bytes], .directory)]
  directory := []

/-- Unpacks archives, and runs the programs that are there. -/
def unpacking : Run.Executor Unit := fun r _ s =>
  if r.program = .ofString unpacker then (.ok ⟨some 0, "", "", false⟩, { s with files := unpacked })
  else if s.files.isFile r.program then (.ok ⟨some 0, "", "", false⟩, s)
  else (.error ⟨r.program.display, .notStarted .notFound⟩, s)

/-- A search that can only come to a compiler by a download. -/
def nearbySearcher : Searcher Unit := ⟨nearby, unpacking, fun _ _ _ s => (.ok 0, s)⟩

theorem published_nearby : ∃ url, nearby.release.archiveUrl "linux-x64-glibc" = .ok url := by
  have : (nearby.release.archiveUrl "linux-x64-glibc").toOption.isSome = true := by decide +kernel
  cases hr : nearby.release.archiveUrl "linux-x64-glibc" with
  | error e => simp [hr, Except.toOption] at this
  | ok url => exact ⟨url, rfl⟩

theorem unpacking_unpack (archive : Path) (scene : Scene Unit) :
    unpacking (nearbySearcher.unpack archive) .fresh scene =
      (.ok ⟨some 0, "", "", false⟩, { scene with files := unpacked }) :=
  if_pos rfl

theorem unpacking_probe (p : Path) (hp : p ≠ .ofString unpacker) (scene : Scene Unit) :
    unpacking (nearbySearcher.probe p) .fresh scene =
      if scene.files.isFile p then (.ok ⟨some 0, "", "", false⟩, scene)
      else (.error ⟨p.display, .notStarted .notFound⟩, scene) :=
  if_neg hp

/-- A downloaded compiler can have a path that is relative. -/
theorem relative_download :
    (nearbySearcher.ensure none ⟨⟨[], []⟩, false, ()⟩).1 =
      .ok (.answering (.ofString "cache/clarinet")) ∧
      ¬nearby.Anchors (.ofString "cache/clarinet") := by
  have hpath : nearby.cachedBinary = .ofString "cache/clarinet" := by decide
  have hanchors : ¬nearby.Anchors (.ofString "cache/clarinet") := by
    unfold Plan.Anchors
    decide
  obtain ⟨url, hu⟩ := published_nearby
  have hc : (⟨[], []⟩ : Files).createDirectories nearby.cacheDirectory =
      (.ok (), ⟨[([(Path.ofString "cache").bytes], .directory)], []⟩) := by cbv
  have hm : (Searcher.discard unpacked (nearby.archive "linux-x64-glibc")).changeMode
      nearby.cachedBinary programMode = .ok unpacked := by cbv
  have hf : unpacked.isFile nearby.cachedBinary = true := by cbv
  have hnone := isFile_of_only (onlyDirectories_nil [])
  have hask : nearbySearcher.ask .searchPath nearby.command ⟨⟨[], []⟩, false, ()⟩ = (.error
      ⟨.searchPath, .notRun ⟨nearby.command.display, .notStarted .notFound⟩⟩,
          ⟨⟨[], []⟩, false, ()⟩) := by
    have := unpacking_probe nearby.command (by decide) ⟨⟨[], []⟩, false, ()⟩
    rw [hnone, if_neg (by simp)] at this
    unfold Searcher.ask
    rw [show nearbySearcher.executor = unpacking from rfl, this]
  have hprobe := unpacking_probe nearby.cachedBinary (by decide) ⟨unpacked, false, ()⟩
  rw [hf, if_pos rfl] at hprobe
  have hd : nearbySearcher.tryDownload ⟨⟨[], []⟩, false, ()⟩ =
      (.ok (.answering nearby.cachedBinary), ⟨unpacked, false, ()⟩) :=
    Searcher.tryDownload_eq (s := nearbySearcher) rfl hu hc rfl
      (unpacking_unpack (nearby.archive "linux-x64-glibc") _) rfl hm hprobe rfl
  rw [← hpath] at hanchors ⊢
  exact ⟨ensure_of_download (s := nearbySearcher) rfl hnone ⟨_, hask⟩ hd, hanchors⟩

end ClarityCheck.Compiler
