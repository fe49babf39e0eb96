import ClarityCheck.Proofs.Files.PathNames
import ClarityCheck.Proofs.Validation.Journal

/-!
# The calls of a search

A search for a compiler makes its external calls along a chain of links and stops at the first
program that tells its version. The chain is described here by itself: a link says which program is
asked, if any, from where the search has come to, or how a download goes on, and `Along` puts links
one after the other.

* `Candidate.listed`: the program that the search path leads to first
* `Searcher.traced_resolve`: a search from the beginning goes along the chain
* `ensure_along_chain`: the same for a provider that remembers nothing, with its answer and its
  notes
-/

namespace ClarityCheck

open Text

variable {σ α : Type}

/-- The program ran to its end, and its status is zero. -/
def Run.Outcome.IsZero (outcome : Run.Outcome) : Prop := ∃ o, outcome = .ok o ∧ o.status = some 0

namespace Compiler

variable {scene scene₁ scene₂ scene' : Scene σ} {es es' es'' : Journal} {p : Path} {r : Option Path}

/-! ## Requests -/

/-- The request that asks a program for its version. -/
def Plan.versionRequest (plan : Plan) (program : Path) : Run.Request where
  program
  arguments := [Utf8.encode "--version".toList]
  directory := none
  timeout := plan.probeTimeout
  outputLimit := 65536

/-- The request that unpacks an archive. -/
def Plan.unpackRequest (plan : Plan) (archive : Path) : Run.Request where
  program := .ofString "tar"
  arguments := [Utf8.encode "-xzf".toList, archive.bytes, Utf8.encode "-C".toList,
    plan.cacheDirectory.bytes]
  directory := none
  timeout := plan.downloadTimeout
  outputLimit := 65536

/-! ## Candidates -/

/-- Which program is asked in a file system, if any is. -/
abbrev Candidate := Files → Option Path → Prop

/-- A program is asked if it is a file, and is named by an absolute path. -/
def Candidate.file (p : Path) : Candidate := fun files r =>
  match r with
  | none => files.isFile p = false
  | some q => files.isFile p = true ∧ q = anchored files p

/-- The byte between the entries of a search path. -/
def colon : UInt8 := 0x3A

/-- The program in a directory. -/
def Plan.programIn (plan : Plan) (d : Path) : Path := d.join (.ofString plan.family.executable)

/-- The first entry of the search path that holds the program is asked. The search path is cut at
its colons, and empty entries do not count. Without a search path nothing is asked. -/
def Candidate.listed (plan : Plan) : Candidate := fun files r =>
  match r with
  | none => ∀ path, plan.searchPath = some path → ∃ entries, Path.IsCut colon path entries ∧
      ∀ d ∈ entries, d ≠ [] → files.isFile (plan.programIn ⟨d⟩) = false
  | some q => ∃ path before d after, plan.searchPath = some path ∧
      Path.IsCut colon path (before ++ d :: after) ∧
      (∀ d' ∈ before, d' ≠ [] → files.isFile (plan.programIn ⟨d'⟩) = false) ∧ d ≠ [] ∧
      files.isFile (plan.programIn ⟨d⟩) = true ∧ q = anchored files (plan.programIn ⟨d⟩)

/-- A program is asked in any case. -/
def Candidate.always (p : Path) : Candidate := fun _ r => r = some p

/-! ## Links -/

/-- A part of a search: where it starts, the program that it finds, what it asks, and where it ends.
-/
abbrev Link (σ : Type) := Scene σ → Option Path → Journal → Scene σ → Prop

variable (s : Searcher σ)

/-- A candidate is asked for its version, and found if its status is zero. -/
inductive Asking (candidate : Candidate) : Link σ
  | nobody {scene : Scene σ} (hc : candidate scene.files none) :
      Asking candidate scene none [] scene
  | refused {scene scene' : Scene σ} {p : Path} {o : Run.Outcome}
      (hc : candidate scene.files (some p))
      (hr : s.executor (s.plan.versionRequest p) .fresh scene = (o, scene')) (ho : ¬o.IsZero) :
    Asking candidate scene none [.ran (s.plan.versionRequest p) .fresh o] scene'
  | accepted {scene scene' : Scene σ} {p : Path} {o : Run.Outcome}
      (hc : candidate scene.files (some p))
      (hr : s.executor (s.plan.versionRequest p) .fresh scene = (o, scene')) (ho : o.IsZero) :
    Asking candidate scene (some p) [.ran (s.plan.versionRequest p) .fresh o] scene'

/-- A release is fetched: the archive where it has been stored, if that went well. -/
inductive Fetching : Scene σ → Option Path → Journal → Scene σ → Prop
  | unpublished {scene : Scene σ} (h : ∀ target url, s.plan.family.releaseTarget? = some target →
      s.plan.release.archiveUrl target ≠ .ok url) : Fetching scene none [] scene
  | noDirectory {scene : Scene σ} {files : Files} {e : SystemError}
      (hd : scene.files.createDirectories s.plan.cacheDirectory = (.error e, files)) :
    Fetching scene none [] { scene with files }
  | failed {scene scene' : Scene σ} {files : Files} {target : String} {url : Url}
      {f : Download.Failure} (ht : s.plan.family.releaseTarget? = some target)
      (hu : s.plan.release.archiveUrl target = .ok url)
      (hd : scene.files.createDirectories s.plan.cacheDirectory = (.ok (), files))
      (hf : s.fetcher url (s.plan.archive target) s.plan.downloadTimeout { scene with files } =
        (.error f, scene')) :
    Fetching scene none
      [.fetched url (s.plan.archive target) s.plan.downloadTimeout (.error f)] scene'
  | stored {scene scene' : Scene σ} {files : Files} {target : String} {url : Url} {n : Nat}
      (ht : s.plan.family.releaseTarget? = some target)
      (hu : s.plan.release.archiveUrl target = .ok url)
      (hd : scene.files.createDirectories s.plan.cacheDirectory = (.ok (), files))
      (hf : s.fetcher url (s.plan.archive target) s.plan.downloadTimeout { scene with files } =
        (.ok n, scene')) :
    Fetching scene (some (s.plan.archive target))
      [.fetched url (s.plan.archive target) s.plan.downloadTimeout (.ok n)] scene'

/-- An archive is unpacked and removed. The answer tells whether there is a program now. -/
inductive Unpacking (archive : Path) : Scene σ → Bool → Journal → Scene σ → Prop
  | failed {scene scene' : Scene σ} {o : Run.Outcome}
      (hr : s.executor (s.plan.unpackRequest archive) .fresh scene = (o, scene')) (ho : ¬o.IsZero) :
    Unpacking archive scene false [.ran (s.plan.unpackRequest archive) .fresh o]
      { scene' with files := Searcher.discard scene'.files archive }
  | notMarked {scene scene' : Scene σ} {o : Run.Outcome} {e : SystemError}
      (hr : s.executor (s.plan.unpackRequest archive) .fresh scene = (o, scene')) (ho : o.IsZero)
      (hm : (Searcher.discard scene'.files archive).changeMode
        (s.plan.programIn s.plan.cacheDirectory) 0o755 = .error e) :
    Unpacking archive scene false [.ran (s.plan.unpackRequest archive) .fresh o]
      { scene' with files := Searcher.discard scene'.files archive }
  | marked {scene scene' : Scene σ} {o : Run.Outcome} {files : Files}
      (hr : s.executor (s.plan.unpackRequest archive) .fresh scene = (o, scene')) (ho : o.IsZero)
      (hm : (Searcher.discard scene'.files archive).changeMode
        (s.plan.programIn s.plan.cacheDirectory) 0o755 = .ok files) :
    Unpacking archive scene true [.ran (s.plan.unpackRequest archive) .fresh o]
      { scene' with files }

/-- A release is fetched, unpacked and asked, each if what comes before went well. -/
inductive Downloading : Link σ
  | notFetched {scene scene' : Scene σ} {es : Journal} (hf : Fetching s scene none es scene') :
    Downloading scene none es scene'
  | notUnpacked {scene scene₁ scene' : Scene σ} {es es' : Journal} {archive : Path}
      (hf : Fetching s scene (some archive) es scene₁)
      (hu : Unpacking s archive scene₁ false es' scene') :
    Downloading scene none (es ++ es') scene'
  | unpacked {scene scene₁ scene₂ scene' : Scene σ} {es es' es'' : Journal} {archive : Path}
      {r : Option Path} (hf : Fetching s scene (some archive) es scene₁)
      (hu : Unpacking s archive scene₁ true es' scene₂)
      (ha : Asking s (.always (s.plan.programIn s.plan.cacheDirectory)) scene₂ r es'' scene') :
    Downloading scene r (es ++ es' ++ es'') scene'

/-! ## Chains -/

/-- Links one after the other, up to the first that finds something. -/
inductive Along : List (Link σ) → Link σ
  | nothing {scene : Scene σ} : Along [] scene none [] scene
  | found {link : Link σ} {links : List (Link σ)} {scene scene' : Scene σ} {p : Path} {es : Journal}
      (h : link scene (some p) es scene') : Along (link :: links) scene (some p) es scene'
  | next {link : Link σ} {links : List (Link σ)} {scene scene₁ scene' : Scene σ} {r : Option Path}
      {es es' : Journal} (h : link scene none es scene₁) (hs : Along links scene₁ r es' scene') :
    Along (link :: links) scene r (es ++ es') scene'

namespace Along

variable {links links' : List (Link σ)} {link : Link σ}

theorem single (h : link scene r es scene') : Along [link] scene r es scene' := by
  cases r with
  | some p => exact .found h
  | none => simpa using Along.next h .nothing

theorem of_single (h : Along [link] scene r es scene') : link scene r es scene' := by
  cases h with
  | found h => exact h
  | next h hs =>
    cases hs
    rwa [List.append_nil]

/-- Where nobody is asked, every link finds nothing without asking. -/
theorem silent (h : Along links scene r es scene') (hr : r = none) (he : es = []) :
    ∀ link ∈ links, ∃ scene₀ scene₁, link scene₀ none [] scene₁ := by
  induction h with
  | nothing => simp
  | found => cases hr
  | next hfirst _ ih =>
    obtain ⟨rfl, rfl⟩ := List.append_eq_nil_iff.mp he
    intro link hl
    rcases List.mem_cons.mp hl with rfl | hl
    · exact ⟨_, _, hfirst⟩
    · exact ih hr rfl link hl

theorem append_found (h : Along links scene (some p) es scene') :
    Along (links ++ links') scene (some p) es scene' := by
  generalize hr : some p = r at h
  induction h with
  | nothing => cases hr
  | found h => exact .found h
  | next h _ ih => exact .next h (ih hr)

theorem append_next (h : Along links scene none es scene₁) (h' : Along links' scene₁ r es' scene') :
    Along (links ++ links') scene r (es ++ es') scene' := by
  generalize hr : none = r' at h
  induction h with
  | nothing => exact h'
  | found h => cases hr
  | next h _ ih =>
    rw [List.append_assoc]
    exact .next h (ih h' hr)

end Along

/-- The links of a search: the program where downloads are kept, the one of the hosted build
environment if there is one, the first along the search path, whatever the bare name stands for, and
a download if that is allowed. -/
def Searcher.chain : List (Link σ) :=
  [Asking s (.file (s.plan.programIn s.plan.cacheDirectory))]
    ++ (if s.plan.family.isHosted then [Asking s (.file s.plan.hostedBinary)] else [])
    ++ [Asking s (.listed s.plan), Asking s (.always (.ofString s.plan.family.executable))]
    ++ (if s.plan.allowsDownload then [Downloading s] else [])

/-- The steps that leave a note when they find nothing. -/
def Plan.stepsNoted (plan : Plan) : List Step :=
  [.cache] ++ (if plan.family.isHosted then [.hostedBuild] else []) ++ [.searchPath, .download]

end Compiler

/-! ## Searches with a journal -/

/-- An operation does with a journal what another one does without, and what it writes has to do
with where it starts, its result and where it ends. -/
def Traced (f : Scene σ → α × Scene σ) (f' : Scene (Journal × σ) → α × Scene (Journal × σ))
    (Q : Scene σ → α → Journal → Scene σ → Prop) : Prop :=
  ∀ s, ∃ es, (∀ j, f' (s.noting j) = ((f s).1, (f s).2.noting (j ++ es))) ∧ Q s (f s).1 es (f s).2

namespace Traced

variable {f : Scene σ → α × Scene σ} {f' : Scene (Journal × σ) → α × Scene (Journal × σ)}
  {Q : Scene σ → α → Journal → Scene σ → Prop} {s s' : Scene σ} {a : α}

/-- What an operation writes when it is known what it does without a journal. -/
theorem eq (h : Traced f f' Q) (hf : f s = (a, s')) :
    ∃ es, (∀ j, f' (s.noting j) = (a, s'.noting (j ++ es))) ∧ Q s a es s' := by
  have := h s
  rwa [hf] at this

end Traced

namespace Compiler

variable {scene scene₁ scene' : Scene σ} {es es' : Journal}

/-- What a step of a search comes to when it goes along links. It names itself when it finds
nothing. -/
def Finds (step : Step) (links : List (Link σ)) (scene : Scene σ) (result : Found) (es : Journal)
    (scene' : Scene σ) : Prop :=
  match result with
  | .ok b => b.verified = true ∧ Along links scene (some b.path) es scene'
  | .error a => a.step = step ∧ Along links scene none es scene'

/-- What several steps come to that go along links. Each leaves a note when nothing is found. -/
def FindsFirst (steps : List Step) (links : List (Link σ)) (scene : Scene σ)
    (result : Except (List Attempt) Binary) (es : Journal) (scene' : Scene σ) : Prop :=
  match result with
  | .ok b => b.verified = true ∧ Along links scene (some b.path) es scene'
  | .error as => as.map Attempt.step = steps ∧ Along links scene none es scene'

theorem Finds.after {step : Step} {links links' : List (Link σ)} {result : Found}
    (h : Finds step links' scene₁ result es' scene') (h₀ : Along links scene none es scene₁) :
    Finds step (links ++ links') scene result (es ++ es') scene' := by
  cases result with
  | ok b => exact ⟨h.1, h₀.append_next h.2⟩
  | error a => exact ⟨h.1, h₀.append_next h.2⟩

/-- A step that goes along a single link goes along every link that the same calls complete. -/
theorem Finds.complete {step : Step} {link link' : Link σ} {result : Found}
    (h : Finds step [link] scene₁ result es' scene')
    (hl : ∀ r, link scene₁ r es' scene' → link' scene r (es ++ es') scene') :
    Finds step [link'] scene result (es ++ es') scene' := by
  cases result with
  | ok b => exact ⟨h.1, .single (hl _ h.2.of_single)⟩
  | error a => exact ⟨h.1, .single (hl _ h.2.of_single)⟩

namespace Searcher

variable (s : Searcher σ)

@[simp] theorem noted_plan : s.noted.plan = s.plan := rfl

@[simp] theorem noted_executor : s.noted.executor = s.executor.noted := rfl

@[simp] theorem noted_fetcher : s.noted.fetcher = s.fetcher.noted := rfl

@[simp] theorem noted_probe (program : Path) : s.noted.probe program = s.probe program := rfl

@[simp] theorem noted_unpack (archive : Path) : s.noted.unpack archive = s.unpack archive := rfl

@[simp] theorem noted_onSearchPath? (files : Files) :
    s.noted.onSearchPath? files = s.onSearchPath? files := rfl

theorem success_iff {o : Run.Output} : o.success = true ↔ Run.Outcome.IsZero (.ok o) := by
  simp [Run.Output.success, Run.Outcome.IsZero]

theorem not_isZero_error {f : Run.Failure} : ¬Run.Outcome.IsZero (.error f) := by
  simp [Run.Outcome.IsZero]

/-- A program that is asked answers with the status zero or is refused. -/
theorem ask_cases (step : Step) (program : Path) (scene : Scene σ) :
    ∃ o scene', s.executor (s.plan.versionRequest program) .fresh scene = (o, scene') ∧
      (∀ j, s.noted.ask step program (scene.noting j) = ((s.ask step program scene).1,
        scene'.noting (j ++ [.ran (s.plan.versionRequest program) .fresh o]))) ∧
      (o.IsZero ∧ s.ask step program scene = (.ok ⟨program, true⟩, scene') ∨
        ¬o.IsZero ∧ ∃ reason, s.ask step program scene = (.error ⟨step, reason⟩, scene')) := by
  rcases hr : s.executor (s.probe program) .fresh scene with ⟨o, scene'⟩
  have he := Run.Executor.noted_apply hr
  refine ⟨o, scene', hr, fun j => ?_, ?_⟩
  · simp only [ask, noted_executor, noted_probe, hr, he]
    rcases o with f | o
    · rfl
    · by_cases ho : o.success <;> simp only [ho] <;> rfl
  · simp only [ask, hr]
    rcases o with f | o
    · exact Or.inr ⟨not_isZero_error, _, rfl⟩
    by_cases ho : o.success
    · exact Or.inl ⟨success_iff.mp ho, by simp only [if_pos ho]; rfl⟩
    · exact Or.inr ⟨mt success_iff.mpr ho, _, by simp only [if_neg ho]; rfl⟩

/-- A program that a candidate names is asked. -/
theorem traced_ask (step : Step) (candidate : Candidate) {program : Path} (scene : Scene σ)
    (hc : candidate scene.files (some program)) :
    ∃ es, (∀ j, s.noted.ask step program (scene.noting j) =
        ((s.ask step program scene).1, (s.ask step program scene).2.noting (j ++ es))) ∧
      Finds step [Asking s candidate] scene (s.ask step program scene).1 es
        (s.ask step program scene).2 := by
  obtain ⟨o, scene', hr, he, ⟨ho, ha⟩ | ⟨ho, reason, ha⟩⟩ := s.ask_cases step program scene
  · rw [ha] at he ⊢
    exact ⟨_, he, rfl, .single (.accepted hc hr ho)⟩
  · rw [ha] at he ⊢
    exact ⟨_, he, rfl, .single (.refused hc hr ho)⟩

theorem traced_tryFile (step : Step) (program : Path) :
    Traced (s.tryFile step program) (s.noted.tryFile step program)
      (Finds step [Asking s (.file program)]) := by
  intro scene
  cases hf : scene.files.isFile program with
  | true =>
    simp only [tryFile, Scene.files_noting, hf, ↓reduceIte]
    exact s.traced_ask step (.file program) scene ⟨hf, rfl⟩
  | false =>
    simp only [tryFile, Scene.files_noting, hf, Bool.false_eq_true, ↓reduceIte]
    exact ⟨[], by simp, rfl, .single (.nobody hf)⟩

/-- The first program along a search path, by the pieces of its bytes. -/
theorem onSearchPath?_eq {path : Bytes} (h : s.plan.searchPath = some path) (files : Files) :
    s.onSearchPath? files = ((Path.splitBytes colon path).find? fun d =>
      decide (d ≠ []) && files.isFile (s.plan.programIn ⟨d⟩)).map
        fun d => anchored files (s.plan.programIn ⟨d⟩) := by
  unfold onSearchPath? Plan.searchDirectories Path.listed
  rw [h, Option.map_some, Option.getD_some, List.find?_map, List.find?_map, List.find?_filter,
    Option.map_map, Option.map_map]
  simp only [Bool.decide_and, Bool.decide_eq_true]
  rfl

theorem listed_onSearchPath? (files : Files) :
    Candidate.listed s.plan files (s.onSearchPath? files) := by
  cases hp : s.plan.searchPath with
  | none =>
    have hnone : s.onSearchPath? files = none := by
      rw [onSearchPath?, Plan.searchDirectories, hp]
      rfl
    rw [hnone]
    intro path hpath
    cases hp.symm.trans hpath
  | some path =>
    have hcut := Path.isCut_splitBytes colon path
    rw [s.onSearchPath?_eq hp]
    cases hd : (Path.splitBytes colon path).find? fun d =>
        decide (d ≠ []) && files.isFile (s.plan.programIn ⟨d⟩) with
    | none =>
      intro path' hpath
      obtain rfl := Option.some.inj (hp.symm.trans hpath)
      refine ⟨_, hcut, fun d hmem hne => ?_⟩
      simpa [hne] using List.find?_eq_none.mp hd d hmem
    | some d =>
      obtain ⟨hfile, before, after, hsplit, hbefore⟩ := List.find?_eq_some_iff_append.mp hd
      rw [Bool.and_eq_true, decide_eq_true_eq] at hfile
      refine ⟨path, before, d, after, hp, hsplit ▸ hcut, fun d' hd' hne => ?_, hfile.1,
        hfile.2, rfl⟩
      simpa [hne] using hbefore d' hd'

theorem traced_trySearchPath :
    Traced s.trySearchPath s.noted.trySearchPath
      (Finds .searchPath
        [Asking s (.listed s.plan), Asking s (.always (.ofString s.plan.family.executable))]) := by
  intro scene
  have hlisted := s.listed_onSearchPath? scene.files
  have hcommand (scene : Scene σ) := s.traced_ask .searchPath (.always s.plan.command) scene rfl
  -- The bare name is asked when the search path has no program and when the one it has is refused.
  cases hp : s.onSearchPath? scene.files with
  | none =>
    obtain ⟨es, he, hf⟩ := hcommand scene
    refine ⟨es, fun j => ?_, ?_⟩ <;>
      simp only [trySearchPath, Scene.files_noting, noted_onSearchPath?, noted_plan, hp]
    · exact he j
    · rw [hp] at hlisted
      have hnobody : Asking s (.listed s.plan) scene none [] scene := .nobody hlisted
      exact hf.after (.single hnobody)
  | some program =>
    rw [hp] at hlisted
    obtain ⟨es, he, hf⟩ := s.traced_ask .searchPath (.listed s.plan) scene hlisted
    rcases hr : s.ask .searchPath program scene with ⟨a | b, scene₁⟩
    · rw [hr] at he hf
      obtain ⟨es', he', hf'⟩ := hcommand scene₁
      refine ⟨es ++ es', fun j => ?_, ?_⟩ <;>
        simp only [trySearchPath, Scene.files_noting, noted_onSearchPath?, noted_plan, hp, hr,
          he, he', List.append_assoc]
      exact hf'.after hf.2
    · rw [hr] at he hf
      refine ⟨es, fun j => ?_, ?_⟩ <;>
        simp only [trySearchPath, Scene.files_noting, noted_onSearchPath?, hp, hr, he]
      exact ⟨hf.1, hf.2.append_found⟩

/-- What becomes of an archive that has been fetched, as the rest of a download that began before.
-/
theorem traced_unpackArchive (archive : Path) :
    Traced (s.unpackArchive archive) (s.noted.unpackArchive archive)
      fun scene₁ result es scene' => ∀ scene es₁, Fetching s scene (some archive) es₁ scene₁ →
        Finds .download [Downloading s] scene result (es₁ ++ es) scene' := by
  intro scene
  rcases hr : s.executor (s.unpack archive) .fresh scene with ⟨outcome, scene₁⟩
  have he := Run.Executor.noted_apply hr
  simp only [unpackArchive, noted_executor, noted_unpack, hr, he, Scene.files_noting,
    Scene.withFiles_noting]
  rcases outcome with f | o
  · refine ⟨_, fun _ => rfl, fun _ _ hf => ⟨rfl, ?_⟩⟩
    exact .single (.notUnpacked hf (.failed hr not_isZero_error))
  by_cases ho : o.success
  rotate_left
  · simp only [if_neg ho]
    refine ⟨_, fun _ => rfl, fun _ _ hf => ⟨rfl, ?_⟩⟩
    exact .single (.notUnpacked hf (.failed hr (mt success_iff.mpr ho)))
  simp only [if_pos ho, finishDownload, Scene.files_noting, noted_plan]
  cases hm : (discard scene₁.files archive).changeMode s.plan.cachedBinary programMode with
  | error e =>
    refine ⟨_, fun _ => rfl, fun _ _ hf => ⟨rfl, ?_⟩⟩
    exact .single (.notUnpacked hf (.notMarked hr (success_iff.mp ho) hm))
  | ok files =>
    obtain ⟨es, he', ha⟩ := s.traced_ask .download (.always s.plan.cachedBinary)
      { scene₁ with files } rfl
    have hu := Unpacking.marked hr (success_iff.mp ho) hm
    refine ⟨[.ran (s.unpack archive) .fresh (.ok o)] ++ es, fun j => ?_, fun scene₀ es₁ hf => ?_⟩
    · rw [← List.append_assoc]
      exact he' _
    · rw [← List.append_assoc]
      exact ha.complete fun _ ha => .unpacked hf hu ha

theorem traced_fetchArchive {target : String} {url : Url}
    (ht : s.plan.family.releaseTarget? = some target)
    (hu : s.plan.release.archiveUrl target = .ok url) :
    Traced (s.fetchArchive target url) (s.noted.fetchArchive target url)
      (Finds .download [Downloading s]) := by
  intro scene
  rcases hd : scene.files.createDirectories s.plan.cacheDirectory with ⟨e | _, files⟩
  · refine ⟨[], fun j => ?_, ?_⟩ <;>
      simp only [fetchArchive, Scene.files_noting, noted_plan, Scene.withFiles_noting, hd,
        List.append_nil]
    exact ⟨rfl, .single (.notFetched (.noDirectory hd))⟩
  rcases hf : s.fetcher url (s.plan.archive target) s.plan.downloadTimeout { scene with files }
    with ⟨f | n, scene₁⟩
  · have he := Download.Fetcher.noted_apply hf
    refine ⟨[.fetched url (s.plan.archive target) s.plan.downloadTimeout (.error f)],
      fun j => ?_, ?_⟩ <;>
      simp only [fetchArchive, Scene.files_noting, noted_plan, noted_fetcher,
        Scene.withFiles_noting, hd, hf, he]
    exact ⟨rfl, .single (.notFetched (.failed ht hu hd hf))⟩
  · have he := Download.Fetcher.noted_apply hf
    obtain ⟨es, he', hunpack⟩ := s.traced_unpackArchive (s.plan.archive target) scene₁
    refine ⟨[.fetched url (s.plan.archive target) s.plan.downloadTimeout (.ok n)] ++ es,
      fun j => ?_, ?_⟩ <;>
      simp only [fetchArchive, Scene.files_noting, noted_plan, noted_fetcher,
        Scene.withFiles_noting, hd, hf, he, he', List.append_assoc]
    exact hunpack scene _ (.stored ht hu hd hf)

theorem traced_tryDownload :
    Traced s.tryDownload s.noted.tryDownload (Finds .download [Downloading s]) := by
  intro scene
  cases ht : s.plan.family.releaseTarget? with
  | none =>
    simp only [tryDownload, noted_plan, ht]
    refine ⟨[], by simp, rfl, .single (.notFetched (.unpublished ?_))⟩
    intro target url ht'
    cases ht.symm.trans ht'
  | some target =>
  cases hu : s.plan.release.archiveUrl target with
  | error e =>
    simp only [tryDownload, noted_plan, ht, hu]
    refine ⟨[], by simp, rfl, .single (.notFetched (.unpublished ?_))⟩
    rintro target' url ht' hu'
    obtain rfl := Option.some.inj (ht.symm.trans ht')
    cases hu.symm.trans hu'
  | ok url =>
    simp only [tryDownload, noted_plan, ht, hu]
    exact s.traced_fetchArchive ht hu scene

/-! ## The whole search -/

theorem traced_nothing :
    Traced (firstFound ([] : List (Scene σ → Found × Scene σ))) (firstFound [])
      (FindsFirst [] []) :=
  fun _ => ⟨[], by simp [firstFound], rfl, .nothing⟩

/-- A step in front of others. -/
theorem traced_firstFound {step : Step} {steps : List Step} {links links' : List (Link σ)}
    {f : Scene σ → Found × Scene σ} {f' : Scene (Journal × σ) → Found × Scene (Journal × σ)}
    {fs : List (Scene σ → Found × Scene σ)}
    {fs' : List (Scene (Journal × σ) → Found × Scene (Journal × σ))}
    (hf : Traced f f' (Finds step links))
    (hfs : Traced (firstFound fs) (firstFound fs') (FindsFirst steps links')) :
    Traced (firstFound (f :: fs)) (firstFound (f' :: fs'))
      (FindsFirst (step :: steps) (links ++ links')) := by
  intro scene
  rcases hr : f scene with ⟨a | b, scene₁⟩
  · obtain ⟨es, he, hstep, hlinks⟩ := hf.eq hr
    rcases hr' : firstFound fs scene₁ with ⟨as | b, scene₂⟩
    · obtain ⟨es', he', hsteps, hlinks'⟩ := hfs.eq hr'
      refine ⟨es ++ es', fun j => ?_, ?_⟩ <;>
        simp only [firstFound, hr, he, hr', he', List.append_assoc]
      exact ⟨by rw [List.map_cons, hstep, hsteps], hlinks.append_next hlinks'⟩
    · obtain ⟨es', he', hv, hlinks'⟩ := hfs.eq hr'
      refine ⟨es ++ es', fun j => ?_, ?_⟩ <;>
        simp only [firstFound, hr, he, hr', he', List.append_assoc]
      exact ⟨hv, hlinks.append_next hlinks'⟩
  · obtain ⟨es, he, hv, hlinks⟩ := hf.eq hr
    refine ⟨es, fun j => ?_, ?_⟩ <;> simp only [firstFound, hr, he]
    exact ⟨hv, hlinks.append_found⟩

theorem traced_disabled :
    Traced (fun scene => ((.error ⟨.download, .disabled⟩ : Found), scene))
      (fun scene => ((.error ⟨.download, .disabled⟩ : Found), scene))
      (Finds (σ := σ) .download []) :=
  fun _ => ⟨[], by simp, rfl, .nothing⟩

theorem traced_steps :
    Traced (firstFound s.steps) (firstFound s.noted.steps)
      (FindsFirst s.plan.stepsNoted s.chain) := by
  have hdownload : Traced
      (firstFound [if s.plan.allowsDownload then s.tryDownload
        else fun scene => (.error ⟨.download, .disabled⟩, scene)])
      (firstFound [if s.plan.allowsDownload then s.noted.tryDownload
        else fun scene => (.error ⟨.download, .disabled⟩, scene)])
      (FindsFirst [.download] (if s.plan.allowsDownload then [Downloading s] else [])) := by
    split
    · exact traced_firstFound s.traced_tryDownload traced_nothing
    · exact traced_firstFound traced_disabled traced_nothing
  have hsearch := traced_firstFound s.traced_trySearchPath hdownload
  have hcache :
    Traced (s.tryFile .cache s.plan.cachedBinary) (s.noted.tryFile .cache s.plan.cachedBinary)
      (Finds .cache [Asking s (.file (s.plan.programIn s.plan.cacheDirectory))]) :=
    s.traced_tryFile .cache s.plan.cachedBinary
  -- The steps are put in front of the last one, from the back.
  unfold steps Plan.stepsNoted chain
  rw [noted_plan]
  split
  · have hhosted := traced_firstFound (s.traced_tryFile .hostedBuild s.plan.hostedBinary) hsearch
    simpa only [List.append_assoc, List.cons_append, List.nil_append] using
      traced_firstFound hcache hhosted
  · simpa only [List.append_assoc, List.cons_append, List.nil_append] using
      traced_firstFound hcache hsearch

/-- What a search from the beginning comes to. -/
def Resolves (scene : Scene σ) (result : Except Unavailable Binary) (es : Journal)
    (scene' : Scene σ) : Prop :=
  match result with
  | .ok b => b.verified = true ∧ Along s.chain scene (some b.path) es scene'
  | .error e => e.attempts.map Attempt.step = s.plan.stepsNoted ∧ Along s.chain scene none es scene'

/-- A search from the beginning goes along the chain. -/
theorem traced_resolve : Traced s.resolve s.noted.resolve s.Resolves := by
  intro scene
  rcases hr : firstFound s.steps scene with ⟨result, scene'⟩
  obtain ⟨es, he, hfound⟩ := s.traced_steps.eq hr
  refine ⟨es, fun j => ?_, ?_⟩ <;> unfold resolve <;> rw [hr]
  · rw [he]
    cases result <;> rfl
  · cases result <;> exact hfound

end Searcher

/-! ## With a memory -/

/-- An attempt to come to a compiler, with and without a journal. What it finds is remembered, and
when it finds nothing, nothing is. -/
def Attempts (s : Searcher σ) (memory : Memory) (scene : Scene σ)
    (result : Except Unavailable Binary) (es : Journal) (scene' : Scene σ) : Prop :=
  s.ensure memory scene = (result, result.toOption, scene') ∧
    ∀ j, s.noted.ensure memory (scene.noting j) = (result, result.toOption, scene'.noting (j ++ es))

/-- What an attempt comes to when a program may be remembered: one that is verified is taken as it
is, one that is not has to tell its version again, and without an answer the search begins anew. -/
inductive Ensuring (s : Searcher σ) :
    Memory → Scene σ → Except Unavailable Binary → Journal → Scene σ → Prop
  | remembered {scene : Scene σ} {p : Path} :
    Ensuring s (some ⟨p, true⟩) scene (.ok ⟨p, true⟩) [] scene
  | renewed {scene scene' : Scene σ} {p : Path} {o : Run.Outcome}
      (hr : s.executor (s.plan.versionRequest p) .fresh scene = (o, scene')) (ho : o.IsZero) :
    Ensuring s (some ⟨p, false⟩) scene (.ok ⟨p, true⟩)
      [.ran (s.plan.versionRequest p) .fresh o] scene'
  | replaced {scene scene₁ scene' : Scene σ} {p : Path} {o : Run.Outcome}
      {result : Except Unavailable Binary} {es : Journal}
      (hr : s.executor (s.plan.versionRequest p) .fresh scene = (o, scene₁)) (ho : ¬o.IsZero)
      (ha : Attempts s none scene₁ result es scene') (h : s.Resolves scene₁ result es scene') :
    Ensuring s (some ⟨p, false⟩) scene result (.ran (s.plan.versionRequest p) .fresh o :: es) scene'
  | resolved {scene scene' : Scene σ} {result : Except Unavailable Binary} {es : Journal}
      (h : s.Resolves scene result es scene') : Ensuring s none scene result es scene'

theorem attempts_resolve (s : Searcher σ) (scene : Scene σ) :
    ∃ result es scene', Attempts s none scene result es scene' ∧
    s.Resolves scene result es scene' := by
  rcases hr : s.resolve scene with ⟨result, scene'⟩
  obtain ⟨es, he, hresolves⟩ := s.traced_resolve.eq hr
  refine ⟨result, es, scene', ⟨?_, fun j => ?_⟩, hresolves⟩ <;>
    simp only [Searcher.ensure, Searcher.reverify, hr, he] <;>
    cases result <;> rfl

theorem attempts_ensure (s : Searcher σ) (memory : Memory) (scene : Scene σ) :
    ∃ result es scene', Attempts s memory scene result es scene' ∧
      Ensuring s memory scene result es scene' := by
  match memory with
  | some ⟨p, true⟩ =>
    exact ⟨_, [], _, ⟨rfl, fun j => by rw [List.append_nil]; rfl⟩, .remembered⟩
  | none =>
    obtain ⟨result, es, scene', ha, h⟩ := attempts_resolve s scene
    exact ⟨result, es, scene', ha, .resolved h⟩
  | some ⟨p, false⟩ =>
    obtain ⟨o, scene₁, hr, he, ⟨ho, ha⟩ | ⟨ho, reason, ha⟩⟩ := s.ask_cases .reverify p scene
    · rw [ha] at he
      refine ⟨_, _, _, ⟨?_, fun j => ?_⟩, .renewed hr ho⟩ <;>
        simp only [Searcher.ensure, Searcher.reverify, ha, he] <;> rfl
    · rw [ha] at he
      obtain ⟨result, es, scene', ⟨hplain, hnoted⟩, h⟩ := attempts_resolve s scene₁
      refine ⟨result, _, scene', ⟨?_, fun j => ?_⟩, .replaced hr ho ⟨hplain, hnoted⟩ h⟩
      · rw [← hplain]
        simp only [Searcher.ensure, Searcher.reverify, ha]
      · rw [List.append_cons, ← hnoted]
        simp only [Searcher.ensure, Searcher.reverify, he]

/-- Without anything remembered, a search goes along the chain. It succeeds with the program that
has accepted, which is remembered as verified, and fails with one note for each step. -/
theorem ensure_along_chain (s : Searcher σ) (scene : Scene σ) :
    ∃ result es scene', s.ensure none scene = (result, result.toOption, scene') ∧
      (∀ j, s.noted.ensure none (scene.noting j) =
        (result, result.toOption, scene'.noting (j ++ es))) ∧
      match result with
      | .ok b => b.verified = true ∧ Along s.chain scene (some b.path) es scene'
      | .error e => e.attempts.map Attempt.step = s.plan.stepsNoted ∧
          Along s.chain scene none es scene' := by
  obtain ⟨result, es, scene', ⟨hplain, hnoted⟩, h⟩ := attempts_resolve s scene
  exact ⟨result, es, scene', hplain, hnoted, h⟩

end Compiler

end ClarityCheck
