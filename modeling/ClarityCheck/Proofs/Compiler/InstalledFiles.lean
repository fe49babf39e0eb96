import ClarityCheck.Proofs.Compiler.FoundPath
import ClarityCheck.Proofs.Compiler.SearchChain
import ClarityCheck.Proofs.Download.Replacement

/-!
# What an installation changes

A search asks programs for their version and changes nothing itself, up to a download. A download
creates the directory of the cache, removes the archive when it has been unpacked, and gives what
has been unpacked the mode of a program, unless that is refused. These changes are told apart here
from what the programs do that it runs.

* `Searcher.ensure_of_offline`: a search goes on to a download where it fails without
* `Swept`, `Marked`: the changes, with the places where they can happen
* `ensure_confined`: a search up to a download, and the download
-/

namespace ClarityCheck.Compiler

open Files

variable {σ : Type} {s : Searcher σ} {memory : Memory} {scene scene₁ scene₂ scene' : Scene σ}
  {es es' : Journal}

/-! ## Searches without downloads -/

namespace Searcher

/-- The same search, which may not download anything. -/
def offline (s : Searcher σ) : Searcher σ :=
  { s with plan := { s.plan with allowsDownload := false } }

/-- The steps before the last one. -/
def earlier (s : Searcher σ) : List (Scene σ → Found × Scene σ) :=
  [s.tryFile .cache s.plan.cachedBinary]
    ++ (if s.plan.family.isHosted then [s.tryFile .hostedBuild s.plan.hostedBinary] else [])
    ++ [s.trySearchPath]

theorem offline_eq (h : s.plan.allowsDownload = false) : s.offline = s := by
  unfold offline
  rw [← h]

theorem steps_offline (s : Searcher σ) :
    s.offline.steps = s.earlier ++ [fun scene => (.error ⟨.download, .disabled⟩, scene)] := rfl

theorem steps_of_allowed (h : s.plan.allowsDownload = true) :
    s.steps = s.earlier ++ [s.tryDownload] := by
  unfold steps
  rw [if_pos h]
  rfl

/-- One more step is taken where those before have found nothing. -/
theorem firstFound_append_single (fs : List (Scene σ → Found × Scene σ))
    (f : Scene σ → Found × Scene σ) (scene : Scene σ) : firstFound (fs ++ [f]) scene =
      match firstFound fs scene with
      | (.ok b, scene) => (.ok b, scene)
      | (.error as, scene) =>
        match f scene with
        | (.ok b, scene) => (.ok b, scene)
        | (.error a, scene) => (.error (as ++ [a]), scene) := by
  induction fs generalizing scene with
  | nil => rcases hf : f scene with ⟨a | b, scene₁⟩ <;> simp only [List.nil_append, firstFound, hf]
  | cons g fs ih =>
    simp only [List.cons_append, firstFound, ih]
    rcases hg : g scene with ⟨a | b, scene₁⟩ <;> simp only
    rcases hfs : firstFound fs scene₁ with ⟨as | b, scene₂⟩ <;> simp only
    rcases f scene₂ with ⟨a' | b, scene₃⟩ <;> rfl

/-- What a download comes to after a search that has failed with these notes. -/
def lastly (s : Searcher σ) (e : Unavailable) (scene : Scene σ) :
    Except Unavailable Binary × Scene σ :=
  match s.tryDownload scene with
  | (.ok b, scene) => (.ok b, scene)
  | (.error a, scene) => (.error ⟨e.attempts.dropLast ++ [a]⟩, scene)

theorem lastly_snd (e : Unavailable) (scene : Scene σ) :
    (s.lastly e scene).2 = (s.tryDownload scene).2 := by
  unfold lastly
  rcases s.tryDownload scene with ⟨a | b, scene₁⟩ <;> rfl

theorem resolve_of_offline (ha : s.plan.allowsDownload = true) (scene : Scene σ) :
    s.resolve scene =
      match s.offline.resolve scene with
      | (.ok b, scene) => (.ok b, scene)
      | (.error e, scene) => s.lastly e scene := by
  unfold resolve lastly
  rw [steps_of_allowed ha, steps_offline, firstFound_append_single, firstFound_append_single]
  rcases firstFound s.earlier scene with ⟨as | b, scene₁⟩ <;> simp only [List.dropLast_concat]
  rcases s.tryDownload scene₁ with ⟨a | b, scene₂⟩ <;> rfl

/-- A search that may download does what it does without, and goes on to a download if that fails.
-/
theorem ensure_of_offline (ha : s.plan.allowsDownload = true) (memory : Memory) (scene : Scene σ) :
    s.ensure memory scene =
      match s.offline.ensure memory scene with
      | (.ok b, memory, scene) => (.ok b, memory, scene)
      | (.error e, _, scene) =>
        match s.lastly e scene with
        | (result, scene) => (result, result.toOption, scene) := by
  unfold ensure
  split
  · rfl
  rcases hr : s.reverify memory scene with ⟨_ | b, scene₁⟩
  all_goals
    have hr' : s.offline.reverify memory scene = _ := hr
    simp only [hr']
  rw [resolve_of_offline ha]
  rcases s.offline.resolve scene₁ with ⟨e | b, scene₂⟩ <;> simp only
  rcases s.lastly e scene₂ with ⟨e' | b, scene₃⟩ <;> rfl

/-- Where all steps find nothing and leave everything as it is, so does a search. -/
theorem firstFound_of_failing {fs : List (Scene σ → Found × Scene σ)}
    (h : ∀ f ∈ fs, ∃ a, f scene = (.error a, scene)) :
    ∃ as, firstFound fs scene = (.error as, scene) := by
  induction fs with
  | nil => exact ⟨[], rfl⟩
  | cons f fs ih =>
    obtain ⟨a, ha⟩ := h f (by simp)
    obtain ⟨as, has⟩ := ih fun g hg => h g (by simp [hg])
    exact ⟨a :: as, by simp only [firstFound, ha, has]⟩

/-- Where no program answers, and none changes anything, a search without downloads fails. -/
theorem ensure_offline_of_refusing
    (h : ∀ step p scene, ∃ a, s.ask step p scene = (.error a, scene)) (scene : Scene σ) :
    ∃ e, s.offline.ensure none scene = (.error e, none, scene) := by
  have hfile (step : Step) (p : Path) : ∃ a, s.tryFile step p scene = (.error a, scene) := by
    unfold tryFile
    split
    · exact h _ _ _
    · exact ⟨_, rfl⟩
  have hpath : ∃ a, s.trySearchPath scene = (.error a, scene) := by
    unfold trySearchPath
    split
    · exact h _ _ _
    · next program _ =>
      obtain ⟨a, ha⟩ := h .searchPath program scene
      simp only [ha]
      exact h _ _ _
  have hsteps : ∀ f ∈ s.offline.steps, ∃ a, f scene = (.error a, scene) := by
    intro f hf
    rcases mem_steps hf with rfl | rfl | rfl | rfl
    · exact hfile _ _
    · exact hfile _ _
    · exact hpath
    · exact ⟨_, rfl⟩
  obtain ⟨as, has⟩ := firstFound_of_failing hsteps
  refine ⟨⟨as⟩, ?_⟩
  unfold ensure reverify resolve
  simp only [has]

end Searcher

/-- Programs have been asked for their version one after the other, and nothing else has happened.
-/
inductive Probes (s : Searcher σ) : Scene σ → Journal → Scene σ → Prop
  | nothing {scene : Scene σ} : Probes s scene [] scene
  | asked {scene scene₁ scene' : Scene σ} {p : Path} {o : Run.Outcome} {es : Journal}
      (hr : s.executor (s.plan.versionRequest p) .fresh scene = (o, scene₁))
      (rest : Probes s scene₁ es scene') :
    Probes s scene (.ran (s.plan.versionRequest p) .fresh o :: es) scene'

namespace Probes

theorem append (h : Probes s scene es scene₁) (h' : Probes s scene₁ es' scene') :
    Probes s scene (es ++ es') scene' := by
  induction h with
  | nothing => exact h'
  | asked hr _ ih => exact .asked hr (ih h')

theorem of_asking {candidate : Candidate} {r : Option Path}
    (h : Asking s.offline candidate scene r es scene') : Probes s scene es scene' := by
  cases h with
  | nobody => exact .nothing
  | refused _ hr => exact .asked hr .nothing
  | accepted _ hr => exact .asked hr .nothing

theorem of_along {links : List (Link σ)} {r : Option Path}
    (hlinks : ∀ link ∈ links, ∀ scene r es scene', link scene r es scene' →
      Probes s scene es scene')
    (h : Along links scene r es scene') : Probes s scene es scene' := by
  induction h with
  | nothing => exact .nothing
  | found h => exact hlinks _ (by simp) _ _ _ _ h
  | next h _ ih =>
    exact (hlinks _ (by simp) _ _ _ _ h).append (ih fun link hl => hlinks link (by simp [hl]))

theorem of_chain {r : Option Path} (h : Along s.offline.chain scene r es scene') :
    Probes s scene es scene' := by
  refine of_along (fun link hlink scene r es scene' h => ?_) h
  have hasking : ∃ candidate, link = Asking s.offline candidate := by
    simp only [Searcher.chain, List.mem_append] at hlink
    rcases hlink with ((hl | hl) | hl) | hl
    · exact ⟨_, List.mem_singleton.mp hl⟩
    · split at hl
      · exact ⟨_, List.mem_singleton.mp hl⟩
      · cases hl
    · rcases List.mem_pair.mp hl with rfl | rfl <;> exact ⟨_, rfl⟩
    · cases hl
  obtain ⟨candidate, rfl⟩ := hasking
  exact of_asking h

theorem of_resolves {result : Except Unavailable Binary}
    (h : s.offline.Resolves scene result es scene') :
    Probes s scene es scene' := by
  cases result with
  | ok b => exact of_chain h.2
  | error e => exact of_chain h.2

/-- All that a search without downloads does is asking. -/
theorem of_ensuring {result : Except Unavailable Binary}
    (h : Ensuring s.offline memory scene result es scene') : Probes s scene es scene' := by
  cases h with
  | remembered => exact .nothing
  | renewed hr => exact .asked hr .nothing
  | replaced hr _ _ h => exact .asked hr (of_resolves h)
  | resolved h => exact of_resolves h

end Probes

/-! ## What a download changes itself -/

/-- A location is an entry of the directory that the path of the cache leads to. -/
def Plan.InCache (plan : Plan) (files : Files) (l : Location) : Prop :=
  ∃ links directory name, Leads files plan.cacheDirectory links directory ∧ l = directory ++ [name]

/-- No directory stands where a path leads. -/
def NoDirectory (files : Files) (p : Path) : Prop :=
  ∀ m, files.locate false p = .ok m → files.get? m ≠ some .directory

/-- At most the archive has changed, which is in the cache. -/
structure Swept (plan : Plan) (target : String) (files files' : Files) : Prop where
  directory : files'.directory = files.directory
  confined : ∀ x, files'.get? x ≠ files.get? x →
    files.locate false (plan.archive target) = .ok x ∧ plan.InCache files x

/-- What stands somewhere when everybody may run it and its owner alone may write it, if it is a
file. -/
def runnable : Node → Node
  | .file content permissions => .file content { permissions with mode := 0o755 }
  | node => node

/-- There is a compiler in the cache that everybody may run now. At most the compiler has changed,
which is in the cache, or where a link leads that is in its place. -/
structure Marked (plan : Plan) (files files' : Files) : Prop where
  directory : files'.directory = files.directory
  made : ∃ m node, files.locate true plan.cachedBinary = .ok m ∧ files.get? m = some node ∧
    files'.get? m = some (runnable node)
  confined : ∀ x, files'.get? x ≠ files.get? x → files.locate true plan.cachedBinary = .ok x ∧
    (plan.InCache files x ∨
      ∃ l p, files.locate false plan.cachedBinary = .ok l ∧ files.get? l = some (.link p))

/-- Why the compiler in the cache has kept its mode. -/
inductive Unmarked (plan : Plan) (files : Files) : SystemError → Prop
  | unreachable {e : SystemError} (h : files.locate true plan.cachedBinary = .error e) :
    Unmarked plan files e
  | missing {m : Location} (h : files.locate true plan.cachedBinary = .ok m)
    (hm : files.get? m = none) : Unmarked plan files .notFound
  /-- It is there, and the file system refuses to change its mode. -/
  | refused {m : Location} {content : Bytes} {permissions : Permissions} {e : SystemError}
    (h : files.locate true plan.cachedBinary = .ok m)
    (hm : files.get? m = some (.file content permissions)) (he : permissions.refusal = some e) :
    Unmarked plan files e

section

variable {plan : Plan} {files files' : Files} {p : Path} {m : Location} {e : SystemError}
  {target : String}

theorem isEntryName_archive (ht : plan.family.releaseTarget? = some target) :
    IsEntryName (Path.ofString (Release.archiveName target)).bytes := by
  have htarget : '/' ∉ target.toList := by
    unfold Host.Family.releaseTarget? Host.releaseTarget? at ht
    simp only at ht
    split at ht <;> cases ht <;> decide
  unfold Release.archiveName
  refine isEntryName_encode ?_ ?_
  · simp only [String.toList_append, List.mem_append, not_or]
    exact ⟨⟨by decide, htarget⟩, by decide⟩
  · simp only [String.toList_append, List.length_append]
    have : "clarinet-".toList.length = 9 := rfl
    omega

/-- A path with a name behind that of the cache leads into the cache, when no link is followed. -/
theorem inCache_of_locate {name : FileName} (hn : IsEntryName name)
    (h : files.locate false (plan.cacheDirectory.child name) = .ok m) : plan.InCache files m := by
  obtain ⟨links, l, hl, rfl, -⟩ := locate_child hn h
  exact ⟨links, l, name, hl, rfl⟩

/-- What has been removed, if it was no directory. -/
theorem discard_cases (files : Files) (p : Path) :
    (Searcher.discard files p = files ∧ (NoDirectory files p → Absent files p)) ∨
      ∃ m, files.locate false p = .ok m ∧ m ≠ [] ∧ files.hasDirectory m = false ∧
        Searcher.discard files p = files.erase m := by
  unfold Searcher.discard removeFile
  rcases hl : files.locate false p with e | m
  · exact .inl ⟨rfl, fun _ k hk => by simp [hl] at hk⟩
  have hunique {k : Location} (hk : files.locate false p = .ok k) : k = m :=
    Except.ok.inj (hk.symm.trans hl)
  rcases hg : files.get? m with _ | node
  · refine .inl ⟨by simp only [hg], fun _ k hk => ?_⟩
    rw [hunique hk, hg]
  by_cases hnode : node = .directory
  · subst hnode
    exact .inl ⟨by simp only [hg], fun hno => absurd hg (hno m hl)⟩
  · right
    have hd : files.hasDirectory m = false := by simp [hasDirectory, hg, hnode]
    refine ⟨m, rfl, ?_, hd, ?_⟩
    · rintro rfl
      simp at hd
    · cases node <;> simp_all

theorem swept_discard (ht : plan.family.releaseTarget? = some target) (files : Files) :
    Swept plan target files (Searcher.discard files (plan.archive target)) := by
  rcases discard_cases files (plan.archive target) with ⟨he, -⟩ | ⟨m, hl, hne, hd, he⟩ <;> rw [he]
  · exact ⟨rfl, fun x hx => absurd rfl hx⟩
  · refine ⟨rfl, fun x hx => ?_⟩
    have hxm : x = m := by
      by_contra hxm
      rw [get?_erase files m x hne hd, if_neg hxm] at hx
      exact hx rfl
    subst hxm
    exact ⟨hl, inCache_of_locate (isEntryName_archive ht) hl⟩

/-- What has been removed is not there any more. -/
theorem absent_discard (hno : NoDirectory files p) : Absent (Searcher.discard files p) p := by
  rcases discard_cases files p with ⟨he, ha⟩ | ⟨m, hl, hne, hd, he⟩ <;> rw [he]
  · exact ha hno
  · intro k hk
    refine get?_of_locate_removed hne hl ?_ (get?_erase_below hne hd) hk
    rfl

theorem unmarked_of_error (h : files.changeMode plan.cachedBinary programMode = .error e) :
    Unmarked plan files e := by
  unfold changeMode at h
  split at h
  · next hm =>
    cases h
    exact .unreachable hm
  next m hm =>
  split at h
  · next hg =>
    cases h
    exact .missing hm hg
  · next content permissions hg =>
    split at h
    · next hw =>
      cases h
      exact .refused hm hg (Permissions.withMode_eq_error_iff.1 hw)
    · cases h
  · cases h

theorem marked_of_ok (h : files.changeMode plan.cachedBinary programMode = .ok files') :
    Marked plan files files' := by
  unfold changeMode at h
  split at h
  · cases h
  next m hm =>
  have hentry : plan.InCache files m ∨
      ∃ l p, files.locate false plan.cachedBinary = .ok l ∧ files.get? l = some (.link p) := by
    obtain ⟨l, hl, rfl | ⟨p, hg⟩⟩ := exists_locate_false hm
    · exact .inl (inCache_of_locate (isEntryName_command plan) hl)
    · exact .inr ⟨l, p, hl, hg⟩
  split at h
  · cases h
  · next content permissions hg =>
    split at h
    · cases h
    next marked hw =>
    obtain ⟨-, rfl⟩ := Permissions.withMode_eq_ok_iff.1 hw
    obtain rfl := Except.ok.inj h
    have hd : files.hasDirectory m = false := by simp [hasDirectory, hg]
    have hne : m ≠ [] := by
      rintro rfl
      simp at hd
    have hget (x : Location) := get?_put files x
      (.file content { permissions with mode := programMode }) hne (locate_dropLast hm) hd
    refine ⟨rfl, ⟨m, _, hm, hg, by rw [hget, if_pos rfl]; rfl⟩, fun x hx => ?_⟩
    have hxm : x = m := by
      by_contra hxm
      rw [hget, if_neg hxm] at hx
      exact hx rfl
    subst hxm
    exact ⟨hm, hentry⟩
  · next node hfile hg =>
    obtain rfl := Except.ok.inj h
    refine ⟨rfl, ⟨m, node, hm, hg, ?_⟩, fun x hx => absurd rfl hx⟩
    cases node with
    | file content permissions => exact absurd rfl (hfile content permissions)
    | link | device | directory => exact hg

/-- No path leads elsewhere once a compiler is runnable, so what was absent is. -/
theorem Marked.absent (h : Marked plan files files') (ha : Absent files p) : Absent files' p := by
  obtain ⟨m, node, hm, hg, hg'⟩ := h.made
  have same (x : Location) (hx : ¬IsEnd (files'.get? x)) : files.get? x = files'.get? x := by
    by_contra hne
    obtain rfl : x = m := Except.ok.inj ((h.confined x (Ne.symm hne)).1.symm.trans hm)
    cases node with
    | file content permissions =>
      rw [hg'] at hx
      exact hx (IsVacant.isEnd (.inr ⟨_, _, rfl⟩))
    | link | device | directory => exact hne (hg.trans hg'.symm)
  intro k hk
  have hnone := ha k (locate_onward h.directory.symm same hk)
  by_contra hsome
  have hne : files'.get? k ≠ files.get? k := by rwa [hnone]
  obtain rfl : k = m := Except.ok.inj ((h.confined k hne).1.symm.trans hm)
  rw [hnone] at hg
  cases hg

end

/-! ## Downloads -/

/-- A release is published for the host, and its archive has this address. -/
def Plan.Publishes (plan : Plan) (target : String) (url : Url) : Prop :=
  plan.family.releaseTarget? = some target ∧ plan.release.archiveUrl target = .ok url

/-- An archive has been fetched and unpacked, with this outcome and these files, and has been
removed. -/
inductive Unpacked (s : Searcher σ) (target : String) (url : Url) (scene : Scene σ) :
    Run.Outcome → Files → Journal → Scene σ → Prop
  | intro {files files' : Files} {fetched unpacked : Scene σ} {n : Nat} {o : Run.Outcome}
      (created : Grown s.plan.cacheDirectory scene.files files)
      (stored : s.fetcher url (s.plan.archive target) s.plan.downloadTimeout { scene with files } =
        (.ok n, fetched))
      (ran : s.executor (s.plan.unpackRequest (s.plan.archive target)) .fresh fetched =
        (o, unpacked))
      (swept : Swept s.plan target unpacked.files files') :
    Unpacked s target url scene o unpacked.files
      [.fetched url (s.plan.archive target) s.plan.downloadTimeout (.ok n),
        .ran (s.plan.unpackRequest (s.plan.archive target)) .fresh o]
      { unpacked with files := files' }

/-- What a download comes to: where it ends, with which compiler, what has been called, and what has
changed besides. Once something has been fetched no archive is left, provided that no directory
stood in its place and that the compiler, when it is asked, does not create one. -/
inductive Downloaded (s : Searcher σ) (target : String) (url : Url) (scene : Scene σ) :
    Option Binary → Journal → Scene σ → Prop
  | noDirectory {files : Files} (created : Grown s.plan.cacheDirectory scene.files files) :
    Downloaded s target url scene none [] { scene with files }
  | notFetched {files : Files} {f : Download.Failure} {scene' : Scene σ}
      (created : Grown s.plan.cacheDirectory scene.files files)
      (failed : s.fetcher url (s.plan.archive target) s.plan.downloadTimeout { scene with files } =
        (.error f, scene')) :
    Downloaded s target url scene none
      [.fetched url (s.plan.archive target) s.plan.downloadTimeout (.error f)] scene'
  | notUnpacked {o : Run.Outcome} {before : Files} {es : Journal} {scene' : Scene σ}
      (unpacked : Unpacked s target url scene o before es scene') (ho : ¬o.IsZero)
      (absent : NoDirectory before (s.plan.archive target) →
        Absent scene'.files (s.plan.archive target)) :
    Downloaded s target url scene none es scene'
  | notMarked {o : Run.Outcome} {before : Files} {es : Journal} {scene' : Scene σ}
      (unpacked : Unpacked s target url scene o before es scene') (ho : o.IsZero)
      {e : SystemError} (unmarked : Unmarked s.plan scene'.files e)
      (absent : NoDirectory before (s.plan.archive target) →
        Absent scene'.files (s.plan.archive target)) :
    Downloaded s target url scene none es scene'
  | asked {o answer : Run.Outcome} {before files : Files} {es : Journal} {scene₁ scene' : Scene σ}
      {result : Option Binary} (unpacked : Unpacked s target url scene o before es scene₁)
      (ho : o.IsZero) (marked : Marked s.plan scene₁.files files)
      (ran : s.executor (s.plan.versionRequest s.plan.cachedBinary) .fresh { scene₁ with files } =
        (answer, scene'))
      (found : answer.IsZero ∧ result = some ⟨s.plan.cachedBinary, true⟩ ∨
        ¬answer.IsZero ∧ result = none)
      (absent : NoDirectory before (s.plan.archive target) →
        (Absent files (s.plan.archive target) → Absent scene'.files (s.plan.archive target)) →
          Absent scene'.files (s.plan.archive target)) :
    Downloaded s target url scene result
      (es ++ [.ran (s.plan.versionRequest s.plan.cachedBinary) .fresh answer]) scene'

theorem grown_of_created {files files' : Files} {p : Path} {result : Except SystemError Unit}
    (h : files.createDirectories p = (result, files')) : Grown p files files' := by
  have hgrown := createDirectories_grown files p
  rwa [h] at hgrown

/-- A link that downloads does so with these changes only. -/
theorem downloaded_of_downloading {target : String} {url : Url} {r : Option Path}
    (hp : s.plan.Publishes target url) (h : Downloading s scene r es scene') :
    Downloaded s target url scene (r.map .answering) es scene' := by
  obtain ⟨ht, hu⟩ := hp
  -- Whatever is fetched is the archive that is published.
  have hstored {archive : Path} {es : Journal} {scene₁ scene₂ : Scene σ} {o : Run.Outcome}
      (hf : Fetching s scene (some archive) es scene₁)
      (hr : s.executor (s.plan.unpackRequest archive) .fresh scene₁ = (o, scene₂)) :
      archive = s.plan.archive target ∧ Unpacked s target url scene o scene₂.files
        (es ++ [.ran (s.plan.unpackRequest archive) .fresh o])
        { scene₂ with files := Searcher.discard scene₂.files archive } := by
    cases hf with
    | stored ht' hu' hd hf =>
      obtain rfl := Option.some.inj (ht'.symm.trans ht)
      obtain rfl := Except.ok.inj (hu'.symm.trans hu)
      exact ⟨rfl, .intro (grown_of_created hd) hf hr (swept_discard ht scene₂.files)⟩
  cases h with
  | notFetched hf =>
    cases hf with
    | unpublished h => exact absurd hu (h target url ht)
    | noDirectory hd => exact .noDirectory (grown_of_created hd)
    | failed ht' hu' hd hf =>
      obtain rfl := Option.some.inj (ht'.symm.trans ht)
      obtain rfl := Except.ok.inj (hu'.symm.trans hu)
      exact .notFetched (grown_of_created hd) hf
  | notUnpacked hf hunpack =>
    cases hunpack with
    | failed hr ho =>
      obtain ⟨rfl, hunpacked⟩ := hstored hf hr
      exact .notUnpacked hunpacked ho absent_discard
    | notMarked hr ho hm =>
      obtain ⟨rfl, hunpacked⟩ := hstored hf hr
      exact .notMarked hunpacked ho (unmarked_of_error hm) absent_discard
  | unpacked hf hunpack ha =>
    cases hunpack with
    | marked hr ho hm =>
      obtain ⟨rfl, hunpacked⟩ := hstored hf hr
      have hmarked := marked_of_ok hm
      cases ha with
      | nobody hc => cases hc
      | refused hc hra hoa =>
        obtain rfl := Option.some.inj hc
        exact .asked hunpacked ho hmarked hra (.inr ⟨hoa, rfl⟩)
          fun hno hkeep => hkeep (hmarked.absent (absent_discard hno))
      | accepted hc hra hoa =>
        obtain rfl := Option.some.inj hc
        exact .asked hunpacked ho hmarked hra (.inl ⟨hoa, rfl⟩)
          fun hno hkeep => hkeep (hmarked.absent (absent_discard hno))

/-! ## Searches that may download -/

/-- A search that comes to a compiler without downloads takes the same one when it may download. -/
theorem Attempts.of_offline_ok {b : Binary} (ha : s.plan.allowsDownload = true)
    (h : Attempts s.offline memory scene (.ok b) es scene₁) :
    Attempts s memory scene (.ok b) es scene₁ := by
  refine ⟨?_, fun j => ?_⟩
  · rw [Searcher.ensure_of_offline ha, h.1]
  · have hnoted : s.noted.offline.ensure memory (scene.noting j) = _ := h.2 j
    rw [Searcher.ensure_of_offline (s := s.noted) ha, hnoted]

/-- A search that fails without downloads goes on with one. -/
theorem Attempts.of_offline_error {e : Unavailable} {r : Found} (ha : s.plan.allowsDownload = true)
    (h : Attempts s.offline memory scene (.error e) es scene₁)
    (hd : s.tryDownload scene₁ = (r, scene'))
    (hn : ∀ j, s.noted.tryDownload (scene₁.noting j) = (r, scene'.noting (j ++ es'))) :
    ∃ result, result.toOption = r.toOption ∧ Attempts s memory scene result (es ++ es') scene' := by
  have hnoted (j : Journal) : s.noted.offline.ensure memory (scene.noting j) = _ := h.2 j
  have hlastly (j : Journal) := hn (j ++ es)
  simp only [List.append_assoc] at hlastly
  rcases r with a | b
  · refine ⟨.error ⟨e.attempts.dropLast ++ [a]⟩, rfl, ?_, fun j => ?_⟩
    · rw [Searcher.ensure_of_offline ha, h.1]
      simp only [Searcher.lastly, hd]
    · rw [Searcher.ensure_of_offline (s := s.noted) ha, hnoted]
      simp only [Searcher.lastly, hlastly]
  · refine ⟨.ok b, rfl, ?_, fun j => ?_⟩
    · rw [Searcher.ensure_of_offline ha, h.1]
      simp only [Searcher.lastly, hd]
    · rw [Searcher.ensure_of_offline (s := s.noted) ha, hnoted]
      simp only [Searcher.lastly, hlastly]

/-- Where nothing is published, a download changes nothing. -/
theorem tryDownload_of_unpublished (h : ∀ target url, ¬s.plan.Publishes target url) :
    ∃ a, (∀ scene, s.tryDownload scene = (.error a, scene)) ∧
      ∀ scene, s.noted.tryDownload scene = (.error a, scene) := by
  cases ht : s.plan.family.releaseTarget? with
  | none =>
    refine ⟨⟨.download, .noRelease⟩, fun scene => ?_, fun scene => ?_⟩ <;>
      simp only [Searcher.tryDownload, Searcher.noted_plan, ht]
  | some target =>
    cases hu : s.plan.release.archiveUrl target with
    | error e =>
      refine ⟨⟨.download, .badAddress e⟩, fun scene => ?_, fun scene => ?_⟩ <;>
        simp only [Searcher.tryDownload, Searcher.noted_plan, ht, hu]
    | ok url => exact absurd ⟨ht, hu⟩ (h target url)

/-- What a download comes to where a release is published, with and without a journal. -/
theorem tryDownload_of_published {target : String} {url : Url} (hp : s.plan.Publishes target url)
    (scene : Scene σ) :
    ∃ r es scene', s.tryDownload scene = (r, scene') ∧
      (∀ j, s.noted.tryDownload (scene.noting j) = (r, scene'.noting (j ++ es))) ∧
      Downloaded s target url scene r.toOption es scene' := by
  rcases hr : s.fetchArchive target url scene with ⟨r, scene'⟩
  obtain ⟨es, hnoted, hfinds⟩ := (s.traced_fetchArchive hp.1 hp.2).eq hr
  refine ⟨r, es, scene', ?_, fun j => ?_, ?_⟩
  · simp only [Searcher.tryDownload, hp.1, hp.2, hr]
  · simp only [Searcher.tryDownload, Searcher.noted_plan, hp.1, hp.2, hnoted]
  · cases r with
    | error a => exact downloaded_of_downloading hp hfinds.2.of_single
    | ok b =>
      have hb : b = .answering b.path := by
        obtain ⟨path, verified⟩ := b
        obtain rfl : verified = true := hfinds.1
        rfl
      have hdownloaded := downloaded_of_downloading hp hfinds.2.of_single
      rwa [Option.map_some, ← hb] at hdownloaded

/-- A search asks for versions, and changes nothing itself, up to a download. There is none when a
compiler has been found before, downloads are not allowed, or nothing is published. Otherwise what
is changed is the directory of the cache with its missing parents, the archive in it, and who may
run the compiler that stands in it or where a link in it leads. -/
theorem ensure_confined (s : Searcher σ) (memory : Memory) (scene : Scene σ) :
    ∃ early es scene₁ result es' scene',
      Attempts s.offline memory scene early es scene₁ ∧ Probes s scene es scene₁ ∧
      Attempts s memory scene result (es ++ es') scene' ∧
      (early.toOption ≠ none ∨ s.plan.allowsDownload = false ∨
        (∀ target url, ¬s.plan.Publishes target url) →
          es' = [] ∧ scene' = scene₁ ∧ result.toOption = early.toOption) ∧
      (early.toOption = none → s.plan.allowsDownload = true →
        ∀ target url, s.plan.Publishes target url →
          Downloaded s target url scene₁ result.toOption es' scene') := by
  obtain ⟨early, es, scene₁, hearly, hensuring⟩ := attempts_ensure s.offline memory scene
  have hprobes := Probes.of_ensuring hensuring
  cases ha : s.plan.allowsDownload with
  | false =>
    have hwhole : Attempts s memory scene early es scene₁ := by
      have hsame := Searcher.offline_eq ha
      rwa [hsame] at hearly
    refine ⟨early, es, scene₁, early, [], scene₁, hearly, hprobes, ?_, fun _ => ⟨rfl, rfl, rfl⟩,
      by simp⟩
    rwa [List.append_nil]
  | true =>
  cases early with
  | ok b =>
    refine ⟨_, es, scene₁, _, [], scene₁, hearly, hprobes, ?_, fun _ => ⟨rfl, rfl, rfl⟩, ?_⟩
    · rw [List.append_nil]
      exact hearly.of_offline_ok ha
    · exact fun h => by cases h
  | error e =>
  by_cases hp : ∃ target url, s.plan.Publishes target url
  · obtain ⟨target, url, hp⟩ := hp
    obtain ⟨r, es', scene', hd, hn, hdownloaded⟩ := tryDownload_of_published hp scene₁
    obtain ⟨result, hresult, hwhole⟩ := hearly.of_offline_error ha hd hn
    refine ⟨_, es, scene₁, result, es', scene', hearly, hprobes, hwhole, ?_,
      fun _ _ target' url' hp' => ?_⟩
    · rintro (h | h | h)
      · exact absurd rfl h
      · cases h
      · exact absurd hp (h target url)
    · obtain rfl := Option.some.inj (hp.1.symm.trans hp'.1)
      obtain rfl := Except.ok.inj (hp.2.symm.trans hp'.2)
      rwa [hresult]
  · have hnone (target : String) (url : Url) (h : s.plan.Publishes target url) : False :=
      hp ⟨target, url, h⟩
    obtain ⟨a, hd, hn⟩ := tryDownload_of_unpublished hnone
    have hquiet (j : Journal) :
        s.noted.tryDownload (scene₁.noting j) = (.error a, scene₁.noting (j ++ [])) := by
      rw [List.append_nil, hn]
    obtain ⟨result, hresult, hwhole⟩ := hearly.of_offline_error ha (hd scene₁) hquiet
    refine ⟨_, es, scene₁, result, [], scene₁, hearly, hprobes, hwhole,
      fun _ => ⟨rfl, rfl, hresult⟩, ?_⟩
    exact fun _ _ target url h => absurd h (hnone target url)

/-! ## A link in the cache -/

/-- A cache where a link to a file outside of it stands for the compiler. -/
def linked : Files where
  nodes :=
    [(["cache", "clarinet"].map fun name => (Path.ofString name).bytes, .link (.ofString "/tool")),
    ([(Path.ofString "cache").bytes], .directory),
      ([(Path.ofString "tool").bytes], .file [] .plain)]
  directory := []

/-- Nothing is unpacked, no compiler answers, and nothing changes. -/
def inert : Searcher Unit where
  plan := nearby
  executor := fun r _ scene =>
    (.ok ⟨some (if r.arguments.length = 1 then 1 else 0), "", "", false⟩, scene)
  fetcher := fun _ _ _ scene => (.ok 0, scene)

/-- A download can change a file outside the cache when a link in the cache leads to it. -/
theorem marked_outside :
    (∀ r t scene, (inert.executor r t scene).2 = scene) ∧
    (∀ url p limit scene, (inert.fetcher url p limit scene).2 = scene) ∧
    linked.locate true nearby.cacheDirectory = .ok [(Path.ofString "cache").bytes] ∧
    ¬[(Path.ofString "cache").bytes] <+: [(Path.ofString "tool").bytes] ∧
    linked.get? [(Path.ofString "tool").bytes] = some (.file [] .plain) ∧
    (inert.ensure none ⟨linked, false, ()⟩).2.2.files.get? [(Path.ofString "tool").bytes] =
      some (.file [] .program) := by
  refine ⟨fun _ _ _ => rfl, fun _ _ _ _ => rfl, by cbv, by decide, by cbv, ?_⟩
  have hask (step : Step) (p : Path) (scene : Scene Unit) :
      ∃ a, inert.ask step p scene = (.error a, scene) := ⟨⟨step, .refused p (some 1)⟩, rfl⟩
  obtain ⟨e, hoffline⟩ := Searcher.ensure_offline_of_refusing hask ⟨linked, false, ()⟩
  obtain ⟨url, hu⟩ := published_nearby
  have hdownload : inert.tryDownload ⟨linked, false, ()⟩ =
      inert.fetchArchive "linux-x64-glibc" url ⟨linked, false, ()⟩ := by
    have ht : inert.plan.family.releaseTarget? = some "linux-x64-glibc" := rfl
    have hu' : inert.plan.release.archiveUrl "linux-x64-glibc" = .ok url := hu
    simp only [Searcher.tryDownload, ht, hu']
  have hmarked : (inert.fetchArchive "linux-x64-glibc" url ⟨linked, false, ()⟩).2.files.get?
      [(Path.ofString "tool").bytes] = some (.file [] .program) := by cbv
  rw [Searcher.ensure_of_offline rfl, hoffline]
  rwa [← hdownload, ← Searcher.lastly_snd e] at hmarked

end ClarityCheck.Compiler
