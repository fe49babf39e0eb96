import ClarityCheck.Proofs.Compiler.SearchChain
import ClarityCheck.Validation.Setup

/-!
# Searches that may crash

A search that keeps the first crash does what the search without that does, and it crashes only
where one of its runs does. So a validation without a crash answers what is known of validations,
and a validation whose first run crashes leaves everything as it was.

* `Steady.resolve`: a search beside the one that keeps the first crash
* `validateOnce_of_steady`: validations without a crash
* `validateOnce_of_stuck`: validations that crash when they ask the first program
-/

namespace ClarityCheck

open Run Compiler Validation

variable {σ α β : Type} {K : Option (Crash σ) → Prop}

/-! ## Operations beside each other -/

/-- A property of what is kept of crashes outlasts a run. -/
def Run.Executor.Preserves (e : Executor σ) (K : Option (Crash σ) → Prop) (r : Request)
    (t : Token) : Prop :=
  ∀ s, K s.crash? → K (e.watched r t s).2.crash?

/-- An operation that keeps the first crash does what another one does without that, and preserves a
property of what is kept. -/
structure Follows (K : Option (Crash σ) → Prop) (f' : Scene (Watched σ) → α × Scene (Watched σ))
    (f : Scene σ → α × Scene σ) : Prop where
  result : ∀ s, (f' s).1 = (f s.unwatched).1
  scene : ∀ s, (f' s).2.unwatched = (f s.unwatched).2
  keeps : ∀ s, K s.crash? → K (f' s).2.crash?

/-- An operation and what is done with its result. -/
def andThen (f : Scene σ → α × Scene σ) (g : α → Scene σ → β × Scene σ) (s : Scene σ) :
    β × Scene σ :=
  g (f s).1 (f s).2

/-- An operation on files only. -/
def onFiles (f : Files → α × Files) (s : Scene σ) : α × Scene σ :=
  ((f s.files).1, { s with files := (f s.files).2 })

/-- An operation that depends on the files at its beginning. -/
def reading (f : Files → Scene σ → α × Scene σ) (s : Scene σ) : α × Scene σ := f s.files s

namespace Follows

theorem give (a : α) : Follows K (fun s => (a, s)) (fun s => (a, s)) :=
  ⟨fun _ => rfl, fun _ => rfl, fun _ h => h⟩

theorem onFiles (f : Files → α × Files) : Follows K (onFiles f) (onFiles f) :=
  ⟨fun _ => rfl, fun _ => rfl, fun _ h => h⟩

variable {f' : Scene (Watched σ) → α × Scene (Watched σ)} {f : Scene σ → α × Scene σ}

theorem andThen {g' : α → Scene (Watched σ) → β × Scene (Watched σ)} {g : α → Scene σ → β × Scene σ}
    (hf : Follows K f' f) (hg : ∀ a, Follows K (g' a) (g a)) :
    Follows K (andThen f' g') (andThen f g) where
  result s := by
    simp only [ClarityCheck.andThen, (hg _).result, hf.result, hf.scene]
  scene s := by
    simp only [ClarityCheck.andThen, (hg _).scene, hf.result, hf.scene]
  keeps s h := (hg _).keeps _ (hf.keeps s h)

theorem reading {g' : Files → Scene (Watched σ) → α × Scene (Watched σ)}
    {g : Files → Scene σ → α × Scene σ} (hg : ∀ files, Follows K (g' files) (g files)) :
    Follows K (reading g') (reading g) :=
  ⟨fun s => (hg s.files).result s, fun s => (hg s.files).scene s, fun s => (hg s.files).keeps s⟩

theorem fetcher (f : Download.Fetcher σ) (url : Url) (destination : Path) (limit : Duration) :
    Follows K (f.watched url destination limit) (f url destination limit) :=
  ⟨fun _ => rfl, fun _ => rfl, fun _ h => h⟩

theorem executor {e : Executor σ} {r : Request} {t : Token} (hk : e.Preserves K r t) :
    Follows K (e.watched r t) (e r t) :=
  ⟨fun _ => rfl, fun _ => rfl, hk⟩

/-- Without a crash there is nothing beside the scene. -/
theorem eq_watched (h : Follows (· = none) f' f) (s : Scene σ) :
    f' (s.watched none) = ((f s).1, (f s).2.watched none) := by
  have hcrash : (f' (s.watched none)).2.crash? = none := h.keeps _ rfl
  have hresult : (f' (s.watched none)).1 = (f s).1 := h.result _
  have hscene : (f' (s.watched none)).2.unwatched = (f s).2 := h.scene _
  calc f' (s.watched none)
      = ((f' (s.watched none)).1,
        (f' (s.watched none)).2.unwatched.watched (f' (s.watched none)).2.crash?) := rfl
    _ = ((f s).1, (f s).2.watched none) := by rw [hcrash, hresult, hscene]

end Follows

/-! ## Searches as operations one after the other -/

namespace Compiler.Searcher

/-- The search that keeps the first crash. -/
def watched (s : Searcher σ) : Searcher (Watched σ) where
  plan := s.plan
  executor := s.executor.watched
  fetcher := s.fetcher.watched

/-- A property of what is kept of crashes outlasts every run of a search. -/
structure Steady (s : Searcher σ) (K : Option (Crash σ) → Prop) : Prop where
  probe : ∀ program, s.executor.Preserves K (s.probe program) .fresh
  unpack : ∀ archive, s.executor.Preserves K (s.unpack archive) .fresh

/-- What a program's answer is taken for. -/
def judged (step : Step) (program : Path) : Outcome → Found
  | .ok o =>
    if o.success then .ok (.answering program) else .error ⟨step, .refused program o.status⟩
  | .error f => .error ⟨step, .notRun f⟩

variable (s : Searcher σ)

theorem ask_seq (step : Step) (program : Path) :
    s.ask step program =
      andThen (s.executor (s.probe program) .fresh) fun o scene =>
        (judged step program o, scene) := by
  funext scene
  unfold ask andThen
  rcases s.executor (s.probe program) .fresh scene with ⟨_ | o, _⟩
  · rfl
  · cases ho : o.success <;> simp [judged, ho]

theorem tryFile_seq (step : Step) (program : Path) :
    s.tryFile step program = reading fun files =>
      if files.isFile program then s.ask step (anchored files program)
      else fun scene => (.error ⟨step, .absent program⟩, scene) := by
  funext scene
  simp only [tryFile, reading]
  split <;> rfl

theorem trySearchPath_seq :
    s.trySearchPath = reading fun files =>
      match s.onSearchPath? files with
      | none => s.ask .searchPath s.plan.command
      | some program => andThen (s.ask .searchPath program) fun
        | .ok b => fun scene => (.ok b, scene)
        | .error _ => s.ask .searchPath s.plan.command := by
  funext scene
  simp only [trySearchPath, reading]
  cases s.onSearchPath? scene.files with
  | none => rfl
  | some program =>
    simp only [andThen]
    rcases s.ask .searchPath program scene with ⟨_ | _, _⟩ <;> rfl

/-- Makes the unpacked compiler a program. -/
def marking (files : Files) : Except SystemError Unit × Files :=
  match files.changeMode s.plan.cachedBinary programMode with
  | .error e => (.error e, files)
  | .ok files => (.ok (), files)

theorem finishDownload_seq :
    s.finishDownload = andThen (onFiles s.marking) fun
      | .error e => fun scene => (.error ⟨.download, .notMarked s.plan.cachedBinary e⟩, scene)
      | .ok () => s.ask .download s.plan.cachedBinary := by
  funext scene
  simp only [finishDownload, andThen, onFiles, marking]
  cases scene.files.changeMode s.plan.cachedBinary programMode <;> rfl

theorem unpackArchive_seq (archive : Path) :
    s.unpackArchive archive = andThen (s.executor (s.unpack archive) .fresh) fun outcome =>
      andThen (onFiles fun files => ((), discard files archive)) fun _ =>
        match outcome with
        | .error f => fun scene => (.error ⟨.download, .notRun f⟩, scene)
        | .ok o =>
          if o.success then s.finishDownload
          else fun scene => (.error ⟨.download, .notUnpacked o.status o.stderr⟩, scene) := by
  funext scene
  unfold unpackArchive andThen
  rcases s.executor (s.unpack archive) .fresh scene with ⟨_ | o, _⟩
  · rfl
  · cases ho : o.success <;> simp [onFiles, ho]

theorem fetchArchive_seq (target : String) (url : Url) :
    s.fetchArchive target url =
      andThen (onFiles fun files => files.createDirectories s.plan.cacheDirectory) fun
        | .error e => fun scene => (.error ⟨.download, .noDirectory s.plan.cacheDirectory e⟩, scene)
        | .ok () => andThen (s.fetcher url (s.plan.archive target) s.plan.downloadTimeout) fun
          | .error f => fun scene => (.error ⟨.download, .notFetched f⟩, scene)
          | .ok _ => s.unpackArchive (s.plan.archive target) := by
  funext scene
  rcases hd : scene.files.createDirectories s.plan.cacheDirectory with ⟨_ | _, files⟩
  · simp only [fetchArchive, andThen, onFiles, hd]
  · rcases hf : s.fetcher url (s.plan.archive target) s.plan.downloadTimeout { scene with files }
      with ⟨_ | _, _⟩ <;>
      simp only [fetchArchive, andThen, onFiles, hd, hf]

theorem tryDownload_seq :
    s.tryDownload = match s.plan.family.releaseTarget? with
      | none => fun scene => (.error ⟨.download, .noRelease⟩, scene)
      | some target =>
        match s.plan.release.archiveUrl target with
        | .error e => fun scene => (.error ⟨.download, .badAddress e⟩, scene)
        | .ok url => s.fetchArchive target url := by
  funext scene
  unfold tryDownload
  cases s.plan.family.releaseTarget? with
  | none => rfl
  | some target =>
    simp only
    cases s.plan.release.archiveUrl target <;> rfl

theorem firstFound_cons (f : Scene σ → Found × Scene σ) (fs : List (Scene σ → Found × Scene σ)) :
    firstFound (f :: fs) = andThen f fun
      | .ok b => fun scene => (.ok b, scene)
      | .error a => andThen (firstFound fs) fun r scene => (r.mapError (a :: ·), scene) := by
  funext scene
  rw [firstFound]
  unfold andThen
  rcases f scene with ⟨_ | _, scene'⟩
  · simp only
    rcases firstFound fs scene' with ⟨_ | _, _⟩ <;> rfl
  · rfl

theorem resolve_seq :
    s.resolve = andThen (firstFound s.steps) fun r scene => (r.mapError Unavailable.mk, scene) := by
  funext scene
  unfold resolve andThen
  rcases firstFound s.steps scene with ⟨_ | _, _⟩ <;> rfl

/-! ## Searches beside each other -/

variable {s} (h : s.Steady K)

include h

theorem Steady.ask (step : Step) (program : Path) :
    Follows K (s.watched.ask step program) (s.ask step program) := by
  rw [ask_seq, ask_seq]
  exact .andThen (.executor (h.probe program)) fun o => .give _

theorem Steady.tryFile (step : Step) (program : Path) :
    Follows K (s.watched.tryFile step program) (s.tryFile step program) := by
  rw [tryFile_seq, tryFile_seq]
  refine .reading fun files => ?_
  split
  · exact h.ask step _
  · exact .give _

theorem Steady.trySearchPath : Follows K s.watched.trySearchPath s.trySearchPath := by
  rw [trySearchPath_seq, trySearchPath_seq]
  refine .reading fun files => ?_
  rw [show s.watched.onSearchPath? files = s.onSearchPath? files from rfl]
  cases s.onSearchPath? files with
  | none => exact h.ask _ _
  | some program =>
    refine .andThen (h.ask _ program) fun found => ?_
    cases found with
    | ok b => exact .give _
    | error => exact h.ask _ _

theorem Steady.finishDownload : Follows K s.watched.finishDownload s.finishDownload := by
  rw [finishDownload_seq, finishDownload_seq]
  refine .andThen (.onFiles s.marking) fun marked => ?_
  cases marked with
  | error e => exact .give _
  | ok => exact h.ask _ _

theorem Steady.unpackArchive (archive : Path) :
    Follows K (s.watched.unpackArchive archive) (s.unpackArchive archive) := by
  rw [unpackArchive_seq, unpackArchive_seq]
  refine .andThen (.executor (h.unpack archive)) fun outcome => .andThen (.onFiles _) fun _ => ?_
  cases outcome with
  | error f => exact .give _
  | ok o =>
    cases ho : o.success
    · simp only [ho]
      exact .give _
    · simp only [ho]
      exact h.finishDownload

theorem Steady.fetchArchive (target : String) (url : Url) :
    Follows K (s.watched.fetchArchive target url) (s.fetchArchive target url) := by
  rw [fetchArchive_seq, fetchArchive_seq]
  refine .andThen (.onFiles _) fun created => ?_
  cases created with
  | error e => exact .give _
  | ok =>
    refine .andThen (.fetcher _ _ _ _) fun fetched => ?_
    cases fetched with
    | error f => exact .give _
    | ok => exact h.unpackArchive _

theorem Steady.tryDownload : Follows K s.watched.tryDownload s.tryDownload := by
  rw [tryDownload_seq, tryDownload_seq, show s.watched.plan = s.plan from rfl]
  cases s.plan.family.releaseTarget? with
  | none => exact .give _
  | some target =>
    simp only
    cases s.plan.release.archiveUrl target with
    | error e => exact .give _
    | ok url => exact h.fetchArchive target url

omit h in
theorem follows_firstFound {fs' : List (Scene (Watched σ) → Found × Scene (Watched σ))}
    {fs : List (Scene σ → Found × Scene σ)} (hfs : List.Forall₂ (Follows K) fs' fs) :
    Follows K (firstFound fs') (firstFound fs) := by
  induction hfs with
  | nil => exact .give _
  | cons hf _ ih =>
    rw [firstFound_cons, firstFound_cons]
    refine .andThen hf fun found => ?_
    cases found with
    | ok b => exact .give _
    | error a => exact .andThen ih fun _ => .give _

/-- The steps that every search ends with. -/
theorem Steady.lastSteps :
    List.Forall₂ (Follows K)
      [s.watched.trySearchPath, if s.plan.allowsDownload then s.watched.tryDownload
        else fun scene => (.error ⟨.download, .disabled⟩, scene)]
      [s.trySearchPath, if s.plan.allowsDownload then s.tryDownload
        else fun scene => (.error ⟨.download, .disabled⟩, scene)] := by
  refine .cons h.trySearchPath (.cons ?_ .nil)
  split
  · exact h.tryDownload
  · exact .give _

theorem Steady.steps : List.Forall₂ (Follows K) s.watched.steps s.steps := by
  unfold Searcher.steps
  rw [show s.watched.plan = s.plan from rfl]
  split
  · exact .cons (h.tryFile _ _) (.cons (h.tryFile _ _) h.lastSteps)
  · exact .cons (h.tryFile _ _) h.lastSteps

/-- A search that keeps the first crash does what the search without that does. -/
theorem Steady.resolve : Follows K s.watched.resolve s.resolve := by
  rw [resolve_seq, resolve_seq]
  exact .andThen (follows_firstFound h.steps) fun _ => .give _

end Compiler.Searcher

/-! ## Runs and crashes -/

namespace Run.Executor

variable {e : Executor σ} {r : Request} {t : Token}

/-- A crash is kept. -/
theorem Preserves.of_crashed (hk : ¬K none) : e.Preserves K r t := by
  intro s h
  have hs : (e.watched r t s).2.crash? =
      s.crash?.or ((e r t s.unwatched).1.crash?.map (⟨·, (e r t s.unwatched).2⟩)) := rfl
  cases hc : s.crash? with
  | none => exact absurd (hc ▸ h) hk
  | some c => simpa [hs, hc] using h

/-- A run with an outcome that somebody handles is no crash. -/
theorem Preserves.of_handled (h : ∀ s, (e r t s).1.crash? = none) : e.Preserves (· = none) r t := by
  intro s hs
  have : (e.watched r t s).2.crash? =
      s.crash?.or ((e r t s.unwatched).1.crash?.map (⟨·, (e r t s.unwatched).2⟩)) := rfl
  simpa [this, h] using hs

end Run.Executor

/-! ## Validations without a crash -/

namespace Validation

variable {s : Settings} {e : Environment} {executor : Executor σ} {fetcher : Download.Fetcher σ}

/-- The search of a validation under settings. -/
def searcher (s : Settings) (e : Environment) (executor : Executor σ)
    (fetcher : Download.Fetcher σ) : Searcher σ :=
  ⟨plan s e, executor, fetcher⟩

/-- No run of a validation crashes. -/
structure Steady (s : Settings) (e : Environment) (executor : Executor σ)
    (fetcher : Download.Fetcher σ) : Prop where
  search : (searcher s e executor fetcher).Steady (· = none)
  check : ∀ b project,
    executor.Preserves (· = none) ((validator s e executor fetcher).request b project)
    .fresh

/-- The world without a crash beside its scene. -/
def World.watched (w : World σ) : World (Watched σ) := ⟨w.scene.watched none, w.memory, w.ticket⟩

theorem provider_validator :
    (validator s e executor fetcher).provider = searching (searcher s e executor fetcher) := by
  rw [validator, searcher]

theorem provider_unwound : (validator s e executor.watched fetcher.watched).unwound.provider =
    (searching (searcher s e executor fetcher).watched).unwound := by
  rw [Validator.unwound, validator, searcher, Searcher.watched]

theorem ensure_unwound (h : Steady s e executor fetcher) (scene : Scene σ) (ticket : Nat) :
    (validator s e executor.watched fetcher.watched).unwound.provider.ensure
        ⟨scene.watched none, none, ticket⟩ =
      (((validator s e executor fetcher).provider.ensure ⟨scene, none, ticket⟩).1,
        ((validator s e executor fetcher).provider.ensure ⟨scene, none, ticket⟩).2.watched) := by
  have hresolve := h.search.resolve.eq_watched scene
  rw [provider_validator, provider_unwound]
  simp only [searching, Provider.unwound, Searcher.ensure, Searcher.reverify, hresolve]
  rcases (searcher s e executor fetcher).resolve scene with ⟨_ | _, _⟩ <;> rfl

theorem check_unwound (h : Steady s e executor fetcher) (b : Binary) (project : Workspace.Project)
    (w : World σ) :
    (validator s e executor.watched fetcher.watched).unwound.check b project .fresh w.watched =
      (((validator s e executor fetcher).check b project .fresh w).1,
        ((validator s e executor fetcher).check b project .fresh w).2.watched) := by
  have hrun : (validator s e executor.watched fetcher.watched).unwound.executor
      ((validator s e executor.watched fetcher.watched).unwound.request b project) .fresh
        w.watched.scene
        = _ := (Follows.executor (h.check b project)).eq_watched w.scene
  unfold Validator.check
  rw [hrun, show (validator s e executor fetcher).executor = executor from rfl]
  rcases executor ((validator s e executor fetcher).request b project) .fresh w.scene
    with ⟨outcome, scene⟩
  cases hfailed : outcome.isStartFailure <;> simp only [hfailed] <;> rfl

/-- What is done once there is a compiler. -/
theorem validate_fresh (v : Validator σ) (contract : Contract) {w w' : World σ}
    {result : Except Unavailable Binary} (h : v.provider.ensure w = (result, w')) :
    v.validate contract .fresh w = match result with
      | .error _ => (.unavailable, w')
      | .ok b =>
        match Workspace.stage v.root contract w'.ticket w'.scene.files with
        | (.error e, ticket, files) =>
          (.failure e.message, { w' with ticket, scene := { w'.scene with files } })
        | (.ok project, ticket, files) =>
          v.check b project .fresh { w' with ticket, scene := { w'.scene with files } } := by
  simp only [Validator.validate, Token.isCancelled, Bool.false_eq_true, ↓reduceIte, h]
  cases result <;> rfl

theorem validate_unwound (h : Steady s e executor fetcher) (contract : Contract) (scene : Scene σ)
    (ticket : Nat) :
    (validator s e executor.watched fetcher.watched).unwound.validate contract .fresh
        ⟨scene.watched none, none, ticket⟩ =
      (((validator s e executor fetcher).validate contract .fresh ⟨scene, none, ticket⟩).1,
        ((validator s e executor fetcher).validate contract .fresh
          ⟨scene, none, ticket⟩).2.watched) := by
  have hensure' := ensure_unwound h scene ticket
  rcases hensure : (validator s e executor fetcher).provider.ensure ⟨scene, none, ticket⟩
    with ⟨result, w⟩
  rw [hensure] at hensure'
  rw [validate_fresh _ contract hensure, validate_fresh _ contract hensure']
  cases result with
  | error => rfl
  | ok b =>
    -- Both stage the project at the same place and among the same files.
    have hroot : (validator s e executor.watched fetcher.watched).unwound.root =
      s.workspacePath e := rfl
    have hroot' : (validator s e executor fetcher).root = s.workspacePath e := rfl
    have hticket : w.watched.ticket = w.ticket := rfl
    have hfiles : w.watched.scene.files = w.scene.files := rfl
    simp only [hroot, hroot', hticket, hfiles]
    rcases Workspace.stage (s.workspacePath e) contract w.ticket w.scene.files
      with ⟨_ | project, ticket, files⟩
    · rfl
    · exact check_unwound h b project { w with ticket, scene := { w.scene with files } }

theorem answer_watched (verdict : Verdict) (w : World σ) :
    answer (verdict, w.watched) = (.ok verdict.toResponse, w.scene) := rfl

/-- A validation without a crash answers with the response to what the validation comes to. -/
theorem validateOnce_of_steady (h : Steady s e executor fetcher) (ticket : Nat)
    (contract : Contract) (scene : Scene σ) :
    validateOnce s e executor fetcher ticket contract scene =
      (.ok ((validator s e executor fetcher).validate contract .fresh
        ⟨scene, none, ticket⟩).1.toResponse,
        ((validator s e executor fetcher).validate contract .fresh
          ⟨scene, none, ticket⟩).2.scene) :=
  (congrArg answer (validate_unwound h contract scene ticket)).trans (answer_watched _ _)

end Validation

/-! ## Validations that are stuck -/

namespace Compiler.Searcher

variable {s : Searcher σ} {scene : Scene σ}

/-- Every program that could be asked first crashes, and leaves the files as they are. -/
def Stuck (s : Searcher σ) (scene : Scene σ) : Prop :=
  ∀ program, (s.executor (s.probe program) .fresh scene).1 = .error ⟨program.display, .noDeadline⟩ ∧
    (s.executor (s.probe program) .fresh scene).2.files = scene.files

/-- What is kept is a crash that left these files. -/
def Leaves (files : Files) (crash : Option (Crash σ)) : Prop :=
  ∃ (program : Path) (scene : Scene σ),
    crash = some ⟨⟨program.display, .noDeadline⟩, scene⟩ ∧ scene.files = files

theorem steady_leaves (s : Searcher σ) (files : Files) : s.Steady (Leaves files) :=
  have hnone : ¬Leaves (σ := σ) files none := by rintro ⟨_, _, h, _⟩; cases h
  ⟨fun _ => .of_crashed hnone, fun _ => .of_crashed hnone⟩

theorem Stuck.ask (h : s.Stuck scene) (step : Step) (program : Path) :
    Leaves scene.files (s.watched.ask step program (scene.watched none)).2.crash? := by
  obtain ⟨hresult, hfiles⟩ := h program
  refine ⟨program, (s.executor (s.probe program) .fresh scene).2, ?_, hfiles⟩
  have hkept : (s.watched.executor (s.watched.probe program) .fresh (scene.watched none)).2.crash? =
      ((s.executor (s.probe program) .fresh scene).1.crash?.map
        (⟨·, (s.executor (s.probe program) .fresh scene).2⟩)) := rfl
  rw [ask_seq]
  simp only [andThen, hkept, hresult]
  rfl

theorem Stuck.tryFile (h : s.Stuck scene) (step : Step) (program : Path) :
    Leaves scene.files (s.watched.tryFile step program (scene.watched none)).2.crash? ∨
      ∃ a, s.watched.tryFile step program (scene.watched none) =
        (.error a, scene.watched none) := by
  rw [tryFile_seq]
  simp only [reading]
  split
  · exact .inl (h.ask step _)
  · exact .inr ⟨_, rfl⟩

theorem Stuck.trySearchPath (h : s.Stuck scene) :
    Leaves scene.files (s.watched.trySearchPath (scene.watched none)).2.crash? := by
  rw [trySearchPath_seq]
  simp only [reading]
  cases s.watched.onSearchPath? (scene.watched none).files with
  | none => exact h.ask .searchPath _
  | some program =>
    have hfirst := h.ask .searchPath program
    simp only [andThen]
    rcases hr : s.watched.ask .searchPath program (scene.watched none) with ⟨_ | _, scene₁⟩ <;>
      rw [hr] at hfirst
    · exact ((steady_leaves s scene.files).ask .searchPath _).keeps scene₁ hfirst
    · exact hfirst

/-- A step crashes, or it finds nothing and a later one crashes. -/
theorem leaves_firstFound {files : Files} {f' : Scene (Watched σ) → Found × Scene (Watched σ)}
    {fs' : List (Scene (Watched σ) → Found × Scene (Watched σ))}
    {fs : List (Scene σ → Found × Scene σ)} {scene : Scene (Watched σ)}
    (hfs : List.Forall₂ (Follows (Leaves files)) fs' fs) (hf : Leaves files (f' scene).2.crash? ∨
      (∃ a, f' scene = (.error a, scene)) ∧ Leaves files (firstFound fs' scene).2.crash?) :
    Leaves files (firstFound (f' :: fs') scene).2.crash? := by
  rw [firstFound_cons]
  simp only [andThen]
  rcases hf with hf | ⟨⟨a, ha⟩, hrest⟩
  · rcases hr : f' scene with ⟨a | b, scene₁⟩ <;> rw [hr] at hf
    · exact (follows_firstFound hfs).keeps scene₁ hf
    · exact hf
  · rw [ha]
    exact hrest

theorem Stuck.steps (h : s.Stuck scene) :
    Leaves scene.files (firstFound s.watched.steps (scene.watched none)).2.crash? := by
  have hsteady := steady_leaves s scene.files
  have htail := leaves_firstFound (List.forall₂_cons.mp hsteady.lastSteps).2 (.inl h.trySearchPath)
  unfold Searcher.steps
  rw [show s.watched.plan = s.plan from rfl]
  split
  · have hhosted := leaves_firstFound hsteady.lastSteps
      ((h.tryFile .hostedBuild s.plan.hostedBinary).imp_right (⟨·, htail⟩))
    exact leaves_firstFound (.cons (hsteady.tryFile _ _) hsteady.lastSteps)
      ((h.tryFile .cache s.plan.cachedBinary).imp_right (⟨·, hhosted⟩))
  · exact leaves_firstFound hsteady.lastSteps
      ((h.tryFile .cache s.plan.cachedBinary).imp_right (⟨·, htail⟩))

theorem Stuck.resolve (h : s.Stuck scene) :
    Leaves scene.files (s.watched.resolve (scene.watched none)).2.crash? := by
  rw [resolve_seq]
  exact h.steps

end Compiler.Searcher

namespace Validation

variable {s : Settings} {e : Environment} {executor : Executor σ} {fetcher : Download.Fetcher σ}
  {scene : Scene σ}

/-- A validation that cannot ask the first program crashes, and leaves the files as they are. -/
theorem validateOnce_of_stuck (h : (searcher s e executor fetcher).Stuck scene) (ticket : Nat)
    (contract : Contract) :
    ∃ (program : Path) (scene' : Scene σ),
      validateOnce s e executor fetcher ticket contract scene =
        (.error ⟨program.display, .noDeadline⟩, scene') ∧ scene'.files = scene.files := by
  obtain ⟨program, scene', hcrash, hfiles⟩ := h.resolve
  have hensure : (validator s e executor.watched fetcher.watched).unwound.provider.ensure
      ⟨scene.watched none, none, ticket⟩ =
        (.error ⟨[]⟩,
            ⟨scene'.watched (some ⟨⟨program.display, .noDeadline⟩, scene'⟩), none, ticket⟩) := by
    rw [provider_unwound]
    simp only [searching, Provider.unwound, Searcher.ensure, Searcher.reverify]
    rcases hr : (searcher s e executor fetcher).watched.resolve (scene.watched none)
      with ⟨_ | _, scene₁⟩ <;>
      rw [hr] at hcrash <;> simp only [hcrash]
  have hvalidate := validate_fresh _ contract hensure
  exact ⟨program, scene', congrArg answer hvalidate, hfiles⟩

end Validation

end ClarityCheck
