import ClarityCheck.Session
import Mathlib

/-!
# How sessions end

A session ends early, for one of the reasons that `Early` lists, or its command line comes to a
question for the checker. What is seen of a session that has not crashed is information, an error or
a report, and only one of the three.

* `isHelp_of_ofWords`: information is help or the version
* `early_or_due`: a session ends early, or there is a question
* `run_of_early`, `run_of_due`: what a session does in both cases
* `run_ends`: in which ways a session ends, and when its checker is asked
-/

namespace ClarityCheck

open CommandLine

variable {σ : Type}

/-! ## Information -/

namespace Invocation

/-- The help texts of a tool, as it was called, and its version. -/
inductive IsHelp (tool : Option String) : String → Prop
  | tool (detailed : Bool) : IsHelp tool (Help.tool ((toolGrammar tool).usage []) detailed)
  | lint : IsHelp tool (Help.lint ((lintGrammar tool).usage []))
  | check : IsHelp tool (Help.check ((checkGrammar tool).usage []))
  | version : IsHelp tool Help.version

variable {tool : Option String} {text : String}

theorem isHelp_of_stopped {help : Bool → String} (hhelp : ∀ detailed, IsHelp tool (help detailed))
    {stop : Stop} (h : stopped help stop = .information text) : IsHelp tool text := by
  cases stop with
  | refused r => simp [stopped] at h
  | switch s detailed =>
    cases s with
    | help =>
      obtain rfl : help detailed = text := by simpa [stopped] using h
      exact hhelp detailed
    | version =>
      obtain rfl : Help.version = text := by simpa [stopped] using h
      exact .version

theorem isHelp_of_mapError {α : Type} {help : Bool → String}
    (hhelp : ∀ detailed, IsHelp tool (help detailed)) {read : Except Stop α}
    (h : read.mapError (stopped help) = .error (.information text)) : IsHelp tool text := by
  cases read with
  | ok a => simp [Except.mapError] at h
  | error stop => exact isHelp_of_stopped hhelp (by simpa [Except.mapError] using h)

theorem isHelp_of_readCommand {name : String} {words : List Bytes}
    (h : readCommand tool name words = .error (.information text)) : IsHelp tool text := by
  unfold readCommand at h
  split at h
  · exact isHelp_of_mapError (fun _ => .lint) h
  · exact isHelp_of_mapError (fun _ => .check) h

/-- The information that a command line asks for is help or the version. -/
theorem isHelp_of_ofWords {words : List Bytes} (h : ofWords words = .information text) :
    IsHelp (calledAs? words.head?) text := by
  simp only [ofWords] at h
  split at h
  · exact isHelp_of_stopped .tool h
  · split at h
    · exact isHelp_of_stopped .tool h
    · unfold withoutCommand at h
      split at h <;> simp at h
  · split at h
    next reading hread => exact isHelp_of_readCommand (h ▸ hread)
    · split at h
      · exact isHelp_of_stopped .tool h
      · simp at h

end Invocation

/-! ## First characters

The texts of the three kinds differ in their first character. -/

/-- A text starts with one of these characters. -/
def StartsIn (cs : List Char) (text : String) : Prop := ∃ c ∈ cs, text.toList.head? = some c

theorem StartsIn.ne_empty {cs : List Char} {text : String} (h : StartsIn cs text) : text ≠ "" := by
  rintro rfl
  obtain ⟨c, -, hc⟩ := h
  simp at hc

theorem head?_lines {l : String} {ls : List String} {c : Char} (h : l.toList.head? = some c) :
    (Help.lines (l :: ls)).toList.head? = some c := by
  simp [Help.lines, h]

/-- The first characters of help texts and the version. -/
theorem Invocation.IsHelp.startsIn {tool : Option String} {text : String} (h : IsHelp tool text) :
    StartsIn "SRTc".toList text := by
  cases h with
  | tool detailed => exact ⟨'S', by decide, head?_lines (by decide)⟩
  | lint => exact ⟨'R', by decide, head?_lines (by decide)⟩
  | check => exact ⟨'T', by decide, head?_lines (by decide)⟩
  | version => exact ⟨'c', by decide, head?_lines (by decide)⟩

namespace Report

theorem startsIn_jsonLine (ms : List (String × Json)) :
    StartsIn "lnv\x7b".toList (jsonLine (.obj ms)) := by
  have hrender : (Json.obj ms).render.head? = some '\x7b' := by cases ms <;> rfl
  exact ⟨'\x7b', by decide, by simp [jsonLine, Json.compress, hrender]⟩

/-- The first characters of reports on the structure. -/
theorem startsIn_lint (v : Lint.Verdict) (format : Format) :
    StartsIn "lnv\x7b".toList (lint v format) := by
  cases format with
  | json => exact startsIn_jsonLine _
  | human =>
    cases hds : v.diagnostics with
    | nil => exact ⟨'n', by decide, by simp [lint, lintText, hds]⟩
    | cons d ds => exact ⟨'l', by decide, by simp [lint, lintText, hds, Lint.Diagnostic.text]⟩

/-- The first characters of reports on a validation. -/
theorem startsIn_validation (r : Validation.Response) (format : Format) :
    StartsIn "lnv\x7b".toList (validation r format) := by
  cases format with
  | json => exact startsIn_jsonLine _
  | human =>
    refine ⟨'v', by decide, ?_⟩
    cases hs : r.success <;> simp [validation, validationText, hs]

end Report

/-- The file that a command is about. -/
def Command.file : Command → Path
  | .lint file | .check file _ => file

namespace Session

/-! ## Questions -/

/-- What a checker is asked. -/
structure Question where
  settings : Settings
  contract : Contract

/-- The scene with a list of questions beside its state. -/
def listing (scene : Scene σ) (qs : List Question) : Scene (List Question × σ) :=
  { scene with state := (qs, scene.state) }

/-- The checker that lists what it is asked. -/
def Checker.listing (checker : Checker σ) : Checker (List Question × σ) := fun s c scene =>
  match checker s c { scene with state := scene.state.2 } with
  | (answer, after) => (answer, Session.listing after (scene.state.1 ++ [⟨s, c⟩]))

theorem Checker.listing_eq {checker : Checker σ} {s : Settings} {c : Contract}
    {scene after : Scene σ} {answer : Ended (Except Download.Failure Validation.Response)}
    (h : checker s c scene = (answer, after)) (qs : List Question) :
    checker.listing s c (Session.listing scene qs) =
      (answer, Session.listing after (qs ++ [⟨s, c⟩])) := by
  have hplain :
    ({ Session.listing scene qs with state := (Session.listing scene qs).state.2 } : Scene σ) =
      scene := rfl
  simp only [Checker.listing, hplain, h]
  rfl

/-! ## What a session needs -/

variable (checker : Checker σ) (files : Files) (e : Environment) (terminal : Bool)
  (words : List Bytes) (scene : Scene σ)

/-- The settings that the files, the environment and the command line of a session give. -/
def loaded : Except Settings.LoadError Settings :=
  Settings.load files e (Invocation.calledAs (split words).settings.head?)
    (split words).settings.tail

/-- A command line is an invocation, and there are settings for it that make sense. -/
structure Ready (i : Invocation) (s : Settings) : Prop where
  invocation : Invocation.ofWords (commandWords words) = .run i
  settings : loaded files e words = .ok s
  valid : s.problem? = none
  logFilter : Settings.LogFilter.problem? s.logFilter = none

/-- Why there are no settings that make sense. -/
inductive Unset : Error → Prop
  | load {err : Settings.LoadError} (h : loaded files e words = .error err) : Unset (.settings err)
  | problem {s : Settings} {p : Settings.Problem} (h : loaded files e words = .ok s)
    (hp : s.problem? = some p) : Unset (.problem p)
  | logFilter {s : Settings} {p : Settings.LogFilter.Problem} (h : loaded files e words = .ok s)
    (hv : s.problem? = none) (hp : Settings.LogFilter.problem? s.logFilter = some p) :
    Unset (.logFilter p)

/-- A file holds a text. -/
def HasText (file : Path) (text : String) : Prop :=
  ∃ content, files.read file = .ok content ∧ Text.Utf8.decode? content = some text.toList

/-- Why a file has no text. -/
inductive Unread (file : Path) : Error → Prop
  | unreadable {err : SystemError} (h : files.read file = .error err) :
      Unread file (.unreadable file err)
  | noText {content : Bytes} (h : files.read file = .ok content)
    (hd : Text.Utf8.decode? content = none) : Unread file (.unreadable file noText)

/-- Why a name and a text make no contract. -/
inductive Unnamed (name body : String) : Contract.InputError → Prop
  | missingName (h : Text.isBlankString name = true) : Unnamed name body .missingName
  | missingSource (hn : Text.isBlankString name = false) (h : Text.isBlankString body = true) :
    Unnamed name body .missingSource

/-- A command line comes to a question: it names the check with the compiler, there are settings for
it that make sense, the file holds a text, and neither that text nor the name of the contract, which
is given or that of the file, is blank. -/
structure Due (output : Report.Choice) (file : Path) (given : Option String) (body : String)
    (q : Question) : Prop where
  ready : Ready files e words ⟨output, .check file given⟩ q.settings
  text : HasText files file body
  named : Text.isBlankString (contractName file given) = false
  filled : Text.isBlankString body = false
  contract : Contract.ofInput (contractName file given) body = .ok q.contract

section

variable {files e words} {i : Invocation} {s : Settings} {err : Error} {file : Path}
  {name body : String}

theorem settings_eq_error_iff :
    settings files e (split words).settings = .error err ↔ Unset files e words err := by
  constructor
  · intro h
    unfold settings at h
    split at h
    next err' hl =>
      obtain rfl := Except.error.inj h
      exact .load hl
    next s hl =>
      split at h
      next p hp =>
        obtain rfl := Except.error.inj h
        exact .problem hl hp
      next hv =>
        split at h
        next p hp =>
          obtain rfl := Except.error.inj h
          exact .logFilter hl hv hp
        · cases h
  · intro h
    cases h with
    | load h => simp only [settings, ← loaded.eq_def, h]
    | problem h hp => simp only [settings, ← loaded.eq_def, h, hp]
    | logFilter h hv hp => simp only [settings, ← loaded.eq_def, h, hv, hp]

theorem settings_eq_ok_iff : settings files e (split words).settings = .ok s ↔
    loaded files e words = .ok s ∧ s.problem? = none ∧ Settings.LogFilter.problem? s.logFilter =
      none := by
  constructor
  · intro h
    unfold settings at h
    split at h
    · cases h
    next s' hl =>
      split at h
      · cases h
      next hv =>
        split at h
        · cases h
        next hp =>
          obtain rfl := Except.ok.inj h
          exact ⟨hl, hv, hp⟩
  · rintro ⟨hl, hv, hp⟩
    simp only [settings, ← loaded.eq_def, hl, hv, hp]

theorem readText_eq_error_iff : readText files file = .error err ↔ Unread files file err := by
  constructor
  · intro h
    unfold readText at h
    split at h
    next err' hr =>
      obtain rfl := Except.error.inj h
      exact .unreadable hr
    next content hr =>
      split at h
      · cases h
      next hd =>
        obtain rfl := Except.error.inj h
        exact .noText hr hd
  · intro h
    cases h with
    | unreadable h => simp only [readText, h]
    | noText h hd => simp only [readText, h, hd]

theorem readText_eq_ok_iff : readText files file = .ok body ↔ HasText files file body := by
  constructor
  · intro h
    unfold readText at h
    split at h
    · cases h
    next content hr =>
      split at h
      next text hd =>
        obtain rfl := Except.ok.inj h
        exact ⟨content, hr, by rw [hd, String.toList_ofList]⟩
      · cases h
  · rintro ⟨content, hr, hd⟩
    simp only [readText, hr, hd, String.ofList_toList]

theorem ofInput_eq_error_iff {err : Contract.InputError} :
    Contract.ofInput name body = .error err ↔ Unnamed name body err := by
  constructor
  · intro h
    unfold Contract.ofInput at h
    split at h
    next hn =>
      obtain rfl := Except.error.inj h
      exact .missingName hn
    next hn =>
      split at h
      next hb =>
        obtain rfl := Except.error.inj h
        exact .missingSource (by simpa using hn) hb
      · cases h
  · intro h
    cases h with
    | missingName h => simp [Contract.ofInput, h]
    | missingSource hn h => simp [Contract.ofInput, hn, h]

theorem filled_of_ofInput {c : Contract} (h : Contract.ofInput name body = .ok c) :
    Text.isBlankString name = false ∧ Text.isBlankString body = false := by
  unfold Contract.ofInput at h
  split at h
  · cases h
  next hn =>
    split at h
    · cases h
    next hb => exact ⟨by simpa using hn, by simpa using hb⟩

theorem Ready.settings_eq (h : Ready files e words i s) :
    Session.settings files e (split words).settings = .ok s :=
  settings_eq_ok_iff.2 ⟨h.settings, h.valid, h.logFilter⟩

/-- A command line comes to one invocation with one choice of settings. -/
theorem Ready.unique {i' : Invocation} {s' : Settings} (h : Ready files e words i s)
    (h' : Ready files e words i' s') : i = i' ∧ s = s' :=
  ⟨Invocation.Reading.run.inj (h.invocation.symm.trans h'.invocation),
    Except.ok.inj (h.settings.symm.trans h'.settings)⟩

/-- A command line comes to one question. -/
theorem Due.unique {output output' : Report.Choice} {file' : Path} {given given' : Option String}
    {body' : String} {q q' : Question} (h : Due files e words output file given body q)
    (h' : Due files e words output' file' given' body' q') : q = q' := by
  obtain ⟨hi, hs⟩ := h.ready.unique h'.ready
  obtain ⟨rfl, rfl, rfl⟩ : output = output' ∧ file = file' ∧ given = given' := by simpa using hi
  obtain rfl : body = body' := Except.ok.inj
    ((readText_eq_ok_iff.2 h.text).symm.trans (readText_eq_ok_iff.2 h'.text))
  have hc : q.contract = q'.contract := Except.ok.inj (h.contract.symm.trans h'.contract)
  calc q = ⟨q.settings, q.contract⟩ := rfl
    _ = q' := by rw [hs, hc]

end

/-! ## Early ends and questions -/

/-- How a session can end before its checker is asked. -/
inductive Early : Ending → Prop
  /-- The user asks for information. -/
  | informed {text : String} (h : Invocation.ofWords (commandWords words) = .information text) :
    Early (.information text)
  /-- The command line is refused. -/
  | refused {text : String} (h : Invocation.ofWords (commandWords words) = .refused text) :
    Early (.error (.usage text))
  /-- There are no settings that make sense. -/
  | unset {i : Invocation} {err : Error} (h : Invocation.ofWords (commandWords words) = .run i)
    (hs : Unset files e words err) : Early (.error err)
  /-- The file has no text. -/
  | unread {i : Invocation} {s : Settings} {err : Error} (h : Ready files e words i s)
    (hf : Unread files i.command.file err) : Early (.error err)
  /-- There is no contract. -/
  | unnamed {output : Report.Choice} {file : Path} {given : Option String} {s : Settings}
      {body : String}
    {err : Contract.InputError} (h : Ready files e words ⟨output, .check file given⟩ s)
    (ht : HasText files file body) (hc : Unnamed (contractName file given) body err) :
    Early (.error (.input err))
  /-- The structure of the file is reported on. -/
  | linted {output : Report.Choice} {file : Path} {s : Settings} {text : String}
    (h : Ready files e words ⟨output, .lint file⟩ s) (ht : HasText files file text) :
    Early
      (.report (Report.lint (Lint.check text) (output.resolve terminal)) (Lint.check text).isValid)

/-- How a session ends whose checker has answered. -/
def answered (format : Report.Format) :
    Ended (Except Download.Failure Validation.Response) → Ended Ending
  | .error crash => .error crash
  | .ok (.error f) => .ok (.error (.noDownloads f))
  | .ok (.ok r) => .ok (.report (Report.validation r format) r.success)

/-- A session ends early, or its command line comes to a question. -/
theorem early_or_due : (∃ ending, Early files e terminal words ending) ∨
    ∃ output file given body q, Due files e words output file given body q := by
  -- What the session looks at one after the other: words, settings, file, command, contract.
  cases hw : Invocation.ofWords (commandWords words) with
  | information text => exact .inl ⟨_, .informed hw⟩
  | refused text => exact .inl ⟨_, .refused hw⟩
  | run i =>
  cases hs : settings files e (split words).settings with
  | error err => exact .inl ⟨_, .unset hw (settings_eq_error_iff.1 hs)⟩
  | ok s =>
  obtain ⟨hl, hv, hp⟩ := settings_eq_ok_iff.1 hs
  have hready : Ready files e words i s := ⟨hw, hl, hv, hp⟩
  obtain ⟨output, command⟩ := i
  cases hr : readText files command.file with
  | error err => exact .inl ⟨_, .unread hready (readText_eq_error_iff.1 hr)⟩
  | ok text =>
  have htext := readText_eq_ok_iff.1 hr
  cases command with
  | lint file => exact .inl ⟨_, .linted hready htext⟩
  | check file given =>
  cases hc : Contract.ofInput (contractName file given) text with
  | error err => exact .inl ⟨_, .unnamed hready htext (ofInput_eq_error_iff.1 hc)⟩
  | ok c =>
  obtain ⟨hnamed, hfilled⟩ := filled_of_ofInput hc
  exact .inr ⟨output, file, given, text, ⟨s, c⟩, hready, htext, hnamed, hfilled, hc⟩

section

variable {scene : Scene σ} {files e terminal words}

/-- A session that ends early asks no checker anything. -/
theorem run_of_early {ending : Ending} (h : Early scene.files e terminal words ending) :
    run checker e terminal words scene = (.ok ending, scene) := by
  cases h with
  | informed h => simp only [run, h]
  | refused h => simp only [run, h]
  | unset h hs => simp only [run, h, settings_eq_error_iff.2 hs]
  | @unread i s err h hf =>
    have hr := readText_eq_error_iff.2 hf
    obtain ⟨output, command⟩ := i
    cases command <;>
      simp only [Command.file] at hr <;>
      simp only [run, h.invocation, h.settings_eq, perform, lint, check, contract, hr]
  | unnamed h ht hc =>
    simp only [run, h.invocation, h.settings_eq, perform, check, contract, readText_eq_ok_iff.2 ht,
      ofInput_eq_error_iff.2 hc, Except.mapError]
  | linted h ht =>
    simp only [run, h.invocation, h.settings_eq, perform, lint, readText_eq_ok_iff.2 ht]

/-- A session whose command line comes to a question ends as its checker answers. -/
theorem run_of_due {output : Report.Choice} {file : Path} {given : Option String} {body : String}
    {q : Question} {answer : Ended (Except Download.Failure Validation.Response)} {after : Scene σ}
    (h : Due scene.files e words output file given body q)
    (ha : checker q.settings q.contract scene = (answer, after)) :
    run checker e terminal words scene = (answered (output.resolve terminal) answer, after) := by
  simp only [run, h.ready.invocation, h.ready.settings_eq, perform, check, contract,
    readText_eq_ok_iff.2 h.text, h.contract, Except.mapError, ha]
  rcases answer with crash | f | r <;> rfl

/-- No question is left when a session ends early. -/
theorem not_due_of_early {ending : Ending} (h : Early files e terminal words ending)
    {output : Report.Choice} {file : Path} {given : Option String} {body : String} {q : Question} :
    ¬ Due files e words output file given body q := by
  intro hdue
  have hi := hdue.ready.invocation
  cases h with
  | informed h => cases h.symm.trans hi
  | refused h => cases h.symm.trans hi
  | unset h hs => cases (settings_eq_error_iff.2 hs).symm.trans hdue.ready.settings_eq
  | unread h hf =>
    obtain ⟨rfl, -⟩ := h.unique hdue.ready
    cases (readText_eq_error_iff.2 hf).symm.trans (readText_eq_ok_iff.2 hdue.text)
  | unnamed h ht hc =>
    obtain ⟨hi, -⟩ := h.unique hdue.ready
    obtain ⟨rfl, rfl, rfl⟩ := by simpa using hi
    obtain rfl :=
      Except.ok.inj ((readText_eq_ok_iff.2 ht).symm.trans (readText_eq_ok_iff.2 hdue.text))
    cases (ofInput_eq_error_iff.2 hc).symm.trans hdue.contract
  | linted h ht =>
    obtain ⟨hi, -⟩ := h.unique hdue.ready
    simp at hi

end

/-! ## What is seen -/

/-- What is seen of the end of a session. -/
structure Seen where
  stdout : String
  stderr : String
  status : Nat

/-- What is seen of an ending. -/
def Ending.seen (ending : Ending) : Seen := ⟨ending.stdout, ending.stderr, ending.status⟩

/-- Help or the version is shown. -/
structure Informs (seen : Seen) : Prop where
  stdout : Invocation.IsHelp (Invocation.calledAs? (commandWords words).head?) seen.stdout
  stderr : seen.stderr = ""
  status : seen.status = 0

/-- Nothing but an error is shown. -/
structure Fails (err : Error) (seen : Seen) : Prop where
  stdout : seen.stdout = ""
  stderr : seen.stderr = err.message ++ "\n"
  status : seen.status = 1

/-- Nothing but a report is shown, and the status tells whether it is favourable. In JSON a member
of the report tells the same. -/
structure Reports (report : Report.Format → String) (format : Report.Format) (favourable : Bool)
    (member : String) (seen : Seen) : Prop where
  stdout : seen.stdout = report format
  stderr : seen.stderr = ""
  status : seen.status = if favourable then 0 else 1
  json : format = .json → ∃ v : Json, seen.stdout = Report.jsonLine v ∧
    v.get? member = some (.bool (decide (seen.status = 0)))

/-- The ways in which a session ends that does not crash. -/
inductive Way where
  | information
  | error
  | report
  deriving DecidableEq, Repr

/-- What is seen is the end of a session in one of the ways. -/
def Way.Shows (seen : Seen) : Way → Prop
  | .information => Informs words seen
  | .error => ∃ err, Fails err seen ∧
      (Early scene.files e terminal words (.error err) ∨
        ∃ output file given body q f after, Due scene.files e words output file given body q ∧
          checker q.settings q.contract scene = (.ok (.error f), after) ∧ err = .noDownloads f)
  | .report =>
      (∃ output file s text, Ready scene.files e words ⟨output, .lint file⟩ s ∧
        HasText scene.files file text ∧
        Reports (Report.lint (Lint.check text)) (output.resolve terminal)
          (Lint.check text).errors.isEmpty "isValid" seen) ∨
      ∃ output file given body q r after, Due scene.files e words output file given body q ∧
        checker q.settings q.contract scene = (.ok (.ok r), after) ∧
        Reports (Report.validation r) (output.resolve terminal) r.success "success" seen

section

variable {checker scene e terminal words} {seen : Seen} {ending : Ending} {err : Error}

theorem fails_seen (err : Error) : Fails err (Ending.error err).seen := ⟨rfl, rfl, rfl⟩

/-- A report is shown when the line that it is in JSON tells whether it is favourable. -/
theorem reports_of_member {report : Report.Format → String} {v : Json} {member : String}
    {favourable : Bool} (hline : report .json = Report.jsonLine v)
    (hmember : v.get? member = some (.bool favourable)) (format : Report.Format) :
    Reports report format favourable member (Ending.report (report format) favourable).seen where
  stdout := rfl
  stderr := rfl
  status := rfl
  json := by
    rintro rfl
    refine ⟨v, hline, hmember.trans ?_⟩
    cases favourable <;> simp [Ending.seen, Ending.status, Ending.success]

theorem reports_lint (v : Lint.Verdict) (format : Report.Format) :
    Reports (Report.lint v) format v.errors.isEmpty "isValid"
      (Ending.report (Report.lint v format) v.isValid).seen := by
  have hmember : (Report.lintJson v).get? "isValid" = some (.bool v.isValid) := by
    simp [Report.lintJson, Report.verdictJson, Json.get?, List.lookup]
  exact reports_of_member rfl hmember format

theorem reports_validation (r : Validation.Response) (format : Report.Format) :
    Reports (Report.validation r) format r.success "success"
      (Ending.report (Report.validation r format) r.success).seen := by
  have hmember : r.toJson.get? "success" = some (.bool r.success) := by
    cases he : r.errors <;> simp [Validation.Response.toJson, Json.get?, he, List.lookup]
  exact reports_of_member rfl hmember format

/-- A session that ends early ends in one of the ways. -/
theorem shows_of_early (h : Early scene.files e terminal words ending) :
    ∃ way : Way, way.Shows checker e terminal words scene ending.seen := by
  have herr {err : Error} (h : Early scene.files e terminal words (.error err)) :
      ∃ way : Way, way.Shows checker e terminal words scene (Ending.error err).seen :=
    ⟨.error, err, fails_seen err, .inl h⟩
  cases h with
  | informed h => exact ⟨.information, Invocation.isHelp_of_ofWords h, rfl, rfl⟩
  | refused h => exact herr (.refused h)
  | unset h hs => exact herr (.unset h hs)
  | unread h hf => exact herr (.unread h hf)
  | unnamed h ht hc => exact herr (.unnamed h ht hc)
  | linted h ht => exact ⟨.report, .inl ⟨_, _, _, _, h, ht, reports_lint _ _⟩⟩

/-- A session whose checker has answered ends in one of the ways. -/
theorem shows_of_answer {output : Report.Choice} {file : Path} {given : Option String}
    {body : String} {q : Question} {answer : Except Download.Failure Validation.Response}
    {after : Scene σ} (h : Due scene.files e words output file given body q)
    (ha : checker q.settings q.contract scene = (.ok answer, after)) :
    ∃ ending, answered (output.resolve terminal) (.ok answer) = .ok ending ∧
      ∃ way : Way, way.Shows checker e terminal words scene ending.seen := by
  cases answer with
  | error f => exact ⟨_, rfl, .error, _, fails_seen _, .inr ⟨_, _, _, _, q, f, after, h, ha, rfl⟩⟩
  | ok r => exact ⟨_, rfl, .report, .inr ⟨_, _, _, _, q, r, after, h, ha, reports_validation _ _⟩⟩

theorem startsIn_of_shows (h : Way.report.Shows checker e terminal words scene seen) :
    StartsIn "lnv\x7b".toList seen.stdout := by
  rcases h with ⟨_, _, _, _, -, -, h⟩ | ⟨_, _, _, _, _, _, _, -, -, h⟩ <;> rw [h.stdout]
  · exact Report.startsIn_lint _ _
  · exact Report.startsIn_validation _ _

/-- What is seen shows in which way a session has ended. -/
theorem Way.shows_unique {way way' : Way} (h : way.Shows checker e terminal words scene seen)
    (h' : way'.Shows checker e terminal words scene seen) : way = way' := by
  have hie (h : Way.information.Shows checker e terminal words scene seen)
      (h' : Way.error.Shows checker e terminal words scene seen) : False := by
    obtain ⟨err, h', -⟩ := h'
    exact absurd (h.status.symm.trans h'.status) (by decide)
  have hir (h : Way.information.Shows checker e terminal words scene seen)
      (h' : Way.report.Shows checker e terminal words scene seen) : False := by
    obtain ⟨c, hc, hhead⟩ := h.stdout.startsIn
    obtain ⟨c', hc', hhead'⟩ := startsIn_of_shows h'
    -- Help and the version start with other characters than any report.
    obtain rfl := Option.some.inj (hhead.symm.trans hhead')
    have hapart : ("SRTc".toList.all fun c => !"lnv\x7b".toList.contains c) = true := by decide
    have hnot : c ∉ "lnv\x7b".toList := by simpa using List.all_eq_true.1 hapart c hc
    exact hnot hc'
  have her (h : Way.error.Shows checker e terminal words scene seen)
      (h' : Way.report.Shows checker e terminal words scene seen) : False := by
    obtain ⟨err, h, -⟩ := h
    exact (startsIn_of_shows h').ne_empty h.stdout
  cases way with
  | information =>
    cases way' with
    | information => rfl
    | error => exact (hie h h').elim
    | report => exact (hir h h').elim
  | error =>
    cases way' with
    | information => exact (hie h' h).elim
    | error => rfl
    | report => exact (her h h').elim
  | report =>
    cases way' with
    | information => exact (hir h' h).elim
    | error => exact (her h' h).elim
    | report => rfl

end

/-- A session ends in exactly one of three ways: it shows help or the version, it shows an error
that one of the listed causes has, or it shows a report, and then its status tells whether the
report is favourable. Its checker is asked the question that the command line comes to, if any, and
nothing else. Only a checker that crashes instead of an answer keeps a session from ending so. -/
theorem run_ends (qs : List Question) :
    ∃ asked ended after, run checker e terminal words scene = (ended, after) ∧
      run checker.listing e terminal words (listing scene qs) =
        (ended, listing after (qs ++ asked)) ∧
      asked.length ≤ 1 ∧
      (∀ q, q ∈ asked ↔ ∃ output file given body,
        Due scene.files e words output file given body q) ∧
      (asked = [] → after = scene) ∧
      ((∃ ending, ended = .ok ending ∧
          ∃! way : Way, way.Shows checker e terminal words scene ending.seen) ∨
        ∃ crash, ended = .error crash ∧
          ∃ q ∈ asked, checker q.settings q.contract scene = (.error crash, after)) := by
  -- Either the session ends before anything is asked, or one question is due and its answer
  -- decides.
  rcases early_or_due scene.files e terminal words
    with ⟨ending, h⟩ | ⟨output, file, given, body, q, h⟩
  · have hlisted : Early (listing scene qs).files e terminal words ending := h
    refine ⟨[], .ok ending, scene, run_of_early checker h, ?_, by simp, ?_, fun _ => rfl, .inl ?_⟩
    · rw [run_of_early _ hlisted, List.append_nil]
    · intro q
      simpa using fun output file given body => not_due_of_early h
    · obtain ⟨way, hway⟩ : ∃ way : Way, way.Shows checker e terminal words scene ending.seen :=
        shows_of_early h
      exact ⟨ending, rfl, way, hway, fun way' h' => Way.shows_unique h' hway⟩
  · rcases ha : checker q.settings q.contract scene with ⟨answer, after⟩
    have hlisted : Due (listing scene qs).files e words output file given body q := h
    refine ⟨[q], answered (output.resolve terminal) answer, after, run_of_due checker h ha, ?_,
      by simp, ?_, by simp, ?_⟩
    · exact run_of_due _ hlisted (Checker.listing_eq ha qs)
    · intro q'
      rw [List.mem_singleton]
      constructor
      · rintro rfl
        exact ⟨output, file, given, body, h⟩
      · rintro ⟨output', file', given', body', h'⟩
        exact h'.unique h
    · cases answer with
      | error crash => exact .inr ⟨crash, rfl, q, by simp, ha⟩
      | ok answer =>
        obtain ⟨ending, hending, way, hway⟩ : ∃ ending,
            answered (output.resolve terminal) (.ok answer) = .ok ending ∧
              ∃ way : Way, way.Shows checker e terminal words scene ending.seen :=
                shows_of_answer h ha
        exact .inl ⟨ending, hending, way, hway, fun way' h' => Way.shows_unique h' hway⟩

end Session

end ClarityCheck
