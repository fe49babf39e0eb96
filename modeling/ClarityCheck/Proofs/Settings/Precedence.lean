import ClarityCheck.Proofs.Settings.SuppliedInputs
import ClarityCheck.Settings.Resolved

/-!
# Which layer counts

The configuration file, the environment and the command line give values for some of the settings.
Loading them takes every setting from the highest layer that has a value for it, whatever there is
for the others.

* `Inputs.Give`: what is loaded has these values in its layers
* `give_written`, `fits_of_give`: which values can be given
* `located`: where the loaded settings put files
* `load_of_give`, `load_layered`: what loading comes to
* `load_beyond_file`: values of a setting that no configuration file can give
-/

namespace ClarityCheck.Settings

open CommandLine Text

/-! ## Inputs -/

/-- What settings are loaded from. -/
structure Inputs where
  tool : String
  files : Files
  environment : Environment
  words : List Bytes

/-- Loads the settings. -/
def Inputs.load (i : Inputs) : Except LoadError Settings :=
  Settings.load i.files i.environment i.tool i.words

/-- Values for some of the settings in each layer over the usual values. -/
structure Layers where
  file : Assignment
  environment : Assignment
  flags : Assignment

/-- The values of the highest layers that have them. -/
def Layers.top (a : Layers) : Assignment := a.flags.above (a.environment.above a.file)

/-- The command line and the configuration file are read, and the layers have these values. -/
def Inputs.Give (i : Inputs) (a : Layers) : Prop :=
  ∃ flags file, readFlags i.tool i.words = .ok flags ∧
    Source.content i.files i.environment (Flags.file? flags) = .ok ⟨file, none⟩ ∧
    Holds (Flags.layer flags) a.flags ∧
      Holds (Variables.layer i.environment.bindings) a.environment ∧ Holds file a.file

variable {i j : Inputs} {a b : Layers}

/-! ## Which values can be given -/

/-- Rows with the values of an assignment hold them. -/
theorem holds_rows (a : Assignment) :
    Holds (a.rows (fun key v => (key.name, key.json v)) Key.all) a :=
  lookup_rows a Key.json

/-- Inputs for the values of layers. -/
def written (tool : String) (a : Layers) : Inputs where
  tool := tool
  files := settingsFile a.file
  environment := ⟨variablesOf a.environment Key.all, none⟩
  words := (gifts (slash :: settingsName) a.flags).map (·.word)

theorem give_written (tool : String) (ha : a.file.Fits) : (written tool a).Give a := by
  obtain ⟨content, hcontent, hfile⟩ := content_settingsFile ha (written tool a).environment
  refine ⟨_, content, readFlags_gifts tool (List.cons_ne_nil _ _) a.flags, hcontent, ?_, ?_, hfile⟩
  · rw [layer_gifts]
    exact holds_rows a.flags
  · rw [written, layer_variables a.environment nodup_names]
    exact holds_rows a.environment

/-- No file gives a number that does not fit. -/
theorem fits_of_give (h : i.Give a) : a.file.Fits := by
  obtain ⟨flags, file, -, hcontent, -, -, hfile⟩ := h
  have hnumber {name : String} {n : Nat} (hn : file.lookup name = some (.ofNat n)) :
      n < 0x8000_0000_0000_0000 := by
    rcases ofString_of_content hcontent with hempty | ⟨text, htext⟩
    · obtain rfl : file = [] := hempty
      cases hn
    · exact Toml.lt_of_ofString htext hn
  intro key v hv
  have hlookup := hfile key
  rw [hv] at hlookup
  cases key with
  | checkSeconds | probeSeconds | downloadSeconds | outputLimit => exact hnumber hlookup
  | _ => trivial

/-! ## What loading comes to -/

theorem load_of_give (h : i.Give a) : i.load = .ok a.top.settings := by
  obtain ⟨flags, file, hflags, hcontent, ha, hb, hc⟩ := h
  rw [Inputs.load, load_eq hflags hcontent]
  exact merge_of_holds ha hb hc (once_flags hflags) (once_variables _) (once_content hcontent)

/-- A file that cannot be read ends the loading. -/
theorem load_written_ne_ok {tool reason : String}
    (h : Toml.ofString (String.ofList (Toml.listing (fileLines a.file))) = .error reason)
    (s : Settings) :
    (written tool a).load ≠ .ok s := by
  have hflags : readFlags (written tool a).tool (written tool a).words = .ok _ :=
    readFlags_gifts tool (List.cons_ne_nil _ _) a.flags
  obtain ⟨shown, hread⟩ := readRequired_settingsFile a.file
  rw [h] at hread
  have hcontent : Source.content (written tool a).files (written tool a).environment
      (Flags.file? ((gifts (slash :: settingsName) a.flags).map (·.value))) =
        .error (⟨shown, reason⟩, []) := by
    change (Source.readRequired (settingsFile a.file) ⟨slash :: settingsName⟩).mapError _ = _
    rw [hread]
    rfl
  have hload : (written tool a).load = .error (.files ⟨shown, reason⟩ []) := by
    unfold Inputs.load load
    simp only [hflags]
    rw [hcontent]
  rw [hload]
  exact nofun

/-! ## Directories that no layer names -/

/-- The home directory of a user is the one that the environment names, or else the one on record.
-/
inductive Home (e : Environment) : Path → Prop
  | named {s : String} (h : e.get? "HOME" = some s) (hs : s ≠ "") : Home e (.ofString s)
  | recorded {p : Path} (h : ∀ s, e.get? "HOME" = some s → s = "") (hp : e.recordedHome = some p) :
    Home e p

/-- The directory of a user for what can be fetched again is the one that the environment names by
an absolute path, or else one in the home directory. -/
inductive UserCache (e : Environment) : Path → Prop
  | named {s : String} (h : e.get? "XDG_CACHE_HOME" = some s)
    (hs : (Path.ofString s).isAbsolute = true) : UserCache e (.ofString s)
  | inHome {home : Path}
    (h : ∀ s, e.get? "XDG_CACHE_HOME" = some s → (Path.ofString s).isAbsolute = false)
    (hhome : Home e home) : UserCache e (home.join (.ofString ".cache"))

/-- The directory for temporary files is the one that the environment names, if it does. -/
inductive Temporary (e : Environment) : Path → Prop
  | named {s : String} (h : e.get? "TMPDIR" = some s) : Temporary e (.ofString s)
  | usual (h : e.get? "TMPDIR" = none) : Temporary e (.ofString "/tmp")

/-- Downloads are kept below the directory of the user for what can be fetched again, or below the
one for temporary files if the user has none or its path is no text. -/
inductive DefaultCache (e : Environment) : Path → Prop
  | user {s : String} (h : UserCache e (.ofString s)) :
    DefaultCache e (((Path.ofString s).join (.ofString "clarigate")).join (.ofString "bin"))
  | temporary {p : Path} (h : ∀ s, ¬UserCache e (.ofString s)) (hp : Temporary e p) :
    DefaultCache e ((p.join (.ofString "clarigate")).join (.ofString "bin"))

theorem home?_eq_some_iff {e : Environment} {p : Path} : e.home? = some p ↔ Home e p := by
  constructor
  · intro h
    unfold Environment.home? at h
    split at h
    · next hnone => exact .recorded (fun s hs => by rw [hnone] at hs; cases hs) h
    · next hempty =>
        exact .recorded (fun s hs => by rw [hempty] at hs; exact (Option.some.inj hs).symm) h
    · next s hne hs =>
      obtain rfl := Option.some.inj h
      exact .named hs hne
  · intro h
    unfold Environment.home?
    cases h with
    | named h hs =>
      rw [h]
      split
      · next he => cases he
      · next he => exact absurd (Option.some.inj he) hs
      · next he =>
        obtain rfl := Option.some.inj he
        rfl
    | recorded h hp =>
      split
      · exact hp
      · exact hp
      · next s hne hs => exact absurd (h s hs) hne

theorem absolute?_eq_some_iff {e : Environment} {name : String} {p : Path} :
    e.absolute? name = some p ↔ ∃ s, e.get? name = some s ∧ p = .ofString s ∧
    p.isAbsolute = true := by
  unfold Environment.absolute?
  rw [Option.filter_eq_some_iff, Option.map_eq_some_iff]
  constructor
  · rintro ⟨⟨s, hs, rfl⟩, ha⟩
    exact ⟨s, hs, rfl, ha⟩
  · rintro ⟨s, hs, rfl, ha⟩
    exact ⟨⟨s, hs, rfl⟩, ha⟩

theorem cacheHome?_eq_some_iff {e : Environment} {p : Path} :
    e.cacheHome? = some p ↔ UserCache e p := by
  unfold Environment.cacheHome?
  cases ha : e.absolute? "XDG_CACHE_HOME" with
  | some q =>
    obtain ⟨s, hs, rfl, habsolute⟩ := absolute?_eq_some_iff.1 ha
    rw [Option.some_or]
    constructor
    · intro h
      obtain rfl := Option.some.inj h
      exact .named hs habsolute
    · intro h
      cases h with
      | named hs' => rw [Option.some.inj (hs.symm.trans hs')]
      | inHome hn => simp [hn s hs] at habsolute
  | none =>
    have hnone (s : String) (hs : e.get? "XDG_CACHE_HOME" = some s) :
        (Path.ofString s).isAbsolute = false := by
      by_contra hne
      rw [absolute?_eq_some_iff.2 ⟨s, hs, rfl, Bool.not_eq_false _ ▸ hne⟩] at ha
      cases ha
    rw [Option.none_or, Option.map_eq_some_iff]
    constructor
    · rintro ⟨home, hhome, rfl⟩
      exact .inHome hnone (home?_eq_some_iff.1 hhome)
    · intro h
      cases h with
      | named hs habsolute => simp [hnone _ hs] at habsolute
      | inHome _ hhome => exact ⟨_, home?_eq_some_iff.2 hhome, rfl⟩

theorem isText_iff {p : Path} : p.isText = true ↔ ∃ s, p = .ofString s := by
  rw [Path.isText, Option.isSome_iff_exists]
  constructor
  · rintro ⟨s, hs⟩
    refine ⟨String.ofList s, ?_⟩
    rw [Path.ofString, String.toList_ofList, ← Utf8.decode?_eq_some_iff.1 hs]
  · rintro ⟨s, rfl⟩
    exact ⟨s.toList, Utf8.decode?_eq_some_iff.2 rfl⟩

theorem temporary_temporary (e : Environment) : Temporary e e.temporary := by
  unfold Environment.temporary
  cases h : e.get? "TMPDIR" with
  | none => exact .usual h
  | some s => exact .named h

theorem defaultCache_defaultCachePath (e : Environment) : DefaultCache e (defaultCachePath e) := by
  unfold defaultCachePath
  cases hc : e.cacheHome?.filter Path.isText with
  | some p =>
    obtain ⟨hp, htext⟩ := Option.filter_eq_some_iff.1 hc
    obtain ⟨s, rfl⟩ := isText_iff.1 htext
    exact .user (cacheHome?_eq_some_iff.1 hp)
  | none =>
    refine .temporary (fun s hs => ?_) (temporary_temporary e)
    rw [Option.filter_eq_none_iff] at hc
    exact hc _ (cacheHome?_eq_some_iff.2 hs) (isText_iff.2 ⟨s, rfl⟩)

/-- Where downloads are kept and projects are staged: where a setting says, or in directories that
are found in the environment. -/
structure Located (s : Settings) (e : Environment) : Prop where
  cache : ∀ p, s.supplied .cacheDirectory = some p → s.cachePath e = .ofString p
  defaultCache : s.supplied .cacheDirectory = none → DefaultCache e (s.cachePath e)
  workspace : ∀ p, s.supplied .workspaceRoot = some p → s.workspacePath e = .ofString p
  temporary : s.supplied .workspaceRoot = none → Temporary e (s.workspacePath e)

theorem located (s : Settings) (e : Environment) : Located s e where
  cache p h := by
    have hset : s.cacheDirectory = some p := h
    rw [cachePath, hset]
  defaultCache h := by
    have hset : s.cacheDirectory = none := h
    rw [cachePath, hset]
    exact defaultCache_defaultCachePath e
  workspace p h := by
    have hset : s.workspaceRoot = some p := h
    rw [workspacePath, hset]
  temporary h := by
    have hset : s.workspaceRoot = none := h
    rw [workspacePath, hset]
    exact temporary_temporary e

/-! ## All settings at once -/

/-- Settings that the layers agree on come out alike. -/
theorem load_congr (ha : i.Give a) (hb : j.Give b) {key : Key} (hflags : a.flags key = b.flags key)
    (henvironment : a.environment key = b.environment key) (hfile : a.file key = b.file key) :
    i.load.map (·.supplied key) = j.load.map (·.supplied key) := by
  have htop : a.top key = b.top key := by
    rw [Layers.top, Layers.top, Assignment.above, Assignment.above, Assignment.above,
      Assignment.above, hflags, henvironment, hfile]
  rw [load_of_give ha, load_of_give hb]
  simp only [Except.map, Assignment.supplied_settings]
  rw [Assignment.above, Assignment.above, htop]

/-- Each setting has the value of the highest layer that has one, and a directory that has none is
found in the environment. A value counts in its layer also where it is the usual one, and what there
is for other settings does not matter. Any values can be given, as long as the numbers in the file
fit. -/
theorem load_layered :
    (∀ (i : Inputs) (a : Layers), i.Give a → ∃ s, i.load = .ok s ∧
      (∀ key, s.supplied key =
        ((a.flags key).or ((a.environment key).or (a.file key))).or (default.supplied key)) ∧
      Located s i.environment) ∧
    (∀ (i : Inputs) (a : Layers), i.Give a → ∀ key v, default.supplied key = some v →
      a.flags key = some v ∨ a.flags key = none ∧ a.environment key = some v →
      i.load.map (·.supplied key) = .ok (some v)) ∧
    (∀ (i j : Inputs) (a b : Layers), i.Give a → j.Give b → ∀ key, a.flags key = b.flags key →
      a.environment key = b.environment key → a.file key = b.file key →
      i.load.map (·.supplied key) = j.load.map (·.supplied key)) ∧
    (∀ (tool : String) (a : Layers), (∃ i : Inputs, i.tool = tool ∧ i.Give a) ↔ a.file.Fits) := by
  refine ⟨fun i a h => ?_, fun i a h key v _ hv => ?_, fun i j a b ha hb key => load_congr ha hb,
    fun tool a => ?_⟩
  · have hsupplied (key : Key) : a.top.settings.supplied key =
        ((a.flags key).or ((a.environment key).or (a.file key))).or (default.supplied key) :=
      congrFun a.top.supplied_settings key
    exact ⟨a.top.settings, load_of_give h, hsupplied, located _ _⟩
  · have htop : a.top key = some v := by
      rw [Layers.top, Assignment.above, Assignment.above]
      rcases hv with hv | ⟨hnone, hv⟩
      · rw [hv, Option.some_or]
      · rw [hnone, hv, Option.none_or, Option.some_or]
    rw [load_of_give h]
    simp only [Except.map, Assignment.supplied_settings]
    rw [Assignment.above, htop, Option.some_or]
  · constructor
    · rintro ⟨i, -, h⟩
      exact fits_of_give h
    · exact fun ha => ⟨written tool a, rfl, give_written tool ha⟩

/-- A time limit that is beyond what a file can say. -/
def wide : Assignment
  | .checkSeconds => some (0x8000_0000_0000_0000 : UInt64)
  | _ => none

/-- The line that a file would say it with. -/
def wideLine : String := "check_timeout_secs = 9223372036854775808\n"

theorem listing_wide : Toml.listing (fileLines wide) = wideLine.toList := by decide +kernel

theorem ofString_wideLine : (Toml.ofString wideLine).isOk = false := by decide +kernel

/-- Settings can have time limits that no file gives: the integers of a file end at 2⁶³ - 1, and one
that is greater ends the loading. -/
theorem load_beyond_file :
    settingsBytes wide = Utf8.encode wideLine.toList ∧
    (∀ s, (written "clarigate" ⟨wide, fun _ => none, fun _ => none⟩).load ≠ .ok s) ∧
    ∀ i : Inputs, ¬i.Give ⟨wide, fun _ => none, fun _ => none⟩ := by
  refine ⟨by rw [settingsBytes, listing_wide], fun s => ?_, fun i hi => ?_⟩
  · cases hread : Toml.ofString wideLine with
    | ok members =>
      have hrefused := ofString_wideLine
      rw [hread] at hrefused
      cases hrefused
    | error reason =>
      apply load_written_ne_ok
      rw [listing_wide, String.ofList_toList, hread]
  · have hfits : (0x8000_0000_0000_0000 : UInt64).toNat < 0x8000_0000_0000_0000 :=
      fits_of_give hi .checkSeconds _ rfl
    exact absurd hfits (by decide)

end ClarityCheck.Settings
