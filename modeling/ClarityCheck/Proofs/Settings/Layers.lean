import ClarityCheck.Proofs.Settings.OptionAndVariable

/-!
# Layers of values

A layer has values for some of the settings. Where several layers have a value for a setting, the
highest of them counts, and where none has, the usual value.

* `Assignment`: typed values for some of the settings
* `Holds`: a layer has the values of an assignment and no others
* `merge_of_holds`: what layers one over the other come to
-/

namespace ClarityCheck.Settings

/-! ## Values of settings -/

/-- The values of a setting where it has one. -/
def Key.Value : Key → Type
  | .logFormat => LogFormat
  | .downloadPolicy => DownloadPolicy
  | .checkSeconds | .probeSeconds | .downloadSeconds | .outputLimit => UInt64
  | .logFilter | .compilerVersion | .releaseBase | .cacheDirectory | .hostedVariable | .hostedBinary
  | .workspaceRoot => String

/-- A value of a setting as a JSON value. -/
def Key.json : (key : Key) → key.Value → Json
  | .logFormat, f => .str (LogFormat.name f)
  | .downloadPolicy, p => .str (DownloadPolicy.name p)
  | .checkSeconds, n | .probeSeconds, n | .downloadSeconds, n | .outputLimit, n =>
    .ofNat (UInt64.toNat n)
  | .logFilter, s | .compilerVersion, s | .releaseBase, s | .cacheDirectory, s | .hostedVariable, s
  | .hostedBinary, s | .workspaceRoot, s => .str s

theorem Key.json_ne_obj (key : Key) (v : key.Value) (members : List (String × Json)) :
    key.json v ≠ .obj members := by
  cases key <;> exact fun h => Json.noConfusion h

/-- Values for some of the settings. -/
abbrev Assignment := (key : Key) → Option key.Value

/-- The values that settings have. Only a directory may have none. -/
def supplied (s : Settings) : Assignment
  | .logFilter => some s.logFilter
  | .logFormat => some s.logFormat
  | .compilerVersion => some s.compilerVersion
  | .releaseBase => some s.releaseBase
  | .cacheDirectory => s.cacheDirectory
  | .hostedVariable => some s.hostedVariable
  | .hostedBinary => some s.hostedBinary
  | .workspaceRoot => s.workspaceRoot
  | .checkSeconds => some s.checkSeconds
  | .probeSeconds => some s.probeSeconds
  | .downloadSeconds => some s.downloadSeconds
  | .outputLimit => some s.outputLimit
  | .downloadPolicy => some s.downloadPolicy

/-- A setting that has no value is written as `null`. -/
theorem value_eq (s : Settings) (key : Key) :
    s.value key = ((s.supplied key).map key.json).getD .null := by
  cases key with
  | cacheDirectory => cases h : s.cacheDirectory <;> simp [value, supplied, optionalText, h] <;> rfl
  | workspaceRoot => cases h : s.workspaceRoot <;> simp [value, supplied, optionalText, h] <;> rfl
  | _ => rfl

namespace Assignment

/-- The values of one assignment, and of another one where the first has none. -/
def above (upper lower : Assignment) : Assignment := fun key => (upper key).or (lower key)

/-- The settings with the values of an assignment, and the usual ones where it has none. -/
def settings (a : Assignment) : Settings where
  logFilter := (a .logFilter).getD default.logFilter
  logFormat := (a .logFormat).getD default.logFormat
  compilerVersion := (a .compilerVersion).getD default.compilerVersion
  releaseBase := (a .releaseBase).getD default.releaseBase
  cacheDirectory := a .cacheDirectory
  hostedVariable := (a .hostedVariable).getD default.hostedVariable
  hostedBinary := (a .hostedBinary).getD default.hostedBinary
  workspaceRoot := a .workspaceRoot
  checkSeconds := (a .checkSeconds).getD default.checkSeconds
  probeSeconds := (a .probeSeconds).getD default.probeSeconds
  downloadSeconds := (a .downloadSeconds).getD default.downloadSeconds
  outputLimit := (a .outputLimit).getD default.outputLimit
  downloadPolicy := (a .downloadPolicy).getD default.downloadPolicy

theorem supplied_settings (a : Assignment) : a.settings.supplied = a.above default.supplied := by
  funext key
  have hgetD {α : Type} (o : Option α) (d : α) : some (o.getD d) = o.or (some d) := by
    cases o <;> rfl
  cases key with
  | cacheDirectory | workspaceRoot => exact (Option.or_none).symm
  | _ => exact hgetD _ _

theorem value_settings (a : Assignment) (key : Key) :
    a.settings.value key = ((a key).map key.json).getD (default.value key) := by
  rw [value_eq, supplied_settings, above, value_eq default]
  cases a key <;> rfl

end Assignment

/-! ## Layers one over the other -/

/-- A layer has the values of an assignment and no others. -/
def Holds (l : Layer) (a : Assignment) : Prop :=
  ∀ key : Key, l.lookup key.name = (a key).map key.json

/-- No name occurs twice. -/
def Layer.Once (l : Layer) : Prop := (l.map (·.1)).Nodup

theorem lookup_above {upper lower : Layer} {a : Assignment} (h : Holds upper a) (once : upper.Once)
    (key : Key) :
    (upper.above lower).lookup key.name = ((a key).map key.json).or (lower.lookup key.name) := by
  have hupper := h key
  cases hv : a key with
  | none =>
    rw [hv] at hupper
    exact Layer.lookup_above_of_none hupper
  | some v =>
    rw [hv] at hupper
    exact Layer.lookup_above_of_scalar hupper once (key.json_ne_obj v)

/-- Settings are read from any object that has their values. -/
theorem ofMembers_of_lookup {members : Layer} {s : Settings}
    (h : ∀ key : Key, members.lookup key.name = some (s.value key)) :
    ofMembers members = .ok s := by
  have hset : ∀ keys t, setAll members keys t = setAll s.members keys t := by
    intro keys
    induction keys with
    | nil => exact fun _ => rfl
    | cons key keys ih =>
      intro t
      rw [setAll, setAll, h, lookup_members]
      simp only [ih]
  have hmissing : missing? members = missing? s.members := by
    unfold missing?
    refine congrFun (congrArg _ (funext fun key => ?_)) _
    rw [h, lookup_members]
  rw [← ofMembers_members s, ofMembers, ofMembers, hset, hmissing]

/-- Each setting has the value of the highest layer that has one. -/
theorem merge_of_holds {file environment flags : Layer} {a b c : Assignment} (ha : Holds flags a)
    (hb : Holds environment b) (hc : Holds file c) (oncea : flags.Once) (onceb : environment.Once)
    (oncec : file.Once) : merge file environment flags = .ok (a.above (b.above c)).settings := by
  refine mapError_eq_ok_iff.2 (ofMembers_of_lookup fun key => ?_)
  rw [lookup_above ha oncea, lookup_above hb onceb, lookup_above hc oncec, lookup_members,
    Assignment.value_settings, Assignment.above, Assignment.above]
  cases a key <;> cases b key <;> cases c key <;> rfl

end ClarityCheck.Settings
