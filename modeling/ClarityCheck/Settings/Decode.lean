import ClarityCheck.Json.Shape
import ClarityCheck.Settings.Basic

/-!
# Settings from a JSON object

Every setting has a shape of its own. A setting whose value may be missing may be left out or be
`null`; the others have to be there. Members that are no settings are ignored. Faulty values are
reported before missing ones, the first by the order of names.

Main statement: `ofMembers_members` (settings are read back from what writes them).
-/

namespace ClarityCheck.Settings

/-- Why a JSON object writes no settings. -/
inductive DecodeError where
  /-- A value has the wrong shape. -/
  | wrongShape (found expected : String)
  /-- A value has the right shape and is not among the possible ones. -/
  | wrongValue (found expected : String)
  /-- A name is none of those that are possible. -/
  | unknownName (name : String) (possible : List String)
  /-- A setting is missing. -/
  | missing (key : Key)
  deriving DecidableEq, Repr

/-- A word in backticks. -/
def ticked (s : String) : String := "\x60" ++ s ++ "\x60"

/-- The wording of the names that are possible. -/
def possibleNames : List String → String
  | [] => "there are no variants"
  | [a] => "expected " ++ ticked a
  | [a, b] => "expected " ++ ticked a ++ " or " ++ ticked b
  | names => "expected one of " ++ ", ".intercalate (names.map ticked)

/-- The wording of an error. -/
def DecodeError.message : DecodeError → String
  | .wrongShape found expected => "invalid type: " ++ found ++ ", expected " ++ expected
  | .wrongValue found expected => "invalid value: " ++ found ++ ", expected " ++ expected
  | .unknownName name possible =>
    "unknown variant " ++ ticked name ++ ", " ++ possibleNames possible
  | .missing key => "missing field " ++ ticked key.name

/-- A value that is read or refused. -/
abbrev Decoded := Except DecodeError

/-- Reads a text; `expected` describes it in errors. -/
def decodeText (expected : String) : Json → Decoded String
  | .str s => .ok s
  | v => .error (.wrongShape v.description expected)

/-- How errors describe a path. -/
def pathShape : String := "a UTF-8 path string"

/-- Reads a path that may be missing. -/
def decodeOptionalPath : Json → Decoded (Option String)
  | .null => .ok none
  | v => (decodeText pathShape v).map some

/-- An integer as a natural number below `2 ^ 64`, if it is one. -/
def wordOf? (n : Int) : Option UInt64 :=
  if 0 ≤ n ∧ n < 0x1_0000_0000_0000_0000 then some (UInt64.ofNat n.toNat) else none

/-- Reads a natural number below `2 ^ 64`; `expected` describes it in errors. -/
def decodeWord (expected : String) : Json → Decoded UInt64
  | .num (.integer n) =>
    match wordOf? n with
    | some w => .ok w
    | none => .error (.wrongValue (Json.num (.integer n)).description expected)
  | v => .error (.wrongShape v.description expected)

/-- Reads the name of a value. The name may also be the only member of an object, with `null` as its
value. -/
def decodeName {α : Type} (ofName? : String → Option α) (possible : List String) : Json → Decoded α
  | .str s => lookup s
  | .obj [(name, inner)] =>
    match lookup name with
    | .error e => .error e
    | .ok a =>
      match inner with
      | .null => .ok a
      | v => .error (.wrongShape v.description "unit")
  | .obj _ => .error (.wrongValue "map" "map with a single key")
  | v => .error (.wrongShape v.description "string or map")
where
  /-- The value of a name. -/
  lookup (name : String) : Decoded α :=
    match ofName? name with
    | some a => .ok a
    | none => .error (.unknownName name possible)

/-- Puts a value in the place of a setting. -/
def set (s : Settings) (key : Key) (v : Json) : Decoded Settings :=
  match key with
  | .logFilter => (decodeText "a string" v).map ({ s with logFilter := · })
  | .logFormat =>
    (decodeName LogFormat.ofName? (LogFormat.all.map (·.name)) v).map ({ s with logFormat := · })
  | .compilerVersion => (decodeText "a string" v).map ({ s with compilerVersion := · })
  | .releaseBase => (decodeText "a string" v).map ({ s with releaseBase := · })
  | .cacheDirectory => (decodeOptionalPath v).map ({ s with cacheDirectory := · })
  | .hostedVariable => (decodeText "a string" v).map ({ s with hostedVariable := · })
  | .hostedBinary => (decodeText pathShape v).map ({ s with hostedBinary := · })
  | .workspaceRoot => (decodeOptionalPath v).map ({ s with workspaceRoot := · })
  | .checkSeconds => (decodeWord "u64" v).map ({ s with checkSeconds := · })
  | .probeSeconds => (decodeWord "u64" v).map ({ s with probeSeconds := · })
  | .downloadSeconds => (decodeWord "u64" v).map ({ s with downloadSeconds := · })
  | .outputLimit => (decodeWord "usize" v).map ({ s with outputLimit := · })
  | .downloadPolicy =>
    (decodeName DownloadPolicy.ofName? (DownloadPolicy.all.map (·.name)) v).map
      ({ s with downloadPolicy := · })

/-- A setting may be left out. -/
def Key.isOptional : Key → Bool
  | .cacheDirectory | .workspaceRoot => true
  | _ => false

/-- The settings in the order of their names. -/
def Key.byName : List Key :=
  [.cacheDirectory, .checkSeconds, .compilerVersion, .downloadPolicy, .downloadSeconds,
    .hostedBinary, .hostedVariable, .logFilter, .logFormat, .outputLimit, .probeSeconds,
    .releaseBase, .workspaceRoot]

/-- Puts the members of an object that are settings in their places, one after the other. -/
def setAll (members : List (String × Json)) : List Key → Settings → Decoded Settings
  | [], s => .ok s
  | key :: keys, s =>
    match members.lookup key.name with
    | none => setAll members keys s
    | some v =>
      match s.set key v with
      | .error e => .error e
      | .ok s => setAll members keys s

/-- The first setting that an object has to have and lacks. -/
def missing? (members : List (String × Json)) : Option Key :=
  Key.all.find? fun k => !k.isOptional && (members.lookup k.name).isNone

/-- The settings that the members of an object write. No name occurs twice in them. -/
def ofMembers (members : List (String × Json)) : Decoded Settings :=
  match setAll members Key.byName default with
  | .error e => .error e
  | .ok s =>
    match missing? members with
    | some k => .error (.missing k)
    | none => .ok s

theorem wordOf?_toNat (w : UInt64) : wordOf? w.toNat = some w := by
  have h : w.toNat < 0x1_0000_0000_0000_0000 := w.toNat_lt
  have hi : (0 : Int) ≤ (w.toNat : Int) ∧ (w.toNat : Int) < 0x1_0000_0000_0000_0000 := by omega
  rw [wordOf?, if_pos hi]
  simp

theorem decodeWord_ofNat (expected : String) (w : UInt64) :
    decodeWord expected (.ofNat w.toNat) = .ok w := by
  rw [Json.ofNat, decodeWord, wordOf?_toNat]

theorem decodeOptionalPath_optionalText (p : Option String) :
    decodeOptionalPath (optionalText p) = .ok p := by
  cases p <;> rfl

theorem decodeName_logFormat (f : LogFormat) (possible : List String) :
    decodeName LogFormat.ofName? possible (.str f.name) = .ok f := by
  cases f <;> rfl

theorem decodeName_downloadPolicy (p : DownloadPolicy) (possible : List String) :
    decodeName DownloadPolicy.ofName? possible (.str p.name) = .ok p := by
  cases p <;> rfl

/-- The settings `s` with one setting taken from `t`. -/
def take (s t : Settings) : Key → Settings
  | .logFilter => { s with logFilter := t.logFilter }
  | .logFormat => { s with logFormat := t.logFormat }
  | .compilerVersion => { s with compilerVersion := t.compilerVersion }
  | .releaseBase => { s with releaseBase := t.releaseBase }
  | .cacheDirectory => { s with cacheDirectory := t.cacheDirectory }
  | .hostedVariable => { s with hostedVariable := t.hostedVariable }
  | .hostedBinary => { s with hostedBinary := t.hostedBinary }
  | .workspaceRoot => { s with workspaceRoot := t.workspaceRoot }
  | .checkSeconds => { s with checkSeconds := t.checkSeconds }
  | .probeSeconds => { s with probeSeconds := t.probeSeconds }
  | .downloadSeconds => { s with downloadSeconds := t.downloadSeconds }
  | .outputLimit => { s with outputLimit := t.outputLimit }
  | .downloadPolicy => { s with downloadPolicy := t.downloadPolicy }

theorem map_ok {α β : Type} {r : Decoded α} {a : α} (f : α → β) (h : r = .ok a) :
    r.map f = .ok (f a) := by
  rw [h, Except.map]

/-- Putting the value of a setting in its place changes that setting alone. -/
theorem set_value (s t : Settings) (key : Key) : s.set key (t.value key) = .ok (s.take t key) := by
  cases key
  case logFilter | compilerVersion | releaseBase | hostedVariable | hostedBinary => rfl
  case logFormat => exact map_ok _ (decodeName_logFormat t.logFormat _)
  case downloadPolicy => exact map_ok _ (decodeName_downloadPolicy t.downloadPolicy _)
  case cacheDirectory => exact map_ok _ (decodeOptionalPath_optionalText t.cacheDirectory)
  case workspaceRoot => exact map_ok _ (decodeOptionalPath_optionalText t.workspaceRoot)
  case checkSeconds => rw [set, value, map_ok _ (decodeWord_ofNat "u64" t.checkSeconds), take]
  case probeSeconds => rw [set, value, map_ok _ (decodeWord_ofNat "u64" t.probeSeconds), take]
  case downloadSeconds =>
    rw [set, value, map_ok _ (decodeWord_ofNat "u64" t.downloadSeconds), take]
  case outputLimit => rw [set, value, map_ok _ (decodeWord_ofNat "usize" t.outputLimit), take]

theorem lookup_members (s : Settings) (key : Key) :
    s.members.lookup key.name = some (s.value key) := by
  cases key <;> rfl

theorem setAll_members (t : Settings) (keys : List Key) (s : Settings) :
    setAll t.members keys s = .ok (keys.foldl (·.take t) s) := by
  induction keys generalizing s with
  | nil => rfl
  | cons key keys ih => simp only [setAll, lookup_members, set_value, ih, List.foldl_cons]

/-- Settings are read back from what writes them. -/
theorem ofMembers_members (s : Settings) : ofMembers s.members = .ok s := by
  have hm : missing? s.members = none := by
    simp only [missing?, List.find?_eq_none]
    intro k _
    simp [lookup_members]
  have hs : Key.byName.foldl (·.take s) default = s := by
    simp only [Key.byName, List.foldl_cons, List.foldl_nil, take]
  simp only [ofMembers, hm, setAll_members, hs]

end ClarityCheck.Settings
