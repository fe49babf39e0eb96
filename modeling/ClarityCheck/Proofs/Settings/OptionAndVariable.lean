import ClarityCheck.Proofs.Settings.SingleOption
import ClarityCheck.Proofs.Settings.VariableText

/-!
# One setting as an option and as a variable

A setting alone, given on the command line or in the environment, goes over the usual settings and
changes none of the others. Both ways lead to the same settings when both readers find the same
value in the text: always for numbers, for the exact names of formats and policies, and for texts
that stand for themselves.

* `ofMembers_put`: one value over the usual settings
* `withOption_eq_ok_iff`, `withVariable_eq_ok_iff`: what an option and a variable give
* `coincide_iff`: the texts for which both come to the same
* `format_in_capitals`: a text for which they do not
-/

namespace ClarityCheck.Settings

open CommandLine Text

variable {s t : Settings} {key k : Key} {text : String} {v : Json}

/-! ## One value over the usual settings -/

theorem map_eq_ok_iff {ε α β : Type} {r : Except ε α} {f : α → β} {b : β} :
    r.map f = .ok b ↔ ∃ a, r = .ok a ∧ f a = b := by
  cases r with
  | error => simp [Except.map]
  | ok a => simp [Except.map]

theorem mapError_eq_ok_iff {ε ε' α : Type} {r : Except ε α} {f : ε → ε'} {a : α} :
    r.mapError f = .ok a ↔ r = .ok a := by
  cases r with
  | error => simp [Except.mapError]
  | ok => simp [Except.mapError]

/-- Putting a value in the place of a setting changes that setting alone. -/
theorem take_of_set (h : s.set key v = .ok t) : t = s.take t key := by
  cases key
  all_goals
    obtain ⟨a, -, rfl⟩ := map_eq_ok_iff.mp h
    rfl

/-- Settings of which one has been changed have their usual values in the other places. -/
theorem take_default_of_set (h : default.set key v = .ok t) (hk : k ≠ key) :
    t.take default k = t := by
  rw [take_of_set h]
  cases key <;> cases k <;> simp [take] at hk ⊢

theorem setAll_default {members : Layer} {keys : List Key}
    (hmembers : ∀ k ∈ keys, members.lookup k.name = some (default.value k))
    (hs : ∀ k ∈ keys, s.take default k = s) : setAll members keys s = .ok s := by
  induction keys with
  | nil => rfl
  | cons k keys ih =>
    rw [List.forall_mem_cons] at hmembers hs
    simp only [setAll, hmembers.1, set_value, hs.1]
    exact ih hmembers.2 hs.2

theorem setAll_append {members : Layer} {before after : List Key}
    (h : setAll members before s = .ok t) :
    setAll members (before ++ after) s = setAll members after t := by
  induction before generalizing s with
  | nil =>
    cases h
    rfl
  | cons k before ih =>
    rw [List.cons_append]
    simp only [setAll] at h ⊢
    split
    · next hk =>
      rw [hk] at h
      exact ih h
    · next v hk =>
      rw [hk] at h
      simp only at h ⊢
      split
      · next e he => simp [he] at h
      · next s' hs' =>
        rw [hs'] at h
        exact ih h

theorem Key.name_inj (h : k.name = key.name) : k = key := by
  have hall : ∀ k ∈ Key.all, ∀ key ∈ Key.all, k.name = key.name → k = key := by decide
  exact hall k (by cases k <;> decide) key (by cases key <;> decide) h

theorem lookup_put_members (key k : Key) (v : Json) :
    (Layer.put default.members key.name v).lookup k.name =
      some (if k = key then v else default.value k) := by
  rw [Layer.lookup_put, lookup_members]
  by_cases h : k = key
  · rw [if_pos (congrArg Key.name h), if_pos h]
  · rw [if_neg fun hname => h (Key.name_inj hname), if_neg h]

/-- The settings with one other value are the usual ones with that value in its place. -/
theorem ofMembers_put (key : Key) (v : Json) :
    ofMembers (Layer.put default.members key.name v) = default.set key v := by
  -- The settings before and after this one are read as they usually are.
  obtain ⟨before, after, hkeys⟩ :=
    List.append_of_mem (show key ∈ Key.byName by cases key <;> decide)
  have hnodup : (before ++ key :: after).Nodup := hkeys ▸ by decide
  have hne : ∀ k ∈ before ++ after, k ≠ key := fun k hk h =>
    (List.nodup_middle.mp hnodup).notMem (h ▸ hk)
  have hvalue : ∀ k ∈ before ++ after,
      (Layer.put default.members key.name v).lookup k.name = some (default.value k) :=
          fun k hk => by
    rw [lookup_put_members, if_neg (hne k hk)]
  have hbefore : setAll (Layer.put default.members key.name v) before default = .ok default :=
    setAll_default (fun k hk => hvalue k (List.mem_append_left _ hk)) fun k _ => by cases k <;> rfl
  have hmissing : missing? (Layer.put default.members key.name v) = none := by
    rw [missing?, List.find?_eq_none]
    intro k _
    simp [lookup_put_members]
  rw [ofMembers, hkeys, setAll_append hbefore, hmissing]
  simp only [setAll, lookup_put_members, ↓reduceIte]
  cases hset : default.set key v with
  | error e => rfl
  | ok t =>
    have hafter : setAll (Layer.put default.members key.name v) after t = .ok t :=
      setAll_default (fun k hk => hvalue k (List.mem_append_right _ hk)) fun k hk =>
        take_default_of_set hset (hne k (List.mem_append_right _ hk))
    simp only [hafter]

theorem overlay_value (key : Key) (v : Json) : overlay (default.value key) v = v := by
  have hscalar : ∀ members, default.value key ≠ .obj members := by
    cases key <;> exact fun _ h => Json.noConfusion h
  cases v with
  | obj upper =>
    rw [overlay]
    exact hscalar
  | _ => rfl

/-- A layer with one setting over the usual ones. -/
theorem merge_one (key : Key) (v : Json) :
    ofMembers (Layer.above [(key.name, v)] default.members) = default.set key v := by
  have hlookup : List.lookup key.name default.members = some (default.value key) :=
    lookup_members _ _
  simp only [Layer.above, overlayMembers, hlookup, overlay_value, ofMembers_put]

/-! ## Variables -/

/-- The name of the variable for a setting. -/
def variableName (key : Key) : String := Variables.beginning ++ Flags.placeholder key

theorem variableName_toList (key : Key) : (variableName key).toList = Variables.beginning.toList ++
    key.name.toList.map fun c => if 'a' ≤ c ∧ c ≤ 'z' then Char.ofNat (c.toNat - 32) else c := by
  rw [variableName, String.toList_append, Flags.placeholder, String.toList_map]

theorem path?_variableName (key : Key) : Variables.path? (variableName key) = some [key.name] := by
  rw [Variables.path?, variableName_toList]
  cases key <;> decide +kernel

/-- What a variable gives when no other one gives anything. -/
theorem layer_append {vs : List Variable} (h : Variables.layer vs = []) (key : Key)
    (text : String) :
    Variables.layer (vs ++ [⟨variableName key, text⟩]) = [(key.name, Variables.read text)] := by
  unfold Variables.layer at h ⊢
  rw [List.foldl_append, h]
  simp only [List.foldl_cons, List.foldl_nil, path?_variableName]
  rfl

/-- The names of the variables that tell where a configuration file lies. -/
def placeNames : List String := [Source.fileVariable, "HOME", "XDG_CONFIG_HOME", "XDG_CONFIG_DIRS"]

theorem names_differ : ∀ key ∈ Key.all, '=' ∉ (variableName key).toList ∧
    ∀ name ∈ placeNames, '=' ∉ name.toList ∧ name.toList ≠ (variableName key).toList := by
  simp only [variableName_toList]
  decide +kernel

theorem get?_append {name : String} (hname : name ∈ placeNames) (e : Environment) (key : Key)
    (text : String) :
    (e.adding ⟨variableName key, text⟩).get? name = e.get? name := by
  obtain ⟨hequals, hplace⟩ := names_differ key (key_mem_all key)
  have hother : dropStart? (name.toList ++ ['=']) (Environment.entry ⟨variableName key, text⟩) =
      none := by
    by_contra hne
    obtain ⟨rest, hrest⟩ := Option.ne_none_iff_exists'.mp hne
    have hsame := congrArg (splitOn '=') (dropStart?_eq_some_iff.mp hrest)
    rw [Environment.entry, List.append_assoc, List.singleton_append, splitOn_append_cons hequals,
      splitOn_append_cons (hplace name hname).1] at hsame
    exact (hplace name hname).2 (List.cons.inj hsame).1.symm
  simp [Environment.get?, Environment.adding, List.findSome?_append, hother]

/-- A setting in the environment leads to no other configuration file. -/
theorem candidates_append (e : Environment) (key : Key) (text : String) :
    Source.candidates (e.adding ⟨variableName key, text⟩) = Source.candidates e := by
  have hget {name : String} (hname : name ∈ placeNames) := get?_append hname e key text
  have hnamed {name : String} (hname : name ∈ placeNames) :
      Source.named? (e.adding ⟨variableName key, text⟩) name = Source.named? e name := by
    rw [Source.named?, hget hname, Source.named?]
  have hdirectories : Source.systemDirectories (e.adding ⟨variableName key, text⟩) =
      Source.systemDirectories e := by
    rw [Source.systemDirectories, hget (by simp [placeNames]), Source.systemDirectories]
  rw [Source.candidates, hnamed (by simp [placeNames]), hnamed (by simp [placeNames]),
    hnamed (by simp [placeNames]), hdirectories, Source.candidates]

/-! ## Both ways -/

theorem firstReadable_of_no_file {files : Files} {ps : List Path}
    (h : ∀ p ∈ ps, files.isFile p = false) :
    Source.firstReadable files ps = ([], none) := by
  induction ps with
  | nil => rfl
  | cons p ps ih =>
    rw [List.forall_mem_cons] at h
    rw [Source.firstReadable, if_neg (by simp [h.1]), ih h.2]

/-- A process whose files and variables give no settings. -/
structure Bare where
  tool : String
  files : Files
  environment : Environment
  noFile : Source.content files environment none = .ok .empty
  noVariable : Variables.layer environment.bindings = []

namespace Bare

variable (m : Bare)

/-- The settings with one option. -/
def withOption (how : Spelling) (key : Key) (text : String) : Except LoadError Settings :=
  load m.files m.environment m.tool (how.words key text)

/-- The settings with one variable. -/
def withVariable (key : Key) (text : String) : Except LoadError Settings :=
  load m.files (m.environment.adding ⟨variableName key, text⟩) m.tool []

theorem withVariable_eq (key : Key) (text : String) :
    m.withVariable key text = (default.set key (Variables.read text)).mapError .merge := by
  have hfile : Source.content m.files (m.environment.adding ⟨variableName key, text⟩) none =
      .ok .empty := by
    rw [Source.content, candidates_append]
    exact m.noFile
  rw [withVariable, load_eq rfl hfile, Environment.adding, layer_append m.noVariable, merge]
  exact congrArg (Except.mapError LoadError.merge) (merge_one key _)

theorem withVariable_eq_ok_iff {c : Settings} :
    m.withVariable key text = .ok c ↔ default.set key (Variables.read text) = .ok c := by
  rw [withVariable_eq, mapError_eq_ok_iff]

theorem withOption_eq_ok_iff {how : Spelling} {c : Settings} : m.withOption how key text = .ok c ↔
    how.Fits text ∧ ∃ v, Flags.readValue key text = .ok v ∧ default.set key v = .ok c := by
  have hmerge (v : Json) : merge [] [] [(key.name, v)] = .ok c ↔ default.set key v = .ok c := by
    rw [merge, mapError_eq_ok_iff]
    exact Eq.congr_left (merge_one key v)
  constructor
  · intro h
    cases hflags : readFlags m.tool (how.words key text) with
    | error e => simp [withOption, load, hflags] at h
    | ok flags =>
      obtain ⟨hfits, v, hv, rfl⟩ := readFlags_words_iff.mp hflags
      rw [withOption, load_eq hflags m.noFile, m.noVariable] at h
      exact ⟨hfits, v, hv, (hmerge v).mp h⟩
  · rintro ⟨hfits, v, hv, hc⟩
    have hflags : readFlags m.tool (how.words key text) = .ok [.setting key v] :=
      readFlags_words_iff.mpr ⟨hfits, v, hv, rfl⟩
    rw [withOption, load_eq hflags m.noFile, m.noVariable]
    exact (hmerge v).mpr hc

end Bare

/-! ## Values that both readers find -/

theorem readDigits_eq_ok {n m : Nat} {s : List Char} (h : Flags.readDigits n s = .ok m)
    (hn : n < 0x1_0000_0000_0000_0000) :
    (∀ c ∈ s, c.isDigit = true) ∧ m = s.foldl (fun n c => n * 10 + (c.toNat - 0x30)) n ∧
      m < 0x1_0000_0000_0000_0000 := by
  induction s generalizing n with
  | nil =>
    cases h
    exact ⟨by simp, rfl, hn⟩
  | cons c s ih =>
    rw [Flags.readDigits] at h
    split at h
    · next hc =>
      dsimp only at h
      split at h
      · next hnext =>
        obtain ⟨hdigits, hm, hlt⟩ := ih h hnext
        exact ⟨List.forall_mem_cons.mpr ⟨hc, hdigits⟩,
          by rw [hm, List.foldl_cons, Nat.mul_comm], hlt⟩
      · cases h
    · cases h

theorem digits_of_readDigits {n : Nat} {s : List Char} (hs : s ≠ [])
    (h : Flags.readDigits 0 s = .ok n) :
    (Variables.digits? s).map (fun ds => (Toml.Word.decimalNat ds : Int)) = some (n : Int) ∧
      n < 0x1_0000_0000_0000_0000 := by
  obtain ⟨hdigits, hn, hlt⟩ := readDigits_eq_ok h (by decide)
  have hread : Variables.digits? s = some s := if_pos ⟨hs, List.all_eq_true.mpr hdigits⟩
  rw [hread, Option.map_some, Toml.Word.decimalNat, ← hn]
  exact ⟨rfl, hlt⟩

/-- A number on the command line is one in the environment. -/
theorem integer_of_readNumber {n : Nat} {s : List Char} (h : Flags.readNumber s = .ok n) :
    Variables.integer? s = some (n : Int) ∧ n < 0x1_0000_0000_0000_0000 := by
  have hfits (hlt : n < 0x1_0000_0000_0000_0000) : (some (n : Int)).filter (fun n =>
      decide (-0x8000_0000_0000_0000 ≤ n ∧ n < 0x1_0000_0000_0000_0000)) = some (n : Int) := by
    rw [Option.filter_some, if_pos]
    rw [decide_eq_true_eq]
    omega
  unfold Flags.readNumber at h
  split at h
  · cases h
  · cases h
  · next s hs =>
    obtain ⟨hread, hlt⟩ := digits_of_readDigits (fun hnil => hs (by rw [hnil])) h
    refine ⟨?_, hlt⟩
    rw [Variables.integer?, ← hfits hlt, ← hread]
  · next hne _ hplus =>
    obtain ⟨hread, hlt⟩ := digits_of_readDigits hne h
    refine ⟨?_, hlt⟩
    unfold Variables.integer?
    split
    · exact absurd rfl (hplus _)
    · exact absurd ((readDigits_eq_ok h (by decide)).1 '-' (by simp)) (by decide)
    · rw [← hfits hlt, ← hread]

theorem map_inj_iff {α : Type} {r : Decoded α} {f : α → Settings} {a : α}
    (hf : Function.Injective f) :
    r.map f = .ok (f a) ↔ r = .ok a := by
  cases r with
  | error => simp [Except.map]
  | ok b => simp [Except.map, hf.eq_iff]

theorem decodeText_eq_ok_iff {expected : String} :
    decodeText expected v = .ok text ↔ v = .str text := by
  cases v <;> simp [decodeText]

theorem decodeOptionalPath_eq_ok_iff : decodeOptionalPath v = .ok (some text) ↔ v = .str text := by
  cases v <;> simp [decodeOptionalPath, decodeText, Except.map]

theorem decodeName_str_eq_ok_iff {α : Type} {ofName? : String → Option α} {possible : List String}
    {a : α} :
    decodeName ofName? possible (.str text) = .ok a ↔ ofName? text = some a := by
  rw [decodeName, decodeName.lookup]
  cases ofName? text <;> simp

/-- A word of letters, in any case, stands for itself. -/
theorem verbatim_of_sameWord {name : String} (h : sameWord name text = true)
    (hname : name.toList.all (fun c => lowerAscii c ∈ Variables.letters) = true)
    (htrue : sameWord name "true" = false) (hfalse : sameWord name "false" = false) :
    Variables.Verbatim text := by
  have hsame : name.toList.map lowerAscii = text.toList.map lowerAscii := by
    simpa [sameWord] using h
  refine Variables.verbatim_of_letters (fun c hc => Variables.mem_letters_of_lowerAscii ?_) ?_ ?_
  · have hmem : lowerAscii c ∈ name.toList.map lowerAscii := hsame ▸ List.mem_map_of_mem hc
    obtain ⟨d, hd, hlower⟩ := List.mem_map.mp hmem
    exact hlower ▸ of_decide_eq_true (List.all_eq_true.mp hname d hd)
  · rwa [sameWord, ← hsame]
  · rwa [sameWord, ← hsame]

/-- Names that a command line may write in any case, a document only exactly. -/
structure Named (α : Type) where
  all : List α
  name : α → String
  word : ∀ a, (name a).toList.all (fun c => lowerAscii c ∈ Variables.letters) = true
  noTruth : ∀ a, sameWord (name a) "true" = false ∧ sameWord (name a) "false" = false
  exact : ∀ a, all.find? (name · == name a) = some a
  inAnyCase : ∀ a, all.find? (fun b => sameWord (name b) (name a)) = some a

namespace Named

/-- The formats of log output. -/
def formats : Named LogFormat where
  all := LogFormat.all
  name := LogFormat.name
  word f := by cases f <;> decide
  noTruth f := by cases f <;> decide
  exact f := by cases f <;> decide
  inAnyCase f := by cases f <;> decide

/-- The policies on downloads. -/
def policies : Named DownloadPolicy where
  all := DownloadPolicy.all
  name := DownloadPolicy.name
  word p := by cases p <;> decide
  noTruth p := by cases p <;> decide
  exact p := by cases p <;> decide
  inAnyCase p := by cases p <;> decide

/-- A word that the command line takes is taken from the environment when it is written exactly. -/
theorem read_iff {α : Type} (names : Named α) {possible : List String} {a : α}
    (h : names.all.find? (fun b => sameWord (names.name b) text) = some a) :
    decodeName (fun n => names.all.find? (names.name · == n)) possible
      (Variables.read text) = .ok a ↔
      ∃ b, text = names.name b := by
  -- Whatever the case of its letters, the environment gives the word as it is written.
  have hsame : sameWord (names.name a) text = true := by simpa using List.find?_some h
  have hverbatim : Variables.Verbatim text :=
    verbatim_of_sameWord hsame (names.word a) (names.noTruth a).1 (names.noTruth a).2
  rw [Variables.read_eq_str_iff.mpr hverbatim, decodeName_str_eq_ok_iff]
  constructor
  · intro hexact
    have hname : names.name a = text := by simpa using List.find?_some hexact
    exact ⟨a, hname.symm⟩
  · rintro ⟨b, rfl⟩
    rw [names.inAnyCase] at h
    rw [← h, names.exact]

end Named

/-- The text gives the same value in the environment as on the command line, where it gives one. -/
def Agrees (key : Key) (text : String) : Prop :=
  match key with
  | .checkSeconds | .probeSeconds | .downloadSeconds | .outputLimit => True
  | .logFormat => ∃ f : LogFormat, text = f.name
  | .downloadPolicy => ∃ p : DownloadPolicy, text = p.name
  | _ => Variables.Verbatim text

theorem text_read_iff {f : String → Settings} {expected : String} (hf : Function.Injective f) :
    (decodeText expected (Variables.read text)).map f = .ok (f text) ↔ Variables.Verbatim text := by
  rw [map_inj_iff hf, decodeText_eq_ok_iff, Variables.read_eq_str_iff]

theorem path_read_iff {f : Option String → Settings} (hf : Function.Injective f) :
    (decodeOptionalPath (Variables.read text)).map f = .ok (f (some text)) ↔
    Variables.Verbatim text := by
  rw [map_inj_iff hf, decodeOptionalPath_eq_ok_iff, Variables.read_eq_str_iff]

theorem read_of_readNumber (h : (Flags.readNumber text.toList).map Json.ofNat = .ok v) :
    Variables.read text = v ∧ ∀ expected, ∃ w, decodeWord expected v = .ok w := by
  cases hn : Flags.readNumber text.toList with
  | error e => simp [hn, Except.map] at h
  | ok n =>
    obtain rfl : Json.ofNat n = v := by simpa [hn, Except.map] using h
    obtain ⟨hinteger, hlt⟩ := integer_of_readNumber hn
    refine ⟨Variables.read_of_integer hinteger, fun expected => ⟨UInt64.ofNat n, ?_⟩⟩
    have hword := decodeWord_ofNat expected (UInt64.ofNat n)
    rwa [UInt64.toNat_ofNat_of_lt' hlt] at hword

/-- A value from the command line makes settings, and the text makes the same ones in the
environment when it agrees. -/
theorem set_read_iff (h : Flags.readValue key text = .ok v) : ∃ c, default.set key v = .ok c ∧
    (default.set key (Variables.read text) = .ok c ↔ Agrees key text) := by
  -- The command line takes texts and paths as they stand, reads numbers as the environment does,
  -- and names in any case.
  cases key
  case logFilter =>
    cases h
    exact ⟨_, rfl, text_read_iff fun _ _ h => congrArg Settings.logFilter h⟩
  case compilerVersion =>
    cases h
    exact ⟨_, rfl, text_read_iff fun _ _ h => congrArg Settings.compilerVersion h⟩
  case releaseBase =>
    cases h
    exact ⟨_, rfl, text_read_iff fun _ _ h => congrArg Settings.releaseBase h⟩
  case hostedVariable =>
    cases h
    exact ⟨_, rfl, text_read_iff fun _ _ h => congrArg Settings.hostedVariable h⟩
  case hostedBinary =>
    cases h
    exact ⟨_, rfl, text_read_iff fun _ _ h => congrArg Settings.hostedBinary h⟩
  case cacheDirectory =>
    cases h
    exact ⟨_, rfl, path_read_iff fun _ _ h => congrArg Settings.cacheDirectory h⟩
  case workspaceRoot =>
    cases h
    exact ⟨_, rfl, path_read_iff fun _ _ h => congrArg Settings.workspaceRoot h⟩
  case checkSeconds | probeSeconds | downloadSeconds =>
    obtain ⟨hread, hdecode⟩ := read_of_readNumber h
    obtain ⟨w, hw⟩ := hdecode "u64"
    exact ⟨_, map_ok _ hw, iff_of_true (hread ▸ map_ok _ hw) trivial⟩
  case outputLimit =>
    obtain ⟨hread, hdecode⟩ := read_of_readNumber h
    obtain ⟨w, hw⟩ := hdecode "usize"
    exact ⟨_, map_ok _ hw, iff_of_true (hread ▸ map_ok _ hw) trivial⟩
  case logFormat =>
    simp only [Flags.readValue] at h
    split at h
    · next f hf =>
      cases h
      refine ⟨_, map_ok _ (decodeName_logFormat f _), ?_⟩
      exact (map_inj_iff fun _ _ h => congrArg Settings.logFormat h).trans
        (Named.formats.read_iff hf)
    · cases h
  case downloadPolicy =>
    simp only [Flags.readValue] at h
    split at h
    · next p hp =>
      cases h
      refine ⟨_, map_ok _ (decodeName_downloadPolicy p _), ?_⟩
      exact (map_inj_iff fun _ _ h => congrArg Settings.downloadPolicy h).trans
        (Named.policies.read_iff hp)
    · cases h

/-! ## Texts for which both ways come to the same -/

/-- The command line takes the text for a setting. -/
def Spelling.Accepts (how : Spelling) (key : Key) (text : String) : Prop :=
  how.Fits text ∧ ∃ v, Flags.readValue key text = .ok v

namespace Bare

theorem isFile_empty (d : Location) (p : Path) : Files.isFile ⟨[], d⟩ p = false := by
  have hget (l : Location) : Files.get? ⟨[], d⟩ l = none ∨
      Files.get? ⟨[], d⟩ l = some .directory := by
    cases l with
    | nil => exact .inr rfl
    | cons name rest => exact .inl rfl
  unfold Files.isFile Files.stat
  cases Files.locate ⟨[], d⟩ true p with
  | error => rfl
  | ok l => rcases hget l with h | h <;> simp only [h]

/-- A process without files and variables. -/
def empty : Bare where
  tool := "clarigate"
  files := ⟨[], []⟩
  environment := ⟨[], none⟩
  noFile := by
    rw [Source.content, firstReadable_of_no_file fun p _ => isFile_empty [] p]
  noVariable := rfl

/-- Whatever settings the option gives, the variable gives the same ones. -/
def Coincide (m : Bare) (how : Spelling) (key : Key) (text : String) : Prop :=
  ∀ c, m.withOption how key text = .ok c → m.withVariable key text = .ok c

/-- A setting is the same as an option and as a variable exactly if the command line refuses the
text or both readers agree on it. -/
theorem coincide_iff (m : Bare) (how : Spelling) (key : Key) (text : String) :
    m.Coincide how key text ↔ (how.Accepts key text → Agrees key text) := by
  constructor
  · rintro h ⟨hfits, v, hv⟩
    obtain ⟨c, hc, hagrees⟩ := set_read_iff hv
    have hvariable := h c (m.withOption_eq_ok_iff.mpr ⟨hfits, v, hv, hc⟩)
    exact hagrees.mp (m.withVariable_eq_ok_iff.mp hvariable)
  · intro h c hoption
    obtain ⟨hfits, v, hv, hc⟩ := m.withOption_eq_ok_iff.mp hoption
    obtain ⟨c', hc', hagrees⟩ := set_read_iff hv
    obtain rfl : c' = c := Except.ok.inj (hc'.symm.trans hc)
    exact m.withVariable_eq_ok_iff.mpr (hagrees.mpr (h ⟨hfits, v, hv⟩))

/-- A format in capitals is one for the command line, and none in the environment. -/
theorem format_in_capitals :
    empty.withOption .apart .logFormat "COMPACT" = .ok { default with logFormat := .compact } ∧
      empty.withVariable .logFormat "COMPACT" =
        .error (.merge (.unknownName "COMPACT" ["json", "compact"])) := by
  constructor
  · exact empty.withOption_eq_ok_iff.mpr
      ⟨show Word.ofBytes _ = _ by decide, .str "compact", by rfl, rfl⟩
  · rw [withVariable_eq]
    rfl

end Bare

end ClarityCheck.Settings
