import ClarityCheck.Proofs.Settings.DistinctNames
import ClarityCheck.Proofs.Text.Utf8Roundtrip
import ClarityCheck.Proofs.Toml.Listing

/-!
# Inputs with given values

Whatever values are to be given for whichever settings, there are command lines, environments and
configuration files that give them. The numbers of a file have to fit into 64 bits with a sign.

* `parse_gifts`: a command line of options is read in order
* `readFlags_gifts`, `layer_gifts`: a command line with given values
* `layer_variables`: an environment with given values
* `content_settingsFile`: a configuration file with given values
-/

namespace ClarityCheck.CommandLine

variable {α ω : Type} {g : Grammar α ω} {p : Progress α ω} {o : Valued α}

/-! ## Command lines of options -/

/-- Nothing is pending, and options may follow. -/
structure Progress.Idle (p : Progress α ω) : Prop where
  pending : p.pending = none
  awaiting : p.awaiting = false
  operandsOnly : p.operandsOnly = false

/-- A word that gives an option together with its value. -/
structure Gift (α : Type) where
  word : Bytes
  option : Valued α
  value : α

/-- The word is read as the option with this value. -/
def Gift.IsRead (g : Grammar α ω) (x : Gift α) : Prop :=
  ∃ name value, Word.ofBytes x.word = .long name (some value) ∧ g.option? name = some x.option ∧
    x.option.read value = .ok x.value

/-- What is known after more options. -/
def Progress.after (p : Progress α ω) (gifts : List (Gift α)) : Progress α ω :=
  { p with given := p.given ++ gifts.map (·.option.shown), values :=
    p.values ++ gifts.map (·.value) }

theorem word_gift {x : Gift α} (hx : x.IsRead g) (hp : p.Idle) (hnew : x.option.shown ∉ p.given)
    (rest : List Bytes) : p.word g x.word rest = .ok (p.after [x]) := by
  obtain ⟨name, value, hword, hoption, hread⟩ := hx
  have hsettled : p.settled g = .ok p := by
    obtain ⟨hpending, hawaiting, -⟩ := hp
    obtain ⟨⟩ := p
    subst hpending hawaiting
    rfl
  have htake : p.takeOption g x.option (some value) = (p.after [x], none) := by
    rw [Progress.takeOption]
    simp only [if_neg hnew, hread]
    rfl
  rw [Progress.word, hword]
  simp only [hoption]
  rw [Progress.option, hsettled]
  simp only [htake]

theorem idle_after (hp : p.Idle) (gifts : List (Gift α)) : (p.after gifts).Idle :=
  ⟨hp.1, hp.2, hp.3⟩

theorem scan_gifts (hcommands : g.commands = []) {gifts : List (Gift α)}
    (hgifts : ∀ x ∈ gifts, x.IsRead g) (hnodup : (gifts.map (·.option.shown)).Nodup) (hp : p.Idle)
    (hnew : ∀ x ∈ gifts, x.option.shown ∉ p.given) :
    scan g p (gifts.map (·.word)) = .ok (p.after gifts, none) := by
  induction gifts generalizing p with
  | nil =>
    simp only [Progress.after, List.map_nil, List.append_nil]
    rfl
  | cons x gifts ih =>
    obtain ⟨hx, hgifts⟩ := List.forall_mem_cons.1 hgifts
    obtain ⟨hxnew, hnew⟩ := List.forall_mem_cons.1 hnew
    rw [List.map_cons, List.nodup_cons] at hnodup
    have hlater : ∀ y ∈ gifts, y.option.shown ∉ (p.after [x]).given := by
      intro y hy hmem
      rcases List.mem_append.1 hmem with hmem | hmem
      · exact hnew y hy hmem
      · rw [List.map_singleton, List.mem_singleton] at hmem
        exact hnodup.1 (hmem ▸ List.mem_map_of_mem hy)
    rw [List.map_cons, scan, Settings.command?_eq_none hcommands, ite_self, hp.operandsOnly]
    simp only [word_gift hx hp hxnew, Bool.false_eq_true, if_false]
    rw [ih hgifts hnodup.2 (idle_after hp _) hlater]
    simp [Progress.after]

/-- A command line of options is read in order. -/
theorem parse_gifts (hcommands : g.commands = []) {gifts : List (Gift α)}
    (hgifts : ∀ x ∈ gifts, x.IsRead g) (hnodup : (gifts.map (·.option.shown)).Nodup) :
    ∃ p, g.parse (gifts.map (·.word)) = .ok p ∧ p.values = gifts.map (·.value) := by
  have hidle : ({} : Progress α ω).Idle := ⟨rfl, rfl, rfl⟩
  refine ⟨({} : Progress α ω).after gifts, ?_, List.nil_append _⟩
  rw [Grammar.parse, scan_gifts hcommands hgifts hnodup hidle fun _ _ => List.not_mem_nil]
  rfl

end ClarityCheck.CommandLine

namespace ClarityCheck.Settings

open CommandLine Text

/-! ## Values as they are written -/

/-- A value of a setting as a text or a number. -/
def Key.atomic : (key : Key) → key.Value → Toml.Atomic
  | .logFormat, f => .text (LogFormat.name f)
  | .downloadPolicy, p => .text (DownloadPolicy.name p)
  | .checkSeconds, n | .probeSeconds, n | .downloadSeconds, n | .outputLimit, n =>
    .number (UInt64.toNat n)
  | .logFilter, s | .compilerVersion, s | .releaseBase, s | .cacheDirectory, s | .hostedVariable, s
  | .hostedBinary, s | .workspaceRoot, s => .text s

theorem json_atomic (key : Key) (v : key.Value) : (key.atomic v).json = key.json v := by
  cases key <;> rfl

/-- A value without quotes. -/
def plainText : Toml.Atomic → String
  | .text s => s
  | .number n => String.ofList (Nat.toDigits 10 n)

theorem readDigits_eq {ds : List Char} (hds : ∀ c ∈ ds, c.isDigit = true) {n : Nat}
    (h : Nat.ofDigitChars 10 ds n < 0x1_0000_0000_0000_0000) :
    Flags.readDigits n ds = .ok (Nat.ofDigitChars 10 ds n) := by
  induction ds generalizing n with
  | nil => rfl
  | cons c ds ih =>
    obtain ⟨hc, hds⟩ := List.forall_mem_cons.1 hds
    rw [Nat.ofDigitChars_cons] at h ⊢
    -- The digits that follow make a number no smaller.
    have hstep : 10 * n + (c.toNat - 0x30) < 0x1_0000_0000_0000_0000 := by
      have hgrow := @Nat.ofDigitChars_eq_ofDigitChars_zero ds (10 * n + (c.toNat - '0'.toNat))
      have hpow : 1 ≤ 10 ^ ds.length := Nat.one_le_pow _ _ (by decide)
      have hle := Nat.le_mul_of_pos_left (10 * n + (c.toNat - '0'.toNat)) hpow
      have hzero : '0'.toNat = 0x30 := rfl
      omega
    rw [Flags.readDigits, if_pos hc]
    simp only [hstep, if_true]
    exact ih hds h

theorem readNumber_digits {n : Nat} (hn : n < 0x1_0000_0000_0000_0000) :
    Flags.readNumber (Nat.toDigits 10 n) = .ok n := by
  have hdigits : ∀ c ∈ Nat.toDigits 10 n, c.isDigit = true := Json.isDigit_of_mem_toDigits
  have hread : Flags.readDigits 0 (Nat.toDigits 10 n) = .ok n := by
    rw [readDigits_eq hdigits (by rwa [Nat.ofDigitChars_ten_toDigits]),
      Nat.ofDigitChars_ten_toDigits]
  have hplus {s : List Char} (h : Nat.toDigits 10 n = '+' :: s) : False := by
    have := hdigits '+' (by rw [h]; exact List.mem_cons_self)
    revert this
    decide
  unfold Flags.readNumber
  split
  · next h => exact absurd h Nat.toDigits_ne_nil
  · next h => exact (hplus h).elim
  · next h => exact (hplus h).elim
  · exact hread

/-- The command line reads a value without quotes. -/
theorem readValue_plainText (key : Key) (v : key.Value) :
    Flags.readValue key (plainText (key.atomic v)) = .ok (key.json v) := by
  have hnumber (w : UInt64) :
    (Flags.readNumber (String.ofList (Nat.toDigits 10 w.toNat)).toList).map Json.ofNat =
      .ok (.ofNat w.toNat) := by
    rw [String.toList_ofList, readNumber_digits w.toNat_lt]
    rfl
  cases key with
  | logFormat => cases v <;> rfl
  | downloadPolicy => cases v <;> rfl
  | checkSeconds | probeSeconds | downloadSeconds | outputLimit => exact hnumber v
  | _ => rfl

/-- A variable reads a value with its quotes. -/
theorem read_atomic (key : Key) (v : key.Value) :
    Variables.read (String.ofList (key.atomic v).chars) = key.json v := by
  have hnumber (w : UInt64) : Variables.read (String.ofList (Nat.toDigits 10 w.toNat)) =
      .ofNat w.toNat := by
    refine Variables.read_of_integer ?_
    rw [String.toList_ofList]
    exact (integer_of_readNumber (readNumber_digits w.toNat_lt)).1
  have htext (s : String) : Variables.read (String.ofList (Toml.quoted s.toList)) = .str s := by
    rw [Variables.read_quoted, String.ofList_toList]
  cases key with
  | checkSeconds | probeSeconds | downloadSeconds | outputLimit => exact hnumber v
  | _ => exact htext _

/-! ## Rows -/

/-- What an assignment has, setting by setting. -/
def Assignment.rows {β : Type} (a : Assignment) (f : (key : Key) → key.Value → β)
    (keys : List Key) : List β :=
  keys.filterMap fun key => (a key).map (f key)

section

variable {β γ : Type} (a : Assignment) (f : (key : Key) → key.Value → β)

theorem mem_rows {a : Assignment} {f : (key : Key) → key.Value → β} {x : β} {keys : List Key}
    (h : x ∈ a.rows f keys) :
    ∃ key ∈ keys, ∃ v, a key = some v ∧ f key v = x := by
  obtain ⟨key, hkey, hx⟩ := List.mem_filterMap.1 h
  obtain ⟨v, hv, hx⟩ := Option.map_eq_some_iff.1 hx
  exact ⟨key, hkey, v, hv, hx⟩

/-- Rows can be told apart by what tells their settings apart. -/
theorem sublist_rows (g : β → γ) (name : Key → γ) (hname : ∀ key v, g (f key v) = name key)
    (keys : List Key) :
    ((a.rows f keys).map g).Sublist (keys.map name) := by
  induction keys with
  | nil => exact List.Sublist.slnil
  | cons key keys ih =>
    rw [Assignment.rows, List.filterMap_cons, List.map_cons]
    cases a key with
    | none => exact ih.cons _
    | some v =>
      show (g (f key v) :: (a.rows f keys).map g).Sublist _
      rw [hname]
      exact ih.cons_cons _

theorem sublist_names (keys : List Key) :
    ((a.rows (fun key v => (key.name, f key v)) keys).map (·.1)).Sublist (keys.map Key.name) :=
  sublist_rows a (fun key v => (key.name, f key v)) (·.1) Key.name (fun _ _ => rfl) keys

theorem nodup_names : (Key.all.map Key.name).Nodup := by decide +kernel

theorem lookup_rows (key : Key) :
    (a.rows (fun key v => (key.name, f key v)) Key.all).lookup key.name = (a key).map (f key) := by
  have hkeys : ∀ keys : List Key, (a.rows (fun key v => (key.name, f key v)) keys).lookup key.name =
      if key ∈ keys then (a key).map (f key) else none := by
    intro keys
    induction keys with
    | nil => rfl
    | cons k keys ih =>
      rw [Assignment.rows, List.filterMap_cons]
      by_cases hk : k = key
      · subst hk
        cases hv : a k with
        | none =>
          rw [hv, Option.map_none, ite_self] at ih
          simp only [Option.map_none, ite_self]
          exact ih
        | some v =>
          simp
      · have hmem : key ∈ k :: keys ↔ key ∈ keys := List.mem_cons.trans (or_iff_right (Ne.symm hk))
        have hname : (key.name == k.name) = false :=
          beq_eq_false_iff_ne.2 fun h => hk (Key.name_inj h).symm
        simp only [hmem]
        cases a k with
        | none => exact ih
        | some v =>
          simp only [Option.map_some, List.lookup_cons, hname]
          exact ih
  rw [hkeys, if_pos (key_mem_all key)]

end

/-! ## Command lines with settings -/

/-- The word that names a configuration file. -/
def fileWord (path : Bytes) : Bytes := Word.writeLong (bytesOf Flags.fileOption) (some path)

/-- The word that gives a setting. -/
def settingWord (key : Key) (v : key.Value) : Bytes :=
  Word.writeLong (bytesOf (Flags.optionName key)) (some (bytesOf (plainText (key.atomic v))))

/-- The option for a configuration file. -/
def fileGift (path : Bytes) : Gift Flags.Flag := ⟨fileWord path, Flags.fileValued, .file ⟨path⟩⟩

/-- The option for a setting. -/
def settingGift (key : Key) (v : key.Value) : Gift Flags.Flag :=
  ⟨settingWord key v, Flags.option key, .setting key (key.json v)⟩

/-- The options for a configuration file and for the settings of an assignment. -/
def gifts (path : Bytes) (a : Assignment) : List (Gift Flags.Flag) :=
  fileGift path :: a.rows settingGift Key.all

theorem isRead_fileGift (tool : String) {path : Bytes} (hpath : path ≠ []) :
    (fileGift path).IsRead (Flags.grammar tool) := by
  have hword : Word.ofBytes (fileWord path) = .long (bytesOf Flags.fileOption) (some path) :=
    Word.long_ofBytes (by decide +kernel) (by decide +kernel) (some path)
  have hoption : (Flags.grammar tool).option? (bytesOf Flags.fileOption) = some Flags.fileValued :=
    List.find?_cons_of_pos (beq_self_eq_true (bytesOf Flags.fileOption))
  exact ⟨_, _, hword, hoption, if_neg hpath⟩

theorem isRead_settingGift (tool : String) (key : Key) (v : key.Value) :
    (settingGift key v).IsRead (Flags.grammar tool) := by
  have hword : Word.ofBytes (settingWord key v) =
      .long (bytesOf (Flags.optionName key)) (some (bytesOf (plainText (key.atomic v)))) :=
    ofBytes_writeLong key _
  have hread : (Flags.option key).read (bytesOf (plainText (key.atomic v))) =
      .ok (.setting key (key.json v)) :=
    option_read_eq_ok_iff.2 ⟨_, readValue_plainText key v, rfl⟩
  exact ⟨_, _, hword, option?_optionName tool key, hread⟩

theorem isRead_gifts (tool : String) {path : Bytes} (hpath : path ≠ []) (a : Assignment) :
    ∀ x ∈ gifts path a, x.IsRead (Flags.grammar tool) := by
  intro x hx
  rcases List.mem_cons.1 hx with rfl | hx
  · exact isRead_fileGift tool hpath
  · obtain ⟨key, -, v, -, rfl⟩ := mem_rows hx
    exact isRead_settingGift tool key v

/-- The characters of the option for a setting as usage lines show it. -/
def shownChars (key : Key) : List Char :=
  "--".toList ++ withDashes key.name.toList ++ (" ".toList ++ ("<".toList ++
    (key.name.toList.map fun c => if 'a' ≤ c ∧ c ≤ 'z' then Char.ofNat (c.toNat - 32) else c) ++
      ">".toList))

theorem shown_toList (key : Key) : (Flags.option key).shown.toList = shownChars key := by
  simp only [shownChars, Valued.shown, dashed, angled, Flags.option, Flags.optionName,
    Flags.placeholder, String.toList_append, String.toList_map, withDashes, List.append_assoc]

/-- No two options are shown alike. -/
theorem nodup_shown :
    (Flags.fileValued.shown :: Key.all.map fun key => (Flags.option key).shown).Nodup := by
  have hchars : ("--config-path <PATH>".toList :: Key.all.map shownChars).Nodup := by decide +kernel
  refine List.Nodup.of_map String.toList ?_
  rw [List.map_cons, List.map_map]
  have hkeys : Key.all.map (String.toList ∘ fun key => (Flags.option key).shown) =
      Key.all.map shownChars :=
    List.map_congr_left fun key _ => shown_toList key
  have hfile : Flags.fileValued.shown.toList = "--config-path <PATH>".toList := by decide +kernel
  rw [hkeys, hfile]
  exact hchars

/-- The options of an assignment are read. -/
theorem readFlags_gifts (tool : String) {path : Bytes} (hpath : path ≠ []) (a : Assignment) :
    readFlags tool ((gifts path a).map (·.word)) = .ok ((gifts path a).map (·.value)) := by
  have hnodup : ((gifts path a).map (·.option.shown)).Nodup := by
    have hrows : ((a.rows settingGift Key.all).map (·.option.shown)).Sublist
        (Key.all.map fun key => (Flags.option key).shown) :=
      sublist_rows a settingGift _ _ (fun _ _ => rfl) Key.all
    rw [gifts, List.map_cons]
    exact nodup_shown.sublist (hrows.cons_cons _)
  obtain ⟨p, hp, hvalues⟩ :=
    parse_gifts (g := Flags.grammar tool) rfl (isRead_gifts tool hpath a) hnodup
  rw [readFlags, hp]
  exact congrArg Except.ok hvalues

theorem layer_gifts (path : Bytes) (a : Assignment) : Flags.layer ((gifts path a).map (·.value)) =
    a.rows (fun key v => (key.name, key.json v)) Key.all := by
  have hrows : ∀ keys, Flags.layer ((a.rows settingGift keys).map (·.value)) =
      a.rows (fun key v => (key.name, key.json v)) keys := by
    intro keys
    induction keys with
    | nil => rfl
    | cons key keys ih =>
      rw [Assignment.rows, Assignment.rows, List.filterMap_cons, List.filterMap_cons]
      cases a key with
      | none => exact ih
      | some v => exact congrArg ((key.name, key.json v) :: ·) ih
  exact hrows Key.all

/-! ## Variables with settings -/

/-- The variables for the settings of an assignment. -/
def variablesOf (a : Assignment) (keys : List Key) : List Variable :=
  a.rows (fun key v => ⟨variableName key, String.ofList (key.atomic v).chars⟩) keys

theorem Layer.put_of_not_mem {l : Layer} {name : String} (h : name ∉ l.map (·.1)) (v : Json) :
    l.put name v = l ++ [(name, v)] := by
  induction l with
  | nil => rfl
  | cons m l ih =>
    obtain ⟨n, w⟩ := m
    rw [List.map_cons, List.mem_cons, not_or] at h
    rw [Layer.put, if_neg (Ne.symm h.1), ih h.2]
    rfl

/-- Variables hold the values that they are written for. -/
theorem layer_variables (a : Assignment) {keys : List Key} (hkeys : (keys.map Key.name).Nodup) :
    Variables.layer (variablesOf a keys) = a.rows (fun key v => (key.name, key.json v)) keys := by
  induction keys using List.reverseRecOn with
  | nil => rfl
  | append_singleton keys key ih =>
    rw [List.map_append, List.nodup_append] at hkeys
    have hrest := ih hkeys.1
    have hnew : key.name ∉ (a.rows (fun key v => (key.name, key.json v)) keys).map (·.1) := by
      intro hmem
      exact hkeys.2.2 _ ((sublist_names a Key.json keys).subset hmem) _
        (List.mem_singleton.2 rfl) rfl
    rw [variablesOf, Assignment.rows, Assignment.rows, List.filterMap_append, List.filterMap_append]
    cases hv : a key with
    | none =>
      simp only [List.filterMap_cons, hv, Option.map_none, List.filterMap_nil, List.append_nil]
      exact hrest
    | some v =>
      simp only [List.filterMap_cons, hv, Option.map_some, List.filterMap_nil]
      rw [layer_concat]
      simp only [path?_variableName, Variables.nested, read_atomic]
      rw [← Assignment.rows, ← variablesOf, hrest]
      exact Layer.put_of_not_mem hnew _

/-! ## Configuration files with settings -/

/-- The lines of a configuration file for the settings of an assignment. -/
def fileLines (a : Assignment) : List Toml.Entry :=
  a.rows (fun key v => (key.name, key.atomic v)) Key.all

/-- The numbers of an assignment fit into 64 bits with a sign. -/
def Assignment.Fits (a : Assignment) : Prop := ∀ key v, a key = some v → (key.atomic v).Fits

theorem isBare_name (key : Key) : Toml.IsBare key.name := by
  have hkeys : ∀ key ∈ Key.all, Toml.IsBare key.name := by decide +kernel
  exact hkeys key (key_mem_all key)

theorem isNamed_fileLines (a : Assignment) : ∀ e ∈ fileLines a, Toml.IsBare e.1 ∧ e.IsNamed := by
  have hfirst : ∀ key ∈ Key.all, (key.name.toList.head?.map Char.isDigit) = some false := by
    decide +kernel
  intro e he
  obtain ⟨key, hkey, v, -, rfl⟩ := mem_rows he
  refine ⟨isBare_name key, ?_⟩
  obtain ⟨c, hc, hdigit⟩ := Option.map_eq_some_iff.1 (hfirst key hkey)
  obtain ⟨s, hs⟩ := List.head?_eq_some_iff.1 hc
  exact ⟨c, s, hs, hdigit⟩

/-- A file has the values of its lines. -/
theorem holds_fileLines {a : Assignment} (ha : a.Fits) : ∃ members,
    Toml.ofString (String.ofList (Toml.listing (fileLines a))) = .ok members ∧ Holds members a := by
  have hfits : ∀ e ∈ fileLines a, Toml.IsBare e.1 ∧ e.2.Fits := by
    intro e he
    obtain ⟨key, -, v, hv, rfl⟩ := mem_rows he
    exact ⟨isBare_name key, ha key v hv⟩
  have hnodup : ((fileLines a).map (·.1)).Nodup :=
    nodup_names.sublist (sublist_names a _ Key.all)
  obtain ⟨members, hmembers, hlookup⟩ := Toml.ofString_listing hfits hnodup
  refine ⟨members, hmembers, fun key => ?_⟩
  rw [hlookup, fileLines, lookup_rows, Option.map_map]
  exact congrArg (Option.map · (a key)) (funext (json_atomic key))

/-- The name of the configuration file at the root. -/
def settingsName : FileName := bytesOf "clarigate.toml"

/-- The bytes of a configuration file. -/
def settingsBytes (a : Assignment) : Bytes := Utf8.encode (Toml.listing (fileLines a))

/-- A file system with nothing but a configuration file at the root. -/
def settingsFile (a : Assignment) : Files :=
  ⟨[([settingsName], .file (settingsBytes a) .plain)], []⟩

theorem stat_settingsFile (a : Assignment) :
    (settingsFile a).stat ⟨slash :: settingsName⟩ = .ok (.file (settingsBytes a) .plain) := by
  have hnode : (settingsFile a).get? [settingsName] = some (.file (settingsBytes a) .plain) := by
    rw [Files.get?_of_ne_nil _ (List.cons_ne_nil _ _)]
    exact if_pos rfl
  have hwalk : Files.walk (settingsFile a) true Files.linkLimit [] [settingsName] =
      .ok [settingsName] := by
    rw [Files.walk, if_neg (by decide +kernel), if_neg (by decide +kernel),
      if_neg (by decide +kernel), List.nil_append, hnode]
    rfl
  have hlocate : (settingsFile a).locate true ⟨slash :: settingsName⟩ = .ok [settingsName] := by
    have hsteps : Files.steps ⟨slash :: settingsName⟩ = [settingsName] := by decide +kernel
    have hstart : Files.startOf ⟨slash :: settingsName⟩ (settingsFile a).directory = [] := rfl
    unfold Files.locate
    rw [if_neg (List.cons_ne_nil _ _), if_neg (by decide +kernel), if_neg (by decide +kernel)]
    simp only [hstart, hsteps]
    exact (if_pos (Files.hasDirectory_nil _)).trans hwalk
  rw [Files.stat, hlocate]
  simp only [hnode]

/-- The file is read as the listing that it is written as. -/
theorem readRequired_settingsFile (a : Assignment) : ∃ shown,
    Source.readRequired (settingsFile a) ⟨slash :: settingsName⟩ =
      match Toml.ofString (String.ofList (Toml.listing (fileLines a))) with
      | .ok members => .ok ⟨members, none⟩
      | .error reason => .error ⟨shown, reason⟩ := by
  have hisFile : (settingsFile a).isFile ⟨slash :: settingsName⟩ = true := by
    rw [Files.isFile, stat_settingsFile]
  have hread : (settingsFile a).read ⟨slash :: settingsName⟩ = .ok (settingsBytes a) := by
    rw [Files.read, stat_settingsFile]
  rw [Source.readRequired, if_pos hisFile, Source.read]
  simp only [hread, settingsBytes, Utf8.decode?_encode, Toml.refusal?_listing (isNamed_fileLines a)]
  exact ⟨_, rfl⟩

/-- A configuration file has the values that it is written for. -/
theorem content_settingsFile {a : Assignment} (ha : a.Fits) (e : Environment) : ∃ content,
    Source.content (settingsFile a) e (some ⟨slash :: settingsName⟩) = .ok ⟨content, none⟩ ∧
    Holds content a := by
  obtain ⟨members, hmembers, hholds⟩ := holds_fileLines ha
  obtain ⟨shown, hread⟩ := readRequired_settingsFile a
  refine ⟨members, mapError_eq_ok_iff.2 ?_, hholds⟩
  rw [hread, hmembers]

end ClarityCheck.Settings
