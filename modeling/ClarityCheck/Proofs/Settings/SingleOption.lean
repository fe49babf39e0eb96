import ClarityCheck.Proofs.Text.Utf8Roundtrip
import ClarityCheck.Settings.Load

/-!
# One option on a command line

A command line with one option gives the setting of that option if the value is readable, and
otherwise it is refused. The value stands in the word of the option or in the next one; a word with
a dash in front is not taken as a value.

* `parse_apart`, `parse_joined`: a grammar reads one option
* `parse_apart_of_not_plain`: an option without a value
* `readFlags_words_iff`: the flags of such a command line
-/

namespace ClarityCheck.Settings

open CommandLine Text

variable {key k : Key} {text : String}

/-! ## Spellings -/

/-- How an option gets its value. -/
inductive Spelling where
  /-- It is the next word. -/
  | apart
  /-- It stands in the same word, behind an equals sign. -/
  | joined

namespace Spelling

/-- The words that give a setting on a command line. -/
def words (how : Spelling) (key : Key) (text : String) : List Bytes :=
  match how with
  | .apart => [Word.writeLong (bytesOf (Flags.optionName key)) none, bytesOf text]
  | .joined => [Word.writeLong (bytesOf (Flags.optionName key)) (some (bytesOf text))]

/-- The text can be given like this: a word with a dash in front is no value of the option before
it. -/
def Fits (how : Spelling) (text : String) : Prop :=
  match how with
  | .apart => Word.ofBytes (bytesOf text) = .plain
  | .joined => True

end Spelling

/-- A name with dashes in the place of underscores. -/
def withDashes (name : List Char) : List Char := name.map fun c => if c = '_' then '-' else c

theorem bytesOf_optionName (key : Key) :
    bytesOf (Flags.optionName key) = Utf8.encode (withDashes key.name.toList) := by
  rw [bytesOf, Flags.optionName, String.toList_map, withDashes]

theorem key_mem_all (key : Key) : key ∈ Key.all := by cases key <;> decide

theorem withDashes_names : ∀ key ∈ Key.all, withDashes key.name.toList ≠ [] ∧
    equals ∉ Utf8.encode (withDashes key.name.toList) ∧
    withDashes key.name.toList ≠ Flags.fileOption.toList ∧
    ∀ k ∈ Key.all, withDashes k.name.toList = withDashes key.name.toList → k = key := by
      decide +kernel

theorem find?_key {p : Key → Bool} (h : p key = true) (hp : ∀ k ∈ Key.all, p k = true → k = key) :
    Key.all.find? p = some key := by
  cases hk : Key.all.find? p with
  | none => exact absurd h (List.find?_eq_none.mp hk key (key_mem_all key))
  | some k => rw [hp k (List.mem_of_find?_eq_some hk) (List.find?_some hk)]

theorem option?_optionName (tool : String) (key : Key) :
    (Flags.grammar tool).option? (bytesOf (Flags.optionName key)) = some (Flags.option key) := by
  obtain ⟨-, -, hfile, hinj⟩ := withDashes_names key (key_mem_all key)
  have hkey :
    Key.all.find? (fun k => bytesOf (Flags.optionName k) == bytesOf (Flags.optionName key)) =
      some key := by
    refine find?_key (by simp) fun k hk h => hinj k hk (Utf8.encode_injective ?_)
    rw [← bytesOf_optionName, ← bytesOf_optionName]
    simpa using h
  rw [Grammar.option?, Flags.grammar, List.find?_cons_of_neg, List.find?_map]
  · exact congrArg (Option.map Flags.option) hkey
  · rw [bytesOf_optionName, beq_iff_eq]
    exact fun h => hfile (Utf8.encode_injective h).symm

theorem ofBytes_writeLong (key : Key) (value : Option Bytes) :
    Word.ofBytes (Word.writeLong (bytesOf (Flags.optionName key)) value) =
      .long (bytesOf (Flags.optionName key)) value := by
  obtain ⟨hne, hequals, -, -⟩ := withDashes_names key (key_mem_all key)
  rw [bytesOf_optionName]
  refine Word.long_ofBytes (fun h => hne (Utf8.encode_injective ?_)) hequals value
  rw [h]
  rfl

/-- A value is read as what it stands for. -/
theorem option_read_eq_ok_iff {flag : Flags.Flag} :
    (Flags.option key).read (bytesOf text) = .ok flag ↔
    ∃ v, Flags.readValue key text = .ok v ∧ flag = .setting key v := by
  have htext : readText (bytesOf text) = .ok text := by
    rw [readText, text?, bytesOf, Utf8.decode?_encode]
    simp
  simp only [Flags.option, htext]
  cases Flags.readValue key text with
  | error => simp
  | ok v => simp [eq_comm]

section

variable {α ω : Type} {g : Grammar α ω} {o : Valued α} {name : Bytes}

theorem command?_eq_none (h : g.commands = []) (w : Bytes) : g.command? w = none := by
  rw [Grammar.command?, h]
  rfl

/-- What reading an option comes to that is all there is. -/
def readOne (g : Grammar α ω) (o : Valued α) (value : Bytes) : Except Stop (Progress α ω) :=
  match o.read value with
  | .ok a => .ok { given := [o.shown], values := [a] }
  | .error e => .error (.refused (Progress.valueRefusal g o.shown o.possible value e))

theorem parse_joined {value : Bytes} (hcommands : g.commands = []) (ho : g.option? name = some o)
    {w : Bytes} (hw : Word.ofBytes w = .long name (some value)) :
    g.parse [w] = readOne g o value := by
  simp only [Grammar.parse, scan, Progress.word, command?_eq_none hcommands, hw, ho, readOne]
  cases h : o.read value with
  | ok a => simp [Progress.option, Progress.settled, Progress.settle, Progress.takeOption, h]
  | error e => simp [Progress.option, Progress.settled, Progress.settle, Progress.takeOption, h]

theorem parse_apart {value : Bytes} (hcommands : g.commands = []) (ho : g.option? name = some o)
    {w : Bytes} (hw : Word.ofBytes w = .long name none) (hvalue : Word.ofBytes value = .plain) :
    g.parse [w, value] = readOne g o value := by
  simp only [Grammar.parse, scan, Progress.word, command?_eq_none hcommands, hw, ho, hvalue,
    readOne]
  cases h : o.read value with
  | ok a =>
    simp [Progress.option, Progress.settled, Progress.settle, Progress.takeOption,
      Progress.plain, h]
  | error e =>
    simp [Progress.option, Progress.settled, Progress.settle, Progress.takeOption,
      Progress.plain, h]

/-- An option lacks its value. -/
def Lacks (p : Progress α ω) : Prop := ∃ o, p.pending = some (.option o none)

theorem settled_of_lacks {p : Progress α ω} (h : Lacks p) : ∃ stop, p.settled g = .error stop := by
  obtain ⟨o, ho⟩ := h
  rw [Progress.settled, Progress.settle, ho]
  exact ⟨_, rfl⟩

theorem option_of_lacks {p : Progress α ω} (h : Lacks p) (value : Option Bytes) :
    ∃ stop, p.option g o value = .error stop := by
  obtain ⟨stop, hstop⟩ := settled_of_lacks (g := g) h
  rw [Progress.option, hstop]
  exact ⟨_, rfl⟩

/-- Only a plain word ends the lack of a value without an error. -/
theorem lacks_of_word {p p' : Progress α ω} {w : Bytes} {rest : List Bytes} (h : Lacks p)
    (hw : Word.ofBytes w ≠ .plain) (hp : p.word g w rest = .ok p') : Lacks p' := by
  have hoption {o : Valued α} {value : Option Bytes} : p.option g o value ≠ .ok p' := fun hok => by
    obtain ⟨stop, hstop⟩ := option_of_lacks (g := g) (o := o) h value
    rw [hstop] at hok
    cases hok
  unfold Progress.word at hp
  split at hp
  -- The end of the options goes by unnoticed; letters and full names begin an option or stop.
  · cases hp
    exact h
  · unfold Progress.letters at hp
    split at hp
    · split at hp
      · exact absurd hp hoption
      · split at hp <;> cases hp
    · cases hp
  · next hplain => exact absurd hplain hw
  · split at hp
    · exact absurd hp hoption
    · cases hp
    · split at hp <;> cases hp

/-- An option takes no word with a dash in front as its value. -/
theorem parse_apart_of_not_plain {w value : Bytes} (hcommands : g.commands = [])
    (ho : g.option? name = some o) (hw : Word.ofBytes w = .long name none)
    (hvalue : Word.ofBytes value ≠ .plain) : ∃ stop, g.parse [w, value] = .error stop := by
  have hfirst : Progress.word g {} w [value] =
      .ok { pending := some (.option o none), awaiting := true } := by
    simp only [Progress.word, hw, ho]
    rfl
  simp only [Grammar.parse, scan, command?_eq_none hcommands, hfirst]
  cases hsecond : Progress.word g { pending := some (.option o none), awaiting := true }
      value [] with
  | error stop => simp [hsecond]
  | ok p =>
    obtain ⟨stop, hstop⟩ := settled_of_lacks (g := g) (lacks_of_word ⟨o, rfl⟩ hvalue hsecond)
    simp [hsecond, hstop]

end

/-- What an option gives. -/
theorem readFlags_words_iff {tool : String} {how : Spelling} {flags : List Flags.Flag} :
    readFlags tool (how.words key text) = .ok flags ↔
      how.Fits text ∧ ∃ v, Flags.readValue key text = .ok v ∧ flags = [.setting key v] := by
  have hone : readFlags tool (how.words key text) = .ok flags ↔
      ∃ p, (Flags.grammar tool).parse (how.words key text) = .ok p ∧ p.values = flags := by
    rw [readFlags]
    split
    · next p hp => simp [hp]
    · next r hp => simp [hp]
    · next hp => simp [hp]
  have hread : (∃ p, readOne (Flags.grammar tool) (Flags.option key) (bytesOf text) = .ok p ∧
      p.values = flags) ↔ ∃ v, Flags.readValue key text = .ok v ∧ flags = [.setting key v] := by
    unfold readOne
    cases h : (Flags.option key).read (bytesOf text) with
    | error e =>
      refine iff_of_false (fun ⟨_, hp, _⟩ => by cases hp) fun ⟨v, hv, _⟩ => ?_
      rw [option_read_eq_ok_iff.mpr ⟨v, hv, rfl⟩] at h
      cases h
    | ok flag =>
      obtain ⟨v, hv, rfl⟩ := option_read_eq_ok_iff.mp h
      simp [hv, eq_comm]
  rw [hone]
  cases how with
  | joined =>
    rw [Spelling.words, parse_joined rfl (option?_optionName tool key) (ofBytes_writeLong key _),
      hread]
    simp [Spelling.Fits]
  | apart =>
    by_cases hplain : Word.ofBytes (bytesOf text) = .plain
    · rw [Spelling.words,
        parse_apart rfl (option?_optionName tool key) (ofBytes_writeLong key _) hplain, hread]
      simp [Spelling.Fits, hplain]
    · obtain ⟨stop, hstop⟩ := parse_apart_of_not_plain (g := Flags.grammar tool) rfl
        (option?_optionName tool key) (ofBytes_writeLong key _) hplain
      simp [Spelling.words, hstop, Spelling.Fits, hplain]

end ClarityCheck.Settings
