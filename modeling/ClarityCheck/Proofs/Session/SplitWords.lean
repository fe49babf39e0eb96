import ClarityCheck.Proofs.Settings.SingleOption
import ClarityCheck.Session

/-!
# The front of a command line

The options for settings stand at the front of a command line, right behind the word that calls the
tool. As many words are split off as read as options with their values. A value stands behind an
equals sign or is the next word, whatever that word looks like, and only where the command line ends
it may be missing.

* `isOption?_eq_some_iff`: the words that are options
* `leading_append`: nothing is lost, doubled or moved
* `reading_leading`, `prefix_leading`: what is split off reads as options, and nothing longer does
* `leading_append_of_stops`: words behind the end of a command line
* `split_longest`: the parts of a command line
-/

namespace ClarityCheck

open CommandLine

/-! ## Words -/

namespace CommandLine.Word

theorem eq_of_cutEquals {bs name : Bytes} {value : Option Bytes}
    (h : cutEquals bs = (name, value)) :
    dash :: dash :: bs = writeLong name value := by
  unfold cutEquals at h
  split at h
  · obtain ⟨rfl, rfl⟩ := Prod.mk.inj h
    rfl
  · next b rest hdrop =>
    obtain ⟨rfl, rfl⟩ := Prod.mk.inj h
    have hhead := List.head?_dropWhile_not (fun b => decide (b ≠ equals)) bs
    rw [hdrop] at hhead
    obtain rfl : b = equals := by simpa using hhead
    rw [writeLong, ← hdrop, List.takeWhile_append_dropWhile]

/-- A word that holds a full name is what writes that name. -/
theorem eq_writeLong {w name : Bytes} {value : Option Bytes} (h : ofBytes w = .long name value) :
    w = writeLong name value := by
  unfold ofBytes at h
  split at h
  · split_ifs at h
    next a b rest ha hb _ =>
    obtain ⟨hname, hvalue⟩ := Word.long.inj h
    rw [ha, hb]
    exact eq_of_cutEquals (Prod.ext hname hvalue)
  · cases h

end CommandLine.Word

/-! ## Options -/

namespace Settings.Flags

/-- The word is one of the options: its name behind two dashes, and its value behind an equals sign
when the word holds it. -/
def Spells (word : Bytes) (value : Option Bytes) : Prop :=
  ∃ name ∈ optionNames, word = Word.writeLong (bytesOf name) value

theorem ofBytes_of_mem {name : String} (h : name ∈ optionNames) (value : Option Bytes) :
    Word.ofBytes (Word.writeLong (bytesOf name) value) = .long (bytesOf name) value := by
  rcases List.mem_cons.1 h with rfl | h
  · exact Word.long_ofBytes (by decide) (by decide) value
  · obtain ⟨key, -, rfl⟩ := List.mem_map.1 h
    exact ofBytes_writeLong key value

/-- The options are recognised, and whether they hold their values. -/
theorem isOption?_eq_some_iff {word : Bytes} {joined : Bool} :
    isOption? word = some joined ↔ ∃ value, Spells word value ∧ value.isSome = joined := by
  constructor
  · intro h
    unfold isOption? at h
    split at h
    · next name value hword =>
      split_ifs at h with hany
      obtain ⟨known, hmem, hname⟩ := List.any_eq_true.1 hany
      refine ⟨value, ⟨known, hmem, ?_⟩, Option.some.inj h⟩
      rw [beq_iff_eq.1 hname]
      exact Word.eq_writeLong hword
    · cases h
  · rintro ⟨value, ⟨name, hname, rfl⟩, rfl⟩
    have hany : (optionNames.any fun known => bytesOf known == bytesOf name) = true :=
      List.any_eq_true.2 ⟨name, hname, beq_self_eq_true _⟩
    rw [isOption?, ofBytes_of_mem hname]
    exact if_pos hany

theorem isOption?_joined {word value : Bytes} (h : Spells word (some value)) :
    isOption? word = some true :=
  isOption?_eq_some_iff.2 ⟨some value, h, rfl⟩

theorem isOption?_apart {word : Bytes} (h : Spells word none) : isOption? word = some false :=
  isOption?_eq_some_iff.2 ⟨none, h, rfl⟩

theorem not_spells {word : Bytes} (h : isOption? word = none) (value : Option Bytes) :
    ¬Spells word value := by
  intro hs
  have := isOption?_eq_some_iff.2 ⟨value, hs, rfl⟩
  rw [h] at this
  cases this

/-! ## What is split off -/

/-- Cuts the options off the front of words. An option that does not hold its value takes the next
word, whatever it is. -/
def leading : List Bytes → List Bytes × List Bytes
  | [] => ([], [])
  | word :: rest =>
    match isOption? word, rest with
    | none, rest => ([], word :: rest)
    | some true, rest => (word :: (leading rest).1, (leading rest).2)
    | some false, [] => ([word], [])
    | some false, value :: rest => (word :: value :: (leading rest).1, (leading rest).2)

/-- Nothing is lost, doubled or moved. -/
theorem leading_append (words : List Bytes) : (leading words).1 ++ (leading words).2 = words := by
  fun_induction leading words with
  | case1 => rfl
  | case2 => rfl
  | case3 word rest _ ih => simp [ih]
  | case4 => rfl
  | case5 word value rest _ ih => simp [ih]

/-- The first words read as options with their values when the second ones follow. The last option
may lack its value where nothing follows. -/
inductive Reading : List Bytes → List Bytes → Prop
  | done (rest : List Bytes) : Reading [] rest
  | joined {word value : Bytes} {front rest : List Bytes} (h : Spells word (some value))
    (hs : Reading front rest) : Reading (word :: front) rest
  | apart {word : Bytes} (value : Bytes) {front rest : List Bytes} (h : Spells word none)
    (hs : Reading front rest) : Reading (word :: value :: front) rest
  | lacking {word : Bytes} (h : Spells word none) : Reading [word] []

/-- Of all the fronts of these words that read as options with their values, this is the longest. -/
structure IsLongestReading (words front : List Bytes) : Prop where
  reads : ∃ rest, words = front ++ rest ∧ Reading front rest
  longest : ∀ front' rest, words = front' ++ rest → Reading front' rest → front' <+: front

section

variable {word : Bytes}

theorem leading_of_none (h : isOption? word = none) (rest : List Bytes) :
    leading (word :: rest) = ([], word :: rest) := by
  simp only [leading, h]

theorem leading_joined (h : isOption? word = some true) (rest : List Bytes) :
    leading (word :: rest) = (word :: (leading rest).1, (leading rest).2) := by
  simp only [leading, h]

theorem leading_apart (h : isOption? word = some false) (value : Bytes) (rest : List Bytes) :
    leading (word :: value :: rest) = (word :: value :: (leading rest).1, (leading rest).2) := by
  simp only [leading, h]

theorem leading_lacking (h : isOption? word = some false) : leading [word] = ([word], []) := by
  simp only [leading, h]

end

/-- What is split off reads as options with their values. -/
theorem reading_leading (words : List Bytes) : Reading (leading words).1 (leading words).2 := by
  fun_induction leading words with
  | case1 => exact .done []
  | case2 word rest => exact .done (word :: rest)
  | case3 word rest h ih =>
    obtain ⟨value, hs, hvalue⟩ := isOption?_eq_some_iff.1 h
    obtain ⟨v, rfl⟩ := Option.isSome_iff_exists.1 hvalue
    exact .joined hs ih
  | case4 word h =>
    obtain ⟨value, hs, hvalue⟩ := isOption?_eq_some_iff.1 h
    obtain rfl : value = none := by simpa using hvalue
    exact .lacking hs
  | case5 word value rest h ih =>
    obtain ⟨value', hs, hvalue⟩ := isOption?_eq_some_iff.1 h
    obtain rfl : value' = none := by simpa using hvalue
    exact .apart value hs ih

/-- Whatever reads as options with their values is split off. -/
theorem prefix_leading {front rest : List Bytes} (h : Reading front rest) :
    front <+: (leading (front ++ rest)).1 := by
  induction h with
  | done rest => exact List.nil_prefix
  | @joined word value front rest h _ ih =>
    rw [List.cons_append, leading_joined (isOption?_joined h)]
    exact List.cons_prefix_cons.2 ⟨rfl, ih⟩
  | @apart word value front rest h _ ih =>
    rw [List.cons_append, List.cons_append, leading_apart (isOption?_apart h)]
    exact List.cons_prefix_cons.2 ⟨rfl, List.cons_prefix_cons.2 ⟨rfl, ih⟩⟩
  | lacking h =>
    rw [List.append_nil, leading_lacking (isOption?_apart h)]

theorem isLongestReading_leading (words : List Bytes) :
    IsLongestReading words (leading words).1 where
  reads := ⟨_, (leading_append words).symm, reading_leading words⟩
  longest := by
    rintro front rest rfl hreading
    exact prefix_leading hreading

/-- The first word that is left is no option. -/
theorem head?_leading (words : List Bytes) :
    ∀ word ∈ (leading words).2.head?, isOption? word = none := by
  fun_induction leading words with
  | case1 => simp
  | case2 word rest h => simpa using h
  | case3 word rest h ih => exact ih
  | case4 => simp
  | case5 word value rest h ih => exact ih

/-- When something is left, words behind it are left with it. -/
theorem leading_append_of_stops {words : List Bytes} (h : (leading words).2 ≠ [])
    (more : List Bytes) :
    leading (words ++ more) = ((leading words).1, (leading words).2 ++ more) := by
  fun_induction leading words with
  | case1 => exact absurd rfl h
  | case2 word rest hword => rw [List.cons_append, leading_of_none hword]
  | case3 word rest hword ih => rw [List.cons_append, leading_joined hword, ih h]
  | case4 => exact absurd rfl h
  | case5 word value rest hword ih =>
    rw [List.cons_append, List.cons_append, leading_apart hword, ih h]

end Settings.Flags

/-! ## The parts of a command line -/

namespace Session

open Settings.Flags

/-- The cut is moved behind the options that the words begin with. -/
theorem advance_eq (p : Parts) (words : List Bytes) : p.advance false words =
    ⟨p.settings ++ (leading words).1, p.start + (leading words).1.length⟩ := by
  fun_induction leading words generalizing p with
  | case1 => simp [Parts.advance]
  | case2 word rest h => simp [Parts.advance, h]
  | case3 word rest h ih => simp [Parts.advance, Parts.push, h, ih, Nat.add_assoc, Nat.add_comm 1]
  | case4 word h => simp [Parts.advance, Parts.push, h]
  | case5 word value rest h ih =>
    simp [Parts.advance, Parts.push, h, ih, Nat.add_assoc]
    omega

theorem split_cons (tool : Bytes) (words : List Bytes) :
    split (tool :: words) = ⟨tool :: (leading words).1, (leading words).1.length + 1⟩ := by
  rw [split, advance_eq, Nat.add_comm]
  rfl

theorem start_cons (tool : Bytes) (words : List Bytes) :
    (split (tool :: words)).start = (leading words).1.length + 1 := by
  rw [split_cons]

/-- The words in front of the cut are those that are split off. -/
theorem take_start (tool : Bytes) (words : List Bytes) :
    (tool :: words).take (split (tool :: words)).start = tool :: (leading words).1 := by
  rw [start_cons, List.take_succ_cons]
  exact congrArg (tool :: ·)
    ((congrArg (List.take _) (leading_append words)).symm.trans List.take_left)

/-- The words behind the cut are those that are left. -/
theorem drop_start (tool : Bytes) (words : List Bytes) :
    (tool :: words).drop (split (tool :: words)).start = (leading words).2 := by
  rw [start_cons, List.drop_succ_cons]
  exact (congrArg (List.drop _) (leading_append words)).symm.trans List.drop_left

/-- Each word of a command line is in one part, in its order, but for the one that calls the tool,
which is in front of both. The options for settings are as many words as read as such. Where a
command follows them, its first word is no such option, and more words behind it leave the parts
where they are cut. -/
theorem split_longest (words : List Bytes) :
    (split words).start ≤ words.length ∧
      (split words).settings = words.take (split words).start ∧
      commandWords words = words.take 1 ++ words.drop (split words).start ∧
      (∃ front, (split words).settings = words.take 1 ++ front ∧
        IsLongestReading words.tail front) ∧
      ((split words).start < words.length →
        (∃ word rest, words.drop (split words).start = word :: rest ∧ ∀ value, ¬Spells word value) ∧
          ∀ more, (split (words ++ more)).start = (split words).start) := by
  cases words with
  | nil =>
    have hlongest := isLongestReading_leading []
    exact ⟨Nat.le_refl 0, rfl, rfl, ⟨[], rfl, hlongest⟩, fun h => absurd h (Nat.lt_irrefl 0)⟩
  | cons tool words =>
    refine ⟨?_, ?_, rfl, ⟨(leading words).1, ?_, isLongestReading_leading words⟩, fun hlt => ?_⟩
    · have hlength := congrArg List.length (leading_append words)
      rw [List.length_append] at hlength
      rw [start_cons, List.length_cons]
      omega
    · rw [take_start, split_cons]
    · rw [split_cons]
      rfl
    · have hne : (leading words).2 ≠ [] := by
        rw [← drop_start tool]
        exact fun h => absurd (List.drop_eq_nil_iff.1 h) (Nat.not_le_of_lt hlt)
      rw [drop_start]
      obtain ⟨word, rest, hrest⟩ := List.exists_cons_of_ne_nil hne
      have hhead : word ∈ (leading words).2.head? := by
        rw [hrest]
        rfl
      refine ⟨⟨word, rest, hrest, not_spells (head?_leading words word hhead)⟩, fun more => ?_⟩
      rw [List.cons_append, start_cons, leading_append_of_stops hne, start_cons]

/-- The word behind an option is its value, whatever it looks like. -/
example : commandWords (["tool", "--cache-dir", "--log-filter", "lint"].map bytesOf) =
    ["tool", "lint"].map bytesOf := by decide +kernel

end Session

end ClarityCheck
