import ClarityCheck.Files.Walk
import Mathlib.Data.List.Basic

/-!
# Names along paths

A joined path has the names of its two parts, one after the other, so a name that is put behind a
path is the last step of the walk along it.

* `names_join`: the names along a joined path
* `steps_child`: the walk along a path with a name behind it
* `isCut_splitBytes`: the pieces between the separators of a text
* `isAbsolute_absolute`: a path that is seen from an absolute one becomes absolute
-/

namespace ClarityCheck

/-- What the name of a directory entry looks like. -/
structure IsEntryName (name : FileName) : Prop where
  ne_nil : name ≠ []
  ne_dot : name ≠ Path.dot
  ne_dotDot : name ≠ Path.dotDot
  slash_not_mem : slash ∉ name

namespace Text.Utf8

/-- A byte below 128 stands in no character but its own. -/
theorem toNat_of_mem_encodeChar {c : Char} {b : UInt8} (hb : b.toNat < 128) (h : b ∈ encodeChar c) :
    c.toNat = b.toNat := by
  unfold encodeChar String.utf8EncodeChar at h
  simp only at h
  split at h
  · simp only [List.mem_singleton] at h
    subst h
    simp only [UInt8.toNat_ofNat', Char.toNat]
    omega
  · -- All bytes of a longer character have their highest bit set.
    exfalso
    revert hb
    split at h
    · simp only [List.mem_cons, List.not_mem_nil, or_false] at h
      rcases h with rfl | rfl <;> simp only [UInt8.toNat_ofNat'] <;> omega
    · split at h
      · simp only [List.mem_cons, List.not_mem_nil, or_false] at h
        rcases h with rfl | rfl | rfl <;> simp only [UInt8.toNat_ofNat'] <;> omega
      · simp only [List.mem_cons, List.not_mem_nil, or_false] at h
        rcases h with rfl | rfl | rfl | rfl <;> simp only [UInt8.toNat_ofNat'] <;> omega

theorem slash_not_mem_encode {s : List Char} (h : '/' ∉ s) : slash ∉ encode s := by
  intro hm
  obtain ⟨c, hc, hb⟩ := List.mem_flatMap.mp hm
  have : c = '/' := Char.toNat_inj.mp (toNat_of_mem_encodeChar (by decide) hb)
  exact h (this ▸ hc)

theorem length_le_length_encode (s : List Char) : s.length ≤ (encode s).length := by
  induction s with
  | nil => simp
  | cons c s ih =>
    have := Char.utf8Size_pos c
    simp only [encode, List.flatMap_cons, List.length_append, List.length_cons] at *
    simp only [encodeChar, String.length_utf8EncodeChar] at *
    omega

end Text.Utf8

/-- A text without slashes that is longer than two dots names an entry. -/
theorem isEntryName_encode {s : List Char} (hs : '/' ∉ s) (hl : 2 < s.length) :
    IsEntryName (Text.Utf8.encode s) := by
  have hle := Text.Utf8.length_le_length_encode s
  refine ⟨?_, ?_, ?_, Text.Utf8.slash_not_mem_encode hs⟩
  all_goals
    intro h
    have := congrArg List.length h
    simp only [Path.dot, Path.dotDot, List.length_cons, List.length_nil] at this
    omega

namespace Path

variable {name : FileName} {p q : Path}

/-! ## Pieces -/

theorem splitBytes_cons (sep c : UInt8) (s : Bytes) :
    splitBytes sep (c :: s) =
      if c = sep then [] :: splitBytes sep s
      else match splitBytes sep s with
        | [] => [[c]]
        | p :: ps => (c :: p) :: ps := rfl

theorem splitBytes_ne_nil (sep : UInt8) (s : Bytes) : splitBytes sep s ≠ [] := by
  cases s with
  | nil => simp [splitBytes]
  | cons c s =>
    rw [splitBytes_cons]
    split
    · simp
    · split <;> simp

theorem splitBytes_append (sep : UInt8) (a b : Bytes) :
    splitBytes sep (a ++ sep :: b) = splitBytes sep a ++ splitBytes sep b := by
  induction a with
  | nil => simp [splitBytes]
  | cons c a ih =>
    rw [List.cons_append, splitBytes_cons, splitBytes_cons, ih]
    by_cases hc : c = sep
    · simp [hc]
    · cases hs : splitBytes sep a with
      | nil => exact absurd hs (splitBytes_ne_nil sep a)
      | cons p ps => simp [hc]

theorem splitBytes_of_not_mem {sep : UInt8} {s : Bytes} (h : sep ∉ s) : splitBytes sep s = [s] := by
  induction s with
  | nil => rfl
  | cons c s ih =>
    simp only [List.mem_cons, not_or] at h
    rw [splitBytes_cons, ih h.2, if_neg (Ne.symm h.1)]

/-- The pieces of bytes: they give the bytes with separators between them, and hold none themselves.
-/
structure IsCut (sep : UInt8) (s : Bytes) (pieces : List Bytes) : Prop where
  joined : [sep].intercalate pieces = s
  within : ∀ p ∈ pieces, sep ∉ p

theorem isCut_splitBytes (sep : UInt8) (s : Bytes) : IsCut sep s (splitBytes sep s) := by
  induction s with
  | nil => exact ⟨rfl, by simp [splitBytes]⟩
  | cons c s ih =>
    rw [splitBytes_cons]
    cases hs : splitBytes sep s with
    | nil => exact absurd hs (splitBytes_ne_nil sep s)
    | cons p ps =>
      rw [hs] at ih
      split
      · next hc => exact ⟨by simp [← ih.joined, hc], by simpa using ih.within⟩
      · next hc =>
        constructor
        · cases ps <;> simp [← ih.joined]
        · simpa [Ne.symm hc] using ih.within

/-! ## Names -/

theorem names_append (a b : Bytes) : names ⟨a ++ slash :: b⟩ = names ⟨a⟩ ++ names ⟨b⟩ := by
  simp [names, splitSlashes, splitBytes_append]

/-- A separator behind a path is none of its names. -/
theorem names_withSeparator (p : Path) : names ⟨withSeparator p.bytes⟩ = p.names := by
  unfold withSeparator
  split
  · rfl
  · split
    · rfl
    · simpa [names, splitSlashes, splitBytes] using names_append p.bytes []

theorem withSeparator_eq (bs : Bytes) (h : bs ≠ []) : ∃ a, withSeparator bs = a ++ [slash] := by
  unfold withSeparator
  split
  · next hl => exact absurd (List.getLast?_eq_none_iff.mp hl) h
  · next b hl =>
    split
    · next hb =>
      subst hb
      exact List.getLast?_eq_some_iff.mp hl
    · exact ⟨bs, rfl⟩

theorem prefix_withSeparator (bs : Bytes) : bs <+: withSeparator bs := by
  unfold withSeparator
  split
  · exact List.prefix_refl bs
  · split
    · exact List.prefix_refl bs
    · exact List.prefix_append bs [slash]

/-- The names along a joined path are those along its two parts. -/
theorem names_join (p : Path) (hq : q.isAbsolute = false) :
    (p.join q).names = p.names ++ q.names := by
  rw [join, if_neg (by simp [hq]), ← names_withSeparator p]
  by_cases hp : p.bytes = []
  · simp [hp, withSeparator, names, splitSlashes, splitBytes]
  · obtain ⟨a, ha⟩ := withSeparator_eq p.bytes hp
    rw [ha, List.append_assoc, List.singleton_append, names_append, names_append]
    simp [names, splitSlashes, splitBytes]

theorem isAbsolute_entry (hn : IsEntryName name) : isAbsolute ⟨name⟩ = false := by
  cases name with
  | nil => rfl
  | cons b bs =>
    have : b ≠ slash := by
      rintro rfl
      exact hn.slash_not_mem (by simp)
    simp [isAbsolute, this]

theorem names_entry (hn : IsEntryName name) : names ⟨name⟩ = [name] := by
  rw [names, splitSlashes, splitBytes_of_not_mem hn.slash_not_mem]
  simp [hn.ne_nil, hn.ne_dot]

theorem names_child (p : Path) (hn : IsEntryName name) :
    (p.child name).names = p.names ++ [name] := by
  rw [child, names_join p (isAbsolute_entry hn), names_entry hn]

theorem child_bytes (p : Path) (hn : IsEntryName name) :
    (p.child name).bytes = withSeparator p.bytes ++ name := by
  rw [child, join, if_neg (by simp [isAbsolute_entry hn])]

theorem isAbsolute_child (hn : IsEntryName name) : (p.child name).isAbsolute = p.isAbsolute := by
  rw [isAbsolute, child_bytes p hn]
  by_cases hp : p.bytes = []
  · have := isAbsolute_entry hn
    rw [isAbsolute] at this
    simp [hp, withSeparator, isAbsolute, this]
  · obtain ⟨b, bs, hb⟩ := List.exists_cons_of_ne_nil hp
    rw [isAbsolute, hb, withSeparator]
    cases (b :: bs).getLast? with
    | none => rfl
    | some c => by_cases hc : c = slash <;> simp [hc]

theorem withoutSlashes_eq_self {a : Bytes} {b : UInt8} (h : p.bytes = a ++ [b]) (hb : b ≠ slash) :
    p.withoutSlashes = p := by
  cases p
  subst h
  simp [withoutSlashes, hb]

/-- A path with a name behind it ends in the name and not in a slash. -/
theorem withoutSlashes_child (p : Path) (hn : IsEntryName name) :
    (p.child name).withoutSlashes = p.child name := by
  have hend : (p.child name).bytes =
      (withSeparator p.bytes ++ name.dropLast) ++ [name.getLast hn.ne_nil] := by
    rw [child_bytes p hn, List.append_assoc, List.dropLast_concat_getLast]
  refine withoutSlashes_eq_self hend fun h => ?_
  exact hn.slash_not_mem (h ▸ List.getLast_mem hn.ne_nil)

/-! ## Absolute paths -/

theorem isAbsolute_foldl_child (names : List FileName) (hp : p.isAbsolute = true) :
    (names.foldl child p).isAbsolute = true := by
  induction names generalizing p with
  | nil => exact hp
  | cons name names ih => exact ih (isAbsolute_join hp)

theorem isAbsolute_withSeparator (hp : p.isAbsolute = true) :
    isAbsolute ⟨withSeparator p.bytes⟩ = true := by
  unfold withSeparator
  split
  · exact hp
  · split
    · exact hp
    · cases h : p.bytes with
      | nil => simp [isAbsolute, h] at hp
      | cons b bs => simpa [isAbsolute, h] using hp

/-- A path that is seen from an absolute one becomes absolute. -/
theorem isAbsolute_absolute (p : Path) {directory : Path} (hd : directory.isAbsolute = true) :
    (p.absolute directory).isAbsolute = true := by
  have hstart : ∀ start : Path, start.isAbsolute = true →
      (if p.bytes.getLast? = some slash then
        (⟨withSeparator (p.names.foldl child start).bytes⟩ : Path)
      else p.names.foldl child start).isAbsolute = true := by
    intro start hs
    have := isAbsolute_foldl_child p.names hs
    split
    · exact isAbsolute_withSeparator this
    · exact this
  unfold absolute
  refine hstart _ ?_
  split
  · split
    · split <;> rfl
    · rfl
  · exact hd

end Path

namespace Files

/-- The absolute path of a location is absolute. -/
theorem isAbsolute_pathOf (l : Location) : (pathOf l).isAbsolute = true := by
  cases l <;> rfl

theorem steps_child (p : Path) {name : FileName} (hn : IsEntryName name) :
    steps (p.child name) = p.names ++ [name] := by
  have hlast : (Path.splitSlashes (p.child name).bytes).getLast? = some name := by
    rw [Path.child_bytes p hn]
    by_cases hp : p.bytes = []
    · simp [hp, Path.withSeparator, Path.splitSlashes, Path.splitBytes_of_not_mem hn.slash_not_mem]
    · obtain ⟨a, ha⟩ := Path.withSeparator_eq p.bytes hp
      rw [ha, List.append_assoc, List.singleton_append, Path.splitSlashes, Path.splitBytes_append,
        Path.splitBytes_of_not_mem hn.slash_not_mem]
      simp
  rw [steps, hlast]
  simp [Path.names_child p hn, hn.ne_nil, hn.ne_dot]

end Files

end ClarityCheck
