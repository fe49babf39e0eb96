import ClarityCheck.Files.Change
import ClarityCheck.Proofs.Files.PathNames

/-!
# Walks through a file system

`advance` is the part of a walk that lies before its last name: it passes directories only, and
keeps count of the links that may still be followed. `walk_append` cuts a walk in two there, which
makes the location of an entry (`locate_child`) the directory that the path before it leads to, and
its name.

* `locate_grows`: a path still leads where it did when files change only where nothing stood
* `get?_of_locate_removed`: a path leads to nothing after the removal of the tree where it led
* `locate_of_isAbsolute`: an absolute path leads to the same place from every directory
-/

namespace ClarityCheck.Files

variable {files files' : Files} {l m : Location} {name : FileName} {p : Path}

/-! ## The way to a directory -/

/-- Walks along names that all have to lead to directories. The answer holds the number of links
that may still be followed. -/
def advance (files : Files) (links : Nat) (l : Location) :
    List FileName → Except SystemError (Nat × Location)
  | [] => .ok (links, l)
  | name :: rest =>
    if name = Path.dot then advance files links l rest
    else if name = Path.dotDot then advance files links l.dropLast rest
    else if nameLimit < name.length then .error .nameTooLong
    else
      match files.get? (l ++ [name]) with
      | none => .error .notFound
      | some .directory => advance files links (l ++ [name]) rest
      | some (.link target) =>
        match links with
        | 0 => .error .linkLoop
        | links + 1 =>
          if target.bytes = [] then .error .notFound
          else advance files links (startOf target l) (steps target ++ rest)
      | some (.file ..) | some (.device _) => .error .notDirectory
termination_by names => (links, names.length)

/-- A walk goes along its first names to a directory and on from there. -/
theorem walk_append (follow : Bool) {names : List FileName} (hn : names ≠ []) (links : Nat)
    (l : Location) (before : List FileName) :
    walk files follow links l (before ++ names) =
      match advance files links l before with
      | .ok (links, l) => walk files follow links l names
      | .error e => .error e := by
  have hne (rest : List FileName) : rest ++ names ≠ [] := by simp [hn]
  fun_induction advance files links l before with
  | case1 => simp
  | case9 _ _ _ _ _ _ _ _ _ _ ih =>
    rw [List.append_assoc] at ih
    rw [List.cons_append, walk]
    grind
  | _ => rw [List.cons_append, walk]; grind

/-- The way along names and more names is the way along the first and then along the rest. -/
theorem advance_append (links : Nat) (l : Location) (before names : List FileName) :
    advance files links l (before ++ names) =
      match advance files links l before with
      | .ok (links, l) => advance files links l names
      | .error e => .error e := by
  fun_induction advance files links l before with
  | case1 => simp
  | case9 _ _ _ _ _ _ _ _ _ _ ih =>
    rw [List.append_assoc] at ih
    rw [List.cons_append, advance]
    grind
  | _ => rw [List.cons_append, advance]; grind

theorem hasDirectory_startOf (hl : files.hasDirectory l = true) :
    files.hasDirectory (startOf p l) = true := by
  unfold startOf
  split
  · rfl
  · exact hl

theorem advance_hasDirectory {links : Nat} {names : List FileName} {r : Nat × Location}
    (hl : files.hasDirectory l = true) (h : advance files links l names = .ok r) :
    files.hasDirectory r.2 = true := by
  fun_induction advance files links l names with
  | case1 => cases h; exact hl
  | case2 _ _ _ ih => exact ih hl h
  | case3 _ _ _ _ ih => exact ih (hasDirectory_dropLast hl) h
  | case6 _ _ _ _ _ _ _ hd ih => exact ih (hasDirectory_iff.mpr hd) h
  | case9 _ _ _ _ _ _ _ _ _ _ ih => exact ih (hasDirectory_startOf hl) h
  | case4 | case5 | case7 | case8 | case10 | case11 => cases h

/-- A walk that starts in a directory ends in one, or at an entry of one. -/
theorem walk_dropLast {follow : Bool} {links : Nat} {names : List FileName}
    (hl : files.hasDirectory l = true) (h : walk files follow links l names = .ok m) :
    files.hasDirectory m.dropLast = true := by
  fun_induction walk files follow links l names with
  | case1 => cases h; exact hasDirectory_dropLast hl
  | case2 _ _ _ ih => exact ih hl h
  | case3 _ _ _ _ ih => exact ih (hasDirectory_dropLast hl) h
  | case7 _ _ _ _ _ _ _ hd ih => exact ih (hasDirectory_iff.mpr hd) h
  | case11 _ _ _ _ _ _ _ _ _ _ _ ih => exact ih (hasDirectory_startOf hl) h
  | _ => grind

/-! ## Walks in changed files -/

/-- What stands somewhere does not lie below a location where nothing stands. -/
theorem not_below (hm : files.get? m = none) (hl : files.get? l ≠ none) : ¬m <+: l := by
  intro hp
  by_cases he : m = l
  · exact hl (he ▸ hm)
  · have := hasDirectory_iff.mp (hasDirectory_above hp he hl)
    simp [hm] at this

/-- The way to a directory stays when files change only where nothing stood. -/
theorem advance_congr (same : ∀ x, files.get? x ≠ none → files'.get? x = files.get? x) {links : Nat}
    {names : List FileName} {r : Nat × Location} (h : advance files links l names = .ok r) :
    advance files' links l names = .ok r := by
  fun_induction advance files links l names with
  | case1 => rw [advance]; exact h
  | case2 _ _ _ ih => rw [advance, if_pos rfl]; exact ih h
  | case3 _ _ _ h1 ih => rw [advance, if_neg h1, if_pos rfl]; exact ih h
  | case6 _ _ _ _ h1 h2 h3 hd ih =>
    rw [advance, if_neg h1, if_neg h2, if_neg h3, same _ (by simp [hd]), hd]
    exact ih h
  | case9 _ _ _ h1 h2 h3 _ hd _ ht ih =>
    rw [advance, if_neg h1, if_neg h2, if_neg h3, same _ (by simp [hd]), hd]
    simp only [if_neg ht]
    exact ih h
  | case4 | case5 | case7 | case8 | case10 | case11 => cases h

/-- A walk ends where it did when files change only where nothing stood and the end, if nothing
stood there, is a directory now. -/
theorem walk_grows (same : ∀ x, files.get? x ≠ none → files'.get? x = files.get? x)
    (hm : files.get? m = none → files'.get? m = some .directory) {follow : Bool} {links : Nat}
    {names : List FileName} (h : walk files follow links l names = .ok m) :
    walk files' follow links l names = .ok m := by
  fun_induction walk files follow links l names with
  | case1 => rw [walk]; exact h
  | case2 _ _ _ ih => rw [walk, if_pos rfl]; exact ih h
  | case3 _ _ _ h1 ih => rw [walk, if_neg h1, if_pos rfl]; exact ih h
  | case5 _ _ _ h1 h2 h3 hg =>
    -- The last name is the one whose directory is new.
    cases h
    rw [walk, if_neg h1, if_neg h2, if_neg h3, hm hg]
    simp [walk]
  | _ => rw [walk]; grind

theorem walk_congr (same : ∀ x, files'.get? x = files.get? x) (follow : Bool) (links : Nat)
    (l : Location) (names : List FileName) :
    walk files' follow links l names = walk files follow links l names := by
  fun_induction walk files follow links l names with
  | case1 => rw [walk]
  | case2 _ _ _ ih => rw [walk, if_pos rfl]; exact ih
  | case3 _ _ _ h1 ih => rw [walk, if_neg h1, if_pos rfl]; exact ih
  | _ => rw [walk]; grind

/-- The removal of a tree ends a walk earlier, or at a place in the tree. -/
theorem walk_eraseTree (hm : m ≠ []) (follow : Bool) (links : Nat) (l : Location)
    (names : List FileName) :
    walk (files.eraseTree m) follow links l names = walk files follow links l names ∨
      walk (files.eraseTree m) follow links l names = .error .notFound ∨
      ∃ x, walk (files.eraseTree m) follow links l names = .ok x ∧ m <+: x := by
  have hg (x : Location) := get?_eraseTree files m x hm
  fun_induction walk files follow links l names with
  | case1 => left; rw [walk]
  | case2 _ _ _ ih => rw [walk, if_pos rfl]; exact ih
  | case3 _ _ _ h1 ih => rw [walk, if_neg h1, if_pos rfl]; exact ih
  | case4 => left; rw [walk]; grind
  | _ => rw [walk]; grind

/-! ## Paths that can be looked up -/

/-- A path that the system looks up at all. -/
structure IsSound (p : Path) : Prop where
  ne_nil : p.bytes ≠ []
  zero_not_mem : 0 ∉ p.bytes
  length_le : p.bytes.length ≤ pathLimit

theorem locate_of_isSound (hp : IsSound p) (files : Files) (follow : Bool) :
    files.locate follow p =
      if files.hasDirectory (startOf p files.directory) then
        walk files follow linkLimit (startOf p files.directory) (steps p)
      else .error .notFound := by
  rw [locate, if_neg hp.ne_nil, if_neg (by simpa using hp.zero_not_mem),
    if_neg (Nat.not_lt.mpr hp.length_le)]

/-- Where a path leads, it is sound and its walk starts in a directory. -/
theorem locate_ok {follow : Bool} (h : files.locate follow p = .ok m) :
    IsSound p ∧ files.hasDirectory (startOf p files.directory) = true ∧
      walk files follow linkLimit (startOf p files.directory) (steps p) = .ok m := by
  have hp : IsSound p := by
    unfold locate at h
    refine ⟨fun hb => ?_, fun hz => ?_, Nat.not_lt.mp fun hl => ?_⟩
    · simp [hb] at h
    · rw [if_pos (List.contains_iff_mem.mpr hz)] at h
      split at h <;> cases h
    · rw [if_pos hl] at h
      split at h
      · cases h
      · split at h <;> cases h
  rw [locate_of_isSound hp] at h
  split at h
  · next hs => exact ⟨hp, hs, h⟩
  · cases h

/-- The names along a path that leads somewhere are not too long. -/
theorem length_le_of_walk {follow : Bool} {links : Nat} {names : List FileName}
    (h : walk files follow links l names = .ok m) : ∀ n ∈ names, n.length ≤ nameLimit := by
  fun_induction walk files follow links l names with
  | case1 => simp
  | case2 _ _ _ ih =>
    rintro n (_ | ⟨_, hn⟩)
    · decide
    · exact ih h n hn
  | case3 _ _ _ _ ih =>
    rintro n (_ | ⟨_, hn⟩)
    · decide
    · exact ih h n hn
  | case11 _ _ _ _ _ h3 _ _ _ _ _ ih =>
    rintro n (_ | ⟨_, hn⟩)
    · exact Nat.not_lt.mp h3
    · exact ih h n (List.mem_append_right _ hn)
  | _ => grind

theorem length_le_of_locate {follow : Bool} (h : files.locate follow p = .ok m) :
    ∀ n ∈ p.names, n.length ≤ nameLimit := by
  obtain ⟨-, -, hw⟩ := locate_ok h
  refine fun n hn => length_le_of_walk hw n ?_
  unfold steps
  split
  · exact List.mem_append_left _ hn
  · exact hn

theorem locate_dropLast {follow : Bool} (h : files.locate follow p = .ok m) :
    files.hasDirectory m.dropLast = true := by
  obtain ⟨-, hs, hw⟩ := locate_ok h
  exact walk_dropLast hs hw

/-- A path leads where it did when files change only where nothing stood, but for a directory that
is now at its end. -/
theorem locate_grows (hd : files'.directory = files.directory)
    (same : ∀ x, files.get? x ≠ none → files'.get? x = files.get? x)
    (hm : files.get? m = none → files'.get? m = some .directory) {follow : Bool}
    (h : files.locate follow p = .ok m) : files'.locate follow p = .ok m := by
  obtain ⟨hp, hs, hw⟩ := locate_ok h
  rw [locate_of_isSound hp, hd, if_pos, walk_grows same hm hw]
  have := hasDirectory_iff.mp hs
  rw [hasDirectory_iff, same _ (by simp [this]), this]

/-- A path leads to the same location in files that show the same. -/
theorem locate_congr (hd : files'.directory = files.directory)
    (same : ∀ x, files'.get? x = files.get? x) (follow : Bool) (p : Path) :
    files'.locate follow p = files.locate follow p := by
  have hdir (x : Location) : files'.hasDirectory x = files.hasDirectory x := by
    simp only [hasDirectory, same]
  simp only [locate, hd, hdir, walk_congr same]

/-- After the removal of the tree where a path led, the path leads to nothing. -/
theorem get?_of_locate_removed (hm : m ≠ []) (hl : files.locate false p = .ok m)
    (hd : files'.directory = files.directory)
    (gone : ∀ x, files'.get? x = if m <+: x then none else files.get? x)
    (h : files'.locate false p = .ok l) : files'.get? l = none := by
  have hsame (x : Location) : files'.get? x = (files.eraseTree m).get? x := by
    rw [gone, get?_eraseTree files m x hm]
  obtain ⟨-, -, hw⟩ := locate_ok hl
  obtain ⟨-, -, hw'⟩ := locate_ok h
  rw [hd, walk_congr hsame] at hw'
  have hcases := @walk_eraseTree files m hm false linkLimit (startOf p files.directory) (steps p)
  rcases hcases with he | he | ⟨x, he, hx⟩
  · obtain rfl : m = l := by simpa [he, hw] using hw'
    rw [gone, if_pos (List.prefix_refl m)]
  · simp [he] at hw'
  · obtain rfl : x = l := by simpa [he] using hw'
    rw [gone, if_pos hx]

/-- An absolute path leads to the same place from every directory. -/
theorem locate_of_isAbsolute (hp : p.isAbsolute = true) (follow : Bool) (directory : Location) :
    { files with directory }.locate follow p = files.locate follow p := by
  have hsame (x : Location) : { files with directory }.get? x = files.get? x := rfl
  have hwalk := walk_congr hsame follow
  simp only [locate, startOf, hp, if_true, hasDirectory_nil, hwalk]

/-! ## Entries -/

theorem walk_entry (hn : IsEntryName name) {follow : Bool} {links : Nat}
    (hlink : follow = false ∨ ∀ target, files.get? (l ++ [name]) ≠ some (.link target))
    (h : walk files follow links l [name] = .ok m) : m = l ++ [name] ∧ name.length ≤ nameLimit := by
  rw [walk, if_neg hn.ne_dot, if_neg hn.ne_dotDot] at h
  split at h
  · cases h
  · next hlen =>
    refine ⟨?_, Nat.not_lt.mp hlen⟩
    cases hg : files.get? (l ++ [name]) with
    | none => simpa [hg] using h.symm
    | some n => cases n with
      | directory => simpa [hg, walk] using h.symm
      | link target =>
        rcases hlink with hf | hlink
        · simpa [hg, hf] using h.symm
        · exact absurd hg (hlink target)
      | file | device => simpa [hg] using h.symm

theorem startOf_child (hn : IsEntryName name) (directory : Location) :
    startOf (p.child name) directory = startOf p directory := by
  rw [startOf, startOf, Path.isAbsolute_child hn]

/-- A path leads to a directory, and so many links may still be followed from there. -/
structure Leads (files : Files) (p : Path) (links : Nat) (l : Location) : Prop where
  start : files.hasDirectory (startOf p files.directory) = true
  way : advance files linkLimit (startOf p files.directory) p.names = .ok (links, l)

namespace Leads

variable {links : Nat}

theorem hasDirectory (h : Leads files p links l) : files.hasDirectory l = true :=
  advance_hasDirectory h.start h.way

/-- A path leads where it did when files change only where nothing stood. -/
theorem congr (h : Leads files p links l)
    (hd : p.isAbsolute = true ∨ files'.directory = files.directory)
    (same : ∀ x, files.get? x ≠ none → files'.get? x = files.get? x) : Leads files' p links l := by
  have hs : startOf p files'.directory = startOf p files.directory := by
    rcases hd with hp | hd
    · simp [startOf, hp]
    · rw [hd]
  refine ⟨?_, ?_⟩
  · have := hasDirectory_iff.mp h.start
    rw [hs, hasDirectory_iff, same _ (by simp [this]), this]
  · rw [hs]
    exact advance_congr same h.way

/-- A path with the name of a directory behind it leads to that directory. -/
theorem child (h : Leads files p links l) (hn : IsEntryName name) (hlen : name.length ≤ nameLimit)
    (hd : files.get? (l ++ [name]) = some .directory) :
    Leads files (p.child name) links (l ++ [name]) where
  start := by
    rw [startOf_child hn]
    exact h.start
  way := by
    rw [startOf_child hn, Path.names_child p hn, advance_append, h.way]
    simp only
    rw [advance, if_neg hn.ne_dot, if_neg hn.ne_dotDot, if_neg (Nat.not_lt.mpr hlen), hd, advance]

end Leads

/-- What a path with a name behind it stands for is an entry of the directory that the path leads
to. -/
theorem walk_of_locate_child (hn : IsEntryName name) {follow : Bool}
    (h : files.locate follow (p.child name) = .ok m) :
    ∃ links l, Leads files p links l ∧ walk files follow links l [name] = .ok m := by
  obtain ⟨-, hs, hw⟩ := locate_ok h
  rw [startOf_child hn] at hs hw
  rw [steps_child p hn, walk_append _ (by simp)] at hw
  split at hw
  · next links l hway => exact ⟨links, l, ⟨hs, hway⟩, hw⟩
  · cases hw

theorem locate_child (hn : IsEntryName name) (h : files.locate false (p.child name) = .ok m) :
    ∃ links l, Leads files p links l ∧ m = l ++ [name] ∧ name.length ≤ nameLimit := by
  obtain ⟨links, l, hl, hw⟩ := walk_of_locate_child hn h
  exact ⟨links, l, hl, walk_entry hn (Or.inl rfl) hw⟩

/-- An entry that is no link stands where its path says. -/
theorem Leads.locate {links : Nat} {follow : Bool} (hl : Leads files p links l)
    (hn : IsEntryName name)
    (hlink : follow = false ∨ ∀ target, files.get? (l ++ [name]) ≠ some (.link target))
    (h : files.locate follow (p.child name) = .ok m) :
    m = l ++ [name] ∧ name.length ≤ nameLimit := by
  obtain ⟨links', l', hl', hw⟩ := walk_of_locate_child hn h
  obtain ⟨rfl, rfl⟩ : links' = links ∧ l' = l := by
    have := hl'.way.symm.trans hl.way
    simpa using this
  exact walk_entry hn hlink hw

/-- What stands at a path that is not followed does not matter for where it is. -/
theorem Leads.locate_eq {links : Nat} (hl : Leads files p links l) (hp : IsSound (p.child name))
    (hn : IsEntryName name) (hlen : name.length ≤ nameLimit) :
    files.locate false (p.child name) = .ok (l ++ [name]) := by
  have hentry : walk files false links l [name] = .ok (l ++ [name]) := by
    rw [walk, if_neg hn.ne_dot, if_neg hn.ne_dotDot, if_neg (Nat.not_lt.mpr hlen)]
    cases files.get? (l ++ [name]) with
    | none => rfl
    | some n => cases n <;> simp [walk]
  rw [locate_of_isSound hp, startOf_child hn, if_pos hl.start, steps_child p hn,
    walk_append _ (by simp), hl.way]
  exact hentry

end ClarityCheck.Files
