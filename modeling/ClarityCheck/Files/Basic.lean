import ClarityCheck.Path
import ClarityCheck.SystemError

/-!
# File systems

A file system maps locations to what stands there. A location is the list of names that leads to it
from the root, so it has one spelling, unlike a path, which may pass through links and upwards.
Something stands at a location only if all locations above it are directories.

Main statements: `hasDirectory_above` (what stands somewhere stands in directories), `get?_put` (an
update changes its own location and no other) and `get?_eraseTree` (removing a directory removes
exactly what lies below it).
-/

namespace ClarityCheck

/-- The names that lead from the root to a place. The root is the empty list. -/
abbrev Location := List FileName

/-- A file without a fixed content. -/
inductive Device where
  /-- Swallows what is written to it and has nothing to read. -/
  | null
  /-- Yields zeros without end. -/
  | zero
  deriving DecidableEq, Repr

/-- Who may do what with a file, and whether that can be changed. -/
structure Permissions where
  /-- Three bits each for the owner, the group and everybody else: to read, to write and to run. -/
  mode : Nat
  /-- The error that a change of the mode is refused with, if it is. The file may belong to another
  user, or be protected. -/
  refusal : Option SystemError := none
  deriving DecidableEq, Repr

namespace Permissions

/-- The permissions of a file that is written anew. -/
def plain : Permissions := ⟨0o644, none⟩

/-- The permissions of a file that everybody may run. -/
def program : Permissions := ⟨0o755, none⟩

/-- Somebody may run the file, and so may the superuser. -/
def allowsRunning (p : Permissions) : Bool := p.mode &&& 0o111 != 0

/-- The permissions with another mode, unless a change is refused. -/
def withMode (p : Permissions) (mode : Nat) : Except SystemError Permissions :=
  match p.refusal with
  | some e => .error e
  | none => .ok { p with mode }

variable {p q : Permissions} {mode : Nat} {e : SystemError}

/-- A change that is made is not refused, and changes the mode alone. -/
theorem withMode_eq_ok_iff :
    p.withMode mode = .ok q ↔ p.refusal = none ∧ q = { p with mode } := by
  unfold withMode
  cases p.refusal with
  | none => simp [eq_comm]
  | some e => simp

theorem withMode_eq_error_iff : p.withMode mode = .error e ↔ p.refusal = some e := by
  unfold withMode
  cases p.refusal <;> simp

end Permissions

/-- What stands at a location. -/
inductive Node where
  | file (content : Bytes) (permissions : Permissions)
  | link (target : Path)
  | device (device : Device)
  | directory
  deriving DecidableEq, Repr

/-- A file system as a process sees it: what stands where, and the directory from which relative
paths start. The root is always there and needs no entry. -/
structure Files where
  nodes : List (Location × Node)
  directory : Location
  deriving Repr

namespace Files

/-- What stands where names lead from a location with a node. From anything but a directory they
lead nowhere. -/
def descend (nodes : List (Location × Node)) (l : Location) (n : Node) : List FileName → Option Node
  | [] => some n
  | name :: rest =>
    if n = .directory then
      match nodes.lookup (l ++ [name]) with
      | some n => descend nodes (l ++ [name]) n rest
      | none => none
    else none

/-- What stands at a location. -/
def get? (files : Files) (l : Location) : Option Node := descend files.nodes [] .directory l

/-- A directory stands at a location. -/
def hasDirectory (files : Files) (l : Location) : Bool := files.get? l == some .directory

/-- Takes away what stands at a location. -/
def erase (files : Files) (l : Location) : Files :=
  { files with nodes := files.nodes.filter (fun e => e.1 ≠ l) }

/-- Takes away what stands at a location and everything below it. -/
def eraseTree (files : Files) (l : Location) : Files :=
  { files with nodes := files.nodes.filter (fun e => !l.isPrefixOf e.1) }

/-- Places a node at a location, instead of what was there. A directory keeps what lies below it,
and nothing lies below a new one. -/
def put (files : Files) (l : Location) (n : Node) : Files :=
  { files with nodes := (l, n) :: files.nodes.filter fun e =>
      e.1 ≠ l ∧ (files.hasDirectory l ∨ !l.isPrefixOf e.1) }

/-! ## Everything stands in directories -/

theorem descend_append (nodes : List (Location × Node)) (names rest : List FileName) :
    ∀ (l : Location) (n : Node), descend nodes l n (names ++ rest) =
      (descend nodes l n names).bind fun n => descend nodes (l ++ names) n rest := by
  induction names with
  | nil =>
    intro l n
    simp [descend]
  | cons name names ih =>
    intro l n
    by_cases hn : n = .directory
    · cases h : nodes.lookup (l ++ [name]) with
      | none => simp [descend, hn, h]
      | some k => simp [descend, hn, h, ih]
    · simp [descend, hn]

@[simp] theorem get?_nil (files : Files) : files.get? [] = some .directory := rfl

theorem hasDirectory_iff {files : Files} {l : Location} :
    files.hasDirectory l = true ↔ files.get? l = some .directory := by
  simp [hasDirectory]

@[simp] theorem hasDirectory_nil (files : Files) : files.hasDirectory [] = true := rfl

theorem get?_append (files : Files) (l names : Location) :
    files.get? (l ++ names) = (files.get? l).bind fun n => descend files.nodes l n names := by
  simpa [get?] using descend_append files.nodes l names [] .directory

theorem get?_of_ne_nil (files : Files) {l : Location} (hl : l ≠ []) :
    files.get? l = if files.hasDirectory l.dropLast then files.nodes.lookup l else none := by
  have h := get?_append files l.dropLast [l.getLast hl]
  rw [List.dropLast_concat_getLast] at h
  rw [h]
  cases hd : files.get? l.dropLast with
  | none => simp [hasDirectory, hd]
  | some n =>
    by_cases hn : n = .directory
    · cases hk : files.nodes.lookup l <;>
        simp [hasDirectory, hd, hn, descend, List.dropLast_concat_getLast, hk]
    · simp [hasDirectory, hd, hn, descend]

/-- All locations above something are directories. -/
theorem hasDirectory_above {files : Files} {l m : Location} (hp : l <+: m) (hne : l ≠ m)
    (h : files.get? m ≠ none) : files.hasDirectory l = true := by
  obtain ⟨names, rfl⟩ := hp
  rw [get?_append] at h
  cases hd : files.get? l with
  | none => simp [hd] at h
  | some n =>
    cases names with
    | nil => simp at hne
    | cons name names =>
      by_cases hn : n = .directory
      · simp [hasDirectory, hd, hn]
      · simp [hd, descend, hn] at h

theorem hasDirectory_dropLast {files : Files} {l : Location} (h : files.hasDirectory l = true) :
    files.hasDirectory l.dropLast = true := by
  by_cases hl : l = []
  · simp [hl]
  · have := List.length_pos_iff.mpr hl
    refine hasDirectory_above (List.dropLast_prefix l) ?_ (by simp [hasDirectory_iff.mp h])
    intro he
    have := congrArg List.length he
    simp only [List.length_dropLast] at this
    omega

/-- Nothing lies below a location without a directory. -/
theorem get?_below {files : Files} {l m : Location} (hp : l <+: m) (hne : l ≠ m)
    (h : files.hasDirectory l = false) : files.get? m = none := by
  cases hm : files.get? m with
  | none => rfl
  | some n =>
    rw [hasDirectory_above hp hne (by simp [hm])] at h
    cases h

/-! ## What the updates do to the view -/

theorem lookup_filter (nodes : List (Location × Node)) (keep : Location → Bool) (l : Location) :
    (nodes.filter (fun e => keep e.1)).lookup l = if keep l then nodes.lookup l else none := by
  induction nodes with
  | nil => simp
  | cons e es ih =>
    obtain ⟨k, n⟩ := e
    by_cases hk : l = k
    · subst hk
      by_cases hl : keep l <;> simp [hl, ih]
    · have hb : (l == k) = false := by simpa using hk
      by_cases hkeep : keep k <;> simp [List.lookup_cons, hkeep, ih, hb]

theorem isPrefixOf_eq_decide (l m : Location) : l.isPrefixOf m = decide (l <+: m) := by
  by_cases h : l <+: m
  · simp [h, List.isPrefixOf_iff_prefix.mpr h]
  · simp [h, mt List.isPrefixOf_iff_prefix.mp h]

theorem descend_congr {nodes nodes' : List (Location × Node)} (names : List FileName) :
    ∀ (l : Location) (n : Node),
      (∀ k, k <+: names → k ≠ [] → nodes'.lookup (l ++ k) = nodes.lookup (l ++ k)) →
      descend nodes' l n names = descend nodes l n names := by
  induction names with
  | nil => intro l n _; rfl
  | cons name names ih =>
    intro l n h
    have hname := h [name] (by simp) (by simp)
    have hrest (k : Node) := ih (l ++ [name]) k fun t ht _ => by
      simpa using h (name :: t) (by simpa using ht) (by simp)
    simp only [descend, hname, hrest]

/-- Two lists of nodes that agree on a location and on all above it show the same there. -/
theorem get?_congr {files files' : Files} {m : Location}
    (h : ∀ k, k <+: m → k ≠ [] → files'.nodes.lookup k = files.nodes.lookup k) :
    files'.get? m = files.get? m :=
  descend_congr m [] .directory (by simpa using h)

/-- Removal of a tree changes exactly the locations in it. -/
theorem get?_eraseTree (files : Files) (l m : Location) (hl : l ≠ []) :
    (files.eraseTree l).get? m = if l <+: m then none else files.get? m := by
  have hf (k : Location) : (files.eraseTree l).nodes.lookup k =
      if l <+: k then none else files.nodes.lookup k := by
    rw [eraseTree, lookup_filter files.nodes (fun k => !l.isPrefixOf k), isPrefixOf_eq_decide]
    by_cases hk : l <+: k <;> simp [hk]
  by_cases hp : l <+: m
  · -- Nothing stands at the top of the tree, and so nothing below it.
    have htop : (files.eraseTree l).get? l = none := by
      rw [get?_of_ne_nil _ hl, hf, if_pos (List.prefix_refl l), ite_self]
    rw [if_pos hp]
    by_cases he : l = m
    · rw [← he, htop]
    · exact get?_below hp he (by simp [hasDirectory, htop])
  · rw [if_neg hp]
    refine get?_congr fun k hk _ => ?_
    rw [hf, if_neg fun hlk => hp (hlk.trans hk)]

/-- Removal at a location without a directory changes no other location. -/
theorem get?_erase (files : Files) (l m : Location) (hl : l ≠ [])
    (hd : files.hasDirectory l = false) :
    (files.erase l).get? m = if m = l then none else files.get? m := by
  have hf (k : Location) : (files.erase l).nodes.lookup k =
      if k = l then none else files.nodes.lookup k := by
    rw [erase, lookup_filter files.nodes (fun k => decide (k ≠ l))]
    by_cases hk : k = l <;> simp [hk]
  have htop : (files.erase l).get? l = none := by
    rw [get?_of_ne_nil _ hl, hf, if_pos rfl, ite_self]
  by_cases he : m = l
  · rw [if_pos he, he, htop]
  · rw [if_neg he]
    by_cases hp : l <+: m
    · rw [get?_below hp (Ne.symm he) hd,
        get?_below hp (Ne.symm he) (by simp [hasDirectory, htop])]
    · refine get?_congr fun k hk _ => ?_
      rw [hf, if_neg]
      rintro rfl
      exact hp hk

theorem lookup_put (files : Files) (l k : Location) (n : Node) :
    (files.put l n).nodes.lookup k =
      if k = l then some n
      else if files.hasDirectory l = true ∨ ¬l <+: k then files.nodes.lookup k else none := by
  have h := lookup_filter files.nodes
    (fun k => decide (k ≠ l ∧ (files.hasDirectory l = true ∨ (!l.isPrefixOf k) = true))) k
  by_cases hk : k = l
  · simp [put, hk]
  · have hb : (k == l) = false := by simpa using hk
    rw [if_neg hk, put, List.lookup_cons, hb]
    refine h.trans ?_
    rw [isPrefixOf_eq_decide]
    by_cases hp : l <+: k <;> simp [hk, hp]

/-- Placing a node changes nothing outside its tree. -/
theorem get?_put_outside (files : Files) {l m : Location} (n : Node) (h : ¬l <+: m) :
    (files.put l n).get? m = files.get? m := by
  refine get?_congr fun k hk _ => ?_
  have hlk : ¬l <+: k := fun hlk => h (hlk.trans hk)
  rw [lookup_put, if_neg, if_pos (Or.inr hlk)]
  rintro rfl
  exact hlk (List.prefix_refl _)

theorem not_prefix_dropLast {l : Location} (hl : l ≠ []) : ¬l <+: l.dropLast := by
  intro hp
  have := hp.length_le
  have := List.length_pos_iff.mpr hl
  simp only [List.length_dropLast] at *
  omega

/-- A node that is placed in a directory stands there. -/
theorem get?_put_self (files : Files) {l : Location} (n : Node) (hl : l ≠ [])
    (hd : files.hasDirectory l.dropLast = true) : (files.put l n).get? l = some n := by
  have hk : (files.put l n).hasDirectory l.dropLast = true := by
    rw [hasDirectory, get?_put_outside _ _ (not_prefix_dropLast hl)]
    exact hd
  rw [get?_of_ne_nil _ hl, if_pos hk, lookup_put, if_pos rfl]

/-- Placing a node in a directory changes its own location and no other, unless it takes the place
of a directory. -/
theorem get?_put (files : Files) {l : Location} (m : Location) (n : Node) (hl : l ≠ [])
    (hd : files.hasDirectory l.dropLast = true) (hn : files.hasDirectory l = false) :
    (files.put l n).get? m = if m = l then some n else files.get? m := by
  by_cases he : m = l
  · rw [if_pos he, he, get?_put_self files n hl hd]
  · rw [if_neg he]
    by_cases hp : l <+: m
    · -- Nothing lay below the location before, and what is listed below it has been dropped.
      have hm : m ≠ [] := fun h => hl (List.prefix_nil.mp (h ▸ hp))
      rw [get?_below hp (Ne.symm he) hn, get?_of_ne_nil _ hm, lookup_put, if_neg he,
        if_neg (show ¬(_ ∨ ¬l <+: m) by simp [hn, hp]), ite_self]
    · exact get?_put_outside files n hp

end Files

end ClarityCheck
