import ClarityCheck.Proofs.Files.CalmDisk
import ClarityCheck.Proofs.Files.PathFront

/-!
# Downloads replace their destination as a whole

While a body is being stored, only the file beside the destination differs from what was there
before. No way leads through a file, so that all paths lead where they did. At the end the file is
moved to the destination with all of the body, or it is removed.

* `locate_onward`: a path leads to the same place where all directories and links are the same
* `copyOn_storing`: what has been stored after each chunk
* `copyOn_copying`, `writeBodyOn_writing`: what is asked to copy chunks and to write a body
* `installOn_spec`: what storing a body leaves
* `fetchingOn_atomic`: what a download leaves
-/

namespace ClarityCheck

namespace Files

variable {files files' : Files} {p : Path} {l m k : Location} {links : Nat} {names : List FileName}

/-! ## Paths in files that differ at files -/

/-- No way leads on from here. -/
def IsEnd (node : Option Node) : Prop :=
  node ≠ some .directory ∧ ∀ target, node ≠ some (.link target)

/-- Nothing stands here, or a file does. -/
def IsVacant (node : Option Node) : Prop :=
  node = none ∨ ∃ content permissions, node = some (.file content permissions)

theorem IsVacant.isEnd {node : Option Node} (h : IsVacant node) : IsEnd node := by
  rcases h with rfl | ⟨content, permissions, rfl⟩ <;> exact ⟨by simp, by simp⟩

/-- The last name of a walk that follows no link at its end counts for itself. -/
theorem walk_last {name : FileName} (files : Files) (links : Nat) (l : Location)
    (h1 : name ≠ Path.dot) (h2 : name ≠ Path.dotDot) (h3 : ¬nameLimit < name.length) :
    walk files false links l [name] = .ok (l ++ [name]) := by
  rw [walk, if_neg h1, if_neg h2, if_neg h3]
  rcases files.get? (l ++ [name]) with _ | n
  · rfl
  · cases n <;> simp [walk]

/-- Where all directories and links are the same, a walk leads to the same place. -/
theorem walk_onward (same : ∀ x, ¬IsEnd (files.get? x) → files'.get? x = files.get? x)
    (h : walk files false links l names = .ok m) : walk files' false links l names = .ok m := by
  have hdir {x : Location} (hx : files.get? x = some .directory) :
      files'.get? x = some .directory := by
    rw [same x (fun he => he.1 hx), hx]
  have hlink {x : Location} {target : Path} (hx : files.get? x = some (.link target)) :
      files'.get? x = some (.link target) := by
    rw [same x (fun he => he.2 target hx), hx]
  fun_induction walk files false links l names with
  | case1 => rw [walk]; exact h
  | case2 _ _ _ ih => rw [walk, if_pos rfl]; exact ih h
  | case3 _ _ _ h1 ih => rw [walk, if_neg h1, if_pos rfl]; exact ih h
  | case5 _ _ _ h1 h2 h3 => cases h; exact walk_last files' _ _ h1 h2 h3
  | case7 _ _ _ _ h1 h2 h3 hd ih =>
    rw [walk, if_neg h1, if_neg h2, if_neg h3, hdir hd]
    exact ih h
  | case8 _ _ name rest h1 h2 h3 _ _ hlast =>
    cases h
    rw [hlast.1]
    exact walk_last files' _ _ h1 h2 h3
  | case11 _ _ _ h1 h2 h3 _ hg hlast _ ht ih =>
    rw [walk, if_neg h1, if_neg h2, if_neg h3, hlink hg]
    simp only [if_neg hlast, if_neg ht]
    exact ih h
  | case12 _ _ _ h1 h2 h3 => cases h; exact walk_last files' _ _ h1 h2 h3
  | case14 _ _ _ h1 h2 h3 => cases h; exact walk_last files' _ _ h1 h2 h3
  | case4 | case6 | case9 | case10 | case13 | case15 => cases h

/-- Where all directories and links are the same, a path leads to the same place. -/
theorem locate_onward (hd : files'.directory = files.directory)
    (same : ∀ x, ¬IsEnd (files.get? x) → files'.get? x = files.get? x)
    (h : files.locate false p = .ok m) : files'.locate false p = .ok m := by
  obtain ⟨hp, hs, hw⟩ := locate_ok h
  have hstart := hasDirectory_iff.mp hs
  rw [locate_of_isSound hp, hd, if_pos, walk_onward same hw]
  rw [hasDirectory_iff, same _ (fun he => he.1 hstart), hstart]

/-- A walk that follows a link at its end comes to that link first. -/
theorem exists_walk_false (h : walk files true links l names = .ok m) :
    ∃ x, walk files false links l names = .ok x ∧
      (x = m ∨ ∃ target, files.get? x = some (.link target)) := by
  fun_induction walk files true links l names with
  | case1 => exact ⟨_, by rw [walk]; exact h, .inl rfl⟩
  | case2 _ _ _ ih => rw [walk, if_pos rfl]; exact ih h
  | case3 _ _ _ h1 ih => rw [walk, if_neg h1, if_pos rfl]; exact ih h
  | case7 _ _ _ _ h1 h2 h3 hd ih =>
    rw [walk, if_neg h1, if_neg h2, if_neg h3, hd]
    exact ih h
  | case11 _ _ rest h1 h2 h3 target hg _ _ ht ih =>
    by_cases hrest : rest = []
    · subst hrest
      exact ⟨_, walk_last files _ _ h1 h2 h3, .inr ⟨target, hg⟩⟩
    · rw [walk, if_neg h1, if_neg h2, if_neg h3, hg]
      simp only [if_neg (not_and_of_not_left _ hrest), if_neg ht]
      exact ih h
  | case5 _ _ _ h1 h2 h3 => cases h; exact ⟨_, walk_last files _ _ h1 h2 h3, .inl rfl⟩
  | case12 _ _ _ h1 h2 h3 => cases h; exact ⟨_, walk_last files _ _ h1 h2 h3, .inl rfl⟩
  | case14 _ _ _ h1 h2 h3 => cases h; exact ⟨_, walk_last files _ _ h1 h2 h3, .inl rfl⟩
  | _ => grind

theorem exists_locate_false (h : files.locate true p = .ok m) :
    ∃ x, files.locate false p = .ok x ∧ (x = m ∨ ∃ target, files.get? x = some (.link target)) := by
  obtain ⟨hp, hs, hw⟩ := locate_ok h
  rw [locate_of_isSound hp, if_pos hs]
  exact exists_walk_false hw

/-- A walk that does not end at a link ends there also when links are followed. -/
theorem walk_true_of_walk_false (h : walk files false links l names = .ok m)
    (hm : ∀ target, files.get? m ≠ some (.link target)) :
    walk files true links l names = .ok m := by
  fun_induction walk files false links l names with
  | case1 => rw [walk]; exact h
  | case2 _ _ _ ih => rw [walk, if_pos rfl]; exact ih h
  | case3 _ _ _ h1 ih => rw [walk, if_neg h1, if_pos rfl]; exact ih h
  | case8 _ _ _ _ _ _ _ target hg =>
    cases h
    exact absurd hg (hm target)
  | case7 _ _ _ _ h1 h2 h3 hd ih =>
    rw [walk, if_neg h1, if_neg h2, if_neg h3, hd]
    exact ih h
  | case11 _ _ _ h1 h2 h3 _ hg _ _ ht ih =>
    rw [walk, if_neg h1, if_neg h2, if_neg h3, hg]
    simp only [Bool.not_true, Bool.false_eq_true, and_false, ↓reduceIte, if_neg ht]
    exact ih h
  | _ => rw [walk]; grind

theorem locate_true_of_locate_false (h : files.locate false p = .ok m)
    (hm : ∀ target, files.get? m ≠ some (.link target)) : files.locate true p = .ok m := by
  obtain ⟨hp, hs, hw⟩ := locate_ok h
  rw [locate_of_isSound hp, if_pos hs]
  exact walk_true_of_walk_false hw hm

end Files

/-! ## Storing a body -/

namespace Files

variable {files files' opened : Files} {p : Path} {k m : Location} {content : Bytes}

/-- The file at a location has been opened by a path, holds this content now, and nothing else
differs from what was there before. -/
structure Storing (p : Path) (k : Location) (files files' : Files) (content : Bytes) : Prop where
  located : files.locate false p = .ok k
  vacant : IsVacant (files.get? k)
  directory : files'.directory = files.directory
  same : ∀ x, x ≠ k → files'.get? x = files.get? x
  holds : ∃ permissions, files'.get? k = some (.file content permissions)

/-- Nothing stands where a path leads. -/
def Absent (files : Files) (p : Path) : Prop :=
  ∀ k, files.locate false p = .ok k → files.get? k = none

/-- Nothing stands where a path led, and nothing else differs from what was there before. -/
structure Withdrawn (p : Path) (files files' : Files) : Prop where
  directory : files'.directory = files.directory
  same : ∀ x, files.locate false p ≠ .ok x → files'.get? x = files.get? x
  gone : ∀ k, files.locate false p = .ok k → files'.get? k = none

theorem isEnd_none : IsEnd none := ⟨by simp, by simp⟩

/-- Whatever path is gone leads to nothing, and other paths lead where they led. -/
theorem Withdrawn.locate_iff {q : Path} (h : Withdrawn p files files')
    (hv : ∀ k, files.locate false p = .ok k → IsEnd (files.get? k)) :
    files'.locate false q = .ok m ↔ files.locate false q = .ok m := by
  have hsame {x : Location} (hx : ¬IsEnd (files.get? x) ∨ ¬IsEnd (files'.get? x)) :
      files'.get? x = files.get? x := by
    refine h.same x fun hl => ?_
    rcases hx with hx | hx
    · exact hx (hv x hl)
    · exact hx (by rw [h.gone x hl]; exact isEnd_none)
  exact ⟨locate_onward h.directory.symm fun x hx => (hsame (.inr hx)).symm,
    locate_onward h.directory fun x hx => hsame (.inl hx)⟩

theorem IsVacant.hasDirectory (h : IsVacant (files.get? k)) : files.hasDirectory k = false := by
  rcases h with hg | ⟨_, _, hg⟩ <;> simp [Files.hasDirectory, hg]

theorem IsVacant.ne_nil (h : IsVacant (files.get? k)) : k ≠ [] := by
  rintro rfl
  have := h.hasDirectory
  simp at this

/-- Opening a file for writing where nothing or a file stands. -/
theorem storing_of_write (hv : ∀ k, files.locate false p = .ok k → IsVacant (files.get? k))
    (hw : files.write p [] = .ok files') :
    ∃ k, files.locate true p = .ok k ∧ Storing p k files files' [] := by
  obtain ⟨k, hk⟩ := exists_locate_of_write hw
  have hlocated : files.locate false p = .ok k := by
    obtain ⟨x, hx, rfl | ⟨target, hg⟩⟩ := exists_locate_false hk
    · exact hx
    · exact absurd hg ((hv x hx).isEnd.2 target)
  have hvacant := hv k hlocated
  have hp : p.withoutSlashes = p := by
    by_contra hp
    unfold write at hw
    simp only [hp, ne_eq, not_false_eq_true, ↓reduceIte] at hw
    split at hw <;> cases hw
  obtain ⟨permissions, rfl⟩ : ∃ permissions, files' = files.put k (.file [] permissions) := by
    unfold write at hw
    simp only [hp, decide_true, hk, ne_eq, not_true_eq_false, ↓reduceIte] at hw
    rcases hvacant with hg | ⟨_, permissions, hg⟩ <;> rw [hg] at hw
    · exact ⟨.plain, (Except.ok.inj hw).symm⟩
    · exact ⟨permissions, (Except.ok.inj hw).symm⟩
  have hget := fun x => get?_put files x (.file [] permissions) hvacant.ne_nil (locate_dropLast hk)
    hvacant.hasDirectory
  exact ⟨k, hk, hlocated, hvacant, rfl, fun x hx => by rw [hget, if_neg hx],
    permissions, by rw [hget, if_pos rfl]⟩

namespace Storing

variable {q : Path}

theorem isVacant (h : Storing p k files files' content) : IsVacant (files'.get? k) :=
  let ⟨permissions, hg⟩ := h.holds
  .inr ⟨content, permissions, hg⟩

/-- All paths lead where they led before. -/
theorem locate_iff (h : Storing p k files files' content) :
    files'.locate false q = .ok m ↔ files.locate false q = .ok m := by
  have hne {f : Files} (hf : IsVacant (f.get? k)) {x : Location} (hx : ¬IsEnd (f.get? x)) :
      x ≠ k := by
    rintro rfl
    exact hx hf.isEnd
  exact ⟨locate_onward h.directory.symm fun x hx => (h.same x (hne h.isVacant hx)).symm,
    locate_onward h.directory fun x hx => h.same x (hne h.vacant hx)⟩

/-- What is written to the end of the file is added to its content. -/
theorem append (h : Storing p k files files' content) (bytes : Bytes) :
    Storing p k files (files'.append k bytes) (content ++ bytes) := by
  obtain ⟨permissions, hg⟩ := h.holds
  have hd : files'.hasDirectory k.dropLast = true := locate_dropLast (h.locate_iff.mpr h.located)
  have hget := fun x => get?_put files' x (.file (content ++ bytes) permissions) h.vacant.ne_nil hd
    h.isVacant.hasDirectory
  have happend : files'.append k bytes = files'.put k (.file (content ++ bytes) permissions) := by
    simp only [Files.append, hg]
  rw [happend]
  exact ⟨h.located, h.vacant, h.directory, fun x hx => by rw [hget, if_neg hx, h.same x hx],
    permissions, by rw [hget, if_pos rfl]⟩

end Storing

/-- A file is gone when it has been discarded. -/
theorem discard_vacant (hl : files.locate false p = .ok k) (hv : IsVacant (files.get? k)) :
    (Download.discard files p).directory = files.directory ∧
    (Download.discard files p).get? k = none ∧
      ∀ x, x ≠ k → (Download.discard files p).get? x = files.get? x := by
  unfold Download.discard removeFile
  rw [hl]
  rcases hv with hg | ⟨_, _, hg⟩
  · simp [hg]
  · have hget := fun x => get?_erase files k x (IsVacant.ne_nil (.inr ⟨_, _, hg⟩))
      (IsVacant.hasDirectory (.inr ⟨_, _, hg⟩))
    simp only [hg]
    exact ⟨rfl, by rw [hget, if_pos rfl], fun x hx => by rw [hget, if_neg hx]⟩

theorem withdrawn_of_storing (h : Storing p k files files' content) :
    Withdrawn p files (Download.discard files' p) := by
  obtain ⟨hd, hgone, hsame⟩ := discard_vacant (h.locate_iff.mpr h.located) h.isVacant
  refine ⟨hd.trans h.directory, fun x hx => ?_, fun x hx => ?_⟩
  · have hne : x ≠ k := by
      rintro rfl
      exact hx h.located
    rw [hsame x hne, h.same x hne]
  · obtain rfl := Except.ok.inj (h.located.symm.trans hx)
    exact hgone

theorem withdrawn_discard (hv : ∀ k, files.locate false p = .ok k → IsVacant (files.get? k)) :
    Withdrawn p files (Download.discard files p) := by
  rcases hl : files.locate false p with e | k
  · have heq : Download.discard files p = files := by simp only [Download.discard, removeFile, hl]
    rw [heq]
    exact ⟨rfl, fun _ _ => rfl, fun x hx => by simp [hl] at hx⟩
  · obtain ⟨hd, hgone, hsame⟩ := discard_vacant hl (hv k hl)
    refine ⟨hd, fun x hx => hsame x ?_, fun x hx => ?_⟩
    · rintro rfl
      exact hx hl
    · obtain rfl := Except.ok.inj (hl.symm.trans hx)
      exact hgone

end Files

namespace Download

open Files

variable {files : Files} {p destination : Path} {k m : Location} {content : Bytes}
  {mishaps : Mishaps} {chunks : List Bytes} {brokenOff : Option SystemError} {written n : Nat}
  {d d' : Disk} {e : SystemError}

/-- After each chunk the file holds what has arrived, or a part of it when a write has failed. -/
theorem copyOn_storing {result : Except SystemError Nat} (hs : Storing p k files d.files content)
    (h : copyOn mishaps k brokenOff chunks written d = (result, d')) :
    ∃ stored, Storing p k files d'.files (content ++ stored) ∧
      ∀ n, result = .ok n →
        stored = chunks.flatten ∧ n = written + chunks.flatten.length ∧ brokenOff = none := by
  induction chunks generalizing content written d with
  | nil =>
    cases brokenOff with
    | some e =>
      cases h
      exact ⟨[], by rwa [List.append_nil], by simp⟩
    | none =>
      cases h
      refine ⟨[], by rwa [List.append_nil], ?_⟩
      rintro n ⟨⟩
      exact ⟨rfl, rfl, rfl⟩
  | cons chunk chunks ih =>
    unfold copyOn at h
    rcases ha : d.append mishaps k chunk with ⟨e | _, d₁⟩ <;> rw [ha] at h
    · obtain ⟨stored, hfiles, -, -⟩ := Disk.append_answer ha
      cases h
      exact ⟨stored, hfiles ▸ hs.append stored, by simp⟩
    · obtain ⟨stored, hfiles, hstored, -⟩ := Disk.append_answer ha
      obtain rfl := hstored rfl
      obtain ⟨more, hmore, hok⟩ := ih (hfiles ▸ hs.append stored) h
      refine ⟨stored ++ more, by rwa [← List.append_assoc], fun n hn => ?_⟩
      obtain ⟨rfl, rfl, hb⟩ := hok n hn
      exact ⟨by simp, by simp [Nat.add_assoc], hb⟩

/-- Writing a body leaves the files alone when the file cannot be opened. Otherwise the file holds a
part of the body, and all of it if the writing succeeds. -/
theorem writeBodyOn_spec {result : Except SystemError Nat}
    (hv : ∀ k, d.files.locate false p = .ok k → IsVacant (d.files.get? k))
    (h : writeBodyOn mishaps p chunks brokenOff d = (result, d')) :
    (∃ e, result = .error e ∧ d'.files = d.files) ∨
      ∃ k content, Storing p k d.files d'.files content ∧
        ∀ n, result = .ok n →
          content = chunks.flatten ∧ n = chunks.flatten.length ∧ brokenOff = none := by
  unfold writeBodyOn Disk.openFile at h
  rcases ho : d.ask mishaps (.openFile p) (·.write p []) with ⟨e | _, d₁⟩ <;> rw [ho] at h
  · cases h
    exact .inl ⟨e, rfl, (Disk.ask_error ho).1⟩
  obtain ⟨k, hk, hopen⟩ := storing_of_write hv (Disk.ask_ok ho).1
  right
  simp only [hk] at h
  rcases hc : copyOn mishaps k brokenOff chunks 0 d₁ with ⟨e | written, d₂⟩ <;> rw [hc] at h
  all_goals
    obtain ⟨stored, hstored, hok⟩ := copyOn_storing hopen hc
    rw [List.nil_append] at hstored
  · cases h
    exact ⟨k, stored, hstored, by simp⟩
  simp only at h
  rcases hsync : d₂.sync mishaps k with ⟨e | _, d₃⟩ <;> rw [hsync] at h
  · cases h
    have hfiles := (Disk.ask_error hsync).1
    exact ⟨k, stored, hfiles ▸ hstored, by simp⟩
  · cases h
    have hfiles := Except.ok.inj (Disk.ask_ok hsync).1
    refine ⟨k, stored, hfiles ▸ hstored, fun n hn => ?_⟩
    obtain ⟨rfl, rfl, hb⟩ := hok n hn
    exact ⟨rfl, Nat.zero_add _, hb⟩

/-! ## What is asked for it -/

/-- Requests to store the chunks of a body, and the error that the copying ends with: that of a
chunk that is not stored, or that of the body when it breaks off. -/
inductive Copying (l : Location) (brokenOff : Option SystemError) :
    List Bytes → List Disk.Entry → Option SystemError → Prop
  | arrived : Copying l brokenOff [] [] brokenOff
  | refused {chunk : Bytes} {chunks : List Bytes} (e : SystemError) :
    Copying l brokenOff (chunk :: chunks) [(.append l chunk, some e)] (some e)
  | stored {chunk : Bytes} {chunks : List Bytes} {es : List Disk.Entry}
      {answer : Option SystemError}
    (rest : Copying l brokenOff chunks es answer) :
    Copying l brokenOff (chunk :: chunks) ((.append l chunk, none) :: es) answer

/-- Requests to write a body to a file, and the error that the writing ends with. -/
inductive Writing (p : Path) (chunks : List Bytes) (brokenOff : Option SystemError) :
    List Disk.Entry → Option SystemError → Prop
  | notOpened (e : SystemError) : Writing p chunks brokenOff [(.openFile p, some e)] (some e)
  | notCopied {l : Location} {es : List Disk.Entry} {e : SystemError}
    (copying : Copying l brokenOff chunks es (some e)) :
    Writing p chunks brokenOff ((.openFile p, none) :: es) (some e)
  | synced {l : Location} {es : List Disk.Entry} (copying : Copying l brokenOff chunks es none)
    (answer : Option SystemError) :
    Writing p chunks brokenOff ((.openFile p, none) :: es ++ [(.sync l, answer)]) answer

/-- Requests to store a body at its destination, and the path and the error that are blamed if the
last of them is refused or the body breaks off. -/
inductive Installing (destination : Path) (chunks : List Bytes) (brokenOff : Option SystemError) :
    List Disk.Entry → Option (Path × SystemError) → Prop
  | notWritten {es : List Disk.Entry} {e : SystemError}
    (writing : Writing (partialPath destination) chunks brokenOff es (some e)) :
    Installing destination chunks brokenOff es (some (partialPath destination, e))
  | notMoved {es : List Disk.Entry} (e : SystemError)
    (writing : Writing (partialPath destination) chunks brokenOff es none) :
    Installing destination chunks brokenOff
      (es ++ [(.rename (partialPath destination) destination, some e)]) (some (destination, e))
  | moved {es : List Disk.Entry}
    (writing : Writing (partialPath destination) chunks brokenOff es none) :
    Installing destination chunks brokenOff
      (es ++ [(.rename (partialPath destination) destination, none)]) none

theorem copyOn_copying {result : Except SystemError Nat}
    (h : copyOn mishaps k brokenOff chunks written d = (result, d')) :
    ∃ es, d'.log = d.log ++ es ∧ Copying k brokenOff chunks es (Disk.errorOf? result) := by
  induction chunks generalizing written d with
  | nil =>
    cases brokenOff with
    | none | some =>
      cases h
      exact ⟨[], (List.append_nil _).symm, .arrived⟩
  | cons chunk chunks ih =>
    unfold copyOn at h
    rcases ha : d.append mishaps k chunk with ⟨e | _, d₁⟩ <;> rw [ha] at h
    all_goals
      obtain ⟨-, -, -, hlog⟩ := Disk.append_answer ha
    · cases h
      exact ⟨_, hlog, .refused e⟩
    · obtain ⟨es, hes, hcopying⟩ := ih h
      rw [hlog, List.append_assoc] at hes
      exact ⟨_, hes, .stored hcopying⟩

theorem writeBodyOn_writing {result : Except SystemError Nat}
    (h : writeBodyOn mishaps p chunks brokenOff d = (result, d')) :
    ∃ es, d'.log = d.log ++ es ∧ Writing p chunks brokenOff es (Disk.errorOf? result) := by
  unfold writeBodyOn Disk.openFile at h
  rcases ho : d.ask mishaps (.openFile p) (·.write p []) with ⟨e | _, d₁⟩ <;> rw [ho] at h
  · cases h
    exact ⟨_, (Disk.ask_error ho).2, .notOpened e⟩
  obtain ⟨hopen, hlog⟩ := Disk.ask_ok ho
  obtain ⟨k, hk⟩ := exists_locate_of_write hopen
  simp only [hk] at h
  rcases hc : copyOn mishaps k brokenOff chunks 0 d₁ with ⟨e | written, d₂⟩ <;> rw [hc] at h
  all_goals
    obtain ⟨es, hes, hcopying⟩ := copyOn_copying hc
    rw [hlog, List.append_assoc] at hes
  · cases h
    exact ⟨_, hes, .notCopied hcopying⟩
  simp only at h
  rcases hsync : d₂.sync mishaps k with ⟨e | _, d₃⟩ <;> rw [hsync] at h
  · have hlog₃ := (Disk.ask_error hsync).2
    cases h
    rw [hes, List.append_assoc] at hlog₃
    exact ⟨_, hlog₃, .synced hcopying (some e)⟩
  · have hlog₃ := (Disk.ask_ok hsync).2
    cases h
    rw [hes, List.append_assoc] at hlog₃
    exact ⟨_, hlog₃, .synced hcopying none⟩

theorem removeFile_log (p : Path) (d : Disk) :
    ∃ answer, (d.removeFile p).2.log = d.log ++ [(.removeFile p, answer)] := by
  rcases h : d.removeFile p with ⟨e | _, d'⟩
  · exact ⟨_, (Disk.ask_error h).2⟩
  · exact ⟨_, (Disk.ask_ok h).2⟩

/-! ## Taking the place of the destination -/

/-- A download is not written to the file that it is to replace. -/
theorem ne_of_beside (hext : destination.extension? ≠ some (Text.Utf8.encode "partial".toList))
    (hk : files.locate false (partialPath destination) = .ok k) (hv : IsVacant (files.get? k))
    (hm : files.locate false destination = .ok m) : m ≠ k := by
  have hdir : files.hasDirectory m = true → m ≠ k := by
    rintro hd rfl
    simp [hv.hasDirectory] at hd
  rcases hname : destination.fileName? with _ | name
  · exact hdir (hasDirectory_of_nameless hname hm)
  obtain ⟨front, hends, hn⟩ := Path.exists_of_fileName? hname
  have hr : IsEntryName (Path.renamed name (Text.Utf8.encode "partial".toList)) :=
    Path.isEntryName_renamed hn.slash_not_mem (by decide) (by decide)
  rw [partialPath, Path.withExtension_eq hname hends hr] at hk
  obtain ⟨links, l, hl, rfl, -⟩ := locate_child hr hk
  rcases entry_of_locate hends hn hm with hd | ⟨links', l', -, rfl⟩
  · exact hdir hd
  · intro he
    have hne : Path.renamed name (Text.Utf8.encode "partial".toList) ≠ name :=
      Path.renamed_ne (by simpa [Path.extension?, hname] using hext)
    have hlast := List.append_inj_right' he rfl
    exact hne (List.singleton_inj.mp hlast).symm

/-- The destination holds all of a body now, and nothing stands where the path beside it led. -/
structure Replaced (destination : Path) (files files' : Files) (body : Bytes) : Prop where
  directory : files'.directory = files.directory
  holds : ∃ m permissions, files.locate false destination = .ok m ∧
    files'.get? m = some (.file body permissions)
  same : ∀ x, files.locate false destination ≠ .ok x →
    files.locate false (partialPath destination) ≠ .ok x → files'.get? x = files.get? x
  gone : ∀ k, files.locate false (partialPath destination) = .ok k → files'.get? k = none
  absent : Absent files' (partialPath destination)
  /-- The path itself leads to the body, unless a link stood there, through which it may pass. -/
  readable : (∀ m target, files.locate false destination = .ok m →
    files.get? m ≠ some (.link target)) →
    files'.read destination = .ok body

theorem rename_ok {source target : Path} {files' : Files} {n : Node}
    (hk : files.locate false source = .ok k) (hg : files.get? k = some n)
    (hne : ∀ m, files.locate false target = .ok m → m ≠ k)
    (h : files.rename source target = .ok files') :
    ∃ m, files.locate false target = .ok m ∧ files.get? m ≠ some .directory ∧
      files' = (files.erase k).put m n := by
  unfold rename at h
  simp only [hk, hg] at h
  split at h
  · cases h
  · next m hm =>
    rw [if_neg (hne m hm).symm] at h
    split at h
    · cases h
    · next hdir => exact ⟨m, hm, hdir, (Except.ok.inj h).symm⟩

/-- What a moved file leaves. -/
theorem replaced_of_get {files' : Files} {permissions : Permissions}
    (hk : files.locate false (partialPath destination) = .ok k) (hv : IsVacant (files.get? k))
    (hm : files.locate false destination = .ok m) (hmk : m ≠ k)
    (hdir : files.get? m ≠ some .directory) (hd : files'.directory = files.directory)
    (hget : ∀ x, files'.get? x =
      if x = m then some (.file content permissions) else if x = k then none else files.get? x) :
    Replaced destination files files' content := by
  have hfile : files'.get? m = some (.file content permissions) := by rw [hget, if_pos rfl]
  have hgone : files'.get? k = none := by rw [hget, if_neg hmk.symm, if_pos rfl]
  -- Both locations are ends of ways now, so the ways that there are have been there before.
  have hback (x : Location) (hx : ¬IsEnd (files'.get? x)) : files.get? x = files'.get? x := by
    have hxm : x ≠ m := by
      rintro rfl
      rw [hfile] at hx
      exact hx (IsVacant.isEnd (.inr ⟨_, _, rfl⟩))
    have hxk : x ≠ k := by
      rintro rfl
      rw [hgone] at hx
      exact hx isEnd_none
    rw [hget, if_neg hxm, if_neg hxk]
  refine ⟨hd, ⟨m, permissions, hm, hfile⟩, fun x hxm hxk => ?_, fun x hx => ?_, fun x hx => ?_,
    fun hlink => ?_⟩
  · rw [hget, if_neg, if_neg]
    · rintro rfl
      exact hxk hk
    · rintro rfl
      exact hxm hm
  · obtain rfl := Except.ok.inj (hk.symm.trans hx)
    exact hgone
  · obtain rfl := Except.ok.inj (hk.symm.trans (locate_onward hd.symm hback hx))
    exact hgone
  · -- With no link at the destination, the ways that there were are still there and lead to the
    -- file.
    have honward (x : Location) (hx : ¬IsEnd (files.get? x)) : files'.get? x = files.get? x := by
      have hxm : x ≠ m := by
        rintro rfl
        exact hx ⟨hdir, fun target => hlink x target hm⟩
      have hxk : x ≠ k := by
        rintro rfl
        exact hx hv.isEnd
      rw [hget, if_neg hxm, if_neg hxk]
    have hread := locate_true_of_locate_false (locate_onward hd honward hm) (by simp [hfile])
    simp only [Files.read, stat, hread, hfile]

/-- A file that is moved to its destination takes its place. -/
theorem replaced_of_rename
    (hext : destination.extension? ≠ some (Text.Utf8.encode "partial".toList))
    {stored files' : Files} (hs : Storing (partialPath destination) k files stored content)
    (h : stored.rename (partialPath destination) destination = .ok files') :
    Replaced destination files files' content := by
  obtain ⟨permissions, hg⟩ := hs.holds
  have hne : ∀ m, stored.locate false destination = .ok m → m ≠ k := fun m hm =>
    ne_of_beside hext hs.located hs.vacant (hs.locate_iff.mp hm)
  obtain ⟨m, hm, hdir, rfl⟩ := rename_ok (hs.locate_iff.mpr hs.located) hg hne h
  have hmk := hne m hm
  have hm0 : m ≠ [] := by
    rintro rfl
    exact hdir rfl
  have herase := fun x => get?_erase stored k x hs.vacant.ne_nil hs.isVacant.hasDirectory
  have habove : (stored.erase k).hasDirectory m.dropLast = true := by
    have hd := hasDirectory_iff.mp (locate_dropLast hm)
    rw [hasDirectory_iff, herase, if_neg, hd]
    intro he
    rw [he, hg] at hd
    cases hd
  have hget (x : Location) : ((stored.erase k).put m (.file content permissions)).get? x =
      if x = m then some (.file content permissions) else if x = k then none else files.get? x := by
    rw [get?_put _ _ _ hm0 habove (by simp [hasDirectory, herase, hmk, hdir]), herase]
    split
    · rfl
    split
    · rfl
    · next hx => exact hs.same x hx
  exact replaced_of_get hs.located hs.vacant (hs.locate_iff.mp hm) hmk (hs.same m hmk ▸ hdir)
    hs.directory hget

/-! ## Whole downloads -/

/-- Storing a body replaces the destination by all of it, or leaves nothing behind. -/
theorem installOn_spec {result : Except Failure Nat}
    (hext : destination.extension? ≠ some (Text.Utf8.encode "partial".toList))
    (hv : ∀ k, d.files.locate false (partialPath destination) = .ok k → IsVacant (d.files.get? k))
    (h : installOn mishaps destination chunks brokenOff d = (result, d')) :
    (∃ path e es answer, result = .error (.notStored path e) ∧
      Installing destination chunks brokenOff es (some (path, e)) ∧
      d'.log = d.log ++ es ++ [(.removeFile (partialPath destination), answer)] ∧
      Withdrawn (partialPath destination) d.files d'.files) ∨
    ∃ es, result = .ok chunks.flatten.length ∧ brokenOff = none ∧
      Installing destination chunks brokenOff es none ∧ d'.log = d.log ++ es ∧
      Replaced destination d.files d'.files chunks.flatten := by
  unfold installOn at h
  simp only at h
  rcases hw : writeBodyOn mishaps (partialPath destination) chunks brokenOff d
    with ⟨e | written, d₁⟩ <;> rw [hw] at h
  all_goals
    obtain ⟨es, hes, hwriting⟩ := writeBodyOn_writing hw
  · cases h
    obtain ⟨answer, hremoved⟩ := removeFile_log (partialPath destination) d₁
    refine .inl ⟨_, _, es, answer, rfl, .notWritten hwriting, by rw [hremoved, hes], ?_⟩
    rw [removeFile_files]
    rcases writeBodyOn_spec hv hw with ⟨-, -, hfiles⟩ | ⟨k, content, hs, -⟩
    · rw [hfiles]
      exact withdrawn_discard hv
    · exact withdrawn_of_storing hs
  rcases writeBodyOn_spec hv hw with ⟨e, he, -⟩ | ⟨k, content, hs, hok⟩
  · cases he
  obtain ⟨rfl, rfl, hb⟩ := hok written rfl
  simp only at h
  rcases hr : d₁.rename mishaps (partialPath destination) destination
    with ⟨e | _, d₂⟩ <;> rw [hr] at h
  · cases h
    obtain ⟨hfiles, hlog⟩ := Disk.ask_error hr
    obtain ⟨answer, hremoved⟩ := removeFile_log (partialPath destination) d₂
    rw [hes, List.append_assoc] at hlog
    refine .inl ⟨_, _, _, answer, rfl, .notMoved e hwriting, by rw [hremoved, hlog], ?_⟩
    rw [removeFile_files, hfiles]
    exact withdrawn_of_storing hs
  · cases h
    obtain ⟨hfiles, hlog⟩ := Disk.ask_ok hr
    rw [hes, List.append_assoc] at hlog
    exact .inr ⟨_, rfl, hb, .moved hwriting, hlog, replaced_of_rename hext hs hfiles⟩

/-- The destination is what it was. -/
structure Kept (destination : Path) (files files' : Files) : Prop where
  located : ∀ m, files'.locate false destination = .ok m ↔ files.locate false destination = .ok m
  same : ∀ m, files.locate false destination = .ok m → files'.get? m = files.get? m

theorem kept_of_withdrawn {files' : Files}
    (hext : destination.extension? ≠ some (Text.Utf8.encode "partial".toList))
    (hv : ∀ k, files.locate false (partialPath destination) = .ok k → IsVacant (files.get? k))
    (h : Withdrawn (partialPath destination) files files') : Kept destination files files' where
  located _ := h.locate_iff fun k hk => (hv k hk).isEnd
  same m hm := h.same m fun hk => ne_of_beside hext hk (hv m hk) hm rfl

theorem absent_of_withdrawn {files' : Files} (hv : ∀ k, files.locate false p = .ok k →
    IsVacant (files.get? k)) (h : Withdrawn p files files') : Absent files' p := fun k hk =>
  h.gone k ((h.locate_iff fun k hk => (hv k hk).isEnd).mp hk)

/-- How a download ends that was answered like this, what it leaves in a scene, and what has been
asked of the disk. When the body is not stored the last request but one was refused, unless the body
broke off, and the last one removes the file beside the destination. -/
inductive Settled {σ : Type} (url : Url) (destination : Path) (s : Scene σ) :
    Reply → Except Failure Nat → Scene σ → List Disk.Entry → Prop
  | noAnswer (cause : String) :
    Settled url destination s (.noAnswer cause) (.error (.noAnswer url.text cause)) s []
  | badStatus {status : Nat} {chunks : List Bytes} {brokenOff : Option SystemError}
    (h : isSuccess status = false) :
    Settled url destination s (.answer status chunks brokenOff)
      (.error (.badStatus url.text status)) s []
  | notStored {status : Nat} {chunks : List Bytes} {brokenOff : Option SystemError} {path : Path}
    {e : SystemError} {files : Files} {es : List Disk.Entry} {answer : Option SystemError}
    (h : isSuccess status = true)
    (installing : Installing destination chunks brokenOff es (some (path, e)))
    (kept : Kept destination s.files files)
    (withdrawn : Withdrawn (partialPath destination) s.files files)
    (absent : Absent files (partialPath destination)) :
    Settled url destination s (.answer status chunks brokenOff) (.error (.notStored path e))
      { s with files } (es ++ [(.removeFile (partialPath destination), answer)])
  | stored {status : Nat} {chunks : List Bytes} {files : Files} {es : List Disk.Entry}
    (h : isSuccess status = true) (installing : Installing destination chunks none es none)
    (replaced : Replaced destination s.files files chunks.flatten) :
    Settled url destination s (.answer status chunks none) (.ok chunks.flatten.length)
      { s with files } es

/-- Whatever happens to a request for a download, to the body that is sent or to the disk, the
destination holds all of the body afterwards or what it held before, nothing is left beside it, and
nothing else changes. A request that is not answered with success asks nothing of the disk. Without
mishaps the download is that of the fetcher. -/
theorem fetchingOn_atomic {σ : Type} {network : Network σ} {url : Url} {timeout : Duration}
    {s s₁ s' : Scene σ} {reply : Reply} {result : Except Failure Nat} {log : List Disk.Entry}
    (hext : destination.extension? ≠ some (Text.Utf8.encode "partial".toList))
    (hreply : network url timeout s = (reply, s₁))
    (hv : ∀ k, s₁.files.locate false (partialPath destination) = .ok k → IsVacant (s₁.files.get? k))
    (h : fetchingOn mishaps network url destination timeout s = (result, s', log)) :
    Settled url destination s₁ reply result s' log ∧
      (mishaps = .calm → fetching network url destination timeout s = (result, s')) := by
  constructor
  · unfold fetchingOn at h
    rw [hreply] at h
    rcases reply with cause | ⟨status, chunks, brokenOff⟩
    · cases h
      exact .noAnswer cause
    simp only at h
    split at h
    · next hstatus =>
      rcases hi : installOn mishaps destination chunks brokenOff ⟨s₁.files, []⟩ with ⟨result', d⟩
      rw [hi] at h
      cases h
      rcases installOn_spec hext hv hi with ⟨path, e, es, answer, rfl, hinstalling, hlog, hw⟩ |
        ⟨es, rfl, rfl, hinstalling, hlog, hr⟩
      all_goals
        simp only [List.nil_append] at hlog
        rw [hlog]
      · exact .notStored hstatus hinstalling (kept_of_withdrawn hext hv hw) hw
          (absent_of_withdrawn hv hw)
      · exact .stored hstatus hinstalling hr
    · next hstatus =>
      cases h
      exact .badStatus (by simpa using hstatus)
  · rintro rfl
    obtain ⟨log', hcalm⟩ := fetchingOn_calm network url destination timeout s
    rw [h] at hcalm
    simp only [Prod.mk.injEq] at hcalm
    exact Prod.ext hcalm.1.symm hcalm.2.1.symm

/-- A directory with an archive that has been downloaded before. -/
def shelf : Scene Unit where
  files := ⟨[([Text.Utf8.encode "work".toList, Text.Utf8.encode "clarinet.tar.gz".toList],
    .file [9] .plain), ([Text.Utf8.encode "work".toList], .directory)], []⟩
  cancelled := false
  state := ()

/-- Where that archive stands. -/
def shelved : Path := .ofString "/work/clarinet.tar.gz"

/-- Where a newer one comes from. -/
def origin : Url := ⟨"https".toList, none, .segments [], none, none⟩

/-- A server that sends four bytes in two chunks, whatever it is asked. -/
def sending : Network Unit := fun _ _ s => (.answer 200 [[1, 2], [3, 4]] none, s)

/-- A disk that is full when half of the second chunk has been stored. -/
def full : Mishaps := fun k => if k = 2 then some ⟨.code 28, 1⟩ else none

theorem fetchingOn_atomic_full : ∃ s' log s'' log',
    fetchingOn full sending origin shelved (.ofMilliseconds 1) shelf =
      (.error (.notStored (partialPath shelved) (.code 28)), s', log) ∧
    Settled origin shelved shelf (.answer 200 [[1, 2], [3, 4]] none)
      (.error (.notStored (partialPath shelved) (.code 28))) s' log ∧
    fetchingOn .calm sending origin shelved (.ofMilliseconds 1) shelf = (.ok 4, s'', log') ∧
    Settled origin shelved shelf (.answer 200 [[1, 2], [3, 4]] none) (.ok 4) s'' log' := by
  have hext : shelved.extension? ≠ some (Text.Utf8.encode "partial".toList) := by decide
  have hk : shelf.files.locate false (partialPath shelved) =
      .ok [Text.Utf8.encode "work".toList, Text.Utf8.encode "clarinet.tar.partial".toList] := by cbv
  have hv : ∀ k, shelf.files.locate false (partialPath shelved) = .ok k →
      IsVacant (shelf.files.get? k) := by
    intro k h
    obtain rfl := Except.ok.inj (hk.symm.trans h)
    exact .inl (by decide)
  have hfull : (fetchingOn full sending origin shelved (.ofMilliseconds 1) shelf).1 =
      .error (.notStored (partialPath shelved) (.code 28)) := by cbv
  have hcalm : (fetchingOn .calm sending origin shelved (.ofMilliseconds 1) shelf).1 = .ok 4 := by
    cbv
  rcases h : fetchingOn full sending origin shelved (.ofMilliseconds 1) shelf with ⟨result, s', log⟩
  rcases h' : fetchingOn .calm sending origin shelved (.ofMilliseconds 1) shelf with
    ⟨result', s'', log'⟩
  rw [h] at hfull
  rw [h'] at hcalm
  obtain rfl := hfull
  obtain rfl := hcalm
  exact ⟨s', log, s'', log', rfl, (fetchingOn_atomic hext rfl hv h).1, rfl,
    (fetchingOn_atomic hext rfl hv h').1⟩

end Download

end ClarityCheck
