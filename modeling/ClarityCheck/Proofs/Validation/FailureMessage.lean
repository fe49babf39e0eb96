import ClarityCheck.Proofs.Json.Roundtrip
import ClarityCheck.Validation.Verdict
import Mathlib.Tactic.MkIffOfInductiveProp

/-!
# The error of a verdict

A failed run has a single error. When it has printed a JSON object, compact and with blanks around
it, this is the string `message` of the object, else its string `error`, else what was printed; a
text that is no such JSON stands for itself, and so does the wording of a run that did not finish.

* `messageOf_of_holds`: an object that was printed is judged by its own members
* `ofString?_message`: no wording of a failure is JSON
* `classify_reports`: success and the single error of every outcome
-/

namespace ClarityCheck.Validation

open Text Json

/-! ## Messages in a value -/

/-- The value has no member of this name that is a string. -/
def Lacks (name : String) (v : Json) : Prop := ∀ s, v.get? name ≠ some (.str s)

/-- The error that a value stands for: its `message`, else its `error`, else the text it was read
from. -/
@[mk_iff]
structure MessageOf (v : Json) (text error : String) : Prop where
  byMessage : ∀ s, v.get? "message" = some (.str s) → error = s
  byError : Lacks "message" v → ∀ s, v.get? "error" = some (.str s) → error = s
  byText : Lacks "message" v → Lacks "error" v → error = text

theorem lacks_asRead_iff {name : String} {v : Json} : Lacks name v.asRead ↔ Lacks name v := by
  simp only [Lacks, ne_eq, get?_asRead_eq_str_iff]

/-- Reading a printed value back changes nothing about its message. -/
theorem messageOf_asRead_iff {v : Json} {text error : String} :
    MessageOf v.asRead text error ↔ MessageOf v text error := by
  simp only [messageOf_iff, lacks_asRead_iff, get?_asRead_eq_str_iff]

/-- A member that is a string is found, another one is passed over. -/
theorem bind_string?_eq_some_iff {x : Option Json} {s : String} :
    x.bind Json.string? = some s ↔ x = some (.str s) := by
  cases x with
  | none => simp
  | some v => cases v <;> simp [Json.string?]

theorem messageOf_textMember? (v : Json) (text : String) :
    MessageOf v text ((textMember? ["message", "error"] v).getD text) := by
  have hlacks : ∀ {name}, Lacks name v → (v.get? name).bind Json.string? = none := fun h =>
    Option.eq_none_iff_forall_ne_some.mpr fun s hs => h s (bind_string?_eq_some_iff.mp hs)
  have hfound : ∀ {name s}, v.get? name = some (.str s) →
      (v.get? name).bind Json.string? = some s :=
    bind_string?_eq_some_iff.mpr
  constructor
  · intro s hs
    simp [textMember?, hfound hs]
  · intro hm s hs
    simp [textMember?, hlacks hm, hfound hs]
  · intro hm he
    simp [textMember?, hlacks hm, hlacks he]

/-- A text is judged by the value it holds, or is its own error. -/
structure Judged (text error : String) : Prop where
  unread : ofString? text = none → error = text
  read : ∀ v, ofString? text = some v → MessageOf v text error

theorem judged_preferredMessage (text : String) : Judged text (preferredMessage text) := by
  unfold preferredMessage
  constructor
  · intro h
    simp [h]
  · intro v h
    simpa [h] using messageOf_textMember? v text

/-- A printed value is judged by its own members, although its integers may be read as doubles. -/
theorem messageOf_of_holds {text error : String} {v : Json} (hj : Judged text error)
    (hv : Fits nestingLimit v) (h : Holds text v) : MessageOf v text error :=
  messageOf_asRead_iff.mp (hj.read _ (ofString?_of_holds h hv))

/-! ## Wordings of failures -/

theorem ofString?_eq_none {text : String} {e : Fault}
    (h : plain (readValue nestingLimit text.toList) = .error e) : ofString? text = none := by
  unfold ofString? ofChars
  cases hr : readValue nestingLimit text.toList with
  | ok x => simp [hr, plain, Except.map] at h
  | error e => rfl

/-- A word that begins like `false` but goes on differently is no value. -/
theorem ofString?_eq_none_of_word {text : String} {s : List Char}
    (h : text.toList = 'f' :: 'a' :: 'i' :: s) : ofString? text = none := by
  refine ofString?_eq_none (e := .inView .expectedWord ('i' :: s)) ?_
  rw [h]
  rfl

/-- No value begins with these characters. -/
theorem ofString?_eq_none_of_head {text : String} {c : Char} {s : List Char}
    (hc : c ∈ ['\'', 'I', 'o']) (h : text.toList = c :: s) : ofString? text = none := by
  refine ofString?_eq_none (e := .inView .expectedValue (c :: s)) ?_
  rw [h]
  simp only [List.mem_cons, List.not_mem_nil, or_false] at hc
  rcases hc with rfl | rfl | rfl <;> rfl

/-- No wording of a failure is JSON. -/
theorem ofString?_message (f : Run.Failure) : ofString? f.message = none := by
  obtain ⟨program, cause⟩ := f
  -- Each wording is settled by its first characters, whatever the program and the error are.
  cases cause <;> simp only [Run.Failure.message, String.append_assoc]
  case notStarted => exact ofString?_eq_none_of_word (by rw [String.toList_append]; rfl)
  case noDeadline => exact ofString?_eq_none_of_head (c := 'o') (by decide) rfl
  case unwatched =>
    exact ofString?_eq_none_of_head (c := 'I') (by decide) (by rw [String.toList_append]; rfl)
  all_goals
    exact ofString?_eq_none_of_head (c := '\'') (by decide) (by rw [String.toList_append]; rfl)

/-! ## Verdicts -/

/-- The single error of a run that failed with an output. -/
structure Reports (o : Run.Output) (error : String) : Prop where
  ofStdout : ∀ v, Fits nestingLimit v → Holds o.stdout v → MessageOf v o.stdout error
  ofStderr : ∀ v, Fits nestingLimit v → isBlankString o.stdout = true → Holds o.stderr v →
    MessageOf v o.stderr error
  stdout : isBlankString o.stdout = false → Judged o.stdout error
  stderr : isBlankString o.stdout = true → isBlankString o.stderr = false → Judged o.stderr error
  silent : isBlankString o.stdout = true → isBlankString o.stderr = true →
    error = exitDescription o.status

theorem reports_failureText (o : Run.Output) : Reports o (Verdict.failureText o) := by
  have hstdout : isBlankString o.stdout = false → Judged o.stdout (Verdict.failureText o) := by
    intro h
    simpa [Verdict.failureText, h] using judged_preferredMessage o.stdout
  have hstderr : isBlankString o.stdout = true → isBlankString o.stderr = false →
      Judged o.stderr (Verdict.failureText o) := by
    intro h h'
    simpa [Verdict.failureText, h, h'] using judged_preferredMessage o.stderr
  exact {
    ofStdout := fun v hv h => messageOf_of_holds (hstdout (h.not_blank hv)) hv h
    ofStderr := fun v hv hb h => messageOf_of_holds (hstderr hb (h.not_blank hv)) hv h
    stdout := hstdout
    stderr := hstderr
    silent := fun h h' => by simp [Verdict.failureText, h, h'] }

/-- A wording of a failure is its own error. -/
theorem preferredMessage_message (f : Run.Failure) : preferredMessage f.message = f.message :=
  (judged_preferredMessage f.message).unread (ofString?_message f)

/-- An outcome is a success exactly when its status is zero. A run that failed has a single error,
which is what it printed says, and a run that did not finish has its wording for one. -/
theorem classify_reports (outcome : Run.Outcome) :
    ((Verdict.classify outcome).success = true ↔ ∃ o, outcome = .ok o ∧ o.status = some 0) ∧
    (∀ o, outcome = .ok o → o.status ≠ some 0 →
      ∃ error, (Verdict.classify outcome).errors = [error] ∧ Reports o error) ∧
    ∀ f, outcome = .error f → (Verdict.classify outcome).errors = [f.message] := by
  cases outcome with
  | ok o =>
    have hsuccess : o.success = true ↔ o.status = some 0 := beq_iff_eq
    refine ⟨?_, ?_, by simp⟩
    · by_cases h : o.status = some 0
      · simp [Verdict.classify, hsuccess.mpr h, h]
      · simp [Verdict.classify, mt hsuccess.mp h, h]
    · rintro _ ⟨⟩ h
      refine ⟨Verdict.failureText o, ?_, reports_failureText o⟩
      rw [Verdict.classify, if_neg (mt hsuccess.mp h)]
  | error f =>
    refine ⟨by simp [Verdict.classify, Verdict.failure], by simp, ?_⟩
    rintro _ ⟨⟩
    rw [Verdict.classify, preferredMessage_message, Verdict.failure]

/-- A `message` that is no string is passed over, and the escapes of the one that counts are undone.
-/
example : (Verdict.classify (.ok ⟨none, "\x7b\"message\":[-1],\"error\":\"no \\\"x\\\"\"\x7d\n", "",
    false⟩)).errors = ["no \"x\""] := by cbv

/-! ## Integers that are too large -/

/-- An object is not read when the value of its first member is not. -/
theorem ofString?_obj_eq_none {k : String} {v : Json} {ms : List (String × Json)} {e : Fault}
    (h : readValue 126 (v.render ++ (renderMembers ms ++ ['\x7d'])) = .error e) :
    ofString? (compress (.obj ((k, v) :: ms))) = none := by
  have hquote := skipSpace_cons (c := '"') (by decide)
    (memberText k v (renderMembers ms ++ ['\x7d']))
  obtain ⟨_, e₁⟩ := (yields_readString k.toList
    (':' :: (v.render ++ (renderMembers ms ++ ['\x7d'])))).eq
  obtain ⟨_, e₂⟩ := (yields_readColon (v.render ++ (renderMembers ms ++ ['\x7d']))).eq
  have hmember : readMembers (readValue 126)
      ('"' :: memberText k v (renderMembers ms ++ ['\x7d'])) = .error e := by
    unfold readMembers
    split
    · next h => simp [hquote] at h
    · next c t hs =>
      obtain ⟨rfl, rfl⟩ := List.cons.inj (hquote.symm.trans hs)
      simp [readMember, memberText, e₁, e₂, h]
  have htext : (compress (.obj ((k, v) :: ms))).toList
      = '\x7b' :: '"' :: memberText k v (renderMembers ms ++ ['\x7d']) := by
    simp [compress, render_obj_cons, renderString, memberText]
  refine ofString?_eq_none (e := e) ?_
  rw [htext, plain_readValue, skipSpace_cons (by decide)]
  dsimp only [nestingLimit]
  rw [if_pos (.inr rfl), if_neg (by decide), readObject, hmember]
  rfl

/-- An object with an integer at the limit and a message. -/
def overlong : Json := .obj [("n", .num (.integer integerLimit)), ("message", .str "x")]

/-- An integer at the limit keeps the message from being read. -/
theorem message_not_read :
    overlong.get? "message" = some (.str "x") ∧
      (Verdict.classify (.ok ⟨some 1, compress overlong, "", false⟩)).errors = [compress overlong] ∧
      compress overlong ≠ "x" := by
  have hrender : (Json.num (.integer integerLimit)).render = Nat.toDigits 10 integerLimit := by
    rw [render_num, render_integer, if_neg (by omega), Int.natAbs_natCast]
  have hnumber : (readValue 126 (Nat.toDigits 10 integerLimit
      ++ (renderMembers [("message", .str "x")] ++ ['\x7d']))).toOption.isNone = true := by
    decide +kernel
  rw [← hrender] at hnumber
  have hnone : ofString? (compress overlong) = none := by
    revert hnumber
    cases hread : readValue 126 _ with
    | ok x => exact fun h => nomatch h
    | error e => exact fun _ => ofString?_obj_eq_none hread
  have hblank : isBlankString (compress overlong) = false := by
    rw [isBlankString, compress, String.toList_ofList, overlong, render_obj_cons]
    rfl
  refine ⟨rfl, ?_, fun h => ?_⟩
  · rw [Verdict.classify, if_neg (by decide), Verdict.failureText, hblank, if_pos (by decide),
      preferredMessage, hnone]
    rfl
  · have := congrArg String.toList h
    rw [compress, String.toList_ofList, overlong, render_obj_cons] at this
    exact absurd (congrArg List.head? this) (by decide)

end ClarityCheck.Validation
