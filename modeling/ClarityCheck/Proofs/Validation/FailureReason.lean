import ClarityCheck.Proofs.Validation.FailureMessage
import Mathlib

/-!
# Reasons of failures

A failure is reported with a single error. It says something, except when the run has printed JSON
whose message says nothing: that message is taken although it is blank, also when there is an
`error` beside it that is not.

* `isBlankString_of_judged`: when a text leads to a blank error
* `reason_iff`: which failures have a reason
* `message_hides_error`: a failure without one
-/

namespace ClarityCheck.Validation

open Text Json

/-! ## Texts that say something -/

/-- The text says something: not all of it is blank. -/
def SaysSomething (text : String) : Prop := ∃ c ∈ text.toList, isBlank c = false

theorem saysSomething_iff {text : String} : SaysSomething text ↔ isBlankString text = false := by
  simp [SaysSomething, isBlankString]

theorem saysSomething_of_head {text : String} {c : Char} {s : List Char} (h : text.toList = c :: s)
    (hc : isBlank c = false) : SaysSomething text :=
  ⟨c, by simp [h], hc⟩

theorem saysSomething_exitDescription (status : Option Int) :
    SaysSomething (exitDescription status) := by
  cases status with
  | none => exact saysSomething_of_head (c := 'c') rfl (by decide)
  | some n =>
    have htext : (exitDescription (some n)).toList =
        "compiler exited with status ".toList ++ (toString n).toList := String.toList_append
    exact saysSomething_of_head (htext.trans rfl) (by decide)

theorem saysSomething_message (f : Run.Failure) : SaysSomething f.message := by
  obtain ⟨program, cause⟩ := f
  cases cause <;> simp only [Run.Failure.message, String.append_assoc]
  case notStarted =>
    exact saysSomething_of_head (c := 'f') (by rw [String.toList_append]; rfl) (by decide)
  case noDeadline => exact saysSomething_of_head (c := 'o') rfl (by decide)
  case unwatched =>
    exact saysSomething_of_head (c := 'I') (by rw [String.toList_append]; rfl) (by decide)
  all_goals exact saysSomething_of_head (c := '\'') (by rw [String.toList_append]; rfl) (by decide)

/-! ## Messages that say nothing -/

/-- The text is JSON with a blank message: its string `message`, or for want of one its string
`error`. -/
def HasBlankMessage (text : String) : Prop :=
  ∃ v s, ofString? text = some v ∧ isBlankString s = true ∧
    (v.get? "message" = some (.str s) ∨ Lacks "message" v ∧ v.get? "error" = some (.str s))

/-- A text that says something leads to a blank error exactly when it has a blank message. -/
theorem isBlankString_of_judged {text error : String} (hj : Judged text error)
    (ht : isBlankString text = false) : isBlankString error = true ↔ HasBlankMessage text := by
  have hself : isBlankString text ≠ true := by simp [ht]
  constructor
  · intro hb
    cases hv : ofString? text with
    | none => exact absurd (hj.unread hv ▸ hb) hself
    | some v =>
      have hm := hj.read v hv
      by_cases hmessage : Lacks "message" v
      · by_cases herror : Lacks "error" v
        · exact absurd (hm.byText hmessage herror ▸ hb) hself
        · obtain ⟨s, hs⟩ := by simpa [Lacks] using herror
          exact ⟨v, s, hv, hm.byError hmessage s hs ▸ hb, .inr ⟨hmessage, hs⟩⟩
      · obtain ⟨s, hs⟩ := by simpa [Lacks] using hmessage
        exact ⟨v, s, hv, hm.byMessage s hs ▸ hb, .inl hs⟩
  · rintro ⟨v, s, hv, hb, hs | ⟨hmessage, hs⟩⟩
    · rw [(hj.read v hv).byMessage s hs, hb]
    · rw [(hj.read v hv).byError hmessage s hs, hb]

/-! ## Failures -/

/-- The text that a run is judged by when it has failed: what it printed, or what it printed as
errors when it printed nothing else. -/
inductive Prints (o : Run.Output) : String → Prop
  | stdout (h : isBlankString o.stdout = false) : Prints o o.stdout
  | stderr (h : isBlankString o.stdout = true) (h' : isBlankString o.stderr = false) :
      Prints o o.stderr

/-- The outcome is a run that printed JSON with a blank message. -/
def HidesReason (outcome : Run.Outcome) : Prop :=
  ∃ o text, outcome = .ok o ∧ Prints o text ∧ HasBlankMessage text

theorem not_hidesReason_error (f : Run.Failure) : ¬HidesReason (.error f) := by
  rintro ⟨o, text, h, -⟩
  cases h

/-- The error of a failed run with an output says something unless the run hides its reason. -/
theorem saysSomething_failureText_iff (o : Run.Output) :
    SaysSomething (Verdict.failureText o) ↔ ¬HidesReason (.ok o) := by
  have hprints {text : String} (hp : Prints o text) (hj : Judged text (Verdict.failureText o)) :
      SaysSomething (Verdict.failureText o) ↔ ¬HasBlankMessage text := by
    have ht : isBlankString text = false := by cases hp <;> assumption
    rw [saysSomething_iff, ← isBlankString_of_judged hj ht, Bool.not_eq_true]
  have hreports := reports_failureText o
  cases hout : isBlankString o.stdout with
  | false =>
    rw [hprints (.stdout hout) (hreports.stdout hout), not_iff_not]
    refine ⟨fun h => ⟨o, o.stdout, rfl, .stdout hout, h⟩, ?_⟩
    rintro ⟨_, _, ⟨⟩, hp, h⟩
    cases hp with
    | stdout => exact h
    | stderr h' => simp [hout] at h'
  | true =>
    cases herr : isBlankString o.stderr with
    | false =>
      rw [hprints (.stderr hout herr) (hreports.stderr hout herr), not_iff_not]
      refine ⟨fun h => ⟨o, o.stderr, rfl, .stderr hout herr, h⟩, ?_⟩
      rintro ⟨_, _, ⟨⟩, hp, h⟩
      cases hp with
      | stdout h' => simp [hout] at h'
      | stderr => exact h
    | true =>
      rw [hreports.silent hout herr]
      refine iff_of_true (saysSomething_exitDescription o.status) ?_
      rintro ⟨_, _, ⟨⟩, hp, -⟩
      cases hp with
      | stdout h' => simp [hout] at h'
      | stderr _ h' => simp [herr] at h'

/-- An outcome is an exit with status zero, or it is reported with exactly one error, which says
something unless the outcome hides its reason. -/
theorem reason_iff (outcome : Run.Outcome) :
    (∃ o, outcome = .ok o ∧ o.status = some 0) ∨
    ∃ error, (Verdict.classify outcome).errors = [error] ∧
      (Verdict.classify outcome).toResponse = ⟨false, "", some error⟩ ∧
      (SaysSomething error ↔ ¬HidesReason outcome) := by
  cases outcome with
  | error f =>
    refine .inr ⟨f.message, ?_, ?_, iff_of_true (saysSomething_message f) (not_hidesReason_error f)⟩
    · rw [Verdict.classify, preferredMessage_message, Verdict.failure]
    · rw [Verdict.classify, preferredMessage_message, Verdict.failure]
      rfl
  | ok o =>
    by_cases h : o.status = some 0
    · exact .inl ⟨o, rfl, h⟩
    · have hfails : ¬o.success = true := by simpa [Run.Output.success] using h
      refine .inr ⟨Verdict.failureText o, ?_, ?_, saysSomething_failureText_iff o⟩
      · rw [Verdict.classify, if_neg hfails]
      · rw [Verdict.classify, if_neg hfails]
        rfl

/-- A blank `message` hides the `error` beside it. -/
theorem message_hides_error :
    let stdout := "\x7b\"message\":\"\",\"error\":\"use of unresolved name\"\x7d"
    SaysSomething stdout ∧ SaysSomething "use of unresolved name" ∧
      (Verdict.classify (.ok ⟨some 1, stdout, "", false⟩)).errors = [""] ∧ ¬SaysSomething "" := by
  refine ⟨⟨'"', by decide, by decide⟩, ⟨'u', by decide, by decide⟩, by cbv, ?_⟩
  rintro ⟨c, hc, -⟩
  simp at hc

end ClarityCheck.Validation
