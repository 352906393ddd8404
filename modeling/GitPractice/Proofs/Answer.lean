import GitPractice.Proofs.Checked
import GitPractice.Proofs.LineWords

/-!
# Typing a listed answer

An accepted command of a step, typed as a line, is an answer to the step: blank space around it does
not count (`words_trim`), and a command matches itself. It gets to be judged unless the session has
the line for itself, as a blank one or one that begins with a keyword (`handleLine_accepted`), and
the lesson moves on when its command has returned.
Lessons are not checked for such answers (`handleLine_reserved`).
-/

namespace GitPractice

open Text (trim words lower)
open Shell (Blanks)

namespace Text

theorem wordsOf_of_blank {c : Char} (h : isBlank c = true) (cs : List Char) :
    wordsOf (c :: cs) = wordsOf cs := by
  cases cs <;> simp [wordsOf, h]

theorem wordsOf_blanks_append {lead : List Char} (h : Blanks lead) (cs : List Char) :
    wordsOf (lead ++ cs) = wordsOf cs := by
  induction lead with
  | nil => rfl
  | cons c lead ih =>
    obtain ⟨hc, hlead⟩ := List.forall_mem_cons.1 h
    rw [List.cons_append, wordsOf_of_blank hc]
    exact ih hlead

theorem wordsOf_cons_cons {c : Char} (h : ¬ isBlank c = true) (d : Char) (cs : List Char) :
    wordsOf (c :: d :: cs)
      = if isBlank d then [c] :: wordsOf (d :: cs)
        else match wordsOf (d :: cs) with
          | [] => [[c]]
          | w :: ws => (c :: w) :: ws := by
  rw [wordsOf]
  exact if_neg h

theorem wordsOf_append_blanks (cs : List Char) {trail : List Char} (h : Blanks trail) :
    wordsOf (cs ++ trail) = wordsOf cs := by
  have hnil : wordsOf trail = [] := by
    have happend := wordsOf_blanks_append h []
    rwa [List.append_nil] at happend
  fun_induction wordsOf cs with
  | case1 => exact hnil
  | case2 c r hc ih => rw [List.cons_append, wordsOf_of_blank hc, ih]
  | case3 c hc =>
    rcases trail with _ | ⟨d, trail⟩
    · simp [wordsOf, hc]
    · have hd : isBlank d = true := h d List.mem_cons_self
      rw [List.singleton_append, wordsOf_cons_cons hc, if_pos hd, hnil]
  | case4 c hc d r hd ih =>
    rw [List.cons_append, List.cons_append, wordsOf_cons_cons hc, if_pos hd, ← List.cons_append,
      ih]
  | case5 c hc d r hd hr ih =>
    rw [List.cons_append, List.cons_append, wordsOf_cons_cons hc, if_neg hd, ← List.cons_append,
      ih, hr]
  | case6 c hc d r hd w ws hr ih =>
    rw [List.cons_append, List.cons_append, wordsOf_cons_cons hc, if_neg hd, ← List.cons_append,
      ih, hr]

theorem words_trim (s : String) : words (trim s) = words s := by
  obtain ⟨lead, trail, hlead, htrail, heq⟩ := Shell.toList_eq_trim s
  rw [words, words, heq, wordsOf_blanks_append hlead, wordsOf_append_blanks _ htrail]

/-- What holds of the ASCII characters one by one holds of them all. -/
theorem forall_ascii {P : Char → Prop} (h : ∀ n : Fin 0x80, P (Char.ofNat n.val)) {c : Char}
    (hc : c.toNat < 0x80) : P c := by
  have hp := h ⟨c.toNat, hc⟩
  rwa [Char.ofNat_toNat] at hp

end Text

/-! ## Judged -/

namespace Lesson

theorem normalizeCommand_trim (s : String) : normalizeCommand (trim s) = normalizeCommand s := by
  rw [normalizeCommand, Text.words_trim, normalizeCommand]

theorem commandsMatch_trim (answer : String) : commandsMatch (trim answer) answer = true := by
  simp [commandsMatch, normalizeCommand_trim]

end Lesson

namespace Course

variable [Regex.SizeLimit]

theorem isAnswer_trim {step : Step} {answer : String} (h : answer ∈ step.accepted) :
    isAnswer step (trim answer) = true := by
  have hmatch := List.any_eq_true.2 ⟨answer, h, Lesson.commandsMatch_trim answer⟩
  rw [isAnswer, hmatch, Bool.true_or]

theorem judge_of_accepted {c : Course} {step : Step} (hstep : c.currentStep? = some step)
    (hkind : step.kind = .command) {answer : String} (h : answer ∈ step.accepted) :
    (c.judge (trim answer)).2 = .pass step.successMessage true := by
  simp [judge, hstep, hkind, isAnswer_trim h]

end Course

/-! ## Typed -/

namespace Session

/-- An accepted command that a session does not take for itself is judged right when it is typed,
and leads on to the next step when it has been run. -/
theorem handleLine_accepted [Regex.SizeLimit] {s : Session} {step : Step}
    (hstep : s.course.currentStep? = some step) (hkind : step.kind = .command)
    {answer word : String} {args : List String}
    (hanswer : answer ∈ step.accepted) (hwords : words answer = word :: args)
    (hword : lower word ∉ ["quit", "exit", "lessons", "lesson", "hint", "skip", "reset", "status",
      "tree", "help"]) :
    (s.course.judge (trim answer)).2 = .pass step.successMessage true
    ∧ ((s.handleLine answer).endless = false ↔ s.Returns (trim answer))
    ∧ (s.Returns (trim answer) → (s.ran (trim answer)).MovesOn (s.handleLine answer).final)
    ∧ (s.repo.HasFreeId → s.Returns (trim answer)) := by
  have hon : s.course.isOn .command = true := Course.isOn_iff.2 ⟨step, hstep, hkind⟩
  have hjudge := Course.judge_of_accepted hstep hkind hanswer
  have hattempt := attempt_final_of_command hstep hkind (trim answer)
  rw [hjudge, Judgement.pass, if_pos rfl] at hattempt
  rw [← Text.words_trim] at hwords
  rw [handleLine_of_words (Course.isOn_unique hon (by decide)) hwords
    (Keyword.ofWord?_eq_none hword)]
  exact ⟨hjudge, hattempt.1, hattempt.2, fun hfree => returns_of_hasFreeId hfree _⟩

open scoped Regex.SizeLimit

/-- The lines that a session has for itself and that leave the current step as it is. -/
def idleLines : List String :=
  ["", "quit", "exit", "lessons", "lesson", "hint", "reset", "status", "tree", "help"]

/-- A lesson that asks to look around, and lists such lines as answers too. -/
def survey : Lesson :=
  ⟨"survey", "Survey", "", [],
    [⟨"look", .command, "Look around.", " GIT  status " :: idleLines, none, "Good.", [], []⟩,
      ⟨"leave", .explanation, "Leave.", [], none, "", [], []⟩], [], none⟩

/-- A session at the first step of that lesson. -/
def surveying : Session :=
  ((start ⟨.default, true⟩ (.numbered 'c') 0 (Course.empty.add survey) .plain).handleLine
    "lesson 1").final

theorem currentStep?_surveying : surveying.course.currentStep? = survey.steps.head? := by
  decide +kernel

theorem handleLine_accepted_surveying :
    (surveying.course.judge (trim " GIT  status ")).2 = .pass "Good." true
    ∧ (surveying.ran (trim " GIT  status ")).MovesOn
      (surveying.handleLine " GIT  status ").final := by
  have hwords : words " GIT  status " = ["GIT", "status"] := by decide +kernel
  have hfree : surveying.repo.HasFreeId := ⟨0, by decide +kernel⟩
  obtain ⟨hjudge, -, hmoves, hreturns⟩ := handleLine_accepted currentStep?_surveying rfl
    List.mem_cons_self hwords (by decide +kernel)
  exact ⟨hjudge, hmoves (hreturns hfree)⟩

/-- Lessons are not checked for answers that cannot be typed. -/
theorem handleLine_reserved :
    survey.fault? = none ∧ surveying.course.currentLesson? = some survey
    ∧ ∃ step, surveying.course.currentStep? = some step ∧ step.kind = .command
      ∧ ∀ answer ∈ idleLines, answer ∈ step.accepted
        ∧ (surveying.handleLine answer).final.course.active = surveying.course.active := by
  refine ⟨by decide +kernel, by decide +kernel, _, currentStep?_surveying, rfl, ?_⟩
  decide +kernel

end Session

end GitPractice
