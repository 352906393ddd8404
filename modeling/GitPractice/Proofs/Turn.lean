import GitPractice.Proofs.Dispatch
import GitPractice.Proofs.Drawing
import GitPractice.Session.Basic

/-!
# A learner's turn

What one line does to a session (`handleLine_turn`). A lesson moves on by one step at a time
(`MovesOn`), and the repository is touched only by a line that is run in it (`ran`) and by the
setup of the step that is reached (`Gains`). So a wrong answer never gets to the repository.

This is how things stand when all is written (`Transcript.cut_of_fits`), and a line that is run is
done with only if its command returns (`Returns`), as it does while there is an id for a commit
(`returns_of_hasFreeId`). An output that fails may leave the lesson behind, and the attempts are
counted anew when there is no larger number for them (`handleLine_falls_short`).
-/

namespace GitPractice

open Text (trim words lower lowerAscii)

/-! ## Setting up a step -/

namespace Repo

/-- The repository gains working files and is the same otherwise: of the given ones those that it
does not have, once each and in order. -/
def Gains (files : List String) (r r' : Repo) : Prop :=
  ∃ new, r' = { r with state.working := r.state.working ++ new } ∧ new.Sublist files ∧ new.Nodup
    ∧ ∀ f, f ∈ new ↔ f ∈ files ∧ f ∉ r.state.working

theorem edit_of_mem {r : Repo} {file : String} (h : file ∈ r.state.working) : r.edit file = r := by
  simp [edit, State.isPending, h]

theorem edit_of_notMem {r : Repo} {file : String} (h : file ∉ r.state.working) :
    r.edit file = { r with state.working := r.state.working ++ [file] } := by
  simp [edit, State.isPending, h]

theorem gains_editAll (files : List String) (r : Repo) : Gains files r (r.editAll files) := by
  induction files generalizing r with
  | nil => exact ⟨[], by simp [editAll], List.Sublist.refl _, List.nodup_nil, by simp⟩
  | cons file files ih =>
    by_cases hfile : file ∈ r.state.working
    · obtain ⟨new, heq, hsub, hnodup, hmem⟩ := ih r
      refine ⟨new, ?_, hsub.cons file, hnodup, fun f => ?_⟩
      · rw [editAll, List.foldl_cons, edit_of_mem hfile]
        exact heq
      · rw [hmem, List.mem_cons]
        refine and_congr_left fun hf => ?_
        exact ⟨.inr, fun h => h.resolve_left fun h => hf (h ▸ hfile)⟩
    · obtain ⟨new, heq, hsub, hnodup, hmem⟩ :=
        ih { r with state.working := r.state.working ++ [file] }
      have hnew : file ∉ new := fun h => ((hmem file).1 h).2 (by simp)
      refine ⟨file :: new, ?_, hsub.cons_cons file, List.nodup_cons.2 ⟨hnew, hnodup⟩, fun f => ?_⟩
      · rw [editAll, List.foldl_cons, edit_of_notMem hfile]
        refine heq.trans ?_
        simp
      · rw [List.mem_cons, List.mem_cons, hmem, List.mem_append, List.mem_singleton, not_or]
        constructor
        · rintro (rfl | ⟨hf, hold, -⟩)
          · exact ⟨.inl rfl, hfile⟩
          · exact ⟨.inr hf, hold⟩
        · rintro ⟨rfl | hf, hold⟩
          · exact .inl rfl
          · by_cases h : f = file
            · exact .inl h
            · exact .inr ⟨hf, hold, h⟩

end Repo

/-! ## The active step -/

namespace Course

variable {c : Course}

theorem currentStep?_eq_some {step : Step} (h : c.currentStep? = some step) :
    ∃ a l, c.active = some a ∧ c.lessons.get? a.lesson = some l
      ∧ l.steps[a.step]? = some step := by
  obtain ⟨a, ha, h⟩ := Option.bind_eq_some_iff.1 h
  obtain ⟨l, hl, h⟩ := Option.bind_eq_some_iff.1 h
  exact ⟨a, l, ha, hl, h⟩

theorem isOn_iff {kind : StepKind} :
    c.isOn kind = true ↔ ∃ step, c.currentStep? = some step ∧ step.kind = kind := by
  simp [isOn, Option.any_eq_true]

theorem isOn_unique {kind kind' : StepKind} (h : c.isOn kind = true) (hne : kind ≠ kind') :
    c.isOn kind' = false := by
  obtain ⟨step, hstep, rfl⟩ := isOn_iff.1 h
  simp [isOn, hstep, hne]

theorem isOn_of_idle (h : c.active = none) (kind : StepKind) : c.isOn kind = false := by
  simp [isOn, currentStep?, h]

section Judge

variable [Regex.SizeLimit]

theorem judge_course {step : Step} (h : c.currentStep? = some step) (input : String) :
    (c.judge input).1 = { c with attempts := c.attempts + 1 } := by
  simp [judge, h]

theorem judge_advances {step : Step} (h : c.currentStep? = some step)
    (hkind : step.kind = .command) (input : String) :
    (c.judge input).2.advances = (c.judge input).2.success := by
  rw [judge, h]
  simp only [hkind]
  split_ifs <;> rfl

/-- Whether an answer is right does not depend on how often the step was tried. -/
theorem judge_success (c : Course) (n : UInt32) (input : String) :
    (judge { c with attempts := n } input).2.success = (c.judge input).2.success := by
  have hstep : currentStep? { c with attempts := n } = c.currentStep? := rfl
  rcases h : c.currentStep? with _ | step
  · simp only [judge, hstep, h]
  · simp only [judge, hstep, h]
    cases step.kind with
    | explanation => rfl
    | freePractice => rfl
    | command => simp only [apply_ite Judgement.success, Judgement.pass, Judgement.fail]

end Judge

section Advance

variable {a : Active} {l : Lesson} (ha : c.active = some a)
  (hl : c.lessons.get? a.lesson = some l) (r : Repo)
include ha hl

theorem advance_next {step : Step} (hstep : l.steps[a.step + 1]? = some step) :
    c.advance r
      = ({ c with active := some { a with step := a.step + 1 }, attempts := 0 },
        r.editAll step.setup) := by
  simp [advance, enter, currentLesson?, currentStep?, ha, hl, hstep]

theorem advance_last (hstep : l.steps[a.step + 1]? = none) :
    c.advance r = ({ c.complete with attempts := 0 }, r) := by
  simp [advance, enter, currentLesson?, currentStep?, complete, ha, hl, hstep]

end Advance

end Course

theorem Keyword.ofWord?_eq_none {word : String} (h : lower word ∉ Keyword.names.map Prod.fst) :
    Keyword.ofWord? word = none := by
  rw [ofWord?, List.lookup_eq_none_iff]
  intro p hp
  have hne : lower word ≠ p.1 := fun he => h (he ▸ List.mem_map_of_mem hp)
  simpa using hne

/-! ## Moving on -/

namespace Session

variable {s : Session}

/-- The session one step further in its lesson, or with the lesson completed if that was the last
step. -/
inductive MovesOn (s : Session) : Session → Prop where
  | next {a : Active} {l : Lesson} {step : Step} {repo : Repo} (hactive : s.course.active = some a)
      (hlesson : s.course.lessons.get? a.lesson = some l)
      (hstep : l.steps[a.step + 1]? = some step) (hrepo : Repo.Gains step.setup s.repo repo) :
      MovesOn s
        { s with
          course := { s.course with active := some { a with step := a.step + 1 }, attempts := 0 }
          repo := repo }
  | complete {a : Active} {l : Lesson} (hactive : s.course.active = some a)
      (hlesson : s.course.lessons.get? a.lesson = some l) (hstep : l.steps[a.step + 1]? = none) :
      MovesOn s
        { s with
          course :=
            { s.course with
              active := none
              completed :=
                if a.lesson ∈ s.course.completed then s.course.completed
                else s.course.completed ++ [a.lesson]
              attempts := 0 } }

theorem announce_final (s : Session) (id : String) : (s.announce id).final = s := by
  unfold announce
  split <;> rfl

theorem endless_announce (s : Session) (id : String) : (s.announce id).endless = false := by
  unfold announce
  split <;> rfl

theorem endless_advance (s : Session) : s.advance.endless = false := by
  unfold advance
  split
  · rfl
  · exact endless_announce _ _

theorem movesOn_advance {step : Step} (h : s.course.currentStep? = some step) :
    s.MovesOn s.advance.final := by
  obtain ⟨a, l, ha, hl, -⟩ := Course.currentStep?_eq_some h
  cases hnext : l.steps[a.step + 1]? with
  | some next =>
    have hmoves := MovesOn.next ha hl hnext (Repo.gains_editAll next.setup s.repo)
    have hadvance := Course.advance_next ha hl s.repo hnext
    simpa [advance, Course.currentLesson?, ha, hl, hadvance, announce_final] using hmoves
  | none =>
    have hmoves := MovesOn.complete ha hl hnext
    have hadvance := Course.advance_last ha hl s.repo hnext
    simpa [advance, Course.currentLesson?, Course.complete, ha, hl, hadvance, announce_final]
      using hmoves

/-- Attempts at the step that is left do not count for the next one. -/
theorem MovesOn.of_attempts {t : Session} {n : UInt32}
    (h : MovesOn { s with course := { s.course with attempts := n } } t) : s.MovesOn t := by
  cases h with
  | next hactive hlesson hstep hrepo => exact .next hactive hlesson hstep hrepo
  | complete hactive hlesson hstep => exact .complete hactive hlesson hstep

/-! ## Running a line -/

/-- The session after a line was run in its repository. The line may be one that ends it. -/
def ran (s : Session) (input : String) : Session :=
  match Console.run s.repo input with
  | (repo, .ok (some reply)) => { s with repo := repo, running := s.running && !reply.isExit }
  | (repo, _) => { s with repo := repo }

/-- The line is no command, or its command comes to an end. -/
def Returns (s : Session) (input : String) : Prop := (Console.run s.repo input).2 ≠ .ok none

/-- Every line is done with while there is an id for a commit. -/
theorem returns_of_hasFreeId (h : s.repo.HasFreeId) (input : String) : s.Returns input := by
  unfold Returns
  rcases Console.run_cases s.repo input with ⟨e, hrun⟩ | ⟨out, ⟨c, -, hamounts⟩, hrun⟩
  · simp [hrun]
  · rw [hrun]
    intro hnone
    have hresponse : out.2 = none := Except.ok.inj hnone
    cases hamounts with
    | seen reply => cases hresponse
    | staged hname => cases hresponse
    | performed hcalls hsame =>
      cases hresponse
      exact Repo.perform_ne_none h _ (Option.map_eq_none_iff.1 hsame.symm)

theorem execute_final (s : Session) (input : String) : (s.execute input).final = s.ran input := by
  rcases hrun : Console.run s.repo input with ⟨repo, e | response⟩
  · simp [execute, ran, hrun, Transcript.line, Transcript.say]
  · rcases response with _ | reply
    · simp [execute, ran, hrun, Transcript.stuck]
    · cases hexit : reply.isExit <;>
        simp [execute, ran, hrun, hexit, Transcript.silent, Transcript.lines]

theorem endless_execute (s : Session) (input : String) :
    (s.execute input).endless = false ↔ s.Returns input := by
  unfold Returns
  rcases hrun : Console.run s.repo input with ⟨repo, e | response⟩
  · simp [execute, hrun]
  · rcases response with _ | reply
    · simp [execute, hrun, Transcript.stuck]
    · cases hexit : reply.isExit <;> simp [execute, hrun, hexit]

theorem ran_course (s : Session) (input : String) : (s.ran input).course = s.course := by
  unfold ran
  split <;> rfl

theorem ran_attempts (s : Session) (n : UInt32) (input : String) :
    ran { s with course := { s.course with attempts := n } } input
      = { s.ran input with course := { (s.ran input).course with attempts := n } } := by
  rcases hrun : Console.run s.repo input with ⟨repo, e | response⟩
  · simp [ran, hrun]
  · cases response <;> simp [ran, hrun]

/-! ## Lines -/

section Lines

variable [Regex.SizeLimit]

theorem proceed_final {step : Step} (h : s.course.currentStep? = some step) (input : String) :
    (s.proceed input).endless = false
    ∧ if isQuit input then (s.proceed input).final = { s with running := false }
      else s.MovesOn (s.proceed input).final := by
  unfold proceed
  split_ifs with hquit
  · exact ⟨rfl, rfl⟩
  · rw [Course.judge_course h]
    exact ⟨endless_advance _, .of_attempts (n := s.course.attempts + 1) (movesOn_advance h)⟩

/-- The session when the line has been judged. -/
def judged (s : Session) (input : String) : Session :=
  { s with course := (s.course.judge input).1 }

theorem attempt_of_rejected (hon : s.course.isOn .command = true) {input : String}
    (h : (s.course.judge input).2.success = false) :
    s.attempt input
      = .lines (rejectLines s.palette (s.course.judge input).2) (s.judged input) := by
  simp only [attempt, hon, h, if_true, Bool.false_eq_true, if_false, judged]

/-- A right answer is run, and if that comes to an end the lesson moves on. -/
theorem attempt_of_accepted (hon : s.course.isOn .command = true) {input : String}
    (h : (s.course.judge input).2.success = true) :
    ((s.attempt input).endless = false ↔ s.Returns input)
    ∧ (s.attempt input).final
      = if (s.attempt input).endless then (s.judged input).ran input
        else ((s.judged input).ran input).advance.final := by
  obtain ⟨step, hstep, hkind⟩ := Course.isOn_iff.1 hon
  have hadvances := Course.judge_advances hstep hkind input
  have hattempt : s.attempt input = (((s.judged input).execute input).andThen
      (.line (s.palette.green ("✓ " ++ (s.course.judge input).2.message)))).andThen advance := by
    simp only [attempt, hon, hadvances, h, if_true, judged]
  have hended : (s.attempt input).endless = ((s.judged input).execute input).endless := by
    rw [hattempt, Transcript.endless_andThen, Transcript.endless_andThen, endless_advance,
      Transcript.endless_line, Bool.or_false, Bool.or_false]
  refine ⟨by rw [hended]; exact endless_execute _ input, ?_⟩
  rw [hended, hattempt]
  cases hexecute : ((s.judged input).execute input).endless
  · rw [Transcript.final_andThen (by simpa using hexecute), Transcript.final_andThen hexecute,
      execute_final, if_neg Bool.false_ne_true]
    rfl
  · rw [Transcript.andThen_of_endless hexecute, Transcript.andThen_of_endless hexecute,
      execute_final, if_pos rfl]

theorem attempt_final_of_command {step : Step} (h : s.course.currentStep? = some step)
    (hkind : step.kind = .command) (input : String) :
    if (s.course.judge input).2.success then
      ((s.attempt input).endless = false ↔ s.Returns input)
        ∧ (s.Returns input → (s.ran input).MovesOn (s.attempt input).final)
    else (s.attempt input).endless = false
      ∧ (s.attempt input).final
        = { s with course := { s.course with attempts := s.course.attempts + 1 } } := by
  have hon : s.course.isOn .command = true := Course.isOn_iff.2 ⟨step, h, hkind⟩
  split_ifs with hsuccess
  · obtain ⟨hended, hfinal⟩ := attempt_of_accepted hon hsuccess
    refine ⟨hended, fun hreturns => ?_⟩
    rw [hfinal, hended.2 hreturns, if_neg Bool.false_ne_true, judged, Course.judge_course h,
      ran_attempts s (s.course.attempts + 1)]
    have hran : (s.ran input).course.currentStep? = some step := by rw [ran_course, h]
    generalize s.ran input = t at hran ⊢
    exact .of_attempts (n := s.course.attempts + 1) (movesOn_advance hran)
  · rw [attempt_of_rejected hon (Bool.eq_false_iff.2 hsuccess), judged, Course.judge_course h]
    exact ⟨rfl, rfl⟩

theorem attempt_of_not_command (h : s.course.isOn .command = false) (input : String) :
    s.attempt input = s.execute input := by
  rw [attempt, h, if_neg Bool.false_ne_true]

theorem handleLine_of_words {text word : String} {args : List String}
    (hon : s.course.isOn .explanation = false) (hwords : words (trim text) = word :: args)
    (hword : Keyword.ofWord? word = none) : s.handleLine text = s.attempt (trim text) := by
  simp [handleLine, hon, hwords, hword]

theorem handleLine_of_keyword {text word : String} {args : List String} {k : Keyword}
    (hon : s.course.isOn .explanation = false) (hwords : words (trim text) = word :: args)
    (hword : Keyword.ofWord? word = some k) :
    s.handleLine text = s.obey (trim text) args k := by
  simp [handleLine, hon, hwords, hword]

theorem handleLine_turn (s : Session) (text : String) :
    (s.course.isOn .explanation = true →
      (s.handleLine text).endless = false
      ∧ if lowerAscii (trim text) ∈ ["quit", "exit"] then
          (s.handleLine text).final = { s with running := false }
        else s.MovesOn (s.handleLine text).final)
    ∧ ∀ word args, words (trim text) = word :: args →
      lower word ∉ ["quit", "exit", "lessons", "lesson", "hint", "skip", "reset", "status", "tree",
        "help"] →
      (s.course.isOn .command = true →
        if (s.course.judge (trim text)).2.success then
          ((s.handleLine text).endless = false ↔ s.Returns (trim text))
          ∧ (s.Returns (trim text) → (s.ran (trim text)).MovesOn (s.handleLine text).final)
        else (s.handleLine text).endless = false
          ∧ (s.handleLine text).final
            = { s with course := { s.course with attempts := s.course.attempts + 1 } }
          ∧ (s.course.attempts.toNat + 1 < UInt32.size →
            (s.handleLine text).final.course.attempts.toNat = s.course.attempts.toNat + 1))
      ∧ (s.course.isOn .freePractice = true ∨ s.course.active = none →
        ((s.handleLine text).endless = false ↔ s.Returns (trim text))
        ∧ (s.handleLine text).final = s.ran (trim text)
        ∧ (s.handleLine text).final.course = s.course)
      ∧ (s.repo.HasFreeId → s.Returns (trim text)) := by
  refine ⟨fun hon => ?_, fun word args hwords hkeyword => ⟨fun hon => ?_, fun hon => ?_,
    fun hfree => returns_of_hasFreeId hfree _⟩⟩
  · obtain ⟨step, hstep, -⟩ := Course.isOn_iff.1 hon
    have hproceed := proceed_final hstep (trim text)
    simpa [handleLine, hon, isQuit] using hproceed
  · obtain ⟨step, hstep, hkind⟩ := Course.isOn_iff.1 hon
    rw [handleLine_of_words (Course.isOn_unique hon (by decide)) hwords
      (Keyword.ofWord?_eq_none hkeyword)]
    have hattempt := attempt_final_of_command hstep hkind (trim text)
    split_ifs at hattempt ⊢ with hsuccess
    · exact hattempt
    · obtain ⟨hended, hfinal⟩ := hattempt
      refine ⟨hended, hfinal, fun hlt => ?_⟩
      rw [hfinal]
      exact (UInt32.toNat_add _ _).trans (Nat.mod_eq_of_lt hlt)
  · have hoff (kind : StepKind) (hne : .freePractice ≠ kind) : s.course.isOn kind = false :=
      hon.elim (Course.isOn_unique · hne) (Course.isOn_of_idle · kind)
    rw [handleLine_of_words (hoff _ (by decide)) hwords (Keyword.ofWord?_eq_none hkeyword),
      attempt_of_not_command (hoff _ (by decide)), execute_final]
    exact ⟨endless_execute s _, rfl, ran_course s _⟩

end Lines

/-- The session after the lines. -/
def handleAll [Regex.SizeLimit] (s : Session) (lines : List String) : Session :=
  lines.foldl (fun s line => (s.handleLine line).final) s

/-- A session at the first step of a lesson of two steps. -/
def trial (kind : StepKind) : Session :=
  let step : Step := ⟨"look", kind, "Look around.", ["git status"], none, "Good.", [], []⟩
  let lesson : Lesson := ⟨"first", "First", "", [], [step, step], [], none⟩
  { start ⟨.default, true⟩ (.numbered 'c') 0 (Course.empty.add lesson) .plain with
    course := { Course.empty.add lesson with active := some ⟨"first", 0⟩ } }

open scoped Regex.SizeLimit

theorem handleLine_turn_trial :
    ((trial .explanation).handleLine " Quit ").final = { trial .explanation with running := false }
    ∧ (trial .explanation).MovesOn ((trial .explanation).handleLine "status").final
    ∧ ((trial .command).ran "git status").MovesOn ((trial .command).handleLine "git status").final
    ∧ ((trial .command).handleLine "git log").final
      = { trial .command with course := { (trial .command).course with attempts := 1 } }
    ∧ ((trial .freePractice).handleLine "git log").final
      = (trial .freePractice).ran "git log" := by
  have hgit : lower "git" ∉ ["quit", "exit", "lessons", "lesson", "hint", "skip", "reset", "status",
      "tree", "help"] := by decide
  have hreturns : (trial .command).Returns "git status" := by
    unfold Returns
    decide +kernel
  have hquit := (handleLine_turn (trial .explanation) " Quit ").1 (by decide)
  have hmove := (handleLine_turn (trial .explanation) "status").1 (by decide)
  have hright := ((handleLine_turn (trial .command) "git status").2 "git" ["status"] (by decide)
    hgit).1 (by decide)
  have hwrong := ((handleLine_turn (trial .command) "git log").2 "git" ["log"] (by decide)
    hgit).1 (by decide)
  have hfree := ((handleLine_turn (trial .freePractice) "git log").2 "git" ["log"] (by decide)
    hgit).2.1 (.inl (by decide))
  rw [if_pos (by decide +kernel)] at hquit
  rw [if_neg (by decide +kernel)] at hmove
  rw [if_pos (by decide +kernel), show trim "git status" = "git status" by decide] at hright
  rw [if_neg (by decide +kernel)] at hwrong
  rw [show trim "git log" = "git log" by decide] at hfree
  exact ⟨hquit.2, hmove.2, hright.2 hreturns, hwrong.2.1, hfree.2.1⟩

/-- The trial of a command when it was tried so often. -/
def tired (attempts : UInt32) : Session :=
  { trial .command with course := { (trial .command).course with attempts := attempts } }

theorem judge_tired (n : UInt32) : ((tired n).course.judge "git log").2.success = false := by
  rw [tired, Course.judge_success]
  decide +kernel

theorem handleLine_tired (n : UInt32) : ((tired n).handleLine "git log").final = tired (n + 1) := by
  obtain ⟨step, hstep, hkind⟩ :
      ∃ step, (tired n).course.currentStep? = some step ∧ step.kind = .command := ⟨_, rfl, rfl⟩
  have hon : (tired n).course.isOn .explanation = false :=
    Course.isOn_unique (Course.isOn_iff.2 ⟨step, hstep, hkind⟩) (by decide)
  have htrim : trim "git log" = "git log" := by decide
  have hwords : words (trim "git log") = ["git", "log"] := by decide
  have hattempt := attempt_final_of_command hstep hkind "git log"
  rw [judge_tired, if_neg Bool.false_ne_true] at hattempt
  rw [handleLine_of_words hon hwords (Keyword.ofWord?_eq_none (by decide)), htrim, hattempt.2]
  rfl

theorem handleAll_tired (n : Nat) :
    (trial .command).handleAll (List.replicate n "git log") = tired (UInt32.ofNat n) := by
  induction n with
  | zero => rfl
  | succ n ih =>
    rw [handleAll] at ih ⊢
    rw [List.replicate_succ', List.foldl_append, List.foldl_cons, List.foldl_nil, ih,
      handleLine_tired, UInt32.ofNat_add]
    rfl

/-- The session that has not begun the lesson of the trial yet. -/
def untried : Session :=
  { trial .command with course := { (trial .command).course with active := none } }

/-- A right answer is run and the lesson does not move on, if the output fails in between; and a
wrong answer does not count as one more when there have been so many that the count begins again. -/
theorem handleLine_falls_short :
    let begun := (untried.handleLine "lesson 1").final
    let looked := (begun.handleLine "git status").cut 60
    begun.course.isOn .command = true
    ∧ ((begun.course.judge "git status").2.success = true ∧ looked.failed = true
      ∧ looked.shown = (begun.execute "git status").text ++ "✓ Goo"
      ∧ looked.state.course.active = begun.course.active)
    ∧ ∃ lines, let s := begun.handleAll lines
      (s.course.judge "git log").2.success = false
      ∧ s.course.attempts.toNat = UInt32.size - 1
      ∧ (s.handleLine "git log").final.course.attempts = 0 := by
  have hbegun : (untried.handleLine "lesson 1").final = trial .command := rfl
  rw [hbegun]
  refine ⟨by decide, by decide +kernel, List.replicate (UInt32.size - 1) "git log", ?_⟩
  rw [handleAll_tired]
  refine ⟨judge_tired _, by decide, ?_⟩
  rw [handleLine_tired]
  decide

end Session

end GitPractice
