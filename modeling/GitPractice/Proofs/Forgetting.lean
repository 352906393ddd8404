import GitPractice.Proofs.Starting

/-!
# A lesson forgets what was before

Sessions agree if only completed lessons, colours, prompts and the end tell them apart. No line
makes agreeing sessions disagree (`Agrees.handleLine`): completed lessons are only spoken of. In
repeatable sessions with the same lessons, a lesson starts from the same repository whatever was
before, so from its start on they agree (`startLesson_forgets`).
-/

namespace GitPractice

open Text (trim words)

/-! ## Courses -/

namespace Course

variable {c d : Course}

/-- The courses are the same, whatever lessons are completed. -/
structure Agrees (c d : Course) : Prop where
  lessons : c.lessons = d.lessons
  active : c.active = d.active
  attempts : c.attempts = d.attempts

namespace Agrees

variable (h : c.Agrees d)
include h

theorem isActive : c.isActive = d.isActive := by
  rw [Course.isActive, h.active, Course.isActive]

theorem currentLesson? : c.currentLesson? = d.currentLesson? := by
  rw [Course.currentLesson?, h.active, h.lessons, Course.currentLesson?]

theorem currentStep? : c.currentStep? = d.currentStep? := by
  rw [Course.currentStep?, h.active, h.lessons, Course.currentStep?]

theorem isOn (kind : StepKind) : c.isOn kind = d.isOn kind := by
  rw [Course.isOn, h.currentStep?, Course.isOn]

theorem judge [Regex.SizeLimit] (input : String) :
    (c.judge input).1.Agrees (d.judge input).1 ∧ (c.judge input).2 = (d.judge input).2 := by
  unfold Course.judge
  rw [h.currentStep?, h.attempts]
  split
  · exact ⟨h, rfl⟩
  · exact ⟨⟨h.lessons, h.active, rfl⟩, rfl⟩

theorem complete : c.complete.Agrees d.complete := by
  unfold Course.complete
  rw [h.active]
  split
  · exact ⟨h.lessons, rfl, h.attempts⟩
  · exact h

theorem enter (r : Repo) :
    (c.enter r).1.Agrees (d.enter r).1 ∧ (c.enter r).2 = (d.enter r).2 := by
  unfold Course.enter
  rw [h.currentLesson?, h.currentStep?]
  split
  · exact ⟨h, rfl⟩
  · split
    · exact ⟨h, rfl⟩
    · exact ⟨h.complete, rfl⟩

theorem advance (r : Repo) :
    (c.advance r).1.Agrees (d.advance r).1 ∧ (c.advance r).2 = (d.advance r).2 := by
  have hactive := h.active
  rcases hd : d.active with _ | a
  · rw [hd] at hactive
    rw [advance_of_idle hactive, advance_of_idle hd]
    exact ⟨h, rfl⟩
  · rw [hd] at hactive
    rw [advance_of_active hactive, advance_of_active hd]
    have hnext : (c.reached a.lesson (a.step + 1)).Agrees (d.reached a.lesson (a.step + 1)) :=
      ⟨h.lessons, rfl, rfl⟩
    exact hnext.enter r

end Agrees

/-- What a start comes to depends on the lessons alone. -/
theorem start_agrees (h : c.lessons = d.lessons) {id : String} {r : Repo} {begun : Course × Repo}
    {first : Option Step} (hstart : c.start id r = (begun, .ok first)) :
    ∃ begun' first', d.start id r = (begun', .ok first')
      ∧ begun.1.Agrees begun'.1 ∧ begun.2 = begun'.2 := by
  obtain ⟨l, r', hl, hseeds, rfl, -⟩ := start_eq_ok_iff.1 hstart
  have hreached : (c.reached id 0).Agrees (d.reached id 0) := ⟨h, rfl, rfl⟩
  rw [h] at hl
  exact ⟨_, _, start_of_seeds hl hseeds, hreached.enter r'⟩

theorem find?_congr (h : c.lessons = d.lessons) (key : String) : c.find? key = d.find? key := by
  rw [find?, h, find?]

end Course

/-! ## Sessions -/

namespace Session

/-- The sessions are the same but for the lessons completed, the colours, the prompts, and whether
they go on. -/
structure Agrees (s t : Session) : Prop where
  settings : s.settings = t.settings
  repo : s.repo = t.repo
  course : s.course.Agrees t.course

variable {s t : Session}

theorem freshRepo_of_repeatable (h : s.settings.repeatable = true) :
    s.freshRepo = .deterministic s.settings.config := by
  rw [freshRepo, Settings.fresh, if_pos h]

section Start

variable (hsettings : s.settings = t.settings) (hlessons : s.course.lessons = t.course.lessons)
  (hfresh : s.freshRepo = t.freshRepo) {key : String}
include hlessons hfresh

theorem starts_agrees {begun : Course × Repo} (h : s.Starts key begun) :
    ∃ begun', t.Starts key begun' ∧ begun.1.Agrees begun'.1 ∧ begun.2 = begun'.2 := by
  obtain ⟨l, first, hfind, hstart⟩ := h
  obtain ⟨begun', first', hstart', hagrees⟩ := Course.start_agrees hlessons hstart
  rw [hfresh] at hstart'
  rw [Course.find?_congr hlessons] at hfind
  exact ⟨begun', ⟨l, first', hfind, hstart'⟩, hagrees⟩

include hsettings in
theorem startLesson_agrees {begun : Course × Repo} (h : s.Starts key begun) :
    (s.startLesson key).final.Agrees (t.startLesson key).final := by
  obtain ⟨begun', hstarts', hcourse, hrepo⟩ := starts_agrees hlessons hfresh h
  rw [startLesson_final h, startLesson_final hstarts']
  exact ⟨hsettings, hrepo, hcourse⟩

end Start

namespace Agrees

variable (h : s.Agrees t)
include h

theorem freshRepo : s.freshRepo = t.freshRepo := by
  rw [Session.freshRepo, h.settings, h.repo, Session.freshRepo]

theorem advance : s.advance.final.Agrees t.advance.final := by
  have hadvance := h.course.advance s.repo
  unfold Session.advance
  rw [h.course.currentLesson?]
  split
  · exact h
  · simp only [announce_final]
    rw [h.repo] at hadvance ⊢
    exact ⟨h.settings, hadvance.2, hadvance.1⟩

theorem startLesson (key : String) :
    (s.startLesson key).final.Agrees (t.startLesson key).final := by
  by_cases hstarts : ∃ begun, s.Starts key begun
  · obtain ⟨begun, hstarts⟩ := hstarts
    exact startLesson_agrees h.settings h.course.lessons h.freshRepo hstarts
  · have hs : ∀ begun, ¬ s.Starts key begun := not_exists.1 hstarts
    have ht : ∀ begun, ¬ t.Starts key begun := fun begun hbegun =>
      let ⟨begun', hbegun', _⟩ := starts_agrees h.course.lessons.symm h.freshRepo.symm hbegun
      hs begun' hbegun'
    rw [startLesson_final_of_not_starts hs, startLesson_final_of_not_starts ht]
    exact h

theorem showLesson : s.showLesson.final.Agrees t.showLesson.final := by
  unfold Session.showLesson
  rw [h.course.currentLesson?]
  split
  · exact h
  · exact h

theorem reset : s.reset.final.Agrees t.reset.final := by
  unfold Session.reset
  rw [h.course.currentLesson?]
  split
  · rw [Transcript.final_andThen (Transcript.endless_line _ s),
      Transcript.final_andThen (Transcript.endless_line _ t)]
    exact h.startLesson _
  · exact ⟨h.settings, h.freshRepo, h.course⟩

theorem skip : s.skip.final.Agrees t.skip.final := by
  unfold Session.skip
  rw [h.course.isActive]
  split_ifs
  · rw [Transcript.final_andThen (Transcript.endless_line _ s),
      Transcript.final_andThen (Transcript.endless_line _ t)]
    exact h.advance
  · exact h

theorem ran (input : String) : (s.ran input).Agrees (t.ran input) := by
  unfold Session.ran
  rw [h.repo]
  split
  · exact ⟨h.settings, rfl, h.course⟩
  · exact ⟨h.settings, rfl, h.course⟩

theorem returns (input : String) : s.Returns input ↔ t.Returns input := by
  rw [Returns, h.repo, Returns]

theorem execute (input : String) : (s.execute input).final.Agrees (t.execute input).final := by
  rw [execute_final, execute_final]
  exact h.ran input

theorem obey (input : String) (args : List String) (k : Keyword) :
    (s.obey input args k).final.Agrees (t.obey input args k).final := by
  cases k with
  | quit => exact ⟨h.settings, h.repo, h.course⟩
  | lessons => exact h
  | lesson =>
    rcases args with _ | ⟨key, _⟩
    · exact h.showLesson
    · exact h.startLesson key
  | hint => exact h
  | skip => exact h.skip
  | reset => exact h.reset
  | status => exact h
  | tree => exact h
  | help => exact h.execute input

section Judge

variable [Regex.SizeLimit]

theorem judged (input : String) : (s.judged input).Agrees (t.judged input) :=
  ⟨h.settings, h.repo, (h.course.judge input).1⟩

theorem attempt (input : String) : (s.attempt input).final.Agrees (t.attempt input).final := by
  cases hs : s.course.isOn .command
  · have ht : t.course.isOn .command = false := h.course.isOn _ ▸ hs
    rw [attempt_of_not_command hs, attempt_of_not_command ht]
    exact h.execute input
  · have ht : t.course.isOn .command = true := h.course.isOn _ ▸ hs
    have hverdict := (h.course.judge input).2
    have hran := (h.judged input).ran input
    cases hsuccess : (s.course.judge input).2.success
    · rw [attempt_of_rejected hs hsuccess, attempt_of_rejected ht (hverdict ▸ hsuccess)]
      exact h.judged input
    · obtain ⟨hended, hfinal⟩ := attempt_of_accepted hs hsuccess
      obtain ⟨hended', hfinal'⟩ := attempt_of_accepted ht (hverdict ▸ hsuccess)
      have hsame : (s.attempt input).endless = (t.attempt input).endless := by
        rw [Bool.eq_iff_iff, ← not_iff_not, Bool.not_eq_true, Bool.not_eq_true, hended, hended',
          h.returns]
      rw [hfinal, hfinal', hsame]
      split_ifs
      · exact hran
      · exact hran.advance

theorem proceed (input : String) : (s.proceed input).final.Agrees (t.proceed input).final := by
  unfold Session.proceed
  split_ifs
  · exact ⟨h.settings, h.repo, h.course⟩
  · exact (h.judged input).advance

theorem handleLine (text : String) :
    (s.handleLine text).final.Agrees (t.handleLine text).final := by
  unfold Session.handleLine
  rw [h.course.isOn]
  split_ifs
  · exact h.proceed (trim text)
  · dsimp only
    split
    · exact h
    · split
      · exact h.obey _ _ _
      · exact h.attempt (trim text)

end Judge

end Agrees

section Lines

variable [Regex.SizeLimit]

theorem Agrees.handleAll : ∀ (lines : List String) {s t : Session}, s.Agrees t →
    (s.handleAll lines).Agrees (t.handleAll lines)
  | [], _, _, h => h
  | line :: lines, s, t, h => by
    simp only [Session.handleAll, List.foldl_cons]
    exact handleAll lines (h.handleLine line)

/-- Two repeatable sessions with the same lessons, whatever became of them before, are alike from
the start of a lesson on: at its start, and after any lines. -/
theorem startLesson_forgets (hsettings : s.settings = t.settings)
    (hrepeatable : s.settings.repeatable = true) (hlessons : s.course.lessons = t.course.lessons)
    {key : String} {begun : Course × Repo} (hstarts : s.Starts key begun) :
    let s' := (s.startLesson key).final
    let t' := (t.startLesson key).final
    (∃ begun', t.Starts key begun')
    ∧ (s'.repo = t'.repo ∧ s'.course.active = t'.course.active
      ∧ s'.course.currentStep? = t'.course.currentStep?
      ∧ s'.course.attempts = 0 ∧ t'.course.attempts = 0)
    ∧ ∀ lines, (s'.handleAll lines).repo = (t'.handleAll lines).repo
      ∧ (s'.handleAll lines).course.active = (t'.handleAll lines).course.active
      ∧ (s'.handleAll lines).course.currentStep? = (t'.handleAll lines).course.currentStep?
      ∧ (s'.handleAll lines).course.attempts = (t'.handleAll lines).course.attempts := by
  intro s' t'
  have hfresh : s.freshRepo = t.freshRepo := by
    rw [freshRepo_of_repeatable hrepeatable, hsettings,
      freshRepo_of_repeatable (hsettings ▸ hrepeatable)]
  obtain ⟨begun', hstarts', -⟩ := starts_agrees hlessons hfresh hstarts
  have hagrees : s'.Agrees t' := startLesson_agrees hsettings hlessons hfresh hstarts
  have hattempts : s'.course.attempts = 0 := by
    rw [show s' = _ from startLesson_final hstarts]
    exact hstarts.attempts_eq
  refine ⟨⟨begun', hstarts'⟩, ⟨hagrees.repo, hagrees.course.active, hagrees.course.currentStep?,
    hattempts, hagrees.course.attempts ▸ hattempts⟩, fun lines => ?_⟩
  have hlines := Agrees.handleAll lines hagrees
  exact ⟨hlines.repo, hlines.course.active, hlines.course.currentStep?, hlines.course.attempts⟩

end Lines

/-- A session that has one lesson and has done nothing yet. -/
def untouched : Session :=
  start ⟨.default, true⟩ (.numbered 'c') 0 (Course.empty.add Course.tour) .plain

open scoped Regex.SizeLimit

/-- The session when the lesson is completed and a commit made. -/
def worn : Session :=
  untouched.handleAll ["lesson 1", "git status", "", "git add .", "git commit -m done"]

theorem startLesson_forgets_worn :
    worn.course.completed = ["tour"] ∧ worn.repo.state.commits.size = 2
    ∧ ∀ lines, ((worn.startLesson "tour").final.handleAll lines).repo
      = ((untouched.startLesson "tour").final.handleAll lines).repo := by
  obtain ⟨hcompleted, hcommits, hsettings, hrepeatable, hlessons⟩ :
      worn.course.completed = ["tour"] ∧ worn.repo.state.commits.size = 2
        ∧ worn.settings = untouched.settings ∧ worn.settings.repeatable = true
        ∧ worn.course.lessons = untouched.course.lessons := by
    decide +kernel
  have hfind : worn.course.find? "tour" = some Course.tour := by
    rw [Course.find?_congr hlessons]
    decide +kernel
  have hget : worn.course.lessons.get? "tour" = some Course.tour := by
    rw [hlessons]
    decide +kernel
  have hseeds : Course.tour.Seeds worn.freshRepo worn.freshRepo := rfl
  have hstarts : worn.Starts "tour" ((worn.course.reached "tour" 0).enter worn.freshRepo) :=
    ⟨Course.tour, _, hfind, Course.start_of_seeds hget hseeds⟩
  have hforgets := startLesson_forgets hsettings hrepeatable hlessons hstarts
  exact ⟨hcompleted, hcommits, fun lines => (hforgets.2.2 lines).1⟩

end Session

end GitPractice
