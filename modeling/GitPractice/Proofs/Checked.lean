import GitPractice.Lesson.Document
import GitPractice.Proofs.Starting

/-!
# Lessons that pass the check

A lesson has no fault exactly if it is sound (`Lesson.fault?_eq_none_iff`): its id is not blank, its
steps have different ids, every command step can be answered, the patterns are patterns and the
snapshot is sound. So a lesson that was read can be started in every course that holds it, and in
every repository (`Lesson.read_starts`). A start that fails leaves everything as it was.
-/

namespace GitPractice

namespace Lesson

theorem snapshotFault?_eq_none_iff (l : Lesson) :
    l.snapshotFault? = none ↔ ∀ s, l.initial = some s → s.Sound := by
  rw [snapshotFault?, Option.map_eq_none_iff, Option.bind_eq_none_iff]
  refine forall₂_congr fun s _ => ?_
  rw [Snapshot.fault?_eq_none_iff]

theorem nameSteps_id_ne (n : Nat) (steps : List Step) :
    ∀ step ∈ nameSteps n steps, step.id ≠ "" := by
  induction steps generalizing n with
  | nil => exact fun _ h => absurd h List.not_mem_nil
  | cons step steps ih =>
    refine List.forall_mem_cons.2 ⟨?_, ih (n + 1)⟩
    dsimp only
    split_ifs with hid
    · simp
    · exact hid

section Check

variable [Regex.SizeLimit]

/-- What a step needs to be taken: an answer if it waits for a command, and no text in place of a
pattern that is none. -/
structure StepSound (step : Step) : Prop where
  answered : step.kind = .command → step.accepted ≠ [] ∨ step.pattern ≠ none
  pattern : ∀ p, step.pattern = some p → isPattern p = true

structure Sound (l : Lesson) : Prop where
  id_not_blank : Text.isBlankText l.id = false
  ids_nodup : (l.steps.map Step.id).Nodup
  steps : ∀ step ∈ l.steps, StepSound step
  initial : ∀ s, l.initial = some s → s.Sound

theorem stepSound_iff (step : Step) : StepSound step ↔
    ¬ (step.kind = .command && step.accepted.isEmpty && step.pattern.isNone) = true
      ∧ ¬ step.pattern.any (!isPattern ·) = true := by
  constructor
  · rintro ⟨hanswered, hpattern⟩
    constructor
    · simp only [Bool.and_eq_true, decide_eq_true_eq, List.isEmpty_iff, Option.isNone_iff_eq_none]
      rintro ⟨⟨hkind, haccepted⟩, hnone⟩
      exact (hanswered hkind).elim (absurd haccepted) (absurd hnone)
    · rw [Option.any_eq_true]
      rintro ⟨p, hp, hbad⟩
      rw [hpattern p hp] at hbad
      cases hbad
  · rintro ⟨hanswer, hpattern⟩
    refine ⟨fun hkind => ?_, fun p hp => ?_⟩
    · by_contra hnone
      rw [not_or, not_not, not_not] at hnone
      exact hanswer (by simp [hkind, hnone.1, hnone.2])
    · by_contra hbad
      exact hpattern (by simp [hp, hbad])

/-- The steps have no fault, after those with the ids in `seen`. -/
theorem stepFault?_eq_none_iff (lesson : String) (seen : List String) (steps : List Step) :
    stepFault? lesson seen steps = none ↔
      ((steps.map Step.id).Nodup ∧ ∀ step ∈ steps, step.id ∉ seen)
        ∧ ∀ step ∈ steps, StepSound step := by
  induction steps generalizing seen with
  | nil => simp [stepFault?]
  | cons step steps ih =>
    rw [stepFault?, List.map_cons, List.nodup_cons, List.forall_mem_cons, List.forall_mem_cons,
      stepSound_iff step]
    split_ifs with hseen hanswer hpattern
    · simp [hseen]
    · simp [hanswer]
    · simp [hpattern]
    · rw [ih]
      constructor
      · rintro ⟨⟨hnodup, hout⟩, hsteps⟩
        refine ⟨⟨⟨fun hmem => ?_, hnodup⟩, hseen, fun s hs hmem => ?_⟩, ⟨hanswer, hpattern⟩, hsteps⟩
        · obtain ⟨s, hs, heq⟩ := List.mem_map.1 hmem
          exact hout s hs (heq ▸ List.mem_cons_self)
        · exact hout s hs (List.mem_cons_of_mem _ hmem)
      · rintro ⟨⟨⟨hnew, hnodup⟩, -, hout⟩, -, hsteps⟩
        refine ⟨⟨hnodup, fun s hs hmem => ?_⟩, hsteps⟩
        rcases List.mem_cons.1 hmem with heq | hmem
        · exact hnew (heq ▸ List.mem_map_of_mem hs)
        · exact hout s hs hmem

theorem fault?_eq_none_iff (l : Lesson) : l.fault? = none ↔ l.Sound := by
  have hparts : l.fault? = none ↔ Text.isBlankText l.id = false
      ∧ stepFault? l.id [] l.steps = none ∧ l.snapshotFault? = none := by
    cases hblank : Text.isBlankText l.id <;> simp [fault?, hblank]
  rw [hparts, stepFault?_eq_none_iff, snapshotFault?_eq_none_iff]
  constructor
  · rintro ⟨hid, ⟨⟨hnodup, -⟩, hsteps⟩, hinitial⟩
    exact ⟨hid, hnodup, hsteps, hinitial⟩
  · rintro ⟨hid, hnodup, hsteps, hinitial⟩
    exact ⟨hid, ⟨⟨hnodup, fun _ _ => List.not_mem_nil⟩, hsteps⟩, hinitial⟩

/-! ## Reading -/

theorem read_eq_ok_iff {f : Format} {text : String} {l : Lesson} : Lesson.read f text = .ok l ↔
    ∃ written, decode? f text = some written ∧ l = written.withStepIds ∧ l.Sound := by
  unfold Lesson.read
  rcases hdecode : decode? f text with _ | written
  · simp
  · rcases hfault : written.withStepIds.fault? with _ | e
    · have hsound := (fault?_eq_none_iff _).1 hfault
      simp only [hfault, Except.ok.injEq, Option.some.injEq, exists_eq_left']
      constructor
      · rintro rfl
        exact ⟨rfl, hsound⟩
      · rintro ⟨rfl, -⟩
        rfl
    · simp only [hfault, reduceCtorEq, Option.some.injEq, exists_eq_left', false_iff]
      rintro ⟨rfl, hsound⟩
      rw [(fault?_eq_none_iff _).2 hsound] at hfault
      cases hfault

/-! ## Starting -/

/-- A sound lesson can be started wherever it is registered. -/
theorem Sound.starts {l : Lesson} (h : l.Sound) {c : Course} (hl : c.lessons.get? l.id = some l)
    (r : Repo) :
    (c.start l.id r).2 = .ok l.steps.head?
      ∧ (c.start l.id r).1.1.currentStep? = l.steps.head? := by
  obtain ⟨r', hseeds⟩ := (exists_seeds_iff (r := r)).2 ((snapshotFault?_eq_none_iff l).2 h.initial)
  have hfirst := Course.currentStep?_enter_reached hl r'
  rw [Course.start_of_seeds hl hseeds]
  exact ⟨congrArg Except.ok hfirst, hfirst⟩

theorem Sound.ne_error {l : Lesson} (h : l.Sound) {c : Course} {id : String}
    (hl : c.lessons.get? id = some l) (r : Repo) (e : LessonError) :
    (c.start id r).2 ≠ .error e := by
  intro herror
  obtain ⟨-, ⟨hnone, -⟩ | ⟨l', s, cause, hl', hs, hfault, -⟩⟩ := Course.start_of_error herror
  · rw [hnone] at hl
    cases hl
  · rw [hl, Option.some.injEq] at hl'
    rw [← hl'] at hs
    rw [(Snapshot.fault?_eq_none_iff s).2 (h.initial s hs)] at hfault
    cases hfault

/-- A lesson that was read starts wherever it is registered. A lesson that does not start is unknown
or unsound, and leaves course and repository alone, as it leaves a session. -/
theorem read_starts :
    (∀ f text l, Lesson.read f text = .ok l →
      (∀ step ∈ l.steps, step.id ≠ "") ∧ (l.steps.map Step.id).Nodup
      ∧ (∀ step ∈ l.steps, step.kind = .command → step.accepted ≠ [] ∨ step.pattern ≠ none)
      ∧ ∀ (c : Course) (r : Repo), c.lessons.get? l.id = some l →
        (c.start l.id r).2 = .ok l.steps.head?
          ∧ (c.start l.id r).1.1.currentStep? = l.steps.head?)
    ∧ (∀ (c : Course) (id : String) (r : Repo) (e : LessonError), (c.start id r).2 = .error e →
      (c.start id r).1 = (c, r) ∧ ∀ l, c.lessons.get? id = some l → ¬ l.Sound)
    ∧ ∀ (s : Session) (key : String),
      (s.course.find? key = none
        ∨ ∃ l e, s.course.find? key = some l ∧ (s.course.start l.id s.freshRepo).2 = .error e) →
      (s.startLesson key).endless = false ∧ (s.startLesson key).Throughout (· = s) := by
  refine ⟨fun f text l hread => ?_, fun c id r e herror => ⟨?_, fun l hl hsound => ?_⟩,
    fun s key hfails => ⟨Session.endless_startLesson s key, ?_⟩⟩
  · obtain ⟨written, -, rfl, hsound⟩ := read_eq_ok_iff.1 hread
    exact ⟨nameSteps_id_ne 1 written.steps, hsound.ids_nodup,
      fun step hstep => (hsound.steps step hstep).answered, fun c r hl => hsound.starts hl r⟩
  · exact (Course.start_of_error herror).1
  · exact hsound.ne_error hl r e herror
  · refine Session.startLesson_of_not_starts ?_ rfl
    rintro begun ⟨l, first, hfind, hstart⟩
    rcases hfails with hnone | ⟨l', e, hfind', herror⟩
    · rw [hnone] at hfind
      cases hfind
    · rw [hfind, Option.some.injEq] at hfind'
      rw [← hfind', hstart] at herror
      cases herror

end Check

/-- A lesson of two steps, of which the first is written without an id. -/
def greeting : Lesson :=
  ⟨"hello", "", "", [],
    [⟨"step-1", .command, "", ["git status"], none, Step.praise, [], []⟩,
      ⟨"bye", .explanation, "", [], none, Step.praise, [], []⟩], [], none⟩

def greetingText : String :=
  "id = 'hello'\n[[steps]]\naccepted = ['git status']\n[[steps]]\nid = 'bye'\n"
    ++ "type = 'explanation'\n"

/-- A lesson with a snapshot that has no branch. -/
def headless : Lesson :=
  ⟨"headless", "", "", [], [], [], some ⟨.empty, .empty, .empty, mainBranch, [], []⟩⟩

open scoped Regex.SizeLimit

theorem read_starts_greeting :
    Lesson.read .toml greetingText = .ok greeting
    ∧ ((Course.empty.add greeting).start "hello" (.deterministic .default)).2
      = .ok greeting.steps.head?
    ∧ ∃ (s : Session) (e : LessonError), s.course.find? "1" = some headless
      ∧ (s.course.start "headless" s.freshRepo).2 = .error e
      ∧ (s.course.start "headless" s.freshRepo).1 = (s.course, s.freshRepo)
      ∧ (s.startLesson "1").Throughout (· = s) := by
  obtain ⟨hread, hfailed, hreport⟩ := read_starts
  have hgreeting : Lesson.read .toml greetingText = .ok greeting := by decide +kernel
  obtain ⟨-, -, -, hstarts⟩ := hread .toml greetingText greeting hgreeting
  let s := Session.start ⟨.default, true⟩ (.numbered 'c') 0 (Course.empty.add headless) .plain
  have hfind : s.course.find? "1" = some headless := by decide +kernel
  have herror : (s.course.start "headless" s.freshRepo).2
      = .error (.badSnapshot "headless" (.unknownHead mainBranch)) := rfl
  exact ⟨hgreeting, (hstarts _ _ (by decide +kernel)).1, s, _, hfind, herror,
    (hfailed _ _ _ _ herror).1, (hreport s "1" (.inr ⟨headless, _, hfind, herror⟩)).2⟩

end Lesson

end GitPractice
