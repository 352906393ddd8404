import GitPractice.Proofs.Progress

/-!
# The start of a lesson

A lesson starts if it is there and its snapshot is sound, in whatever repository
(`start_of_error`, `exists_seeds_iff`). A session takes over what the start comes to, or stays
as it was throughout (`startLesson_of_starts`, `startLesson_of_not_starts`): `Throughout` speaks of
every point at which the output may fail.
-/

namespace GitPractice

/-! ## Whatever comes through -/

namespace Transcript

variable {σ : Type} {P : σ → Prop}

/-- Things stand as `P` says at every write and in the end. -/
structure Throughout (P : σ → Prop) (t : Transcript σ) : Prop where
  writes : ∀ w ∈ t.writes, P w.1
  final : P t.final

theorem throughout_silent {s : σ} (h : P s) : (silent s).Throughout P :=
  ⟨fun _ hw => absurd hw List.not_mem_nil, h⟩

theorem throughout_stuck {s : σ} (h : P s) : (stuck s).Throughout P :=
  ⟨fun _ hw => absurd hw List.not_mem_nil, h⟩

theorem throughout_lines {s : σ} (texts : List String) (h : P s) :
    (lines texts s).Throughout P := by
  refine ⟨fun w hw => ?_, h⟩
  obtain ⟨text, -, rfl⟩ := List.mem_map.1 hw
  exact h

theorem throughout_line {s : σ} (text : String) (h : P s) : (line text s).Throughout P :=
  throughout_lines [text] h

theorem Throughout.andThen {t : Transcript σ} (ht : t.Throughout P) {next : σ → Transcript σ}
    (hnext : ∀ s, P s → (next s).Throughout P) : (t.andThen next).Throughout P := by
  cases hended : t.endless
  · have hlast := hnext t.final ht.final
    rw [andThen_of_ended hended]
    refine ⟨fun w hw => ?_, hlast.final⟩
    rcases List.mem_append.1 hw with hw | hw
    · exact ht.writes w hw
    · exact hlast.writes w hw
  · rw [andThen_of_endless hended]
    exact ht

theorem state_cutWrites {final : σ} (hfinal : P final) :
    ∀ (limit : Nat) (writes : List (σ × String)), (∀ w ∈ writes, P w.1) →
      P (cutWrites final limit writes).state
  | _, [], _ => hfinal
  | limit, (s, text) :: r, h => by
    have hs : P s := h (s, text) List.mem_cons_self
    have hr : ∀ w ∈ r, P w.1 := fun w hw => h w (List.mem_cons_of_mem _ hw)
    rw [cutWrites]
    dsimp only
    split_ifs
    · exact state_cutWrites hfinal _ r hr
    · exact hs

theorem Throughout.cut {t : Transcript σ} (h : t.Throughout P) (limit : Nat) :
    P (t.cut limit).state := state_cutWrites h.final limit t.writes h.writes

end Transcript

/-! ## In a course -/

theorem Lesson.exists_seeds_iff {l : Lesson} {r : Repo} :
    (∃ r', l.Seeds r r') ↔ l.snapshotFault? = none := by
  unfold Seeds snapshotFault?
  rcases l.initial with _ | s
  · simp
  · rcases hfault : s.fault? with _ | e
    · simp [hfault, Repo.importState_of_sound (s.fault?_eq_none_iff.1 hfault)]
    · simp [hfault, Repo.importState_of_fault hfault]

namespace Course

variable {c : Course} {id : String} {l : Lesson} {r r' : Repo}

theorem start_of_seeds (hl : c.lessons.get? id = some l) (h : l.Seeds r r') :
    c.start id r = ((c.reached id 0).enter r', .ok ((c.reached id 0).enter r').1.currentStep?) := by
  rw [start, hl]
  simp only [seed_eq_ok_iff.2 h]
  rfl

theorem start_eq_ok_iff {begun : Course × Repo} {first : Option Step} :
    c.start id r = (begun, .ok first) ↔
      ∃ l r', c.lessons.get? id = some l ∧ l.Seeds r r' ∧ begun = (c.reached id 0).enter r'
        ∧ first = begun.1.currentStep? := by
  constructor
  · intro h
    rcases hl : c.lessons.get? id with _ | l
    · rw [start, hl] at h
      cases h
    · obtain ⟨r', hseeds, hbegun, hfirst⟩ := start_eq_ok hl h
      exact ⟨l, r', rfl, hseeds, hbegun, hfirst⟩
  · rintro ⟨l, r', hl, hseeds, rfl, rfl⟩
    exact start_of_seeds hl hseeds

theorem seed_of_error {e : SnapshotError} (h : (seed l r).2 = .error e) :
    (seed l r).1 = r ∧ ∃ s, l.initial = some s ∧ s.fault? = some e := by
  unfold seed at h ⊢
  rcases hinitial : l.initial with _ | s
  · simp [hinitial] at h
  · simp only [hinitial] at h ⊢
    refine ⟨Repo.importState_of_error h, s, rfl, ?_⟩
    rwa [Repo.importState_snd, Snapshot.check_eq_error_iff] at h

/-- A start fails for want of the lesson or for a fault in its snapshot, and then neither the course
nor the repository is any different. -/
theorem start_of_error {e : LessonError} (h : (c.start id r).2 = .error e) :
    (c.start id r).1 = (c, r)
    ∧ ((c.lessons.get? id = none ∧ e = .notFound id)
      ∨ ∃ l s cause, c.lessons.get? id = some l ∧ l.initial = some s ∧ s.fault? = some cause
        ∧ e = .badSnapshot id cause) := by
  unfold start at h ⊢
  rcases hl : c.lessons.get? id with _ | l
  · simp only [hl, Except.error.injEq] at h
    exact ⟨rfl, .inl ⟨rfl, h.symm⟩⟩
  · rcases hseed : seed l r with ⟨r', cause | _⟩
    · simp only [hl, hseed, Except.error.injEq] at h ⊢
      obtain ⟨heq, s, hinitial, hfault⟩ := seed_of_error (congrArg Prod.snd hseed)
      rw [hseed] at heq
      exact ⟨congrArg (c, ·) heq, .inr ⟨l, s, cause, rfl, hinitial, hfault, h.symm⟩⟩
    · simp [hl, hseed] at h

theorem snd_enter_reached (hl : c.lessons.get? id = some l) (k : Nat) (r : Repo) :
    ((c.reached id k).enter r).2 = r.editAll (l.setupAt k) := by
  by_cases hk : k < l.steps.length
  · rw [enter_of_lt hl hk]
  · rw [enter_of_le hl (Nat.not_lt.1 hk), Lesson.setupAt_of_le (Nat.not_lt.1 hk)]
    rfl

/-- The first step is entered; a lesson without steps is completed at once. -/
theorem currentStep?_enter_reached (hl : c.lessons.get? id = some l) (r : Repo) :
    ((c.reached id 0).enter r).1.currentStep? = l.steps.head? := by
  rcases hsteps : l.steps with _ | ⟨step, steps⟩
  · rw [enter_of_le hl (by simp [hsteps])]
    rfl
  · rw [enter_of_lt hl (by simp [hsteps])]
    simp [currentStep?, reached, hl, hsteps]

theorem attempts_enter (c : Course) (r : Repo) : (c.enter r).1.attempts = c.attempts := by
  rcases fst_enter c r with h | h
  · rw [h]
  · rw [h, complete]
    split <;> rfl

theorem attempts_of_start {begun : Course × Repo} {first : Option Step}
    (h : c.start id r = (begun, .ok first)) : begun.1.attempts = 0 := by
  obtain ⟨l, r', -, -, rfl, -⟩ := start_eq_ok_iff.1 h
  exact attempts_enter (c.reached id 0) r'

end Course

/-! ## In a session -/

namespace Session

open Transcript

variable {s : Session} {key : String} {begun : Course × Repo}

/-- The lesson that the key calls can be started, which leads to the given course and repository. -/
def Starts (s : Session) (key : String) (begun : Course × Repo) : Prop :=
  ∃ l first, s.course.find? key = some l
    ∧ s.course.start l.id s.freshRepo = (begun, .ok first)

theorem Starts.attempts_eq (h : s.Starts key begun) : begun.1.attempts = 0 := by
  obtain ⟨l, first, -, hstart⟩ := h
  exact Course.attempts_of_start hstart

theorem throughout_announce {P : Session → Prop} (h : P s) (id : String) :
    (s.announce id).Throughout P := by
  unfold announce
  split_ifs
  · exact throughout_lines _ h
  · exact throughout_lines _ h

theorem endless_startLesson (s : Session) (key : String) : (s.startLesson key).endless = false := by
  unfold startLesson
  split
  · rfl
  · split
    · rfl
    · simp [endless_announce]

theorem startLesson_of_starts {P : Session → Prop} (h : s.Starts key begun)
    (hP : P { s with course := begun.1, repo := begun.2 }) :
    (s.startLesson key).Throughout P := by
  obtain ⟨l, first, hfind, hstart⟩ := h
  simp only [startLesson, hfind, hstart]
  exact (throughout_lines _ hP).andThen fun _ ht => throughout_announce ht l.id

/-- A start that fails changes nothing, at no point of the report. -/
theorem startLesson_of_not_starts {P : Session → Prop} (h : ∀ begun, ¬ s.Starts key begun)
    (hP : P s) : (s.startLesson key).Throughout P := by
  unfold startLesson
  split
  · exact throughout_line _ hP
  · rename_i l hfind
    split
    · rename_i course repo e hstart
      have hsame := (Course.start_of_error (congrArg Prod.snd hstart)).1
      rw [hstart, Prod.mk.injEq] at hsame
      rw [hsame.1]
      exact throughout_line _ hP
    · rename_i course repo first hstart
      exact absurd ⟨l, first, hfind, hstart⟩ (h (course, repo))

theorem startLesson_final (h : s.Starts key begun) :
    (s.startLesson key).final = { s with course := begun.1, repo := begun.2 } :=
  (startLesson_of_starts (P := (· = { s with course := begun.1, repo := begun.2 })) h rfl).final

theorem startLesson_final_of_not_starts (h : ∀ begun, ¬ s.Starts key begun) :
    (s.startLesson key).final = s :=
  (startLesson_of_not_starts (P := (· = s)) h rfl).final

end Session

end GitPractice
