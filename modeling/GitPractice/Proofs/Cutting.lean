import Mathlib.Tactic.SplitIfs
import GitPractice.Shell.Flags
import GitPractice.Proofs.Entries

/-!
# Cutting words into segments

What a segment may be depends on its own words and on the word after it (`Segment.Fits`). There is
one way only to cut a list of words into segments that fit, and it is the way in which flags and
positional words are told apart (`isCut_iff`).

So positional words and a map of flags can be written down and are read as just these
(`splitFlags_append_spell`). The words must stand in front, as a flag without a value would take a
word that stood behind it.
-/

namespace GitPractice.Shell

section Words

variable {flag name value word : String} {words : List String}

/-! ## Dashes -/

theorem isLong_iff : isLong word = true ↔ ∃ cs, word.toList = '-' :: '-' :: cs := by
  unfold isLong
  split
  · rename_i cs hword
    simp [hword]
  · rename_i hnot
    simpa using hnot

theorem isFlag_of_isLong (h : isLong word = true) : isFlag word = true := by
  obtain ⟨cs, hcs⟩ := isLong_iff.1 h
  have hne : word ≠ "-" := by
    rintro rfl
    cases hcs
  simp [isFlag, isDashed, hcs, hne]

theorem isFlag_of_not_dashed (h : isDashed word = false) : isFlag word = false := by
  rw [isFlag, h, Bool.false_and]

theorem isDashed_of_isFlag (h : isFlag word = true) : isDashed word = true :=
  (Bool.and_eq_true_iff.1 h).1

theorem isLong_append (h : isLong name = true) (word : String) : isLong (name ++ word) = true := by
  obtain ⟨cs, hcs⟩ := isLong_iff.1 h
  exact isLong_iff.2 ⟨cs ++ word.toList, by simp [hcs]⟩

/-- The first equals sign stands behind the dashes, so the name has them. -/
theorem isLong_of_append (h : isLong (name ++ "=" ++ value) = true) : isLong name = true := by
  obtain ⟨cs, hcs⟩ := isLong_iff.1 h
  rw [isLong_iff]
  rcases hname : name.toList with _ | ⟨c, _ | ⟨d, ds⟩⟩
  · simp [hname] at hcs
  · simp [hname] at hcs
  · simp only [String.toList_append, hname, List.cons_append, List.cons.injEq] at hcs
    obtain ⟨rfl, rfl, -⟩ := hcs
    exact ⟨ds, rfl⟩

/-! ## Equals signs -/

/-- The word is a long flag with its value behind an equals sign. -/
def IsAssigned (w : String) : Prop := isLong w = true ∧ '=' ∈ w.toList

instance (w : String) : Decidable (IsAssigned w) := inferInstanceAs (Decidable (_ ∧ _))

theorem cutEquals_append {as : List Char} (h : '=' ∉ as) (bs : List Char) :
    cutEquals (as ++ '=' :: bs) = some (as, bs) := by
  induction as with
  | nil => rfl
  | cons c as ih =>
    rw [List.mem_cons, not_or] at h
    rw [List.cons_append, cutEquals, if_neg (Ne.symm h.1), ih h.2, Option.map_some]

theorem notMem_of_cutEquals {cs as bs : List Char} (h : cutEquals cs = some (as, bs)) :
    '=' ∉ as := by
  induction cs generalizing as with
  | nil => cases h
  | cons c cs ih =>
    rw [cutEquals] at h
    split_ifs at h with hc
    · cases h
      exact List.not_mem_nil
    · obtain ⟨⟨as', bs'⟩, h', heq⟩ := Option.map_eq_some_iff.1 h
      cases heq
      exact List.not_mem_cons_of_ne_of_not_mem (Ne.symm hc) (ih h')

theorem cutEquals_eq_none_iff {cs : List Char} : cutEquals cs = none ↔ '=' ∉ cs := by
  induction cs with
  | nil => simp [cutEquals]
  | cons c cs ih =>
    rw [cutEquals, List.mem_cons, not_or]
    split_ifs with hc
    · simp [hc]
    · rw [Option.map_eq_none_iff, ih]
      exact (and_iff_right (Ne.symm hc)).symm

theorem assignment?_eq_none_iff : assignment? word = none ↔ ¬ IsAssigned word := by
  rw [assignment?, IsAssigned]
  split_ifs with hlong
  · rw [Option.map_eq_none_iff, cutEquals_eq_none_iff]
    simp [hlong]
  · simp [hlong]

theorem assignment?_of_not_flag (h : isFlag word = false) : assignment? word = none := by
  rw [assignment?_eq_none_iff]
  rintro ⟨hlong, -⟩
  rw [isFlag_of_isLong hlong] at h
  cases h

theorem assignment?_append (hlong : isLong name = true) (h : '=' ∉ name.toList)
    (value : String) : assignment? (name ++ "=" ++ value) = some (name, value) := by
  have hcut : cutEquals (name ++ "=" ++ value).toList = some (name.toList, value.toList) := by
    simpa using cutEquals_append h value.toList
  rw [assignment?, if_pos (isLong_append (isLong_append hlong "=") value), hcut]
  simp

theorem name_of_assignment? (h : assignment? word = some (name, value)) :
    isLong name = true ∧ '=' ∉ name.toList := by
  have hw := eq_of_assignment? h
  rw [assignment?] at h
  split_ifs at h with hlong
  obtain ⟨⟨as, bs⟩, hcut, heq⟩ := Option.map_eq_some_iff.1 h
  cases heq
  rw [hw] at hlong
  exact ⟨isLong_of_append hlong, by simpa using notMem_of_cutEquals hcut⟩

/-! ## The first segment -/

/-- The word is a flag that can take the next word as its value. -/
def IsOption (w : String) : Prop := isFlag w = true ∧ ¬ IsAssigned w

instance (w : String) : Decidable (IsOption w) := inferInstanceAs (Decidable (_ ∧ _))

theorem segments_assigned (hlong : isLong name = true) (h : '=' ∉ name.toList)
    (value : String) :
    segments ((name ++ "=" ++ value) :: words) = .assigned name value :: segments words := by
  rw [segments.eq_def]
  simp [assignment?_append hlong h]

theorem segments_valued (hnone : assignment? flag = none) (hflag : isFlag flag = true)
    (hvalue : isDashed value = false) :
    segments (flag :: value :: words) = .valued flag value :: segments words := by
  rw [segments.eq_def]
  simp [hnone, hflag, hvalue]

theorem segments_lone (hnone : assignment? flag = none) (hflag : isFlag flag = true) :
    segments [flag] = [.lone flag] := by
  rw [segments, hnone]
  simp [hflag]

theorem segments_option (h : IsOption flag) (hrest : ∀ w ∈ words.head?, isDashed w = true) :
    segments (flag :: words) = .lone flag :: segments words := by
  cases words with
  | nil => rw [segments_lone (assignment?_eq_none_iff.2 h.2) h.1, segments]
  | cons v words =>
    rw [segments.eq_def]
    simp [assignment?_eq_none_iff.2 h.2, h.1, hrest v rfl]

theorem segments_of_not_flag (h : isFlag word = false) :
    segments (word :: words) = .positional word :: segments words := by
  rw [segments.eq_def]
  simp [assignment?_of_not_flag h, h]

theorem segments_positional (h : isDashed word = false) :
    segments (word :: words) = .positional word :: segments words :=
  segments_of_not_flag (isFlag_of_not_dashed h)

end Words

/-! ## Segments that fit -/

namespace Segment

/-- The segment is what its words are in front of these other words. -/
def Fits (rest : List String) : Segment → Prop
  | .assigned name _ => isLong name = true ∧ '=' ∉ name.toList
  | .valued name value => IsOption name ∧ isDashed value = false
  | .lone name => IsOption name ∧ ∀ w ∈ rest.head?, isDashed w = true
  | .positional word => isFlag word = false

/-- Each segment fits the words of the segments after it. -/
def AllFit : List Segment → Prop
  | [] => True
  | s :: segs => s.Fits (segs.flatMap spell) ∧ AllFit segs

instance decidableFits (rest : List String) : (s : Segment) → Decidable (s.Fits rest)
  | .assigned name _ => inferInstanceAs (Decidable (isLong name = true ∧ '=' ∉ name.toList))
  | .valued name value => inferInstanceAs (Decidable (IsOption name ∧ isDashed value = false))
  | .lone name =>
    inferInstanceAs (Decidable (IsOption name ∧ ∀ w ∈ rest.head?, isDashed w = true))
  | .positional word => inferInstanceAs (Decidable (isFlag word = false))

instance decidableAllFit : (segs : List Segment) → Decidable (AllFit segs)
  | [] => .isTrue trivial
  | s :: segs =>
    have : Decidable (AllFit segs) := decidableAllFit segs
    inferInstanceAs (Decidable (s.Fits (segs.flatMap spell) ∧ AllFit segs))

theorem AllFit.fits {segs : List Segment} (h : AllFit segs) {s : Segment} (hs : s ∈ segs) :
    ∃ rest, s.Fits rest := by
  induction segs with
  | nil => cases hs
  | cons t segs ih =>
    rcases List.mem_cons.1 hs with rfl | hs
    · exact ⟨_, h.1⟩
    · exact ih h.2 hs

end Segment

/-- The words are cut into these segments. -/
structure IsCut (segs : List Segment) (ws : List String) : Prop where
  fit : Segment.AllFit segs
  spell : segs.flatMap Segment.spell = ws

theorem segments_spell {segs : List Segment} (h : Segment.AllFit segs) :
    segments (segs.flatMap Segment.spell) = segs := by
  induction segs with
  | nil => rw [List.flatMap_nil, segments]
  | cons s segs ih =>
    obtain ⟨hs, hsegs⟩ := h
    have hih (s : Segment) : s :: segments (segs.flatMap Segment.spell) = s :: segs :=
      congrArg (s :: ·) (ih hsegs)
    cases s with
    | assigned name value => exact (segments_assigned hs.1 hs.2 value).trans (hih _)
    | valued name value =>
      exact (segments_valued (assignment?_eq_none_iff.2 hs.1.2) hs.1.1 hs.2).trans (hih _)
    | lone name => exact (segments_option hs.1 hs.2).trans (hih _)
    | positional word => exact (segments_of_not_flag hs).trans (hih _)

theorem allFit_segments (ws : List String) : Segment.AllFit (segments ws) := by
  fun_induction segments ws with
  | case1 => trivial
  | case2 w rest name value h ih => exact ⟨name_of_assignment? h, ih⟩
  | case3 w hnone hflag =>
    exact ⟨⟨⟨hflag, assignment?_eq_none_iff.1 hnone⟩, by simp⟩, trivial⟩
  | case4 w hnone hflag v rest hdashed ih =>
    refine ⟨⟨⟨hflag, assignment?_eq_none_iff.1 hnone⟩, ?_⟩, ih⟩
    rw [spell_segments]
    intro u hu
    cases hu
    exact hdashed
  | case5 w hnone hflag v rest hdashed ih =>
    exact ⟨⟨⟨hflag, assignment?_eq_none_iff.1 hnone⟩, Bool.eq_false_iff.2 hdashed⟩, ih⟩
  | case6 w rest hnone hflag ih => exact ⟨Bool.eq_false_iff.2 hflag, ih⟩

theorem isCut_iff {segs : List Segment} {ws : List String} : IsCut segs ws ↔ segs = segments ws := by
  constructor
  · rintro ⟨hfit, rfl⟩
    exact (segments_spell hfit).symm
  · rintro rfl
    exact ⟨allFit_segments ws, spell_segments ws⟩

theorem splitFlags_of_isCut {segs : List Segment} {ws : List String} (h : IsCut segs ws) :
    splitFlags ws = (.ofList (segs.filterMap Segment.flag?), segs.filterMap Segment.positional?) := by
  rw [splitFlags, ← isCut_iff.1 h]

theorem isFlag_of_positional {ws : List String} {w : String} (h : w ∈ (splitFlags ws).2) :
    isFlag w = false := by
  obtain ⟨s, hs, hpositional⟩ := List.mem_filterMap.1 h
  obtain ⟨rest, hfits⟩ := (allFit_segments ws).fits hs
  cases s with
  | positional v =>
    cases hpositional
    exact hfits
  | _ => cases hpositional

/-! ## Positional words -/

section Positionals

variable {flag value : String} {words : List String}

theorem segments_positionals (h : ∀ w ∈ words, isFlag w = false) :
    segments words = words.map .positional := by
  induction words with
  | nil => rw [segments, List.map_nil]
  | cons w words ih =>
    obtain ⟨hw, hwords⟩ := List.forall_mem_cons.1 h
    rw [segments_of_not_flag hw, ih hwords, List.map_cons]

theorem filterMap_flag?_positionals (words : List String) :
    (words.map Segment.positional).filterMap Segment.flag? = [] := by
  rw [List.filterMap_map]
  exact List.filterMap_none words

theorem filterMap_positional?_positionals (words : List String) :
    (words.map Segment.positional).filterMap Segment.positional? = words := by
  rw [List.filterMap_map]
  exact List.filterMap_some

theorem splitFlags_positionals (h : ∀ w ∈ words, isDashed w = false) :
    splitFlags words = (.ofList [], words) := by
  rw [splitFlags, segments_positionals fun w hw => isFlag_of_not_dashed (h w hw),
    filterMap_flag?_positionals, filterMap_positional?_positionals]

/-- The first flag swallows a word, and no other flag follows. -/
theorem splitFlags_valued (hnone : assignment? flag = none) (hflag : isFlag flag = true)
    (hvalue : isDashed value = false) (hwords : ∀ w ∈ words, isDashed w = false) :
    splitFlags (flag :: value :: words) = (.ofList [(flag, some value)], words) := by
  rw [splitFlags, segments_valued hnone hflag hvalue,
    segments_positionals fun w hw => isFlag_of_not_dashed (hwords w hw)]
  have hflags := congrArg ((flag, some value) :: ·) (filterMap_flag?_positionals words)
  exact Prod.ext (congrArg OrderedMap.ofList hflags) (filterMap_positional?_positionals words)

end Positionals

/-! ## Words in front of flags -/

/-- A flag without a value, or with the value as a word of its own. -/
def Segment.ofFlag (e : String × Option String) : Segment :=
  match e.2 with
  | some value => .valued e.1 value
  | none => .lone e.1

/-- The words of a flag, the value behind the name. -/
def spellFlag (e : String × Option String) : List String := e.1 :: e.2.toList

/-- The flags in their order. -/
def Flags.spell (flags : Flags) : List String := flags.entries.flatMap spellFlag

/-- No name holds a value and no value looks like a flag. -/
def Flags.Plain (flags : Flags) : Prop :=
  ∀ e ∈ flags.entries, IsOption e.1 ∧ ∀ v ∈ e.2, isDashed v = false

instance (flags : Flags) : Decidable flags.Plain :=
  inferInstanceAs (Decidable (∀ e ∈ flags.entries, _))

theorem Segment.spell_ofFlag (e : String × Option String) :
    (Segment.ofFlag e).spell = spellFlag e := by
  obtain ⟨name, _ | value⟩ := e <;> rfl

theorem flatMap_spell_ofFlag (l : List (String × Option String)) :
    (l.map Segment.ofFlag).flatMap Segment.spell = l.flatMap spellFlag := by
  rw [List.flatMap_map]
  simp only [Segment.spell_ofFlag]

theorem flatMap_spell_positionals (words : List String) :
    (words.map Segment.positional).flatMap Segment.spell = words := by
  rw [List.flatMap_map]
  exact List.flatMap_singleton' words

theorem filterMap_flag?_ofFlag (l : List (String × Option String)) :
    (l.map Segment.ofFlag).filterMap Segment.flag? = l := by
  rw [List.filterMap_map]
  refine (List.filterMap_congr fun e _ => ?_).trans List.filterMap_some
  obtain ⟨name, _ | value⟩ := e <;> rfl

theorem filterMap_positional?_ofFlag (l : List (String × Option String)) :
    (l.map Segment.ofFlag).filterMap Segment.positional? = [] := by
  rw [List.filterMap_map]
  refine (List.filterMap_congr fun e _ => ?_).trans (List.filterMap_none l)
  obtain ⟨name, _ | value⟩ := e <;> rfl

/-- After a flag without a value comes the next flag, or nothing. -/
theorem allFit_flags {l : List (String × Option String)}
    (h : ∀ e ∈ l, IsOption e.1 ∧ ∀ v ∈ e.2, isDashed v = false) :
    Segment.AllFit (l.map Segment.ofFlag) := by
  induction l with
  | nil => trivial
  | cons e l ih =>
    obtain ⟨⟨hname, hvalue⟩, hl⟩ := List.forall_mem_cons.1 h
    refine ⟨?_, ih hl⟩
    obtain ⟨name, _ | value⟩ := e
    · refine ⟨hname, ?_⟩
      cases l with
      | nil => simp
      | cons f l =>
        intro w hw
        rw [List.map_cons, List.flatMap_cons, Segment.spell_ofFlag] at hw
        cases hw
        exact isDashed_of_isFlag (hl f List.mem_cons_self).1.1
    · exact ⟨hname, hvalue value rfl⟩

theorem allFit_positionals {words : List String} {segs : List Segment}
    (hwords : ∀ w ∈ words, isFlag w = false) (hsegs : Segment.AllFit segs) :
    Segment.AllFit (words.map .positional ++ segs) := by
  induction words with
  | nil => exact hsegs
  | cons w words ih =>
    obtain ⟨hw, hwords⟩ := List.forall_mem_cons.1 hwords
    exact ⟨hw, ih hwords⟩

theorem splitFlags_append_spell {words : List String} {flags : Flags}
    (hwords : ∀ w ∈ words, isFlag w = false) (hflags : flags.Plain) :
    splitFlags (words ++ flags.spell) = (flags, words) := by
  have hcut : IsCut (words.map .positional ++ flags.entries.map Segment.ofFlag)
      (words ++ flags.spell) := by
    refine ⟨allFit_positionals hwords (allFit_flags hflags), ?_⟩
    rw [List.flatMap_append, flatMap_spell_positionals, flatMap_spell_ofFlag, Flags.spell]
  rw [splitFlags_of_isCut hcut, List.filterMap_append, List.filterMap_append,
    filterMap_flag?_positionals, filterMap_positional?_positionals, filterMap_flag?_ofFlag,
    filterMap_positional?_ofFlag, List.nil_append, List.append_nil, OrderedMap.ofList_entries]

/-- The same with the flags in front, where none of them takes a word. -/
theorem splitFlags_of_segments {ws args : List String} {l : List (String × Option String)}
    (h : segments ws = l.map Segment.ofFlag ++ args.map Segment.positional) :
    splitFlags ws = (.ofList l, args) := by
  rw [splitFlags, h, List.filterMap_append, List.filterMap_append,
    filterMap_flag?_positionals, filterMap_positional?_positionals, filterMap_flag?_ofFlag,
    filterMap_positional?_ofFlag, List.nil_append, List.append_nil]

theorem splitFlags_cut :
    (∀ ws, ∃! segs, IsCut segs ws)
    ∧ (∀ segs ws, IsCut segs ws →
      (splitFlags ws).2 = segs.filterMap Segment.positional?
      ∧ (splitFlags ws).1 = .ofList (segs.filterMap Segment.flag?)
      ∧ (splitFlags ws).1.keys = ((segs.filterMap Segment.flag?).map Prod.fst).eraseDups
      ∧ ∀ name, (splitFlags ws).1.get? name
        = ((segs.filterMap Segment.flag?).reverse.find? fun e => e.1 = name).map Prod.snd)
    ∧ ∀ (words : List String) (flags : Flags), (∀ w ∈ words, isFlag w = false) → flags.Plain →
      splitFlags (words ++ flags.spell) = (flags, words) := by
  refine ⟨fun ws => ?_, fun segs ws h => ?_, fun words flags => splitFlags_append_spell⟩
  · exact ⟨segments ws, isCut_iff.2 rfl, fun segs h => isCut_iff.1 h⟩
  · rw [splitFlags_of_isCut h]
    exact ⟨rfl, rfl, OrderedMap.keys_ofList _, OrderedMap.get?_ofList _⟩

/-- A flag given twice, an equals sign in a value, an empty value and a lone dash. -/
theorem splitFlags_cut_release :
    IsCut [.positional "v1", .lone "-a", .assigned "--message" "x=y", .valued "-a" "b",
        .positional "-"] ["v1", "-a", "--message=x=y", "-a", "b", "-"]
    ∧ splitFlags ["v1", "-a", "--message=x=y", "-a", "b", "-"]
      = (.ofList [("-a", some "b"), ("--message", some "x=y")], ["v1", "-"])
    ∧ splitFlags (["v1", "-"] ++ ["-a", "", "--", "-m", "x=y"])
      = (.ofList [("-a", some ""), ("--", none), ("-m", some "x=y")], ["v1", "-"]) := by
  obtain ⟨-, hsplit, hspelled⟩ := splitFlags_cut
  have hcut : IsCut [.positional "v1", .lone "-a", .assigned "--message" "x=y", .valued "-a" "b",
      .positional "-"] ["v1", "-a", "--message=x=y", "-a", "b", "-"] :=
    ⟨by decide, by decide⟩
  obtain ⟨hargs, hflags, -, -⟩ := hsplit _ _ hcut
  refine ⟨hcut, Prod.ext (hflags.trans (by decide)) hargs, ?_⟩
  exact hspelled ["v1", "-"] (.ofList [("-a", some ""), ("--", none), ("-m", some "x=y")])
    (by decide) (by decide)

end GitPractice.Shell
