import GitPractice.Proofs.NameOrder
import GitPractice.Proofs.Spelling

/-!
# Canonical lines

Two lines with the same words for a command have one canonical form, in whatever order their flags
were given (`byName_congr`). If such a line is read again, its flags come first: a flag without a
value may then take the first positional word, and a value that was empty is lost. But the words of
the new command are those of the line in the same order (`canonicalTail_canonicalTail`), as what is
cut into segments is not changed by the cut. So putting a line into canonical form again changes
nothing, if its words can be typed as they are (`canonical_form`).
-/

namespace GitPractice.Shell

open GitPractice.Text (trim lower joinWith)

/-! ## Flags by name -/

theorem sort_eq_of_perm {names names' : List String} (h : names.Perm names') :
    (names.mergeSort fun a b => decide (a ≤ b)) = names'.mergeSort fun a b => decide (a ≤ b) := by
  refine List.Perm.eq_of_pairwise (fun a b _ _ => String.le_antisymm) (pairwise_sort names)
    (pairwise_sort names') ?_
  exact (List.mergeSort_perm _ _).trans (h.trans (List.mergeSort_perm _ _).symm)

namespace Flags

/-- A flag as far as its value matters: an empty one counts as none. -/
def valueOf? (flags : Flags) (name : String) : Option (Option String) :=
  (flags.get? name).map (·.filter (· ≠ ""))

/-- The flags in the order of their names. -/
def byName (flags : Flags) : List (String × Option String) :=
  (flags.keys.mergeSort fun a b => decide (a ≤ b)).map fun name =>
    (name, (flags.valueOf? name).join)

variable {flags flags' : Flags}

theorem mem_keys_iff_valueOf? {name : String} :
    name ∈ flags.keys ↔ (flags.valueOf? name).isSome = true := by
  rw [← OrderedMap.contains_iff, OrderedMap.contains, valueOf?, Option.isSome_map]

theorem byName_congr (h : ∀ name, flags.valueOf? name = flags'.valueOf? name) :
    flags.byName = flags'.byName := by
  have hkeys : flags.keys.Perm flags'.keys := by
    refine (List.perm_ext_iff_of_nodup flags.nodup flags'.nodup).2 fun name => ?_
    rw [← OrderedMap.keys, ← OrderedMap.keys, mem_keys_iff_valueOf?, h, mem_keys_iff_valueOf?]
  rw [byName, byName, sort_eq_of_perm hkeys]
  simp only [h]

theorem map_fst_byName (flags : Flags) :
    flags.byName.map Prod.fst = flags.keys.mergeSort fun a b => decide (a ≤ b) := by
  rw [byName, List.map_map]
  exact List.map_id _

/-- Flags that are in order already. -/
theorem byName_ofList {l : List (String × Option String)} (hnodup : (l.map Prod.fst).Nodup)
    (hsorted : (l.map Prod.fst).Pairwise (· ≤ ·)) (hvalue : ∀ e ∈ l, e.2 ≠ some "") :
    byName (.ofList l) = l := by
  have hentries := OrderedMap.entries_ofList hnodup
  rw [byName, OrderedMap.keys, hentries, List.mergeSort_of_pairwise (hsorted.imp decide_eq_true),
    List.map_map]
  refine (List.map_congr_left fun e he => ?_).trans (List.map_id l)
  have hget : (OrderedMap.ofList l).get? e.1 = some e.2 := by
    rw [OrderedMap.get?_eq_some_iff, hentries]
    exact he
  have hne := hvalue e he
  obtain ⟨name, _ | value⟩ := e
  · simp [valueOf?, hget]
  · have hne' : value ≠ "" := fun h => hne (congrArg some h)
    simp [valueOf?, hget, Option.filter_some, hne']

end Flags

theorem flagWords_eq (flags : Flags) (name : String) :
    Command.flagWords flags name = spellFlag (name, (flags.valueOf? name).join) := by
  rw [Command.flagWords, Flags.valueOf?]
  cases flags.get? name with
  | none => rfl
  | some value =>
    cases value with
    | none => rfl
    | some v => by_cases hv : v = "" <;> simp [spellFlag, Option.filter_some, hv]

theorem canonicalWords_eq (c : Command) :
    c.canonicalWords = c.tool.name :: c.name :: (c.sub.toList
      ++ (c.flags.byName.flatMap spellFlag ++ c.args)) := by
  have hwords : Command.flagWords c.flags
      = fun name => spellFlag (name, (c.flags.valueOf? name).join) :=
    funext (flagWords_eq c.flags)
  rw [Command.canonicalWords, Flags.byName, List.flatMap_map, hwords]
  simp only [List.append_assoc]
  rfl

/-! ## Words that can be typed as they are -/

/-- The words hold no character with a meaning of its own to the shell, and no value behind an
equals sign looks like a flag. -/
structure Unadorned (words : List String) : Prop where
  plain : ∀ w ∈ words, isPlain w = true
  value : ∀ name value, name ++ "=" ++ value ∈ words → isLong name = true → '=' ∉ name.toList →
    isDashed value = false

theorem Unadorned.subset {words words' : List String} (h : Unadorned words)
    (hsub : words' ⊆ words) : Unadorned words' where
  plain w hw := h.plain w (hsub hw)
  value name value hmem := h.value name value (hsub hmem)

theorem isPlain_iff {w : String} :
    isPlain w = true ↔ w ≠ "" ∧ ∀ c ∈ w.toList, isOrdinary c = true := by
  simp [isPlain]

/-- A flag among such words, where only an equals sign may have nothing behind it. -/
structure PlainFlag (name : String) (value : Option String) : Prop where
  option : IsOption name
  plain : isPlain name = true
  value : ∀ v ∈ value, isDashed v = false ∧ (v ≠ "" → isPlain v = true)

theorem plainFlag_assigned {name value : String} (hlong : isLong name = true)
    (hname : '=' ∉ name.toList) (hplain : isPlain (name ++ "=" ++ value) = true)
    (hvalue : isDashed value = false) : PlainFlag name (some value) := by
  obtain ⟨-, hordinary⟩ := isPlain_iff.1 hplain
  have hne : name ≠ "" := by
    rintro rfl
    cases hlong
  refine ⟨⟨isFlag_of_isLong hlong, fun h => hname h.2⟩, ?_, ?_⟩
  · exact isPlain_iff.2 ⟨hne, fun c hc => hordinary c (by simp [hc])⟩
  · intro v hv
    cases hv
    exact ⟨hvalue, fun hv => isPlain_iff.2 ⟨hv, fun c hc => hordinary c (by simp [hc])⟩⟩

section Tail

variable {words : List String} (h : Unadorned words)

include h

theorem plainFlag_of_mem {s : Segment} (hs : s ∈ segments words) {name : String}
    {value : Option String} (hflag : s.flag? = some (name, value)) : PlainFlag name value := by
  have hwords := (isInfix_spell hs).subset
  obtain ⟨rest, hfits⟩ := (allFit_segments words).fits hs
  cases s with
  | assigned n v =>
    cases hflag
    have hmem := hwords List.mem_cons_self
    exact plainFlag_assigned hfits.1 hfits.2 (h.plain _ hmem) (h.value _ v hmem hfits.1 hfits.2)
  | valued n v =>
    cases hflag
    refine ⟨hfits.1, h.plain _ (hwords List.mem_cons_self), fun u hu => ?_⟩
    cases hu
    exact ⟨hfits.2, fun _ => h.plain _ (hwords (by simp [Segment.spell]))⟩
  | lone n =>
    cases hflag
    exact ⟨hfits.1, h.plain _ (hwords List.mem_cons_self), by simp⟩
  | positional w => cases hflag

theorem plainFlag_splitFlags : (splitFlags words).1.All PlainFlag := by
  refine OrderedMap.all_ofList fun e he => ?_
  obtain ⟨s, hs, hflag⟩ := List.mem_filterMap.1 he
  exact plainFlag_of_mem h hs hflag

theorem plainFlag_byName :
    ∀ e ∈ (splitFlags words).1.byName, PlainFlag e.1 e.2 ∧ e.2 ≠ some "" := by
  intro e he
  obtain ⟨name, hname, rfl⟩ := List.mem_map.1 he
  rw [(List.mergeSort_perm _ _).mem_iff] at hname
  obtain ⟨value, hvalue⟩ := OrderedMap.mem_keys_iff.1 hname
  obtain ⟨hoption, hplain, hall⟩ := plainFlag_splitFlags h name value hvalue
  have hjoin : ((splitFlags words).1.valueOf? name).join = value.filter (· ≠ "") := by
    rw [Flags.valueOf?, hvalue]
    rfl
  rw [hjoin]
  refine ⟨⟨hoption, hplain, fun v hv => ?_⟩, fun hempty => ?_⟩
  · exact hall v (Option.filter_eq_some_iff.1 hv).1
  · simpa using Option.filter_eq_some_iff.1 hempty

end Tail

/-! ## Reading a canonical form -/

/-- A flag in front of positional words may take the first of them. -/
theorem segments_last {name : String} {args : List String} (hname : IsOption name)
    (hargs : ∀ w ∈ args, isFlag w = false ∧ w ≠ "") :
    ∃ (value : Option String) (args' : List String),
      segments (name :: args) = Segment.ofFlag (name, value) :: args'.map Segment.positional
        ∧ value ≠ some "" := by
  have hpositionals := segments_positionals fun w hw => (hargs w hw).1
  cases args with
  | nil =>
    refine ⟨none, [], (segments_option hname (by simp)).trans ?_, nofun⟩
    exact congrArg (.lone name :: ·) hpositionals
  | cons w args =>
    cases hdashed : isDashed w with
    | true =>
      have hnext : ∀ v ∈ (w :: args).head?, isDashed v = true := by
        intro v hv
        cases hv
        exact hdashed
      refine ⟨none, w :: args, (segments_option hname hnext).trans ?_, nofun⟩
      exact congrArg (.lone name :: ·) hpositionals
    | false =>
      obtain ⟨⟨-, hne⟩, hrest⟩ := List.forall_mem_cons.1 hargs
      refine ⟨some w, args, ?_, fun h => hne (Option.some.inj h)⟩
      rw [segments_valued (assignment?_eq_none_iff.2 hname.2) hname.1 hdashed,
        segments_positionals fun v hv => (hrest v hv).1]
      rfl

/-- No other flag can take a word, as a flag follows it or a word that it has. -/
theorem segments_spelled {l : List (String × Option String)} {args : List String}
    (hl : ∀ e ∈ l, PlainFlag e.1 e.2 ∧ e.2 ≠ some "")
    (hargs : ∀ w ∈ args, isFlag w = false ∧ w ≠ "") :
    ∃ (l' : List (String × Option String)) (args' : List String),
      segments (l.flatMap spellFlag ++ args)
        = l'.map Segment.ofFlag ++ args'.map Segment.positional
      ∧ l'.map Prod.fst = l.map Prod.fst ∧ ∀ e ∈ l', e.2 ≠ some "" := by
  induction l with
  | nil =>
    exact ⟨[], args, segments_positionals fun w hw => (hargs w hw).1, rfl, by simp⟩
  | cons e l ih =>
    obtain ⟨⟨he, hne⟩, hrest⟩ := List.forall_mem_cons.1 hl
    obtain ⟨l', args', hsegments, hnames, hvalues⟩ := ih hrest
    obtain ⟨name, _ | value⟩ := e
    · cases l with
      | nil =>
        obtain ⟨value, args', hlast, hvalue⟩ := segments_last he.option hargs
        exact ⟨[(name, value)], args', hlast, rfl, by simpa using hvalue⟩
      | cons f l =>
        have hnext : ∀ w ∈ ((f :: l).flatMap spellFlag ++ args).head?, isDashed w = true := by
          intro w hw
          cases hw
          exact isDashed_of_isFlag (hrest f List.mem_cons_self).1.option.1
        refine ⟨(name, none) :: l', args', ?_, by simp [hnames], ?_⟩
        · exact (segments_option he.option hnext).trans (congrArg (.lone name :: ·) hsegments)
        · exact List.forall_mem_cons.2 ⟨hne, hvalues⟩
    · refine ⟨(name, some value) :: l', args', ?_, by simp [hnames], ?_⟩
      · exact (segments_valued (assignment?_eq_none_iff.2 he.option.2) he.option.1
          (he.value value rfl).1).trans (congrArg (.valued name value :: ·) hsegments)
      · exact List.forall_mem_cons.2 ⟨hne, hvalues⟩

/-- The words behind a command's names in canonical order. -/
def canonicalTail (words : List String) : List String :=
  (splitFlags words).1.byName.flatMap spellFlag ++ (splitFlags words).2

theorem canonicalTail_canonicalTail {words : List String} (h : Unadorned words) :
    canonicalTail (canonicalTail words) = canonicalTail words := by
  have hargs : ∀ w ∈ (splitFlags words).2, isFlag w = false ∧ w ≠ "" := fun w hw =>
    ⟨isFlag_of_positional hw, (isPlain_iff.1 (h.plain w (mem_of_positional hw))).1⟩
  -- the last flag and the words may be other ones, but the names are the same in the same order
  obtain ⟨l, args, hsegments, hnames, hvalues⟩ := segments_spelled (plainFlag_byName h) hargs
  rw [Flags.map_fst_byName] at hnames
  have hnodup : (l.map Prod.fst).Nodup := by
    rw [hnames, (List.mergeSort_perm _ _).nodup_iff]
    exact (splitFlags words).1.nodup
  have hsorted : (l.map Prod.fst).Pairwise (· ≤ ·) := hnames ▸ pairwise_sort _
  have hsplit : splitFlags (canonicalTail words) = (.ofList l, args) :=
    splitFlags_of_segments hsegments
  -- a cut keeps the words, so the new flags in front of the new words are what was read
  have hspelled : l.flatMap spellFlag ++ args = canonicalTail words := by
    have hwords := spell_segments (canonicalTail words)
    rwa [canonicalTail, hsegments, List.flatMap_append, flatMap_spell_ofFlag,
      flatMap_spell_positionals] at hwords
  rw [canonicalTail, hsplit, Flags.byName_ofList hnodup hsorted hvalues, hspelled]

theorem isPlain_canonicalTail {words : List String} (h : Unadorned words) :
    ∀ w ∈ canonicalTail words, isPlain w = true := by
  intro w hw
  rcases List.mem_append.1 hw with hw | hw
  · obtain ⟨e, he, hw⟩ := List.mem_flatMap.1 hw
    obtain ⟨hflag, hne⟩ := plainFlag_byName h e he
    rcases List.mem_cons.1 hw with rfl | hw
    · exact hflag.plain
    · rw [Option.mem_toList] at hw
      refine (hflag.value w hw).2 ?_
      rintro rfl
      exact hne hw
  · exact h.plain w (mem_of_positional hw)

/-! ## Commands -/

/-- The words behind a command's name in canonical order. After `gh pr` the first of them is no
positional word. -/
def canonicalRest (tool : Tool) (name : String) (rest : List String) : List String :=
  match tool, name, rest with
  | .gh, "pr", sub :: tail => sub :: canonicalTail tail
  | _, _, rest => canonicalTail rest

theorem canonicalRest_of_ne {tool : Tool} {name : String} (h : ¬ (tool = .gh ∧ name = "pr"))
    (rest : List String) : canonicalRest tool name rest = canonicalTail rest := by
  unfold canonicalRest
  split
  · exact absurd ⟨rfl, rfl⟩ h
  · rfl

theorem canonicalWords_ofTool (tool : Tool) (raw name : String) (rest : List String) :
    (Command.ofTool tool raw name rest).canonicalWords
      = tool.name :: name :: canonicalRest tool name rest := by
  rw [canonicalWords_eq]
  by_cases hpr : tool = .gh ∧ name = "pr"
  · obtain ⟨rfl, rfl⟩ := hpr
    cases rest <;> rfl
  · rw [canonicalRest_of_ne hpr, ofTool_of_ne hpr]
    rfl

theorem canonicalRest_canonicalRest {rest : List String} (h : Unadorned rest) (tool : Tool)
    (name : String) :
    canonicalRest tool name (canonicalRest tool name rest) = canonicalRest tool name rest := by
  by_cases hpr : tool = .gh ∧ name = "pr"
  · obtain ⟨rfl, rfl⟩ := hpr
    cases rest with
    | nil =>
      have hnil : canonicalTail [] = [] := by
        have hnone : Flags.byName (.ofList []) = [] :=
          Flags.byName_ofList List.nodup_nil .nil (by simp)
        rw [canonicalTail, splitFlags_positionals (by simp), hnone]
        rfl
      exact congrArg (canonicalRest .gh "pr") hnil
    | cons sub tail =>
      exact congrArg (sub :: ·) (canonicalTail_canonicalTail (h.subset (List.subset_cons_self ..)))
  · rw [canonicalRest_of_ne hpr, canonicalRest_of_ne hpr, canonicalTail_canonicalTail h]

theorem isPlain_canonicalRest {rest : List String} (h : Unadorned rest) (tool : Tool)
    (name : String) : ∀ w ∈ canonicalRest tool name rest, isPlain w = true := by
  unfold canonicalRest
  split
  · rename_i sub tail
    exact List.forall_mem_cons.2 ⟨h.plain sub List.mem_cons_self,
      isPlain_canonicalTail (h.subset (List.subset_cons_self ..))⟩
  · exact isPlain_canonicalTail h

/-- Two commands with the same words but for the order of their flags. -/
structure Alike (c d : Command) : Prop where
  tool : c.tool = d.tool
  name : c.name = d.name
  sub : c.sub = d.sub
  args : c.args = d.args
  flags : ∀ name, c.flags.valueOf? name = d.flags.valueOf? name

theorem canonical_of_parse {line : String} {c : Command} (h : Command.parse line = .ok c) :
    canonical line = joinWith " " c.canonicalWords := by
  rw [canonical, h]

theorem canonical_eq_of_alike {line line' : String} {c d : Command}
    (hc : Command.parse line = .ok c) (hd : Command.parse line' = .ok d) (h : Alike c d) :
    canonical line = canonical line' := by
  rw [canonical_of_parse hc, canonical_of_parse hd, canonicalWords_eq, canonicalWords_eq, h.tool,
    h.name, h.sub, h.args, Flags.byName_congr h.flags]

theorem canonical_canonical {line : String} {c : Command} {words : List String}
    (hc : Command.parse line = .ok c) (htool : c.tool ≠ .internal)
    (hwords : splitWords line = .ok words) (h : Unadorned words) :
    canonical (canonical line) = canonical line := by
  obtain ⟨first, name, rest, hsplit, -, hof⟩ := ofTool_of_parse hc htool
  obtain rfl : words = first :: name :: rest := by
    rw [hwords] at hsplit
    exact Except.ok.inj hsplit
  have hrest : Unadorned rest :=
    h.subset fun w hw => List.mem_cons_of_mem first (List.mem_cons_of_mem name hw)
  have hline : canonical line
      = joinWith " " (c.tool.name :: name :: canonicalRest c.tool name rest) := by
    rw [canonical_of_parse hc, ← canonicalWords_ofTool c.tool (trim line), ← hof]
  have hplain : ∀ w ∈ c.tool.name :: name :: canonicalRest c.tool name rest, isPlain w = true := by
    refine List.forall_mem_cons.2 ⟨?_, List.forall_mem_cons.2 ⟨h.plain name (by simp), ?_⟩⟩
    · cases c.tool <;> decide
    · exact isPlain_canonicalRest hrest c.tool name
  have htyped : Typed (canonical line)
      (c.tool.name :: name :: canonicalRest c.tool name rest) := hline ▸ typed_plain hplain
  rw [canonical_of_parse (htyped.parse_tool htool), canonicalWords_ofTool,
    canonicalRest_canonicalRest hrest, hline]

theorem canonical_form :
    (∀ (line line' : String) (c d : Command), Command.parse line = .ok c →
      Command.parse line' = .ok d → Alike c d → canonical line = canonical line')
    ∧ ∀ (line : String) (c : Command) (words : List String), Command.parse line = .ok c →
      c.tool ≠ .internal → splitWords line = .ok words → Unadorned words →
      canonical (canonical line) = canonical line :=
  ⟨fun _ _ _ _ hc hd h => canonical_eq_of_alike hc hd h,
    fun _ _ _ hc htool hwords h => canonical_canonical hc htool hwords h⟩

/-- Read again, the last flag of this line takes the branch as its value. -/
theorem canonical_form_push :
    Command.parse "git push main --force= -u" = .ok ⟨.git, "push", none, ["main"],
      .ofList [("--force", some ""), ("-u", none)], "git push main --force= -u"⟩
    ∧ Command.parse "git push main -u --force" = .ok ⟨.git, "push", none, ["main"],
      .ofList [("-u", none), ("--force", none)], "git push main -u --force"⟩
    ∧ canonical "git push main --force= -u" = canonical "git push main -u --force"
    ∧ canonical (canonical "git push main --force= -u") = canonical "git push main --force= -u" := by
  obtain ⟨halike, hagain⟩ := canonical_form
  have hcut : IsCut [.positional "main", .assigned "--force" "", .lone "-u"]
      ["main", "--force=", "-u"] := ⟨by decide, by decide⟩
  have hcut' : IsCut [.positional "main", .lone "-u", .lone "--force"]
      ["main", "-u", "--force"] := ⟨by decide, by decide⟩
  have hsplit : splitFlags ["main", "--force=", "-u"]
      = (.ofList [("--force", some ""), ("-u", none)], ["main"]) := splitFlags_of_isCut hcut
  have hsplit' : splitFlags ["main", "-u", "--force"]
      = (.ofList [("-u", none), ("--force", none)], ["main"]) := splitFlags_of_isCut hcut'
  have htyped : Typed "git push main --force= -u" ["git", "push", "main", "--force=", "-u"] :=
    typed_spelling (by decide)
  have htyped' : Typed "git push main -u --force" ["git", "push", "main", "-u", "--force"] :=
    typed_spelling (by decide)
  have hparse := htyped.parse_git hsplit
  have hparse' := htyped'.parse_git hsplit'
  refine ⟨hparse, hparse', halike _ _ _ _ hparse hparse' ⟨rfl, rfl, rfl, rfl, ?_⟩, ?_⟩
  · intro name
    rw [Flags.valueOf?, Flags.valueOf?, OrderedMap.get?_ofList, OrderedMap.get?_ofList]
    by_cases hforce : "--force" = name
    · subst hforce
      rfl
    by_cases hup : "-u" = name
    · subst hup
      rfl
    · simp [hforce, hup]
  · have hvalue : ∀ w ∈ ["git", "push", "main", "--force=", "-u"], ∀ e ∈ assignment? w,
        isDashed e.2 = false := by decide
    refine hagain _ _ _ hparse (by decide) htyped.splitWords ⟨by decide, ?_⟩
    intro name value hmem hlong hname
    exact hvalue _ hmem (name, value) (assignment?_append hlong hname value)

end GitPractice.Shell
