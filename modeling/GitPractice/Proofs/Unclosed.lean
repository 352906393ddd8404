import GitPractice.Proofs.LineWords
import GitPractice.Proofs.Places

/-!
# Where a line cannot be read on

A line that is no line of the grammar has one character from which on it cannot be read: a quote
that is not closed again, or a backslash with nothing behind it (`LeftOpen`). All before it are
words, so the place is unique, and it is the place of the error (`tokenize_eq_error_iff_stopsAt`).
The diagnostic of a trimmed line puts its carets under just the rest of the line from there on.
-/

namespace GitPractice.Shell

open GitPractice.Text (trim isBlank)

/-! ## Pieces without an end -/

/-- The text behind a double quote has the quote that closes it. -/
def Closes (cs : List Char) : Prop :=
  ∃ run text rest, DoubleQuoted run text ∧ cs = run ++ '"' :: rest

/-- The character begins a piece of a word that the rest of the line does not end. -/
inductive LeftOpen : WordFault → Char → List Char → Prop where
  | single {rest : List Char} (h : '\'' ∉ rest) : LeftOpen .singleQuote '\'' rest
  | double {rest : List Char} (h : ¬ Closes rest) : LeftOpen .doubleQuote '"' rest
  | backslash : LeftOpen .backslash '\\' []

/-- All before the character is words, and the character begins a piece that the line does not end.
The error covers the line from there on. -/
structure StopsAt (line : String) (e : WordError) (front : List Char) (c : Char)
    (rest : List Char) : Prop where
  line_eq : line.toList = front ++ c :: rest
  words_before : ∃ tokens, tokenize (.ofList front) = .ok tokens
  leftOpen : LeftOpen e.fault c rest
  span_eq : e.span = ⟨byteSize front, byteSize line.toList⟩

theorem closes_quote (cs : List Char) : Closes ('"' :: cs) := ⟨[], [], cs, .nil, rfl⟩

theorem Closes.plain {c : Char} {cs : List Char} (hquote : c ≠ '"') (hback : c ≠ '\\')
    (h : Closes cs) : Closes (c :: cs) := by
  obtain ⟨run, text, rest, hrun, rfl⟩ := h
  exact ⟨c :: run, c :: text, rest, .plain hquote hback hrun, rfl⟩

theorem Closes.escaped {c : Char} {cs : List Char} (hc : isEscapable c = true) (h : Closes cs) :
    Closes ('\\' :: c :: cs) := by
  obtain ⟨run, text, rest, hrun, rfl⟩ := h
  exact ⟨'\\' :: c :: run, c :: text, rest, .escaped hc hrun, rfl⟩

theorem Closes.kept {c : Char} {cs : List Char} (hc : isEscapable c = false) (h : Closes cs) :
    Closes ('\\' :: c :: cs) := by
  obtain ⟨hquote, hback⟩ := ne_of_not_escapable hc
  obtain ⟨run, text, rest, hrun, rfl⟩ := h
  exact ⟨'\\' :: c :: run, _, rest, .kept hc (.plain hquote hback hrun), rfl⟩

/-- Nothing else can go wrong at a character that is no blank. -/
theorem piece_or_leftOpen {c : Char} (cs : List Char) (hc : isBlank c = false) :
    (∃ piece text rest, Piece piece text ∧ c :: cs = piece ++ rest)
      ∨ ∃ fault, LeftOpen fault c cs := by
  by_cases hsingle : c = '\''
  · subst hsingle
    by_cases hend : '\'' ∈ cs
    · obtain ⟨run, rest, rfl, hrun⟩ := List.eq_append_cons_of_mem hend
      exact .inl ⟨_, run, rest, .single hrun, by simp⟩
    · exact .inr ⟨_, .single hend⟩
  by_cases hdouble : c = '"'
  · subst hdouble
    by_cases hend : Closes cs
    · obtain ⟨run, text, rest, hrun, rfl⟩ := hend
      exact .inl ⟨_, text, rest, .double hrun, by simp⟩
    · exact .inr ⟨_, .double hend⟩
  by_cases hback : c = '\\'
  · subst hback
    cases cs with
    | nil => exact .inr ⟨_, .backslash⟩
    | cons d cs => exact .inl ⟨_, [d], cs, .escaped d, rfl⟩
  · exact .inl ⟨[c], [c], cs, .plain hc hsingle hdouble hback, rfl⟩

/-! ## Reading to the end -/

namespace Scan

variable {s : Scan}

theorem scan_pos (s : Scan) (cs : List Char) : (scan s cs).pos = s.pos + byteSize cs := by
  induction cs generalizing s with
  | nil => rfl
  | cons c cs ih => rw [scan_cons, ih, byteSize_cons, ← Nat.add_assoc]; rfl

theorem scan_single_open {cs : List Char} (h : '\'' ∉ cs) {opened : Nat} (hin : s.InWord)
    (hmode : s.mode = .single opened) : (scan s cs).mode = .single opened := by
  induction cs generalizing s with
  | nil => exact hmode
  | cons c cs ih =>
    rw [List.mem_cons, not_or] at h
    rw [scan_cons, step_of_adds hin hmode (.inSingle opened (Ne.symm h.1))]
    exact ih h.2 (inWord_add ..) rfl

/-- A backslash at the end of the line is still waiting for what it might escape. -/
theorem scan_double_open {cs : List Char} {opened : Nat} (hin : s.InWord)
    (h : s.mode = .double opened ∧ ¬ Closes cs
      ∨ s.mode = .doubleEscaped opened ∧ ¬ Closes ('\\' :: cs)) :
    (scan s cs).mode = .double opened ∨ (scan s cs).mode = .doubleEscaped opened := by
  induction cs generalizing s with
  | nil => exact h.imp And.left And.left
  | cons c cs ih =>
    rw [scan_cons]
    rcases h with ⟨hmode, hopen⟩ | ⟨hmode, hopen⟩
    · by_cases hquote : c = '"'
      · subst hquote
        exact absurd (closes_quote cs) hopen
      by_cases hback : c = '\\'
      · subst hback
        rw [step_of_adds hin hmode (.doubleBackslash opened)]
        exact ih (inWord_add ..) (.inr ⟨rfl, hopen⟩)
      · rw [step_of_adds hin hmode (.inDouble opened hquote hback)]
        exact ih (inWord_add ..) (.inl ⟨rfl, mt (.plain hquote hback) hopen⟩)
    · cases hc : isEscapable c with
      | true =>
        rw [step_of_adds hin hmode (.doubleEscaped opened hc)]
        exact ih (inWord_add ..) (.inl ⟨rfl, mt (.escaped hc) hopen⟩)
      | false =>
        rw [step_of_adds hin hmode (.doubleKept opened hc)]
        exact ih (inWord_add ..) (.inl ⟨rfl, mt (.kept hc) hopen⟩)

theorem finish_of_leftOpen {fault : WordFault} {c : Char} {cs : List Char}
    (h : LeftOpen fault c cs) (hmode : s.mode = .bare) :
    (scan s (c :: cs)).finish = .error ⟨fault, s.pos, s.pos + byteSize (c :: cs)⟩ := by
  have hin : s.InWord := .inl hmode
  rw [← scan_pos]
  cases h with
  | single h =>
    have hopen : (scan s ('\'' :: cs)).mode = .single s.pos := by
      rw [scan_cons, step_of_adds hin hmode .single]
      exact scan_single_open h (inWord_add ..) rfl
    rw [finish, hopen]
  | double h =>
    have hopen : (scan s ('"' :: cs)).mode = .double s.pos
        ∨ (scan s ('"' :: cs)).mode = .doubleEscaped s.pos := by
      rw [scan_cons, step_of_adds hin hmode .double]
      exact scan_double_open (inWord_add ..) (.inl ⟨rfl, h⟩)
    rcases hopen with hopen | hopen <;> rw [finish, hopen]
  | backslash =>
    have hopen : (scan s ['\\']).mode = .escaped s.pos := by
      rw [scan_cons, step_of_adds hin hmode .backslash]
      rfl
    rw [finish, hopen]

/-- A line is read to its end or up to what is left open, a blank or a whole piece at a time. -/
theorem bare_or_leftOpen (s : Scan) (cs : List Char) (hmode : s.mode = .bare) :
    (scan s cs).mode = .bare
      ∨ ∃ front c rest fault, cs = front ++ c :: rest ∧ (scan s front).mode = .bare
        ∧ LeftOpen fault c rest := by
  match cs with
  | [] => exact .inl hmode
  | c :: cs =>
    cases hblank : isBlank c with
    | true =>
      have hbare : (s.step c).mode = .bare := by simp [step_blank hmode hblank, hmode]
      rcases bare_or_leftOpen (s.step c) cs hbare with h | ⟨front, d, rest, fault, rfl, hfront, h⟩
      · exact .inl h
      · exact .inr ⟨c :: front, d, rest, fault, rfl, hfront, h⟩
    | false =>
      rcases piece_or_leftOpen cs hblank with ⟨piece, text, rest, hpiece, heq⟩ | ⟨fault, hopen⟩
      · have hbare : (scan s piece).mode = .bare := by rw [scan_piece hpiece hmode, add_mode]
        have hshorter : rest.length < cs.length + 1 := by
          obtain ⟨d, more, rfl, -⟩ := hpiece.head
          have hlength := congrArg List.length heq
          simp only [List.length_cons, List.length_append] at hlength
          omega
        rw [heq, scan_append]
        rcases bare_or_leftOpen _ rest hbare with h | ⟨front, d, rest, fault, rfl, hfront, h⟩
        · exact .inl h
        · refine .inr ⟨piece ++ front, d, rest, fault, by simp, ?_, h⟩
          rwa [scan_append]
      · exact .inr ⟨[], c, cs, fault, rfl, hmode, hopen⟩
termination_by cs.length

theorem mode_of_finish {tokens : List Token} (h : s.finish = .ok tokens) : s.mode = .bare := by
  cases hmode : s.mode with
  | bare => rfl
  | _ =>
    rw [finish, hmode] at h
    cases h

end Scan

/-! ## The place of an error -/

theorem StopsAt.tokenize {line : String} {e : WordError} {front rest : List Char} {c : Char}
    (h : StopsAt line e front c rest) : tokenize line = .error e := by
  obtain ⟨tokens, hread⟩ := h.words_before
  rw [Shell.tokenize, String.toList_ofList] at hread
  have hstart : Scan.start.pos + byteSize front = byteSize front := Nat.zero_add _
  have hspan := h.span_eq
  rw [h.line_eq, byteSize_append] at hspan
  rw [Shell.tokenize, h.line_eq, scan_append,
    Scan.finish_of_leftOpen h.leftOpen (Scan.mode_of_finish hread), Scan.scan_pos, hstart, ← hspan]

theorem tokenize_eq_error_iff_stopsAt {line : String} {e : WordError} :
    tokenize line = .error e ↔ ∃ front c rest, StopsAt line e front c rest := by
  refine ⟨fun h => ?_, fun ⟨_, _, _, h⟩ => h.tokenize⟩
  rcases Scan.bare_or_leftOpen .start line.toList rfl with
    hbare | ⟨front, c, rest, fault, hline, hbare, hopen⟩
  · rw [tokenize, Scan.finish_of_bare hbare] at h
    cases h
  · have hstops : StopsAt line ⟨fault, byteSize front, byteSize line.toList⟩ front c rest := by
      refine ⟨hline, ?_, hopen, rfl⟩
      rw [tokenize, String.toList_ofList, Scan.finish_of_bare hbare]
      exact ⟨_, rfl⟩
    rw [hstops.tokenize] at h
    cases h
    exact ⟨front, c, rest, hstops⟩

/-- The error tells the offset, and the offset what stands before it. -/
theorem StopsAt.unique {line : String} {e e' : WordError} {front front' rest rest' : List Char}
    {c c' : Char} (h : StopsAt line e front c rest) (h' : StopsAt line e' front' c' rest') :
    e' = e ∧ front' = front := by
  have he : e' = e := by
    have herror := h'.tokenize
    rw [h.tokenize] at herror
    exact (Except.error.inj herror).symm
  subst he
  have hspan := h'.span_eq
  rw [h.span_eq] at hspan
  have hline := h'.line_eq.symm.trans h.line_eq
  exact ⟨rfl, (append_inj_of_byteSize hline (congrArg Span.start hspan).symm).1⟩

/-! ## The diagnostic -/

theorem snippet_append {line : String} {front rest : List Char} {c : Char}
    (h : line.toList = front ++ c :: rest) :
    snippet line ⟨byteSize front, byteSize line.toList⟩
      = line ++ "\n" ++ String.ofList
        (List.replicate front.length ' ' ++ List.replicate (c :: rest).length '^') := by
  have hle : byteSize front ≤ byteSize line.toList := by
    rw [h, byteSize_append]
    exact Nat.le_add_right _ _
  have htake : takeBytes? (byteSize front) line.toList = some front := by
    rw [h, takeBytes?_append]
  have hchars : (Span.mk (byteSize front) (byteSize line.toList)).chars? line.toList
      = some (c :: rest) := by
    have hmid := Span.chars?_append front (c :: rest) []
    rwa [List.append_nil, ← h] at hmid
  rw [snippet, Nat.min_eq_left hle, Nat.min_self, Nat.max_eq_right hle, htake, hchars]
  have hwidth : max 1 (c :: rest).length = (c :: rest).length :=
    Nat.max_eq_right (Nat.succ_pos rest.length)
  simp only [Option.getD_some, hwidth]

theorem Command.classify_ne_badWord (raw : String) (words : List String) (e : WordError) :
    Command.classify raw words ≠ .error (.badWord e) := by
  rcases words with _ | ⟨first, rest⟩
  · simp [Command.classify]
  · simp only [Command.classify]
    split_ifs
    · simp
    · split
      · simp
      · split <;> simp

theorem Command.parse_eq_badWord_iff {line : String} {e : WordError} :
    Command.parse line = .error (.badWord e) ↔ tokenize (trim line) = .error e := by
  rw [Command.parse]
  split_ifs with hempty
  · rw [hempty]
    exact iff_of_false (by simp) (fun h => by cases h)
  · rw [splitWords]
    cases tokenize (trim line) with
    | error e' => simp [Except.map]
    | ok tokens => simpa [Except.map] using Command.classify_ne_badWord _ _ _

theorem diagnostic_of_badWord {line : String} {e : WordError} (htrim : trim line = line)
    (h : Command.parse line = .error (.badWord e)) :
    ∃ front c rest, StopsAt line e front c rest
      ∧ (ParseError.badWord e).diagnostic line
        = (ParseError.badWord e).message ++ "\n" ++ line ++ "\n" ++ String.ofList
          (List.replicate front.length ' ' ++ List.replicate (c :: rest).length '^')
      ∧ ∀ e' front' c' rest', StopsAt line e' front' c' rest' → e' = e ∧ front' = front := by
  rw [Command.parse_eq_badWord_iff, htrim, tokenize_eq_error_iff_stopsAt] at h
  obtain ⟨front, c, rest, hstops⟩ := h
  refine ⟨front, c, rest, hstops, ?_, fun e' front' c' rest' h' => hstops.unique h'⟩
  simp only [ParseError.diagnostic, ParseError.span?, hstops.span_eq, snippet_append hstops.line_eq]
  simp [String.append_assoc]

/-- A double quote in single quotes, and then one that stays open behind eight bytes in seven
characters. -/
theorem diagnostic_of_badWord_quoted :
    trim "è 'a\"' \"b c" = "è 'a\"' \"b c"
    ∧ Command.parse "è 'a\"' \"b c" = .error (.badWord ⟨.doubleQuote, 8, 12⟩)
    ∧ (ParseError.badWord ⟨.doubleQuote, 8, 12⟩).diagnostic "è 'a\"' \"b c"
      = "Invalid command syntax: No closing quotation\nè 'a\"' \"b c\n       ^^^^" := by
  have htrim : trim "è 'a\"' \"b c" = "è 'a\"' \"b c" := by decide
  have hparse : Command.parse "è 'a\"' \"b c" = .error (.badWord ⟨.doubleQuote, 8, 12⟩) := by
    rw [Command.parse_eq_badWord_iff, htrim]
    rfl
  obtain ⟨front, c, rest, hstops, hdiagnostic, -⟩ := diagnostic_of_badWord htrim hparse
  have hcut : front ++ c :: rest = "è 'a\"' ".toList ++ "\"b c".toList := hstops.line_eq.symm
  obtain ⟨rfl, hrest⟩ := append_inj_of_byteSize hcut (congrArg Span.start hstops.span_eq).symm
  rw [hrest] at hdiagnostic
  exact ⟨htrim, hparse, hdiagnostic⟩

end GitPractice.Shell
