import GitPractice.Proofs.WordGrammar

/-!
# The places of the words

The grammar says which words a line has. `Placed` says in addition where they stand: it walks along
the line and knows what lies behind it, so that offsets are sizes of what was read and no arithmetic
is needed. The scanner finds just these words in just these places (`tokenize_eq_ok_iff_placed`).

All that one wants of the places can then be read off a derivation, from one word to the next
(`tokenize_soundPlaces`): words do not touch, nothing but blanks lies outside them, and a word that
is cut out of the line is read as the same word.
-/

namespace GitPractice.Shell

open GitPractice.Text (isBlank)

/-! ## Offsets -/

/-- The offset lies between two characters, or at an end. -/
def IsBoundary (cs : List Char) (n : Nat) : Prop :=
  ∃ front back, cs = front ++ back ∧ byteSize front = n

theorem byteSize_pos {cs : List Char} (h : cs ≠ []) : 0 < byteSize cs := by
  cases cs with
  | nil => exact absurd rfl h
  | cons c cs =>
    rw [byteSize_cons]
    exact Nat.add_pos_left c.utf8Size_pos _

theorem utf8Size_add_eq_succ (c : Char) (n : Nat) : ∃ m, c.utf8Size + n = m + 1 :=
  Nat.exists_eq_succ_of_ne_zero (Nat.ne_of_gt (Nat.add_pos_left c.utf8Size_pos n))

theorem dropBytes?_cons (c : Char) (n : Nat) (cs : List Char) :
    dropBytes? (c.utf8Size + n) (c :: cs) = dropBytes? n cs := by
  obtain ⟨m, hm⟩ := utf8Size_add_eq_succ c n
  have hle : c.utf8Size ≤ m + 1 := hm ▸ Nat.le_add_right _ _
  rw [hm, dropBytes?, if_pos hle, ← hm, Nat.add_sub_cancel_left]

theorem takeBytes?_cons (c : Char) (n : Nat) (cs : List Char) :
    takeBytes? (c.utf8Size + n) (c :: cs) = (takeBytes? n cs).map (c :: ·) := by
  obtain ⟨m, hm⟩ := utf8Size_add_eq_succ c n
  have hle : c.utf8Size ≤ m + 1 := hm ▸ Nat.le_add_right _ _
  rw [hm, takeBytes?, if_pos hle, ← hm, Nat.add_sub_cancel_left]

theorem dropBytes?_append (front back : List Char) :
    dropBytes? (byteSize front) (front ++ back) = some back := by
  induction front with
  | nil => rw [byteSize_nil, List.nil_append, dropBytes?]
  | cons c front ih => rw [byteSize_cons, List.cons_append, dropBytes?_cons, ih]

theorem takeBytes?_append (front back : List Char) :
    takeBytes? (byteSize front) (front ++ back) = some front := by
  induction front with
  | nil => rw [byteSize_nil, takeBytes?]
  | cons c front ih =>
    rw [byteSize_cons, List.cons_append, takeBytes?_cons, ih, Option.map_some]

/-- One offset cuts a text in one way. -/
theorem append_inj_of_byteSize {front front' back back' : List Char}
    (h : front ++ back = front' ++ back') (hsize : byteSize front = byteSize front') :
    front = front' ∧ back = back' := by
  have htake := takeBytes?_append front back
  rw [h, hsize, takeBytes?_append] at htake
  obtain rfl := Option.some.inj htake
  exact ⟨rfl, List.append_cancel_left h⟩

theorem Span.chars?_append (front mid back : List Char) :
    (Span.mk (byteSize front) (byteSize (front ++ mid))).chars? (front ++ (mid ++ back))
      = some mid := by
  have hlength : (Span.mk (byteSize front) (byteSize (front ++ mid))).length = byteSize mid := by
    rw [Span.length, byteSize_append, Nat.add_sub_cancel_left]
  rw [Span.chars?, if_pos (by rw [byteSize_append]; exact Nat.le_add_right _ _),
    dropBytes?_append, hlength]
  exact takeBytes?_append mid back

theorem Span.slice_append {line : String} {front mid back : List Char}
    (h : line.toList = front ++ (mid ++ back)) :
    (Span.mk (byteSize front) (byteSize (front ++ mid))).slice line = String.ofList mid := by
  rw [Span.slice, h, Span.chars?_append, Option.getD_some]

/-! ## Words in their places -/

/-- The words in the rest of a line behind `before`, with their places in the whole line. -/
inductive Placed : List Char → List Char → List Token → Prop where
  | nil {before gap : List Char} (hgap : Blanks gap) : Placed before gap []
  | cons {before gap cs text rest : List Char} {tokens : List Token} (hgap : Blanks gap)
      (h : Word cs text) (hrest : ∀ c ∈ rest.head?, isBlank c = true)
      (t : Placed (before ++ gap ++ cs) rest tokens) :
      Placed before (gap ++ (cs ++ rest))
        (⟨String.ofList text, byteSize (before ++ gap), byteSize (before ++ gap ++ cs)⟩ :: tokens)

theorem Word.ne_nil {cs text : List Char} (h : Word cs text) : cs ≠ [] := by
  rintro rfl
  obtain ⟨c, rest, heq, -⟩ := h.head
  cases heq

theorem placed_of_separated {body : List Char} {texts : List (List Char)}
    (h : Separated body texts) (before : List Char) {lead trail : List Char} (hlead : Blanks lead)
    (htrail : Blanks trail) : ∃ tokens, Placed before (lead ++ (body ++ trail)) tokens := by
  induction h generalizing before lead with
  | nil => exact ⟨[], .nil (List.forall_mem_append.2 ⟨hlead, htrail⟩)⟩
  | word h => exact ⟨_, .cons hlead h (fun c hc => htrail c (List.mem_of_head? hc)) (.nil htrail)⟩
  | @cons cs text gap rest next texts h hne hgap _ ih =>
    obtain ⟨tokens, htokens⟩ := ih (before ++ lead ++ cs) hgap
    obtain ⟨c, gap, rfl⟩ := List.exists_cons_of_ne_nil hne
    rw [List.append_assoc, List.append_assoc]
    refine ⟨_, .cons hlead h ?_ htokens⟩
    intro d hd
    cases hd
    exact hgap c List.mem_cons_self

theorem Line.placed {cs : List Char} {texts : List (List Char)} (h : Line cs texts) :
    ∃ tokens, Placed [] cs tokens := by
  obtain ⟨_, trail, ⟨lead, body, hlead, hbody, rfl⟩, htrail, rfl⟩ := h
  rw [List.append_assoc]
  exact placed_of_separated hbody [] hlead htrail

/-! ## Reading them -/

namespace Scan

variable {s : Scan}

theorem close_of_none (hword : s.word = none) : s.close = s := by
  rw [close, hword]

@[simp] theorem close_pos (s : Scan) : s.close.pos = s.pos := by
  unfold close
  split <;> rfl

theorem scan_gap {gap : List Char} (h : Blanks gap) (hmode : s.mode = .bare)
    (hword : s.word = none) : scan s gap = ⟨s.pos + byteSize gap, s.finished, none, .bare⟩ := by
  induction gap generalizing s with
  | nil =>
    obtain ⟨pos, finished, _, _⟩ := s
    cases hmode
    cases hword
    rfl
  | cons c gap ih =>
    obtain ⟨hc, hgap⟩ := List.forall_mem_cons.1 h
    rw [scan_cons, step_blank hmode hc, close_of_none hword, byteSize_cons, ← Nat.add_assoc]
    exact ih hgap hmode hword

/-- The end of a word may as well be seen before what follows it is read. -/
theorem finish_close {rest : List Char} (hmode : s.mode = .bare)
    (hrest : ∀ c ∈ rest.head?, isBlank c = true) :
    (scan s rest).finish = (scan s.close rest).finish := by
  have hclose : s.close.close = s.close := close_of_none s.close_word
  have hmode' : s.close.mode = .bare := s.close_mode.trans hmode
  cases rest with
  | nil => rw [scan_nil, scan_nil, finish_of_bare hmode, finish_of_bare hmode', hclose]
  | cons c rest =>
    rw [scan_cons, scan_cons, step_blank hmode (hrest c rfl), step_blank hmode' (hrest c rfl),
      hclose, close_pos]

theorem finish_of_placed {before rest : List Char} {tokens : List Token}
    (h : Placed before rest tokens) (hmode : s.mode = .bare) (hword : s.word = none)
    (hpos : s.pos = byteSize before) :
    (scan s rest).finish = .ok (s.finished.reverse ++ tokens) := by
  induction h generalizing s with
  | nil hgap =>
    rw [scan_gap hgap hmode hword, finish_of_bare rfl, close_of_none rfl, List.append_nil]
  | @cons before gap cs text rest tokens hgap h hrest _ ih =>
    -- the scanner closes a word at the blank behind it, and `Placed` goes on before that blank
    rw [scan_append, scan_gap hgap hmode hword, scan_append, scan_word h rfl,
      finish_close (add_mode ..) hrest, ih (by simp) (close_word _)]
    · simp [close, add, opening, byteSize_append, hpos, Nat.add_assoc]
    · simp [add, byteSize_append, hpos, Nat.add_assoc]

end Scan

theorem tokenize_of_placed {line : String} {tokens : List Token}
    (h : Placed [] line.toList tokens) : tokenize line = .ok tokens :=
  Scan.finish_of_placed (s := .start) h rfl rfl rfl

theorem tokenize_eq_ok_iff_placed {line : String} {tokens : List Token} :
    tokenize line = .ok tokens ↔ Placed [] line.toList tokens := by
  refine ⟨fun h => ?_, tokenize_of_placed⟩
  obtain ⟨tokens', hplaced⟩ := (line_of_tokenize h).placed
  rw [tokenize_of_placed hplaced] at h
  cases h
  exact hplaced

/-! ## What is known of the places -/

theorem append_eq_append_cons {as bs front back : List Char} {c : Char}
    (h : as ++ bs = front ++ c :: back) :
    (∃ mid, as = front ++ c :: mid) ∨ ∃ mid, front = as ++ mid ∧ bs = mid ++ c :: back := by
  rcases List.append_eq_append_iff.1 h with ⟨mid, rfl, rfl⟩ | ⟨_ | ⟨d, mid⟩, rfl, heq⟩
  · exact .inr ⟨mid, rfl, rfl⟩
  · exact .inr ⟨[], by simp, by simpa using heq.symm⟩
  · cases heq
    exact .inl ⟨mid, rfl⟩

/-- There is a blank at or behind the offset `m`, and before `n`. -/
def BlankBetween (cs : List Char) (m n : Nat) : Prop :=
  ∃ front c back, cs = front ++ c :: back ∧ isBlank c = true ∧ m ≤ byteSize front
    ∧ byteSize front < n

namespace Placed

variable {before rest : List Char} {tokens : List Token}

theorem stands (h : Placed before rest tokens) :
    ∀ t ∈ tokens, ∃ mid cs text back, Word cs text ∧ rest = mid ++ (cs ++ back)
      ∧ t = ⟨String.ofList text, byteSize (before ++ mid), byteSize (before ++ mid ++ cs)⟩ := by
  induction h with
  | nil => simp
  | @cons before gap cs text rest tokens hgap h _ _ ih =>
    refine List.forall_mem_cons.2 ⟨⟨gap, cs, text, rest, h, rfl, rfl⟩, fun t ht => ?_⟩
    obtain ⟨mid, cs', text', back, h', rfl, rfl⟩ := ih t ht
    exact ⟨gap ++ (cs ++ mid), cs', text', back, h', by simp, by simp⟩

/-- A word that does not follow at once has the blank before it that follows. -/
theorem blankBetween (h : Placed before rest tokens) (hrest : ∀ c ∈ rest.head?, isBlank c = true) :
    ∀ t ∈ tokens, BlankBetween (before ++ rest) (byteSize before) t.span.start := by
  intro t ht
  obtain ⟨mid, cs, text, back, hword, rfl, rfl⟩ := h.stands t ht
  cases mid with
  | nil =>
    obtain ⟨c, cs, rfl, hc⟩ := hword.head
    rw [hrest c rfl] at hc
    cases hc
  | cons c mid =>
    refine ⟨before, c, mid ++ (cs ++ back), rfl, hrest c rfl, Nat.le_refl _, ?_⟩
    rw [byteSize_append]
    exact Nat.lt_add_of_pos_right (byteSize_pos (List.cons_ne_nil c mid))

theorem pairwise (h : Placed before rest tokens) :
    tokens.Pairwise fun t u => BlankBetween (before ++ rest) t.span.stop u.span.start := by
  induction h with
  | nil => exact .nil
  | cons _ _ hrest t ih =>
    rw [List.pairwise_cons]
    have hhead := t.blankBetween hrest
    simp only [List.append_assoc] at hhead ih ⊢
    exact ⟨hhead, ih⟩

theorem blank_or_covered (h : Placed before rest tokens) {front back : List Char} {c : Char}
    (hrest : rest = front ++ c :: back) :
    isBlank c = true ∨ ∃ t ∈ tokens, t.span.start ≤ byteSize (before ++ front)
      ∧ byteSize (before ++ front) < t.span.stop := by
  induction h generalizing front with
  | nil hgap => exact .inl (hgap c (by simp [hrest]))
  | @cons before gap cs text rest tokens hgap h _ _ ih =>
    rcases append_eq_append_cons hrest with ⟨mid, rfl⟩ | ⟨front, rfl, hbehind⟩
    · exact .inl (hgap c (by simp))
    rcases append_eq_append_cons hbehind with ⟨mid, rfl⟩ | ⟨front, rfl, hlater⟩
    · refine .inr ⟨_, List.mem_cons_self, ?_⟩
      have hpos := byteSize_pos (List.cons_ne_nil c mid)
      simpa [byteSize_append] using hpos
    · rcases ih hlater with hc | ⟨t, ht, hcovered⟩
      · exact .inl hc
      · exact .inr ⟨t, List.mem_cons_of_mem _ ht, by simpa using hcovered⟩

end Placed

/-- A word alone in its line. -/
theorem tokenize_word {cs text : List Char} (h : Word cs text) :
    tokenize (String.ofList cs) = .ok [⟨String.ofList text, 0, byteSize cs⟩] := by
  have hplaced : Placed [] ([] ++ (cs ++ [])) _ :=
    .cons (by simp [Blanks]) h (by simp) (.nil (by simp [Blanks]))
  apply tokenize_of_placed
  simpa using hplaced

/-- What is asked of the places of the words of a line. -/
structure SoundPlaces (line : String) (tokens : List Token) : Prop where
  inside : ∀ t ∈ tokens, t.span.start < t.span.stop ∧ t.span.stop ≤ byteSize line.toList
    ∧ IsBoundary line.toList t.span.start ∧ IsBoundary line.toList t.span.stop
  apart : tokens.Pairwise fun t u =>
    t.span.stop < u.span.start ∧ BlankBetween line.toList t.span.stop u.span.start
  blank_outside : ∀ front c back, line.toList = front ++ c :: back →
    (∀ t ∈ tokens, ¬ (t.span.start ≤ byteSize front ∧ byteSize front < t.span.stop)) →
    isBlank c = true
  alone : ∀ t ∈ tokens, tokenize (t.span.slice line)
    = .ok [⟨t.text, 0, byteSize (t.span.slice line).toList⟩]

theorem tokenize_soundPlaces {line : String} {tokens : List Token}
    (h : tokenize line = .ok tokens) : SoundPlaces line tokens := by
  have hplaced := tokenize_eq_ok_iff_placed.1 h
  constructor
  · intro t ht
    obtain ⟨front, cs, text, back, hword, hline, rfl⟩ := hplaced.stands t ht
    refine ⟨?_, ?_, ⟨front, cs ++ back, hline, rfl⟩, ⟨front ++ cs, back, by simp [hline], rfl⟩⟩
    · have hpos := byteSize_pos hword.ne_nil
      simp [byteSize_append, hpos]
    · simp [hline, byteSize_append]
  · refine hplaced.pairwise.imp fun hbetween => ⟨?_, hbetween⟩
    obtain ⟨front, c, back, -, -, hle, hlt⟩ := hbetween
    exact Nat.lt_of_le_of_lt hle hlt
  · intro front c back hline hout
    rcases hplaced.blank_or_covered hline with hc | ⟨t, ht, hcovered⟩
    · exact hc
    · exact absurd hcovered (hout t ht)
  · intro t ht
    obtain ⟨front, cs, text, back, hword, hline, rfl⟩ := hplaced.stands t ht
    rw [List.nil_append, Span.slice_append hline, tokenize_word hword, String.toList_ofList]

/-- Characters of two bytes, pieces that touch and an escaped blank. -/
theorem tokenize_soundPlaces_accented :
    tokenize "là 'a é'c\\ d " = .ok [⟨"là", 0, 3⟩, ⟨"a éc d", 4, 14⟩]
    ∧ SoundPlaces "là 'a é'c\\ d " [⟨"là", 0, 3⟩, ⟨"a éc d", 4, 14⟩] := by
  have hread : tokenize "là 'a é'c\\ d " = .ok [⟨"là", 0, 3⟩, ⟨"a éc d", 4, 14⟩] := rfl
  exact ⟨hread, tokenize_soundPlaces hread⟩

end GitPractice.Shell
