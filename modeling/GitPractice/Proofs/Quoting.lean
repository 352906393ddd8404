import GitPractice.Text.Join
import GitPractice.Proofs.WordGrammar

/-!
# Quoted words

A word may be quoted in two ways (`Quote`). Quoted words with a space between them are read as the
texts that were quoted, whatever characters these hold (`separated_joinWith`). With the grammar this
says all there is to say of `tokenize` but for the places of the words (`tokenize_grammar`).
-/

namespace GitPractice.Shell

open GitPractice.Text (isBlank joinWith)

inductive Quote where
  | single
  | double
  deriving DecidableEq, Repr

namespace Quote

/-- A single quote cannot stand between single quotes, so it is put between two quoted pieces. -/
def escape : Quote → Char → List Char
  | .single, c => if c = '\'' then ['\'', '\\', '\'', '\''] else [c]
  | .double, c => if isEscapable c then ['\\', c] else [c]

def mark : Quote → Char
  | .single => '\''
  | .double => '"'

/-- The text in quotes. -/
def spell (q : Quote) (text : String) : String :=
  .ofList (q.mark :: (text.toList.flatMap q.escape ++ [q.mark]))

end Quote

theorem Word.of_piece {cs text : List Char} (h : Piece cs text) : Word cs text := by
  simpa using Word.mk h .nil

theorem Word.pieces {cs text : List Char} (h : Word cs text) : Pieces cs text := by
  obtain ⟨h, t⟩ := h
  exact .cons h t

theorem word_single (text : List Char) {run : List Char} (hrun : '\'' ∉ run) :
    Word ('\'' :: (run ++ (text.flatMap Quote.single.escape ++ ['\'']))) (run ++ text) := by
  induction text generalizing run with
  | nil => simpa using Word.of_piece (.single hrun)
  | cons c text ih =>
    by_cases hc : c = '\''
    · subst hc
      have hrest := (@ih [] List.not_mem_nil).pieces
      have hword := Word.mk (.single hrun) (.cons (.escaped '\'') hrest)
      simpa [Quote.escape] using hword
    · have hword := @ih (run ++ [c]) (by simp [hrun, Ne.symm hc])
      simpa [Quote.escape, hc] using hword

theorem doubleQuoted_escape (text : List Char) :
    DoubleQuoted (text.flatMap Quote.double.escape) text := by
  induction text with
  | nil => exact .nil
  | cons c text ih =>
    rw [List.flatMap_cons, Quote.escape]
    cases hc : isEscapable c with
    | true => exact .escaped hc ih
    | false =>
      obtain ⟨hquote, hback⟩ := ne_of_not_escapable hc
      exact .plain hquote hback ih

theorem word_spell (q : Quote) (text : String) : Word (q.spell text).toList text.toList := by
  rw [Quote.spell, String.toList_ofList]
  cases q with
  | single => exact word_single text.toList List.not_mem_nil
  | double => exact .of_piece (.double (doubleQuoted_escape text.toList))

/-- Words with a space between any two neighbours. -/
theorem separated_joinWith {words : List (String × String)}
    (h : ∀ w ∈ words, Word w.1.toList w.2.toList) :
    Separated (joinWith " " (words.map Prod.fst)).toList (words.map fun w => w.2.toList) := by
  induction words with
  | nil => exact .nil
  | cons w words ih =>
    obtain ⟨hw, hwords⟩ := List.forall_mem_cons.1 h
    cases words with
    | nil => exact .word hw
    | cons v words =>
      have hspace : Blanks [' '] := by simp [Blanks, show isBlank ' ' = true by decide]
      simpa [joinWith] using Separated.cons hw (List.cons_ne_nil _ _) hspace (ih hwords)

theorem Separated.line {cs : List Char} {texts : List (List Char)} (h : Separated cs texts) :
    Line cs texts :=
  ⟨cs, [], ⟨[], cs, by simp [Blanks], h, rfl⟩, by simp [Blanks], by simp⟩

theorem line_spell (words : List (Quote × String)) :
    Line (joinWith " " (words.map fun w => w.1.spell w.2)).toList
      ((words.map Prod.snd).map String.toList) := by
  have hwords : ∀ w ∈ words.map fun w => (w.1.spell w.2, w.2), Word w.1.toList w.2.toList := by
    intro w hw
    obtain ⟨v, -, rfl⟩ := List.mem_map.1 hw
    exact word_spell v.1 v.2
  simpa [Function.comp_def] using (separated_joinWith hwords).line

theorem tokenize_grammar :
    (∀ line texts, (∃ tokens, tokenize line = .ok tokens ∧ tokens.map Token.text = texts)
      ↔ Line line.toList (texts.map String.toList))
    ∧ (∀ line, (∃ e, tokenize line = .error e)
      ↔ ¬ ∃ texts : List String, Line line.toList (texts.map String.toList))
    ∧ ∀ words : List (Quote × String), ∃ tokens,
      tokenize (joinWith " " (words.map fun w => w.1.spell w.2)) = .ok tokens
        ∧ tokens.map Token.text = words.map Prod.snd :=
  ⟨tokenize_eq_ok_iff, tokenize_eq_error_iff,
    fun words => (tokenize_eq_ok_iff _ _).2 (line_spell words)⟩

/-- A line may also end with blanks. -/
theorem tokenize_trailing_blank :
    (∃ tokens, tokenize "a " = .ok tokens ∧ tokens.map Token.text = ["a"])
    ∧ ¬ ∃ texts : List String, Flush "a ".toList (texts.map String.toList) := by
  have hscan : scan .start "a ".toList = ⟨2, [⟨"a", ⟨0, 1⟩⟩], none, .bare⟩ := by decide
  constructor
  · exact ⟨[⟨"a", ⟨0, 1⟩⟩], by rw [tokenize, hscan]; rfl, rfl⟩
  · rintro ⟨texts, hflush⟩
    obtain ⟨-, hword, htexts⟩ := Scan.scan_flush hflush
    rw [hscan] at hword htexts
    -- A word was read, and yet none is unfinished.
    refine hword ?_ rfl
    intro hnil
    rw [hnil] at htexts
    cases htexts

end GitPractice.Shell
