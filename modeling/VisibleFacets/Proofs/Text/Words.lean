import Mathlib.Data.List.DropRight
import VisibleFacets.Text.Blank

/-!
# Words of a text

A text falls apart at every blank (`words_append_blank`), a text without blanks is one word
(`words_of_plain`), and trimming a text leaves its words as they are (`words_trim`). The words are
the longest pieces without blanks: `Spaced` says where they stand in the text, and there is one list
of words that stand so (`words_eq_iff`).
-/

namespace VisibleFacets.Text

section Letter

variable {c next : Char} (shown : isBlank c = false)
include shown

theorem words_ended (blank : isBlank next = true) (rest : List Char) :
    words (c :: next :: rest) = [c] :: words (next :: rest) := by
  rw [words.eq_def]
  simp [shown, blank]

theorem words_extended (following : isBlank next = false) {rest word : List Char}
    {others : List (List Char)} (found : words (next :: rest) = word :: others) :
    words (c :: next :: rest) = (c :: word) :: others := by
  rw [words.eq_def]
  simp [shown, following, found]

theorem words_ne_nil (rest : List Char) : words (c :: rest) ≠ [] := by
  rw [words.eq_def]
  simp only [shown, Bool.false_eq_true, if_false]
  repeat' split
  all_goals exact List.cons_ne_nil _ _

end Letter

theorem words_append_blank {c : Char} (blank : isBlank c = true) (text rest : List Char) :
    words (text ++ c :: rest) = words text ++ words rest := by
  fun_induction words text with
  | case1 => exact words_blank blank rest
  | case2 d later skipped ih => rw [List.cons_append, words_blank skipped, ih]
  | case3 d shown =>
    rw [List.singleton_append, words_ended (by simpa using shown) blank, words_blank blank]
    rfl
  | case4 d shown next later skipped ih =>
    rw [List.cons_append] at ih
    rw [List.cons_append, List.cons_append, words_ended (by simpa using shown) skipped, ih]
    rfl
  | case5 d shown next later following alone =>
    exact absurd alone (words_ne_nil (by simpa using following) later)
  | case6 d shown next later following first others found ih =>
    rw [found, List.cons_append, List.cons_append] at ih
    rw [List.cons_append, List.cons_append,
      words_extended (by simpa using shown) (by simpa using following) ih, found]
    rfl

theorem words_of_plain {word : List Char} (nonempty : word ≠ [])
    (plain : ∀ c ∈ word, isBlank c = false) : words word = [word] := by
  induction word with
  | nil => contradiction
  | cons c rest ih =>
    obtain ⟨shown, plain⟩ := List.forall_mem_cons.mp plain
    cases rest with
    | nil => simp [words, shown]
    | cons next rest =>
      exact words_extended shown (plain next List.mem_cons_self) (ih (List.cons_ne_nil _ _) plain)

theorem words_dropWhile (text : List Char) : words (text.dropWhile isBlank) = words text := by
  induction text with
  | nil => rfl
  | cons c rest ih =>
    rw [List.dropWhile_cons]
    split
    case isTrue blank => rw [ih, words_blank blank]
    case isFalse => rfl

theorem words_rdropWhile (text : List Char) : words (text.rdropWhile isBlank) = words text := by
  induction text using List.reverseRecOn with
  | nil => rfl
  | append_singleton text c ih =>
    rw [List.rdropWhile_concat]
    split
    case isTrue blank => rw [ih, words_append_blank blank, words, List.append_nil]
    case isFalse => rfl

theorem words_trim (text : List Char) : words (trim text) = words text := by
  have trimmed : trim text = (text.dropWhile isBlank).rdropWhile isBlank := rfl
  rw [trimmed, words_rdropWhile, words_dropWhile]

/-! ## Words and the blanks about them -/

/-- The text is these words in their order, with blanks around them, and some between any two. -/
inductive Spaced : List (List Char) → List Char → Prop
  | blank {gap : List Char} (blanks : ∀ c ∈ gap, isBlank c = true) : Spaced [] gap
  | word {gap word rest : List Char} {words : List (List Char)}
      (blanks : ∀ c ∈ gap, isBlank c = true) (nonempty : word ≠ [])
      (plain : ∀ c ∈ word, isBlank c = false) (apart : ∀ c ∈ rest.head?, isBlank c = true)
      (others : Spaced words rest) : Spaced (word :: words) (gap ++ (word ++ rest))

theorem words_append_of_blanks {gap : List Char} (blanks : ∀ c ∈ gap, isBlank c = true)
    (text : List Char) : words (gap ++ text) = words text := by
  induction gap with
  | nil => rfl
  | cons c gap ih =>
    obtain ⟨blank, blanks⟩ := List.forall_mem_cons.mp blanks
    rw [List.cons_append, words_blank blank, ih blanks]

theorem Spaced.words_eq {tokens : List (List Char)} {text : List Char}
    (spaced : Spaced tokens text) : words text = tokens := by
  induction spaced with
  | blank blanks => simpa [words] using words_append_of_blanks blanks []
  | @word gap word rest tokens blanks nonempty plain apart _ ih =>
    rw [words_append_of_blanks blanks]
    cases rest with
    | nil =>
      rw [List.append_nil, words_of_plain nonempty plain, ← ih]
      rfl
    | cons c rest =>
      have blank : isBlank c = true := apart c rfl
      rw [words_append_blank blank, words_of_plain nonempty plain, ← ih, words_blank blank]
      rfl

theorem Spaced.behind_blank {tokens : List (List Char)} {text : List Char}
    (spaced : Spaced tokens text) {c : Char} (blank : isBlank c = true) :
    Spaced tokens (c :: text) := by
  cases spaced with
  | blank blanks => exact .blank (List.forall_mem_cons.mpr ⟨blank, blanks⟩)
  | word blanks nonempty plain apart others =>
    exact .word (List.forall_mem_cons.mpr ⟨blank, blanks⟩) nonempty plain apart others

theorem Spaced.with_first {token rest : List Char} {tokens : List (List Char)}
    (nonempty : token ≠ []) (plain : ∀ c ∈ token, isBlank c = false)
    (apart : ∀ c ∈ rest.head?, isBlank c = true) (others : Spaced tokens rest) :
    Spaced (token :: tokens) (token ++ rest) :=
  .word (fun _ member => absurd member List.not_mem_nil) nonempty plain apart others

theorem Spaced.extended {c next : Char} {first rest : List Char} {others : List (List Char)}
    (spaced : Spaced (first :: others) (next :: rest)) (shown : isBlank c = false)
    (following : isBlank next = false) : Spaced ((c :: first) :: others) (c :: next :: rest) := by
  generalize text : next :: rest = later at spaced
  cases spaced with
  | @word gap _ _ _ blanks nonempty plain apart others =>
    cases gap with
    | nil =>
      exact with_first (List.cons_ne_nil _ _) (List.forall_mem_cons.mpr ⟨shown, plain⟩) apart others
    | cons d gap =>
      -- The text would begin with a blank.
      obtain rfl := (List.cons.inj text).1
      rw [blanks next List.mem_cons_self] at following
      contradiction

theorem spaced_words (text : List Char) : Spaced (words text) text := by
  fun_induction words text with
  | case1 => exact .blank (by simp)
  | case2 c rest blank ih => exact ih.behind_blank blank
  | case3 c shown =>
    have nothing : Spaced [] [] := .blank (by simp)
    exact nothing.with_first (List.cons_ne_nil c []) (by simpa using shown) (by simp)
  | case4 c shown next rest blank ih =>
    exact ih.with_first (List.cons_ne_nil c []) (by simpa using shown) (by simpa using blank)
  | case5 c shown next rest following alone ih =>
    exact absurd alone (words_ne_nil (by simpa using following) rest)
  | case6 c shown next rest following first others found ih =>
    rw [found] at ih ⊢
    exact ih.extended (by simpa using shown) (by simpa using following)

theorem words_eq_iff {tokens : List (List Char)} {text : List Char} :
    words text = tokens ↔ Spaced tokens text := by
  constructor
  · rintro rfl
    exact spaced_words text
  · exact Spaced.words_eq

theorem dropWhile_of_shown {word : List Char} (nonempty : word ≠ [])
    (plain : ∀ c ∈ word, isBlank c = false) (rest : List Char) :
    (word ++ rest).dropWhile isBlank = word ++ rest := by
  obtain ⟨c, word, rfl⟩ := List.exists_cons_of_ne_nil nonempty
  exact List.dropWhile_cons_of_neg (by simp [plain])

theorem Spaced.trim_eq {token text : List Char} (spaced : Spaced [token] text) :
    trim text = token := by
  cases spaced with
  | @word gap _ rest _ blanks nonempty plain _ others =>
    cases others with
    | blank ends =>
      have ends : ∀ c ∈ rest.reverse, isBlank c = true := by simpa using ends
      have reversed : (token.reverse ++ []).dropWhile isBlank = token.reverse ++ [] :=
        dropWhile_of_shown (by simpa using nonempty) (by simpa using plain) []
      rw [List.append_nil] at reversed
      rw [trim, List.dropWhile_append_of_pos blanks, dropWhile_of_shown nonempty plain,
        List.reverse_append, List.dropWhile_append_of_pos ends, reversed, List.reverse_reverse]

end VisibleFacets.Text
