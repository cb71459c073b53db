import Mathlib.Data.List.Basic
import VisibleFacets.Proofs.Text.Words
import VisibleFacets.Search.Corpus

/-!
# Queries with one more term

A text is read word by word (`Query.terms_eq`), and a term that is written out without blanks is
read back as it was (`Query.term_text`). Written behind a query, or in place of one that matches
everything, it is one more term of the query (`Query.terms_narrowed`).
-/

namespace VisibleFacets

namespace Text

theorem splitOnce_of_notMem {mark : Char} {before : List Char} (absent : mark ∉ before)
    (after : List Char) : splitOnce mark (before ++ mark :: after) = some (before, after) := by
  induction before with
  | nil => simp [splitOnce]
  | cons c before ih =>
    obtain ⟨different, absent⟩ := not_or.mp (mt List.mem_cons.mpr absent)
    rw [List.cons_append, splitOnce, if_neg (Ne.symm different), ih absent]
    rfl

end Text

namespace Term

def text (term : Term) : String := term.field ++ ":" ++ term.value

/-- It can be written in a query: neither part is empty or has blanks, and its field has no
colon. -/
structure Plain (term : Term) : Prop where
  field_ne : term.field.toList ≠ []
  value_ne : term.value.toList ≠ []
  colon : ':' ∉ term.field.toList
  field_shown : ∀ c ∈ term.field.toList, Text.isBlank c = false
  value_shown : ∀ c ∈ term.value.toList, Text.isBlank c = false

instance (term : Term) : Decidable term.Plain :=
  decidable_of_iff
    (term.field.toList ≠ [] ∧ term.value.toList ≠ [] ∧ ':' ∉ term.field.toList ∧
      term.field.toList.all (fun c => !Text.isBlank c) = true ∧
      term.value.toList.all (fun c => !Text.isBlank c) = true)
    ⟨fun ⟨field, value, colon, inField, inValue⟩ =>
      ⟨field, value, colon, by simpa using inField, by simpa using inValue⟩,
    fun plain => ⟨plain.field_ne, plain.value_ne, plain.colon, by simpa using plain.field_shown,
      by simpa using plain.value_shown⟩⟩

theorem toList_text (term : Term) :
    term.text.toList = term.field.toList ++ ':' :: term.value.toList := by
  rw [text, String.toList_append, String.toList_append, List.append_assoc]
  rfl

/-- The term's field is what the token has before its first colon, and its value what is after. -/
structure ReadFrom (term : Term) (token : List Char) : Prop where
  spelt : token = term.field.toList ++ ':' :: term.value.toList
  colon : ':' ∉ term.field.toList
  field_ne : term.field.toList ≠ []
  value_ne : term.value.toList ≠ []

theorem Plain.readFrom {term : Term} (plain : term.Plain) : term.ReadFrom term.text.toList :=
  ⟨term.toList_text, plain.colon, plain.field_ne, plain.value_ne⟩

theorem Plain.words_text {term : Term} (plain : term.Plain) :
    Text.words term.text.toList = [term.text.toList] := by
  rw [toList_text]
  apply Text.words_of_plain
  · simp
  · intro c member
    rcases List.mem_append.mp member with inField | member
    · exact plain.field_shown c inField
    · rcases List.mem_cons.mp member with rfl | inValue
      · rfl
      · exact plain.value_shown c inValue

end Term

namespace Query

/-- Whether the text matches everything without naming a term. -/
def MatchesAll (query : Query) : Prop :=
  Text.trim query.text.toList = [] ∨ Text.trim query.text.toList = ['*']

instance (query : Query) : Decidable query.MatchesAll := inferInstanceAs (Decidable (_ ∨ _))

/-- The query with one more term at its end. -/
def narrowed (query : Query) (term : Term) : Query :=
  { query with text := if query.MatchesAll then term.text else query.text ++ " " ++ term.text }

variable {query : Query} {term : Term} {terms : List Term}

theorem term_eq_ok_iff {token : List Char} :
    Query.term token = .ok term ↔ term.ReadFrom token := by
  constructor
  · intro read
    rw [Query.term] at read
    split at read
    case h_1 c field d value split =>
      cases read
      obtain ⟨spelt, colon⟩ := Text.splitOnce_eq_some split
      constructor <;> simp [spelt, colon]
    case h_2 => cases read
  · intro read
    obtain ⟨c, field, fieldSpelt⟩ := List.exists_cons_of_ne_nil read.field_ne
    obtain ⟨d, value, valueSpelt⟩ := List.exists_cons_of_ne_nil read.value_ne
    rw [Query.term, read.spelt, Text.splitOnce_of_notMem read.colon, fieldSpelt, valueSpelt]
    simp only
    rw [← fieldSpelt, ← valueSpelt, String.ofList_toList, String.ofList_toList]

theorem term_text (plain : term.Plain) : Query.term term.text.toList = .ok term :=
  term_eq_ok_iff.mpr plain.readFrom

theorem terms_eq (text : List Char) :
    Query.terms text =
      if Text.words text = [['*']] then .ok [] else (Text.words text).mapM Query.term := by
  split
  case isTrue star => exact if_pos (.inr (Text.words_eq_iff.mp star).trim_eq)
  case isFalse other =>
    rw [Query.terms]
    split
    case isFalse => rfl
    case isTrue all =>
      have trimmed := Text.words_trim text
      rcases all with nothing | star
      · rw [nothing] at trimmed
        rw [← trimmed]
        rfl
      · rw [star] at trimmed
        exact absurd trimmed.symm other

theorem words_narrowed (plain : term.Plain) :
    Text.words (query.narrowed term).text.toList =
      (if query.MatchesAll then [] else Text.words query.text.toList) ++ [term.text.toList] := by
  rw [narrowed]
  split
  · exact plain.words_text
  · have spaced : (query.text ++ " " ++ term.text).toList =
        query.text.toList ++ ' ' :: term.text.toList := by
      rw [String.toList_append, String.toList_append, List.append_assoc]
      rfl
    rw [spaced, Text.words_append_blank rfl, plain.words_text]

/-- Blank queries, a star alone, and terms with any blanks between them are narrowed alike. -/
theorem terms_narrowed (plain : term.Plain) (parsed : Query.terms query.text.toList = .ok terms) :
    Query.terms (query.narrowed term).text.toList = .ok (terms ++ [term]) := by
  have words := query.words_narrowed plain
  have other : Text.words (query.narrowed term).text.toList ≠ [['*']] := by
    rw [words]
    intro star
    have last := List.append_eq_singleton_iff.mp star
    rcases last with ⟨-, last⟩ | ⟨-, last⟩
    · have colon : ':' ∈ term.text.toList := by simp [Term.toList_text]
      rw [List.singleton_inj.mp last] at colon
      simp at colon
    · cases last
  rw [terms_eq, if_neg other, words]
  split
  case isTrue all =>
    obtain rfl := Except.ok.inj ((if_pos all).symm.trans parsed)
    simp [term_text plain]
  case isFalse named =>
    have read : (Text.words query.text.toList).mapM Query.term = .ok terms :=
      (if_neg named).symm.trans parsed
    rw [List.mapM_append, read]
    simp [term_text plain]
    rfl

end Query

namespace Corpus

variable [Memory] {corpus : Corpus} {term : Term} {terms : List Term}

theorem selected_concat :
    corpus.selected (terms ++ [term]) = (corpus.selected terms).filter fun document =>
      term.holds document := by
  simp [selected, List.filter_filter, Bool.and_comm]

end Corpus

end VisibleFacets
