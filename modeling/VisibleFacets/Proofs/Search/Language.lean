import Mathlib.Data.List.Forall2
import VisibleFacets.Proofs.Search.Narrowing
import VisibleFacets.Proofs.Search.Pages

/-!
# The query language

What a query says is decided by the words of its text (`terms_eq`), one term for each. So terms can
be written with any blanks about them, and two queries side by side match what both of them match:
`terms_decided`.
-/

namespace VisibleFacets

theorem mapM_outcome {ε α β : Type} (f : α → Except ε β) (items : List α) :
    (∃ results, items.mapM f = .ok results ∧
      List.Forall₂ (fun item result => f item = .ok result) items results) ∨
    ∃ before item after error, items = before ++ item :: after ∧
      (∀ earlier ∈ before, ∃ result, f earlier = .ok result) ∧ f item = .error error ∧
      items.mapM f = .error error := by
  induction items with
  | nil => exact .inl ⟨[], rfl, .nil⟩
  | cons item items ih =>
    cases told : f item with
    | error error =>
      refine .inr ⟨[], item, items, error, rfl, by simp, told, ?_⟩
      rw [List.mapM_cons, told]
      rfl
    | ok result =>
      rcases ih with ⟨results, read, each⟩ | ⟨before, bad, after, error, rfl, good, refused, read⟩
      · refine .inl ⟨result :: results, ?_, .cons told each⟩
        rw [List.mapM_cons, told, read]
        rfl
      · have good := List.forall_mem_cons.mpr ⟨⟨result, told⟩, good⟩
        refine .inr ⟨item :: before, bad, after, error, rfl, good, refused, ?_⟩
        rw [List.mapM_cons, told, read]
        rfl

namespace Query

/-! ## Tokens -/

/-- The token's first colon is neither its first character nor its last. -/
def Named (token : List Char) : Prop :=
  ∃ before after, token = before ++ ':' :: after ∧ ':' ∉ before ∧ before ≠ [] ∧ after ≠ []

theorem named_iff {token : List Char} : Named token ↔ ∃ term, Query.term token = .ok term := by
  simp only [term_eq_ok_iff]
  constructor
  · rintro ⟨before, after, spelt, colon, before_ne, after_ne⟩
    refine ⟨⟨String.ofList before, String.ofList after⟩, ?_⟩
    constructor <;> simpa
  · rintro ⟨term, read⟩
    exact ⟨_, _, read.spelt, read.colon, read.field_ne, read.value_ne⟩

theorem error_of_term {token : List Char} {error : Error}
    (refused : Query.term token = .error error) :
    error = .malformedTerm (String.ofList token) := by
  rw [Query.term] at refused
  split at refused
  · cases refused
  · exact (Except.error.inj refused).symm

/-! ## Texts -/

/-- What a text's tokens make of it: the terms, or the error about the first token that is none. -/
structure Decides (tokens : List (List Char)) (outcome : Except Error (List Term)) : Prop where
  succeeds : (∃ terms, outcome = .ok terms) ↔
    tokens = [] ∨ tokens = [['*']] ∨ ∀ token ∈ tokens, Named token
  all : tokens = [['*']] → outcome = .ok []
  terms : ∀ terms, outcome = .ok terms → tokens ≠ [['*']] →
    List.Forall₂ Term.ReadFrom terms tokens
  fails : ∀ error, outcome = .error error → ∃ before token after,
    tokens = before ++ token :: after ∧ (∀ earlier ∈ before, Named earlier) ∧ ¬ Named token ∧
    error = .invalidQuery ("expected field:value, got '" ++ String.ofList token ++ "'")

theorem Decides.star : Decides [['*']] (.ok []) where
  succeeds := ⟨fun _ => .inr (.inl rfl), fun _ => ⟨[], rfl⟩⟩
  all _ := rfl
  terms _ _ other := absurd rfl other
  fails _ failed := by cases failed

theorem Decides.of_each {tokens : List (List Char)} {terms : List Term}
    (other : tokens ≠ [['*']])
    (each : List.Forall₂ (fun token term => Query.term token = .ok term) tokens terms) :
    Decides tokens (.ok terms) where
  succeeds := by
    have named := each.imp (S := fun token term => Named token ∧ Query.term token = .ok term)
      fun token term told => ⟨named_iff.mpr ⟨term, told⟩, told⟩
    exact ⟨fun _ => .inr (.inr ((List.forall₂_and_left _ _).mp named).1), fun _ => ⟨terms, rfl⟩⟩
  all star := absurd star other
  terms _ same _ := by
    cases same
    exact (each.imp fun _ _ told => term_eq_ok_iff.mp told).flip
  fails _ failed := by cases failed

theorem Decides.of_refusal {before after : List (List Char)} {token : List Char} {error : Error}
    (other : before ++ token :: after ≠ [['*']])
    (good : ∀ earlier ∈ before, ∃ term, Query.term earlier = .ok term)
    (refused : Query.term token = .error error) :
    Decides (before ++ token :: after) (.error error) := by
  have unnamed : ¬ Named token := by
    rw [named_iff, refused]
    rintro ⟨_, told⟩
    cases told
  constructor
  case succeeds =>
    constructor
    · rintro ⟨_, told⟩
      cases told
    · rintro (none | star | named)
      · simp at none
      · exact absurd star other
      · exact absurd (named token (by simp)) unnamed
  case all => exact fun star => absurd star other
  case terms =>
    intro _ told
    cases told
  case fails =>
    intro _ same
    cases same
    refine ⟨before, token, after, rfl, fun earlier member => ?_, unnamed, error_of_term refused⟩
    exact named_iff.mpr (good earlier member)

theorem decides_words (text : List Char) : Decides (Text.words text) (Query.terms text) := by
  rw [terms_eq]
  split
  case isTrue star =>
    rw [star]
    exact .star
  case isFalse other =>
    rcases mapM_outcome Query.term (Text.words text) with ⟨terms, read, each⟩ |
      ⟨before, token, after, error, split, good, refused, read⟩
    · rw [read]
      exact .of_each other each
    · rw [read]
      rw [split] at other ⊢
      exact .of_refusal other good refused

/-- Terms are read back from their words, whatever blanks there are. -/
theorem terms_of_spaced {terms : List Term} {text : List Char} (plain : ∀ term ∈ terms, term.Plain)
    (spaced : Text.Spaced (terms.map fun term => term.text.toList) text) :
    Query.terms text = .ok terms := by
  have read : (terms.map fun term => term.text.toList).mapM Query.term = .ok terms := by
    clear spaced
    induction terms with
    | nil => rfl
    | cons term terms ih =>
      obtain ⟨first, plain⟩ := List.forall_mem_cons.mp plain
      rw [List.map_cons, List.mapM_cons, term_text first, ih plain]
      rfl
  rw [terms_eq, spaced.words_eq, read]
  apply if_neg
  intro star
  rw [star] at read
  cases read

/-! ## Queries side by side -/

theorem words_ne_star {text : List Char} (other : Text.trim text ≠ ['*']) :
    Text.words text ≠ [['*']] :=
  fun star => other (Text.words_eq_iff.mp star).trim_eq

theorem terms_beside {first second : List Char} (other : Text.trim first ≠ ['*'])
    (others : Text.trim second ≠ ['*']) :
    Query.terms (first ++ ' ' :: second) =
      (Query.terms first).bind fun terms => (Query.terms second).map (terms ++ ·) := by
  have together : Text.words (first ++ ' ' :: second) ≠ [['*']] := by
    rw [Text.words_append_blank rfl]
    intro star
    rcases List.append_eq_singleton_iff.mp star with ⟨-, star⟩ | ⟨star, -⟩
    · exact words_ne_star others star
    · exact words_ne_star other star
  rw [terms_eq, terms_eq, terms_eq, if_neg together, if_neg (words_ne_star other),
    if_neg (words_ne_star others), Text.words_append_blank rfl, List.mapM_append]
  cases (Text.words first).mapM Query.term with
  | error error => rfl
  | ok terms => cases (Text.words second).mapM Query.term <;> rfl

section Corpora

variable [Memory]

/-- In any corpus the text matches the documents that have this property, and no others. -/
def Finds (text : String) (holds : Document → Bool) : Prop :=
  ∀ (corpus : Corpus) facets, corpus.matching ⟨text, facets⟩ = .ok (corpus.documents.filter holds)

theorem finds_of_terms {text : String} {terms : List Term}
    (read : Query.terms text.toList = .ok terms) :
    Finds text fun document => terms.all fun term => term.holds document := by
  intro corpus facets
  have parsed : Query.terms (Query.mk text facets).text.toList = .ok terms := read
  rw [Corpus.matching_eq parsed, Corpus.selected]

/-- Neither the order nor the repetition of terms counts. -/
theorem finds_of_members {text : String} {terms more others : List Term}
    (read : Query.terms text.toList = .ok others)
    (same : ∀ term, term ∈ others ↔ term ∈ terms ∨ term ∈ more) :
    Finds text fun document =>
      (terms.all fun term => term.holds document) && more.all fun term => term.holds document := by
  intro corpus facets
  rw [finds_of_terms read]
  apply congrArg Except.ok
  apply List.filter_congr
  intro document _
  rw [Bool.eq_iff_iff]
  simp only [Bool.and_eq_true, List.all_eq_true, same, or_imp, forall_and]

theorem matching_fails_iff (corpus : Corpus) (text : String) (facets : List String) :
    (∃ error, corpus.matching ⟨text, facets⟩ = .error error) ↔
      ∃ error, Query.terms text.toList = .error error := by
  rw [Corpus.matching]
  cases Query.terms text.toList <;> simp [Except.map]

/-- The words of a text decide whether it is a query, what its terms are, and which of them the
error names. Terms that are written out with blanks about them are read back. Two texts side by
side are a query if both are, and then match what both match, as does any text with just their
terms. -/
theorem terms_decided :
    (∀ text, ∃ tokens, Text.Spaced tokens text ∧
      (∀ others, Text.Spaced others text → others = tokens) ∧
      Decides tokens (Query.terms text)) ∧
    (∀ terms text, (∀ term ∈ terms, term.Plain) →
      Text.Spaced (terms.map fun term => term.text.toList) text → Query.terms text = .ok terms) ∧
    ∀ first second : String, Text.trim first.toList ≠ ['*'] → Text.trim second.toList ≠ ['*'] →
      (∀ (corpus : Corpus) facets,
        (∃ error, corpus.matching ⟨first ++ " " ++ second, facets⟩ = .error error) ↔
          (∃ error, corpus.matching ⟨first, facets⟩ = .error error) ∨
          ∃ error, corpus.matching ⟨second, facets⟩ = .error error) ∧
      ∀ terms more, Query.terms first.toList = .ok terms → Query.terms second.toList = .ok more →
        ∃ left right, Finds first left ∧ Finds second right ∧
          Finds (first ++ " " ++ second) (fun document => left document && right document) ∧
          ∀ text others, Query.terms text.toList = .ok others →
            (∀ term, term ∈ others ↔ term ∈ terms ∨ term ∈ more) →
            Finds text fun document => left document && right document := by
  refine ⟨fun text => ?_, fun _ _ => terms_of_spaced, ?_⟩
  · refine ⟨_, Text.spaced_words text, fun others spaced => spaced.words_eq.symm, ?_⟩
    exact decides_words text
  · intro first second other others
    have joint : (first ++ " " ++ second).toList = first.toList ++ ' ' :: second.toList := by
      rw [String.toList_append, String.toList_append, List.append_assoc]
      rfl
    have beside := terms_beside other others
    rw [← joint] at beside
    constructor
    · intro corpus facets
      simp only [matching_fails_iff, beside]
      cases Query.terms first.toList with
      | error error => simp [Except.bind]
      | ok terms => cases Query.terms second.toList <;> simp [Except.bind, Except.map]
    · intro terms more read readMore
      refine ⟨_, _, finds_of_terms read, finds_of_terms readMore, ?_, ?_⟩
      · apply finds_of_members _ fun term => List.mem_append
        rw [beside, read, readMore]
        rfl
      · intro text others read same
        exact finds_of_members read same

end Corpora

/-- Blanks of several kinds, a colon and a star in values, and a term that comes again. -/
theorem terms_decided_blanks :
    (∃ before token after, [['a', ':', '1'], [':', 'b'], ['c']] = before ++ token :: after ∧
      (∀ earlier ∈ before, Named earlier) ∧ ¬ Named token ∧ Error.malformedTerm ":b" =
        .invalidQuery ("expected field:value, got '" ++ String.ofList token ++ "'")) ∧
    Query.terms "\u3000time:12:30\t\u00a0tag:* ".toList =
      .ok [⟨"time", "12:30"⟩, ⟨"tag", "*"⟩] ∧
    ∃ left right, Finds "kind:x" left ∧ Finds " year:7 kind:x" right ∧
      Finds ("kind:x" ++ " " ++ " year:7 kind:x")
        (fun document => left document && right document) ∧
      Finds "year:7 kind:x" fun document => left document && right document := by
  obtain ⟨decided, rendered, beside⟩ := terms_decided
  refine ⟨?_, ?_, ?_⟩
  · obtain ⟨tokens, -, only, decides⟩ := decided " a:1 :b c".toList
    have words : Text.words " a:1 :b c".toList = [['a', ':', '1'], [':', 'b'], ['c']] := by decide
    rw [only _ (Text.words_eq_iff.mp words)]
    exact decides.fails _ (by decide)
  · apply rendered [⟨"time", "12:30"⟩, ⟨"tag", "*"⟩] _ (by decide)
    exact Text.words_eq_iff.mp (by decide)
  · obtain ⟨-, finding⟩ := beside "kind:x" " year:7 kind:x" (by decide) (by decide)
    obtain ⟨left, right, first, second, joint, same⟩ :=
      finding [⟨"kind", "x"⟩] [⟨"year", "7"⟩, ⟨"kind", "x"⟩] (by decide) (by decide)
    refine ⟨left, right, first, second, joint, same _ [⟨"year", "7"⟩, ⟨"kind", "x"⟩] (by decide) ?_⟩
    intro term
    simp [or_comm]

end Query

end VisibleFacets
