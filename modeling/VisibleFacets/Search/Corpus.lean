import VisibleFacets.Sampling.Reservoir
import VisibleFacets.Search.Backend

/-!
# Documents held in memory

Main definitions: `Corpus.matching`, `Corpus.backend`.
-/

namespace VisibleFacets

variable [Memory]

/-- Documents in the order in which they match; page fetches fail once so many were served. There is
room for all of them at once. -/
structure Corpus where
  documents : List Document
  failAfterPages : Option Nat := none
  fits : documents.length ≤ Memory.room := by decide

instance : Inhabited Corpus := ⟨{ documents := [], fits := Nat.zero_le _ }⟩

structure Usage where
  pageFetches : Nat := 0
  aggregations : Nat := 0
  deriving DecidableEq, Repr, Inhabited

namespace Corpus

def selected (corpus : Corpus) (terms : List Term) : List Document :=
  corpus.documents.filter fun document => terms.all fun term => term.holds document

def matching (corpus : Corpus) (query : Query) : Except Error (List Document) :=
  (Query.terms query.text.toList).map corpus.selected

def exhausted (corpus : Corpus) (usage : Usage) : Bool :=
  match corpus.failAfterPages with
  | some limit => limit ≤ usage.pageFetches
  | none => false

def page (corpus : Corpus) (query : Query) (batchSize offset : Nat) (usage : Usage) :
    Except Error Page :=
  if corpus.exhausted usage then .error (.pageFailure offset)
  else (corpus.matching query).map fun documents =>
    { hits := ((documents.drop offset).take batchSize).map Document.toHit
      totalHits := documents.length }

def table (corpus : Corpus) (query : Query) (limit : Nat) : Except Error FacetTable :=
  (corpus.matching query).map fun documents =>
    countFacets (fun facet => documents.flatMap fun document => labels document.fields facet)
      query.facets limit

def backend (corpus : Corpus) : Backend Usage where
  fetchPage query batchSize offset usage :=
    (corpus.page query batchSize offset usage, { usage with pageFetches := usage.pageFetches + 1 })
  aggregate query limit usage :=
    (corpus.table query limit, { usage with aggregations := usage.aggregations + 1 })

end Corpus

structure CyclicField where
  name : String
  values : List Json
  stride : Nat

structure CyclicReader where
  reader : String
  modulus : Nat
  bound : Nat

namespace Document

/-- A null leaves the field out. -/
def cyclicField? (index : Nat) (field : CyclicField) : Option (String × Json) :=
  match field.values[index / field.stride % field.values.length]? with
  | none | some .null => none
  | some value => some (field.name, value)

def cyclic (fields : List CyclicField) (readers : List CyclicReader) (index : Nat) : Document :=
  { id := "doc-" ++ toString index
    fields := .ofList (fields.filterMap (cyclicField? index))
    readers := (readers.filter fun reader => index % reader.modulus < reader.bound).map (·.reader) }

end Document

def Corpus.cyclic {size : Nat} (fits : size ≤ Memory.room) (fields : List CyclicField)
    (readers : List CyclicReader) : Corpus where
  documents := (List.range size).map (Document.cyclic fields readers)
  fits := by rwa [List.length_map, List.length_range]

end VisibleFacets
