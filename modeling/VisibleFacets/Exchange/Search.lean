import VisibleFacets.Search.Corpus

/-!
# JSON forms of documents, hits and queries
-/

namespace VisibleFacets

namespace Json

def ofStrings (texts : List String) : Json := .array (texts.map .string)

end Json

namespace Document

def read : Reading Document
  | 0, _ => none
  | depth + 1, raw => do
    match ← Reading.fields ["id", "fields", "readers"] raw with
    | [id, fields, readers] =>
      return { id := ← Reading.required .string depth id
               fields := ← Reading.optional (.dict .any) .empty depth fields
               readers := ← Reading.optional (.list .string) [] depth readers }
    | _ => none

def toJson (document : Document) : Json :=
  .object [("id", .string document.id), ("fields", .object document.fields.entries),
    ("readers", .ofStrings document.readers)]

end Document

namespace Hit

def read : Reading Hit
  | 0, _ => none
  | depth + 1, raw => do
    match ← Reading.fields ["id", "score", "fields", "readers"] raw with
    | [id, score, fields, readers] =>
      return { id := ← Reading.required .string depth id
               score := ← Reading.optional .single (some noScore) depth score
               fields := ← Reading.optional (.dict .any) .empty depth fields
               readers := ← Reading.optional (.list .string) [] depth readers }
    | _ => none

/-- A score is written with the digits of a single, and one beyond the largest as null. -/
def scoreJson (hit : Hit) : Json :=
  match hit.score with
  | some score => .decimal ⟨score.negative, widen score.magnitude⟩
  | none => .null

def toJson (hit : Hit) : Json :=
  .object [("id", .string hit.id), ("score", hit.scoreJson),
    ("fields", .object hit.fields.entries), ("readers", .ofStrings hit.readers)]

end Hit

namespace Query

def read : Reading Query
  | 0, _ => none
  | depth + 1, raw => do
    match ← Reading.fields ["query_string", "facets"] raw with
    | [text, facets] =>
      return { text := ← Reading.required .string depth text
               facets := ← Reading.optional (.list .string) [] depth facets }
    | _ => none

def toJson (query : Query) : Json :=
  .object [("query_string", .string query.text), ("facets", .ofStrings query.facets)]

end Query

namespace Corpus

inductive LoadFault where
  | unreadable
  | malformed
  | noRoom
  deriving DecidableEq, Repr

def load [Memory] (text : List Char) : Except LoadFault Corpus :=
  match Reading.run (.list Document.read) text with
  | some documents =>
    if fits : documents.length ≤ Memory.room then .ok { documents, fits } else .error .noRoom
  | none => .error .malformed

end Corpus

end VisibleFacets
