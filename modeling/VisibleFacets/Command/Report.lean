import VisibleFacets.Exchange.Facets

/-!
# What the commands print

Main definitions: `printTable`, `printComparison`.
-/

namespace VisibleFacets

def printTable (table : FacetTable) : List Char :=
  Json.indented 0 (FacetTable.toJson table) ++ ['\n']

def padRight (width : Nat) (text : List Char) : List Char :=
  text ++ List.replicate (width - text.length) ' '

def padLeft (width : Nat) (text : List Char) : List Char :=
  List.replicate (width - text.length) ' ' ++ text

def FacetTable.count? (table : FacetTable) (facet label : String) : Option Nat :=
  (table.get? facet).bind fun entries => (entries.find? (·.label = label)).map (·.count)

def sharedLabels (tables : List FacetTable) (facet : String) : List String :=
  distinctNames (tables.flatMap fun table => ((table.get? facet).getD []).map (·.label))

def comparisonRow (label : List Char) (columns : List (List Char)) : List Char :=
  [' ', ' '] ++ padRight 32 label ++ columns.flatMap (fun column => ' ' :: padLeft 12 column) ++
    ['\n']

def countColumn (table : FacetTable) (facet label : String) : List Char :=
  match table.count? facet label with
  | some count => Text.showNatural count
  | none => ['-']

def comparisonBlock (modes : List Mode) (tables : List FacetTable) (facet : String) : List Char :=
  ['\n'] ++ facet.toList ++ ['\n'] ++ List.replicate 80 '-' ++ ['\n'] ++
    comparisonRow ['l', 'a', 'b', 'e', 'l'] (modes.map (·.name.toList)) ++
    (sharedLabels tables facet).flatMap fun label =>
      comparisonRow label.toList (tables.map fun table => countColumn table facet label)

def printComparison (query : Query) (plan : SamplePlan) (modes : List Mode)
    (tables : List FacetTable) : List Char :=
  "Query: ".toList ++ query.text.toList ++ "  (sample size ".toList ++
    Text.showNatural plan.sampleSize ++ ", seed ".toList ++ Text.showNatural plan.seed ++
    [')', '\n'] ++ query.facets.flatMap (comparisonBlock modes tables)

end VisibleFacets
