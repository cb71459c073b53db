/-!
# Tables of a TOML document

How a table came about decides what may still be added to it: a header may complete a table that
only other headers implied, and a dotted key may add to tables that dotted keys made. Main
definitions: `Members.assign?`, `Members.within?`, `Members.openTable?`, `Members.openGroup?`.
-/

namespace VisibleFacets.Toml

/-- How a table came about: by its header, by the header of a table inside it, by a dotted key, or
between braces. -/
inductive Origin where
  | written
  | implied
  | dotted
  | inline
  deriving DecidableEq, Repr

/-- A value of a document. Of floats and of dates nothing but their kind is kept. -/
inductive Node where
  | string (text : String)
  | integer (value : Int)
  | float
  | boolean (value : Bool)
  | moment
  | array (items : List Node)
  | table (origin : Origin) (members : List (String × Node))
  | tables (groups : List (List (String × Node)))
  deriving Inhabited

abbrev Members := List (String × Node)

namespace Members

def replace (members : Members) (key : String) (node : Node) : Members :=
  members.map fun member => if member.1 = key then (key, node) else member

def changeLast? (change : Members → Option Members) (groups : List Members) :
    Option (List Members) :=
  match groups.reverse with
  | [] => none
  | last :: earlier => (change last).map fun last => (last :: earlier).reverse

/-- Adds a value under a dotted key. No key is assigned twice, and the last table on the way has to
be one that dotted keys made. -/
def assign? : (path : List String) → Node → Members → Option Members
  | [], _, _ => none
  | [key], node, members =>
    if (members.lookup key).isSome then none else some (members ++ [(key, node)])
  | key :: next :: rest, node, members =>
    let inside := assign? (next :: rest) node
    match members.lookup key with
    | none => (inside []).map fun inner => members ++ [(key, .table .dotted inner)]
    | some (.table .dotted inner) =>
      (inside inner).map fun inner => members.replace key (.table .dotted inner)
    | some (.table .implied inner) =>
      if rest = [] then none
      else (inside inner).map fun inner => members.replace key (.table .implied inner)
    | some (.tables groups) =>
      if rest = [] then none
      else (changeLast? inside groups).map fun groups => members.replace key (.tables groups)
    | some _ => none

/-- Changes the table that a header's path names; tables on the way that are not there yet are
implied. Braces are closed to headers. -/
def within? (change : Members → Option Members) : (path : List String) → Members → Option Members
  | [], members => change members
  | key :: rest, members =>
    let inside := within? change rest
    match members.lookup key with
    | none => (inside []).map fun inner => members ++ [(key, .table .implied inner)]
    | some (.table .inline _) => none
    | some (.table origin inner) =>
      (inside inner).map fun inner => members.replace key (.table origin inner)
    | some (.tables groups) =>
      (changeLast? inside groups).map fun groups => members.replace key (.tables groups)
    | some _ => none

def openHere? (key : String) (members : Members) : Option Members :=
  match members.lookup key with
  | none => some (members ++ [(key, .table .written [])])
  | some (.table .implied inner) => some (members.replace key (.table .written inner))
  | some _ => none

def openGroupHere? (key : String) (members : Members) : Option Members :=
  match members.lookup key with
  | none => some (members ++ [(key, .tables [[]])])
  | some (.tables groups) => some (members.replace key (.tables (groups ++ [[]])))
  | some _ => none

def atLast? (here : String → Members → Option Members) (path : List String) (members : Members) :
    Option Members :=
  match path.reverse with
  | [] => none
  | key :: reversed => members.within? (here key) reversed.reverse

def openTable? : (path : List String) → Members → Option Members := atLast? openHere?

def openGroup? : (path : List String) → Members → Option Members := atLast? openGroupHere?

end Members

end VisibleFacets.Toml
