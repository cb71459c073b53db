/-!
# Files that commands read and write
-/

namespace VisibleFacets

inductive PathState where
  | missing
  | directory
  | file (content : ByteArray)

def PathState.text? : PathState → Option String
  | file content => String.fromUTF8? content
  | _ => none

theorem PathState.text?_file (text : String) : (file text.toUTF8).text? = some text :=
  dif_pos text.isValidUTF8

def PathState.isFile : PathState → Bool
  | file _ => true
  | _ => false

def PathState.isDirectory : PathState → Bool
  | directory => true
  | _ => false

def parentsFrom (reversed : List Char) : List Char → List String
  | [] => []
  | c :: rest =>
    let later := parentsFrom (c :: reversed) rest
    if c = '/' ∧ reversed ≠ [] then String.ofList reversed.reverse :: later else later

/-- The directories on the way to a path. -/
def parents (path : String) : List String := parentsFrom [] path.toList

/-- A file needs a name that no directory has, and no file may stand on the way to it. -/
def isStorable (files : String → PathState) (path : String) : Bool :=
  path.toList.getLast?.any (· ≠ '/') && !(files path).isDirectory &&
    (parents path).all fun parent => !(files parent).isFile

/-- Writes a file, and makes the directories on the way to it. -/
def store (files : String → PathState) (path : String) (content : ByteArray) (other : String) :
    PathState :=
  if other = path then .file content
  else if other ∈ parents path then .directory
  else files other

abbrev FileTree := List (List String × ByteArray)

namespace FileTree

/-- The names of a path from the directory down, or `none` outside of it. Two points go one
directory up, which has to be one. -/
def resolve? (files : FileTree) : (reversed : List String) → List String → Option (List String)
  | reversed, [] => some reversed.reverse
  | reversed, name :: rest =>
    if name = "" ∨ name = "." then resolve? files reversed rest
    else if name = ".." then
      match reversed with
      | [] => none
      | _ :: reversed => resolve? files reversed rest
    else
      let path := (name :: reversed).reverse
      let isDirectory := files.any fun file => path.isPrefixOf file.1 && path.length < file.1.length
      let isLast := rest.isEmpty
      if isLast || isDirectory then resolve? files (name :: reversed) rest else none

def lookup (files : FileTree) (path : String) : PathState :=
  let names := path.splitOn "/"
  if path = "" then .missing
  else if names.all fun name => name = "" ∨ name = "." ∨ name = ".." then .directory
  else if path.startsWith "/" then .missing
  else
    match files.resolve? [] names with
    | none => .missing
    | some path =>
      match files.find? (·.1 = path) with
      | some (_, content) => .file content
      | none =>
        if files.any fun file => path.isPrefixOf file.1 && path.length < file.1.length then
          .directory
        else .missing

end FileTree

end VisibleFacets
