import VisibleFacets.Toml.Scalar

/-!
# Reading TOML documents

Main definitions: `value?`, `document?`.
-/

namespace VisibleFacets.Toml

/-! ## Blanks, comments and keys -/

def lineRest? (text : List Char) : Option (List Char) :=
  let rest :=
    match skipWhite text with
    | '#' :: comment => comment.dropWhile isPlain
    | rest => rest
  match rest with
  | [] => some []
  | rest => newline? rest

/-- Drops blanks, line ends and comments, `inComment` telling whether one has begun. -/
def skipLayout? : (inComment : Bool) → List Char → Option (List Char)
  | false, [] => some []
  | true, [] => none
  | _, '\n' :: rest => skipLayout? false rest
  | _, '\r' :: '\n' :: rest => skipLayout? false rest
  | false, '#' :: rest => skipLayout? true rest
  | false, c :: rest => if isWhite c then skipLayout? false rest else some (c :: rest)
  | true, c :: rest => if isPlain c then skipLayout? true rest else none

def isBare (c : Char) : Bool :=
  ('A' ≤ c && c ≤ 'Z') || ('a' ≤ c && c ≤ 'z') || ('0' ≤ c && c ≤ '9') || c = '-' || c = '_'

def simpleKey? : List Char → Option (List Char × List Char)
  | '\x22' :: rest => basic? rest
  | '\x27' :: rest => literal? rest
  | text => match text.takeWhile isBare with
    | [] => none
    | key => some (key, text.dropWhile isBare)

def keyParts? : Nat → List Char → Option (List String × List Char)
  | 0, _ => none
  | fuel + 1, text =>
    match simpleKey? (skipWhite text) with
    | none => none
    | some (part, rest) =>
      match skipWhite rest with
      | '.' :: rest =>
        (keyParts? fuel rest).map fun (parts, rest) => (String.ofList part :: parts, rest)
      | rest => some ([String.ofList part], rest)

/-- Keys stay below this many parts, and values below as many levels of brackets. -/
def maxLevels : Nat := 80

def key? (text : List Char) : Option (List String × List Char) :=
  (keyParts? (text.length + 1) text).filter fun found => found.1.length < maxLevels

/-! ## Values -/

mutual

def value? : Nat → (depth : Nat) → List Char → Option (Node × List Char)
  | 0, _, _ => none
  | fuel + 1, depth, text =>
    match text with
    | '[' :: rest =>
      if depth = 0 then none
      else (items? fuel (depth - 1) rest).map fun (items, rest) => (.array items, rest)
    | '{' :: rest =>
      if depth = 0 then none
      else
        match skipWhite rest with
        | '}' :: rest => some (.table .inline [], rest)
        | _ => (pairs? fuel (depth - 1) [] rest).map fun (members, rest) =>
          (.table .inline members, rest)
    | '\x22' :: _ => (quoted? text).map fun (found, rest) => (.string (String.ofList found), rest)
    | '\x27' :: _ => (quoted? text).map fun (found, rest) => (.string (String.ofList found), rest)
    | _ => scalar? text

def items? : Nat → (depth : Nat) → List Char → Option (List Node × List Char)
  | 0, _, _ => none
  | fuel + 1, depth, text =>
    match skipLayout? false text with
    | none => none
    | some (']' :: rest) => some ([], rest)
    | some text =>
      match value? fuel depth text with
      | none => none
      | some (item, rest) =>
        match skipLayout? false rest with
        | some (']' :: rest) => some ([item], rest)
        | some (',' :: rest) =>
          (items? fuel depth rest).map fun (items, rest) => (item :: items, rest)
        | _ => none

/-- Assignments up to the closing brace, on one line and without a comma at the end. -/
def pairs? : Nat → (depth : Nat) → Members → List Char → Option (Members × List Char)
  | 0, _, _, _ => none
  | fuel + 1, depth, members, text =>
    match key? text with
    | some (path, '=' :: rest) =>
      match value? fuel depth (skipWhite rest) with
      | none => none
      | some (node, rest) =>
        match members.assign? path node with
        | none => none
        | some members =>
          match skipWhite rest with
          | '}' :: rest => some (members, rest)
          | ',' :: rest => pairs? fuel depth members rest
          | _ => none
    | _ => none

end

/-! ## Documents -/

structure Progress where
  members : Members
  heading : List String

def header? (closing : List Char) (text : List Char) : Option (List String × List Char) := do
  let (path, rest) ← key? text
  if closing.isPrefixOf rest then
    return (path, ← lineRest? (rest.drop closing.length))
  else none

def assignment? (text : List Char) : Option ((List String × Node) × List Char) := do
  match ← key? text with
  | (path, '=' :: rest) =>
    let (node, rest) ← value? (2 * rest.length + 2) (maxLevels - 1) (skipWhite rest)
    return ((path, node), ← lineRest? rest)
  | _ => none

def lines? : Nat → Progress → List Char → Option Members
  | 0, _, _ => none
  | fuel + 1, progress, text =>
    match skipWhite text with
    | [] => some progress.members
    | '#' :: rest => (lineRest? ('#' :: rest)).bind (lines? fuel progress)
    | '[' :: '[' :: rest => do
      let (path, rest) ← header? [']', ']'] rest
      let members ← progress.members.openGroup? path
      lines? fuel ⟨members, path⟩ rest
    | '[' :: rest => do
      let (path, rest) ← header? [']'] rest
      let members ← progress.members.openTable? path
      lines? fuel ⟨members, path⟩ rest
    | text =>
      match newline? text with
      | some rest => lines? fuel progress rest
      | none => do
        let ((path, node), rest) ← assignment? text
        let members ← progress.members.within? (Members.assign? path node) progress.heading
        lines? fuel { progress with members } rest

/-- A byte order mark at the head of the text is passed over. -/
def skipMark : List Char → List Char
  | '\ufeff' :: rest => rest
  | text => text

def document? (text : List Char) : Option Members :=
  lines? (text.length + 1) ⟨[], []⟩ (skipMark text)

end VisibleFacets.Toml
