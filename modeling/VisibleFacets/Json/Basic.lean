import VisibleFacets.Dict
import VisibleFacets.Number.Written

/-!
# JSON values and their text

Integers and decimals are apart: `1` is an integer and `1.0` a decimal. Written text is either
compact or indented by two blanks.
-/

namespace VisibleFacets

/-- A JSON value. Numbers without a fraction that fit 64 bits are integers, all others doubles. -/
inductive Json where
  | null
  | bool (value : Bool)
  | integer (value : Int)
  | decimal (value : Binary)
  | string (text : String)
  | array (items : List Json)
  | object (members : List (String × Json))
  deriving Inhabited

namespace Json

def hexDigit (value : Nat) : Char := (Nat.digitChar value)

def escape (c : Char) : List Char :=
  if c = '\x22' then ['\\', '\x22']
  else if c = '\\' then ['\\', '\\']
  else if c = '\x08' then ['\\', 'b']
  else if c = '\x0c' then ['\\', 'f']
  else if c = '\n' then ['\\', 'n']
  else if c = '\r' then ['\\', 'r']
  else if c = '\t' then ['\\', 't']
  else if c.toNat < 0x20 then
    ['\\', 'u', '0', '0', hexDigit (c.toNat / 16), hexDigit (c.toNat % 16)]
  else [c]

def writeString (text : String) : List Char :=
  '\x22' :: (text.toList.flatMap escape ++ ['\x22'])

def joined (separator : List Char) : List (List Char) → List Char
  | [] => []
  | [item] => item
  | item :: rest => item ++ separator ++ joined separator rest

mutual

def compact : Json → List Char
  | null => ['n', 'u', 'l', 'l']
  | bool true => ['t', 'r', 'u', 'e']
  | bool false => ['f', 'a', 'l', 's', 'e']
  | integer value => Text.showInteger value
  | decimal value => writeBinary .double value
  | string text => writeString text
  | array items => '[' :: (joined [','] (compactItems items) ++ [']'])
  | object members => '{' :: (joined [','] (compactMembers members) ++ ['}'])

def compactItems : List Json → List (List Char)
  | [] => []
  | item :: rest => compact item :: compactItems rest

def compactMembers : List (String × Json) → List (List Char)
  | [] => []
  | (name, value) :: rest => (writeString name ++ ':' :: compact value) :: compactMembers rest

end

def newLine (level : Nat) : List Char := '\n' :: List.replicate (2 * level) ' '

def block (opening closing : Char) (level : Nat) (parts : List (List Char)) : List Char :=
  if parts = [] then [opening, closing]
  else opening :: (newLine (level + 1) ++ joined (',' :: newLine (level + 1)) parts ++
    newLine level ++ [closing])

mutual

def indented (level : Nat) : Json → List Char
  | array items => block '[' ']' level (indentedItems (level + 1) items)
  | object members => block '{' '}' level (indentedMembers (level + 1) members)
  | null => compact null
  | bool value => compact (bool value)
  | integer value => compact (integer value)
  | decimal value => compact (decimal value)
  | string text => compact (string text)

def indentedItems (level : Nat) : List Json → List (List Char)
  | [] => []
  | item :: rest => indented level item :: indentedItems level rest

def indentedMembers (level : Nat) : List (String × Json) → List (List Char)
  | [] => []
  | (name, value) :: rest =>
    (writeString name ++ ':' :: ' ' :: indented level value) :: indentedMembers level rest

end

def ofNat (value : Nat) : Json := .integer value

def ofDict {α : Type} (write : α → Json) (dict : Dict α) : Json :=
  .object (dict.mapValues write).entries

end Json

end VisibleFacets
