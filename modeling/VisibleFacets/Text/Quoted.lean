import VisibleFacets.Text.Blank
import VisibleFacets.Text.Hidden

/-!
# Texts quoted in messages

A quoted text shows every character: marks and backslashes are escaped, and characters that do not
show stand as their code. Main definition: `Text.quoted`.
-/

namespace VisibleFacets.Text

def isHidden (c : Char) : Bool := inRanges hiddenRanges c.toNat

def codeEscape (c : Char) : List Char :=
  ['\\', 'u', '\x7b'] ++ Nat.toDigits 16 c.toNat ++ ['\x7d']

def escapeShown (c : Char) : List Char :=
  if c = '\x00' then ['\\', '0']
  else if c = '\t' then ['\\', 't']
  else if c = '\r' then ['\\', 'r']
  else if c = '\n' then ['\\', 'n']
  else if c = '\\' ∨ c = '\x22' then ['\\', c]
  else if isHidden c then codeEscape c
  else [c]

def quoted (text : List Char) : List Char := '\x22' :: (text.flatMap escapeShown ++ ['\x22'])

end VisibleFacets.Text
