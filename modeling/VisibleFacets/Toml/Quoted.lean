import VisibleFacets.Text.Natural

/-!
# Quoted texts in TOML

Texts stand between quotation marks, where a backslash escapes, or between apostrophes, where it
does not; three marks in a row let a text run over lines. Main definitions: `basic?`,
`multilineBasic?`, `literal?`, `multilineLiteral?`, each of which reads on from behind the opening
marks, and `quote`.
-/

namespace VisibleFacets.Toml

def isWhite (c : Char) : Bool := c = ' ' || c = '\t'

def skipWhite : List Char → List Char := List.dropWhile isWhite

def newline? : List Char → Option (List Char)
  | '\n' :: rest => some rest
  | '\r' :: '\n' :: rest => some rest
  | _ => none

/-- Characters that may stand in comments and between apostrophes: no control characters but the
tab. -/
def isPlain (c : Char) : Bool := c = '\t' || (0x20 ≤ c.toNat && c.toNat ≠ 0x7F)

def codePoint? (digits : List Char) : Option Char :=
  (Text.hexNumber? 0 digits).bind fun code =>
    if code.isValidChar then some (Char.ofNat code) else none

def escaped? (c : Char) : Option Char :=
  if c = '\x22' ∨ c = '\\' then some c
  else if c = 'b' then some '\x08'
  else if c = 't' then some '\t'
  else if c = 'n' then some '\n'
  else if c = 'f' then some '\x0c'
  else if c = 'r' then some '\r'
  else none

def escape? : List Char → Option (Char × List Char)
  | 'u' :: a :: b :: c :: d :: rest => (codePoint? [a, b, c, d]).map (·, rest)
  | 'U' :: a :: b :: c :: d :: e :: f :: g :: h :: rest =>
    (codePoint? [a, b, c, d, e, f, g, h]).map (·, rest)
  | c :: rest => (escaped? c).map (·, rest)
  | [] => none

def before (c : Char) (read : List Char × List Char) : List Char × List Char :=
  (c :: read.1, read.2)

def basicWithin? : Nat → List Char → Option (List Char × List Char)
  | 0, _ => none
  | fuel + 1, text =>
    match text with
    | [] => none
    | '\x22' :: rest => some ([], rest)
    | '\\' :: rest =>
      match escape? rest with
      | none => none
      | some (c, rest) => (basicWithin? fuel rest).map (before c)
    | c :: rest => if isPlain c then (basicWithin? fuel rest).map (before c) else none

def basic? (text : List Char) : Option (List Char × List Char) :=
  basicWithin? (text.length + 1) text

def skipWhiteLines : List Char → List Char
  | [] => []
  | '\r' :: '\n' :: rest => skipWhiteLines rest
  | c :: rest => if c = '\n' || isWhite c then skipWhiteLines rest else c :: rest

/-- Reads to the three closing quotation marks; up to two more before them belong to the text. A
backslash at the end of a line drops the line end with all blanks around it. -/
def multilineBasicWithin? : Nat → List Char → Option (List Char × List Char)
  | 0, _ => none
  | fuel + 1, text =>
    match text with
    | [] => none
    | '\x22' :: '\x22' :: '\x22' :: '\x22' :: '\x22' :: rest => some (['\x22', '\x22'], rest)
    | '\x22' :: '\x22' :: '\x22' :: '\x22' :: rest => some (['\x22'], rest)
    | '\x22' :: '\x22' :: '\x22' :: rest => some ([], rest)
    | '\x22' :: rest => (multilineBasicWithin? fuel rest).map (before '\x22')
    | '\\' :: rest =>
      match newline? (skipWhite rest) with
      | some rest => multilineBasicWithin? fuel (skipWhiteLines rest)
      | none =>
        match escape? rest with
        | none => none
        | some (c, rest) => (multilineBasicWithin? fuel rest).map (before c)
    | c :: rest =>
      match newline? (c :: rest) with
      | some rest => (multilineBasicWithin? fuel rest).map (before '\n')
      | none => if isPlain c then (multilineBasicWithin? fuel rest).map (before c) else none

def skipFirstNewline (text : List Char) : List Char := (newline? text).getD text

def multilineBasic? (text : List Char) : Option (List Char × List Char) :=
  multilineBasicWithin? (text.length + 1) (skipFirstNewline text)

def literal? : List Char → Option (List Char × List Char)
  | [] => none
  | c :: rest =>
    if c = '\x27' then some ([], rest)
    else if isPlain c then (literal? rest).map (before c)
    else none

/-- Reads to the three closing apostrophes; up to two more before them belong to the text. -/
def multilineLiteralBody? : List Char → Option (List Char × List Char)
  | [] => none
  | '\x27' :: '\x27' :: '\x27' :: '\x27' :: '\x27' :: rest => some (['\x27', '\x27'], rest)
  | '\x27' :: '\x27' :: '\x27' :: '\x27' :: rest => some (['\x27'], rest)
  | '\x27' :: '\x27' :: '\x27' :: rest => some ([], rest)
  | '\r' :: '\n' :: rest => (multilineLiteralBody? rest).map (before '\n')
  | c :: rest =>
    if c = '\n' || isPlain c then (multilineLiteralBody? rest).map (before c) else none

def multilineLiteral? (text : List Char) : Option (List Char × List Char) :=
  multilineLiteralBody? (skipFirstNewline text)

def quoted? : List Char → Option (List Char × List Char)
  | '\x22' :: '\x22' :: '\x22' :: rest => multilineBasic? rest
  | '\x22' :: rest => basic? rest
  | '\x27' :: '\x27' :: '\x27' :: rest => multilineLiteral? rest
  | '\x27' :: rest => literal? rest
  | _ => none

/-! ## Writing -/

def longestRun (mark : Char) (text : List Char) : Nat :=
  (text.foldl (fun (longest, current) c =>
    if c = mark then (max longest (current + 1), current + 1) else (longest, 0)) (0, 0)).1

def needsCode (c : Char) : Bool := !isPlain c && c ≠ '\n'

def upperHex (value : Nat) : Char := (Nat.digitChar value).toUpper

def escapeControl (c : Char) : List Char :=
  if c = '\x08' then ['\\', 'b']
  else if c = '\t' then ['\\', 't']
  else if c = '\n' then ['\\', 'n']
  else if c = '\x0c' then ['\\', 'f']
  else if c = '\r' then ['\\', 'r']
  else ['\\', 'u', '0', '0', upperHex (c.toNat / 16), upperHex (c.toNat % 16)]

/-- The text between quotation marks, `run` of which stand before it; `allowed` of them may stand in
a row, and line feeds may stand for themselves if `lines`. Tabs are always escaped here. -/
def escapeText (lines : Bool) (allowed : Nat) : (run : Nat) → List Char → List Char
  | _, [] => []
  | run, c :: rest =>
    if c = '\x22' then
      if run < allowed then c :: escapeText lines allowed (run + 1) rest
      else '\\' :: c :: escapeText lines allowed 0 rest
    else if c = '\\' then '\\' :: '\\' :: escapeText lines allowed 0 rest
    else if needsCode c || c = '\t' || (c = '\n' && !lines) then
      escapeControl c ++ escapeText lines allowed 0 rest
    else c :: escapeText lines allowed 0 rest

inductive Quotation where
  | basic
  | literal
  | multilineBasic
  | multilineLiteral
  deriving DecidableEq, Repr

/-- The first way that needs no escapes, and else the basic one, over lines if the text has
several. -/
def quotationFor (text : List Char) : Quotation :=
  let apostrophes := longestRun '\x27' text
  let quotes := longestRun '\x22' text
  let backslash := text.contains '\\'
  let newline := text.contains '\n'
  if text.any needsCode then if newline then .multilineBasic else .basic
  else if !backslash && quotes = 0 && !newline then .basic
  else if apostrophes = 0 && !newline then .literal
  else if !backslash && quotes ≤ 2 then .multilineBasic
  else if apostrophes ≤ 2 then .multilineLiteral
  else if newline then .multilineBasic
  else .basic

def firstLine (text : List Char) : List Char := if text.contains '\n' then ['\n'] else []

def quote (text : List Char) : List Char :=
  match quotationFor text with
  | .basic => ['\x22'] ++ escapeText false 0 0 text ++ ['\x22']
  | .literal => ['\x27'] ++ text ++ ['\x27']
  | .multilineBasic =>
    ['\x22', '\x22', '\x22'] ++ firstLine text ++ escapeText true 2 0 text ++
      ['\x22', '\x22', '\x22']
  | .multilineLiteral =>
    ['\x27', '\x27', '\x27'] ++ firstLine text ++ text ++ ['\x27', '\x27', '\x27']

end VisibleFacets.Toml
