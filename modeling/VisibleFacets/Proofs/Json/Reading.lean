import Mathlib.Data.List.Forall2
import VisibleFacets.Json.Meaning
import VisibleFacets.Proofs.Text.Natural

/-!
# Reading written texts

`Raw.Reads text raw` says that a reader takes the text for this shape wherever it stands. It holds
of quoted texts and of numbers, and of lists and records of texts for which it holds.
-/

namespace VisibleFacets.Raw

/-! ## Quoted texts -/

/-- A control character without an escape of its own is written in hexadecimal. -/
def pieceOf (c : Char) : Piece :=
  if c.toNat < 0x20 ∧ c ∉ ['\x08', '\x0c', '\n', '\r', '\t'] then .code c.toNat else .char c

def spelled (text : String) : List Piece := text.toList.map pieceOf

theorem hexNumber?_hexDigit {code : Nat} (small : code < 0x20) :
    Text.hexNumber? 0 ['0', '0', Json.hexDigit (code / 16), Json.hexDigit (code % 16)] =
      some code := by
  have all : ∀ code < 0x20, Text.hexNumber? 0
      ['0', '0', Json.hexDigit (code / 16), Json.hexDigit (code % 16)] = some code := by decide
  exact all code small

theorem pieces?_escape (c : Char) (rest : List Char) :
    pieces? (Json.escape c ++ rest) =
      (pieces? rest).map fun (pieces, rest) => (pieceOf c :: pieces, rest) := by
  fun_cases Json.escape c with
  | case8 _ _ _ _ _ _ _ small => simp [pieces?, hexNumber?_hexDigit small, pieceOf, *]
  | case9 _ notBackslash _ _ _ _ _ large =>
    have plain : pieceOf c = .char c := if_neg fun control => large control.1
    simp [pieces?, plain, notBackslash, large]
  | _ => subst_vars; simp [pieces?, escaped?, pieceOf]

theorem pieces?_flatMap_escape (text rest : List Char) :
    pieces? (text.flatMap Json.escape ++ '\x22' :: rest) = some (text.map pieceOf, rest) := by
  induction text with
  | nil => rfl
  | cons c text ih => simp [pieces?_escape, ih]

theorem decodePieces?_map_pieceOf (text : List Char) :
    decodePieces? (text.map pieceOf) = some text := by
  induction text with
  | nil => rfl
  | cons c text ih =>
    rw [List.map_cons, pieceOf]
    split
    · rename_i control
      have low : c.toNat < 0xD800 := Nat.lt_trans control.1 (by decide)
      rw [decodePieces?.eq_def]
      simp [low, ih]
    · simp [decodePieces?, ih]

theorem decodeText?_spelled (text : String) : decodeText? (spelled text) = some text := by
  rw [decodeText?, spelled, decodePieces?_map_pieceOf, Option.map_some, String.ofList_toList]

/-! ## Numbers -/

/-- Behind a value stands nothing, a gap, or a mark of the list or record that it is in. -/
def Behind (rest : List Char) : Prop := ∀ c ∈ rest.head?, c ∈ [' ', '\n', ',', ']', '}']

def natural (digits : List Nat) : Raw := .number ⟨false, digits, [], none⟩

theorem Behind.ends_digits {rest : List Char} (behind : Behind rest) :
    ∀ c ∈ rest.head?, Text.digitValue? c = none := by
  have all : ∀ c ∈ [' ', '\n', ',', ']', '}'], Text.digitValue? c = none := by
    simp [Text.digitValue?]
  exact fun c first => all c (behind c first)

theorem digits_append {written : List Nat} (small : ∀ digit ∈ written, digit < 10)
    {rest : List Char} (ended : ∀ c ∈ rest.head?, Text.digitValue? c = none) :
    digits (written.map Nat.digitChar ++ rest) = (written, rest) := by
  induction written with
  | nil =>
    cases rest with
    | nil => rfl
    | cons c rest => simp [digits, ended c (by simp)]
  | cons digit written ih =>
    have value := Text.digitValue?_digitChar (small digit (by simp))
    simp [digits, value, ih fun other member => small other (.tail _ member)]

theorem whole?_append {written : List Nat} {value : Nat} (spells : Text.Spells written value)
    {rest : List Char} (behind : Behind rest) :
    whole? (written.map Nat.digitChar ++ rest) = some (written, rest) := by
  have read := digits_append spells.small behind.ends_digits
  obtain ⟨digit, later, rfl⟩ := List.exists_cons_of_ne_nil spells.nonempty
  rcases Nat.eq_zero_or_pos digit with rfl | positive
  · obtain ⟨-, rfl⟩ := List.cons_eq_cons.mp (spells.leading rfl)
    have none := @digits_append [] (by simp) rest behind.ends_digits
    rw [List.map_nil, List.nil_append] at none
    simp [whole?, none, Nat.digitChar]
  · have different := Text.digitChar_ne_zero (spells.small digit (.head _)) positive
    rw [List.map_cons, List.cons_append] at read ⊢
    simp [whole?, different, read]

theorem number?_append {written : List Nat} {value : Nat} (spells : Text.Spells written value)
    {rest : List Char} (behind : Behind rest) :
    number? (written.map Nat.digitChar ++ rest) = some (natural written, rest) := by
  have whole := whole?_append spells behind
  have fraction : fraction? rest = some ([], rest) := by
    unfold fraction?
    split
    · exact absurd (behind '.' rfl) (by decide)
    · rfl
  have exponent : exponent? rest = some (none, rest) := by
    unfold exponent?
    split
    · rfl
    · rename_i c later
      have all : ∀ c ∈ [' ', '\n', ',', ']', '}'], ¬(c = 'e' ∨ c = 'E') := by simp
      rw [if_neg (all c (behind c rfl))]
  have unsigned : unsigned? false (written.map Nat.digitChar ++ rest) =
      some (natural written, rest) := by
    simp [unsigned?, whole, fraction, exponent, natural]
  obtain ⟨digit, later, rfl⟩ := List.exists_cons_of_ne_nil spells.nonempty
  have different : digit.digitChar ≠ '-' := by
    have all : ∀ digit < 10, digit.digitChar ≠ '-' := by decide
    exact all digit (spells.small digit (by simp))
  rw [List.map_cons, List.cons_append] at unsigned ⊢
  unfold number?
  split
  · rename_i same
    exact absurd (List.cons_eq_cons.mp same).1 different
  · exact unsigned

/-! ## Values -/

/-- The text opens neither with a gap nor with the end of a list or record. -/
def Opens (text : List Char) : Prop :=
  ∃ c later, text = c :: later ∧ isSpace c = false ∧ c ∉ [']', '}']

/-- The text is read as this shape wherever it stands, with two steps for each of its characters. -/
structure Reads (text : List Char) (raw : Raw) : Prop where
  opens : Opens text
  value? : ∀ fuel rest, 2 * text.length ≤ fuel → Behind rest →
    value? fuel (text ++ rest) = some (raw, rest)

theorem opens_string (text : String) : Opens (Json.writeString text) :=
  ⟨_, _, rfl, rfl, by decide⟩

theorem reads_string (text : String) : Reads (Json.writeString text) (.string (spelled text)) where
  opens := opens_string text
  value? fuel rest enough _ := by
    obtain ⟨fuel, rfl⟩ : ∃ more, fuel = more + 1 :=
      ⟨fuel - 1, by simp [Json.writeString] at enough; omega⟩
    simp [Json.writeString, Raw.value?, pieces?_flatMap_escape, spelled]

theorem reads_natural {written : List Nat} {value : Nat} (spells : Text.Spells written value) :
    Reads (written.map Nat.digitChar) (natural written) := by
  obtain ⟨digit, later, rfl⟩ := List.exists_cons_of_ne_nil spells.nonempty
  have plain : isSpace digit.digitChar = false ∧
      digit.digitChar ∉ ['n', 't', 'f', '\x22', '[', '{', ']', '}'] := by
    have all : ∀ digit < 10, isSpace digit.digitChar = false ∧
      digit.digitChar ∉ ['n', 't', 'f', '\x22', '[', '{', ']', '}'] := by decide
    exact all digit (spells.small digit (by simp))
  simp only [List.mem_cons, List.not_mem_nil, or_false, not_or] at plain
  constructor
  case opens => exact ⟨_, _, rfl, plain.1, by simp [plain]⟩
  case value? =>
    intro fuel rest enough behind
    obtain ⟨fuel, rfl⟩ : ∃ more, fuel = more + 1 := ⟨fuel - 1, by simp at enough; omega⟩
    have read := number?_append spells behind
    rw [List.map_cons, List.cons_append] at read ⊢
    simp [Raw.value?, plain, read]

/-! ## Lists and records -/

def Gap (gap : List Char) : Prop := ∀ c ∈ gap, c ∈ [' ', '\n']

theorem skipSpace_shown {c : Char} (shown : isSpace c = false) (rest : List Char) :
    skipSpace (c :: rest) = c :: rest :=
  List.dropWhile_cons_of_neg (by simp [shown])

theorem skipSpace_bracket {c : Char} (bracket : c ∈ [']', '}']) (rest : List Char) :
    skipSpace (c :: rest) = c :: rest := by
  have all : ∀ c ∈ [']', '}'], isSpace c = false := by simp [isSpace]
  exact skipSpace_shown (all c bracket) rest

theorem behind_mark {c : Char} (mark : c ∈ [',', ']', '}']) (rest : List Char) :
    Behind (c :: rest) := by
  intro first member
  obtain rfl : c = first := by simpa using member
  exact .tail _ (.tail _ mark)

section Gap

variable {gap : List Char} (empty : Gap gap)
include empty

theorem skipSpace_gap (rest : List Char) : skipSpace (gap ++ rest) = skipSpace rest := by
  have all : ∀ c ∈ [' ', '\n'], isSpace c = true := by simp [isSpace]
  exact List.dropWhile_append_of_pos fun c member => all c (empty c member)

theorem behind_gap {c : Char} (mark : c ∈ [',', ']', '}']) (rest : List Char) :
    Behind (gap ++ c :: rest) := by
  cases gap with
  | nil => exact behind_mark mark rest
  | cons d gap =>
    intro first member
    obtain rfl : d = first := by simpa using member
    have blank := empty d (.head _)
    simp only [List.mem_cons, List.not_mem_nil, or_false] at blank ⊢
    exact blank.imp_right .inl

theorem Opens.skipSpace_gap {text : List Char} (opens : Opens text) (rest : List Char) :
    skipSpace (gap ++ (text ++ rest)) = text ++ rest := by
  obtain ⟨c, later, rfl, shown, -⟩ := opens
  rw [Raw.skipSpace_gap empty, List.cons_append, skipSpace_shown shown]

end Gap

theorem Opens.append {text : List Char} (opens : Opens text) (rest : List Char) :
    Opens (text ++ rest) := by
  obtain ⟨c, later, rfl, shown⟩ := opens
  exact ⟨c, later ++ rest, rfl, shown⟩

theorem Opens.joined {part : List Char} (opens : Opens part) (separator : List Char)
    (parts : List (List Char)) : Opens (Json.joined separator (part :: parts)) := by
  cases parts with
  | nil => exact opens
  | cons second parts => exact (opens.append _).append _

/-- The text is read as this part of a list or record with that closing bracket, whether it is the
last part or a comma and others follow. -/
structure Part {α : Type} (right : Char) (parts? : Nat → List Char → Option (List α × List Char))
    (text : List Char) (part : α) : Prop where
  opens : Opens text
  last : ∀ fuel {rest more}, 2 * text.length ≤ fuel → Behind rest → skipSpace rest = right :: more →
    parts? (fuel + 1) (text ++ rest) = some ([part], more)
  next : ∀ fuel {rest more}, 2 * text.length ≤ fuel → Behind rest → skipSpace rest = ',' :: more →
    parts? (fuel + 1) (text ++ rest) =
      (parts? fuel (skipSpace more)).map fun (parts, rest) => (part :: parts, rest)

theorem Reads.part {text : List Char} {raw : Raw} (reads : Reads text raw) :
    Part ']' items? text raw where
  opens := reads.opens
  last _ _ _ enough behind found := by simp [items?, reads.value? _ _ enough behind, found]
  next _ _ _ enough behind found := by simp [items?, reads.value? _ _ enough behind, found]

theorem Reads.member {text : List Char} {raw : Raw} (reads : Reads text raw) {gap : List Char}
    (empty : Gap gap) (name : String) :
    Part '}' members? (Json.writeString name ++ ':' :: (gap ++ text)) (spelled name, raw) := by
  constructor
  case opens => exact (opens_string name).append _
  all_goals
    intro fuel rest more enough behind found
    simp only [List.length_append, List.length_cons] at enough
    have value := reads.value? fuel rest (by omega) behind
    have start := reads.opens.skipSpace_gap empty rest
    simp [Json.writeString, members?, pieces?_flatMap_escape, skipSpace_shown (c := ':') rfl, start,
      value, found, spelled]

section Enclosed

variable {α : Type} {gap closing : List Char} (empty : Gap gap) (emptyEnd : Gap closing)
include empty emptyEnd

theorem parts?_joined {right : Char} (bracket : right ∈ [']', '}'])
    {parts? : Nat → List Char → Option (List α × List Char)} {texts : List (List Char)}
    {parts : List α} (reads : List.Forall₂ (Part right parts?) texts parts) (nonempty : texts ≠ [])
    (fuel : Nat) (enough : 2 * (Json.joined (',' :: gap) texts).length < fuel) (rest : List Char) :
    parts? fuel (Json.joined (',' :: gap) texts ++ (closing ++ right :: rest)) =
      some (parts, rest) := by
  induction reads generalizing fuel with
  | nil => contradiction
  | cons first others ih =>
    obtain ⟨fuel, rfl⟩ : ∃ more, fuel = more + 1 := ⟨fuel - 1, by omega⟩
    cases others with
    | nil =>
      have closed : skipSpace (closing ++ right :: rest) = right :: rest := by
        rw [skipSpace_gap emptyEnd, skipSpace_bracket bracket]
      exact first.last fuel (Nat.le_of_lt_succ enough)
        (behind_gap emptyEnd (.tail _ bracket) rest) closed
    | @cons second _ later _ following others =>
      -- the comma's own two steps pay for the step that goes on with the other parts
      simp only [Json.joined, List.length_append, List.length_cons] at enough
      have more := ih (List.cons_ne_nil _ _) fuel (by omega)
      have start := (following.opens.joined (',' :: gap) later).skipSpace_gap empty
        (closing ++ right :: rest)
      have read := first.next fuel (by omega) (behind_mark (by decide) _)
        (skipSpace_shown (c := ',') rfl (gap ++ (Json.joined (',' :: gap) (second :: later) ++
          (closing ++ right :: rest))))
      rw [start, more] at read
      simpa [Json.joined] using read

/-- A list or record whose parts are written like this. -/
def enclosed (gap closing : List Char) (left right : Char) (texts : List (List Char)) : List Char :=
  if texts = [] then [left, right]
  else left :: (gap ++ (Json.joined (',' :: gap) texts ++ (closing ++ [right])))

theorem reads_enclosed {left right : Char} (bracket : right ∈ [']', '}'])
    (shown : isSpace left = false ∧ left ∉ [']', '}'])
    (parts? : Nat → List Char → Option (List α × List Char)) {shape : List α → Raw}
    (ended : ∀ fuel {text rest}, skipSpace text = right :: rest →
      value? (fuel + 1) (left :: text) = some (shape [], rest))
    (inhabited : ∀ fuel {text c rest}, skipSpace text = c :: rest → c ≠ right →
      value? (fuel + 1) (left :: text) =
        (parts? fuel (c :: rest)).map fun (parts, rest) => (shape parts, rest))
    {texts : List (List Char)} {parts : List α}
    (reads : List.Forall₂ (Part right parts?) texts parts) :
    Reads (enclosed gap closing left right texts) (shape parts) := by
  constructor
  case opens => unfold enclosed; split <;> exact ⟨_, _, rfl, shown⟩
  case value? =>
    intro fuel rest enough behind
    unfold enclosed at enough ⊢
    cases reads with
    | nil =>
      simp only [if_true, List.length_cons] at enough
      obtain ⟨fuel, rfl⟩ : ∃ more, fuel = more + 1 := ⟨fuel - 1, by omega⟩
      exact ended fuel (skipSpace_bracket bracket rest)
    | @cons text part texts parts first others =>
      simp only [List.cons_ne_nil, if_false, List.length_cons, List.length_append] at enough
      obtain ⟨fuel, rfl⟩ : ∃ more, fuel = more + 1 := ⟨fuel - 1, by omega⟩
      have read := parts?_joined empty emptyEnd bracket (.cons first others) (List.cons_ne_nil _ _)
        fuel (by omega) rest
      have opens := first.opens.joined (',' :: gap) texts
      have start := opens.skipSpace_gap empty (closing ++ right :: rest)
      obtain ⟨c, later, joined, -, different⟩ := opens
      rw [joined, List.cons_append] at read start
      have value := inhabited fuel start fun same => different (same ▸ bracket)
      rw [read] at value
      simpa [joined] using value

theorem reads_array {texts : List (List Char)} {items : List Raw}
    (reads : List.Forall₂ Reads texts items) :
    Reads (enclosed gap closing '[' ']' texts) (.array items) := by
  apply reads_enclosed empty emptyEnd (by decide) (by decide) items?
  case ended => intro fuel text rest found; simp [Raw.value?, found]
  case inhabited => intro fuel text c rest found different; simp [Raw.value?, found, different]
  case reads => exact reads.imp fun _ _ => Reads.part

theorem reads_object {texts : List (List Char)} {members : List (List Piece × Raw)}
    (reads : List.Forall₂ (Part '}' members?) texts members) :
    Reads (enclosed gap closing '{' '}' texts) (.object members) := by
  apply reads_enclosed empty emptyEnd (by decide) (by decide) members?
  case ended => intro fuel text rest found; simp [Raw.value?, found]
  case inhabited => intro fuel text c rest found different; simp [Raw.value?, found, different]
  case reads => exact reads

end Enclosed

theorem Reads.ofText? {text : List Char} {raw : Raw} (reads : Reads text raw) :
    ofText? text = some raw := by
  have start := reads.opens.skipSpace_gap (List.forall_mem_nil _) []
  have read := reads.value? (fuelFor text) [] (by unfold fuelFor; omega) (by simp [Behind])
  simp only [List.nil_append, List.append_nil] at start read
  rw [Raw.ofText?, start, read]
  rfl

end VisibleFacets.Raw
