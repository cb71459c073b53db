import VisibleFacets.Proofs.Toml.Quoted
import VisibleFacets.Proofs.Toml.Scalar
import VisibleFacets.Settings.Toml

/-!
# Sections read back

Lines under a heading are read as the members of its table: `document?_documentText`.
-/

namespace VisibleFacets

namespace Toml

/-! ## Values -/

/-- The text is read as this value up to the end of its line. -/
structure Reads (text : List Char) (node : Node) : Prop where
  opens : ∃ c later, text = c :: later ∧ isWhite c = false
  value? : ∀ fuel depth rest, value? (fuel + 1) depth (text ++ '\n' :: rest) =
    some (node, '\n' :: rest)

theorem exists_mark (text : List Char) :
    ∃ later, quote text = '\x22' :: later ∨ quote text = '\x27' :: later := by
  unfold quote
  split
  · exact ⟨_, .inl rfl⟩
  · exact ⟨_, .inr rfl⟩
  · exact ⟨_, .inl rfl⟩
  · exact ⟨_, .inr rfl⟩

theorem reads_quote (text : String) : Reads (quote text.toList) (.string text) := by
  obtain ⟨later, mark⟩ := exists_mark text.toList
  constructor
  case opens => rcases mark with same | same <;> exact ⟨_, _, same, rfl⟩
  case value? =>
    intro fuel depth rest
    have read := quoted?_quote text.toList rest
    rcases mark with same | same
    all_goals
      rw [same, List.cons_append] at read ⊢
      simp [Toml.value?, read]

theorem reads_natural {value : Nat} (fits : value ≤ maxInteger) :
    Reads (Text.showNatural value) (.integer value) := by
  have read (rest : List Char) := scalar?_showNatural fits rest
  obtain ⟨written, spells, shown⟩ := Text.exists_spells value
  obtain ⟨digit, later, rfl⟩ := List.exists_cons_of_ne_nil spells.nonempty
  have opens := digit_opens (spells.small digit (.head _))
  simp only [List.mem_cons, not_or] at opens
  rw [shown, List.map_cons] at read ⊢
  constructor
  case opens => exact ⟨_, _, rfl, by simp [isWhite, opens]⟩
  case value? =>
    intro fuel depth rest
    have found := read rest
    rw [List.cons_append] at found ⊢
    simp [Toml.value?, opens, found]

/-! ## Keys -/

def Bare (key : String) : Prop := key.toList ≠ [] ∧ key.toList.all isBare = true

instance (key : String) : Decidable (Bare key) := inferInstanceAs (Decidable (_ ∧ _))

theorem line_append (key : String) (text rest : List Char) : Settings.line key text ++ rest =
    key.toList ++ ' ' :: '=' :: ' ' :: (text ++ '\n' :: rest) := by
  simp [Settings.line]

section Key

variable {key : String} (bare : Bare key)
include bare

/-- A bare key opens no quotation, heading, comment or gap. -/
theorem Bare.opens : ∃ c later, key.toList = c :: later ∧
    c ∉ ['\x22', '\x27', '[', '#', ' ', '\t', '\n', '\r'] := by
  obtain ⟨nonempty, all⟩ := bare
  obtain ⟨c, later, shape⟩ := List.exists_cons_of_ne_nil nonempty
  refine ⟨c, later, shape, fun mark => ?_⟩
  rw [shape, List.all_cons, Bool.and_eq_true] at all
  have none : ∀ c ∈ ['\x22', '\x27', '[', '#', ' ', '\t', '\n', '\r'], isBare c = false := by
    simp [isBare]
  rw [none c mark] at all
  cases all.1

theorem simpleKey?_append {c : Char} (ended : isBare c = false) (rest : List Char) :
    simpleKey? (key.toList ++ c :: rest) = some (key.toList, c :: rest) := by
  have all := List.all_eq_true.mp bare.2
  have taken : (key.toList ++ c :: rest).takeWhile isBare = key.toList := by
    rw [List.takeWhile_append_of_pos all, List.takeWhile_cons_of_neg (by simp [ended]),
      List.append_nil]
  have left : (key.toList ++ c :: rest).dropWhile isBare = c :: rest := by
    rw [List.dropWhile_append_of_pos all, List.dropWhile_cons_of_neg (by simp [ended])]
  obtain ⟨first, later, shape, opens⟩ := bare.opens
  simp only [List.mem_cons, not_or] at opens
  rw [shape, List.cons_append] at taken left ⊢
  simp [simpleKey?, opens, taken, left]

theorem skipWhite_append (rest : List Char) :
    skipWhite (key.toList ++ rest) = key.toList ++ rest := by
  obtain ⟨first, later, shape, opens⟩ := bare.opens
  simp only [List.mem_cons, not_or] at opens
  rw [shape, List.cons_append]
  exact List.dropWhile_cons_of_neg (by simp [isWhite, opens])

theorem key?_append {c : Char} (ended : isBare c = false) (rest : List Char)
    (last : ∀ later, skipWhite (c :: rest) ≠ '.' :: later) :
    key? (key.toList ++ c :: rest) = some ([key], skipWhite (c :: rest)) := by
  have part := simpleKey?_append bare ended rest
  have parts : keyParts? ((key.toList ++ c :: rest).length + 1) (key.toList ++ c :: rest) =
      some ([key], skipWhite (c :: rest)) := by
    simp [keyParts?, skipWhite_append bare, part]
  rw [key?, parts]
  rfl

/-! ## Lines -/

theorem assignment?_line {text : List Char} {node : Node} (reads : Reads text node)
    (rest : List Char) :
    assignment? (Settings.line key text ++ rest) = some (([key], node), rest) := by
  have found := key?_append bare (c := ' ') (by decide) ('=' :: ' ' :: (text ++ '\n' :: rest))
    fun later same => by cases same
  have skipped : skipWhite (' ' :: '=' :: ' ' :: (text ++ '\n' :: rest)) =
      '=' :: ' ' :: (text ++ '\n' :: rest) := rfl
  have start : skipWhite (' ' :: (text ++ '\n' :: rest)) = text ++ '\n' :: rest := by
    obtain ⟨c, later, rfl, shown⟩ := reads.opens
    rw [skipWhite, List.dropWhile_cons_of_pos rfl]
    exact List.dropWhile_cons_of_neg (by simp [shown])
  have ended : lineRest? ('\n' :: rest) = some rest := rfl
  rw [line_append, assignment?, found, skipped]
  simp [start, reads.value?, ended]

theorem lines?_line {text : List Char} {node : Node} (reads : Reads text node) (fuel : Nat)
    (progress : Progress) (rest : List Char) :
    lines? (fuel + 1) progress (Settings.line key text ++ rest) =
      (progress.members.within? (Members.assign? [key] node) progress.heading).bind fun members =>
        lines? fuel { progress with members } rest := by
  have assigned := assignment?_line bare reads rest
  have start := skipWhite_append bare (' ' :: '=' :: ' ' :: (text ++ '\n' :: rest))
  obtain ⟨first, later, shape, opens⟩ := bare.opens
  simp only [List.mem_cons, not_or] at opens
  rw [line_append] at assigned ⊢
  rw [shape, List.cons_append] at assigned start ⊢
  simp [lines?, start, opens, newline?, assigned]

theorem lines?_heading (fuel : Nat) (progress : Progress) (rest : List Char) :
    lines? (fuel + 1) progress (Settings.heading key ++ rest) =
      (progress.members.openTable? [key]).bind fun members =>
        lines? fuel ⟨members, [key]⟩ rest := by
  have found := key?_append bare (c := ']') (by decide) ('\n' :: rest) fun later same => by
    cases same
  have opened : header? [']'] (key.toList ++ ']' :: '\n' :: rest) = some ([key], rest) := by
    rw [header?, found]
    rfl
  have start : skipWhite ('[' :: (key.toList ++ ']' :: '\n' :: rest)) =
    '[' :: (key.toList ++ ']' :: '\n' :: rest) := rfl
  obtain ⟨first, later, shape, opens⟩ := bare.opens
  simp only [List.mem_cons, not_or] at opens
  rw [shape, List.cons_append] at opened start 
  simp [Settings.heading, lines?, shape, start, opens, opened]

end Key

/-! ## Tables -/

section Fresh

variable {members : Members} {key : String} (fresh : key ∉ members.map Prod.fst)
include fresh

theorem lookup_fresh : members.lookup key = none := by
  rw [List.lookup_eq_none_iff]
  intro member present
  rw [bne_iff_ne]
  rintro rfl
  exact fresh (List.mem_map_of_mem present)

theorem assign?_fresh (node : Node) :
    Members.assign? [key] node members = some (members ++ [(key, node)]) := by
  rw [Members.assign?, lookup_fresh fresh]
  rfl

theorem openTable?_fresh :
    members.openTable? [key] = some (members ++ [(key, .table .written [])]) := by
  change members.openHere? key = _
  rw [Members.openHere?, lookup_fresh fresh]

theorem replace_fresh (node : Node) : members.replace key node = members := by
  have same : ∀ member ∈ members, (if member.1 = key then (key, node) else member) = member := by
    intro member present
    have other : member.1 ≠ key := fun named => fresh (named ▸ List.mem_map_of_mem present)
    rw [if_neg other]
  rw [Members.replace, List.map_congr_left same, List.map_id']

theorem within?_last (change : Members → Option Members) (inner : Members) :
    Members.within? change [key] (members ++ [(key, .table .written inner)]) =
      (change inner).map fun inner => members ++ [(key, .table .written inner)] := by
  have found : List.lookup key (members ++ [(key, .table .written inner)]) =
      some (.table .written inner) := by
    rw [List.lookup_append, lookup_fresh fresh, Option.none_or, Dict.lookup_entry, if_pos rfl]
  have replaced (more : Members) :
      Members.replace (members ++ [(key, .table .written inner)]) key (.table .written more) =
        members ++ [(key, .table .written more)] := by
    have same := replace_fresh fresh (.table .written more)
    rw [Members.replace] at same ⊢
    rw [List.map_append, same]
    simp
  rw [Members.within?]
  simp only [found, replaced]
  rfl

end Fresh

/-! ## Sections -/

structure Assignment where
  key : String
  text : List Char
  node : Node

namespace Assignment

def line (assignment : Assignment) : List Char := Settings.line assignment.key assignment.text

def member (assignment : Assignment) : String × Node := (assignment.key, assignment.node)

structure Valid (assignment : Assignment) : Prop where
  bare : Bare assignment.key
  reads : Reads assignment.text assignment.node

def ofText (key text : String) : Assignment := ⟨key, quote text.toList, .string text⟩

def ofNat (key : String) (value : Nat) : Assignment := ⟨key, Text.showNatural value, .integer value⟩

theorem valid_ofText {key : String} (bare : Bare key) (text : String) : (ofText key text).Valid :=
  ⟨bare, reads_quote text⟩

theorem valid_ofNat {key : String} (bare : Bare key) {value : Nat} (fits : value ≤ maxInteger) :
    (ofNat key value).Valid :=
  ⟨bare, reads_natural fits⟩

end Assignment

structure Section where
  name : String
  assignments : List Assignment

namespace Section

def text (part : Section) : List Char :=
  Settings.heading part.name ++ part.assignments.flatMap Assignment.line

def table (part : Section) : String × Node :=
  (part.name, .table .written (part.assignments.map Assignment.member))

structure Valid (part : Section) : Prop where
  bare : Bare part.name
  assignments : ∀ assignment ∈ part.assignments, assignment.Valid
  distinct : (part.assignments.map Assignment.key).Nodup

theorem length_text (part : Section) : part.assignments.length + 1 ≤ part.text.length := by
  have lines : part.assignments.length ≤ (part.assignments.flatMap Assignment.line).length := by
    induction part.assignments with
    | nil => exact Nat.le_refl 0
    | cons assignment assignments ih =>
      rw [List.flatMap_cons, List.length_append, List.length_cons]
      have written : 0 < assignment.line.length := by
        simp only [Assignment.line, Settings.line, List.length_append, List.length_cons]
        omega
      omega
  simp only [text, Settings.heading, List.length_append, List.length_cons]
  omega

end Section

theorem lines?_assigned {earlier : Members} {name : String} (fresh : name ∉ earlier.map Prod.fst)
    {assignments : List Assignment} (valid : ∀ assignment ∈ assignments, assignment.Valid)
    (inner : Members) (distinct : (inner.map Prod.fst ++ assignments.map Assignment.key).Nodup)
    (fuel : Nat) (rest : List Char) :
    lines? (fuel + assignments.length) ⟨earlier ++ [(name, .table .written inner)], [name]⟩
        (assignments.flatMap Assignment.line ++ rest) =
      lines? fuel
        ⟨earlier ++ [(name, .table .written (inner ++ assignments.map Assignment.member))], [name]⟩
        rest := by
  induction assignments generalizing inner with
  | nil => simp
  | cons first assignments ih =>
    obtain ⟨here, valid⟩ := List.forall_mem_cons.mp valid
    have absent : first.key ∉ inner.map Prod.fst := by
      rw [List.map_cons] at distinct
      exact fun member => (List.nodup_append.mp distinct).2.2 _ member _ (.head _) rfl
    have next := ih valid (inner ++ [first.member]) (by simpa [Assignment.member] using distinct)
    rw [List.flatMap_cons, List.append_assoc, List.length_cons, ← Nat.add_assoc, Assignment.line,
      lines?_line here.bare here.reads, within?_last fresh, assign?_fresh absent]
    simpa [Assignment.member] using next

theorem lines?_section {earlier : Members} {part : Section} (valid : part.Valid)
    (fresh : part.name ∉ earlier.map Prod.fst) (heading : List String) (fuel : Nat)
    (rest : List Char) :
    lines? (fuel + part.assignments.length + 1) ⟨earlier, heading⟩ (part.text ++ rest) =
      lines? fuel ⟨earlier ++ [part.table], [part.name]⟩ rest := by
  have distinct : ([] ++ part.assignments.map Assignment.key).Nodup := valid.distinct
  rw [Section.text, List.append_assoc, lines?_heading valid.bare, openTable?_fresh fresh,
    Option.bind_some, lines?_assigned fresh valid.assignments [] distinct, List.nil_append]
  rfl

/-! ## Documents -/

/-- The sections with empty lines between them. -/
def documentText : List Section → List Char
  | [] => []
  | [part] => part.text
  | part :: next :: rest => part.text ++ '\n' :: documentText (next :: rest)

theorem lines?_documentText {parts : List Section} (valid : ∀ part ∈ parts, part.Valid)
    (earlier : Members) (distinct : (earlier.map Prod.fst ++ parts.map Section.name).Nodup)
    (heading : List String) (fuel : Nat) (enough : (documentText parts).length < fuel) :
    lines? fuel ⟨earlier, heading⟩ (documentText parts) =
      some (earlier ++ parts.map Section.table) := by
  induction parts generalizing earlier heading fuel with
  | nil =>
    obtain ⟨fuel, rfl⟩ : ∃ more, fuel = more + 1 := ⟨fuel - 1, by omega⟩
    rw [List.map_nil, List.append_nil]
    rfl
  | cons part parts ih =>
    obtain ⟨here, valid⟩ := List.forall_mem_cons.mp valid
    have fresh : part.name ∉ earlier.map Prod.fst := by
      rw [List.map_cons] at distinct
      exact fun member => (List.nodup_append.mp distinct).2.2 _ member _ (.head _) rfl
    have length := part.length_text
    cases parts with
    | nil =>
      rw [documentText] at enough ⊢
      obtain ⟨fuel, rfl⟩ : ∃ more, fuel = more + 1 + part.assignments.length + 1 :=
        ⟨fuel - part.assignments.length - 2, by omega⟩
      have read := lines?_section here fresh heading (fuel + 1) []
      rw [List.append_nil] at read
      rw [read]
      rfl
    | cons next rest =>
      rw [documentText, List.length_append, List.length_cons] at enough
      obtain ⟨fuel, rfl⟩ : ∃ more, fuel = more + 1 + part.assignments.length + 1 :=
        ⟨fuel - part.assignments.length - 2, by omega⟩
      have others := ih valid (earlier ++ [part.table]) (by simpa [Section.table] using distinct)
        [part.name] fuel (by omega)
      have blank (progress : Progress) (rest : List Char) :
          lines? (fuel + 1) progress ('\n' :: rest) = lines? fuel progress rest := rfl
      rw [documentText, lines?_section here fresh, blank, others, List.append_assoc,
        List.singleton_append, ← List.map_cons]

theorem document?_documentText {parts : List Section} (valid : ∀ part ∈ parts, part.Valid)
    (distinct : (parts.map Section.name).Nodup) :
    document? (documentText parts) = some (parts.map Section.table) := by
  have unmarked : skipMark (documentText parts) = documentText parts := by
    cases parts with
    | nil => rfl
    | cons part rest => cases rest <;> rfl
  rw [document?, unmarked, lines?_documentText valid [] distinct [] _ (Nat.lt_succ_self _),
    List.nil_append]

end Toml

end VisibleFacets
