import VisibleFacets.Toml.Quoted

/-!
# Quoted texts read back

Whatever a text holds, and in whichever of the four ways it is quoted, it is found again up to the
end of its line: `quoted?_quote`.
-/

namespace VisibleFacets.Toml

/-! ## Characters between quotation marks -/

/-- A character that is no quotation mark standing for itself. -/
def escapeChar (lines : Bool) (c : Char) : List Char :=
  if c = '\x22' then ['\\', c]
  else if c = '\\' then ['\\', '\\']
  else if needsCode c || c = '\t' || (c = '\n' && !lines) then escapeControl c
  else [c]

theorem escapeText_cons (lines : Bool) (allowed run : Nat) (c : Char) (rest : List Char) :
    escapeText lines allowed run (c :: rest) =
      if c = '\x22' ∧ run < allowed then c :: escapeText lines allowed (run + 1) rest
      else escapeChar lines c ++ escapeText lines allowed 0 rest := by
  rw [escapeText, escapeChar]
  repeat' split
  all_goals simp_all

theorem codePoint?_upperHex {code : Nat} (control : code < 0x20 ∨ code = 0x7F) :
    codePoint? ['0', '0', upperHex (code / 16), upperHex (code % 16)] = some (Char.ofNat code) := by
  have all : ∀ code < 0x80, codePoint? ['0', '0', upperHex (code / 16), upperHex (code % 16)] =
      some (Char.ofNat code) := by decide
  exact all code (by omega)

/-- A character stands for itself or is escaped. -/
inductive Stands (lines : Bool) (c : Char) : List Char → Prop where
  | escaped {letter : Char} {letters : List Char}
    (shown : letter ∈ ['\x22', '\\', 'b', 't', 'n', 'f', 'r', 'u'])
    (read : ∀ rest, escape? (letter :: (letters ++ rest)) = some (c, rest)) :
    Stands lines c ('\\' :: letter :: letters)
  | itself (notQuote : c ≠ '\x22') (notBackslash : c ≠ '\\')
    (shown : isPlain c ∨ c = '\n' ∧ lines = true) : Stands lines c [c]

theorem Stands.length_pos {lines : Bool} {c : Char} {written : List Char}
    (stands : Stands lines c written) : 0 < written.length := by
  cases stands <;> exact Nat.succ_pos _

theorem Stands.opens {lines : Bool} {c : Char} {written : List Char}
    (stands : Stands lines c written) :
    ∃ first letters, written = first :: letters ∧ first ≠ '\x22' := by
  cases stands with
  | escaped => exact ⟨_, _, rfl, by decide⟩
  | itself notQuote => exact ⟨_, _, rfl, notQuote⟩

theorem stands_escapeControl {c : Char} (control : needsCode c ∨ c = '\t' ∨ c = '\n')
    (lines : Bool) : Stands lines c (escapeControl c) := by
  fun_cases escapeControl c with
  | case6 =>
    have code : c.toNat < 0x20 ∨ c.toNat = 0x7F := by simp_all [needsCode, isPlain]
    exact .escaped (by decide) fun rest => by simp [escape?, codePoint?_upperHex code]
  | _ => subst_vars; exact .escaped (by decide) fun _ => rfl

theorem stands_escapeChar (lines : Bool) (c : Char) : Stands lines c (escapeChar lines c) := by
  fun_cases escapeChar lines c with
  | case1 quote => subst quote; exact .escaped (by decide) fun _ => rfl
  | case2 => subst_vars; exact .escaped (by decide) fun _ => rfl
  | case3 _ _ control =>
    simp only [Bool.or_eq_true, Bool.and_eq_true, decide_eq_true_eq] at control
    exact stands_escapeControl (by grind) lines
  | case4 notQuote notBackslash shown =>
    refine .itself notQuote notBackslash ?_
    simp [needsCode] at shown
    by_cases plain : isPlain c = true
    · exact .inl plain
    · exact .inr (by simp_all)

theorem newline?_of_isPlain {c : Char} (plain : isPlain c = true) (rest : List Char) :
    newline? (c :: rest) = none := by
  unfold newline?
  split
  · simp_all [isPlain]
  · simp_all [isPlain]
  · rfl

/-! ## Between quotation marks -/

theorem basicWithin?_stands {c : Char} {written : List Char} (stands : Stands false c written)
    (fuel : Nat) (rest : List Char) :
    basicWithin? (fuel + 1) (written ++ rest) = (basicWithin? fuel rest).map (before c) := by
  cases stands with
  | escaped shown read => simp [basicWithin?, read]
  | itself notQuote notBackslash shown =>
    have plain : isPlain c = true := shown.resolve_right fun line => Bool.noConfusion line.2
    simp [basicWithin?, plain]

theorem basicWithin?_escapeText (text rest : List Char) {fuel : Nat}
    (enough : (escapeText false 0 0 text).length < fuel) :
    basicWithin? fuel (escapeText false 0 0 text ++ '\x22' :: rest) = some (text, rest) := by
  induction text generalizing fuel with
  | nil =>
    obtain ⟨fuel, rfl⟩ : ∃ more, fuel = more + 1 := ⟨fuel - 1, by omega⟩
    rfl
  | cons c text ih =>
    have stands := stands_escapeChar false c
    have positive := stands.length_pos
    rw [escapeText_cons, if_neg fun mark => Nat.not_lt_zero _ mark.2] at enough ⊢
    rw [List.length_append] at enough
    obtain ⟨fuel, rfl⟩ : ∃ more, fuel = more + 1 := ⟨fuel - 1, by omega⟩
    rw [List.append_assoc, basicWithin?_stands stands, ih (by omega), Option.map_some, before]

/-! ## Over several lines

Up to two marks in a row belong to the text, so a run of marks is judged where it ends. -/

/-- Reads to three marks at the end of a line. -/
structure Multiline (mark : Char) (read : Nat → List Char → Option (List Char × List Char)) :
    Prop where
  single : ∀ fuel {rest}, (∀ more, rest ≠ mark :: mark :: more) →
    read (fuel + 1) (mark :: rest) = (read fuel rest).map (before mark)
  closing : ∀ fuel {run} rest, run ≤ 2 →
    read (fuel + 1) (List.replicate run mark ++ mark :: mark :: mark :: '\n' :: rest) =
      some (List.replicate run mark, '\n' :: rest)

/-- A text with so many marks just before it, and how it is written. -/
inductive Body (mark : Char) (read : Nat → List Char → Option (List Char × List Char)) :
    Nat → List Char → List Char → Prop where
  | nil {run : Nat} : Body mark read run [] []
  | single {run : Nat} {text written : List Char} (few : run < 2)
    (rest : Body mark read (run + 1) text written) :
    Body mark read run (mark :: text) (mark :: written)
  | other {run : Nat} {c first : Char} {letters text written : List Char}
    (different : first ≠ mark) (step : ∀ fuel rest,
      read (fuel + 1) (first :: letters ++ rest) = (read fuel rest).map (before c))
    (rest : Body mark read 0 text written) :
    Body mark read run (c :: text) (first :: letters ++ written)

section Multiline

variable {mark : Char} {read : Nat → List Char → Option (List Char × List Char)}
  (multiline : Multiline mark read)
include multiline

theorem Multiline.marks {run : Nat} (few : run ≤ 2) {c : Char} (other : c ≠ mark) (fuel : Nat)
    (rest : List Char) :
    read (fuel + run) (List.replicate run mark ++ c :: rest) =
      (read fuel (c :: rest)).map fun (text, rest) => (List.replicate run mark ++ text, rest) := by
  induction run with
  | zero => simp
  | succ run ih =>
    have apart : ∀ more, List.replicate run mark ++ c :: rest ≠ mark :: mark :: more := by
      obtain rfl | rfl : run = 0 ∨ run = 1 := by omega
      all_goals simp [other]
    rw [List.replicate_succ, List.cons_append, ← Nat.add_assoc, multiline.single _ apart,
      ih (by omega), Option.map_map]
    rfl

theorem Multiline.body {run : Nat} {text written : List Char}
    (body : Body mark read run text written) (few : run ≤ 2) (fuel : Nat) (enough : run + written.length < fuel) (rest : List Char) :
    read fuel (List.replicate run mark ++ (written ++ mark :: mark :: mark :: '\n' :: rest)) =
      some (List.replicate run mark ++ text, '\n' :: rest) := by
  induction body generalizing fuel with
  | nil =>
    obtain ⟨fuel, rfl⟩ : ∃ more, fuel = more + 1 := ⟨fuel - 1, by omega⟩
    rw [List.append_nil]
    exact multiline.closing fuel rest few
  | single fewer _ ih =>
    -- the mark joins the run in front of the text
    rw [List.length_cons] at enough
    have next := ih fewer fuel (by omega)
    rwa [List.replicate_succ', List.append_assoc, List.append_assoc] at next
  | @other run c first letters text written different step _ ih =>
    -- the run ends here, and all of it belongs to the text
    rw [List.length_append, List.length_cons] at enough
    obtain ⟨fuel, rfl⟩ : ∃ more, fuel = more + 1 + run := ⟨fuel - 1 - run, by omega⟩
    have next := ih (Nat.zero_le 2) fuel (by omega)
    have here := step fuel (written ++ mark :: mark :: mark :: '\n' :: rest)
    rw [List.replicate_zero, List.nil_append, List.nil_append] at next
    rw [next, List.cons_append] at here
    rw [List.append_assoc, List.cons_append, multiline.marks few different, here]
    rfl

end Multiline

theorem multilineBasicWithin?_stands {c : Char} {written : List Char}
    (stands : Stands true c written) (fuel : Nat) (rest : List Char) :
    multilineBasicWithin? (fuel + 1) (written ++ rest) =
      (multilineBasicWithin? fuel rest).map (before c) := by
  cases stands with
  | @escaped letter letters shown read =>
    have gap : newline? (skipWhite (letter :: (letters ++ rest))) = none := by
      have all : ∀ letter ∈ ['\x22', '\\', 'b', 't', 'n', 'f', 'r', 'u'], ∀ rest,
        newline? (skipWhite (letter :: rest)) = none := by simp [skipWhite, isWhite, newline?]
      exact all letter shown _
    simp [multilineBasicWithin?, read, gap]
  | itself notQuote notBackslash shown =>
    rcases shown with plain | ⟨rfl, -⟩
    · have sameLine := newline?_of_isPlain plain rest
      simp [multilineBasicWithin?, notQuote, plain, sameLine]
    · rfl

theorem multiline_basic : Multiline '\x22' multilineBasicWithin? where
  single fuel rest apart := by
    rw [multilineBasicWithin?]
    all_goals exact fun _ same => apart _ same
  closing fuel run rest few := by
    match run with
    | 0 => rfl
    | 1 => rfl
    | 2 => rfl

theorem body_escapeText (text : List Char) (run : Nat) :
    Body '\x22' multilineBasicWithin? run text (escapeText true 2 run text) := by
  induction text generalizing run with
  | nil => exact .nil
  | cons c text ih =>
    rw [escapeText_cons]
    split
    · rename_i mark
      obtain ⟨rfl, few⟩ := mark
      exact .single few (ih _)
    · have stands := stands_escapeChar true c
      obtain ⟨first, letters, written, different⟩ := stands.opens
      rw [written] at stands ⊢
      exact .other different (multilineBasicWithin?_stands stands) (ih 0)

/-! ## Between apostrophes -/

theorem literal?_append {text : List Char} (plain : ∀ c ∈ text, isPlain c = true)
    (without : '\x27' ∉ text) (rest : List Char) :
    literal? (text ++ '\x27' :: rest) = some (text, rest) := by
  induction text with
  | nil => rfl
  | cons c text ih =>
    obtain ⟨here, plain⟩ := List.forall_mem_cons.mp plain
    obtain ⟨different, without⟩ := not_or.mp (mt List.mem_cons.mpr without)
    simp [literal?, Ne.symm different, here, ih plain without, before]

/-- Counts the marks that end the text so far, and the most of them that stood in a row. -/
def countRun (mark : Char) (counts : Nat × Nat) (c : Char) : Nat × Nat :=
  if c = mark then (max counts.1 (counts.2 + 1), counts.2 + 1) else (counts.1, 0)

theorem longestRun_eq (mark : Char) (text : List Char) :
    longestRun mark text = (text.foldl (countRun mark) (0, 0)).1 := rfl

theorem le_countRun (mark : Char) (counts : Nat × Nat) (text : List Char) :
    counts.1 ≤ (text.foldl (countRun mark) counts).1 := by
  induction text generalizing counts with
  | nil => exact Nat.le_refl _
  | cons c text ih =>
    refine Nat.le_trans ?_ (ih _)
    unfold countRun
    split
    · exact Nat.le_max_left _ _
    · exact Nat.le_refl _

theorem notMem_of_longestRun {mark : Char} {text : List Char} (none : longestRun mark text = 0) :
    mark ∉ text := by
  intro member
  obtain ⟨earlier, later, rfl⟩ := List.append_of_mem member
  have counted := le_countRun mark (countRun mark (earlier.foldl (countRun mark) (0, 0)) mark) later
  rw [longestRun_eq, List.foldl_append, List.foldl_cons] at none
  rw [none, countRun, if_pos rfl] at counted
  omega

theorem multiline_literal : Multiline '\x27' fun _ => multilineLiteralBody? where
  single fuel rest apart := by simp [multilineLiteralBody?, isPlain, apart]
  closing fuel run rest few := by
    match run with
    | 0 => rfl
    | 1 => rfl
    | 2 => rfl

theorem multilineLiteralBody?_cons {c : Char} (other : c ≠ '\x27') (shown : c = '\n' ∨ isPlain c)
    (rest : List Char) :
    multilineLiteralBody? (c :: rest) = (multilineLiteralBody? rest).map (before c) := by
  have noReturn : c ≠ '\r' := by
    rintro rfl
    simp [isPlain] at shown
  simp [multilineLiteralBody?, other, noReturn, shown]

theorem body_literal {text : List Char} (shown : ∀ c ∈ text, c = '\n' ∨ isPlain c)
    (most run : Nat) (few : (text.foldl (countRun '\x27') (most, run)).1 ≤ 2) :
    Body '\x27' (fun _ => multilineLiteralBody?) run text text := by
  induction text generalizing run most with
  | nil => exact .nil
  | cons c text ih =>
    obtain ⟨here, shown⟩ := List.forall_mem_cons.mp shown
    rw [List.foldl_cons] at few
    by_cases mark : c = '\x27'
    · have counts : countRun '\x27' (most, run) c = (max most (run + 1), run + 1) := if_pos mark
      have longest : max most (run + 1) ≤ _ := le_countRun '\x27' (_, run + 1) text
      rw [counts] at few
      rw [mark]
      exact .single (by omega) (ih shown _ _ few)
    · have counts : countRun '\x27' (most, run) c = (most, 0) := if_neg mark
      rw [counts] at few
      change Body _ _ run (c :: text) (c :: [] ++ text)
      exact .other mark (fun _ => multilineLiteralBody?_cons mark here) (ih shown _ _ few)

/-! ## Every quotation -/

theorem shown_of_needsCode {text : List Char} (plain : ¬text.any needsCode = true) :
    ∀ c ∈ text, c = '\n' ∨ isPlain c = true := by
  intro c member
  have uncoded := List.any_eq_false.mp (Bool.not_eq_true _ ▸ plain) c member
  by_cases shown : isPlain c = true
  · exact .inr shown
  · exact .inl (by simpa [needsCode, shown] using uncoded)

theorem quotationFor_literal {text : List Char} (literal : quotationFor text = .literal) :
    (∀ c ∈ text, isPlain c = true) ∧ '\x27' ∉ text := by
  revert literal
  fun_cases quotationFor text with
  | case4 apostrophes _ _ newline uncoded _ bare =>
    intro _
    simp only [Bool.and_eq_true, decide_eq_true_eq, Bool.not_eq_true', apostrophes, newline,
      List.contains_eq_mem, decide_eq_false_iff_not] at bare
    refine ⟨fun c member => ?_, notMem_of_longestRun bare.1⟩
    exact (shown_of_needsCode uncoded c member).resolve_left fun line => bare.2 (line ▸ member)
  | _ => intro literal; cases literal

theorem quotationFor_multilineLiteral {text : List Char}
    (literal : quotationFor text = .multilineLiteral) :
    (∀ c ∈ text, c = '\n' ∨ isPlain c = true) ∧ longestRun '\x27' text ≤ 2 := by
  revert literal
  fun_cases quotationFor text with
  | case6 _ _ _ _ uncoded _ _ _ few =>
    exact fun _ => ⟨shown_of_needsCode uncoded, few⟩
  | _ => intro literal; cases literal

/-- The line end that a text of several lines begins with is none of its own. -/
theorem skipFirstNewline_firstLine {text body : List Char}
    (opens : '\n' ∉ text → newline? body = none) :
    skipFirstNewline (firstLine text ++ body) = body := by
  unfold firstLine skipFirstNewline
  split
  · rfl
  · rename_i sameLine
    rw [List.nil_append, opens (by simpa using sameLine)]
    rfl

theorem newline?_escapeText {text : List Char} (sameLine : '\n' ∉ text) (run : Nat)
    (rest : List Char) : newline? (escapeText true 2 run text ++ '\x22' :: rest) = none := by
  cases text with
  | nil => rfl
  | cons c text =>
    rw [escapeText_cons]
    split
    · rename_i mark
      rw [mark.1]
      rfl
    · have stands := stands_escapeChar true c
      rw [List.append_assoc]
      generalize escapeChar true c = written at stands
      cases stands with
      | escaped => rfl
      | itself _ _ shown =>
        have plain := shown.resolve_right fun line => sameLine (line.1 ▸ .head _)
        exact newline?_of_isPlain plain _

theorem newline?_append {text : List Char} (shown : ∀ c ∈ text, c = '\n' ∨ isPlain c = true)
    (sameLine : '\n' ∉ text) (rest : List Char) : newline? (text ++ '\x27' :: rest) = none := by
  cases text with
  | nil => rfl
  | cons c text =>
    have plain := (shown c (.head _)).resolve_left fun line => sameLine (line ▸ .head _)
    exact newline?_of_isPlain plain _

theorem basic?_escapeText (text rest : List Char) :
    basic? (escapeText false 0 0 text ++ '\x22' :: rest) = some (text, rest) :=
  basicWithin?_escapeText text rest (by rw [List.length_append]; omega)

theorem multilineBasic?_escapeText (text rest : List Char) :
    multilineBasic? (firstLine text ++
      (escapeText true 2 0 text ++ '\x22' :: '\x22' :: '\x22' :: '\n' :: rest)) =
        some (text, '\n' :: rest) := by
  rw [multilineBasic?, skipFirstNewline_firstLine fun sameLine => newline?_escapeText sameLine 0 _]
  apply multiline_basic.body (body_escapeText text 0) (Nat.zero_le 2)
  simp only [List.length_append, List.length_cons]
  omega

theorem multilineLiteral?_append {text : List Char}
    (shown : ∀ c ∈ text, c = '\n' ∨ isPlain c = true) (few : longestRun '\x27' text ≤ 2)
    (rest : List Char) :
    multilineLiteral? (firstLine text ++
      (text ++ '\x27' :: '\x27' :: '\x27' :: '\n' :: rest)) = some (text, '\n' :: rest) := by
  rw [multilineLiteral?,
    skipFirstNewline_firstLine fun sameLine => newline?_append shown sameLine _]
  exact multiline_literal.body (body_literal shown 0 0 few) (Nat.zero_le 2) _
    (Nat.lt_succ_self _) rest

/-- Whatever the text holds. -/
theorem quoted?_quote (text rest : List Char) :
    quoted? (quote text ++ '\n' :: rest) = some (text, '\n' :: rest) := by
  unfold quote
  split
  case h_1 =>
    have read := basic?_escapeText text ('\n' :: rest)
    -- the opening mark is not taken for the first of three
    have apart : ∀ more, escapeText false 0 0 text ++ '\x22' :: '\n' :: rest ≠
        '\x22' :: '\x22' :: more := by
      cases text with
      | nil => simp [escapeText]
      | cons c text =>
        obtain ⟨first, letters, written, different⟩ := (stands_escapeChar false c).opens
        simp [escapeText_cons, written, different]
    simp [quoted?, read]
  case h_2 quotation =>
    obtain ⟨plain, without⟩ := quotationFor_literal quotation
    have read := literal?_append plain without ('\n' :: rest)
    have apart : ∀ more, text ++ '\x27' :: '\n' :: rest ≠ '\x27' :: '\x27' :: more := by
      cases text with
      | nil => simp
      | cons c text =>
        have different : c ≠ '\x27' := fun same => without (same ▸ .head _)
        simp [different]
    simp [quoted?, read]
  case h_3 =>
    have read := multilineBasic?_escapeText text rest
    simp [quoted?, read]
  case h_4 quotation =>
    obtain ⟨shown, few⟩ := quotationFor_multilineLiteral quotation
    have read := multilineLiteral?_append shown few rest
    simp [quoted?, read]

end VisibleFacets.Toml
