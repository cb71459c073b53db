import Mathlib.Tactic.Choose
import VisibleFacets.Proofs.Dict
import VisibleFacets.Proofs.Json.Reading

/-!
# Written values

A value is written on one line or over several, and both are read alike. `Json.Carries` says that a
reader finds a value in what is written; it is put together along the value.
-/

namespace VisibleFacets.Json

/-- On one line, or over several at this level of indentation. -/
inductive Layout where
  | compact
  | indented (level : Nat)

namespace Layout

def write : Layout → Json → List Char
  | compact, json => json.compact
  | indented level, json => json.indented level

def inner : Layout → Layout
  | compact => compact
  | indented level => indented (level + 1)

def gap : Layout → List Char
  | compact => []
  | indented level => newLine (level + 1)

def closing : Layout → List Char
  | compact => []
  | indented level => newLine level

def colonGap : Layout → List Char
  | compact => []
  | indented _ => [' ']

def writeMember (layout : Layout) (member : String × Json) : List Char :=
  writeString member.1 ++ ':' :: (layout.colonGap ++ layout.inner.write member.2)

theorem gap_newLine (level : Nat) : Raw.Gap (newLine level) := by
  intro c member
  rcases List.mem_cons.mp member with rfl | blank
  · decide
  · obtain rfl := List.eq_of_mem_replicate blank
    decide

theorem gap_gap (layout : Layout) : Raw.Gap layout.gap := by
  cases layout with
  | compact => exact List.forall_mem_nil _
  | indented level => exact gap_newLine (level + 1)

theorem gap_closing (layout : Layout) : Raw.Gap layout.closing := by
  cases layout with
  | compact => exact List.forall_mem_nil _
  | indented level => exact gap_newLine level

theorem gap_colonGap (layout : Layout) : Raw.Gap layout.colonGap := by
  cases layout with
  | compact => exact List.forall_mem_nil _
  | indented _ => exact List.forall_mem_singleton.mpr (.head _)

theorem write_string (layout : Layout) (text : String) :
    layout.write (.string text) = writeString text := by
  cases layout <;> simp [write, Json.compact, Json.indented]

theorem write_ofNat (layout : Layout) (value : Nat) :
    layout.write (.ofNat value) = Text.showNatural value := by
  cases layout <;> simp [write, ofNat, Json.compact, Json.indented, Text.showInteger]

theorem compact_enclosed (left right : Char) (texts : List (List Char)) :
    left :: (joined [','] texts ++ [right]) = Raw.enclosed [] [] left right texts := by
  cases texts <;> simp [Raw.enclosed, joined]

theorem block_enclosed (left right : Char) (level : Nat) (texts : List (List Char)) :
    block left right level texts =
      Raw.enclosed (newLine (level + 1)) (newLine level) left right texts := by
  simp [block, Raw.enclosed]

theorem write_array (layout : Layout) (items : List Json) :
    layout.write (.array items) =
      Raw.enclosed layout.gap layout.closing '[' ']' (items.map layout.inner.write) := by
  cases layout with
  | compact =>
    have texts : compactItems items = items.map Json.compact := by
      induction items with
      | nil => rfl
      | cons item items ih => rw [compactItems, ih, List.map_cons]
    rw [write, Json.compact, texts, compact_enclosed]
    rfl
  | indented level =>
    have texts : indentedItems (level + 1) items = items.map (Json.indented (level + 1)) := by
      induction items with
      | nil => rfl
      | cons item items ih => rw [indentedItems, ih, List.map_cons]
    rw [write, Json.indented, texts, block_enclosed]
    rfl

theorem write_object (layout : Layout) (members : List (String × Json)) :
    layout.write (.object members) =
      Raw.enclosed layout.gap layout.closing '{' '}' (members.map layout.writeMember) := by
  cases layout with
  | compact =>
    have texts : compactMembers members = members.map compact.writeMember := by
      induction members with
      | nil => rfl
      | cons member members ih => rw [compactMembers, ih, List.map_cons]; rfl
    rw [write, Json.compact, texts, compact_enclosed]
    rfl
  | indented level =>
    have texts : indentedMembers (level + 1) members =
        members.map (indented level).writeMember := by
      induction members with
      | nil => rfl
      | cons member members ih => rw [indentedMembers, ih, List.map_cons]; rfl
    rw [write, Json.indented, texts, block_enclosed]
    rfl

end Layout

/-! ## Carried values -/

variable {α : Type}

/-- The reader finds this value in whatever is written for `json`, given room for so many levels of
brackets. -/
def Carries (read : Reading α) (levels : Nat) (json : Json) (value : α) : Prop :=
  ∀ layout : Layout, ∃ raw, Raw.Reads (layout.write json) raw ∧
    ∀ depth, levels ≤ depth → read depth raw = some value

theorem Carries.run {read : Reading α} {levels : Nat} {json : Json} {value : α}
    (carries : Carries read levels json value) (room : levels ≤ Raw.maxDepth) (layout : Layout) :
    Reading.run read (layout.write json) = some value := by
  obtain ⟨raw, reads, found⟩ := carries layout
  rw [Reading.run, reads.ofText?, Option.bind_some, found _ room]

theorem carries_string (text : String) : Carries .string 0 (.string text) text := by
  intro layout
  rw [layout.write_string]
  exact ⟨_, Raw.reads_string text, fun _ _ => Raw.decodeText?_spelled text⟩

theorem carries_natural {value : Nat} (fits : value ≤ Text.maxWord) :
    Carries .natural 0 (.ofNat value) value := by
  intro layout
  obtain ⟨written, spells, shown⟩ := Text.exists_spells value
  rw [layout.write_ofNat, shown]
  refine ⟨_, Raw.reads_natural spells, fun depth _ => ?_⟩
  have whole : Raw.digitsValue written = value := spells.value
  simp [Reading.natural, Raw.natural, Numeral.value?, whole, fits]

theorem mapM_some {β γ : Type} {f : β → Option γ} {g : β → γ} {items : List β}
    (each : ∀ item ∈ items, f item = some (g item)) : items.mapM f = some (items.map g) := by
  induction items with
  | nil => rfl
  | cons item items ih =>
    obtain ⟨here, each⟩ := List.forall_mem_cons.mp each
    simp [here, ih each]

theorem carries_list {read : Reading α} {levels : Nat} {write : α → Json} {values : List α}
    (each : ∀ value ∈ values, Carries read levels (write value) value) :
    Carries (.list read) (levels + 1) (.array (values.map write)) values := by
  intro layout
  choose! raw reads found using fun value member => each value member layout.inner
  refine ⟨.array (values.map raw), ?_, fun depth room => ?_⟩
  · rw [layout.write_array, List.map_map]
    apply Raw.reads_array layout.gap_gap layout.gap_closing
    rw [List.forall₂_map_left_iff, List.forall₂_map_right_iff, List.forall₂_same]
    exact reads
  · obtain ⟨depth, rfl⟩ : ∃ more, depth = more + 1 := ⟨depth - 1, by omega⟩
    have whole : values.mapM (read depth ∘ raw) = some (values.map id) :=
      mapM_some fun value member => found value member depth (by omega)
    rw [Reading.list, List.mapM_map, whole, List.map_id]

/-! ## Records -/

def record (members : List (String × Raw)) : Raw :=
  .object (members.map fun member => (Raw.spelled member.1, member.2))

theorem decodeMembers?_record (members : List (String × Raw)) :
    Reading.decodeMembers? (members.map fun member => (Raw.spelled member.1, member.2)) =
      some members := by
  rw [Reading.decodeMembers?, List.mapM_map, mapM_some (g := id), List.map_id]
  intro member _
  simp [Raw.decodeText?_spelled]

theorem reads_record (layout : Layout) {members : List (String × Json)}
    {named : List (String × Raw)}
    (reads : List.Forall₂ (fun member raw => member.1 = raw.1 ∧
      Raw.Reads (layout.inner.write member.2) raw.2) members named) :
    Raw.Reads (layout.write (.object members)) (record named) := by
  rw [layout.write_object]
  apply Raw.reads_object layout.gap_gap layout.gap_closing
  rw [List.forall₂_map_left_iff, List.forall₂_map_right_iff]
  apply reads.imp
  rintro ⟨name, json⟩ ⟨_, raw⟩ ⟨rfl, reads⟩
  exact reads.member layout.gap_colonGap name

theorem carries_ofDict {read : Reading α} {levels : Nat} {write : α → Json} {dict : Dict α}
    (each : ∀ entry ∈ dict.entries, Carries read levels (write entry.2) entry.2) :
    Carries (.dict read) (levels + 1) (.ofDict write dict) dict := by
  intro layout
  choose! raw reads found using fun entry member => each entry member layout.inner
  refine ⟨record (dict.entries.map fun entry => (entry.1, raw entry)), ?_, fun depth room => ?_⟩
  · apply reads_record
    simp only [Dict.mapValues]
    rw [List.forall₂_map_left_iff, List.forall₂_map_right_iff, List.forall₂_same]
    exact fun entry member => ⟨rfl, reads entry member⟩
  · obtain ⟨depth, rfl⟩ : ∃ more, depth = more + 1 := ⟨depth - 1, by omega⟩
    rw [record, Reading.dict, decodeMembers?_record, Option.bind_eq_bind, Option.bind_some,
      List.mapM_map, mapM_some (g := id)]
    · simp [Dict.ofList_entries]
    · intro entry member
      simp [found entry member depth (by omega)]

theorem member?_of_mem {members : List (String × Raw)}
    (distinct : (members.map Prod.fst).Nodup) {name : String} {raw : Raw}
    (present : (name, raw) ∈ members) : Reading.member? members name = some (some raw) := by
  have only : members.filter (·.1 = name) = [(name, raw)] := by
    induction members with
    | nil => contradiction
    | cons head members ih =>
      obtain ⟨fresh, distinct⟩ := List.nodup_cons.mp distinct
      rcases List.mem_cons.mp present with rfl | later
      · rw [List.filter_cons_of_pos (by simp), List.filter_eq_nil_iff.mpr]
        intro other listed same
        exact fresh (List.mem_map.mpr ⟨other, listed, by simpa using same⟩)
      · have different : head.1 ≠ name := fun same =>
          fresh (same ▸ List.mem_map.mpr ⟨(name, raw), later, rfl⟩)
        rw [List.filter_cons_of_neg (by simp [different]), ih distinct later]
  rw [Reading.member?, only]

theorem fields_record {members : List (String × Raw)}
    (distinct : (members.map Prod.fst).Nodup) :
    Reading.fields (members.map Prod.fst) (record members) =
      some (members.map fun member => some member.2) := by
  rw [record, Reading.fields, decodeMembers?_record, Option.bind_eq_bind, Option.bind_some,
    List.mapM_map, mapM_some]
  exact fun member present => member?_of_mem distinct present

theorem named_of_reads {layout : Layout} {members : List (String × Json)} {raws : List Raw}
    (reads : List.Forall₂ (fun member raw => Raw.Reads (layout.write member.2) raw) members raws) :
    List.Forall₂ (fun member raw => member.1 = raw.1 ∧ Raw.Reads (layout.write member.2) raw.2)
      members ((members.map Prod.fst).zip raws) := by
  induction reads with
  | nil => exact .nil
  | cons first others ih => exact .cons ⟨rfl, first⟩ ih

/-- A record carries what its reader makes of the values that its members carry. -/
theorem carries_record {read : Reading α} {levels : Nat} {members : List (String × Json)}
    {value : α} (distinct : (members.map Prod.fst).Nodup)
    (made : ∀ layout : Layout, ∃ raws,
      List.Forall₂ (fun member raw => Raw.Reads (layout.write member.2) raw) members raws ∧
      ∀ depth raw, levels ≤ depth →
        Reading.fields (members.map Prod.fst) raw = some (raws.map some) →
        read (depth + 1) raw = some value) :
    Carries read (levels + 1) (.object members) value := by
  intro layout
  obtain ⟨raws, reads, found⟩ := made layout.inner
  have names : ((members.map Prod.fst).zip raws).map Prod.fst = members.map Prod.fst :=
    List.map_fst_zip (by simp [reads.length_eq])
  have values : ((members.map Prod.fst).zip raws).map Prod.snd = raws :=
    List.map_snd_zip (by simp [reads.length_eq])
  refine ⟨_, reads_record layout (named_of_reads reads), fun depth room => ?_⟩
  obtain ⟨depth, rfl⟩ : ∃ more, depth = more + 1 := ⟨depth - 1, by omega⟩
  apply found depth _ (by omega)
  have fields := fields_record (names ▸ distinct)
  rw [names] at fields
  rw [fields, ← Function.comp_def, ← List.map_map, values]

end VisibleFacets.Json
