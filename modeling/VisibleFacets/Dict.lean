/-!
# Finite maps in ascending order of their keys

Keys are compared by code point. Main statement: `Dict.get?_insert`.
-/

namespace VisibleFacets

universe u

def insertEntry {α : Type u} (key : String) (value : α) : List (String × α) → List (String × α)
  | [] => [(key, value)]
  | entry :: rest =>
    if key < entry.1 then (key, value) :: entry :: rest
    else if key = entry.1 then (key, value) :: rest
    else entry :: insertEntry key value rest

def Ascending {α : Type u} (entries : List (String × α)) : Prop :=
  entries.Pairwise fun first second => first.1 < second.1

theorem name_lt_of_not_lt_of_ne {first second : String} (notLess : ¬ first < second)
    (different : first ≠ second) : second < first := by
  have reversed := String.not_lt.mp notLess
  by_cases less : second < first
  · exact less
  · exact absurd (String.le_antisymm (String.not_lt.mp less) reversed) different

theorem mem_insertEntry_key {α : Type u} {key : String} {value : α} {entries : List (String × α)}
    {entry : String × α} (member : entry ∈ insertEntry key value entries) :
    entry.1 = key ∨ entry ∈ entries := by
  induction entries with
  | nil => simp_all [insertEntry]
  | cons head rest ih =>
    simp only [insertEntry] at member
    split at member
    · simp only [List.mem_cons] at member
      rcases member with rfl | member
      · exact .inl rfl
      · exact .inr (by simpa using member)
    · split at member
      · simp only [List.mem_cons] at member
        rcases member with rfl | member
        · exact .inl rfl
        · exact .inr (.tail _ member)
      · simp only [List.mem_cons] at member
        rcases member with rfl | member
        · exact .inr (.head _)
        · exact (ih member).imp_right (.tail _)

theorem Ascending.insertEntry {α : Type u} {entries : List (String × α)}
    (ascending : Ascending entries) (key : String) (value : α) :
    Ascending (insertEntry key value entries) := by
  induction entries with
  | nil => simp [VisibleFacets.insertEntry, Ascending]
  | cons head rest ih =>
    obtain ⟨below, rest_ascending⟩ := List.pairwise_cons.mp ascending
    simp only [VisibleFacets.insertEntry]
    split
    · rename_i less
      refine List.pairwise_cons.mpr ⟨fun entry member => ?_, ascending⟩
      rcases List.mem_cons.mp member with rfl | member
      · exact less
      · exact String.lt_trans less (below entry member)
    · split
      · rename_i same
        exact List.pairwise_cons.mpr ⟨fun entry member => same ▸ below entry member, rest_ascending⟩
      · rename_i notLess different
        refine List.pairwise_cons.mpr ⟨fun entry member => ?_, ih rest_ascending⟩
        rcases mem_insertEntry_key member with same | member
        · exact same ▸ name_lt_of_not_lt_of_ne notLess different
        · exact below entry member

/-- A finite map from names; `entries` is its only listing. -/
structure Dict (α : Type u) where
  entries : List (String × α)
  ascending : Ascending entries

namespace Dict

variable {α : Type u} {β : Type u}

def empty : Dict α := ⟨[], .nil⟩

instance : Inhabited (Dict α) := ⟨empty⟩

instance [DecidableEq α] : DecidableEq (Dict α) := fun first second =>
  if same : first.entries = second.entries then
    isTrue (by cases first; cases second; simp_all)
  else isFalse fun equal => same (equal ▸ rfl)

def insert (dict : Dict α) (key : String) (value : α) : Dict α :=
  ⟨insertEntry key value dict.entries, dict.ascending.insertEntry key value⟩

/-- A repeated key keeps its last value. -/
def ofList (entries : List (String × α)) : Dict α :=
  entries.foldl (fun dict entry => dict.insert entry.1 entry.2) empty

def get? (dict : Dict α) (key : String) : Option α := dict.entries.lookup key

def keys (dict : Dict α) : List String := dict.entries.map (·.1)

def size (dict : Dict α) : Nat := dict.entries.length

theorem ascending_map (f : String → α → β) {entries : List (String × α)}
    (ascending : Ascending entries) :
    Ascending (entries.map fun entry => (entry.1, f entry.1 entry.2)) :=
  List.pairwise_map.mpr ascending

def mapValues (f : α → β) (dict : Dict α) : Dict β :=
  ⟨dict.entries.map fun entry => (entry.1, f entry.2), ascending_map (fun _ => f) dict.ascending⟩

theorem ext_entries {first second : Dict α} (same : first.entries = second.entries) :
    first = second := by
  cases first; cases second; simp_all

theorem lookup_entry (wanted key : String) (value : α) (rest : List (String × α)) :
    ((key, value) :: rest).lookup wanted =
      if wanted = key then some value else rest.lookup wanted := by
  rw [List.lookup_cons]
  by_cases same : wanted = key
  · simp [same]
  · have missed : (wanted == key) = false := by simpa using same
    simp [same, missed]

theorem lookup_insertEntry (key : String) (value : α) (entries : List (String × α))
    (wanted : String) :
    (insertEntry key value entries).lookup wanted =
      if wanted = key then some value else entries.lookup wanted := by
  induction entries with
  | nil => simp [insertEntry, lookup_entry]
  | cons head rest ih =>
    obtain ⟨headKey, headValue⟩ := head
    simp only [insertEntry]
    split
    · rw [lookup_entry]
    · split
      · rename_i same
        simp only [lookup_entry, ← same]
        split <;> rfl
      · rename_i different
        simp only [lookup_entry, ih]
        by_cases found : wanted = headKey
        · subst found
          simp [Ne.symm different]
        · simp [found]

@[simp] theorem get?_empty (wanted : String) : (empty : Dict α).get? wanted = none := rfl

@[simp] theorem get?_insert (dict : Dict α) (key : String) (value : α) (wanted : String) :
    (dict.insert key value).get? wanted = if wanted = key then some value else dict.get? wanted :=
  lookup_insertEntry key value dict.entries wanted

@[simp] theorem get?_mapValues (f : α → β) (dict : Dict α) (wanted : String) :
    (dict.mapValues f).get? wanted = (dict.get? wanted).map f := by
  simp only [get?, mapValues]
  induction dict.entries with
  | nil => rfl
  | cons entry rest ih =>
    obtain ⟨key, value⟩ := entry
    simp only [List.map_cons, lookup_entry, ih]
    split <;> rfl

end Dict

end VisibleFacets
