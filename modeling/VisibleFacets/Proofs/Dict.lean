import Mathlib.Data.List.Induction
import Mathlib.Data.List.Sort
import VisibleFacets.Dict

/-!
# Finite maps by what they read

A map is determined by its readings: `Dict.ext_get?`.
-/

namespace VisibleFacets.Dict

variable {α : Type}

theorem nodup_keys (dict : Dict α) : dict.keys.Nodup := by
  have apart := dict.ascending.imp fun less => String.ne_of_lt less
  exact List.pairwise_map.mpr apart

theorem lookup_eq_some_iff {entries : List (String × α)} (distinct : (entries.map Prod.fst).Nodup)
    {key : String} {value : α} :
    entries.lookup key = some value ↔ (key, value) ∈ entries := by
  induction entries with
  | nil => simp
  | cons entry rest ih =>
    obtain ⟨headKey, headValue⟩ := entry
    rw [List.map_cons, List.nodup_cons] at distinct
    obtain ⟨fresh, distinct⟩ := distinct
    rw [lookup_entry, List.mem_cons, Prod.mk.injEq]
    split
    · rename_i same
      subst same
      have missing : (key, value) ∉ rest := fun member =>
        fresh (List.mem_map.mpr ⟨(key, value), member, rfl⟩)
      simp [missing, eq_comm]
    · rename_i different
      simp [different, ih distinct]

theorem get?_eq_some_iff {dict : Dict α} {key : String} {value : α} :
    dict.get? key = some value ↔ (key, value) ∈ dict.entries :=
  lookup_eq_some_iff dict.nodup_keys

theorem mem_keys_iff {dict : Dict α} {key : String} :
    key ∈ dict.keys ↔ ∃ value, dict.get? key = some value := by
  rw [keys, List.mem_map]
  constructor
  · rintro ⟨⟨_, value⟩, member, rfl⟩
    exact ⟨value, get?_eq_some_iff.mpr member⟩
  · rintro ⟨value, found⟩
    exact ⟨(key, value), get?_eq_some_iff.mp found, rfl⟩

theorem ext_get? {first second : Dict α} (same : ∀ key, first.get? key = second.get? key) :
    first = second := by
  apply ext_entries
  have irrefl : Std.Irrefl fun first second : String × α => first.1 < second.1 :=
    ⟨fun entry => String.lt_irrefl entry.1⟩
  have antisymm : Std.Antisymm fun first second : String × α => first.1 < second.1 :=
    ⟨fun _ _ less more => absurd more (String.lt_asymm less)⟩
  apply List.Pairwise.eq_of_mem_iff first.ascending second.ascending
  intro (key, value)
  rw [← get?_eq_some_iff, ← get?_eq_some_iff, same]

theorem keys_eq_of_mem_iff {β : Type} {first : Dict α} {second : Dict β}
    (same : ∀ key, key ∈ first.keys ↔ key ∈ second.keys) : first.keys = second.keys := by
  have irrefl : Std.Irrefl fun first second : String => first < second := ⟨String.lt_irrefl⟩
  have antisymm : Std.Antisymm fun first second : String => first < second :=
    ⟨fun _ _ less more => absurd more (String.lt_asymm less)⟩
  have left : first.keys.Pairwise (· < ·) := List.pairwise_map.mpr first.ascending
  have right : second.keys.Pairwise (· < ·) := List.pairwise_map.mpr second.ascending
  exact left.eq_of_mem_iff right same

theorem get?_ofList_map (value : String → α) (keys : List String) (wanted : String) :
    (ofList (keys.map fun key => (key, value key))).get? wanted =
      if wanted ∈ keys then some (value wanted) else none := by
  induction keys using List.reverseRecOn with
  | nil => rfl
  | append_singleton keys key ih =>
    rw [ofList, List.map_append, List.foldl_append]
    rw [ofList] at ih
    simp only [List.map_cons, List.map_nil, List.foldl_cons, List.foldl_nil, get?_insert, ih,
      List.mem_append, List.mem_singleton]
    by_cases same : wanted = key
    · simp [same]
    · simp [same]

theorem insertEntry_of_lt {entries : List (String × α)} {key : String}
    (above : ∀ entry ∈ entries, entry.1 < key) (value : α) :
    insertEntry key value entries = entries ++ [(key, value)] := by
  induction entries with
  | nil => rfl
  | cons head rest ih =>
    obtain ⟨first, above⟩ := List.forall_mem_cons.mp above
    rw [insertEntry, if_neg (String.lt_asymm first), if_neg (String.ne_of_lt first).symm, ih above,
      List.cons_append]

theorem entries_ofList {entries : List (String × α)} (ascending : Ascending entries) :
    (ofList entries).entries = entries := by
  induction entries using List.reverseRecOn with
  | nil => rfl
  | append_singleton entries entry ih =>
    obtain ⟨before, -, above⟩ := List.pairwise_append.mp ascending
    rw [ofList, List.foldl_append]
    change insertEntry entry.1 entry.2 (ofList entries).entries = entries ++ [entry]
    rw [ih before, insertEntry_of_lt fun other member => above other member entry (.head _)]

theorem ofList_entries (dict : Dict α) : ofList dict.entries = dict :=
  ext_entries (entries_ofList dict.ascending)

end VisibleFacets.Dict
