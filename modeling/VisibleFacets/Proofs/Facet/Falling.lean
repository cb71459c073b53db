import Mathlib.Data.List.Nodup
import Mathlib.Data.List.Perm.Subperm
import VisibleFacets.Facet.Rescale
import VisibleFacets.Proofs.Facet.Ranking

/-!
# Lists of falling counts

In a list of falling counts, what a bound on the counts keeps stands where it stood. So scaling
commutes with cutting (`Falling.rescale_take`), and two lists can be compared rank by rank:
`RankwiseLE` is kept by cutting and scaling, and holds of rankings when no label occurs less often
(`Ranks.rankwiseLE`).
-/

namespace VisibleFacets

variable {α β : Type}

/-! ## Prefixes -/

theorem getElem?_filterMap_of_prefix {f : α → Option β} {items : List α}
    (closed : items.Pairwise fun first second => (f second).isSome → (f first).isSome) (i : Nat) :
    (items.filterMap f)[i]? = items[i]?.bind f := by
  induction items generalizing i with
  | nil => rfl
  | cons item items ih =>
    obtain ⟨before, closed⟩ := List.pairwise_cons.mp closed
    cases image : f item with
    | some value =>
      rw [List.filterMap_cons_some image]
      cases i with
      | zero => simp [image]
      | succ i => simpa using ih closed i
    | none =>
      -- Nothing after the first item without an image has one.
      have missing : ∀ later ∈ items, f later = none := by
        intro later member
        have absent := mt (before later member)
        simpa [image] using absent
      have empty : items.filterMap f = [] := List.filterMap_eq_nil_iff.mpr missing
      rw [List.filterMap_cons_none image, empty]
      cases i with
      | zero => simp [image]
      | succ i => simpa [empty] using ih closed i

theorem getElem?_filter_of_prefix {p : α → Bool} {items : List α}
    (closed : items.Pairwise fun first second => p second → p first) (i : Nat) :
    (items.filter p)[i]? = items[i]?.filter p := by
  have guarded : items.Pairwise fun first second =>
      (Option.guard p second).isSome → (Option.guard p first).isSome := by
    simpa using closed
  rw [← List.filterMap_eq_filter, getElem?_filterMap_of_prefix guarded, Option.bind_guard]

/-! ## Falling counts -/

def Falling (entries : List Entry) : Prop :=
  entries.Pairwise fun first second => second.count ≤ first.count

theorem Falling.take {entries : List Entry} (falling : Falling entries) (limit : Nat) :
    Falling (entries.take limit) :=
  List.Pairwise.sublist (List.take_sublist limit entries) falling

theorem Falling.getElem?_atLeast {entries : List Entry} (falling : Falling entries)
    (bound i : Nat) :
    (entries.filter fun entry => bound ≤ entry.count)[i]? =
      entries[i]?.filter fun entry => bound ≤ entry.count := by
  apply getElem?_filter_of_prefix
  apply falling.imp
  intro first second fewer atLeast
  simp only [decide_eq_true_eq] at *
  omega

/-- At every rank of the first list the second has an entry that counts no less. -/
def RankwiseLE (lower upper : List Entry) : Prop :=
  ∀ (i : Nat) (low : Entry), lower[i]? = some low →
    ∃ high : Entry, upper[i]? = some high ∧ low.count ≤ high.count

theorem RankwiseLE.refl (entries : List Entry) : RankwiseLE entries entries :=
  fun _ low found => ⟨low, found, Nat.le_refl _⟩

theorem RankwiseLE.take {lower upper : List Entry} (le : RankwiseLE lower upper) (limit : Nat) :
    RankwiseLE (lower.take limit) (upper.take limit) := by
  intro i low found
  rw [List.getElem?_take] at found
  split at found
  case isTrue inside =>
    rw [List.getElem?_take_of_lt inside]
    exact le i low found
  case isFalse => contradiction

/-! ## Rankings -/

theorem Ranks.falling {labels : List String} {ranked : List Entry} (ranks : Ranks labels ranked) :
    Falling ranked := by
  apply ranks.ordered.imp
  intro first second above
  rcases above with more | ⟨even, -⟩
  · exact Nat.le_of_lt more
  · exact Nat.le_of_eq even.symm

theorem Ranks.nodup_labels {labels : List String} {ranked : List Entry}
    (ranks : Ranks labels ranked) : (ranked.map Entry.label).Nodup := by
  have distinct : ranked.Nodup := by
    apply ranks.ordered.imp
    rintro first _ above rfl
    exact irrefl first above
  apply distinct.map_on
  intro first firstMember second secondMember same
  obtain ⟨-, firstCount⟩ := (ranks.listed first).mp firstMember
  obtain ⟨-, secondCount⟩ := (ranks.listed second).mp secondMember
  cases first
  cases second
  simp_all

/-- So many entries reach a bound in the second ranking as in the first, by their labels. -/
theorem Ranks.length_atLeast_le {labels others : List String} {lower upper : List Entry}
    (left : Ranks labels lower) (right : Ranks others upper)
    (counts : ∀ label, labels.count label ≤ others.count label) (bound : Nat) :
    (lower.filter fun entry => bound ≤ entry.count).length ≤
      (upper.filter fun entry => bound ≤ entry.count).length := by
  have distinct : ((lower.filter fun entry => bound ≤ entry.count).map Entry.label).Nodup :=
    left.nodup_labels.sublist (List.filter_sublist.map Entry.label)
  have included : (lower.filter fun entry => bound ≤ entry.count).map Entry.label ⊆
      (upper.filter fun entry => bound ≤ entry.count).map Entry.label := by
    intro label member
    obtain ⟨low, kept, rfl⟩ := List.mem_map.mp member
    obtain ⟨present, atLeast⟩ := List.mem_filter.mp kept
    obtain ⟨occurs, count⟩ := (left.listed low).mp present
    have more := counts low.label
    have occursOften := List.count_pos_iff.mpr occurs
    have occursThere : low.label ∈ others := List.count_pos_iff.mp (by omega)
    have listed := (right.listed ⟨low.label, others.count low.label⟩).mpr ⟨occursThere, rfl⟩
    simp only [decide_eq_true_eq] at atLeast
    refine List.mem_map.mpr ⟨_, List.mem_filter.mpr ⟨listed, ?_⟩, rfl⟩
    simp only [decide_eq_true_eq]
    omega
  simpa using (List.subperm_of_subset distinct included).length_le

theorem Ranks.rankwiseLE {labels others : List String} {lower upper : List Entry}
    (left : Ranks labels lower) (right : Ranks others upper)
    (counts : ∀ label, labels.count label ≤ others.count label) : RankwiseLE lower upper := by
  intro i low found
  have kept : (lower.filter fun entry => low.count ≤ entry.count)[i]? = some low := by
    rw [left.falling.getElem?_atLeast, found]
    simp
  -- As many entries of the second ranking count at least as much, and they are its first.
  obtain ⟨inside, -⟩ := List.getElem?_eq_some_iff.mp kept
  have reaches := Nat.lt_of_lt_of_le inside (left.length_atLeast_le right counts low.count)
  have above := List.getElem?_eq_getElem reaches
  rw [right.falling.getElem?_atLeast] at above
  obtain ⟨present, atLeast⟩ := Option.filter_eq_some_iff.mp above
  exact ⟨_, present, by simpa using atLeast⟩

/-! ## Scaling -/

/-- What scaling makes of one entry, by itself. -/
def Entry.rescaled? (sampleSize accessible : Nat) (entry : Entry) : Option Entry :=
  if sampleSize ≤ accessible then some entry
  else if sampleSize ≤ entry.count * accessible then some (entry.scale sampleSize accessible)
  else none

theorem Entry.scale_count_eq_zero_iff {sampleSize : Nat} (positive : 0 < sampleSize)
    (accessible : Nat) (entry : Entry) :
    (entry.scale sampleSize accessible).count = 0 ↔ ¬ sampleSize ≤ entry.count * accessible := by
  rw [scale, Nat.not_le]
  exact Nat.div_eq_zero_iff_lt positive

theorem Entry.count_scale_le {sampleSize accessible : Nat} (within : accessible ≤ sampleSize)
    (entry : Entry) : (entry.scale sampleSize accessible).count ≤ entry.count := by
  apply Nat.div_le_of_le_mul
  rw [Nat.mul_comm sampleSize]
  exact Nat.mul_le_mul_left entry.count within

theorem rescale_of_le {sampleSize accessible : Nat} (full : sampleSize ≤ accessible)
    (entries : List Entry) : rescale sampleSize accessible entries = entries := by
  rw [rescale, if_pos (.inr full)]

theorem rescale_of_lt {sampleSize accessible : Nat} (below : accessible < sampleSize)
    (entries : List Entry) :
    rescale sampleSize accessible entries =
      (entries.map (Entry.scale sampleSize accessible)).filter fun entry => entry.count ≠ 0 := by
  rw [rescale, if_neg (by omega)]
  simp only
  split
  · rfl
  · rename_i nonzero
    symm
    simpa using nonzero

theorem rescale_eq_filterMap (sampleSize accessible : Nat) (entries : List Entry) :
    rescale sampleSize accessible entries =
      entries.filterMap (Entry.rescaled? sampleSize accessible) := by
  rcases Nat.lt_or_ge accessible sampleSize with below | full
  · rw [rescale_of_lt below]
    have positive : 0 < sampleSize := by omega
    induction entries with
    | nil => rfl
    | cons entry entries ih =>
      have zero := entry.scale_count_eq_zero_iff positive accessible
      by_cases kept : sampleSize ≤ entry.count * accessible <;>
        simp_all [Entry.rescaled?, Nat.not_le.mpr below]
  · have same : Entry.rescaled? sampleSize accessible = some := by
      funext entry
      rw [Entry.rescaled?, if_pos full]
    rw [same, List.filterMap_some, rescale_of_le full]

theorem rescale_zero {sampleSize : Nat} (positive : 0 < sampleSize) (entries : List Entry) :
    rescale sampleSize 0 entries = [] := by
  rw [rescale_eq_filterMap, List.filterMap_eq_nil_iff]
  intro entry _
  rw [Entry.rescaled?, if_neg (Nat.not_le.mpr positive), Nat.mul_zero,
    if_neg (Nat.not_le.mpr positive)]

theorem Entry.rescaled?_mono {sampleSize few many : Nat} (shares : few ≤ many) {low high : Entry}
    (counts : low.count ≤ high.count) {scaled : Entry}
    (kept : low.rescaled? sampleSize few = some scaled) :
    ∃ raised, high.rescaled? sampleSize many = some raised ∧ scaled.count ≤ raised.count := by
  have products : low.count * few ≤ high.count * many := Nat.mul_le_mul counts shares
  rw [rescaled?] at kept
  split at kept
  case isTrue full =>
    obtain rfl := Option.some.inj kept
    exact ⟨high, if_pos (Nat.le_trans full shares), counts⟩
  case isFalse below =>
    split at kept
    case isFalse => contradiction
    case isTrue enough =>
      obtain rfl := Option.some.inj kept
      by_cases full : sampleSize ≤ many
      · exact ⟨high, if_pos full, Nat.le_trans (low.count_scale_le (by omega)) counts⟩
      · refine ⟨high.scale sampleSize many, ?_, Nat.div_le_div_right products⟩
        rw [rescaled?, if_neg full, if_pos (Nat.le_trans enough products)]

theorem Falling.kept_before {entries : List Entry} (falling : Falling entries)
    (sampleSize accessible : Nat) :
    entries.Pairwise fun first second =>
      (second.rescaled? sampleSize accessible).isSome →
        (first.rescaled? sampleSize accessible).isSome := by
  apply falling.imp
  intro first second fewer kept
  obtain ⟨scaled, kept⟩ := Option.isSome_iff_exists.mp kept
  obtain ⟨raised, above, -⟩ := Entry.rescaled?_mono (Nat.le_refl _) fewer kept
  exact Option.isSome_iff_exists.mpr ⟨raised, above⟩

theorem Falling.getElem?_rescale {entries : List Entry} (falling : Falling entries)
    (sampleSize accessible i : Nat) :
    (rescale sampleSize accessible entries)[i]? =
      entries[i]?.bind (Entry.rescaled? sampleSize accessible) := by
  rw [rescale_eq_filterMap]
  exact getElem?_filterMap_of_prefix (falling.kept_before sampleSize accessible) i

theorem Falling.rescale_take {entries : List Entry} (falling : Falling entries)
    (sampleSize accessible limit : Nat) :
    rescale sampleSize accessible (entries.take limit) =
      (rescale sampleSize accessible entries).take limit := by
  apply List.ext_getElem?
  intro i
  rw [(falling.take limit).getElem?_rescale, List.getElem?_take, List.getElem?_take,
    falling.getElem?_rescale]
  split <;> rfl

theorem RankwiseLE.rescale {lower upper : List Entry} (le : RankwiseLE lower upper)
    (lowerFalling : Falling lower) (upperFalling : Falling upper) {few many : Nat}
    (shares : few ≤ many) (sampleSize : Nat) :
    RankwiseLE (rescale sampleSize few lower) (rescale sampleSize many upper) := by
  intro i scaled found
  rw [lowerFalling.getElem?_rescale] at found
  obtain ⟨low, present, kept⟩ := Option.bind_eq_some_iff.mp found
  obtain ⟨high, above, counts⟩ := le i low present
  obtain ⟨raised, kept, counts⟩ := Entry.rescaled?_mono shares counts kept
  refine ⟨raised, ?_, counts⟩
  rw [upperFalling.getElem?_rescale, above, Option.bind_some, kept]

/-! ## Tables -/

theorem falling_topEntries (labels : List String) (limit : Nat) :
    Falling (topEntries limit (entriesOf (tally labels))) :=
  (ranks_mergeSort labels).falling.take limit

theorem countFacets_take (labelsUnder : String → List String) (facets : List String)
    {limit wide : Nat} (narrower : limit ≤ wide) :
    (countFacets labelsUnder facets wide).mapValues (·.take limit) =
      countFacets labelsUnder facets limit := by
  apply Dict.ext_get?
  intro facet
  rw [Dict.get?_mapValues, get?_countFacets, get?_countFacets]
  split
  · simp [topEntries, List.take_take, Nat.min_eq_left narrower]
  · rfl

theorem rescale_countFacets_take (labelsUnder : String → List String) (facets : List String)
    {limit wide : Nat} (narrower : limit ≤ wide) (sampleSize accessible : Nat) :
    ((countFacets labelsUnder facets wide).mapValues (rescale sampleSize accessible)).mapValues
        (·.take limit) =
      (countFacets labelsUnder facets limit).mapValues (rescale sampleSize accessible) := by
  rw [← countFacets_take labelsUnder facets narrower]
  apply Dict.ext_get?
  intro facet
  simp only [Dict.get?_mapValues, get?_countFacets]
  split
  · have falling := falling_topEntries (labelsUnder facet) wide
    simp [falling.rescale_take]
  · rfl

/-- The tables have the same facets, and the second counts no less at every rank of the first. -/
structure TableLE (lower upper : FacetTable) : Prop where
  facets : lower.keys = upper.keys
  ranks : ∀ facet low, lower.get? facet = some low →
    ∃ high, upper.get? facet = some high ∧ RankwiseLE low high

theorem TableLE.refl (table : FacetTable) : TableLE table table where
  facets := rfl
  ranks _ low found := ⟨low, found, .refl low⟩

theorem TableLE.of_get? {facets : List String} {lower upper : FacetTable}
    {low high : String → List Entry}
    (lowerRead : ∀ facet, lower.get? facet = if facet ∈ facets then some (low facet) else none)
    (upperRead : ∀ facet, upper.get? facet = if facet ∈ facets then some (high facet) else none)
    (le : ∀ facet, RankwiseLE (low facet) (high facet)) : TableLE lower upper where
  facets := by
    apply Dict.keys_eq_of_mem_iff
    intro facet
    rw [Dict.mem_keys_iff, Dict.mem_keys_iff, lowerRead, upperRead]
    by_cases member : facet ∈ facets <;> simp [member]
  ranks facet entries found := by
    rw [lowerRead] at found
    split at found
    case isFalse => contradiction
    case isTrue member =>
      obtain rfl := Option.some.inj found
      exact ⟨high facet, (upperRead facet).trans (if_pos member), le facet⟩

theorem countFacets_le {first second : String → List String}
    (counts : ∀ facet label, (first facet).count label ≤ (second facet).count label)
    (facets : List String) (limit : Nat) :
    TableLE (countFacets first facets limit) (countFacets second facets limit) := by
  apply TableLE.of_get? (get?_countFacets first facets limit) (get?_countFacets second facets limit)
  intro facet
  have ranked := (ranks_mergeSort (first facet)).rankwiseLE (ranks_mergeSort (second facet))
    (counts facet)
  exact ranked.take limit

theorem rescale_countFacets_le (labelsUnder : String → List String) (facets : List String)
    (limit sampleSize : Nat) {few many : Nat} (shares : few ≤ many) :
    TableLE ((countFacets labelsUnder facets limit).mapValues (rescale sampleSize few))
      ((countFacets labelsUnder facets limit).mapValues (rescale sampleSize many)) := by
  have read (accessible : Nat) (facet : String) :
      ((countFacets labelsUnder facets limit).mapValues (rescale sampleSize accessible)).get? facet =
        if facet ∈ facets then
          some (rescale sampleSize accessible
            (topEntries limit (entriesOf (tally (labelsUnder facet)))))
        else none := by
    rw [Dict.get?_mapValues, get?_countFacets]
    split <;> rfl
  apply TableLE.of_get? (read few) (read many)
  intro facet
  have falling := falling_topEntries (labelsUnder facet) limit
  exact (RankwiseLE.refl _).rescale falling falling shares sampleSize

end VisibleFacets
