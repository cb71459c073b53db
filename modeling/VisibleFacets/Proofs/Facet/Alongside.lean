import VisibleFacets.Proofs.Facet.Carriers
import VisibleFacets.Proofs.Facet.Growth

/-!
# The lists of the modes side by side

No mode counts a label higher than the insecure one. An estimate lists no other labels than that
mode, or is the secure count: `Corpus.answer_alongside`.
-/

namespace VisibleFacets

theorem sublist_labels_rescale (sampleSize accessible : Nat) (entries : List Entry) :
    ((rescale sampleSize accessible entries).map Entry.label).Sublist
      (entries.map Entry.label) := by
  have labels : (entries.map (Entry.scale sampleSize accessible)).map Entry.label =
      entries.map Entry.label := by
    simp [Entry.scale, Function.comp_def]
  unfold rescale
  simp only
  split
  · exact .refl _
  · split
    · rw [← labels]
      exact List.filter_sublist.map Entry.label
    · rw [labels]

theorem mem_rescale {sampleSize accessible : Nat} {entries : List Entry} {entry : Entry}
    (member : entry ∈ rescale sampleSize accessible entries) :
    ∃ raw ∈ entries, raw.label = entry.label ∧ entry.count ≤ raw.count := by
  rcases Nat.lt_or_ge accessible sampleSize with below | full
  · rw [rescale_of_lt below] at member
    obtain ⟨raw, listed, rfl⟩ := List.mem_map.mp (List.mem_filter.mp member).1
    exact ⟨raw, listed, rfl, raw.count_scale_le (Nat.le_of_lt below)⟩
  · rw [rescale_of_le full] at member
    exact ⟨entry, member, rfl, Nat.le_refl _⟩

theorem nodup_labels_topEntries (labels : List String) (limit : Nat) :
    ((topEntries limit (entriesOf (tally labels))).map Entry.label).Nodup := by
  have distinct := (ranks_mergeSort labels).nodup_labels
  exact distinct.sublist ((List.take_sublist limit _).map Entry.label)

theorem count_of_mem_topEntries {labels : List String} {limit : Nat} {entry : Entry}
    (member : entry ∈ topEntries limit (entriesOf (tally labels))) :
    entry.count = labels.count entry.label :=
  (((ranks_mergeSort labels).listed entry).mp (List.mem_of_mem_take member)).2

/-- What the modes list under one facet, where so many documents match. -/
structure Alongside (matched sampleSize : Nat) (lists : Mode → List Entry) : Prop where
  distinct : ∀ mode, ((lists mode).map Entry.label).Nodup
  bounded : ∀ mode, ∀ entry ∈ lists mode, ∀ raw ∈ lists .insecure,
    entry.label = raw.label → entry.count ≤ raw.count
  exact : matched < sampleSize → lists .statistical = lists .secure
  listed : sampleSize ≤ matched → ∀ entry ∈ lists .statistical,
    entry.label ∈ (lists .insecure).map Entry.label

namespace Corpus

variable [Memory] {corpus : Corpus} {terms : List Term} {plan : SamplePlan} {shown : Hit → Bool}

def answerUnder (corpus : Corpus) (terms : List Term) (facet : String) (plan : SamplePlan)
    (shown : Hit → Bool) (limit : Nat) : Mode → List Entry
  | .secure => topEntries limit (entriesOf (tally (labelsOf (corpus.visible terms shown) facet)))
  | .insecure => topEntries limit (entriesOf (tally (labelsOf (corpus.hits terms) facet)))
  | .statistical =>
    if (corpus.hits terms).length < plan.sampleSize then
      topEntries limit (entriesOf (tally (labelsOf (corpus.visible terms shown) facet)))
    else
      rescale plan.sampleSize
        ((drawn plan.sampleSize plan.seed (corpus.hits terms)).filter shown).length
        (topEntries limit (entriesOf (tally (labelsOf (corpus.hits terms) facet))))

theorem get?_answer {facet : String} {facets : List String} (named : facet ∈ facets)
    (limit : Nat) (mode : Mode) :
    (corpus.answer terms facets plan shown limit mode).get? facet =
      some (corpus.answerUnder terms facet plan shown limit mode) := by
  cases mode with
  | secure => rw [answer, get?_countFacets, if_pos named, answerUnder]
  | insecure => rw [answer, get?_countFacets, if_pos named, answerUnder]
  | statistical =>
    rw [answer, answerUnder, SamplePlan.estimate]
    split
    case isTrue few =>
      rw [drawn_of_length_le _ (Nat.le_of_lt few), get?_countFacets, if_pos named, visible]
    case isFalse => rw [Dict.get?_mapValues, get?_countFacets, if_pos named, Option.map_some]

theorem answer_alongside (corpus : Corpus) (terms : List Term) (facet : String)
    (plan : SamplePlan) (shown : Hit → Bool) (limit : Nat) :
    Alongside (corpus.selected terms).length plan.sampleSize
      (corpus.answerUnder terms facet plan shown limit) := by
  have fewer (entry : Entry) : (labelsOf (corpus.visible terms shown) facet).count entry.label ≤
      (labelsOf (corpus.hits terms) facet).count entry.label := by
    have counts := count_labelsOf_filter_le (fun _ _ => rfl : ∀ hit, shown hit = true → true = true)
      (corpus.hits terms) facet entry.label
    rwa [List.filter_true] at counts
  rw [← length_hits]
  constructor
  case distinct =>
    intro mode
    cases mode with
    | secure => exact nodup_labels_topEntries _ limit
    | insecure => exact nodup_labels_topEntries _ limit
    | statistical =>
      rw [answerUnder]
      split
      · exact nodup_labels_topEntries _ limit
      · exact (nodup_labels_topEntries _ limit).sublist (sublist_labels_rescale _ _ _)
  case bounded =>
    intro mode entry member raw listed same
    rw [count_of_mem_topEntries listed, ← same]
    cases mode with
    | secure => exact count_of_mem_topEntries member ▸ fewer entry
    | insecure => exact Nat.le_of_eq (count_of_mem_topEntries member)
    | statistical =>
      rw [answerUnder] at member
      split at member
      · exact count_of_mem_topEntries member ▸ fewer entry
      · obtain ⟨other, candidate, label, count⟩ := mem_rescale member
        rwa [← label, ← count_of_mem_topEntries candidate]
  case exact => exact fun few => if_pos few
  case listed =>
    intro enough entry member
    rw [answerUnder, if_neg (Nat.not_lt.mpr enough)] at member
    obtain ⟨raw, candidate, label, -⟩ := mem_rescale member
    exact List.mem_map.mpr ⟨raw, candidate, label⟩

end Corpus

end VisibleFacets
