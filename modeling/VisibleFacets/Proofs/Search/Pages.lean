import Mathlib.Algebra.Order.Floor.Div
import VisibleFacets.Proofs.Search.Transcript
import VisibleFacets.Search.Corpus

/-!
# The pages of a corpus

A corpus whose fetches do not fail tells its hits in the order of its documents, whatever the size
of the pages: `Corpus.transcript`.
-/

namespace VisibleFacets

variable {σ : Type}

def Usage.fetched (usage : Usage) (fetches : Nat) : Usage :=
  { usage with pageFetches := usage.pageFetches + fetches }

theorem Usage.fetched_fetched (usage : Usage) (first second : Nat) :
    (usage.fetched first).fetched second = usage.fetched (first + second) := by
  simp [fetched, Nat.add_assoc]

theorem reached_page (observed seen : Observed σ) {page : List Hit}
    (nonempty : page ≠ []) (hits : List (Hit × Observed σ)) :
    reached observed (page.map (·, seen) ++ hits) = reached seen hits := by
  induction page generalizing observed with
  | nil => exact absurd rfl nonempty
  | cons hit page ih =>
    cases page with
    | nil => simp
    | cons next page =>
      rw [List.map_cons, List.cons_append, reached_cons]
      exact ih seen (List.cons_ne_nil next page)

/-! ## What is told, and at what cost -/

/-- These hits are told in order. After any number of them the backend is in the state after as many
fetches as it takes to hold them, and in the end in the state after one that is short of hits. -/
structure Told (all : List Hit) (batchSize : Nat) (served : Nat → σ) (observed : Observed σ)
    (hits : List (Hit × Observed σ)) (last : Observed σ) : Prop where
  order : hits.map Prod.fst = all
  cost : ∀ count ≤ all.length,
    (reached observed (hits.take count)).state = served (count ⌈/⌉ batchSize)
  ended : last.state = served (all.length / batchSize + 1)

theorem Told.fetches {all : List Hit} {batchSize : Nat} {served : Nat → σ} {observed : Observed σ}
    {hits : List (Hit × Observed σ)} {last : Observed σ}
    (told : Told all batchSize served observed hits last) :
    (reached observed hits).state = served (all.length ⌈/⌉ batchSize) := by
  have length : hits.length = all.length := by rw [← told.order, List.length_map]
  have cost := told.cost all.length (Nat.le_refl _)
  rwa [← length, List.take_length, length] at cost

theorem ceilDiv_eq_one {batchSize count : Nat} (positive : 0 < count) (few : count ≤ batchSize) :
    count ⌈/⌉ batchSize = 1 := by
  rw [Nat.ceilDiv_eq_add_pred_div]
  apply Nat.div_eq_of_lt_le
  · omega
  · omega

theorem add_ceilDiv {batchSize : Nat} (positive : 0 < batchSize) (count : Nat) :
    (batchSize + count) ⌈/⌉ batchSize = 1 + count ⌈/⌉ batchSize := by
  have sum : batchSize + count + batchSize - 1 = batchSize + (count + batchSize - 1) := by omega
  rw [Nat.ceilDiv_eq_add_pred_div, sum, Nat.add_div_left _ positive, Nat.add_comm 1,
    Nat.ceilDiv_eq_add_pred_div]

/-- The hits of one page all cost the fetch of that page. -/
theorem cost_within_page {page : List Hit} {batchSize count : Nat} (few : page.length ≤ batchSize)
    (within : count ≤ page.length) {served : Nat → σ} {observed seen : Observed σ}
    (start : observed.state = served 0) (fetched : seen.state = served 1) :
    (reached observed ((page.take count).map (·, seen))).state = served (count ⌈/⌉ batchSize) := by
  rcases Nat.eq_zero_or_pos count with rfl | some
  · rw [List.take_zero, List.map_nil, reached_nil, start, zero_ceilDiv]
  · have nonempty : page.take count ≠ [] := fun none => by
      have length := List.length_take_of_le within
      rw [none, List.length_nil] at length
      omega
    have told := reached_page observed seen nonempty []
    rw [List.append_nil, reached_nil] at told
    rw [told, fetched, ceilDiv_eq_one some (Nat.le_trans within few)]

theorem Told.short {page : List Hit} {batchSize : Nat} {served : Nat → σ}
    {observed seen : Observed σ} (few : page.length < batchSize)
    (start : observed.state = served 0) (fetched : seen.state = served 1) :
    Told page batchSize served observed (page.map (·, seen)) seen where
  order := by simp [Function.comp_def]
  cost count within := by
    rw [← List.map_take]
    exact cost_within_page (Nat.le_of_lt few) within start fetched
  ended := by rw [fetched, Nat.div_eq_of_lt few]

theorem Told.full {page all : List Hit} {batchSize : Nat} (positive : 0 < batchSize)
    {served : Nat → σ} {observed seen last : Observed σ} {hits : List (Hit × Observed σ)}
    (size : page.length = batchSize) (start : observed.state = served 0)
    (fetched : seen.state = served 1)
    (rest : Told all batchSize (fun fetches => served (1 + fetches)) seen hits last) :
    Told (page ++ all) batchSize served observed (page.map (·, seen) ++ hits) last where
  order := by simp [rest.order, Function.comp_def]
  cost count within := by
    rcases Nat.le_total count batchSize with early | late
    · rw [List.take_append_of_le_length (by rw [List.length_map, size]; exact early),
        ← List.map_take]
      exact cost_within_page (Nat.le_of_eq size) (size ▸ early) start fetched
    · obtain ⟨later, rfl⟩ := Nat.exists_eq_add_of_le late
      have nonempty : page ≠ [] := by
        intro none
        rw [none, List.length_nil] at size
        omega
      rw [List.length_append, size] at within
      have pages : batchSize + later = (page.map (·, seen)).length + later := by
        rw [List.length_map, size]
      rw [pages, List.take_length_add_append, reached_page _ _ nonempty,
        rest.cost later (Nat.le_of_add_le_add_left within), ← pages, add_ceilDiv positive]
  ended := by
    rw [rest.ended, List.length_append, size, Nat.add_div_left _ positive, Nat.add_comm 1]

/-! ## Backends that serve a list -/

/-- Asked for page after page of the query, the backend serves these hits; `served` gives its state
after so many fetches. -/
def Backend.Serves (backend : Backend σ) (query : Query) (batchSize : Nat) (all : List Hit)
    (served : Nat → σ) : Prop :=
  ∀ fetches, backend.fetchPage query batchSize (fetches * batchSize) (served fetches) =
    (.ok ⟨(all.drop (fetches * batchSize)).take batchSize, all.length⟩, served (fetches + 1))

namespace Backend.Serves

variable {backend : Backend σ} {query : Query} {batchSize : Nat} {all : List Hit}
  {served : Nat → σ}

theorem transcript_from (serves : backend.Serves query batchSize all served)
    (positive : 0 < batchSize) (fetches : Nat) {observed : Observed σ}
    (start : observed.state = served fetches) :
    ∃ hits last,
      Transcript backend query batchSize (fetches * batchSize) observed hits none last ∧
      Told (all.drop (fetches * batchSize)) batchSize (fun more => served (fetches + more))
        observed hits last := by
  induction remaining : (all.drop (fetches * batchSize)).length using Nat.strongRecOn
    generalizing fetches observed with
  | ind _ ih =>
    have fetched := serves fetches
    rw [← start] at fetched
    rcases Nat.lt_or_ge (all.drop (fetches * batchSize)).length batchSize with few | many
    · rw [List.take_of_length_le (Nat.le_of_lt few)] at fetched
      exact ⟨_, _, .short fetched few, .short few start rfl⟩
    · have size : ((all.drop (fetches * batchSize)).take batchSize).length = batchSize := by
        rw [List.length_take, Nat.min_eq_left many]
      have next : (fetches + 1) * batchSize = fetches * batchSize + batchSize :=
        Nat.succ_mul fetches batchSize
      have fewer : (all.drop ((fetches + 1) * batchSize)).length <
          (all.drop (fetches * batchSize)).length := by
        rw [next, ← List.drop_drop, List.length_drop]
        omega
      have received : (observed.receive
          ⟨(all.drop (fetches * batchSize)).take batchSize, all.length⟩ batchSize
          (fetches * batchSize) (served (fetches + 1))).state = served (fetches + 1) := rfl
      obtain ⟨hits, last, transcript, told⟩ := ih _ (remaining ▸ fewer) _ received rfl
      rw [next, ← List.drop_drop] at told
      rw [next] at transcript
      simp only [Nat.add_assoc fetches 1] at told
      have whole : Told _ batchSize (fun more => served (fetches + more)) observed _ last :=
        .full positive size start received told
      rw [List.take_append_drop] at whole
      exact ⟨_, last, .full fetched (Nat.le_of_eq size.symm) transcript, whole⟩

theorem transcript (serves : backend.Serves query batchSize all served)
    (positive : 0 < batchSize) {observed : Observed σ} (start : observed.state = served 0) :
    ∃ hits last, Transcript backend query batchSize 0 observed hits none last ∧
      Told all batchSize served observed hits last := by
  have told := serves.transcript_from positive 0 start
  simpa only [Nat.zero_mul, List.drop_zero, Nat.zero_add] using told

end Backend.Serves

/-! ## Corpora -/

namespace Corpus

variable [Memory]

def hits (corpus : Corpus) (terms : List Term) : List Hit :=
  (corpus.selected terms).map Document.toHit

variable {corpus : Corpus} {query : Query} {terms : List Term}

theorem length_hits : (corpus.hits terms).length = (corpus.selected terms).length :=
  List.length_map _

theorem hits_fit (corpus : Corpus) : (corpus.hits terms).length ≤ Memory.room :=
  Nat.le_trans (length_hits.trans_le (List.length_filter_le _ _)) corpus.fits

theorem matching_eq (parsed : Query.terms query.text.toList = .ok terms) :
    corpus.matching query = .ok (corpus.selected terms) := by
  rw [matching, parsed]
  rfl

theorem fetchPage_eq (steady : corpus.failAfterPages = none)
    (parsed : Query.terms query.text.toList = .ok terms) (batchSize offset : Nat) (usage : Usage) :
    corpus.backend.fetchPage query batchSize offset usage =
      (.ok ⟨((corpus.hits terms).drop offset).take batchSize, (corpus.hits terms).length⟩,
        usage.fetched 1) := by
  simp [backend, page, exhausted, steady, matching_eq parsed, Except.map, Usage.fetched, hits,
    List.map_take, List.map_drop]

theorem serves (steady : corpus.failAfterPages = none)
    (parsed : Query.terms query.text.toList = .ok terms) (batchSize : Nat) (usage : Usage) :
    corpus.backend.Serves query batchSize (corpus.hits terms) usage.fetched := by
  intro fetches
  rw [fetchPage_eq steady parsed, Usage.fetched_fetched]

theorem transcript (steady : corpus.failAfterPages = none)
    (parsed : Query.terms query.text.toList = .ok terms) {batchSize : Nat}
    (positive : 0 < batchSize) (observed : Observed Usage) :
    ∃ hits last, Transcript corpus.backend query batchSize 0 observed hits none last ∧
      Told (corpus.hits terms) batchSize observed.state.fetched observed hits last :=
  (serves steady parsed batchSize observed.state).transcript positive rfl

end Corpus

end VisibleFacets
