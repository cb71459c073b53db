import VisibleFacets.Proofs.Sampling.Bounded
import VisibleFacets.Proofs.Search.Transcript

/-!
# The beginning of a reading

An `Excerpt` is as much of a transcript as so many hits take, and there is one for every backend,
whether its pages come to an end or not. A new pager that is asked for so many hits reads it:
`Excerpt.reads`.
-/

namespace VisibleFacets

variable {σ : Type}

/-- The pages that are fetched from an offset on to read so many hits, and the hits that are read;
the failure, if a fetch failed; and what was observed in the end. A page is fetched only if hits are
still wanted. -/
inductive Excerpt (backend : Backend σ) (query : Query) (batchSize : Nat) :
    Nat → Nat → Observed σ → List Hit → Option Error → Observed σ → Prop
  | enough {offset : Nat} {observed : Observed σ} :
      Excerpt backend query batchSize 0 offset observed [] none observed
  | failed {wanted offset : Nat} {observed : Observed σ} {error : Error} {state : σ}
      (fetched : backend.fetchPage query batchSize offset observed.state = (.error error, state)) :
      Excerpt backend query batchSize (wanted + 1) offset observed [] (some error)
        { observed with state }
  | short {wanted offset : Nat} {observed : Observed σ} {page : Page} {state : σ}
      (fetched : backend.fetchPage query batchSize offset observed.state = (.ok page, state))
      (few : page.hits.length < batchSize) :
      Excerpt backend query batchSize (wanted + 1) offset observed (page.hits.take (wanted + 1))
        none (observed.receive page batchSize offset state)
  | full {wanted offset : Nat} {observed : Observed σ} {page : Page} {state : σ}
      (fetched : backend.fetchPage query batchSize offset observed.state = (.ok page, state))
      (many : batchSize ≤ page.hits.length) {hits : List Hit} {failure : Option Error}
      {last : Observed σ}
      (rest : Excerpt backend query batchSize (wanted + 1 - page.hits.length) (offset + batchSize)
        (observed.receive page batchSize offset state) hits failure last) :
      Excerpt backend query batchSize (wanted + 1) offset observed
        (page.hits.take (wanted + 1) ++ hits) failure last

namespace Excerpt

variable {backend : Backend σ} {query : Query} {batchSize : Nat}

theorem exists_of_pos (positive : 0 < batchSize) (backend : Backend σ) (query : Query)
    (wanted offset : Nat) (observed : Observed σ) :
    ∃ hits failure last,
      Excerpt backend query batchSize wanted offset observed hits failure last := by
  induction wanted using Nat.strongRecOn generalizing offset observed with
  | ind wanted ih =>
    cases wanted with
    | zero => exact ⟨[], none, observed, .enough⟩
    | succ wanted =>
      rcases fetched : backend.fetchPage query batchSize offset observed.state with
        ⟨error | page, state⟩
      · exact ⟨[], some error, _, .failed fetched⟩
      · rcases Nat.lt_or_ge page.hits.length batchSize with few | many
        · exact ⟨_, none, _, .short fetched few⟩
        · obtain ⟨hits, failure, last, rest⟩ := ih (wanted + 1 - page.hits.length) (by omega)
            (offset + batchSize) (observed.receive page batchSize offset state)
          exact ⟨_, failure, last, .full fetched many rest⟩

end Excerpt

namespace Pager

variable {backend : Backend σ} {query : Query} {pager : Pager} {observed last : Observed σ}

/-- Hits at hand are told first. -/
theorem reads_pending {pending : List Hit} (held : pager.pending = pending) {wanted : Nat}
    {hits : List Hit} {failure : Option Error}
    (rest : ∃ after, (source backend query).Reads (wanted - pending.length)
      ({ pager with pending := [] }, observed) hits failure (after, last)) :
    ∃ after, (source backend query).Reads wanted (pager, observed) (pending.take wanted ++ hits)
      failure (after, last) := by
  induction pending generalizing pager wanted with
  | nil =>
    have same : { pager with pending := [] } = pager := by rw [← held]
    rw [same] at rest
    simpa using rest
  | cons hit pending ih =>
    cases wanted with
    | zero =>
      obtain ⟨after, rest⟩ := rest
      rw [Nat.zero_sub] at rest
      cases rest with
      | enough => exact ⟨pager, .enough⟩
    | succ wanted =>
      rw [List.length_cons, Nat.succ_sub_succ] at rest
      have atHand : ({ pager with pending } : Pager).pending = pending := rfl
      obtain ⟨after, reads⟩ := ih atHand rest
      exact ⟨after, .more (next_pending held) reads⟩

theorem reads_stopped (empty : pager.pending = []) (stopped : (pager.lastPage || pager.done) = true)
    (wanted : Nat) :
    ∃ after, (source backend query).Reads wanted (pager, observed) [] none (after, observed) := by
  cases wanted with
  | zero => exact ⟨pager, .enough⟩
  | succ wanted => exact ⟨_, .ended (next_stopped empty stopped)⟩

end Pager

theorem Excerpt.reads {backend : Backend σ} {query : Query} {batchSize wanted offset : Nat}
    {observed last : Observed σ} {hits : List Hit} {failure : Option Error}
    (positive : 0 < batchSize)
    (excerpt : Excerpt backend query batchSize wanted offset observed hits failure last)
    {pager : Pager} (size : pager.batchSize = batchSize) (place : pager.offset = offset)
    (empty : pager.pending = []) (going : (pager.lastPage || pager.done) = false) :
    ∃ after, (Pager.source backend query).Reads wanted (pager, observed) hits failure
      (after, last) := by
  induction excerpt generalizing pager with
  | enough => exact ⟨pager, .enough⟩
  | failed fetched =>
    rw [← size, ← place] at fetched
    exact ⟨_, .failed (Pager.next_failed empty going fetched)⟩
  | @short wanted offset observed page state fetched few =>
    subst size place
    have short := (Page.isShort_eq_true_iff positive).mpr few
    have stopped : ((pager.receive page).lastPage || (pager.receive page).done) = true := by
      simp [Pager.receive, short]
    have held : (pager.receive page).pending = page.hits := rfl
    have ended := @Pager.reads_stopped _ backend query { pager.receive page with pending := [] }
      (observed.receive page pager.batchSize pager.offset state) rfl stopped
    obtain ⟨after, reads⟩ := Pager.reads_pending held (ended (wanted + 1 - page.hits.length))
    rw [List.append_nil] at reads
    exact ⟨after, reads.of_next_eq (Pager.next_fetched empty going fetched)⟩
  | @full wanted offset observed page state fetched many hits failure last _ ih =>
    subst size place
    have long : page.isShort pager.batchSize = false := by
      rw [← Bool.not_eq_true, Page.isShort_eq_true_iff positive]
      exact Nat.not_lt.mpr many
    have goingOn : ((pager.receive page).lastPage || (pager.receive page).done) = false := by
      simpa [Pager.receive, long] using (Bool.or_eq_false_iff.mp going).2
    have further : (pager.receive page).offset = pager.offset + pager.batchSize := by
      simp [Pager.receive, long]
    have held : (pager.receive page).pending = page.hits := rfl
    have rest := @ih { pager.receive page with pending := [] } rfl further rfl goingOn
    obtain ⟨after, reads⟩ := Pager.reads_pending held rest
    exact ⟨after, reads.of_next_eq (Pager.next_fetched empty going fetched)⟩

theorem Pager.excerpt_iff_reads {backend : Backend σ} {query : Query} {batchSize wanted : Nat}
    {observed last : Observed σ} {hits : List Hit} {failure : Option Error}
    (positive : 0 < batchSize) :
    Excerpt backend query batchSize wanted 0 observed hits failure last ↔
      ∃ after, (source backend query).Reads wanted (.start batchSize, observed) hits failure
        (after, last) := by
  constructor
  · intro excerpt
    exact excerpt.reads positive rfl rfl rfl rfl
  · rintro ⟨after, reads⟩
    obtain ⟨others, other, final, excerpt⟩ :=
      Excerpt.exists_of_pos positive backend query wanted 0 observed
    have started : (Pager.start batchSize).batchSize = batchSize := rfl
    obtain ⟨reached, rereads⟩ := excerpt.reads positive started rfl rfl rfl
    obtain ⟨rfl, rfl, same⟩ := reads.unique rereads
    cases same
    exact excerpt

theorem Excerpt.unique {backend : Backend σ} {query : Query} {batchSize wanted : Nat}
    {observed last final : Observed σ} {hits others : List Hit} {failure other : Option Error}
    (positive : 0 < batchSize)
    (excerpt : Excerpt backend query batchSize wanted 0 observed hits failure last)
    (another : Excerpt backend query batchSize wanted 0 observed others other final) :
    others = hits ∧ other = failure ∧ final = last := by
  obtain ⟨_, reads⟩ := (Pager.excerpt_iff_reads positive).mp excerpt
  obtain ⟨_, rereads⟩ := (Pager.excerpt_iff_reads positive).mp another
  obtain ⟨sameHits, sameFailure, same⟩ := reads.unique rereads
  exact ⟨sameHits, sameFailure, congrArg Prod.snd same⟩

/-! ## Excerpts of a transcript -/

section Transcripts

variable {backend : Backend σ} {query : Query} {batchSize count : Nat}
  {observed last : Observed σ} {hits : List (Hit × Observed σ)} {failure : Option Error}

theorem Transcript.excerpt (positive : 0 < batchSize)
    (transcript : Transcript backend query batchSize 0 observed hits failure last)
    (within : count ≤ hits.length) :
    Excerpt backend query batchSize count 0 observed ((hits.map Prod.fst).take count) none
      (reached observed (hits.take count)) := by
  have follows := Pager.Follows.start transcript
  rw [← List.take_append_drop count hits] at follows
  obtain ⟨pager, gives, -⟩ := follows.gives positive
  have reads := gives.reads .enough
  rw [List.length_map, List.length_take_of_le within, List.append_nil, List.map_take] at reads
  exact (Pager.excerpt_iff_reads positive).mpr ⟨pager, reads⟩

theorem Transcript.excerpt_whole (positive : 0 < batchSize)
    (transcript : Transcript backend query batchSize 0 observed hits failure last) :
    Excerpt backend query batchSize hits.length 0 observed (hits.map Prod.fst) none
      (reached observed hits) := by
  have whole := transcript.excerpt positive (Nat.le_refl hits.length)
  rwa [List.take_length, List.take_of_length_le (Nat.le_of_eq (List.length_map _))] at whole

theorem Transcript.excerpt_beyond (positive : 0 < batchSize)
    (transcript : Transcript backend query batchSize 0 observed hits failure last)
    (beyond : hits.length < count) :
    Excerpt backend query batchSize count 0 observed (hits.map Prod.fst) failure last := by
  obtain ⟨more, rfl⟩ := Nat.exists_eq_add_of_lt beyond
  obtain ⟨pager, after, gives, told⟩ := Pager.gives_transcript positive transcript
  have ends : (Pager.source backend query).Reads (more + 1) (pager, reached observed hits) []
      failure (after, last) := by
    cases failure with
    | none => exact .ended told
    | some error => exact .failed told
  have reads := gives.reads ends
  rw [List.length_map, List.append_nil] at reads
  exact (Pager.excerpt_iff_reads positive).mpr ⟨after, reads⟩

end Transcripts

end VisibleFacets
