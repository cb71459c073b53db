import VisibleFacets.Proofs.Search.Exhaustion
import VisibleFacets.Search.Script

/-!
# What a pager fetches, and when

Whatever a backend answers, a pager tells what its fetches brought, one item a call, and fetches
only when nothing else is left to tell. `Pager.Progress` holds between any two calls
(`Progress.next`), and `Pager.fetches_onDemand` is what follows for any number of them.
-/

namespace VisibleFacets

variable {σ : Type}

structure Fetch where
  query : Query
  batchSize : Nat
  offset : Nat
  answer : Except Error Page

/-- The same backend, which also writes down the fetches with their answers. -/
def Backend.logged (backend : Backend σ) : Backend (σ × List Fetch) where
  fetchPage query batchSize offset state :=
    let (answer, next) := backend.fetchPage query batchSize offset state.1
    (answer, next, state.2 ++ [⟨query, batchSize, offset, answer⟩])
  aggregate query limit state :=
    let (answer, next) := backend.aggregate query limit state.1
    (answer, next, state.2)

namespace Fetch

def call (fetch : Fetch) : Call := .fetch fetch.query fetch.batchSize fetch.offset

def hits (fetch : Fetch) : List Hit :=
  match fetch.answer with
  | .ok page => page.hits
  | .error _ => []

def items (fetch : Fetch) : List (Except Error Hit) :=
  match fetch.answer with
  | .ok page => page.hits.map .ok
  | .error error => [.error error]

/-- Neither failed nor short of hits, so that another fetch may follow. -/
def isFull (fetch : Fetch) : Bool :=
  match fetch.answer with
  | .ok page => !page.isShort fetch.batchSize
  | .error _ => false

/-- All that the fetches have to tell. -/
def tale (log : List Fetch) : List (Except Error Hit) := log.flatMap items

def received (log : List Fetch) : List Hit := log.flatMap hits

theorem tale_concat (log : List Fetch) (fetch : Fetch) :
    tale (log ++ [fetch]) = tale log ++ fetch.items := by
  simp [tale]

theorem received_concat (log : List Fetch) (fetch : Fetch) :
    received (log ++ [fetch]) = received log ++ fetch.hits := by
  simp [received]

theorem items_of_isFull {fetch : Fetch} (full : fetch.isFull = true) :
    fetch.items = fetch.hits.map .ok := by
  unfold isFull at full
  unfold items hits
  split at full
  · simp [*]
  · contradiction

theorem tale_of_isFull {log : List Fetch} (full : ∀ fetch ∈ log, fetch.isFull = true) :
    tale log = (received log).map .ok := by
  induction log with
  | nil => rfl
  | cons fetch log ih =>
    obtain ⟨here, full⟩ := List.forall_mem_cons.mp full
    have rest := ih full
    simp_all [tale, received, items_of_isFull]

end Fetch

namespace Pager

open Fetch (tale received)

variable {backend : Backend σ} {query : Query} {batchSize calls : Nat} {pager : Pager}

/-- After so many calls the pager has told so much of what these fetches brought, and has the rest
of it at hand. It goes on fetching only while all pages were full. -/
structure Progress (query : Query) (batchSize calls : Nat) (pager : Pager) (log : List Fetch) :
    Prop where
  size : pager.batchSize = batchSize
  asked : log.map Fetch.call = Call.pages query batchSize log.length
  earlier : ∀ fetch ∈ log.dropLast, fetch.isFull = true
  pending : (tale log).drop calls = pager.pending.map .ok
  going : (pager.lastPage || pager.done) = false →
    (∀ fetch ∈ log, fetch.isFull = true) ∧ pager.offset = log.length * batchSize ∧
      calls ≤ (tale log).length
  stopped : (pager.lastPage || pager.done) = true → ∃ last ∈ log.getLast?, last.isFull = false
  received : pager.offset ≤ (received log).length

theorem progress_start (query : Query) (batchSize : Nat) :
    Progress query batchSize 0 (.start batchSize) [] where
  size := rfl
  asked := rfl
  earlier := by simp
  pending := rfl
  going _ := ⟨by simp, (Nat.zero_mul _).symm, Nat.le_refl 0⟩
  stopped closed := by contradiction
  received := Nat.le_refl 0

/-! ## One call -/

/-- The call tells the next item of the tale, if there is one. -/
def Advances (backend : Backend σ) (query : Query) (batchSize calls : Nat) (pager : Pager)
    (observed : Observed (σ × List Fetch)) (log : List Fetch) : Prop :=
  ∃ after seen, pager.next backend.logged query observed = ((tale log)[calls]?, after, seen) ∧
    seen.state.2 = log ∧ Progress query batchSize (calls + 1) after log

theorem Progress.at_hand {observed : Observed (σ × List Fetch)} {log : List Fetch}
    (progress : Progress query batchSize calls pager log) (same : observed.state.2 = log)
    (atHand : pager.pending = [] → (pager.lastPage || pager.done) = true) :
    Advances backend query batchSize calls pager observed log := by
  have rest := progress.pending
  cases pending : pager.pending with
  | cons hit hits =>
    rw [pending, List.map_cons] at rest
    have told : (tale log)[calls]? = some (.ok hit) := by
      rw [← List.head?_drop, rest, List.head?_cons]
    have before : calls < (tale log).length := (List.getElem?_eq_some_iff.mp told).1
    have tail : (tale log).drop (calls + 1) = hits.map .ok := by
      rw [← List.tail_drop, rest, List.tail_cons]
    refine ⟨{ pager with pending := hits }, observed, ?_, same, ?_⟩
    · rw [next_pending pending, told]
    · exact { progress with
        pending := tail
        going := fun going =>
          have ⟨full, offset, _⟩ := progress.going going
          ⟨full, offset, before⟩ }
  | nil =>
    have stopped := atHand pending
    rw [pending, List.map_nil, List.drop_eq_nil_iff] at rest
    have told : (tale log)[calls]? = none := List.getElem?_eq_none rest
    have tail : (tale log).drop (calls + 1) = pager.pending.map .ok := by
      rw [List.drop_eq_nil_of_le (by omega), pending, List.map_nil]
    refine ⟨{ pager with done := true }, observed, ?_, same, ?_⟩
    · rw [next_stopped pending stopped, told]
    · exact { progress with
        pending := tail
        going := fun going => absurd going (by simp)
        stopped := fun _ => progress.stopped stopped }

theorem logged_fetchPage {answer : Except Error Page} {next : σ} {offset : Nat}
    {state : σ × List Fetch}
    (fetched : backend.fetchPage query batchSize offset state.1 = (answer, next)) :
    backend.logged.fetchPage query batchSize offset state =
      (answer, next, state.2 ++ [⟨query, batchSize, offset, answer⟩]) := by
  simp only [Backend.logged, fetched]

section Fetching

variable {log : List Fetch} (progress : Progress query batchSize calls pager log)
  (going : (pager.lastPage || pager.done) = false)
include progress going

theorem Progress.asked_next (answer : Except Error Page) :
    (log ++ [Fetch.mk query batchSize pager.offset answer]).map Fetch.call =
      Call.pages query batchSize
        (log ++ [Fetch.mk query batchSize pager.offset answer]).length := by
  obtain ⟨-, offset, -⟩ := progress.going going
  rw [List.map_append, progress.asked, List.length_append, List.length_singleton, Call.pages_succ,
    ← offset]
  rfl

theorem Progress.length_tale (empty : pager.pending = []) : (tale log).length = calls := by
  obtain ⟨-, -, within⟩ := progress.going going
  have rest := progress.pending
  rw [empty, List.map_nil, List.drop_eq_nil_iff] at rest
  omega

theorem Progress.failed (empty : pager.pending = []) (error : Error) :
    Progress query batchSize (calls + 1) { pager with done := true }
      (log ++ [⟨query, batchSize, pager.offset, .error error⟩]) where
  size := progress.size
  asked := progress.asked_next going _
  earlier := by
    rw [List.dropLast_concat]
    exact (progress.going going).1
  pending := by
    have length := progress.length_tale going empty
    rw [Fetch.tale_concat, List.drop_eq_nil_of_le (by simp [Fetch.items, length])]
    simp [empty]
  going opened := by simp at opened
  stopped _ := ⟨_, List.getLast?_concat, rfl⟩
  received := by
    rw [Fetch.received_concat, List.length_append]
    exact Nat.le_add_right_of_le progress.received

theorem Progress.receive (positive : 0 < batchSize) (empty : pager.pending = []) (page : Page) :
    Progress query batchSize calls (pager.receive page)
      (log ++ [⟨query, batchSize, pager.offset, .ok page⟩]) := by
  obtain ⟨full, offset, within⟩ := progress.going going
  have length := progress.length_tale going empty
  have notDone := (Bool.or_eq_false_iff.mp going).2
  have last : (pager.receive page).lastPage = page.isShort batchSize :=
    congrArg page.isShort progress.size
  constructor
  case size => exact progress.size
  case asked => exact progress.asked_next going _
  case earlier =>
    rw [List.dropLast_concat]
    exact full
  case pending =>
    rw [Fetch.tale_concat, List.drop_append_of_le_length within,
      List.drop_eq_nil_of_le (Nat.le_of_eq length), List.nil_append]
    rfl
  case going =>
    intro opened
    rw [last, Bool.or_eq_false_iff] at opened
    refine ⟨?_, ?_, ?_⟩
    · intro fetch member
      rcases List.mem_append.mp member with member | member
      · exact full fetch member
      · obtain rfl := List.mem_singleton.mp member
        simp [Fetch.isFull, opened.1]
    · simp [Pager.receive, progress.size, opened.1, offset, Nat.succ_mul]
    · rw [Fetch.tale_concat, List.length_append]
      omega
  case stopped =>
    intro closed
    have short : page.isShort batchSize = true := by
      rw [last, Bool.or_eq_true] at closed
      exact closed.resolve_right (by simp [Pager.receive, notDone])
    exact ⟨_, List.getLast?_concat, by simp [Fetch.isFull, short]⟩
  case received =>
    have before := progress.received
    rw [Fetch.received_concat, List.length_append]
    simp only [Pager.receive, Fetch.hits, progress.size]
    split
    case isTrue => omega
    case isFalse long =>
      rw [Page.isShort_eq_true_iff positive] at long
      omega

end Fetching

/-- A call goes on with the tale. It fetches once, if all pages were full and everything on them was
told, or not at all. -/
theorem Progress.next {observed : Observed (σ × List Fetch)} (positive : 0 < batchSize)
    (progress : Progress query batchSize calls pager observed.state.2) :
    ∃ log, Advances backend query batchSize calls pager observed log ∧
      (log = observed.state.2 ∨ ∃ fetch, log = observed.state.2 ++ [fetch] ∧
        (∀ fetch ∈ observed.state.2, fetch.isFull = true) ∧
        (tale observed.state.2).length = calls) := by
  by_cases atHand : pager.pending = [] → (pager.lastPage || pager.done) = true
  · exact ⟨_, progress.at_hand rfl atHand, .inl rfl⟩
  obtain ⟨empty, opened⟩ := Classical.not_imp.mp atHand
  have going : (pager.lastPage || pager.done) = false := Bool.not_eq_true _ ▸ opened
  obtain ⟨full, -, -⟩ := progress.going going
  have length := progress.length_tale going empty
  rcases fetched : backend.fetchPage query batchSize pager.offset observed.state.1 with
    ⟨answer, next⟩
  have logged := logged_fetchPage fetched
  rw [← progress.size] at logged
  refine ⟨_, ?_, .inr ⟨⟨query, batchSize, pager.offset, answer⟩, rfl, full, length⟩⟩
  cases answer with
  | error error =>
    refine ⟨_, ⟨(next, _), observed.signals⟩, ?_, rfl, progress.failed going empty error⟩
    rw [next_failed empty going logged, Fetch.tale_concat, progress.size]
    simp [Fetch.items, length]
  | ok page =>
    have received := progress.receive going positive empty page
    have atHand (none : page.hits = []) :
        ((pager.receive page).lastPage || (pager.receive page).done) = true := by
      simp [Pager.receive, Page.isShort, none]
    obtain ⟨after, seen, told, same, advanced⟩ : Advances backend query batchSize calls _
        (observed.receive page pager.batchSize pager.offset (next, _)) _ :=
      received.at_hand (by rw [← progress.size]; rfl) atHand
    refine ⟨after, seen, ?_, same, advanced⟩
    rw [← told, next_fetched empty going logged]

/-! ## Any number of calls -/

theorem take_add (first more : Nat) (pager : Pager) (observed : Observed σ) :
    take backend query (first + more) pager observed =
      let (items, middle, seen) := take backend query first pager observed
      let (others, after, last) := take backend query more middle seen
      (items ++ others, after, last) := by
  induction first generalizing pager observed with
  | zero => simp [take]
  | succ first ih => simp [Nat.succ_add, take, ih]

section Trail

variable (backend : Backend σ) (query : Query) (batchSize : Nat) (observed : Observed σ)

/-- So many calls of a new pager. -/
def trail (calls : Nat) :
    List (Option (Except Error Hit)) × Pager × Observed (σ × List Fetch) :=
  take backend.logged query calls (.start batchSize) ⟨(observed.state, []), observed.signals⟩

def told (calls : Nat) : List (Option (Except Error Hit)) :=
  (trail backend query batchSize observed calls).1

def reader (calls : Nat) : Pager := (trail backend query batchSize observed calls).2.1

def log (calls : Nat) : List Fetch := (trail backend query batchSize observed calls).2.2.state.2

end Trail

/-- What so many calls told, the fetches they made, and the pager after them. -/
structure OnDemand (query : Query) (batchSize : Nat)
    (told : Nat → List (Option (Except Error Hit))) (log : Nat → List Fetch)
    (reader : Nat → Pager) : Prop where
  /-- The fetches ask for page after page. -/
  asked : ∀ calls, (log calls).map Fetch.call = Call.pages query batchSize (log calls).length
  /-- Every call tells the next item of what was fetched, or the end. -/
  tells : ∀ calls, told calls = (List.range calls).map fun index => (tale (log calls))[index]?
  /-- A call makes one fetch at most, and only when all pages were full and their hits are told. -/
  fetches : ∀ calls, log (calls + 1) = log calls ∨
    ∃ fetch, log (calls + 1) = log calls ++ [fetch] ∧
      (∀ fetch ∈ log calls, fetch.isFull = true) ∧
      told calls = (received (log calls)).map fun hit => some (.ok hit)
  /-- Nothing is fetched after a failure or a page that is short of hits. -/
  earlier : ∀ calls, ∀ fetch ∈ (log calls).dropLast, fetch.isFull = true
  /-- The end is told only after such a fetch. -/
  ended : ∀ calls, none ∈ told calls → ∃ last ∈ (log calls).getLast?, last.isFull = false
  /-- After the end or a failure the calls tell the end and fetch nothing. -/
  silent : ∀ calls item, told (calls + 1) = told calls ++ [item] →
    (∀ hit, item ≠ some (.ok hit)) → ∀ more,
      log (calls + 1 + more) = log (calls + 1) ∧
      told (calls + 1 + more) = told (calls + 1) ++ List.replicate more none
  offset : ∀ calls, (reader calls).offset ≤ (received (log calls)).length

section Calls

variable {observed : Observed σ}

theorem trail_succ {item : Option (Except Error Hit)} {after : Pager}
    {seen : Observed (σ × List Fetch)}
    (next : (reader backend query batchSize observed calls).next backend.logged query
      (trail backend query batchSize observed calls).2.2 = (item, after, seen)) :
    trail backend query batchSize observed (calls + 1) =
      (told backend query batchSize observed calls ++ [item], after, seen) :=
  take_succ_of_next rfl next

theorem trail_finished {item : Option (Except Error Hit)}
    (next : told backend query batchSize observed (calls + 1) =
      told backend query batchSize observed calls ++ [item])
    (without : ∀ hit, item ≠ some (.ok hit)) (more : Nat) :
    log backend query batchSize observed (calls + 1 + more) =
        log backend query batchSize observed (calls + 1) ∧
      told backend query batchSize observed (calls + 1 + more) =
        told backend query batchSize observed (calls + 1) ++ List.replicate more none := by
  rcases reached : (reader backend query batchSize observed calls).next backend.logged query
    (trail backend query batchSize observed calls).2.2 with ⟨given, after, seen⟩
  have walked := trail_succ reached
  have same : given = item := by
    rw [told, walked] at next
    simpa using next
  have finished := finished_of_next reached (same ▸ without)
  obtain ⟨last, rest⟩ : ∃ last, take backend.logged query more after seen =
      (List.replicate more none, last, seen) := take_finished finished more
  have whole : trail backend query batchSize observed (calls + 1 + more) =
      ((trail backend query batchSize observed (calls + 1)).1 ++ List.replicate more none, last,
        (trail backend query batchSize observed (calls + 1)).2.2) := by
    rw [walked, trail, take_add]
    rw [trail] at walked
    simp [walked, rest]
  simp [log, told, whole]

variable (positive : 0 < batchSize)
include positive

theorem trail_next
    (progress : Progress query batchSize calls (reader backend query batchSize observed calls)
      (log backend query batchSize observed calls)) :
    let before := log backend query batchSize observed calls
    let later := log backend query batchSize observed (calls + 1)
    Progress query batchSize (calls + 1) (reader backend query batchSize observed (calls + 1))
        later ∧
      told backend query batchSize observed (calls + 1) =
        told backend query batchSize observed calls ++ [(tale later)[calls]?] ∧
      (later = before ∨ ∃ fetch, later = before ++ [fetch] ∧
        (∀ fetch ∈ before, fetch.isFull = true) ∧ (tale before).length = calls) := by
  intro before later
  obtain ⟨_, ⟨after, seen, next, rfl, advanced⟩, extended⟩ := progress.next positive
  have walked := trail_succ next
  have logged : later = seen.state.2 := by simp only [later, log, walked]
  refine ⟨?_, ?_, logged ▸ extended⟩
  · rw [logged, reader, walked]
    exact advanced
  · rw [logged, told, walked]

theorem trail_progress (calls : Nat) :
    Progress query batchSize calls (reader backend query batchSize observed calls)
        (log backend query batchSize observed calls) ∧
      told backend query batchSize observed calls = (List.range calls).map fun index =>
        (tale (log backend query batchSize observed calls))[index]? := by
  induction calls with
  | zero => exact ⟨progress_start query batchSize, rfl⟩
  | succ calls ih =>
    obtain ⟨progress, tells⟩ := ih
    obtain ⟨advanced, next, extended⟩ := trail_next positive progress
    refine ⟨advanced, ?_⟩
    rw [next, tells, List.range_succ, List.map_append, List.map_singleton]
    congr 1
    rcases extended with same | ⟨fetch, same, -, length⟩
    · rw [same]
    · apply List.map_congr_left
      intro index member
      rw [same, Fetch.tale_concat, List.getElem?_append_left]
      rw [length]
      exact List.mem_range.mp member

/-- Whatever the backend answers, and however often the pager is called. -/
theorem fetches_onDemand :
    OnDemand query batchSize (told backend query batchSize observed)
      (log backend query batchSize observed) (reader backend query batchSize observed) := by
  have walked (calls : Nat) :
      Progress query batchSize calls (reader backend query batchSize observed calls)
          (log backend query batchSize observed calls) ∧
        told backend query batchSize observed calls = (List.range calls).map fun index =>
          (tale (log backend query batchSize observed calls))[index]? :=
    trail_progress positive calls
  have progress (calls : Nat) := (walked calls).1
  have tells (calls : Nat) := (walked calls).2
  constructor
  case asked => exact fun calls => (progress calls).asked
  case tells => exact tells
  case fetches =>
    intro calls
    obtain ⟨-, -, extended⟩ := trail_next positive (progress calls)
    apply extended.imp_right
    rintro ⟨fetch, same, full, length⟩
    have all := Fetch.tale_of_isFull full
    rw [all, List.length_map] at length
    have whole := tellings_eq (received (log backend query batchSize observed calls)) calls
    rw [length, Nat.sub_self, List.take_of_length_le (Nat.le_of_eq length)] at whole
    refine ⟨fetch, same, full, ?_⟩
    rw [tells, all]
    simpa [tellings] using whole
  case earlier => exact fun calls => (progress calls).earlier
  case ended =>
    intro calls member
    rw [tells, List.mem_map] at member
    obtain ⟨index, inside, beyond⟩ := member
    rw [List.mem_range] at inside
    rw [List.getElem?_eq_none_iff] at beyond
    apply (progress calls).stopped
    rw [← Bool.not_eq_false]
    intro going
    obtain ⟨-, -, within⟩ := (progress calls).going going
    omega
  case silent => exact fun calls item next without more => trail_finished next without more
  case offset => exact fun calls => (progress calls).received

end Calls

/-- The first page holds more than it was asked for, and the second is short. -/
theorem fetches_onDemand_surplus :
    let backend := Script.backend
      ⟨[.ok ⟨[{ id := "a" }, { id := "b" }, { id := "c" }], 9⟩, .ok ⟨[{ id := "d" }], 1⟩],
        .ok .empty⟩
    let observed : Observed CallLog := ⟨{}, []⟩
    OnDemand ⟨"*", []⟩ 2 (told backend ⟨"*", []⟩ 2 observed) (log backend ⟨"*", []⟩ 2 observed)
        (reader backend ⟨"*", []⟩ 2 observed) ∧
      (log backend ⟨"*", []⟩ 2 observed 3).length = 1 ∧
      (log backend ⟨"*", []⟩ 2 observed 9).map Fetch.call =
        [.fetch ⟨"*", []⟩ 2 0, .fetch ⟨"*", []⟩ 2 2] ∧
      none ∈ told backend ⟨"*", []⟩ 2 observed 5 ∧
      (reader backend ⟨"*", []⟩ 2 observed 9).offset = 2 := by
  intro backend observed
  exact ⟨fetches_onDemand Nat.two_pos, rfl, rfl, .tail _ (.tail _ (.tail _ (.tail _ (.head _)))),
    rfl⟩

end Pager

end VisibleFacets
