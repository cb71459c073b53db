import Mathlib.Data.Fintype.BigOperators
import VisibleFacets.Proofs.Facet.Ending
import VisibleFacets.Proofs.Search.Exhaustion

/-!
# A corpus in common

Pagers and whole requests take turns on one corpus, which counts the calls of all of them. Each is
answered as it would be alone, and the corpus has counted what they would have cost alone:
`Corpus.session_separate`.
-/

namespace VisibleFacets

/-! ## Adding up calls -/

namespace Usage

instance : Zero Usage := ⟨{}⟩

instance : Add Usage :=
  ⟨fun first second =>
    ⟨first.pageFetches + second.pageFetches, first.aggregations + second.aggregations⟩⟩

theorem add_def (first second : Usage) : first + second =
    ⟨first.pageFetches + second.pageFetches, first.aggregations + second.aggregations⟩ := rfl

instance : AddCommMonoid Usage where
  add_assoc first second third := by simp only [add_def, Nat.add_assoc]
  zero_add usage := by simp [add_def, OfNat.ofNat, Zero.zero]
  add_zero usage := by simp [add_def, OfNat.ofNat, Zero.zero]
  add_comm first second := by simp only [add_def, Nat.add_comm]
  nsmul := nsmulRec

end Usage

/-! ## Taking turns -/

/-- A check that looks at the hit alone, and may fail. -/
def Visibility.ofVerdict (verdict : Hit → Except Error Bool) : Visibility Unit :=
  ⟨fun hit checks => (verdict hit, checks)⟩

inductive Request where
  | page (query : Query) (batchSize offset : Nat)
  | table (query : Query) (limit : Nat)
  | facets (mode : Mode) (verdict : Hit → Except Error Bool) (query : Query) (plan : SamplePlan)
      (snapshot : Option Snapshot) (limit : Nat)

inductive Reply where
  | page (page : Page)
  | table (table : FacetTable)

variable {σ ι : Type}

namespace Request

variable [Memory]

def steps (backend : Backend σ) : Request → Counting σ Unit Reply
  | page query batchSize offset => do
    let page ← Counting.ask (backend.fetchPage query batchSize offset)
    return .page page
  | table query limit => do
    let table ← Counting.ask (backend.aggregate query limit)
    return .table table
  | facets mode verdict query plan snapshot limit => do
    let table ← mode.count backend (.ofVerdict verdict) query plan snapshot limit
    return .table table

def serve (backend : Backend σ) (request : Request) (observed : Observed σ) :
    Option (Except Error Reply × Observed σ) :=
  ((request.steps backend).run ⟨observed, ()⟩).map fun (reply, bench) => (reply, bench.observed)

theorem steps_couples {ρ : Type} {coupling : Coupling Error σ ρ} {first : Backend σ}
    {second : Backend ρ} (couples : Backend.Couples coupling first second) (request : Request) :
    Counting.Couples coupling (request.steps first) (request.steps second) := by
  cases request with
  | page query batchSize offset =>
    exact .bind (.ask (couples.fetchPage query batchSize offset)) fun _ => .pure _
  | table query limit => exact .bind (.ask (couples.aggregate query limit)) fun _ => .pure _
  | facets mode verdict query plan snapshot limit =>
    exact .bind (mode.count_couples couples _ query plan snapshot limit) fun _ => .pure _

theorem steps_ends {corpus : Corpus} (steady : corpus.failAfterPages = none) (request : Request) :
    Counting.Ends (request.steps corpus.backend) := by
  cases request with
  | page query batchSize offset => exact .bind (.ask _) fun _ => .pure _
  | table query limit => exact .bind (.ask _) fun _ => .pure _
  | facets mode verdict query plan snapshot limit =>
    exact .bind (mode.count_ends steady _ query plan snapshot limit) fun _ => .pure _

end Request

/-- One of the readers makes its next call, or a request is served. -/
inductive Turn (ι : Type) where
  | call (reader : ι)
  | serve (request : Request)

namespace Turn

def request? : Turn ι → Option Request
  | call _ => none
  | serve request => some request

def isCall [DecidableEq ι] (reader : ι) : Turn ι → Bool
  | call other => other = reader
  | serve _ => false

end Turn

/-- Readers with a pager each, what each was told, and the replies to the requests. -/
structure Session (σ ι : Type) where
  pagers : ι → Pager
  told : ι → List (Option (Except Error Hit)) := fun _ => []
  replies : List (Except Error Reply) := []
  observed : Observed σ

namespace Session

variable [Memory] [DecidableEq ι]

def step (backend : Backend σ) (query : ι → Query) (session : Session σ ι) :
    Turn ι → Option (Session σ ι)
  | .call reader =>
    let (item, pager, observed) := (session.pagers reader).next backend (query reader)
      session.observed
    some { session with
      pagers := Function.update session.pagers reader pager
      told := Function.update session.told reader (session.told reader ++ [item])
      observed }
  | .serve request =>
    (request.serve backend session.observed).map fun (reply, observed) =>
      { session with replies := session.replies ++ [reply], observed }

def run (backend : Backend σ) (query : ι → Query) (turns : List (Turn ι))
    (session : Session σ ι) : Option (Session σ ι) :=
  turns.foldlM (fun session turn => session.step backend query turn) session

def opened (batchSize : ι → Nat) (state : σ) : Session σ ι where
  pagers reader := .start (batchSize reader)
  observed := ⟨state, []⟩

end Session

/-! ## One of many and one alone -/

namespace Corpus

section Turns

variable [Memory] {corpus : Corpus}

/-- The second of two runs began after so much use of the corpus. -/
def shifted (base : Usage) : Coupling Error Usage Usage where
  related first second := second = base + first
  beyond _ := False
  stopped _ _ := False

omit [Memory] in
theorem endless_shifted (base : Usage) : (shifted base).Endless := fun _ _ => id

theorem shifted_couples (steady : corpus.failAfterPages = none) (base : Usage) :
    Backend.Couples (shifted base) corpus.backend corpus.backend where
  fetchPage query batchSize offset := {
    keepsUp := by
      rintro usage _ rfl
      have same : corpus.page query batchSize offset (base + usage) =
          corpus.page query batchSize offset usage := by
        simp only [page, exhausted, steady]
      simp only [backend]
      rw [same]
      exact .along rfl
    beyond := id }
  aggregate query limit := {
    keepsUp := by
      rintro usage _ rfl
      exact .along rfl
    beyond := id }

theorem next_shifted (steady : corpus.failAfterPages = none) {query : Query} {pager after : Pager}
    {own seen shared : Observed Usage} {item : Option (Except Error Hit)} {base : Usage}
    (told : pager.next corpus.backend query own = (item, after, seen))
    (further : shared.state = base + own.state) :
    ∃ follower, pager.next corpus.backend query shared = (item, after, follower) ∧
      follower.state = base + seen.state :=
  Pager.next_along (corpus.shifted_couples steady base) (endless_shifted base) further told

theorem serve_shifted (steady : corpus.failAfterPages = none) (request : Request)
    (shared : Observed Usage) :
    ∃ reply cost follower, request.serve corpus.backend ⟨{}, []⟩ = some (reply, cost) ∧
      request.serve corpus.backend shared = some (reply, follower) ∧
      follower.state = shared.state + cost.state := by
  obtain ⟨⟨reply, bench⟩, ended⟩ := request.steps_ends steady ⟨⟨{}, []⟩, ()⟩
  have couples := request.steps_couples (corpus.shifted_couples steady shared.state)
  have start : ((shifted shared.state).bench Unit).related ⟨⟨{}, []⟩, ()⟩ ⟨shared, ()⟩ :=
    ⟨rfl, (add_zero shared.state).symm⟩
  obtain ⟨last, reran, kept⟩ := couples.keepsUp start ended
  cases kept with
  | along related =>
    refine ⟨reply, bench.observed, _, ?_, ?_, related.2⟩
    · rw [Request.serve, ended]
      rfl
    · rw [Request.serve, reran]
      rfl
  | short beyond _ => exact absurd beyond id

/-! ## All turns -/

variable [DecidableEq ι]

/-- What a reader does in these turns with a new corpus to itself. -/
def alone (corpus : Corpus) (query : ι → Query) (batchSize : ι → Nat) (turns : List (Turn ι))
    (reader : ι) : List (Option (Except Error Hit)) × Pager × Observed Usage :=
  Pager.take corpus.backend (query reader) (turns.countP (Turn.isCall reader))
    (.start (batchSize reader)) ⟨{}, []⟩

section Alone

variable {query : ι → Query} {batchSize : ι → Nat} {turns : List (Turn ι)} {turn : Turn ι}
  {reader : ι}

theorem alone_of_other (other : turn.isCall reader = false) :
    corpus.alone query batchSize (turns ++ [turn]) reader =
      corpus.alone query batchSize turns reader := by
  have same : (turns ++ [turn]).countP (Turn.isCall reader) =
      turns.countP (Turn.isCall reader) := by
    simp [other]
  rw [alone, same, alone]

theorem alone_of_call {item : Option (Except Error Hit)} {after : Pager} {seen : Observed Usage}
    (told : (corpus.alone query batchSize turns reader).2.1.next corpus.backend (query reader)
      (corpus.alone query batchSize turns reader).2.2 = (item, after, seen)) :
    corpus.alone query batchSize (turns ++ [.call reader]) =
      Function.update (corpus.alone query batchSize turns) reader
        ((corpus.alone query batchSize turns reader).1 ++ [item], after, seen) := by
  funext other
  rcases eq_or_ne other reader with rfl | different
  · have more : (turns ++ [Turn.call other]).countP (Turn.isCall other) =
        turns.countP (Turn.isCall other) + 1 := by
      simp [Turn.isCall]
    rw [Function.update_self, alone, more]
    exact Pager.take_succ_of_next rfl told
  · rw [Function.update_of_ne different]
    exact alone_of_other (decide_eq_false different.symm)

end Alone

variable [Fintype ι]

/-- After these turns each reader and each request has what it would have alone, and the corpus has
counted what they would cost alone. -/
structure Separate (corpus : Corpus) (query : ι → Query) (batchSize : ι → Nat) (start : Usage)
    (turns : List (Turn ι)) (outcomes : List (Except Error Reply × Observed Usage))
    (session : Session Usage ι) : Prop where
  told (reader : ι) : session.told reader = (corpus.alone query batchSize turns reader).1
  pagers (reader : ι) : session.pagers reader = (corpus.alone query batchSize turns reader).2.1
  requests : (turns.filterMap Turn.request?).map (fun request => request.serve corpus.backend ⟨{}, []⟩) =
    outcomes.map some
  replies : session.replies = outcomes.map Prod.fst
  usage : session.observed.state = start +
    ∑ reader, (corpus.alone query batchSize turns reader).2.2.state +
    (outcomes.map fun outcome => outcome.2.state).sum

variable {query : ι → Query} {batchSize : ι → Nat} {start : Usage} {turns : List (Turn ι)}
  {outcomes : List (Except Error Reply × Observed Usage)} {session : Session Usage ι}

theorem Separate.call (steady : corpus.failAfterPages = none)
    (separate : corpus.Separate query batchSize start turns outcomes session) (reader : ι) :
    ∃ after, session.step corpus.backend query (.call reader) = some after ∧
      corpus.Separate query batchSize start (turns ++ [.call reader]) outcomes after := by
  -- For this reader the session is a run of its own that began after what all others did.
  let own (other : ι) : Usage := (corpus.alone query batchSize turns other).2.2.state
  let base := start + ∑ other ∈ Finset.univ.erase reader, own other +
    (outcomes.map fun outcome => outcome.2.state).sum
  rcases told : (corpus.alone query batchSize turns reader).2.1.next corpus.backend (query reader)
    (corpus.alone query batchSize turns reader).2.2 with ⟨item, after, seen⟩
  have usage : session.observed.state = base + own reader := by
    rw [separate.usage, ← Finset.add_sum_erase _ _ (Finset.mem_univ reader)]
    simp only [base, own]
    ac_rfl
  obtain ⟨follower, shared, further⟩ := next_shifted steady told usage
  have called := alone_of_call told
  refine ⟨_, by rw [Session.step, separate.pagers, shared], ?_⟩
  constructor
  case told =>
    intro other
    rcases eq_or_ne other reader with rfl | different
    · simp [called, separate.told]
    · simp [called, different, separate.told]
  case pagers =>
    intro other
    rcases eq_or_ne other reader with rfl | different
    · simp [called]
    · simp [called, different, separate.pagers]
  case requests =>
    rw [List.filterMap_append, ← separate.requests]
    exact congrArg _ (List.append_nil _)
  case replies => exact separate.replies
  case usage =>
    have others : ∑ other ∈ Finset.univ.erase reader,
        (corpus.alone query batchSize (turns ++ [.call reader]) other).2.2.state =
        ∑ other ∈ Finset.univ.erase reader, own other := by
      apply Finset.sum_congr rfl
      intro other member
      rw [called, Function.update_of_ne (Finset.ne_of_mem_erase member)]
    rw [further, ← Finset.add_sum_erase _ _ (Finset.mem_univ reader), others, called,
      Function.update_self]
    simp only [base]
    ac_rfl

theorem Separate.serve (steady : corpus.failAfterPages = none)
    (separate : corpus.Separate query batchSize start turns outcomes session) (request : Request) :
    ∃ outcome after, session.step corpus.backend query (.serve request) = some after ∧
      corpus.Separate query batchSize start (turns ++ [.serve request]) (outcomes ++ [outcome])
        after := by
  obtain ⟨reply, cost, seen, alone, shared, usage⟩ :=
    serve_shifted steady request session.observed
  refine ⟨(reply, cost), { session with replies := session.replies ++ [reply], observed := seen },
    by rw [Session.step, shared]; rfl, ?_⟩
  have same (reader : ι) : corpus.alone query batchSize (turns ++ [.serve request]) reader =
      corpus.alone query batchSize turns reader := alone_of_other rfl
  constructor
  case told => exact fun reader => (separate.told reader).trans (by rw [same])
  case pagers => exact fun reader => (separate.pagers reader).trans (by rw [same])
  case requests =>
    rw [List.filterMap_append, List.map_append, List.map_append, separate.requests]
    simp [Turn.request?, alone]
  case replies => simp [separate.replies]
  case usage =>
    simp only [same, usage, separate.usage, List.map_append, List.sum_append, add_assoc]
    simp

theorem separate_opened :
    corpus.Separate query batchSize start [] [] (.opened batchSize start) where
  told _ := rfl
  pagers _ := rfl
  requests := rfl
  replies := rfl
  usage := by
    have nothing (reader : ι) : (corpus.alone query batchSize [] reader).2.2.state = 0 := rfl
    simp only [nothing]
    simp [Session.opened]

/-- In whatever order readers and requests take turns on a corpus, each reader is told what it would be
told alone, each request ends with the reply it would have alone, and the calls that the corpus counts
add up to those that it would count for each alone. -/
theorem session_separate (steady : corpus.failAfterPages = none) (query : ι → Query)
    (batchSize : ι → Nat) (start : Usage) (turns : List (Turn ι)) :
    ∃ outcomes after,
      Session.run corpus.backend query turns (.opened batchSize start) = some after ∧
      corpus.Separate query batchSize start turns outcomes after := by
  induction turns using List.reverseRecOn with
  | nil => exact ⟨[], _, rfl, separate_opened⟩
  | append_singleton turns turn ih =>
    obtain ⟨outcomes, session, ran, separate⟩ := ih
    have rest (turns : List (Turn ι)) (turn : Turn ι) :
        Session.run corpus.backend query (turns ++ [turn]) (.opened batchSize start) =
          (Session.run corpus.backend query turns (.opened batchSize start)).bind
            (Session.step corpus.backend query · turn) := by
      simp [Session.run, List.foldlM_append]
    rw [rest, ran, Option.bind_some]
    cases turn with
    | call reader =>
      obtain ⟨after, stepped, separate⟩ := separate.call steady reader
      exact ⟨outcomes, after, stepped, separate⟩
    | serve request =>
      obtain ⟨outcome, after, stepped, separate⟩ := separate.serve steady request
      exact ⟨_, after, stepped, separate⟩

end Turns

/-- The second reader's query has a word without a colon. -/
theorem session_separate_two :
    let corpus : Corpus :=
      { documents := [⟨"a", .empty, []⟩, ⟨"b", .empty, []⟩, ⟨"c", .empty, []⟩] }
    let query (first : Bool) : Query := if first then ⟨"*", []⟩ else ⟨"kind", []⟩
    let turns : List (Turn Bool) := [.call true, .call false, .serve (.page ⟨"*", []⟩ 2 1),
      .call true, .serve (.facets .insecure (fun _ => .ok true) ⟨"*", ["kind"]⟩ ⟨2, 7, 2⟩ none 5),
      .call false, .call true]
    ∃ after,
      Session.run corpus.backend query turns (.opened (fun _ => 2) ⟨1, 1⟩) = some after ∧
      after.told true = corpus.documents.map (fun document => some (.ok document.toHit)) ∧
      after.told false = [some (.error (.malformedTerm "kind")), none] ∧
      after.observed.state = ⟨5, 2⟩ := by
  intro corpus query turns
  have steady : corpus.failAfterPages = none := rfl
  obtain ⟨outcomes, after, ran, separate⟩ :=
    session_separate steady query (fun _ => 2) ⟨1, 1⟩ turns
  have thrice : corpus.alone query (fun _ => 2) turns true =
      Pager.take corpus.backend ⟨"*", []⟩ 3 (.start 2) ⟨{}, []⟩ := rfl
  have twice : corpus.alone query (fun _ => 2) turns false =
      Pager.take corpus.backend ⟨"kind", []⟩ 2 (.start 2) ⟨{}, []⟩ := rfl
  refine ⟨after, ran, ?_, ?_, ?_⟩
  · rw [separate.told, thrice]
    rfl
  · rw [separate.told, twice]
    rfl
  · have served : outcomes.map some = [some (_, ⟨⟨1, 0⟩, []⟩), some (_, ⟨⟨0, 1⟩, []⟩)] :=
      separate.requests.symm
    obtain ⟨page, _, rfl, paged, rest⟩ := List.map_eq_cons_iff.mp served
    obtain ⟨table, rfl, tabled⟩ := List.map_eq_singleton_iff.mp rest
    cases paged
    cases tabled
    rw [separate.usage, Fintype.sum_bool, thrice, twice]
    rfl

end Corpus

end VisibleFacets
