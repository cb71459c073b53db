/-!
# Sources read one item at a time

A source gives its items on demand, and any of them may be a failure. Main definitions:
`Source.fold` reads a number of items, and `Source.drain` reads all there are.
-/

namespace VisibleFacets

/-- A stream of items; `none` is its end. -/
structure Source (ς ε α : Type) where
  next : ς → Option (Except ε α) × ς

namespace Source

variable {ς ε α β : Type}

def ofList : Source (List (Except ε α)) ε α where
  next
    | [] => (none, [])
    | item :: rest => (some item, rest)

/-- Feeds at most `limit` items to `step`, in order, until the source ends or either side fails. -/
def fold (source : Source ς ε α) (step : α → β → Except ε Unit × β) :
    Nat → β → ς → Except ε Unit × β × ς
  | 0, accumulated, state => (.ok (), accumulated, state)
  | limit + 1, accumulated, state =>
    match source.next state with
    | (none, state) => (.ok (), accumulated, state)
    | (some (.error error), state) => (.error error, accumulated, state)
    | (some (.ok item), state) =>
      match step item accumulated with
      | (.error error, accumulated) => (.error error, accumulated, state)
      | (.ok (), accumulated) => fold source step limit accumulated state

/-- Feeds all items to `step`, in order; `none` if there is no end to them and no failure. -/
def drain (source : Source ς ε α) (step : α → β → Except ε Unit × β) (accumulated : β)
    (state : ς) : Option (Except ε Unit × β × ς) :=
  match source.next state with
  | (none, state) => some (.ok (), accumulated, state)
  | (some (.error error), state) => some (.error error, accumulated, state)
  | (some (.ok item), state) =>
    match step item accumulated with
    | (.error error, accumulated) => some (.error error, accumulated, state)
    | (.ok (), accumulated) => source |>.drain step accumulated state
partial_fixpoint

end Source

end VisibleFacets
