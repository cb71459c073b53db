/-!
# Durations of the stages of a run

Times are readings of a clock that never goes back, in whatever unit it counts.
-/

namespace VisibleFacets

structure Stopwatch where
  start : Nat
  latest : Nat
  stages : List (String × Nat)
  deriving DecidableEq, Repr

namespace Stopwatch

def begin (now : Nat) : Stopwatch := ⟨now, now, []⟩

def mark (watch : Stopwatch) (stage : String) (now : Nat) : Stopwatch :=
  { watch with latest := now, stages := watch.stages ++ [(stage, now - watch.latest)] }

def duration (watch : Stopwatch) (stage : String) : Nat := (watch.stages.lookup stage).getD 0

def elapsed (watch : Stopwatch) (now : Nat) : Nat := now - watch.start

end Stopwatch

end VisibleFacets
