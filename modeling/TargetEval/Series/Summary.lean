import TargetEval.Reducer.Basic
import TargetEval.Series.Basic
import TargetEval.Series.Grid

set_option autoImplicit false

namespace TargetEval.Series

def bucketed (step width stop : Seconds) :
    (clock bound : Seconds) → (held : List Float) → List (Option Float) → List (List Float)
  | _, _, held, [] => [held]
  | clock, bound, held, p :: rest =>
      -- The clock has passed the point before it is compared, so the point still belongs to the
      -- open bucket.
      let held := held ++ p.toList
      let clock := clock.plus step
      if stop ≤ clock then [held]
      else if bound ≤ clock then held :: bucketed step width stop clock (bound.plus width) [] rest
      else bucketed step width stop clock bound held rest

def bucketPoints (s : Series) (start stop width : Seconds) (buckets : Nat) (r : Reducer) :
    List (Option Float) :=
  let held := bucketed s.step width stop s.start (start.plus width) [] s.points
  let reached := (held.take buckets).map r.point?
  reached ++ List.replicate (buckets - reached.length) none

def summarize (s : Series) (name : String) (width : Seconds) (r : Reducer) (fromStart : Bool) :
    Except Grid.Fault Series :=
  -- A series that is coarser than the buckets is only renamed.
  if width < s.step then .ok (s.renamed name)
  else
    let span? := if fromStart then some (s.start, s.stop) else Grid.align? s.start s.stop width
    match span? with
    | none => .error .unrepresentable
    | some (start, stop) =>
        match Grid.count start stop width with
        | .error fault => .error fault
        | .ok buckets =>
            .ok (spanning name start stop width (s.bucketPoints start stop width buckets r))

end TargetEval.Series
