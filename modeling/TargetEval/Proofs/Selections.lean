import TargetEval.Proofs.AggregateNames
import TargetEval.Proofs.FloatOrder

set_option autoImplicit false

namespace TargetEval

namespace Comparison

def opposite : Comparison → Comparison
  | less => atLeast
  | atLeast => less
  | greater => atMost
  | atMost => greater
  | equal => different
  | different => equal

end Comparison

namespace Threshold

-- There is a value, and it is a number.
def comparable (reducer : Reducer) (s : Series) : Bool := !s.present.isEmpty && !(reducer.reduce s.present).isNaN

end Threshold

end TargetEval
