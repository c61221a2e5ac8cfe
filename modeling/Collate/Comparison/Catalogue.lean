import Collate.Comparison.Comparator

/-!
# Named comparisons

Custom comparisons that go by a name.  Some are proper orders, by the numbers
themselves, by their lengths or by their entry `n`; the others answer without
regard to order, or do not give a number at all.
-/

namespace Collate

/-- The custom comparisons that have a name. -/
inductive NamedComparison where
  | diff
  | len
  | n
  | half
  | zero
  | one
  | minusOne
  | mod3
  | none
  | less

namespace NamedComparison

/-- The name of a comparison. -/
def name : NamedComparison → String
  | diff => "diff"
  | len => "len"
  | n => "n"
  | half => "half"
  | zero => "zero"
  | one => "one"
  | minusOne => "minus_one"
  | mod3 => "mod3"
  | none => "none"
  | less => "less"

/-- The comparison of this name. -/
def ofName? (text : String) : Option NamedComparison :=
  [diff, len, n, half, zero, one, minusOne, mod3, none, less].find? fun c => c.name == text

/-- The entry `n` of two items, joined by an operation. -/
def byEntry (join : Value → Value → Except Failure Value) (a b : Value) :
    Except Failure Value := do
  join (← a.entry "n") (← b.entry "n")

/-- What a comparison answers for two items. -/
def compare : NamedComparison → CustomComparison
  | diff, a, b => a.minus b
  | len, a, b => do (← a.lengthOf).minus (← b.lengthOf)
  | n, a, b => byEntry Value.minus a b
  | half, a, b => do (← byEntry Value.minus a b).half
  | zero, _, _ => .ok (.int 0)
  | one, _, _ => .ok (.int 1)
  | minusOne, _, _ => .ok (.int (-1))
  | mod3, a, b => byEntry (fun x y => do (← x.moduloThree).minus (← y.moduloThree)) a b
  | none, _, _ => .ok .none
  | less, a, b => byEntry (fun x y => (x.less y).map .bool) a b

end NamedComparison

end Collate
