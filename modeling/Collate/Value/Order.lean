import Collate.Value.Basic

/-!
# Sameness and order of values

Two values are compared for sameness first, and only if they differ for order.
Numbers of all kinds compare by what they denote; texts by code points; lists and
tuples item by item; sets by inclusion; an object as it decides.  Everything else
is the same only as itself, and has no order.

An object on the right has a say as well: it is asked when the left value cannot
tell, and before the left value if its class is derived from the kind of that value.

## Strategy

`equal` and `less` are the comparisons as the values see them, and can fail.
`same` and `lesser` are what sorting uses: a truth value is never the same as
anything but a truth value, a failing comparison says no, and only failures that
do not come from the comparison itself are passed on.  Sorting asks for the order
of two values after it has asked whether they are the same, so `lesser` passes on
the interruptions of both questions.
-/

namespace Collate.Value

/-! ## Sameness -/

/-- Whether two identities are those of one value. -/
def sharesIdentity (i j : Nat) : Bool := i == j && i != 0

/-- Whether the left value tells by itself how it compares with the right one, so that an object
on the right is not asked. -/
def settles (a b : Value) : Bool :=
  match a.scalar?, b.scalar? with
  | some x, some y => x.knows y && (a.isForeign || !x.embraces y)
  | _, _ => false

/-- What an object on the right decides about a value on the left, if it is asked. -/
def reflected? (comparing : Comparing) (a b : Value) : Option (Except Failure Value) :=
  if settles a b then Option.none else b.verdict? comparing a

/-- Whether the value is a number that signals when compared. -/
def isSignalling : Value → Bool
  | decimal value => value.isSignalling
  | _ => false

/-- Whether two numbers are equal. -/
def equalNumbers (a b : Value) (x y : Quantity) : Except Failure Bool :=
  if a.isSignalling || b.isSignalling then .error .signalled else .ok (x.same y)

/-- Whether two values without parts are equal, as far as their kinds go. -/
def equalPlain (a b : Value) : Except Failure Bool :=
  match a.core, b.core with
  | missing, missing | none, none => .ok true
  | bytes x, bytes y => .ok (x == y)
  | complex x y, complex z w =>
    .ok (x.quantity.same z.quantity && y.quantity.same w.quantity)
  | range a b c, range d e f =>
    let (m, n) := (rangeLength a b c, rangeLength d e f)
    .ok (m == n && (m == 0 || (a == d && (m == 1 || c == f))))
  | date x, date y => .ok (x == y)
  | moment x, moment y => .ok (x.same y)
  | clock x, clock y => .ok (x == y)
  | span x, span y => .ok (x == y)
  | member i _ _ _ _, member j _ _ _ _ => .ok (sharesIdentity i j)
  | function i, function j => .ok (sharesIdentity i j)
  | class_ x, class_ y => .ok (x == y)
  | object i _ _ _ _ _ _, object j _ _ _ _ _ _ => .ok (sharesIdentity i j)
  | element x, element y => .ok (x.serial == y.serial)
  | left, right =>
    match a.text?, b.text? with
    | some x, some y => .ok (x == y)
    | _, _ =>
      match a.quantity?, b.quantity? with
      | some x, some y => equalNumbers left right x y
      | _, _ =>
        match left, b.quantity?, right, a.quantity? with
        | complex x y, some z, _, _ | _, _, complex x y, some z =>
          if y.isNonzero then .ok false else .ok (x.quantity.same z)
        | _, _, _, _ => .ok false

/-- Whether two values are equal, where the second may have the last word. -/
def equalLeaf (a b : Value) : Except Failure Bool :=
  match reflected? .equal a b with
  | some answer => answer.bind truth
  | Option.none => equalPlain a b

mutual

/-- Whether two values are equal, as they see it. -/
def equal (a b : Value) : Except Failure Bool :=
  match a with
  | list i items =>
    match b with
    | list j others => if sharesIdentity i j then .ok true else equalItems items others
    | _ => equalLeaf a b
  | tuple i items =>
    match b with
    | tuple j others => if sharesIdentity i j then .ok true else equalItems items others
    | _ => equalLeaf a b
  | set i items =>
    match b with
    | set j others =>
      if sharesIdentity i j then .ok true
      else if items.length ≠ others.length then .ok false else allAmong items others
    | _ => equalLeaf a b
  | mapping i entries =>
    match b with
    | mapping j others =>
      if sharesIdentity i j then .ok true
      else if entries.length ≠ others.length then .ok false else equalEntries entries others
    | _ => equalLeaf a b
  | object .. =>
    match a.verdict? .equal b with
    | some answer => answer.bind truth
    | Option.none => equalLeaf a b
  | _ => equalLeaf a b

/-- Whether two sequences are equal, item by item. -/
def equalItems : List Value → List Value → Except Failure Bool
  | [], [] => .ok true
  | [], _ :: _ | _ :: _, [] => .ok false
  | x :: xs, y :: ys =>
    (equal x y).bind fun here => if here then equalItems xs ys else .ok false

/-- Whether every item of the first set is in the second. -/
def allAmong : List Value → List Value → Except Failure Bool
  | [], _ => .ok true
  | x :: xs, ys =>
    if ys.any fun y => (equal x y).toOption.getD false then allAmong xs ys else .ok false

/-- Whether every entry of the first mapping has an equal one in the second. -/
def equalEntries : List (String × Value) → List (String × Value) → Except Failure Bool
  | [], _ => .ok true
  | (name, x) :: rest, others =>
    match others.lookup name with
    | Option.none => .ok false
    | some y => (equal x y).bind fun here => if here then equalEntries rest others else .ok false

end

/-- Whether sorting takes two values for the same.  It does not if the comparison fails. -/
def same (a b : Value) : Bool :=
  if a.isBool != b.isBool then false
  else
    match equal a b with
    | .ok answer => answer
    | .error _ => false

/-! ## Order -/

/-- Whether the first value is below the second, as far as their kinds go, if both have no parts. -/
def lessPlain (a b : Value) : Except Failure Bool :=
  let unorderable := Except.error (Failure.unordered a.kind b.kind)
  match a.core, b.core with
  | bytes x, bytes y => .ok (x < y)
  | date x, date y => .ok (x.before y)
  | clock x, clock y => .ok (x.before y)
  | span x, span y => .ok (x.microseconds < y.microseconds)
  | moment x, moment y =>
    match x.before? y with
    | some answer => .ok answer
    | Option.none => unorderable
  | left, right =>
    match a.text?, b.text? with
    | some x, some y => .ok (x < y)
    | _, _ =>
      match a.quantity?, b.quantity? with
      | some x, some y =>
        match left, right with
        | decimal _, _ | _, decimal _ =>
          if x.isDefined && y.isDefined then .ok (x.less y) else .error .signalled
        | _, _ => .ok (x.less y)
      | _, _ => unorderable

/-- Whether the first value is below the second, where the second may have the last word. -/
def lessLeaf (a b : Value) : Except Failure Bool :=
  match reflected? .greater a b with
  | some answer => answer.bind truth
  | Option.none => lessPlain a b

mutual

/-- Whether the first value is below the second, as they see it. -/
def less (a b : Value) : Except Failure Bool :=
  match a with
  | list i items =>
    match b with
    | list j others => if sharesIdentity i j then .ok false else lessItems items others
    | _ => lessLeaf a b
  | tuple i items =>
    match b with
    | tuple j others => if sharesIdentity i j then .ok false else lessItems items others
    | _ => lessLeaf a b
  | set _ items =>
    match b with
    | set _ others => if items.length < others.length then allAmong items others else .ok false
    | _ => lessLeaf a b
  | object .. =>
    match a.verdict? .less b with
    | some answer => answer.bind truth
    | Option.none => lessLeaf a b
  | _ => lessLeaf a b

/-- Whether the first sequence is below the second: the first two items that
differ decide, or else the lengths. -/
def lessItems : List Value → List Value → Except Failure Bool
  | [], others => .ok (!others.isEmpty)
  | _ :: _, [] => .ok false
  | x :: xs, y :: ys =>
    (equal x y).bind fun here => if here then lessItems xs ys else less x y

end

/-- What interrupts the question whether two values are the same. -/
def interruption? (a b : Value) : Option Failure :=
  if a.isBool != b.isBool then Option.none
  else
    match equal a b with
    | .ok _ => Option.none
    | .error failure => if failure.isInterruption then some failure else Option.none

/-- Whether sorting takes the first of two values for the lesser one.  It has asked whether
they are the same before, and what interrupts that question comes first. -/
def lesser (a b : Value) : Except Failure Bool :=
  match interruption? a b with
  | some failure => .error failure
  | Option.none =>
    match less a b with
    | .ok answer => .ok answer
    | .error failure =>
      if failure.isUnorderable || failure.isArithmetic then .ok false else .error failure

/-! ## Sets -/

/-- The items without those that equal an earlier one. -/
def distinct (items : List Value) : List Value :=
  (items.foldl
    (fun kept item =>
      if kept.any fun other => (equal other item).toOption.getD false then kept
      else item :: kept) []).reverse

end Collate.Value
