import Collate.Value.Order

/-!
# Enumerations

An enumeration gives names to values.  Its members may also be integers or texts,
and the members of a flag enumeration can be united, bit by bit.

A second name for the same value is no second member: it leads to the first one.  A
united member that is not named goes by the names of the single bits in it; if none of
its bits is named, it has no name.
-/

namespace Collate

/-- What the members of an enumeration are, besides members. -/
inductive Enumeration.Kind where
  | plain
  | integer
  | flag
  | integerFlag
  | textual
  deriving DecidableEq

/-- An enumeration. -/
structure Enumeration where
  kind : Enumeration.Kind
  class_ : String
  /-- The named values, in the order of their definition. -/
  members : List (String × Value)

namespace Enumeration

/-- The name of the member with this value. -/
def nameOf? (enumeration : Enumeration) (value : Value) : Option String :=
  (enumeration.members.find? fun entry => Value.same entry.2 value).map Prod.fst

/-- The bits of the members that these names unite. -/
def unitedBits (enumeration : Enumeration) (names : List String) : Nat :=
  names.foldl
    (fun bits name =>
      bits ||| (((enumeration.members.lookup name).bind Value.int?).getD 0).toNat) 0

/-- The names of the single bits in a number. -/
def bitNames (enumeration : Enumeration) (bits : Nat) : List String :=
  enumeration.members.filterMap fun (name, value) =>
    match value.int? with
    | some n =>
      let bit := n.toNat
      if bit != 0 && bit &&& (bit - 1) == 0 && bit &&& bits != 0 then some name else none
    | none => none

/-- Whether members can be united. -/
def Kind.isFlag : Kind → Bool
  | flag | integerFlag => true
  | _ => false

/-- The name of a member that unites these bits. -/
def unitedName? (enumeration : Enumeration) (bits : Nat) : Option String :=
  match enumeration.bitNames bits with
  | [] => none
  | names => some ("|".intercalate names)

/-- The name, if there is one, and the value that a written name stands for. -/
def resolve (enumeration : Enumeration) (written : String) : Option String × Value :=
  let value :=
    if enumeration.kind.isFlag then
      .int (enumeration.unitedBits (written.splitOn "|"))
    else (enumeration.members.lookup written).getD .missing
  match enumeration.nameOf? value with
  | some name => (some name, value)
  | none =>
    match value with
    | .int bits => (enumeration.unitedName? bits.toNat, value)
    | _ => (some written, value)

/-- The member that a written name stands for. -/
def member (enumeration : Enumeration) (identity : Nat) (written : String) : Value :=
  let (name, value) := enumeration.resolve written
  match enumeration.kind with
  | .plain | .flag => .named identity enumeration.class_ name value
  | .integer | .integerFlag => .intMember enumeration.class_ name (value.int?.getD 0)
  | .textual => .textMember enumeration.class_ (name.getD written) (value.text?.getD "")

end Enumeration

end Collate
