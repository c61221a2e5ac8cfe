/-!
# Selectors

A selector picks elements of a document.  It is a list of alternatives; each of them
tests an element and, through a chain of links, the elements around it.

A chain that ends in the element in question looks back, to parents and earlier
siblings.  A chain that starts from it looks ahead, to children and later siblings.
Both are chains of the same kind: the tests of one element and a link to the next.
-/

namespace Collate

/-! ## Links -/

/-- The way from an element to the elements at the other end of a link. -/
inductive Selector.Link where
  | ancestor
  | parent
  | earlierSibling
  | previousSibling
  | descendant
  | child
  | laterSibling
  | nextSibling
  deriving DecidableEq

/-! ## Tests of attributes and positions -/

/-- How the value of an attribute is compared. -/
inductive Selector.Operator where
  | equal
  | hasWord
  | dashed
  | startsWith
  | endsWith
  | contains
  deriving DecidableEq

/-- A condition on the value of an attribute. -/
structure Selector.ValueTest where
  operator : Selector.Operator
  value : List Char
  ignoresCase : Bool
  deriving DecidableEq

/-- A condition on the position of an element among its siblings, counted from one. -/
structure Selector.Position where
  /-- The positions are `step · n + offset` for all `n`; or just `step`, if it does not
  repeat. -/
  step : Int
  offset : Int
  repeats : Bool
  /-- Only siblings of the same name count. -/
  sameName : Bool
  fromEnd : Bool
  deriving DecidableEq

/-! ## Selectors -/

mutual

/-- A single test of an element. -/
inductive Selector.Test where
  /-- Another name space than the common one; a tag name, or `*` for any. -/
  | tag (space : Option String) (name : String)
  | id (name : String)
  | class_ (name : String)
  | withAttribute (name : String) (test : Option Selector.ValueTest)
  /-- The root of the document. -/
  | root
  /-- The element from which the search started. -/
  | scope
  /-- No content but spacing and notes. -/
  | empty
  /-- A position, counting only the siblings that one of the chains picks, if there are
  any chains. -/
  | nth (position : Selector.Position) (among : List Selector.Chain)
  /-- One of the texts is part of the text of the element. -/
  | holds (texts : List String)
  | some_ (chains : List Selector.Chain)
  | none_ (chains : List Selector.Chain)
  /-- What no element in a document at rest is. -/
  | never

/-- The tests of one element, and a link to the next one. -/
inductive Selector.Chain where
  | ends (tests : List Selector.Test)
  | linked (tests : List Selector.Test) (link : Selector.Link) (next : Selector.Chain)

end

/-- A selector: an element is picked if one of the chains picks it. -/
structure Selector where
  chains : List Selector.Chain

end Collate
