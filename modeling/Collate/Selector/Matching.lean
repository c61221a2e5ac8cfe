import Collate.Markup.Place
import Collate.Selector.Basic
import Collate.Text.Blank
import Collate.Text.Letter

/-!
# Which elements a selector picks

A selector picks the elements below a place that pass the tests of one of its
chains, in document order.  The document itself is never picked, but it can be what
an element has above it.

Names of tags and attributes are compared without regard to the case of unaccented
letters.

## Strategy

`Test.matches` and its companions follow the selector; what they need to know about
the rest of the document can be seen from the place of the element.
-/

namespace Collate.Selector

open Markup

/-! ## Where a search starts -/

/-- The elements that a search singles out, by their numbers. -/
structure Ground where
  /-- The first element of the document. -/
  root : Option Nat
  /-- The element from which the search starts; the root if it starts from the
  document. -/
  scope : Option Nat

/-- The place of the whole document around a place. -/
def outermost (place : Place) : Place := place.ancestors.getLastD place

/-- The ground of a search from a place. -/
def groundOf (place : Place) : Ground :=
  let root := (outermost place).elements.head?.map Place.serial
  { root, scope := if place.isDocument then root else some place.serial }

/-- The places at the other end of a link. -/
def Link.reach (place : Place) : Link → List Place
  | ancestor => place.ancestors
  | parent => place.parent?.toList
  | earlierSibling => place.elementsBefore
  | previousSibling => place.elementsBefore.take 1
  | descendant => place.descendants
  | child => place.elements
  | laterSibling => place.elementsAfter
  | nextSibling => place.elementsAfter.take 1

/-! ## Names and values -/

/-- Whether two names are the same but for the case of unaccented letters. -/
def sameName (a b : String) : Bool := Text.lowerAscii a.toList == Text.lowerAscii b.toList

/-- Whether a tag has this name; `*` stands for any. -/
def hasName (name : String) (tag : Tag) : Bool := name == "*" || sameName name tag.name

/-- Whether a name space is the common one. -/
def isCommonSpace : Option String → Bool
  | none => true
  | some space => space == "*"

/-- Whether the character parts words. -/
def partsWords (c : Char) : Bool :=
  c == ' ' || c == '\t' || c == '\r' || c == '\n' || c == '\x0c'

/-- The words of a text. -/
def wordsIn (text : List Char) : List (List Char) :=
  (text.splitOnP partsWords).filter (· ≠ [])

/-- The classes of a tag. -/
def classesOf (tag : Tag) : List String :=
  match tag.attribute? "class" with
  | none => []
  | some (.words list) => list
  | some value => (wordsIn value.text.toList).map String.ofList

/-- The value of an attribute, whatever the case of its name. -/
def valueOf? (tag : Tag) (name : String) : Option String :=
  (tag.attributes.find? fun entry => sameName name entry.1).map fun entry => entry.2.text

/-- A text without the line end that may be its last character. -/
def withoutLastLineEnd (text : List Char) : List Char :=
  if text.getLast? = some '\n' then text.dropLast else text

/-- Whether one text is part of another. -/
def isWithin (wanted : List Char) : List Char → Bool
  | [] => wanted.isEmpty
  | c :: rest => wanted.isPrefixOf (c :: rest) || isWithin wanted rest

/-- Whether a text passes a test, where case has already been taken care of.  A line
end that comes last does not count. -/
def Operator.accepts (operator : Operator) (wanted text : List Char) : Bool :=
  match operator with
  | equal => text == wanted || withoutLastLineEnd text == wanted
  | hasWord =>
    !wanted.isEmpty && !wanted.any partsWords && (text.splitOnP partsWords).contains wanted
  | dashed =>
    text == wanted || withoutLastLineEnd text == wanted || (wanted ++ ['-']).isPrefixOf text
  | startsWith => wanted.isPrefixOf text
  | endsWith => wanted.isSuffixOf text || wanted.isSuffixOf (withoutLastLineEnd text)
  | contains => isWithin wanted text

/-- Whether a value passes a test. -/
def ValueTest.accepts (test : ValueTest) (value : String) : Bool :=
  if test.ignoresCase then
    test.operator.accepts (Text.lower test.value) (Text.lower value.toList)
  else test.operator.accepts test.value value.toList

/-! ## Positions and content -/

/-- Whether a position, counted from one, is meant. -/
def Position.includes (position : Position) (place : Int) : Bool :=
  if ¬ position.repeats then place == position.step
  else if position.step = 0 then place == position.offset
  else
    (place - position.offset) % position.step == 0 &&
      decide (0 ≤ (place - position.offset) / position.step)

/-- Whether a node is content: anything but spacing and notes. -/
def isContent : Node → Bool
  | .element _ _ => true
  | .data .plain text | .data (.held _) text => !text.toList.all partsWords
  | .data _ _ => false

/-- Whether a node may not stand beside a root. -/
def crowdsRoot : Node → Bool
  | .data .cdata _ => true
  | .data .plain text | .data (.held _) text => !Text.allBlank text.toList
  | .data _ _ => false
  | .element _ _ => true

/-- Whether the place is that of the root, with nothing beside it. -/
def isRoot (ground : Ground) (place : Place) : Bool :=
  ground.root == some place.serial &&
    match place.above with
    | [] => true
    | level :: _ => !(level.before.any crowdsRoot || level.after.any crowdsRoot)

mutual

/-- The pieces of text in a node, those of holders included. -/
def allText : Node → List String
  | .data .plain text | .data (.held _) text => [text]
  | .data _ _ => []
  | .element _ children => allTexts children

/-- The pieces of text in some nodes. -/
def allTexts : List Node → List String
  | [] => []
  | node :: rest => allText node ++ allTexts rest

end

/-- Whether one of the texts is part of the text of a place. -/
def holdsOneOf (texts : List String) (place : Place) : Bool :=
  let whole := (String.join (allTexts place.children)).toList
  texts.any fun text => isWithin text.toList whole

/-! ## Tests and chains -/

mutual

/-- Whether the element at a place passes a test. -/
def Test.matches (ground : Ground) (place : Place) : Test → Bool
  | .tag space name => isCommonSpace space && hasName name place.tag
  | .id name => (place.tag.attributeText? "id").getD "" == name
  | .class_ name => (classesOf place.tag).contains name
  | .withAttribute name test =>
    match valueOf? place.tag name, test with
    | none, _ => false
    | some _, none => true
    | some value, some test => test.accepts value
  | .root => isRoot ground place
  | .scope => ground.scope == some place.serial
  | .empty => !place.children.any isContent
  | .nth position among =>
    let siblings := if position.fromEnd then place.elementsAfter else place.elementsBefore
    let counts (other : Place) : Bool :=
      (!position.sameName || other.tag.name == place.tag.name) && allowed ground among other
    counts place && position.includes (siblings.countP counts + 1 : Nat)
  | .holds texts => holdsOneOf texts place
  | .some_ chains => someMatches ground place chains
  | .none_ chains => !someMatches ground place chains
  | .never => false

/-- Whether the element at a place passes all tests. -/
def allMatch (ground : Ground) (place : Place) : List Test → Bool
  | [] => true
  | test :: rest => test.matches ground place && allMatch ground place rest

/-- Whether a chain leads from the element at a place to its end. -/
def Chain.matches (ground : Ground) (place : Place) : Chain → Bool
  | .ends tests => allMatch ground place tests
  | .linked tests link next =>
    allMatch ground place tests &&
      (link.reach place).any fun other => next.matches ground other

/-- Whether one of the chains matches. -/
def someMatches (ground : Ground) (place : Place) : List Chain → Bool
  | [] => false
  | chain :: rest => chain.matches ground place || someMatches ground place rest

/-- Whether an element counts among siblings: if there are chains, one of them has to
match. -/
def allowed (ground : Ground) : List Chain → Place → Bool
  | [], _ => true
  | chain :: rest, place => chain.matches ground place || someMatches ground place rest

end

/-- The places below a place that a selector picks, in document order. -/
def select (selector : Selector) (place : Place) : List Place :=
  let ground := groundOf place
  place.descendants.filter fun other => someMatches ground other selector.chains

/-- What is selected lies below the place, and in document order. -/
theorem select_sublist (selector : Selector) (place : Place) :
    (select selector place).Sublist place.descendants :=
  List.filter_sublist

end Collate.Selector
