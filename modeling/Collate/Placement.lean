import Collate.Lookup.Element
import Collate.Markup.Tree
import Collate.Markup.Writer
import Collate.Settings
import Collate.Sorter

/-!
# Placing sorted elements

Sorting a container puts its element children into the order that a sorter decides.
The elements that are in place already, up to the first one that is not, stay where
they are; all others move to the end of the container, one after the other.  What is
not an element, such as the spacing between elements, never moves.

The containers of a document are selected before the first one is sorted, and sorted
in document order.

## Strategy

A `Desk` is a sorter with the document it works on.  Elements are known by their
numbers, which stay the same while they are moved; what the sorter sees of them is
their place in the document of the moment.
-/

namespace Collate

open Markup

/-! ## Moving children -/

namespace Placement

/-- The numbers of the elements among some nodes. -/
def serialsOf (nodes : List Node) : List Nat := nodes.filterMap Node.serial?

/-- The nodes with the element of this number moved to the end. -/
def toEnd (nodes : List Node) (serial : Nat) : List Node :=
  nodes.filter (fun node => node.serial? ≠ some serial) ++
    nodes.filter (fun node => node.serial? = some serial)

/-- How many of their first members two lists have in common. -/
def agreement : List Nat → List Nat → Nat
  | x :: xs, y :: ys => if x = y then agreement xs ys + 1 else 0
  | _, _ => 0

/-- Child nodes with the elements among them in this order. -/
def arranged (order : List Nat) (children : List Node) : List Node :=
  (order.drop (agreement order (serialsOf children))).foldl toEnd children

/-- What is not an element keeps its order. -/
theorem filter_data_toEnd (nodes : List Node) (serial : Nat) :
    (toEnd nodes serial).filter (fun node => !node.isElement) =
      nodes.filter fun node => !node.isElement := by
  induction nodes with
  | nil => rfl
  | cons node rest ih =>
    simp only [toEnd, List.filter_append] at ih ⊢
    cases node with
    | data role content => simpa [Node.serial?] using ih
    | element tag children =>
      by_cases h : tag.serial = serial <;> simpa [Node.serial?, h] using ih

theorem agreement_self (serials : List Nat) : agreement serials serials = serials.length := by
  induction serials with
  | nil => rfl
  | cons first rest ih => simp [agreement, ih]

/-- Nothing moves where all elements are in place. -/
theorem arranged_serialsOf (children : List Node) :
    arranged (serialsOf children) children = children := by
  simp [arranged, agreement_self]

end Placement

/-! ## Sorters for documents -/

/-- Why a document is not sorted. -/
inductive PlacementFault where
  | sorter (fault : SorterFault)
  | selector (error : Selector.Error)
  | noContainer (selector : String)

/-- The wording of the fault that there is no container. -/
def PlacementFault.noContainerMessage (selector : String) : String :=
  "Container selector matched 0 nodes (" ++ selector ++ ")"

/-- A sorter for documents, under some settings.  Without a rule text and a seed of
its own it takes those of the settings.  With it come the repairs that the rule text
needed, which are known even if there is no sorter. -/
def Sorter.forDocuments (engine : Selector.Engine) (settings : Settings) (text : Option String)
    (strictness : Strictness) (options : CompareOptions) :
    Except SorterFault (Sorter Nat) × List Repaired :=
  let (outcome, repaired) := Rule.read strictness (text.getD settings.rulesText)
  let sorter := do
    let rules ← outcome.mapError .rule
    let bulletin ← (Bulletin.open? settings.warningCapacity .journal).mapError .failure
    return create (.markup engine) rules { options with seed := options.seed.or settings.seed }
      (recordRepairs bulletin repaired)
  (sorter, repaired)

/-! ## Sorting a document -/

/-- A sorter, the document it works on, and what finds the containers in it. -/
structure Desk where
  sorter : Sorter Nat
  document : Document
  engine : Selector.Engine

namespace Desk

/-- A computation at a desk. -/
abbrev AtDesk := ExceptT PlacementFault (StateM Desk)

/-- The whole document as a place. -/
def root (desk : Desk) : Place := .ofDocument desk.document

/-- The place of the element of this number. -/
def place? (desk : Desk) (serial : Nat) : Option Place :=
  (desk.root :: desk.root.descendants).find? fun place => place.serial == serial

/-- The element children of the element of this number. -/
def elementsOf (desk : Desk) (serial : Nat) : List Place :=
  ((desk.place? serial).map Place.elements).getD []

/-- What is to be seen of an element among others. -/
def view (elements : List Place) (serial : Nat) : Value :=
  ((elements.find? fun place => place.serial == serial).map Value.element).getD .missing

/-- The desk with the children of an element arranged. -/
def arranged (desk : Desk) (container : Nat) (order : List Nat) : Desk :=
  { desk with
    document := desk.document.update container fun tag children =>
      (tag, Placement.arranged order children) }

/-- Lets the sorter act. -/
def withSorter {α : Type} (action : Sorter.OnSorter Nat α) : AtDesk α := fun desk =>
  match action desk.sorter with
  | (.ok result, sorter) => (.ok result, { desk with sorter })
  | (.error fault, sorter) => (.error (.sorter fault), { desk with sorter })

/-- Sorts the element children of a container. -/
def sortChildren (container : Nat) : AtDesk (Sorted Nat) := do
  let elements := (← get).elementsOf container
  let sorted ← withSorter (Sorter.sort (view elements) (elements.map Place.serial))
  if sorted.moved ≠ 0 then modify fun desk => desk.arranged container sorted.order
  return sorted

/-- The containers that a selector picks, or the first of them. -/
def containers (desk : Desk) (selector : String) (all : Bool) :
    Except PlacementFault (List Nat) := do
  let picked ← (desk.engine.select selector desk.root).mapError .selector
  let chosen := if all then picked else picked.take 1
  if chosen.isEmpty then throw (.noContainer selector)
  return chosen.map Place.serial

/-- The source of the records about documents. -/
def placementSource : String := "services.html_sort"

/-- The record of a sorted document. -/
def placementMessage (count : Nat) (selector rulesShown : String) : String :=
  "Sorted " ++ toString count ++ " container(s) matching " ++ Text.quoted selector ++ " by " ++
    Text.quoted rulesShown

/-- Sorts the containers that a selector picks, or the first of them. -/
def sortDocument (selector : String) (all : Bool) : AtDesk (List (Sorted Nat)) := do
  let chosen ← (← get).containers selector all
  let results ← chosen.mapM sortChildren
  modify fun desk =>
    let message := placementMessage results.length selector desk.sorter.rulesText
    { desk with sorter.bulletin := desk.sorter.bulletin.record .info placementSource message }
  return results

/-- The document as a text. -/
def text (desk : Desk) : String := desk.document.text

end Desk

end Collate
