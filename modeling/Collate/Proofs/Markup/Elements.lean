import Mathlib.Data.List.Basic
import Mathlib.Data.List.Nodup
import Mathlib.Data.List.Perm.Basic
import Collate.Markup.Place

/-!
# The elements of a document

`Document.elements` lists all elements of a document, each with its tag and its children; it
is what a look at the document from its root shows (`map_contents_places`).  In a document
whose elements have different numbers (`Document.Numbered`), a number is as good as an
element (`Document.element?_eq_some_iff`).
-/

namespace Collate.Markup

/-! ## All elements -/

mutual

/-- The elements at and below a node, each with its children. -/
def Node.elements : Node → List (Tag × List Node)
  | .element tag children => (tag, children) :: elementsOf children
  | .data _ _ => []

/-- The elements at and below some nodes, each with its children. -/
def elementsOf : List Node → List (Tag × List Node)
  | [] => []
  | node :: rest => node.elements ++ elementsOf rest

end

/-- The numbers of the elements at and below some nodes. -/
def numbersOf (nodes : List Node) : List Nat := (elementsOf nodes).map (·.1.serial)

namespace Document

/-- The document as an element. -/
def node (document : Document) : Node := .element document.tag document.content

/-- All elements of a document, the document itself first. -/
def elements (document : Document) : List (Tag × List Node) := document.node.elements

/-- The numbers of all elements. -/
def numbers (document : Document) : List Nat := document.elements.map (·.1.serial)

/-- No two elements have the same number. -/
def Numbered (document : Document) : Prop := document.numbers.Nodup

instance (document : Document) : Decidable document.Numbered :=
  inferInstanceAs (Decidable document.numbers.Nodup)

/-- The element of this number, with its children. -/
def element? (document : Document) (serial : Nat) : Option (Tag × List Node) :=
  document.elements.find? fun element => element.1.serial == serial

end Document

theorem elementsOf_eq_flatMap (nodes : List Node) :
    elementsOf nodes = nodes.flatMap Node.elements := by
  induction nodes with
  | nil => rfl
  | cons node rest ih => rw [elementsOf, List.flatMap_cons, ih]

theorem elementsOf_perm {nodes others : List Node} (h : nodes.Perm others) :
    (elementsOf nodes).Perm (elementsOf others) := by
  rw [elementsOf_eq_flatMap, elementsOf_eq_flatMap]
  exact h.flatMap_right _

theorem numbersOf_perm {nodes others : List Node} (h : nodes.Perm others) :
    (numbersOf nodes).Perm (numbersOf others) := (elementsOf_perm h).map _

/-! ## Places show all elements -/

/-- What is at a place. -/
def Place.contents (place : Place) : Tag × List Node := (place.tag, place.children)

mutual

theorem map_contents_fromNode (tag : Tag) (above : List Level) (before after : List Node)
    (node : Node) :
    (Place.fromNode tag above before after node).map Place.contents = node.elements := by
  cases node with
  | data role content => rfl
  | element inner children =>
      rw [Place.fromNode, List.map_cons, map_contents_fromNodes, Node.elements]
      rfl

theorem map_contents_fromNodes (tag : Tag) (above : List Level) (before nodes : List Node) :
    (Place.fromNodes tag above before nodes).map Place.contents = elementsOf nodes := by
  cases nodes with
  | nil => rfl
  | cons node rest =>
      rw [Place.fromNodes, List.map_append, map_contents_fromNode, map_contents_fromNodes,
        elementsOf]

end

/-- The places below a place show all elements there. -/
theorem map_contents_descendants (place : Place) :
    place.descendants.map Place.contents = elementsOf place.children :=
  map_contents_fromNodes _ _ _ _

theorem map_contents_places (document : Document) :
    (Place.ofDocument document :: (Place.ofDocument document).descendants).map Place.contents =
      document.elements := by
  rw [List.map_cons, map_contents_descendants]
  rfl

/-! ## Numbers as names -/

theorem find?_serial_eq_some_iff {elements : List (Tag × List Node)}
    (h : (elements.map (·.1.serial)).Nodup) {serial : Nat} {element : Tag × List Node} :
    elements.find? (fun element => element.1.serial == serial) = some element ↔
      element ∈ elements ∧ element.1.serial = serial := by
  constructor
  · intro hfind
    exact ⟨List.mem_of_find?_eq_some hfind, by simpa using List.find?_some hfind⟩
  · rintro ⟨hmem, rfl⟩
    cases hfind : elements.find? (fun other => other.1.serial == element.1.serial) with
    | none =>
        rw [List.find?_eq_none] at hfind
        exact absurd (beq_self_eq_true _) (hfind element hmem)
    | some other =>
        have hserial : other.1.serial = element.1.serial := by simpa using List.find?_some hfind
        exact congrArg some
          (List.inj_on_of_nodup_map h (List.mem_of_find?_eq_some hfind) hmem hserial)

theorem find?_serial_of_perm {elements others : List (Tag × List Node)}
    (h : (elements.map (·.1.serial)).Nodup) (hperm : elements.Perm others) (serial : Nat) :
    elements.find? (fun element => element.1.serial == serial) =
      others.find? fun element => element.1.serial == serial := by
  have hothers : (others.map (·.1.serial)).Nodup := (hperm.map _).nodup_iff.mp h
  refine Option.ext fun element => ?_
  rw [find?_serial_eq_some_iff h, find?_serial_eq_some_iff hothers, hperm.mem_iff]

theorem Document.element?_eq_some_iff {document : Document} (h : document.Numbered) {serial : Nat}
    {element : Tag × List Node} :
    document.element? serial = some element ↔
      element ∈ document.elements ∧ element.1.serial = serial := find?_serial_eq_some_iff h

/-! ## Elements inside of elements -/

mutual

theorem sublist_elements {node : Node} {element : Tag × List Node} (h : element ∈ node.elements) :
    (element :: elementsOf element.2).Sublist node.elements := by
  cases node with
  | data role content => cases h
  | element tag children =>
      rw [Node.elements, List.mem_cons] at h
      rcases h with rfl | h
      · exact List.Sublist.refl _
      · exact (sublist_elementsOf h).trans (List.sublist_cons_self _ _)

/-- Among some elements are those inside of any of them. -/
theorem sublist_elementsOf {nodes : List Node} {element : Tag × List Node}
    (h : element ∈ elementsOf nodes) :
    (element :: elementsOf element.2).Sublist (elementsOf nodes) := by
  cases nodes with
  | nil => cases h
  | cons node rest =>
      rw [elementsOf, List.mem_append] at h
      rcases h with h | h
      · exact (sublist_elements h).trans (List.sublist_append_left _ _)
      · exact (sublist_elementsOf h).trans (List.sublist_append_right _ _)

end

theorem mem_elementsOf_trans {nodes : List Node} {element other : Tag × List Node}
    (helement : element ∈ elementsOf nodes) (hother : other ∈ elementsOf element.2) :
    other ∈ elementsOf nodes :=
  (sublist_elementsOf helement).mem (List.mem_cons_of_mem _ hother)

/-- An element and the elements inside of it have different numbers. -/
theorem Document.Numbered.nodup_of_element? {document : Document} (h : document.Numbered)
    {serial : Nat} {element : Tag × List Node} (helement : document.element? serial = some element) :
    (element.1.serial :: numbersOf element.2).Nodup := by
  have hmem := ((Document.element?_eq_some_iff h).mp helement).1
  have hsublist : (element.1.serial :: numbersOf element.2).Sublist document.numbers :=
    (sublist_elements hmem).map fun inner : Tag × List Node => inner.1.serial
  exact List.Nodup.sublist hsublist h

/-! ## Child elements -/

/-- An element, with its children. -/
def Node.contents? : Node → Option (Tag × List Node)
  | .element tag children => some (tag, children)
  | .data _ _ => none

/-- The elements among some nodes, each with its children. -/
def childElements (nodes : List Node) : List (Tag × List Node) := nodes.filterMap Node.contents?

theorem Place.map_contents_elementsAmong (tag : Tag) (above : List Level)
    (before nodes : List Node) :
    (elementsAmong tag above before nodes).map contents = childElements nodes := by
  induction nodes generalizing before with
  | nil => rfl
  | cons node rest ih =>
      cases node with
      | element inner children =>
          rw [elementsAmong, List.map_cons, ih]
          rfl
      | data role content => exact ih _

theorem Place.map_contents_elements (place : Place) :
    place.elements.map contents = childElements place.children :=
  map_contents_elementsAmong _ _ _ _

/-- Child elements are among all elements below. -/
theorem childElements_sublist (nodes : List Node) :
    (childElements nodes).Sublist (elementsOf nodes) := by
  induction nodes with
  | nil => exact List.Sublist.slnil
  | cons node rest ih =>
      cases node with
      | element tag children =>
          exact (ih.trans (List.sublist_append_right (elementsOf children) _)).cons_cons _
      | data role content => exact ih

theorem Place.contents_mem_elementsOf {place child : Place} (h : child ∈ place.elements) :
    child.contents ∈ elementsOf place.children := by
  refine (childElements_sublist place.children).mem ?_
  rw [← map_contents_elements]
  exact List.mem_map_of_mem h

end Collate.Markup
