import Collate.Proofs.Markup.Elements

/-!
# Rearranging the children of one element

To rearrange the children of one element changes the document only there.  Every other
element has the children that it had, up to what changed inside of them
(`Document.element?_update`), and its child list is the same (`map_shallow_updateAll`).

## Strategy

What is below an element moves along with it, so the lists of all elements before and after
are compared up to their order.
-/

namespace Collate.Markup

/-! ## Elements that are rearranged -/

/-- The change of an element that leaves its tag as it is. -/
def rearrange (arrange : List Node → List Node) (tag : Tag) (children : List Node) :
    Tag × List Node := (tag, arrange children)

/-- An element, with its children, after those of the element of this number were
rearranged. -/
def rearranged (serial : Nat) (arrange : List Node → List Node) (element : Tag × List Node) :
    Tag × List Node :=
  (element.1, if element.1.serial = serial then arrange element.2
    else updateAll serial (rearrange arrange) element.2)

section Rearranging

variable {serial : Nat} {change : Tag → List Node → Tag × List Node}
  {arrange : List Node → List Node}

theorem rearranged_of_serial_eq {tag : Tag} (h : tag.serial = serial) (children : List Node) :
    rearranged serial arrange (tag, children) = (tag, arrange children) := by
  rw [rearranged, if_pos h]

theorem rearranged_of_serial_ne {tag : Tag} (h : tag.serial ≠ serial) (children : List Node) :
    rearranged serial arrange (tag, children) =
      (tag, updateAll serial (rearrange arrange) children) := by
  rw [rearranged, if_neg h]

mutual

theorem update_eq_self {node : Node} (h : ∀ element ∈ node.elements,
    element.1.serial = serial → change element.1 element.2 = element) :
    node.update serial change = node := by
  cases node with
  | data role content => rfl
  | element tag children =>
      rw [Node.elements, List.forall_mem_cons] at h
      rw [Node.update]
      split
      · next heq => rw [h.1 heq]
      · rw [updateAll_eq_self h.2]

/-- Nodes in which the change would change nothing stay as they are. -/
theorem updateAll_eq_self {nodes : List Node} (h : ∀ element ∈ elementsOf nodes,
    element.1.serial = serial → change element.1 element.2 = element) :
    updateAll serial change nodes = nodes := by
  cases nodes with
  | nil => rfl
  | cons node rest =>
      rw [elementsOf, List.forall_mem_append] at h
      rw [updateAll, update_eq_self h.1, updateAll_eq_self h.2]

end

theorem updateAll_eq_self_of_not_mem {nodes : List Node} (h : serial ∉ numbersOf nodes) :
    updateAll serial change nodes = nodes :=
  updateAll_eq_self fun _ helement hserial => absurd (hserial ▸ List.mem_map_of_mem helement) h

theorem rearranged_eq_self {nodes : List Node} (h : serial ∉ numbersOf nodes)
    {element : Tag × List Node} (helement : element ∈ elementsOf nodes) :
    rearranged serial arrange element = element := by
  -- what is inside of an element is inside of the nodes as well
  have hinside : serial ∉ numbersOf element.2 := by
    intro hserial
    obtain ⟨other, hother, heq⟩ := List.mem_map.mp hserial
    exact h (heq ▸ List.mem_map_of_mem (mem_elementsOf_trans helement hother))
  have hne : element.1.serial ≠ serial := by
    rintro rfl
    exact h (List.mem_map_of_mem helement)
  rw [rearranged_of_serial_ne hne, updateAll_eq_self_of_not_mem hinside]

mutual

theorem elements_update_perm (harrange : ∀ nodes, (arrange nodes).Perm nodes) {node : Node}
    (hnode : (node.elements.map (·.1.serial)).Nodup) :
    (node.update serial (rearrange arrange)).elements.Perm
      (node.elements.map (rearranged serial arrange)) := by
  cases node with
  | data role content => exact List.Perm.refl _
  | element tag children =>
      rw [Node.elements, List.map_cons, List.nodup_cons] at hnode
      obtain ⟨htag, hchildren⟩ := hnode
      rw [Node.elements, List.map_cons]
      by_cases heq : tag.serial = serial
      · -- below the element that is rearranged nothing changes
        have hbelow : serial ∉ numbersOf children := heq ▸ htag
        have hmap :
            (elementsOf children).map (rearranged serial arrange) = elementsOf children := by
          rw [List.map_congr_left fun element helement => rearranged_eq_self hbelow helement]
          exact List.map_id' _
        rw [Node.update, if_pos heq, rearranged_of_serial_eq heq, hmap]
        exact (elementsOf_perm (harrange children)).cons _
      · rw [Node.update, if_neg heq, rearranged_of_serial_ne heq]
        exact (elementsOf_updateAll_perm harrange hchildren).cons _

/-- Rearranging an element changes the elements one by one, and their order among all. -/
theorem elementsOf_updateAll_perm (harrange : ∀ nodes, (arrange nodes).Perm nodes)
    {nodes : List Node} (hnodes : (numbersOf nodes).Nodup) :
    (elementsOf (updateAll serial (rearrange arrange) nodes)).Perm
      ((elementsOf nodes).map (rearranged serial arrange)) := by
  cases nodes with
  | nil => exact List.Perm.refl _
  | cons node rest =>
      rw [numbersOf, elementsOf, List.map_append, List.nodup_append] at hnodes
      rw [updateAll, elementsOf, elementsOf, List.map_append]
      exact (elements_update_perm harrange hnodes.1).append
        (elementsOf_updateAll_perm harrange hnodes.2.1)

end

/-- Inside of an element there are the same elements as before. -/
theorem numbersOf_rearranged_perm (serial : Nat) (harrange : ∀ nodes, (arrange nodes).Perm nodes)
    {element : Tag × List Node}
    (helement : (numbersOf element.2).Nodup) :
    (numbersOf (rearranged serial arrange element).2).Perm (numbersOf element.2) := by
  obtain ⟨tag, children⟩ := element
  by_cases heq : tag.serial = serial
  · rw [rearranged_of_serial_eq heq]
    exact numbersOf_perm (harrange children)
  · rw [rearranged_of_serial_ne heq]
    -- further down, elements change one by one and keep their numbers
    have hperm : (elementsOf (updateAll serial (rearrange arrange) children)).Perm
        ((elementsOf children).map (rearranged serial arrange)) :=
      elementsOf_updateAll_perm harrange helement
    have hserials := hperm.map (·.1.serial)
    rwa [List.map_map] at hserials

end Rearranging

/-! ## Child lists -/

/-- A node without what is inside of it. -/
def Node.shallow : Node → Node
  | .element tag _ => .element tag []
  | .data role content => .data role content

theorem shallow_update (serial : Nat) (arrange : List Node → List Node) (node : Node) :
    (node.update serial (rearrange arrange)).shallow = node.shallow := by
  cases node with
  | data role content => rfl
  | element tag children =>
      rw [Node.update]
      split <;> rfl

theorem map_shallow_updateAll (serial : Nat) (arrange : List Node → List Node)
    (nodes : List Node) :
    (updateAll serial (rearrange arrange) nodes).map Node.shallow = nodes.map Node.shallow := by
  induction nodes with
  | nil => rfl
  | cons node rest ih => rw [updateAll, List.map_cons, List.map_cons, shallow_update, ih]

/-! ## Rearranging in a document -/

section Document

variable {document : Document} {arrange : List Node → List Node}

theorem Document.node_update (serial : Nat) (change : Tag → List Node → Tag × List Node) :
    (document.update serial change).node = document.node.update serial change := by
  unfold Document.update Document.node
  rw [Node.update]
  split <;> rfl

theorem Document.update_eq_self {serial : Nat} {change : Tag → List Node → Tag × List Node}
    (h : ∀ element ∈ document.elements,
      element.1.serial = serial → change element.1 element.2 = element) :
    document.update serial change = document := by
  have hnode := (document.node_update serial change).trans (Markup.update_eq_self h)
  unfold node at hnode
  injection hnode with htag hcontent
  cases hupdate : document.update serial change with
  | mk tag content =>
    rw [hupdate] at htag hcontent
    cases document
    cases htag
    cases hcontent
    rfl

theorem Document.elements_update_perm (harrange : ∀ nodes, (arrange nodes).Perm nodes)
    (h : document.Numbered) (serial : Nat) :
    (document.update serial (rearrange arrange)).elements.Perm
      (document.elements.map (rearranged serial arrange)) := by
  unfold Document.elements
  rw [node_update]
  exact Markup.elements_update_perm harrange h

theorem Document.numbers_update_perm (harrange : ∀ nodes, (arrange nodes).Perm nodes)
    (h : document.Numbered) (serial : Nat) :
    (document.update serial (rearrange arrange)).numbers.Perm document.numbers := by
  have hperm := (elements_update_perm harrange h serial).map (·.1.serial)
  rwa [List.map_map] at hperm

theorem Document.Numbered.update (harrange : ∀ nodes, (arrange nodes).Perm nodes)
    (h : document.Numbered) (serial : Nat) :
    (document.update serial (rearrange arrange)).Numbered :=
  (numbers_update_perm harrange h serial).nodup_iff.mpr h

/-- **Rearranging the children of one element leaves every other element its children**, up
to what changed inside of them. -/
theorem Document.element?_update (harrange : ∀ nodes, (arrange nodes).Perm nodes)
    (h : document.Numbered) (serial other : Nat) :
    (document.update serial (rearrange arrange)).element? other =
      (document.element? other).map (rearranged serial arrange) := by
  unfold element?
  rw [find?_serial_of_perm (h.update harrange serial) (elements_update_perm harrange h serial),
    List.find?_map]
  rfl

end Document

end Collate.Markup
