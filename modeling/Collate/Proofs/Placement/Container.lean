import Collate.Proofs.Markup.Rearranging
import Collate.Proofs.Placement.Arranging
import Collate.Proofs.Sorter.Outcome

/-!
# Sorting the children of a container

Sorting a container rearranges its child nodes and nothing else
(`Desk.sortChildren_placement`): its elements come into the order that the sorter decides,
its data keeps its order, and what is in place already does not move.

## Strategy

Whether or not anything moves, the new document is the old one with the children of the
container arranged (`Desk.document_of_sortChildren`).  If nothing moves, that is because they
are in the decided order, and then the arrangement changes nothing.
-/

namespace Collate

open Markup Placement

/-! ## The numbers of child elements -/

namespace Placement

theorem map_serial_childElements (nodes : List Node) :
    (childElements nodes).map (·.1.serial) = serialsOf nodes := by
  unfold childElements serialsOf
  rw [List.map_filterMap]
  refine List.filterMap_congr fun node _ => ?_
  cases node <;> rfl

theorem map_serial_elements (place : Place) :
    place.elements.map Place.serial = serialsOf place.children := by
  rw [← map_serial_childElements, ← Place.map_contents_elements, List.map_map]
  rfl

theorem serialsOf_sublist (nodes : List Node) : (serialsOf nodes).Sublist (numbersOf nodes) := by
  rw [← map_serial_childElements]
  exact (childElements_sublist nodes).map _

theorem serialsOf_map_shallow (nodes : List Node) :
    serialsOf (nodes.map Node.shallow) = serialsOf nodes := by
  unfold serialsOf
  rw [List.filterMap_map]
  refine List.filterMap_congr fun node _ => ?_
  cases node <;> rfl

end Placement

namespace Desk

variable {desk later : Desk} {container serial : Nat} {place : Place}

theorem map_contents_place? (desk : Desk) (serial : Nat) :
    (desk.place? serial).map Place.contents = desk.document.element? serial := by
  unfold Document.element?
  rw [← map_contents_places, List.find?_map]
  rfl

theorem contents_of_place? (h : desk.place? serial = some place) :
    desk.document.element? serial = some place.contents := by
  rw [← map_contents_place?, h, Option.map_some]

theorem exists_place_of_element? {element : Tag × List Node}
    (h : desk.document.element? serial = some element) :
    ∃ place, desk.place? serial = some place ∧ place.contents = element := by
  rw [← map_contents_place?, Option.map_eq_some_iff] at h
  exact h

theorem serial_of_place? (h : desk.place? serial = some place) : place.serial = serial := by
  simpa using List.find?_some h

theorem elementsOf_of_place? (h : desk.place? serial = some place) :
    desk.elementsOf serial = place.elements := by
  rw [elementsOf, h]
  rfl

theorem nodup_serialsOf_place (hnumbered : desk.document.Numbered)
    (h : desk.place? serial = some place) : (serialsOf place.children).Nodup := by
  have hnodup := hnumbered.nodup_of_element? (contents_of_place? h)
  exact (List.nodup_cons.mp hnodup).2.sublist (serialsOf_sublist place.children)

/-- The desk with the children of an element rearranged in some way. -/
def withChildren (desk : Desk) (container : Nat) (arrange : List Node → List Node) : Desk :=
  { desk with document := desk.document.update container (rearrange arrange) }

/-- What stands where depends on the document only. -/
theorem place?_congr (h : later.document = desk.document) (serial : Nat) :
    later.place? serial = desk.place? serial := by
  unfold place? root
  rw [h]

theorem exists_place_withChildren (hnumbered : desk.document.Numbered)
    (hplace : desk.place? container = some place) {arrange : List Node → List Node}
    (harrange : ∀ nodes, (arrange nodes).Perm nodes) :
    ∃ place', (desk.withChildren container arrange).place? container = some place' ∧
      place'.children = arrange place.children := by
  have hcontainer : (desk.withChildren container arrange).document.element? container =
      some (place.tag, arrange place.children) := by
    unfold withChildren
    rw [Document.element?_update harrange hnumbered, contents_of_place? hplace, Option.map_some]
    exact congrArg some (rearranged_of_serial_eq (serial_of_place? hplace) _)
  obtain ⟨place', hplace', hcontents⟩ := exists_place_of_element? hcontainer
  exact ⟨place', hplace', congrArg Prod.snd hcontents⟩

/-! ## The step -/

/-- The desk after a sort of the children of a container. -/
def placed (desk : Desk) (container : Nat) (result : Sorted Nat) (sorter : Sorter Nat) : Desk :=
  if result.moved ≠ 0 then Desk.arranged { desk with sorter } container result.order
  else { desk with sorter }

/-- To sort the children of a container is to sort them where they stand, and to move them if
that is called for. -/
theorem sortChildren_apply (hplace : desk.place? container = some place) :
    sortChildren container desk =
      match Sorter.sort (view place.elements) (serialsOf place.children) desk.sorter with
      | (.ok result, sorter) => (.ok result, desk.placed container result sorter)
      | (.error fault, sorter) => (.error (.sorter fault), { desk with sorter }) := by
  unfold sortChildren withSorter
  simp only [bind_apply, get_apply]
  rw [elementsOf_of_place? hplace, map_serial_elements]
  cases Sorter.sort (view place.elements) (serialsOf place.children) desk.sorter with
  | mk outcome sorter =>
    cases outcome with
    | error fault => rfl
    | ok result =>
        dsimp only [placed]
        by_cases hmoved : result.moved ≠ 0
        · rw [if_pos hmoved, if_pos hmoved]
          rfl
        · rw [if_neg hmoved, if_neg hmoved]
          rfl

theorem exists_sort_of_sortChildren (hplace : desk.place? container = some place)
    {result : Sorted Nat} (h : sortChildren container desk = (.ok result, later)) :
    ∃ sorter, Sorter.sort (view place.elements) (serialsOf place.children) desk.sorter =
      (.ok result, sorter) ∧ later = desk.placed container result sorter := by
  rw [sortChildren_apply hplace] at h
  cases hsort : Sorter.sort (view place.elements) (serialsOf place.children) desk.sorter with
  | mk outcome sorter =>
    rw [hsort] at h
    cases outcome with
    | error fault => cases h
    | ok result' =>
        cases h
        exact ⟨sorter, rfl, rfl⟩

/-! ## The document after the step -/

theorem document_placed_of_moved_eq_zero (desk : Desk) (container : Nat) {result : Sorted Nat}
    (sorter : Sorter Nat) (h : result.moved = 0) :
    (desk.placed container result sorter).document = desk.document := by
  rw [placed, if_neg (by simpa using h)]

/-- **The new document is the old one with the children of the container arranged**, also if
nothing moves. -/
theorem document_of_sortChildren (hnumbered : desk.document.Numbered)
    (hplace : desk.place? container = some place) {result : Sorted Nat}
    (h : sortChildren container desk = (.ok result, later)) :
    result.order.Perm (serialsOf place.children) ∧
      later.document = desk.document.update container (rearrange (Placement.arranged result.order)) ∧
      (result.moved = 0 → later.document = desk.document) := by
  obtain ⟨sorter, hsort, rfl⟩ := exists_sort_of_sortChildren hplace h
  obtain ⟨hperm, hmoved⟩ := Sorter.perm_of_sort hsort
  refine ⟨hperm, ?_, document_placed_of_moved_eq_zero desk container sorter⟩
  by_cases hzero : result.moved = 0
  · rw [document_placed_of_moved_eq_zero desk container sorter hzero]
    -- nothing moves because all children are in place
    have horder : result.order = serialsOf place.children :=
      Sorter.eq_of_differences_eq_zero hperm.length_eq (hmoved ▸ hzero)
    refine (Document.update_eq_self fun element helement hserial => ?_).symm
    have helement' := (Document.element?_eq_some_iff hnumbered).mpr ⟨helement, hserial⟩
    rw [contents_of_place? hplace] at helement'
    cases helement'
    rw [horder, rearrange, Place.contents, arranged_serialsOf]
  · rw [placed, if_pos hzero]
    rfl

/-- What the elements have after a sort of the children of a container, in terms of what they
had before. -/
theorem element?_of_sortChildren (hnumbered : desk.document.Numbered)
    (hplace : desk.place? container = some place) {result : Sorted Nat}
    (h : sortChildren container desk = (.ok result, later)) (serial : Nat) :
    later.document.element? serial =
      (desk.document.element? serial).map
        (rearranged container (Placement.arranged result.order)) := by
  rw [(document_of_sortChildren hnumbered hplace h).2.1]
  exact Document.element?_update (arranged_perm result.order) hnumbered container serial

/-- After a sort the container has its children arranged in the order that was decided. -/
theorem exists_place_of_sortChildren (hnumbered : desk.document.Numbered)
    (hplace : desk.place? container = some place) {result : Sorted Nat}
    (h : sortChildren container desk = (.ok result, later)) :
    ∃ place', later.place? container = some place' ∧
      place'.children = Placement.arranged result.order place.children ∧
      serialsOf place'.children = result.order := by
  obtain ⟨hperm, hdocument, -⟩ := document_of_sortChildren hnumbered hplace h
  obtain ⟨place', hplace', hchildren⟩ :=
    exists_place_withChildren hnumbered hplace (arranged_perm result.order)
  refine ⟨place', (place?_congr hdocument container).trans hplace', hchildren, ?_⟩
  rw [hchildren]
  exact serialsOf_arranged hperm (nodup_serialsOf_place hnumbered hplace)

/-- The child list that an element itself has, not counting what is inside of the children. -/
def childList (desk : Desk) (serial : Nat) : Option (Tag × List Node) :=
  (desk.document.element? serial).map fun element => (element.1, element.2.map Node.shallow)

theorem childList_of_sortChildren (hnumbered : desk.document.Numbered)
    (hplace : desk.place? container = some place) {result : Sorted Nat}
    (h : sortChildren container desk = (.ok result, later)) {other : Nat} (hother : other ≠ container) :
    later.childList other = desk.childList other := by
  unfold childList
  rw [element?_of_sortChildren hnumbered hplace h, Option.map_map]
  cases hother' : desk.document.element? other with
  | none => rfl
  | some element =>
      -- this is another element, so at most something inside of it has changed
      have hserial : element.1.serial ≠ container :=
        ((Document.element?_eq_some_iff hnumbered).mp hother').2.trans_ne hother
      simp only [Option.map_some, Function.comp_apply, rearranged_of_serial_ne hserial,
        map_shallow_updateAll]

/-! ## Placement -/

/-- **Sorting the children of a container puts its elements into the order that is decided and
moves nothing else.**  No child is lost or gained and the data keeps its order; the elements
that both orders begin with stay where they are, also among the data; without a move the
document is the same; and the child list of any other element does not change. -/
theorem sortChildren_placement (hnumbered : desk.document.Numbered)
    (hplace : desk.place? container = some place) {result : Sorted Nat}
    (h : sortChildren container desk = (.ok result, later)) :
    (Sorter.sort (view place.elements) (place.elements.map Place.serial) desk.sorter).1 =
        .ok result ∧
      ∃ place', later.place? container = some place' ∧
        place'.elements.map Place.serial = result.order ∧
        place'.children.Perm place.children ∧
        (place'.children.filter fun node => !node.isElement) =
          place.children.filter (fun node => !node.isElement) ∧
        (∀ kept, kept <+: result.order → kept <+: place.elements.map Place.serial →
          place'.children.filter (isDataOrAmong kept) =
            place.children.filter (isDataOrAmong kept)) ∧
        (result.moved = 0 → later.document = desk.document) ∧
        ∀ other ≠ container, later.childList other = desk.childList other := by
  obtain ⟨sorter, hsort, -⟩ := exists_sort_of_sortChildren hplace h
  obtain ⟨hperm, -, hunmoved⟩ := document_of_sortChildren hnumbered hplace h
  obtain ⟨place', hplace', hchildren, hserials⟩ := exists_place_of_sortChildren hnumbered hplace h
  have horder : result.order.Nodup :=
    hperm.nodup_iff.mpr (nodup_serialsOf_place hnumbered hplace)
  rw [map_serial_elements]
  refine ⟨congrArg Prod.fst hsort, place', hplace', ?_, ?_, ?_, ?_, hunmoved, ?_⟩
  · rw [map_serial_elements, hserials]
  · rw [hchildren]
    exact arranged_perm result.order place.children
  · rw [hchildren]
    exact filter_data_arranged result.order place.children
  · intro kept hkept hbefore
    rw [hchildren]
    exact filter_arranged horder hkept hbefore
  · intro other hother
    exact childList_of_sortChildren hnumbered hplace h hother

/-- A desk with a list of three entries with comments around them. -/
def listDesk : Desk where
  sorter := Sorter.create (.markup .standard) [] {} (.opened 10 .journal)
  engine := .standard
  document := ⟨⟨0, documentName, []⟩, [.element ⟨1, "ul", []⟩
    [.data .comment "first", .element ⟨2, "li", []⟩ [.data .plain "a"],
      .data .comment "second", .element ⟨3, "li", []⟩ [.data .plain "c"],
      .element ⟨4, "li", []⟩ [.data .plain "b"], .data .comment "last"]]⟩

/-- The last two entries change places; the first one stays between its comments. -/
theorem sortChildren_placement_list :
    ∃ result later place place', listDesk.place? 1 = some place ∧
      sortChildren 1 listDesk = (.ok result, later) ∧ result.order = [2, 4, 3] ∧
      later.place? 1 = some place' ∧ place'.elements.map Place.serial = [2, 4, 3] ∧
      place'.children.Perm place.children ∧
      place'.children.filter (isDataOrAmong [2]) = place.children.filter (isDataOrAmong [2]) := by
  have hnumbered : listDesk.document.Numbered := by decide +kernel
  have hserials : (listDesk.place? 1).map (fun place => place.elements.map Place.serial) =
      some [2, 3, 4] := by decide +kernel
  have horder : ((sortChildren 1 listDesk).1.toOption.map Sorted.order) = some [2, 4, 3] := by
    decide +kernel
  obtain ⟨place, hplace, helements⟩ := Option.map_eq_some_iff.mp hserials
  cases hrun : sortChildren 1 listDesk with
  | mk outcome later =>
    cases outcome with
    | error fault =>
        rw [hrun] at horder
        cases horder
    | ok result =>
        have hresult : result.order = [2, 4, 3] := by
          rw [hrun] at horder
          exact Option.some.inj horder
        obtain ⟨-, place', hplace', hserials', hperm, -, hkept, -, -⟩ :=
          sortChildren_placement hnumbered hplace hrun
        refine ⟨result, later, place, place', hplace, rfl, hresult, hplace',
          hserials'.trans hresult, hperm, hkept [2] ?_ ?_⟩
        · rw [hresult]
          exact ⟨[4, 3], rfl⟩
        · rw [helements]
          exact ⟨[3, 4], rfl⟩

end Desk

end Collate
