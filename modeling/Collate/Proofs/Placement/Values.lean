import Collate.Proofs.Placement.Container
import Collate.Proofs.Sorter.Sorting

/-!
# What is looked up on the children of a container

A sort of the children of a container sees them where they stand at that moment.  If looking
up the rules there comes to certain values (`Desk.Shows`), the sort decides by these values
(`Desk.exists_sortChildren`).

The visible text of a child is a value that does not depend on where the child stands.  Where
a document is sorted by visible text, a container that was just sorted has its elements in
the order of their texts (`Desk.texts_of_sortChildren`).
-/

namespace Collate

open Markup Placement

namespace Desk

variable {desk later : Desk} {container : Nat} {place : Place} {value : Nat → Rule → Value}

/-! ## Values of children -/

/-- Looking up the rules on the children of an element comes to these values, which are
given by the numbers of the children. -/
def Shows (desk : Desk) (container : Nat) (value : Nat → Rule → Value) : Prop :=
  ∀ child ∈ desk.elementsOf container, ∀ rule ∈ desk.sorter.rules,
    (desk.sorter.reader.lookup (.element child) rule).Returns desk.sorter.bulletin.outlet
      (value child.serial rule)

/-- What is shown depends on the document and on the setup of the sorter. -/
theorem Shows.of_sameSetup (h : desk.Shows container value)
    (hdocument : later.document = desk.document)
    (hsetup : Sorter.SameSetup desk.sorter later.sorter) : later.Shows container value := by
  unfold Shows elementsOf place? root at h ⊢
  rw [hdocument, hsetup.reader, hsetup.rules, hsetup.outlet]
  exact h

/-- The view of a child that is among others is the child where it stands. -/
theorem exists_view_eq {elements : List Place} {serial : Nat}
    (h : serial ∈ elements.map Place.serial) :
    ∃ child ∈ elements, child.serial = serial ∧ view elements serial = .element child := by
  unfold view
  cases hfind : elements.find? fun child => child.serial == serial with
  | none =>
      obtain ⟨child, hchild, hserial⟩ := List.mem_map.mp h
      rw [List.find?_eq_none] at hfind
      exact absurd (beq_iff_eq.mpr hserial) (hfind child hchild)
  | some child =>
      exact ⟨child, List.mem_of_find?_eq_some hfind, by simpa using List.find?_some hfind, rfl⟩

theorem Shows.returns_lookup (h : desk.Shows container value)
    (hplace : desk.place? container = some place) {serial : Nat}
    (hserial : serial ∈ serialsOf place.children) {rule : Rule} (hrule : rule ∈ desk.sorter.rules) :
    (desk.sorter.reader.lookup (view place.elements serial) rule).Returns
      desk.sorter.bulletin.outlet (value serial rule) := by
  rw [← map_serial_elements] at hserial
  obtain ⟨child, hchild, rfl, hview⟩ := exists_view_eq hserial
  rw [hview]
  exact h child (by rwa [elementsOf_of_place? hplace]) rule hrule

/-! ## The order that is decided -/

/-- A container whose children show consistent values is sorted by these values, unless a
handler is interrupted when the result is announced. -/
theorem exists_sortChildren (hplace : desk.place? container = some place)
    (hrandom : desk.sorter.options.random = false) (hcustom : desk.sorter.options.custom = none)
    (hshows : desk.Shows container value)
    (hconsistent : ValuesConsistent (· ∈ serialsOf place.children) value desk.sorter.rules) :
    ∃ result : Sorted Nat,
      result.order = sortBy (verdict value desk.sorter.options.reverse desk.sorter.rules)
        (serialsOf place.children) ∧
      result.moved = Sorter.differences (serialsOf place.children) result.order ∧
      ((∃ later, sortChildren container desk = (.ok result, later) ∧
          Sorter.SameSetup desk.sorter later.sorter) ∨
        ∃ failure, failure.isInterruption = true ∧
          (Hub.publish ⟨"sort_completed", .sorted result⟩ desk.sorter.hub).1 = .error failure ∧
          (sortChildren container desk).1 = .error (.sorter (.failure failure))) := by
  have hsort := returns_sortBy desk.sorter.options.reverse
    (fun _ hserial _ hrule => hshows.returns_lookup hplace hserial hrule) hconsistent
  rw [← Sorter.comparator_eq_byRules hrandom hcustom] at hsort
  obtain ⟨result, sorter, horder, hmoved, hsetup, houtcome⟩ :=
    desk.sorter.exists_sort_of_returns (view place.elements) hsort
  refine ⟨result, horder, horder ▸ hmoved, ?_⟩
  rw [sortChildren_apply hplace]
  rcases houtcome with hresult | ⟨failure, hinterruption, hpublish, herror⟩
  · rw [hresult]
    refine .inl ⟨_, rfl, ?_⟩
    unfold placed
    split <;> exact hsetup
  · rw [herror]
    exact .inr ⟨failure, hinterruption, hpublish, rfl⟩

/-- If such a sort returns, it is with the order that was decided, and the sorter is set up
as before. -/
theorem order_of_sortChildren (hplace : desk.place? container = some place)
    (hrandom : desk.sorter.options.random = false) (hcustom : desk.sorter.options.custom = none)
    (hshows : desk.Shows container value)
    (hconsistent : ValuesConsistent (· ∈ serialsOf place.children) value desk.sorter.rules)
    {result : Sorted Nat} (h : sortChildren container desk = (.ok result, later)) :
    result.order = sortBy (verdict value desk.sorter.options.reverse desk.sorter.rules)
        (serialsOf place.children) ∧
      Sorter.SameSetup desk.sorter later.sorter := by
  obtain ⟨decided, horder, -, ⟨_, hok, hsetup⟩ | ⟨_, -, -, herror⟩⟩ :=
    exists_sortChildren hplace hrandom hcustom hshows hconsistent
  · rw [h] at hok
    cases hok
    exact ⟨horder, hsetup⟩
  · rw [h] at herror
    cases herror

/-! ## Visible text -/

/-- The visible text of the element of this number. -/
def textOf (desk : Desk) (serial : Nat) : String :=
  ((desk.document.element? serial).map fun element => Markup.visibleText element.1 element.2).getD
    ""

/-- The default rule reads the visible text of an element, with nothing to tell about it. -/
theorem markup_read_visibleText (engine : Selector.Engine) (child : Place) :
    (ItemReader.markup engine).read (.element child) .visibleText =
      .found (.text child.visibleText) :=
  rfl

/-- A child has the text that its number stands for, wherever it stands among the children. -/
theorem textOf_serial (hnumbered : desk.document.Numbered)
    (hplace : desk.place? container = some place) {child : Place}
    (hchild : child.contents ∈ Markup.elementsOf place.children) :
    desk.textOf child.serial = child.visibleText := by
  have hcontainer := ((Document.element?_eq_some_iff hnumbered).mp (contents_of_place? hplace)).1
  have hmem : child.contents ∈ desk.document.elements :=
    (sublist_elements hcontainer).mem (List.mem_cons_of_mem _ hchild)
  have helement : desk.document.element? child.serial = some child.contents :=
    (Document.element?_eq_some_iff hnumbered).mpr ⟨hmem, rfl⟩
  unfold textOf
  rw [helement]
  rfl

/-- The desk sorts by visible text, in no other way. -/
structure SortsByText (desk : Desk) : Prop where
  reader : ∃ engine, desk.sorter.reader = .markup engine
  rules : desk.sorter.rules = Rule.defaults
  reverse : desk.sorter.options.reverse = false
  random : desk.sorter.options.random = false
  custom : desk.sorter.options.custom = none

theorem SortsByText.of_sameSetup (h : desk.SortsByText)
    (hsetup : Sorter.SameSetup desk.sorter later.sorter) : later.SortsByText where
  reader := h.reader.imp fun _ hreader => hsetup.reader.trans hreader
  rules := hsetup.rules.trans h.rules
  reverse := by rw [hsetup.options, h.reverse]
  random := by rw [hsetup.options, h.random]
  custom := by rw [hsetup.options, h.custom]

/-- The text that an element has stands for it under every rule. -/
def textValue (desk : Desk) (serial : Nat) (_ : Rule) : Value := .text (desk.textOf serial)

theorem SortsByText.shows (h : desk.SortsByText) (hnumbered : desk.document.Numbered)
    (container : Nat) : desk.Shows container desk.textValue := by
  intro child hchild rule hrule
  rw [h.rules] at hrule
  cases List.mem_singleton.mp hrule
  cases hplace : desk.place? container with
  | none =>
      rw [elementsOf, hplace] at hchild
      cases hchild
  | some place =>
      rw [elementsOf_of_place? hplace] at hchild
      obtain ⟨engine, hreader⟩ := h.reader
      rw [textValue, textOf_serial hnumbered hplace (Place.contents_mem_elementsOf hchild), hreader]
      exact ItemReader.returns_of_silent (markup_read_visibleText engine child) _

/-- The text of a child does not depend on how the children are arranged. -/
theorem SortsByText.shows_withChildren (h : desk.SortsByText)
    (hnumbered : desk.document.Numbered) (hplace : desk.place? container = some place)
    {arrange : List Node → List Node} (harrange : ∀ nodes, (arrange nodes).Perm nodes) :
    (desk.withChildren container arrange).Shows container desk.textValue := by
  have hdefault : (desk.withChildren container arrange).SortsByText := ⟨h.1, h.2, h.3, h.4, h.5⟩
  have hnumbered' : (desk.withChildren container arrange).document.Numbered :=
    hnumbered.update harrange container
  obtain ⟨place', hplace', hchildren⟩ := exists_place_withChildren hnumbered hplace harrange
  intro child hchild rule hrule
  have hshows := hdefault.shows hnumbered' container child hchild rule hrule
  rw [elementsOf_of_place? hplace'] at hchild
  have hmem := Place.contents_mem_elementsOf hchild
  have hmem' : child.contents ∈ Markup.elementsOf place.children := by
    rwa [hchildren, (elementsOf_perm (harrange place.children)).mem_iff] at hmem
  rwa [textValue, textOf_serial hnumbered' hplace' hmem, ← textOf_serial hnumbered hplace hmem']
    at hshows

theorem valuesConsistent_textValue (among : Nat → Prop) (rules : List Rule) :
    ValuesConsistent among desk.textValue rules := by
  intro rule _
  refine Value.consistent_isText.mono ?_
  rintro _ ⟨-, serial, -, rfl⟩
  exact ⟨desk.textOf serial, rfl, rfl⟩

/-- By default, the verdict on two elements is that on their texts. -/
theorem verdict_textValue_nonpos_iff (x y : Nat) :
    verdict desk.textValue false Rule.defaults x y ≤ 0 ↔ desk.textOf x ≤ desk.textOf y := by
  have hverdict : verdict desk.textValue false Rule.defaults x y =
      weight false (.text (desk.textOf x)) (.text (desk.textOf y)) := by
    show thenBy _ _ x y = _
    unfold thenBy verdict
    split
    · next hzero => exact hzero.symm
    · rfl
  have htext : ∀ text, Value.IsText (.text text) text := fun _ => ⟨rfl, rfl⟩
  rw [hverdict, weight_nonpos_iff Value.consistent_isText false rfl rfl ⟨_, htext _⟩ ⟨_, htext _⟩,
    if_neg Bool.false_ne_true, Value.lesser_of_isText (htext _) (htext _)]
  simp only [Except.ok.injEq, decide_eq_false_iff_not, not_lt]

/-- **A container that is sorted by visible text has its elements in the order of their
texts**, whatever order they were in. -/
theorem texts_of_sortChildren (h : desk.SortsByText) (hnumbered : desk.document.Numbered)
    (hplace : desk.place? container = some place) {result : Sorted Nat}
    (hresult : sortChildren container desk = (.ok result, later)) :
    ∃ place', later.place? container = some place' ∧
      (place'.elements.map Place.visibleText).Pairwise (· ≤ ·) := by
  obtain ⟨place', hplace', hchildren, hserials⟩ :=
    exists_place_of_sortChildren hnumbered hplace hresult
  refine ⟨place', hplace', ?_⟩
  -- the texts of the children are those that the sort has seen
  have htexts : place'.elements.map Place.visibleText = result.order.map desk.textOf := by
    rw [← hserials, ← map_serial_elements, List.map_map]
    refine List.map_congr_left fun child hchild => ?_
    have hmem := Place.contents_mem_elementsOf hchild
    rw [hchildren, (elementsOf_perm (arranged_perm _ _)).mem_iff] at hmem
    exact (textOf_serial hnumbered hplace hmem).symm
  have hconsistent : ValuesConsistent (· ∈ serialsOf place.children) desk.textValue
      desk.sorter.rules := valuesConsistent_textValue _ _
  have horder := (order_of_sortChildren hplace h.random h.custom (h.shows hnumbered container)
    hconsistent hresult).1
  have hordered := (sort_of_ranking (ranking_verdict desk.sorter.options.reverse hconsistent)).2.1
  rw [h.reverse, h.rules] at horder hordered
  rw [htexts, List.pairwise_map, horder]
  exact hordered.imp fun hnonpos => (verdict_textValue_nonpos_iff _ _).mp hnonpos

end Desk

end Collate
