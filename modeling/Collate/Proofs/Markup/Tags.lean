import Collate.Proofs.Markup.Attributes
import Collate.Proofs.Markup.Elements

/-!
# The tags of documents that are read

Every element that is opened gets a tag with the next number, whose attributes have different
names, and no tag is lost or given twice while elements are closed.  So the elements of a document
that was read have different numbers (`Document.numbered_of_read`), and each of them has different
attributes (`Document.distinct_of_read`), wherever it is looked at from
(`Document.distinct_of_mem_places`).

## Strategy

`Builder.tags` lists the tags that are given so far, in any order.  Their numbers are below the
next one and all different, and so are the names of the attributes of each of them
(`Builder.Tagging`); closing an element only moves them.
-/

namespace Collate.Markup

/-! ## Tags in the making -/

/-- The tags of the elements at and below some nodes. -/
def tagsOf (nodes : List Node) : List Tag := (elementsOf nodes).map Prod.fst

theorem tagsOf_perm {nodes others : List Node} (h : nodes.Perm others) :
    (tagsOf nodes).Perm (tagsOf others) := (elementsOf_perm h).map _

theorem tagsOf_cons (node : Node) (rest : List Node) :
    tagsOf (node :: rest) = node.elements.map Prod.fst ++ tagsOf rest := by
  rw [tagsOf, elementsOf, List.map_append, tagsOf]

/-- The tags of an open element and of what is closed inside of it. -/
def OpenElement.tags (element : OpenElement) : List Tag := element.tag :: tagsOf element.children

namespace Builder

/-- The tags that a builder has given. -/
def tags (builder : Builder) : List Tag :=
  builder.inner.flatMap OpenElement.tags ++ builder.outermost.tags

/-- The tags that are given have different numbers, below the next one, and each of them has
different attributes. -/
structure Tagging (builder : Builder) : Prop where
  nodup : (builder.tags.map Tag.serial).Nodup
  lt_nextSerial : ∀ tag ∈ builder.tags, tag.serial < builder.nextSerial
  distinct : ∀ tag ∈ builder.tags, tag.Distinct

variable {builder : Builder}

theorem Tagging.of_perm {builder' : Builder} (h : builder.Tagging)
    (hperm : builder'.tags.Perm builder.tags)
    (hnext : builder'.nextSerial = builder.nextSerial) : builder'.Tagging where
  nodup := (hperm.map _).nodup_iff.mpr h.nodup
  lt_nextSerial tag htag := by
    rw [hnext]
    exact h.lt_nextSerial tag (hperm.mem_iff.mp htag)
  distinct tag htag := h.distinct tag (hperm.mem_iff.mp htag)

/-! ## Adding and closing -/

theorem tags_append_perm (builder : Builder) (node : Node) :
    (builder.append node).tags.Perm (node.elements.map Prod.fst ++ builder.tags) := by
  unfold append tags
  split
  · next hinner =>
    simp only [hinner, List.flatMap_nil, List.nil_append, OpenElement.tags, tagsOf_cons]
    exact List.perm_middle.symm
  · next element others hinner =>
    simp only [hinner, List.flatMap_cons, OpenElement.tags, tagsOf_cons, List.cons_append,
      List.append_assoc]
    exact List.perm_middle.symm

theorem nextSerial_append (builder : Builder) (node : Node) :
    (builder.append node).nextSerial = builder.nextSerial := by
  unfold append
  split <;> rfl

theorem Tagging.append_data (h : builder.Tagging) (role : Role) (content : String) :
    (builder.append (.data role content)).Tagging :=
  h.of_perm (tags_append_perm builder _) (nextSerial_append builder _)

theorem Tagging.flush (h : builder.Tagging) (role : Role) : (builder.flush role).Tagging := by
  unfold Builder.flush
  split
  · exact h
  · exact (h.append_data _ _).of_perm (List.Perm.refl _) rfl

theorem Tagging.addText (h : builder.Tagging) (content : List Char) :
    (builder.addText content).Tagging := h.of_perm (List.Perm.refl _) rfl

theorem Tagging.addData (h : builder.Tagging) (role : Role) (content : List Char) :
    (builder.addData role content).Tagging := ((h.flush .plain).addText content).flush role

theorem Tagging.closeInnermost (h : builder.Tagging) : builder.closeInnermost.Tagging := by
  unfold Builder.closeInnermost
  split
  · exact h
  · next element others hinner =>
    refine h.of_perm ?_ (nextSerial_append _ _)
    refine (tags_append_perm _ _).trans ?_
    -- the children are held in reverse while their element is open
    have hchildren : (tagsOf element.children.reverse).Perm (tagsOf element.children) :=
      tagsOf_perm (List.reverse_perm _)
    have helement : ((Node.element element.tag element.children.reverse).elements.map
        Prod.fst).Perm element.tags := hchildren.cons _
    have htags : builder.tags = element.tags ++ Builder.tags { builder with inner := others } := by
      unfold Builder.tags
      rw [hinner, List.flatMap_cons, List.append_assoc]
    rw [htags]
    exact helement.append_right _

theorem Tagging.closeMany (h : builder.Tagging) (count : Nat) :
    (closeMany count builder).Tagging := by
  induction count generalizing builder with
  | zero => exact h
  | succ count ih => exact ih h.closeInnermost

theorem Tagging.close (h : builder.Tagging) (name : String) :
    (builder.close name).Tagging := by
  unfold Builder.close
  dsimp only
  split
  · exact h.flush .plain
  · exact (h.flush .plain).closeMany _

/-! ## Opening -/

/-- An element that is opened gets a number that no other has. -/
theorem Tagging.openElement (h : builder.Tagging) (name : String)
    (attributes : List (String × String)) : (builder.openElement name attributes).Tagging := by
  have hflush := h.flush .plain
  unfold Builder.openElement
  dsimp only
  -- only the tags that were given so far matter
  generalize builder.flush .plain = flushed at hflush
  refine ⟨List.nodup_cons.mpr ⟨fun hserial => ?_, hflush.nodup⟩, ?_, ?_⟩
  · obtain ⟨tag, htag, hserial⟩ := List.mem_map.mp hserial
    exact absurd hserial (Nat.ne_of_lt (hflush.lt_nextSerial tag htag))
  · intro tag htag
    rcases List.mem_cons.mp htag with rfl | htag
    · exact Nat.lt_succ_self _
    · exact Nat.lt_succ_of_lt (hflush.lt_nextSerial tag htag)
  · intro tag htag
    rcases List.mem_cons.mp htag with rfl | htag
    · exact distinct_tagOf _ name attributes
    · exact hflush.distinct tag htag

theorem Tagging.add (h : builder.Tagging) (piece : Piece) : (builder.add piece).Tagging := by
  cases piece with
  | opening name attributes selfClosed =>
      have hopened := h.openElement name attributes
      simp only [Builder.add]
      split
      · exact hopened.close name
      split
      · exact (hopened.close name).of_perm (List.Perm.refl _) rfl
      · exact hopened
  | closing name =>
      simp only [Builder.add]
      split
      · exact h.of_perm (List.Perm.refl _) rfl
      · exact h.close name
  | text content => exact h.addText content
  | comment content => exact h.addData .comment content
  | doctype content => exact h.addData .doctype content
  | instruction content => exact h.addData .instruction content
  | declaration content =>
      simp only [Builder.add]
      split
      · exact h.addData .cdata _
      · exact h.addData .declaration content

theorem Tagging.foldl_add (h : builder.Tagging) (pieces : List Piece) :
    (pieces.foldl Builder.add builder).Tagging := by
  induction pieces generalizing builder with
  | nil => exact h
  | cons piece rest ih => exact ih (h.add piece)

/-! ## The document -/

theorem tagging_empty : Builder.empty.Tagging where
  nodup := List.nodup_singleton 0
  lt_nextSerial tag htag := by
    rw [List.mem_singleton.mp htag]
    exact Nat.zero_lt_one
  distinct tag htag := by
    rw [List.mem_singleton.mp htag]
    exact List.nodup_nil

/-- The document has the tags that were given. -/
theorem Tagging.finish (h : builder.Tagging) :
    builder.finish.Numbered ∧ ∀ element ∈ builder.finish.elements, element.1.Distinct := by
  have hclosed := (h.flush .plain).closeMany (builder.flush .plain).inner.length
  generalize hlast :
    Builder.closeMany (builder.flush .plain).inner.length (builder.flush .plain) = last at hclosed
  -- once everything is closed, the outermost element has all of the tags
  have htags : (builder.finish.elements.map Prod.fst).Perm last.outermost.tags := by
    rw [← hlast]
    exact (tagsOf_perm (List.reverse_perm _)).cons _
  have hnumbers : builder.finish.numbers = (builder.finish.elements.map Prod.fst).map Tag.serial :=
    (List.map_map ..).symm
  constructor
  · have hnodup := hclosed.nodup
    rw [Builder.tags, List.map_append, List.nodup_append] at hnodup
    rw [Document.Numbered, hnumbers]
    exact (htags.map _).nodup_iff.mpr hnodup.2.1
  · intro element helement
    have htag := htags.mem_iff.mp (List.mem_map_of_mem helement)
    exact hclosed.distinct _ (List.mem_append_right _ htag)

end Builder

theorem Document.eq_finish_of_read {text : String} {document : Document}
    (h : Document.read text = .ok document) :
    ∃ builder : Builder, builder.Tagging ∧ document = builder.finish := by
  unfold Document.read at h
  cases hpieces : piecesOf text.toList with
  | error rejection =>
      rw [hpieces] at h
      cases h
  | ok pieces =>
      rw [hpieces] at h
      cases h
      exact ⟨_, Builder.tagging_empty.foldl_add pieces, rfl⟩

/-- **The elements of a document that was read have different numbers.** -/
theorem Document.numbered_of_read {text : String} {document : Document}
    (h : Document.read text = .ok document) : document.Numbered := by
  obtain ⟨builder, htagging, rfl⟩ := Document.eq_finish_of_read h
  exact htagging.finish.1

/-- **The attributes of each element of a document that was read have different names.** -/
theorem Document.distinct_of_read {text : String} {document : Document}
    (h : Document.read text = .ok document) :
    ∀ element ∈ document.elements, element.1.Distinct := by
  obtain ⟨builder, htagging, rfl⟩ := Document.eq_finish_of_read h
  exact htagging.finish.2

/-- So whatever place of the document is looked at, its attributes have different names. -/
theorem Document.distinct_of_mem_places {text : String} {document : Document}
    (h : Document.read text = .ok document) {place : Place}
    (hplace : place ∈ Place.ofDocument document :: (Place.ofDocument document).descendants) :
    place.tag.Distinct := by
  refine Document.distinct_of_read h place.contents ?_
  rw [← map_contents_places]
  exact List.mem_map_of_mem hplace

end Collate.Markup
