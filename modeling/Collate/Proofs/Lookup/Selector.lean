import Collate.Lookup.Reader
import Collate.Proofs.Text.Parts

/-!
# Selectors of plain data

Two selectors of plain data can be joined by a slash.  The whole leads from an item to the part
that the second one points to in the part that the first one points to
(`ItemReader.plain_resolve_joined`), and nowhere if the first one leads nowhere.  How the parts of
a selector are set apart does not matter: only what is left of them without the blanks around them
counts, where anything is left.

## Strategy

A selector is followed segment by segment, and the segments of the whole are those of the first
selector and then those of the second one (`selectorSegments_slash`).  What reading a segment comes
to, and whether it fails, is left open: the members of an item may be read in any lawful monad
(`follow_append`).  So both sides of an equation read the same segments from the same values, in
the same order.
-/

namespace Collate

theorem Value.isAbsent_of_isMissing {value : Value} (h : value.isMissing = false) :
    value.isAbsent = false := by
  cases value <;> first | rfl | exact h

namespace ItemReader

/-! ## Segments -/

@[simp] theorem selectorSegments_empty : selectorSegments "" = [] := rfl

/-- A slash separates the segments of what stands before it from those behind it. -/
theorem selectorSegments_slash (s t : String) :
    selectorSegments (s ++ "/" ++ t) = selectorSegments s ++ selectorSegments t := by
  have hchars : (s ++ "/" ++ t).toList = s.toList ++ '/' :: t.toList := by
    rw [String.toList_append, String.toList_append, List.append_assoc]
    rfl
  rw [selectorSegments, hchars, Text.splitOn_append_sep, List.map_append, List.filter_append,
    List.map_append]
  rfl

/-- The blanks around a selector do not matter. -/
theorem selectorSegments_trimmed (s : String) :
    selectorSegments (Text.trimmed s) = selectorSegments s := by
  have hslash : Text.isBlank '/' = false := by decide
  have hparts := Text.map_trim_splitOn_trim hslash s.toList
  rw [selectorSegments, Text.trimmed, String.toList_ofList, hparts]
  rfl

theorem selectorSegments_intercalate (parts : List String) :
    selectorSegments ("/".intercalate parts) = parts.flatMap selectorSegments := by
  induction parts with
  | nil => rfl
  | cons part rest ih =>
      cases rest with
      | nil => simp
      | cons next more =>
          rw [String.intercalate_cons_cons, selectorSegments_slash, ih]
          rfl

/-- The parts of a selector that count: without the blanks around them, and no blank ones. -/
def significantParts (parts : List String) : List String :=
  (parts.map Text.trimmed).filter (· ≠ "")

/-- Only the parts that count have segments. -/
theorem selectorSegments_significantParts (parts : List String) :
    selectorSegments ("/".intercalate (significantParts parts)) =
      selectorSegments ("/".intercalate parts) := by
  rw [selectorSegments_intercalate, selectorSegments_intercalate, significantParts]
  induction parts with
  | nil => rfl
  | cons part rest ih =>
      rw [List.map_cons, List.filter_cons, List.flatMap_cons, ← selectorSegments_trimmed part, ← ih]
      split
      · rw [List.flatMap_cons]
      · next hempty =>
        have hpart : Text.trimmed part = "" := by simpa using hempty
        rw [hpart, selectorSegments_empty, List.nil_append]

/-! ## Following segments -/

section Reading

variable {m : Type → Type} [Monad m] [LawfulMonad m] (read : Walk.Reading m) {value : Value}

/-- Segments are followed one after the other; who has lost the way stays lost. -/
theorem follow_append (hvalue : value.isAbsent = false) (segments others : List String) :
    follow read value (segments ++ others) =
      follow read value segments >>= fun part =>
        if part.isAbsent then pure .missing else follow read part others := by
  induction segments generalizing value with
  | nil => simp [follow, hvalue]
  | cons segment rest ih =>
      simp only [List.cons_append, follow, bind_assoc]
      apply bind_congr
      intro next
      cases hnext : next.isMissing with
      | true => simp [Value.isAbsent]
      | false => simpa using ih (Value.isAbsent_of_isMissing hnext)

/-- Selectors joined by a slash are followed one after the other. -/
theorem pointedTo_slash (hvalue : value.isAbsent = false) (s t : String) :
    pointedTo read value (some (s ++ "/" ++ t)) =
      pointedTo read value (some s) >>= fun part =>
        if part.isAbsent then pure .missing else pointedTo read part (some t) := by
  simp only [pointedTo, Option.getD_some, selectorSegments_slash]
  exact follow_append read hvalue _ _

omit [LawfulMonad m] in
theorem pointedTo_significantParts (value : Value) (parts : List String) :
    pointedTo read value (some ("/".intercalate (significantParts parts))) =
      pointedTo read value (some ("/".intercalate parts)) := by
  simp only [pointedTo, Option.getD_some, selectorSegments_significantParts]

end Reading

/-- What selectors joined by a slash point to in an item: the part that the second one points to in
the part that the first one points to, or a failure that is met on the way.  Blank parts, and blanks
around parts, do not matter.  All of this holds in any monad in which members are read. -/
theorem plain_resolve_joined {item : Value} (hitem : item.isAbsent = false) :
    (∀ s t : String, plain.resolve item (some (s ++ "/" ++ t)) =
      (plain.resolve item (some s)).bind fun part =>
        if part.isAbsent then .ok .missing else plain.resolve part (some t)) ∧
    (∀ parts : List String, plain.resolve item (some ("/".intercalate parts)) =
      plain.resolve item (some ("/".intercalate (significantParts parts)))) ∧
    ∀ {m : Type → Type} [Monad m] [LawfulMonad m] (read : Walk.Reading m),
      (∀ s t : String, pointedTo read item (some (s ++ "/" ++ t)) =
        pointedTo read item (some s) >>= fun part =>
          if part.isAbsent then pure .missing else pointedTo read part (some t)) ∧
      ∀ parts : List String, pointedTo read item (some ("/".intercalate parts)) =
        pointedTo read item (some ("/".intercalate (significantParts parts))) := by
  refine ⟨fun s t => ?_, fun parts => ?_, fun read => ⟨fun s t => ?_, fun parts => ?_⟩⟩
  · exact pointedTo_slash Value.readMember hitem s t
  · exact (pointedTo_significantParts Value.readMember item parts).symm
  · exact pointedTo_slash read hitem s t
  · exact (pointedTo_significantParts read item parts).symm

/-- A selector with blanks and a blank part leads through an object and a mapping; a member that
refuses to be read stops both sides. -/
theorem plain_resolve_joined_refusal :
    (Value.object 1 "Thing" [("meta", .mapping 2 [("name", .text "x")])]
      [("owner", .raised .state "locked")] [] [] none).isAbsent = false ∧
    plain.resolve (.object 1 "Thing" [("meta", .mapping 2 [("name", .text "x")])]
      [("owner", .raised .state "locked")] [] [] none) (some (" meta / " ++ "/" ++ "name")) =
        .ok (.text "x") ∧
    plain.resolve (.object 1 "Thing" [("meta", .mapping 2 [("name", .text "x")])]
      [("owner", .raised .state "locked")] [] [] none) (some ("owner" ++ "/" ++ "name")) =
        .error (.raised .state "locked") := by
  have hitem : (Value.object 1 "Thing" [("meta", .mapping 2 [("name", .text "x")])]
    [("owner", .raised .state "locked")] [] [] none).isAbsent = false := rfl
  obtain ⟨hjoined, -⟩ := plain_resolve_joined hitem
  exact ⟨hitem, (hjoined " meta / " "name").trans rfl, (hjoined "owner" "name").trans rfl⟩

end ItemReader

end Collate
