import Collate.Payload
import Collate.Text.Blank

/-!
# Rules

A rule says which value to read off an item and in which direction the values
read order.  Its key names an attribute, or walks a path of properties; its
selector, if it has one, redirects the reading to the first match inside the
item.

Only rules that can be written as rule text exist: the legality of the key and
of the selector are fields of `Rule`.  `Rule.declare` builds a rule from
unchecked parts, or says what is wrong with them (`Rule.Fault`).

## Strategy

`Key.Legal` and `LegalSelector` state what rule text can carry.  `Key.fault?`
looks for the first thing wrong with a key; `Key.fault?_eq_none_iff` says that
it finds something exactly when the key is not legal.
-/

namespace Collate

open Text

/-! ## Characters with a meaning in rule text -/

/-- The brace that opens a selector. -/
def openBrace : Char := '\x7b'

/-- The brace that closes a selector. -/
def closeBrace : Char := '\x7d'

/-- Whether the character is one of the two braces. -/
def isBrace (c : Char) : Bool := c == openBrace || c == closeBrace

/-- The characters that rule text reserves; they are never part of a key. -/
def isReserved (c : Char) : Bool := isBlank c || c == ',' || isBrace c

/-! ## Keys -/

/-- What a rule reads off an item. -/
inductive Key where
  /-- A named attribute. -/
  | named (name : String)
  /-- A path of properties, walked from the item on. -/
  | path (segments : List String)
  deriving DecidableEq

namespace Key

/-- The visible text of an item, read whenever a clause names no key. -/
def fallback : Key := .path ["text"]

/-- A name that rule text can carry as an attribute. -/
def LegalName (name : List Char) : Prop :=
  name ≠ [] ∧ name.head? ≠ some '.' ∧ name.head? ≠ some '>' ∧ name.any isReserved = false

/-- A segment that rule text can carry inside a path. -/
def LegalSegment (segment : List Char) : Prop :=
  segment ≠ [] ∧ '.' ∉ segment ∧ segment.any isReserved = false

instance (name : List Char) : Decidable (LegalName name) :=
  inferInstanceAs (Decidable (_ ∧ _))

instance (segment : List Char) : Decidable (LegalSegment segment) :=
  inferInstanceAs (Decidable (_ ∧ _))

/-- A key that rule text can carry. -/
def Legal : Key → Prop
  | named name => LegalName name.toList
  | path segments => segments ≠ [] ∧ ∀ segment ∈ segments, LegalSegment segment.toList

instance : (key : Key) → Decidable key.Legal
  | named _ => inferInstanceAs (Decidable (LegalName _))
  | path _ => inferInstanceAs (Decidable (_ ∧ _))

theorem fallback_legal : fallback.Legal := by decide +kernel

/-- The key as rule text writes it. -/
def text : Key → String
  | named name => name
  | path segments => String.join (segments.map ("." ++ ·))

/-- Whether the key walks a path of properties. -/
def isPath : Key → Bool
  | named _ => false
  | path _ => true

end Key

/-! ## What can be wrong with a declaration -/

/-- Why something is not a rule. -/
inductive Rule.Fault where
  | emptyName
  | nameStart (first : Char) (name : String)
  | reservedInName (name : String)
  | emptyPath
  | unusableSegment
  | reservedInSegment (segment : String)
  | unsupportedKey (key : Payload)
  | selectorNotText
  | braceInSelector (selector : String)
  | notMapping (payload : Payload)
  | descendingNotBool
  /-- The payload at this position of a list of rules is at fault. -/
  | atIndex (index : Nat) (fault : Rule.Fault)

/-- The wording of a fault. -/
def Rule.Fault.message : Rule.Fault → String
  | emptyName => "Rule.key cannot be an empty attribute name"
  | nameStart first name =>
    "Rule.key attribute name cannot start with " ++ quoted (String.singleton first) ++ ": " ++
      quoted name
  | reservedInName name =>
    "Rule.key attribute name contains a reserved character: " ++ quoted name
  | emptyPath => "Rule.key property path cannot be empty"
  | unusableSegment => "All Rule.key path segments must be non-empty strings"
  | reservedInSegment segment =>
    "Rule.key path segment contains a reserved character: " ++ quoted segment
  | unsupportedKey key => "Unsupported Rule.key value: " ++ key.shown
  | selectorNotText => "Rule.selector must be a string when set"
  | braceInSelector selector => "Rule.selector cannot contain braces: " ++ quoted selector
  | notMapping payload => "Rule payload must be a mapping, got " ++ payload.kind
  | descendingNotBool => "Rule 'descending' must be a bool"
  | atIndex index fault => "Invalid rule at index " ++ toString index ++ ": " ++ fault.message

namespace Key

/-- Whether a segment holds a character that ends it in rule text. -/
def segmentIsReserved (segment : String) : Bool :=
  segment.toList.any fun c => c == '.' || isReserved c

/-- The first thing wrong with a key. -/
def fault? : Key → Option Rule.Fault
  | named name =>
    match name.toList with
    | [] => some .emptyName
    | first :: rest =>
      if first = '.' ∨ first = '>' then some (.nameStart first name)
      else if (first :: rest).any isReserved then some (.reservedInName name)
      else none
  | path segments =>
    if segments = [] then some .emptyPath
    else if segments.any (·.isEmpty) then some .unusableSegment
    else (segments.find? segmentIsReserved).map .reservedInSegment

theorem fault?_eq_none_iff (key : Key) : key.fault? = none ↔ key.Legal := by
  cases key with
  | named name =>
    simp only [fault?, Legal, LegalName]
    cases name.toList with
    | nil => simp
    | cons first rest =>
      simp only [List.head?_cons, ne_eq, reduceCtorEq, not_false_eq_true, true_and,
        Option.some.injEq]
      split
      · next h => simp; intro h1 h2; exact absurd h (by simp [h1, h2])
      · next h =>
        have h1 : first ≠ '.' := fun e => h (Or.inl e)
        have h2 : first ≠ '>' := fun e => h (Or.inr e)
        split
        · next hany => simp [h1, h2, hany]
        · next hany => simp [h1, h2, Bool.eq_false_iff.mpr hany]
  | path segments =>
    simp only [fault?, Legal]
    split
    · next h => simp [h]
    · next hne =>
      split
      · next hany =>
        obtain ⟨segment, hmem, hempty⟩ := List.any_eq_true.mp hany
        simp only [reduceCtorEq, ne_eq, false_iff, not_and]
        intro _ hall
        exact (hall segment hmem).1 (by simpa using hempty)
      · next hany =>
        simp only [Option.map_eq_none_iff, List.find?_eq_none, ne_eq, hne, not_false_eq_true,
          true_and]
        constructor
        · intro hfind segment hmem
          have hsegment := hfind segment hmem
          simp only [segmentIsReserved, List.any_eq_true, Bool.or_eq_true, beq_iff_eq, not_exists,
            not_and, not_or] at hsegment
          refine ⟨fun hnil => hany (List.any_eq_true.mpr ⟨segment, hmem, by simpa using hnil⟩),
            fun hdot => (hsegment _ hdot).1 rfl, ?_⟩
          rw [List.any_eq_false]
          exact fun c hc => (hsegment c hc).2
        · intro hall segment hmem
          obtain ⟨_, hdot, hreserved⟩ := hall segment hmem
          rw [List.any_eq_false] at hreserved
          simp only [segmentIsReserved, List.any_eq_true, Bool.or_eq_true, beq_iff_eq, not_exists,
            not_and, not_or]
          exact fun c hc => ⟨fun e => hdot (e ▸ hc), hreserved c hc⟩

end Key

/-! ## Rules -/

/-- A selector that rule text can carry: not empty, no blanks at its ends, no
braces. -/
def LegalSelector (selector : String) : Prop :=
  selector.toList ≠ [] ∧ trim selector.toList = selector.toList ∧
    selector.toList.any isBrace = false

/-- One value to read off an item, and the direction its values order in. -/
structure Rule where
  key : Key
  selector : Option String
  descending : Bool
  key_legal : key.Legal
  selector_legal : ∀ text ∈ selector, LegalSelector text
  deriving DecidableEq

namespace Rule

/-- A selector without the blanks around it; a blank one is none at all. -/
def tidySelector (selector : String) : Option String :=
  if trim selector.toList = [] then none else some (trimmed selector)

theorem tidySelector_legal {selector : String} (h : selector.toList.any isBrace = false) :
    ∀ text ∈ tidySelector selector, LegalSelector text := by
  intro text htext
  simp only [tidySelector] at htext
  split at htext
  · simp at htext
  · next hne =>
    simp only [Option.mem_def, Option.some.injEq] at htext
    subst htext
    refine ⟨by simpa [trimmed] using hne, by simp [trimmed, trim_trim], ?_⟩
    rw [List.any_eq_false] at h ⊢
    intro c hc
    exact h c (mem_of_mem_trim (by simpa [trimmed] using hc))

/-- The rule with these parts, or the first fault among them. -/
def declare (key : Key) (selector : Option String) (descending : Bool) : Except Fault Rule :=
  match hkey : key.fault? with
  | some fault => .error fault
  | none =>
    match selector with
    | none =>
      .ok
        { key, selector := none, descending,
          key_legal := key.fault?_eq_none_iff.mp hkey,
          selector_legal := by simp }
    | some text =>
      if hbrace : text.toList.any isBrace = true then .error (.braceInSelector text)
      else
        .ok
          { key, selector := tidySelector text, descending,
            key_legal := key.fault?_eq_none_iff.mp hkey,
            selector_legal := tidySelector_legal (Bool.eq_false_iff.mpr hbrace) }

/-- The rule that reads the visible text, in ascending order. -/
def visibleText : Rule where
  key := .fallback
  selector := none
  descending := false
  key_legal := Key.fallback_legal
  selector_legal := by simp

/-- The rules of a sort that was given none. -/
def defaults : List Rule := [visibleText]

/-- The rule as a clause of rule text. -/
def text (rule : Rule) : String :=
  (match rule.selector with
    | some selector => "\x7b" ++ selector ++ "\x7d "
    | none => "") ++
  (if rule.descending then ">" else "") ++ rule.key.text

/-- Rule text for a list of rules. -/
def textOf (rules : List Rule) : String := ", ".intercalate (rules.map text)

end Rule

end Collate
