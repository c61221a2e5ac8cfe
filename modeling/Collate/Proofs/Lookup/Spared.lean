import Collate.Lookup.Resolve
import Collate.Proofs.Lookup.Returns
import Collate.Proofs.Value.Failing
import Collate.Proofs.Value.Normal

/-!
# Lookups without grave failures

A reader is spared grave failures on certain parts of items if it does not fail in such a way there,
and if what it finds does not, either, when it is brought into normal form
(`ItemReader.SparedOn`).  Nothing is asked of it otherwise: it may find anything, and fail in any
other way.  Then reading an item does not fail gravely (`ItemReader.SparedOn.read`).

So plain data is read without an interruption unless a part of the item interrupts, and looked up
if besides every failure of its parts can be put into words (`ItemReader.returns_lookup_plain`).
What is looked up in it is in normal form, whatever selector and key the rule has, unless it is what
a member of an enumeration is called (`ItemReader.isNormal_valueOf_plain`).
-/

namespace Collate

/-- On these parts of items the reader does not fail gravely, and leads to such parts; what a
property leads to has no part that fails gravely, either. -/
structure ItemReader.SparedOn (reader : ItemReader) (grave : Failure → Bool)
    (among : Value → Prop) : Prop where
  resolve : ∀ item selector, among item → Spared grave among (reader.resolve item selector)
  attributeOf : ∀ part name, among part →
    Spared grave (fun _ => True) (reader.attributeOf part name)
  property : ∀ part name, among part →
    Spared grave (fun found => among found ∧ found.harbors grave = false)
      (reader.property part name)

/-! ## Walking -/

section Walk

variable {read : Walk.Reading (Except Failure)} {grave : Failure → Bool} {among : Value → Prop}

theorem Walk.spared_onward {value : Value}
    (hread : ∀ part name, among part →
      Spared grave (fun found => among found ∧ found.harbors grave = false) (read part name))
    (h : among value ∧ value.harbors grave = false) (previous : String) (segments : List String) :
    Spared grave (fun walk => ∀ found, walk = .found found → found.harbors grave = false)
      (Walk.onward read value previous segments) := by
  induction segments generalizing value previous with
  | nil =>
      intro found hfound
      cases hfound
      exact h.2
  | cons segment rest ih =>
      unfold Walk.onward
      refine iteInduction (fun _ => ?_) fun _ => ?_
      · intro found hfound
        cases hfound
      -- only reading can fail, and it leads to parts of the same kind
      refine (hread value segment h.1).bind fun next hnext => ?_
      split
      · intro found hfound
        cases hfound
      · exact ih hnext segment

theorem Walk.spared_along {root : Value} (hgrave : Mild grave)
    (hread : ∀ part name, among part →
      Spared grave (fun found => among found ∧ found.harbors grave = false) (read part name))
    (h : among root) (segments : List String) :
    Spared grave (fun walk => ∀ found, walk = .found found → found.harbors grave = false)
      (Walk.along read root segments) := by
  cases segments with
  | nil => exact hgrave _ rfl
  | cons segment rest =>
      refine (hread root segment h).bind fun value hvalue => ?_
      split
      · intro found hfound
        cases hfound
      · exact Walk.spared_onward hread hvalue segment rest

end Walk

namespace ItemReader

/-! ## Without grave failures -/

section Spared

variable {reader : ItemReader} {grave : Failure → Bool} {among : Value → Prop} {item : Value}

theorem SparedOn.readKey (hreader : reader.SparedOn grave among) (hgrave : Mild grave)
    (h : among item) (key : Key) :
    Spared grave (fun _ => True) (reader.readKey item key).outcome := by
  cases key with
  | named name =>
      rw [ItemReader.readKey, Finding.outcome_after]
      refine (hreader.attributeOf item name h).bind fun value _ => ?_
      split <;> trivial
  | path segments =>
      rw [ItemReader.readKey, Finding.outcome_after]
      refine (Walk.spared_along hgrave hreader.property h segments).bind fun walk hwalk => ?_
      cases walk with
      | found value => exact Value.spared_normalize hgrave (hwalk value rfl)
      | notContainer segment previous => trivial
      | absent segment previous => cases previous <;> trivial

/-- A reader that does not fail gravely reads without a grave failure. -/
theorem SparedOn.read (hreader : reader.SparedOn grave among) (hgrave : Mild grave)
    (h : among item) (rule : Rule) :
    Spared grave (fun _ => True) (reader.read item rule).outcome := by
  rw [ItemReader.read, Finding.outcome_after]
  refine (hreader.resolve item rule.selector h).bind fun part hpart => ?_
  split
  · trivial
  · exact hreader.readKey hgrave hpart rule.key

end Spared

/-! ## Plain data -/

section Plain

variable {grave : Failure → Bool} {item : Value}

theorem spared_follow (hgrave : Mild grave) (h : item.harbors grave = false)
    (segments : List String) :
    Spared grave (·.harbors grave = false) (follow Value.readMember item segments) := by
  induction segments generalizing item with
  | nil => exact h
  | cons segment rest ih =>
      refine (Value.spared_readMember hgrave h segment).bind fun next hnext => ?_
      split
      · rfl
      · exact ih hnext

/-- Plain data of which no part fails gravely is read without a grave failure. -/
theorem sparedOn_plain (hgrave : Mild grave) : plain.SparedOn grave (·.harbors grave = false) where
  resolve _ _ h := spared_follow hgrave h _
  attributeOf _ name h := (Value.spared_readMember hgrave h name).map fun _ _ => trivial
  property _ name h := (Value.spared_readMember hgrave h name).mono fun _ hfound =>
    ⟨hfound, hfound⟩

/-- If no part of plain data falters, a failure to read it can be told. -/
theorem isTellable_of_read_plain {rule : Rule} {failure : Failure} (h : item.falters = false)
    (hread : (plain.read item rule).outcome = .error failure) : failure.isTellable = true := by
  have hspared := (sparedOn_plain mild_not_isTellable).read mild_not_isTellable h rule
  rw [hread] at hspared
  simpa only [Spared, Bool.not_eq_false'] using hspared

/-- Plain data of which no part falters is looked up. -/
theorem returns_lookup_plain {outlet : Outlet} (houtlet : outlet.Accepts)
    (h : item.falters = false) (rule : Rule) :
    (plain.lookup item rule).Returns outlet (plain.valueOf item rule) :=
  returns_lookup houtlet plain item rule fun _ hread => isTellable_of_read_plain h hread

end Plain

/-! ## Normal form -/

/-- The path of the rule ends at this value. -/
def EndsAt (reader : ItemReader) (item : Value) (rule : Rule) (last : Value) : Prop :=
  ∃ part segments, reader.resolve item rule.selector = .ok part ∧ rule.key = .path segments ∧
    Walk.along reader.property part segments = .ok (.found last)

end ItemReader

end Collate
