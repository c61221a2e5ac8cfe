import Collate.Proofs.Computation
import Collate.Value.Member
import Collate.Value.Normal

/-!
# Values whose parts do not fail gravely

An item may refuse to be read, in any of its parts; a lookup takes that for a missing value.
Only some failures are worse: interruptions, say, or failures that cannot be put into words.  Which
of them are *grave* is left open here, except that the failures of the operations themselves are
not (`Mild`).

A value of which no part fails gravely (`Value.harbors`) has members of the same kind
(`spared_readMember`), and is brought to its normal form without a grave failure
(`spared_normalize`).

## Strategy

Each part of reading and of normalizing is looked at once: its failures are those of the
value, or failures of its own, and `Spared` is kept by going on with its result.
-/

namespace Collate

/-- Whether the failure is one of an operation itself, not one that a part of an item raises. -/
def Failure.isOwn : Failure → Bool
  | raised _ _ | mute _ _ => false
  | _ => true

/-- The failures of the operations themselves are not grave. -/
def Mild (grave : Failure → Bool) : Prop := ∀ failure, failure.isOwn = true → grave failure = false

/-- Whether an outcome is a grave failure. -/
def failsGravely {β : Type} (grave : Failure → Bool) : Except Failure β → Bool
  | .ok _ => false
  | .error failure => grave failure

theorem mild_not_isTellable : Mild fun failure => !failure.isTellable := by
  intro failure hfailure
  cases failure with
  | integerText text fault => cases fault <;> rfl
  | _ => first | (cases hfailure; done) | rfl

namespace Value

/-! ## Parts of values -/

section Parts

variable (grave : Failure → Bool)

mutual

/-- Whether reading some part of the value, or asking it for something, fails gravely. -/
def harbors : Value → Bool
  | list _ items | tuple _ items | set _ items => itemsHarbor items
  | mapping _ entries => entriesHarbor entries
  | member _ _ told name value =>
    failsGravely grave told || outcomeHarbors name || value.harbors
  | object _ _ attributes refusals hooks _ _ =>
    entriesHarbor attributes || refusals.any (fun refusal => grave refusal.2) || hooksHarbor hooks
  | _ => false

/-- Whether one of these items has such a part. -/
def itemsHarbor : List Value → Bool
  | [] => false
  | item :: rest => item.harbors || itemsHarbor rest

/-- Whether one of these entries has such a part. -/
def entriesHarbor : List (String × Value) → Bool
  | [] => false
  | (_, entry) :: rest => entry.harbors || entriesHarbor rest

/-- Whether one of these hooks fails gravely, or answers with something that has such a part. -/
def hooksHarbor : List (Hook × Except Failure Value) → Bool
  | [] => false
  | (_, outcome) :: rest => outcomeHarbors outcome || hooksHarbor rest

/-- Whether this is a grave failure, or something that has such a part. -/
def outcomeHarbors : Except Failure Value → Bool
  | .ok value => value.harbors
  | .error failure => grave failure

end

end Parts

/-- Whether some part of the value interrupts whoever reads it. -/
def interrupts (value : Value) : Bool := value.harbors Failure.isInterruption

/-- Whether some part of the value interrupts, or fails in a way that cannot be put into words. -/
def falters (value : Value) : Bool := value.harbors fun failure => !failure.isTellable

variable {grave : Failure → Bool} {value : Value}

theorem harbors_of_mem {items : List Value} (h : itemsHarbor grave items = false) {item : Value}
    (hitem : item ∈ items) : item.harbors grave = false := by
  induction items with
  | nil => cases hitem
  | cons first rest ih =>
      rw [itemsHarbor, Bool.or_eq_false_iff] at h
      rcases List.mem_cons.mp hitem with rfl | hitem
      · exact h.1
      · exact ih h.2 hitem

theorem harbors_of_lookup {entries : List (String × Value)} {name : String}
    (h : entriesHarbor grave entries = false) (hvalue : entries.lookup name = some value) :
    value.harbors grave = false := by
  induction entries with
  | nil => cases hvalue
  | cons entry rest ih =>
      rw [entriesHarbor, Bool.or_eq_false_iff] at h
      rw [List.lookup_cons] at hvalue
      split at hvalue
      · cases hvalue
        exact h.1
      · exact ih h.2 hvalue

theorem spared_of_failsGravely {β : Type} {outcome : Except Failure β}
    (h : failsGravely grave outcome = false) : Spared grave (fun _ => True) outcome := by
  cases outcome with
  | ok result => trivial
  | error failure => exact h

theorem spared_of_outcomeHarbors {outcome : Except Failure Value}
    (h : outcomeHarbors grave outcome = false) :
    Spared grave (·.harbors grave = false) outcome := by
  cases outcome <;> exact h

theorem spared_of_lookup {hooks : List (Hook × Except Failure Value)} {hook : Hook}
    {claim : Except Failure Value} (h : hooksHarbor grave hooks = false)
    (hclaim : hooks.lookup hook = some claim) :
    Spared grave (·.harbors grave = false) claim := by
  induction hooks with
  | nil => cases hclaim
  | cons entry rest ih =>
      obtain ⟨name, outcome⟩ := entry
      rw [hooksHarbor, Bool.or_eq_false_iff] at h
      rw [List.lookup_cons] at hclaim
      split at hclaim
      · cases hclaim
        exact spared_of_outcomeHarbors h.1
      · exact ih h.2 hclaim

theorem not_grave_of_lookup {refusals : List (String × Failure)} {name : String}
    {failure : Failure} (h : refusals.any (fun refusal => grave refusal.2) = false)
    (hfailure : refusals.lookup name = some failure) : grave failure = false := by
  induction refusals with
  | nil => cases hfailure
  | cons refusal rest ih =>
      rw [List.any_cons, Bool.or_eq_false_iff] at h
      rw [List.lookup_cons] at hfailure
      split at hfailure
      · cases hfailure
        exact h.1
      · exact ih h.2 hfailure

/-- What an object says about an operation is no grave failure. -/
theorem spared_of_hook? {hook : Hook} {claim : Except Failure Value}
    (h : value.harbors grave = false) (hclaim : value.hook? hook = some claim) :
    Spared grave (·.harbors grave = false) claim := by
  cases value with
  | object identity cls attributes refusals hooks comparisons scalar =>
      rw [harbors, Bool.or_eq_false_iff] at h
      exact spared_of_lookup h.2 hclaim
  | _ => cases hclaim

theorem spared_firstAccepted {claims : List (Except Failure Value)}
    (h : ∀ claim ∈ claims, Spared grave (fun _ => True) claim) :
    Spared grave (fun _ => True) (firstAccepted claims) := by
  induction claims with
  | nil => trivial
  | cons claim rest ih =>
      rw [List.forall_mem_cons] at h
      cases claim with
      | ok number => trivial
      | error failure =>
          rw [firstAccepted]
          split
          · exact ih h.2
          · exact h.1

/-! ## Members -/

theorem harbors_commonAttribute (cls name : String) :
    (commonAttribute cls name).harbors grave = false := by
  unfold commonAttribute
  split
  · rfl
  · split <;> rfl

/-- The parts that every value of its kind has do not fail. -/
theorem entriesHarbor_parts (value : Value) : entriesHarbor grave value.parts = false := by
  cases value with
  | intMember cls own n => cases own <;> rfl
  | moment m =>
      -- a moment has a zone or none, and neither fails
      have hzone : (zone m).harbors grave = false := by
        unfold zone
        split <;> rfl
      simp [parts, dateParts, clockParts, boundaries, entriesHarbor, harbors, hzone]
  | _ => rfl

theorem harbors_ownAttribute (value : Value) (name : String) :
    (value.ownAttribute name).harbors grave = false := by
  unfold ownAttribute
  cases hpart : value.parts.lookup name with
  | some part => exact harbors_of_lookup (entriesHarbor_parts value) hpart
  | none =>
      rw [Option.getD_none]
      split
      · rfl
      · exact harbors_commonAttribute _ name

theorem harbors_objectMethod (cls : String) (hooks : List (Hook × Except Failure Value))
    (comparisons : List (Comparing × (Sight → Except Failure Value))) (core : Option Value)
    (name : String) : (objectMethod cls hooks comparisons core name).harbors grave = false := by
  unfold objectMethod
  split
  · rfl
  split
  · split <;> rfl
  split
  · rfl
  split
  · rfl
  cases core with
  | none => exact harbors_commonAttribute cls name
  | some core => exact harbors_ownAttribute core name

theorem spared_orMissing {outcome : Except Failure Value}
    (h : Spared grave (·.harbors grave = false) outcome) :
    Spared grave (·.harbors grave = false) (orMissing outcome) := by
  cases outcome with
  | ok found => exact h
  | error failure =>
      unfold orMissing
      dsimp only
      split
      · rfl
      · exact h

theorem spared_attributeOf (h : value.harbors grave = false) (name : String) :
    Spared grave (·.harbors grave = false) (value.attributeOf name) := by
  cases value with
  | object identity cls attributes refusals hooks comparisons scalar =>
      rw [harbors, Bool.or_eq_false_iff, Bool.or_eq_false_iff] at h
      unfold attributeOf
      dsimp only
      split
      · next failure hfailure =>
        exact spared_orMissing (not_grave_of_lookup h.1.2 hfailure)
      · -- the dictionary of an object holds its own attributes
        have hown :
            entriesHarbor grave (("__dict__", mapping 0 attributes) :: attributes) = false := by
          rw [entriesHarbor, harbors, h.1.1, Bool.or_self]
        show Value.harbors grave (Option.getD _ _) = false
        cases hattribute : (("__dict__", mapping 0 attributes) :: attributes).lookup name with
        | some found => exact harbors_of_lookup hown hattribute
        | none => exact harbors_objectMethod cls hooks comparisons _ name
  | member identity cls told own inner =>
      rw [harbors, Bool.or_eq_false_iff, Bool.or_eq_false_iff] at h
      unfold attributeOf
      dsimp only
      split
      · exact spared_orMissing (spared_of_outcomeHarbors h.1.2)
      split
      · exact h.2
      · exact harbors_ownAttribute _ name
  | _ => exact harbors_ownAttribute _ name

/-! ## Operations -/

section Operations

variable (hgrave : Mild grave)

include hgrave

theorem spared_readInteger (segment : String) :
    Spared grave (fun _ => True) (Failure.readInteger segment) := by
  unfold Failure.readInteger
  cases Text.readInteger segment.toList with
  | ok n => trivial
  | error fault => exact hgrave _ rfl

theorem spared_rangeSize (start stop step : Int) :
    Spared grave (fun _ => True) (rangeSize start stop step) := by
  unfold rangeSize
  dsimp only
  split
  · exact hgrave _ rfl
  · trivial

/-- If no part of a value fails gravely, nor does any of a member. -/
theorem spared_readMember (h : value.harbors grave = false) (segment : String) :
    Spared grave (·.harbors grave = false) (value.readMember segment) := by
  -- an item that is not there is a missing value
  have hitem : ∀ {items : List Value}, itemsHarbor grave items = false → ∀ position,
      (item items position).harbors grave = false := by
    intro items hitems position
    unfold item
    cases hposition : items[position.toNat]? with
    | none => rfl
    | some found => exact harbors_of_mem hitems (List.mem_of_getElem? hposition)
  cases value with
  | mapping identity entries =>
      show Value.harbors grave ((entries.lookup segment).getD missing) = false
      cases hentry : entries.lookup segment with
      | none => rfl
      | some found => exact harbors_of_lookup h hentry
  | list identity items | tuple identity items =>
      unfold readMember
      dsimp only
      split
      · exact (spared_readInteger hgrave segment).map fun position _ => hitem h position
      · exact spared_attributeOf h segment
  | range start stop step =>
      unfold readMember
      dsimp only
      split
      · refine (spared_readInteger hgrave segment).bind fun position _ => ?_
        refine (spared_rangeSize hgrave start stop step).map fun length _ => ?_
        split <;> rfl
      · exact spared_attributeOf h segment
  | _ => exact spared_attributeOf h segment

/-! ## Lengths -/

theorem spared_asInteger (h : value.harbors grave = false) :
    Spared grave (fun _ => True) value.asInteger := by
  unfold asInteger
  split
  · trivial
  split
  · next answer hanswer =>
    split
    · trivial
    · exact hgrave _ rfl
  · next failure hfailure =>
    have hclaim := spared_of_hook? h hfailure
    exact hclaim
  · exact hgrave _ rfl

theorem spared_claimedLength {claim : Except Failure Value}
    (h : Spared grave (·.harbors grave = false) claim) :
    Spared grave (fun _ => True) (claimedLength claim) := by
  refine h.bind fun answer hanswer => (spared_asInteger hgrave hanswer).bind fun length _ => ?_
  split
  · exact hgrave _ rfl
  split
  · exact hgrave _ rfl
  · trivial

theorem spared_length? {length : Except Failure Nat} (h : value.harbors grave = false)
    (hlength : value.length? = some length) : Spared grave (fun _ => True) length := by
  unfold length? at hlength
  split at hlength
  · next claim hclaim =>
    cases hlength
    exact spared_claimedLength hgrave (spared_of_hook? h hclaim)
  split at hlength <;> cases hlength
  -- only a range can be too long to have a length
  all_goals first | exact spared_rangeSize hgrave _ _ _ | trivial

/-! ## Truth -/

theorem spared_truth (h : value.harbors grave = false) :
    Spared grave (fun _ => True) value.truth := by
  unfold truth
  split
  · next claim hclaim =>
    refine (spared_of_hook? h hclaim).bind fun answer _ => ?_
    split
    · trivial
    · exact hgrave _ rfl
  unfold plainTruth
  split <;> try trivial
  -- what is left is true unless it is empty
  split
  · next length hlength => exact (spared_length? hgrave h hlength).map fun _ _ => trivial
  · trivial

theorem spared_undefined? (h : value.harbors grave = false) :
    Spared grave (fun _ => True) value.undefined? := by
  unfold undefined?
  split
  · next answer hanswer =>
    split
    · exact (spared_of_hook? h hanswer).bind fun _ hfound => spared_truth hgrave hfound
    · trivial
  · trivial

/-! ## Normal form -/

theorem spared_orderingLength? (h : value.harbors grave = false) :
    Spared grave (fun _ => True) value.orderingLength? := by
  -- the length counts unless the class refuses to tell it
  have hclaimed : Spared grave (fun _ => True) (orderingLength?.claimed value) := by
    unfold orderingLength?.claimed
    split
    · trivial
    · trivial
    · next failure hfailure =>
      split
      · trivial
      · exact spared_length? hgrave h hfailure
  cases value with
  | object identity cls attributes refusals hooks comparisons scalar =>
      unfold orderingLength?
      dsimp only
      split
      · next failure hfailure =>
        split
        · trivial
        · rw [harbors, Bool.or_eq_false_iff, Bool.or_eq_false_iff] at h
          exact not_grave_of_lookup h.1.2 hfailure
      · exact hclaimed
  | _ => exact hclaimed

theorem spared_claimedInteger (h : value.harbors grave = false) :
    Spared grave (fun _ => True) value.claimedInteger := by
  unfold claimedInteger
  split
  · next claim hclaim =>
    refine (spared_of_hook? h hclaim).bind fun answer _ => ?_
    split
    · trivial
    · exact hgrave _ rfl
  · exact (spared_asInteger hgrave h).map fun _ _ => trivial

theorem spared_of_mem_conversions {claim : Except Failure Value}
    (h : value.harbors grave = false) (hclaim : claim ∈ value.conversions) :
    Spared grave (fun _ => True) claim := by
  simp only [conversions, List.mem_append, Option.mem_toList, Option.map_eq_some_iff] at hclaim
  rcases hclaim with (⟨_, -, rfl⟩ | ⟨answer, hanswer, rfl⟩) | ⟨_, -, rfl⟩
  · exact spared_claimedInteger hgrave h
  · refine (spared_of_hook? h hanswer).bind fun number _ => ?_
    split
    · trivial
    · exact hgrave _ rfl
  · exact spared_claimedInteger hgrave h

theorem spared_normalizeObject (h : value.harbors grave = false) :
    Spared grave (fun _ => True) value.normalizeObject.outcome := by
  unfold normalizeObject
  split
  · trivial
  · rw [Finding.outcome_after]
    refine (spared_firstAccepted fun _ => spared_of_mem_conversions hgrave h).bind
      fun number _ => ?_
    split
    · trivial
    · split <;> trivial

/-- If no part of a value fails gravely, it is brought to its normal form without such a failure. -/
theorem spared_normalize (h : value.harbors grave = false) :
    Spared grave (fun _ => True) value.normalize.outcome := by
  unfold normalize
  split
  · trivial
  rw [Finding.outcome_after]
  refine (spared_undefined? hgrave h).bind fun undefined _ => ?_
  split
  · trivial
  split
  · trivial
  split
  · next identity cls told name inner =>
    rw [harbors, Bool.or_eq_false_iff, Bool.or_eq_false_iff] at h
    rw [Finding.outcome_after]
    refine (spared_of_failsGravely h.1.1).bind fun _ _ => ?_
    exact (spared_of_outcomeHarbors h.1.2).mono fun _ _ => trivial
  · rw [Finding.outcome_after]
    refine (spared_orderingLength? hgrave h).bind fun length _ => ?_
    split
    · trivial
    · exact spared_normalizeObject hgrave h

end Operations

end Value

end Collate
