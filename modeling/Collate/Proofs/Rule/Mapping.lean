import Mathlib.Data.List.Forall2
import Collate.Proofs.Computation
import Collate.Proofs.Rule.Declaration
import Collate.Rule.Mapping

/-!
# Rules that are stored as mappings

A rule is what its own mapping denotes (`Rule.ofMapping_toMapping`): what the mapping
leaves out is what reading it puts in.  A list of payloads denotes its rules one by one,
if each of them denotes one; otherwise the first payload that is no rule is to blame, and
no later one is looked at (`Rule.manyOfMapping_or_first_fault`).

## Strategy

Reading a list is described by what stands before the place that it has come to, so both
outcomes are settled by one induction each, for a list that starts at any index
(`ofMappings_eq_ok_iff`, `ofMappings_eq_error_iff`).
-/

namespace Collate

/-! ## One rule -/

theorem Key.ofPayload_toPayload (key : Key) : ofPayload key.toPayload = .ok key := by
  cases key with
  | named name => rfl
  | path segments =>
      have htexts : (segments.map Payload.text).mapM Payload.text? = some segments := by
        induction segments with
        | nil => rfl
        | cons segment rest ih =>
            rw [List.map_cons, List.mapM_cons, ih]
            rfl
      rw [toPayload, ofPayload, htexts]

namespace Rule

/-- The parts of a rule, as its mapping holds them, make the rule. -/
theorem ofParts_toPayload (rule : Rule) :
    ofParts (some rule.key.toPayload) (rule.selector.map .text) rule.descending = .ok rule := by
  have hkey : rule.key.fault? = none := (Key.fault?_eq_none_iff _).mpr rule.key_legal
  have hrule := declare_parts rule
  simp only [ofParts, Key.ofPayload_toPayload, bind, Except.bind, hkey]
  cases hselector : rule.selector with
  | none =>
      rw [hselector] at hrule
      exact hrule
  | some selector =>
      rw [hselector] at hrule
      exact hrule

/-- A rule is what its mapping denotes. -/
theorem ofMapping_toMapping (rule : Rule) : ofMapping rule.toMapping = .ok rule := by
  have hparts := ofParts_toPayload rule
  -- an entry that is left out reads as what it would have said
  cases hselector : rule.selector <;> cases hdescending : rule.descending <;>
    rw [hselector, hdescending] at hparts <;>
    simpa [ofMapping, toMapping, Payload.entry?, hselector, hdescending, List.lookup_cons]
      using hparts

/-! ## Lists of rules -/

variable {index : Nat} {payloads : List Payload}

/-- A list of payloads denotes the rules that they denote one by one. -/
theorem ofMappings_eq_ok_iff {rules : List Rule} :
    ofMappings index payloads = .ok rules ↔
      List.Forall₂ (fun payload rule => ofMapping payload = .ok rule) payloads rules := by
  induction payloads generalizing index rules with
  | nil => simp [ofMappings, eq_comm]
  | cons payload rest ih =>
      rw [List.forall₂_cons_left_iff, ofMappings]
      constructor
      · intro h
        cases hpayload : ofMapping payload with
        | error cause =>
            rw [hpayload] at h
            cases h
        | ok rule =>
            rw [hpayload] at h
            obtain ⟨others, hothers, rfl⟩ := exists_of_map_eq_ok h
            exact ⟨rule, others, rfl, ih.mp hothers, rfl⟩
      · rintro ⟨rule, others, hpayload, hothers, rfl⟩
        rw [hpayload, ih.mpr hothers]
        rfl

/-- A list of payloads fails at the first one that denotes no rule: those before it denote
rules, and its own fault is reported with the index that it has. -/
theorem ofMappings_eq_error_iff {fault : Fault} :
    ofMappings index payloads = .error fault ↔
      ∃ before payload after cause, payloads = before ++ payload :: after ∧
        (∀ earlier ∈ before, ∃ rule, ofMapping earlier = .ok rule) ∧
        ofMapping payload = .error cause ∧ fault = .atIndex (index + before.length) cause := by
  induction payloads generalizing index with
  | nil => simp [ofMappings]
  | cons first rest ih =>
      rw [ofMappings]
      cases hfirst : ofMapping first with
      | error cause =>
          constructor
          · rintro ⟨⟩
            exact ⟨[], first, rest, cause, rfl, by simp, hfirst, rfl⟩
          · rintro ⟨before, payload, after, cause', hsplit, hbefore, hpayload, rfl⟩
            -- nothing can stand before the first payload, which denotes no rule
            cases before with
            | nil =>
                obtain ⟨rfl, rfl⟩ := List.cons_eq_cons.mp hsplit
                rw [hfirst, Except.error.injEq] at hpayload
                rw [hpayload]
                rfl
            | cons earlier others =>
                obtain ⟨rfl, -⟩ := List.cons_eq_cons.mp hsplit
                obtain ⟨rule, hrule⟩ := hbefore first (List.mem_cons_self ..)
                rw [hfirst] at hrule
                cases hrule
      | ok rule =>
          -- the first payload is a rule, so the fault is one of the rest
          have hrest : (ofMappings (index + 1) rest).map (rule :: ·) = .error fault ↔
              ofMappings (index + 1) rest = .error fault := by
            cases ofMappings (index + 1) rest <;> simp [Except.map]
          refine hrest.trans (ih.trans ⟨?_, ?_⟩)
          · rintro ⟨before, payload, after, cause, rfl, hbefore, hpayload, rfl⟩
            refine ⟨first :: before, payload, after, cause, rfl, ?_, hpayload, ?_⟩
            · rintro earlier (_ | ⟨_, hearlier⟩)
              · exact ⟨rule, hfirst⟩
              · exact hbefore earlier hearlier
            · rw [List.length_cons, Nat.add_right_comm, Nat.add_assoc]
          · rintro ⟨before, payload, after, cause, hsplit, hbefore, hpayload, rfl⟩
            cases before with
            | nil =>
                obtain ⟨rfl, -⟩ := List.cons_eq_cons.mp hsplit
                rw [hfirst] at hpayload
                cases hpayload
            | cons earlier others =>
                obtain ⟨rfl, rfl⟩ := List.cons_eq_cons.mp hsplit
                refine ⟨others, payload, after, cause, rfl, fun other hother => ?_, hpayload, ?_⟩
                · exact hbefore other (List.mem_cons_of_mem _ hother)
                · rw [List.length_cons, Nat.add_right_comm, Nat.add_assoc]

/-! ## Whole payloads -/

theorem manyOfMapping_list (payloads : List Payload) :
    manyOfMapping (.list payloads) = (ofMappings 0 payloads).mapError .item := rfl

theorem manyOfMapping_list_eq_ok_iff {rules : List Rule} :
    manyOfMapping (.list payloads) = .ok rules ↔ ofMappings 0 payloads = .ok rules := by
  rw [manyOfMapping_list]
  cases ofMappings 0 payloads <;> simp [Except.mapError]

theorem manyOfMapping_list_eq_error_iff {fault : ListFault} :
    manyOfMapping (.list payloads) = .error fault ↔
      ∃ inner, ofMappings 0 payloads = .error inner ∧ fault = .item inner := by
  rw [manyOfMapping_list]
  cases ofMappings 0 payloads <;> simp [Except.mapError, eq_comm]

/-- A list has rules for all its payloads if each of them denotes one. -/
theorem exists_ofMappings_iff :
    (∃ rules, ofMappings index payloads = .ok rules) ↔
      ∀ payload ∈ payloads, ∃ rule, ofMapping payload = .ok rule := by
  simp only [ofMappings_eq_ok_iff]
  induction payloads with
  | nil => exact ⟨fun _ payload hpayload => absurd hpayload (List.not_mem_nil), fun _ => ⟨[], .nil⟩⟩
  | cons payload rest ih =>
      rw [List.forall_mem_cons, ← ih]
      constructor
      · rintro ⟨rules, hrules⟩
        obtain ⟨rule, others, hrule, hothers, -⟩ := List.forall₂_cons_left_iff.mp hrules
        exact ⟨⟨rule, hrule⟩, others, hothers⟩
      · rintro ⟨⟨rule, hrule⟩, others, hothers⟩
        exact ⟨rule :: others, .cons hrule hothers⟩

/-- Rules that are stored as mappings are found again, and so is the rule of any payload.  A list
of payloads denotes one rule for each, in order, if all of them denote rules; otherwise the first
one that denotes none is reported, with its index and its own message. -/
theorem manyOfMapping_or_first_fault :
    (∀ rules : List Rule, manyOfMapping (.list (rules.map toMapping)) = .ok rules) ∧
    (∀ (payloads : List Payload) (rules : List Rule),
      manyOfMapping (.list payloads) = .ok rules ↔
        List.Forall₂ (fun payload rule => ofMapping payload = .ok rule) payloads rules) ∧
    (∀ payloads : List Payload,
      (∃ rules, manyOfMapping (.list payloads) = .ok rules) ↔
        ∀ payload ∈ payloads, ∃ rule, ofMapping payload = .ok rule) ∧
    (∀ (payloads : List Payload) (fault : ListFault),
      manyOfMapping (.list payloads) = .error fault ↔
        ∃ before payload after cause, payloads = before ++ payload :: after ∧
          (∀ earlier ∈ before, ∃ rule, ofMapping earlier = .ok rule) ∧
          ofMapping payload = .error cause ∧ fault = .item (.atIndex before.length cause)) ∧
    (∀ index cause, (ListFault.item (.atIndex index cause)).message =
      "Invalid rule at index " ++ toString index ++ ": " ++ cause.message) ∧
    ∀ payload rule, ofMapping payload = .ok rule → ofMapping rule.toMapping = .ok rule := by
  refine ⟨fun rules => ?_, fun payloads rules => ?_, fun payloads => ?_, fun payloads fault => ?_,
    fun _ _ => rfl, fun _ rule _ => ofMapping_toMapping rule⟩
  · rw [manyOfMapping_list_eq_ok_iff, ofMappings_eq_ok_iff, List.forall₂_map_left_iff,
      List.forall₂_same]
    exact fun rule _ => ofMapping_toMapping rule
  · rw [manyOfMapping_list_eq_ok_iff, ofMappings_eq_ok_iff]
  · simp only [manyOfMapping_list_eq_ok_iff]
    exact exists_ofMappings_iff
  · rw [manyOfMapping_list_eq_error_iff]
    constructor
    · rintro ⟨inner, hinner, rfl⟩
      obtain ⟨before, payload, after, cause, hsplit, hbefore, hpayload, rfl⟩ :=
        ofMappings_eq_error_iff.mp hinner
      exact ⟨before, payload, after, cause, hsplit, hbefore, hpayload, by rw [Nat.zero_add]⟩
    · rintro ⟨before, payload, after, cause, hsplit, hbefore, hpayload, rfl⟩
      refine ⟨_, ofMappings_eq_error_iff.mpr
        ⟨before, payload, after, cause, hsplit, hbefore, hpayload, rfl⟩, ?_⟩
      rw [Nat.zero_add]

/-- A path with a selector that is tidied, a name with a blank in it, and nothing at all: the name
is to blame. -/
theorem manyOfMapping_blank_in_name :
    ∃ rule,
      ofMapping (.mapping [("key", .list [.text "dataset", .text "row"]),
        ("selector", .text " td "), ("descending", .bool true)]) = .ok rule ∧
      ofMapping rule.toMapping = .ok rule ∧
      manyOfMapping (.list [rule.toMapping, .mapping [("key", .text "a b")], .null]) =
        .error (.item (.atIndex 1 (.reservedInName "a b"))) := by
  obtain ⟨-, -, -, hfault, -, hagain⟩ := manyOfMapping_or_first_fault
  have hkey : (Key.path ["dataset", "row"]).Legal := by decide +kernel
  have hbrace : ∀ text ∈ some " td ", text.toList.any isBrace = false := by decide +kernel
  obtain ⟨rule, hdeclare⟩ := exists_declare hkey hbrace true
  have hrule : ofMapping (.mapping [("key", .list [.text "dataset", .text "row"]),
      ("selector", .text " td "), ("descending", .bool true)]) = .ok rule := hdeclare
  have hcycle := hagain _ rule hrule
  refine ⟨rule, hrule, hcycle, (hfault _ _).mpr ?_⟩
  refine ⟨[rule.toMapping], .mapping [("key", .text "a b")], [.null], .reservedInName "a b",
    rfl, ?_, rfl, rfl⟩
  rintro earlier (_ | ⟨_, ⟨⟩⟩)
  exact ⟨rule, hcycle⟩

end Rule

end Collate
