import Mathlib.Logic.Basic
import Collate.Proofs.Lookup.Entry
import Collate.Proofs.Lookup.Spared
import Collate.Proofs.Lookup.Warnings

/-!
# Lookups are soft

Where no warning is refused, a lookup fails only if the reader is interrupted, or fails in a way
that cannot be put into words; and it emits at most one warning, unless a member of an enumeration
has told its name but fails when it is asked for it (`ItemReader.lookup_soft`).  What a lookup comes
to and what it warns of go together, as `Reading` says:

* a value is taken as it is or in its normal form, without a warning;
* there is no value, and the warning says why;
* the path ends at something that is not a number, and there is no value and no warning;
* the path ends at something that is ordered by a substitute, and the warning says so.

## Strategy

Bringing a value into normal form is such a reading (`Value.reading_of_normalize`), and so is
reading an item (`ItemReader.reading_of_read`).  A failure to read is one more way to find nothing
and to say why; but a notice may come before it (`ItemReader.withholds_of_read`).  A lookup comes to
what is read and posts the notice and the failure (`ItemReader.lookup_eq`).
-/

namespace Collate

namespace Value

/-- The value is taken for something that is not a number, or it converts to something that is
not. -/
def IsNoNumber (value : Value) : Prop :=
  value.undefined? = .ok true ∨
    ∃ number, firstAccepted value.conversions = .ok number ∧ number.isUndefined = true

/-- The first value is ordered by the second one, as the notice says. -/
inductive OrderedBy : Value → Value → Notice → Prop
  | name (identity : Nat) (class_ told : String) (name inner : Value) :
    OrderedBy (member identity class_ (.ok told) (.ok name) inner) name (.orderedByName told)
  | presence {value : Value} (h : value.isCallable = true) :
    OrderedBy value (bool true) .orderedByPresence

/-- The value is a member of an enumeration that tells its name, as the notice says, but fails when
it is asked for it. -/
inductive Withholds : Value → Failure → Notice → Prop
  | name (identity : Nat) (class_ told : String) (failure : Failure) (inner : Value) :
    Withholds (member identity class_ (.ok told) (.error failure) inner) failure
      (.orderedByName told)

end Value

/-- What a reading comes to, and what there is to tell about it, if these are the values that it may
end at. -/
inductive Reading (ends : Value → Prop) : Value → Option Notice → Prop
  | value {found : Value} (h : found.isAbsent = false) : Reading ends found none
  | nothing (notice : Notice) : Reading ends .missing (some notice)
  | noNumber {last : Value} (hends : ends last) (h : last.IsNoNumber) : Reading ends .missing none
  | substitute {last found : Value} {notice : Notice} (hends : ends last)
    (h : last.OrderedBy found notice) : Reading ends found (some notice)

theorem Reading.mono {ends ends' : Value → Prop} {found : Value} {notice : Option Notice}
    (h : Reading ends found notice) (hends : ∀ last, ends last → ends' last) :
    Reading ends' found notice := by
  cases h with
  | value h => exact .value h
  | nothing notice => exact .nothing notice
  | noNumber hlast h => exact .noNumber (hends _ hlast) h
  | substitute hlast h => exact .substitute (hends _ hlast) h

/-- Where a notice comes before a failure, the steps before it did not fail. -/
theorem Finding.exists_of_after_eq_error {α : Type} {step : Except Failure α}
    {next : α → Finding} {failure : Failure} {notice : Notice}
    (h : after step next = { outcome := .error failure, notice := some notice }) :
    ∃ result, step = .ok result ∧
      next result = { outcome := .error failure, notice := some notice } := by
  cases step with
  | error failure => cases h
  | ok result => exact ⟨result, rfl, h⟩

/-! ## Normal form -/

namespace Value

variable {value found : Value} {notice : Option Notice}

theorem reading_of_normalizeObject
    (h : value.normalizeObject = { outcome := .ok found, notice }) :
    Reading (· = value) found notice := by
  unfold normalizeObject at h
  split at h
  · next hcallable =>
    cases h
    exact .substitute rfl (.presence hcallable)
  obtain ⟨number, hnumber, hfound⟩ := Finding.exists_of_after_eq_ok h
  split at hfound
  · cases hfound
    exact .nothing _
  next hpresent =>
  split at hfound
  · next hundefined =>
    cases hfound
    exact .noNumber rfl (.inr ⟨number, hnumber, hundefined⟩)
  · cases hfound
    exact .value (Bool.eq_false_iff.mpr hpresent)

/-- What a value is brought to, and what there is to tell about it. -/
theorem reading_of_normalize (hvalue : value.isAbsent = false)
    (h : value.normalize = { outcome := .ok found, notice }) :
    Reading (· = value) found notice := by
  unfold normalize at h
  split at h
  · cases h
    exact .value hvalue
  obtain ⟨undefined, hundefined, h⟩ := Finding.exists_of_after_eq_ok h
  split at h
  · next htrue =>
    cases h
    cases htrue
    exact .noNumber rfl (.inl hundefined)
  split at h
  · cases h
    exact .value hvalue
  split at h
  · obtain ⟨told, rfl, h⟩ := Finding.exists_of_after_eq_ok h
    cases h
    exact .substitute rfl (.name ..)
  obtain ⟨length, -, hlength⟩ := Finding.exists_of_after_eq_ok h
  cases length with
  | some n =>
      cases hlength
      exact .value rfl
  | none => exact reading_of_normalizeObject hlength

/-- Only a member of an enumeration that withholds its name gives notice before it fails. -/
theorem withholds_of_normalize {failure : Failure} {notice : Notice}
    (h : value.normalize = { outcome := .error failure, notice := some notice }) :
    value.Withholds failure notice := by
  unfold normalize at h
  split at h
  · cases h
  obtain ⟨undefined, -, h⟩ := Finding.exists_of_after_eq_error h
  split at h
  · cases h
  split at h
  · cases h
  split at h
  · obtain ⟨told, rfl, h⟩ := Finding.exists_of_after_eq_error h
    cases h
    exact .name ..
  obtain ⟨length, -, h⟩ := Finding.exists_of_after_eq_error h
  cases length with
  | some n => cases h
  | none =>
      -- what is neither named nor measured gives notice only together with a value
      unfold normalizeObject at h
      dsimp only at h
      split at h
      · cases h
      obtain ⟨number, -, h⟩ := Finding.exists_of_after_eq_error h
      split at h
      · cases h
      · split at h <;> cases h

end Value

/-! ## Walking -/

/-- A walk that ends at a value ends at one that is there. -/
theorem Walk.isAbsent_of_onward {read : Walk.Reading (Except Failure)} {value found : Value}
    {previous : String} {segments : List String} (hvalue : value.isAbsent = false)
    (h : Walk.onward read value previous segments = .ok (.found found)) :
    found.isAbsent = false := by
  induction segments generalizing value previous with
  | nil =>
      cases h
      exact hvalue
  | cons segment rest ih =>
      unfold Walk.onward at h
      obtain ⟨-, h⟩ | ⟨-, h⟩ := ite_eq_iff.mp h
      · cases h
      obtain ⟨next, -, hnext⟩ := exists_of_bind_eq_ok h
      split at hnext
      · cases hnext
      next hpresent => exact ih (Bool.eq_false_iff.mpr hpresent) hnext

theorem Walk.isAbsent_of_along {read : Walk.Reading (Except Failure)} {root found : Value}
    {segments : List String} (h : Walk.along read root segments = .ok (.found found)) :
    found.isAbsent = false := by
  cases segments with
  | nil => cases h
  | cons segment rest =>
      obtain ⟨value, -, hvalue⟩ := exists_of_bind_eq_ok h
      split at hvalue
      · cases hvalue
      next hpresent => exact Walk.isAbsent_of_onward (Bool.eq_false_iff.mpr hpresent) hvalue

/-! ## Reading an item -/

namespace ItemReader

variable {reader : ItemReader} {item part found : Value} {rule : Rule} {notice : Option Notice}

theorem reading_of_readKey {key : Key}
    (h : reader.readKey part key = { outcome := .ok found, notice }) :
    Reading
      (fun last => ∃ segments, key = .path segments ∧
        Walk.along reader.property part segments = .ok (.found last)) found notice := by
  cases key with
  | named name =>
      obtain ⟨value, -, hvalue⟩ := Finding.exists_of_after_eq_ok h
      split at hvalue
      · cases hvalue
        exact .nothing _
      next hpresent =>
        cases hvalue
        refine .value ?_
        cases found <;> first | rfl | exact absurd rfl hpresent
  | path segments =>
      obtain ⟨walk, hwalk, hwalked⟩ := Finding.exists_of_after_eq_ok h
      cases walk with
      | found value =>
          refine (Value.reading_of_normalize (Walk.isAbsent_of_along hwalk) hwalked).mono ?_
          rintro last rfl
          exact ⟨segments, rfl, hwalk⟩
      | notContainer segment previous =>
          cases hwalked
          exact .nothing _
      | absent segment previous =>
          cases previous <;> cases hwalked <;> exact .nothing _

/-- What reading an item comes to, and what there is to tell about it. -/
theorem reading_of_read (h : reader.read item rule = { outcome := .ok found, notice }) :
    Reading (reader.EndsAt item rule) found notice := by
  obtain ⟨part, hpart, hfound⟩ := Finding.exists_of_after_eq_ok h
  split at hfound
  · cases hfound
    exact .nothing _
  refine (reading_of_readKey hfound).mono ?_
  rintro last ⟨segments, hkey, hlast⟩
  exact ⟨part, segments, hpart, hkey, hlast⟩

/-- A notice comes before a failure only if the path ends at a member of an enumeration that
withholds its name. -/
theorem withholds_of_read {failure : Failure} {notice : Notice}
    (h : reader.read item rule = { outcome := .error failure, notice := some notice }) :
    ∃ last, reader.EndsAt item rule last ∧ last.Withholds failure notice := by
  obtain ⟨part, hpart, h⟩ := Finding.exists_of_after_eq_error h
  split at h
  · cases h
  cases hkey : rule.key with
  | named name =>
      rw [hkey] at h
      obtain ⟨value, -, h⟩ := Finding.exists_of_after_eq_error h
      split at h <;> cases h
  | path segments =>
      rw [hkey] at h
      obtain ⟨walk, hwalk, h⟩ := Finding.exists_of_after_eq_error h
      cases walk with
      | found last =>
          exact ⟨last, ⟨part, segments, hpart, hkey, hwalk⟩, Value.withholds_of_normalize h⟩
      | notContainer segment previous => cases h
      | absent segment previous => cases previous <;> cases h

/-! ## Lookups -/

section Lookup

variable {bulletin : Bulletin}

/-- What a lookup warns of where no warning is refused: what there is to tell about what is read,
and that reading failed. -/
def warnings (reader : ItemReader) (item : Value) (rule : Rule) : List String :=
  ((reader.read item rule).notice.map Notice.message).toList ++
    complaints rule (reader.read item rule).outcome

theorem emitted_of_accepts (houtlet : bulletin.outlet.Accepts) :
    reader.emitted item rule bulletin = reader.warnings item rule := by
  unfold emitted warnings
  cases hread : reader.read item rule with
  | mk outcome notice =>
    cases notice with
    | none => rfl
    | some notice =>
        -- the outlet is the same after a notice, so it refuses no later one
        have hrefusal : (bulletin.post notice.message).refusal? = none :=
          Outlet.Accepts.refusal?_eq_none (outlet_post bulletin notice.message ▸ houtlet)
        dsimp only
        rw [hrefusal]
        rfl

/-- Where no warning is refused, a lookup comes to what is read and does nothing but warn. -/
theorem lookup_eq (reader : ItemReader) (item : Value) (rule : Rule)
    (houtlet : bulletin.outlet.Accepts) :
    reader.lookup item rule bulletin =
      (reader.outcomeOf item rule,
        (reader.warnings item rule).foldl Bulletin.post bulletin) := by
  obtain ⟨later, hlookup, -⟩ := concludes_lookup houtlet reader item rule bulletin rfl
  have hlater := reader.lookup_snd item rule bulletin
  rw [hlookup, emitted_of_accepts houtlet] at hlater
  rw [hlookup, ← hlater]

theorem lookup_of_read (houtlet : bulletin.outlet.Accepts)
    (hread : reader.read item rule = { outcome := .ok found, notice }) :
    reader.lookup item rule bulletin =
      (.ok found, (notice.map Notice.message).toList.foldl Bulletin.post bulletin) := by
  rw [lookup_eq reader item rule houtlet, outcomeOf, warnings, hread, complaints, List.append_nil]
  rfl

theorem eq_missing_of_warnFailed {failure : Failure} {later : Bulletin}
    (h : warnFailed rule failure bulletin = (.ok found, later)) : found = .missing := by
  unfold warnFailed at h
  split at h
  · obtain ⟨_, _, hthrow, -⟩ := exists_of_bind_apply_eq_ok h
    cases hthrow
  obtain ⟨_, _, -, h⟩ := exists_of_bind_apply_eq_ok h
  obtain ⟨_, _, -, h⟩ := exists_of_bind_apply_eq_ok h
  cases h
  rfl

theorem outcome_of_told {finding : Finding} {later : Bulletin}
    (h : ItemReader.told finding bulletin = (.ok found, later)) : finding.outcome = .ok found := by
  -- with or without a notice before it, the outcome is raised in the end
  obtain ⟨_, between, -, hraise⟩ : ∃ (_ : Unit) (between : Bulletin), True ∧
      (orRaise finding.outcome : Reporting Value) between = (.ok found, later) := by
    unfold told at h
    cases hnotice : finding.notice with
    | none =>
        rw [hnotice] at h
        exact ⟨(), bulletin, trivial, h⟩
    | some notice =>
        rw [hnotice] at h
        obtain ⟨_, between, -, h⟩ := exists_of_bind_apply_eq_ok h
        exact ⟨(), between, trivial, h⟩
  cases houtcome : finding.outcome with
  | error failure =>
      rw [houtcome] at hraise
      cases hraise
  | ok value =>
      rw [houtcome] at hraise
      cases hraise
      rfl

/-- So a value that a lookup comes to is what is read. -/
theorem exists_read_of_lookup {later : Bulletin}
    (h : reader.lookup item rule bulletin = (.ok found, later)) (hfound : found ≠ .missing) :
    ∃ notice, reader.read item rule = { outcome := .ok found, notice } := by
  rcases cases_of_tryCatch_apply_eq_ok h with htold | ⟨_, _, -, hfailed⟩
  · refine ⟨(reader.read item rule).notice, ?_⟩
    rw [← outcome_of_told htold]
  · exact absurd (eq_missing_of_warnFailed hfailed) hfound

theorem eq_missing_of_lookup {later : Bulletin}
    (hread : reader.read item rule = { outcome := .ok .missing, notice })
    (h : reader.lookup item rule bulletin = (.ok found, later)) : found = .missing := by
  by_contra hfound
  obtain ⟨told, htold⟩ := exists_read_of_lookup h hfound
  cases hread.symm.trans htold
  exact hfound rfl

/-- What a lookup that fails has told before. -/
theorem complaints_of_surfaces {cause failure : Failure} (h : cause.SurfacesAs failure) :
    complaints rule (.error cause) = [] := by
  unfold Failure.SurfacesAs at h
  unfold complaints
  dsimp only
  split at h
  · next hcause => exact if_pos hcause
  · next hcause =>
    rw [if_neg hcause, h]

/-- A notice comes alone, unless the path ends at a member of an enumeration that withholds its
name. -/
theorem length_warnings (reader : ItemReader) (item : Value) (rule : Rule) :
    (reader.warnings item rule).length ≤ 1 ∨
      (reader.warnings item rule).length = 2 ∧ ∃ last cause notice,
        reader.EndsAt item rule last ∧ last.Withholds cause notice := by
  have hcomplaints := length_complaints_le rule (reader.read item rule).outcome
  cases hread : reader.read item rule with
  | mk outcome notice =>
    rw [hread] at hcomplaints
    unfold warnings
    rw [hread, List.length_append]
    cases notice with
    | none => exact .inl (by simpa using hcomplaints)
    | some notice =>
      cases outcome with
      | ok found => exact .inl (Nat.le_refl 1)
      | error cause =>
          obtain ⟨last, hends, hlast⟩ := withholds_of_read hread
          -- a notice and a failure make two warnings, unless nothing is to be told of the failure
          have hone : ((some notice).map Notice.message).toList.length = 1 := rfl
          rw [hone]
          rcases Nat.le_one_iff_eq_zero_or_eq_one.mp hcomplaints with hnone | hsome
          · exact .inl (by rw [hnone])
          · exact .inr ⟨by rw [hsome], last, cause, notice, hends, hlast⟩

/-- A lookup that comes to something has read it, and tells what there is to tell about it; or it
has not, and tells why. -/
theorem cases_of_outcomeOf_eq_ok (h : reader.outcomeOf item rule = .ok found) :
    (∃ notice, Reading (reader.EndsAt item rule) found notice ∧
      reader.warnings item rule = (notice.map Notice.message).toList) ∨
    found = .missing ∧ reader.warnings item rule ≠ [] := by
  unfold outcomeOf at h
  unfold warnings
  cases hread : reader.read item rule with
  | mk outcome notice =>
    rw [hread] at h
    cases outcome with
    | ok value =>
        cases h
        exact .inl ⟨notice, reading_of_read hread, List.append_nil _⟩
    | error cause =>
        have hsettled : settled cause = .ok found := h
        unfold settled at hsettled
        split at hsettled
        · cases hsettled
        next hcause =>
        obtain ⟨reason, hreason, rfl⟩ := exists_of_map_eq_ok hsettled
        refine .inr ⟨rfl, List.append_ne_nil_of_right_ne_nil _ ?_⟩
        simp [complaints, hcause, hreason]

end Lookup

/-- **A lookup is soft.**  Where no warning is refused, it does nothing but warn, and comes to a
value if the reader is spared interruptions and failures that cannot be put into words; nothing
else comes out of it (`Failure.SurfacesAs`), and nothing was told before, unless a member of an
enumeration withholds its name.  It emits one warning at most, or two for such a member.  There is
no value and no warning only if the path of the rule ends at something that is not a number, or that
converts to something that is not; and a value comes with a warning only if the path ends at a
member of an enumeration, which is replaced by its name, or at something that can be called, which
is replaced by the truth. -/
theorem lookup_soft (reader : ItemReader) (item : Value) (rule : Rule) {bulletin : Bulletin}
    (houtlet : bulletin.outlet.Accepts) :
    ∃ (outcome : Except Failure Value) (warnings : List String),
      reader.lookup item rule bulletin = (outcome, warnings.foldl Bulletin.post bulletin) ∧
      (warnings.length ≤ 1 ∨ warnings.length = 2 ∧ ∃ last cause notice,
        reader.EndsAt item rule last ∧ last.Withholds cause notice) ∧
      (∀ among : Value → Prop, reader.SparedOn (fun failure => !failure.isTellable) among →
        among item → ∃ value, outcome = .ok value) ∧
      (∀ failure, outcome = .error failure → ∃ cause,
        (reader.read item rule).outcome = .error cause ∧ cause.SurfacesAs failure ∧
        (warnings = [] ∨ ∃ last notice, reader.EndsAt item rule last ∧
          last.Withholds cause notice ∧ warnings = [notice.message])) ∧
      (outcome = .ok .missing → warnings = [] →
        ∃ last, reader.EndsAt item rule last ∧ last.IsNoNumber) ∧
      (∀ value, outcome = .ok value → value ≠ .missing → ∀ warning ∈ warnings,
        ∃ last notice, reader.EndsAt item rule last ∧ last.OrderedBy value notice ∧
          warning = notice.message) := by
  refine ⟨_, _, lookup_eq reader item rule houtlet, length_warnings reader item rule, ?_, ?_, ?_,
    ?_⟩
  · intro among hreader hitem
    have hspared := hreader.read mild_not_isTellable hitem rule
    unfold outcomeOf
    cases hread : (reader.read item rule).outcome with
    | ok value => exact ⟨value, rfl⟩
    | error failure =>
        rw [hread] at hspared
        have htellable : failure.isTellable = true := by
          simpa only [Spared, Bool.not_eq_false'] using hspared
        exact ⟨.missing, settled_of_isTellable htellable⟩
  · intro failure hfailure
    obtain ⟨cause, hcause, hsurfaces⟩ := exists_of_outcomeOf_eq_error hfailure
    refine ⟨cause, hcause, hsurfaces, ?_⟩
    cases hread : reader.read item rule with
    | mk outcome notice =>
      rw [hread] at hcause
      cases hcause
      have hwarnings : reader.warnings item rule = (notice.map Notice.message).toList := by
        rw [warnings, hread, complaints_of_surfaces hsurfaces, List.append_nil]
      cases notice with
      | none => exact .inl hwarnings
      | some notice =>
          obtain ⟨last, hends, hlast⟩ := withholds_of_read hread
          exact .inr ⟨last, notice, hends, hlast, hwarnings⟩
  · intro hmissing hnone
    rcases cases_of_outcomeOf_eq_ok hmissing with ⟨notice, hreading, hwarnings⟩ | ⟨-, hsome⟩
    · rw [hnone] at hwarnings
      cases hreading with
      | value h => cases h
      | nothing notice => cases hwarnings
      | noNumber hends h => exact ⟨_, hends, h⟩
      | substitute hends h => cases hwarnings
    · exact absurd hnone hsome
  · intro value hvalue hpresent warning hwarning
    rcases cases_of_outcomeOf_eq_ok hvalue with ⟨notice, hreading, hwarnings⟩ | ⟨hmissing, -⟩
    · rw [hwarnings] at hwarning
      cases hreading with
      | value h => cases hwarning
      | nothing notice => exact absurd rfl hpresent
      | noNumber hends h => cases hwarning
      | substitute hends h => exact ⟨_, _, hends, h, List.mem_singleton.mp hwarning⟩
    · exact absurd hmissing hpresent

/-- A member of an enumeration is looked up in plain data, next to an object that refuses to be
measured: its name is found, with a warning. -/
theorem lookup_soft_member :
    let byColor : Rule := ⟨.path ["color"], none, false, by decide, fun _ h => nomatch h⟩
    let box : Value := .object 3 "Box" [] [] [(.length, .error .emptyPath)] [] none
    let item : Value :=
      .mapping 1 [("color", .named 2 "Color" (some "RED") (.int 1)), ("size", box)]
    let bulletin := Bulletin.opened 5 (.listener none)
    ∃ (value : Value) (warnings : List String),
      plain.lookup item byColor bulletin = (.ok value, warnings.foldl Bulletin.post bulletin) ∧
      value = .text "RED" ∧ warnings = [(Notice.orderedByName "RED").message] ∧
      ∃ last notice, plain.EndsAt item byColor last ∧ last.OrderedBy value notice := by
  intro byColor box item bulletin
  have houtlet : bulletin.outlet.Accepts := rfl
  obtain ⟨outcome, warnings, hlookup, -, hspared, -, -, hsubstitute⟩ :=
    lookup_soft plain item byColor houtlet
  obtain ⟨value, rfl⟩ := hspared _ (sparedOn_plain mild_not_isTellable) (by decide)
  have hread : plain.read item byColor =
      { outcome := .ok (.text "RED"), notice := some (.orderedByName "RED") } := by
    rw [plain_read_without_selector item rfl rfl]
    rfl
  have hsame := hlookup.symm.trans (lookup_of_read houtlet hread)
  obtain ⟨hvalue, hposted⟩ := Prod.mk.inj hsame
  cases hvalue
  have hwarnings : warnings = [(Notice.orderedByName "RED").message] := by
    have hhanded := congrArg Bulletin.handed hposted
    rwa [Bulletin.handed_foldl_post, Bulletin.handed_foldl_post, List.append_cancel_left_eq]
      at hhanded
  refine ⟨_, _, hlookup, rfl, hwarnings, ?_⟩
  obtain ⟨last, notice, hends, hordered, -⟩ := hsubstitute _ rfl (fun h => by cases h)
    _ (hwarnings ▸ List.mem_singleton_self _)
  exact ⟨last, notice, hends, hordered⟩

/-- Something in plain data may interrupt whoever measures it, and then so is the lookup; a member
of an enumeration may withhold its name, and then there are two warnings; and a decimal number may
say that it is none, and then there is no value and no warning. -/
theorem lookup_soft_exceptions :
    let byEntry : Rule := ⟨.path ["k"], none, false, by decide, fun _ h => nomatch h⟩
    let item (entry : Value) : Value := .mapping 1 [("k", entry)]
    let busy : Value :=
      .object 2 "Busy" [] [] [(.length, .error (.raised .interruption "stop"))] [] none
    let shy : Value := .member 3 "Shade" (.ok "RED") (.error (.raised .value "late")) (.int 1)
    let three : Value := .object 4 "Price" [] [] [(.undefined, .ok (.bool true))] []
      (some (.decimal (.finite false 3 0)))
    let bulletin := Bulletin.opened 5 (.listener none)
    bulletin.outlet.Accepts ∧
      plain.lookup (item busy) byEntry bulletin =
        (.error (.raised .interruption "stop"), bulletin) ∧
      plain.lookup (item shy) byEntry bulletin =
        (.ok .missing, [(Notice.orderedByName "RED").message,
          (Notice.failed byEntry .value "late").message].foldl Bulletin.post bulletin) ∧
      three.isUndefined = false ∧
      plain.lookup (item three) byEntry bulletin = (.ok .missing, bulletin) := by
  intro byEntry item busy shy three bulletin
  have houtlet : bulletin.outlet.Accepts := rfl
  have hlookup : ∀ entry : Value, entry.isAbsent = false →
      plain.lookup (item entry) byEntry bulletin =
        (entry.normalize.outcome.tryCatch settled,
          ((entry.normalize.notice.map Notice.message).toList ++
            complaints byEntry entry.normalize.outcome).foldl Bulletin.post bulletin) := by
    intro entry hentry
    rw [lookup_eq plain (item entry) byEntry houtlet, outcomeOf, warnings,
      plain_read_eq_normalize rfl rfl 1 List.lookup_cons_self hentry]
  exact ⟨houtlet, hlookup busy rfl, hlookup shy rfl, rfl, hlookup three rfl⟩

end ItemReader

end Collate
