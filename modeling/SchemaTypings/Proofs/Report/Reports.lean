import SchemaTypings.Typing.Scope

/-!
# What a computation reports

`x.Reports P` says that every diagnostic of `x` satisfies `P`. The lemmas follow the ways in which
generators are put together: one step after another, over a list, and with a failure in between.
-/

namespace SchemaTypings.Reporting

variable {α β : Type} {P : Diagnostic → Prop}

/-- Every diagnostic of the computation satisfies `P`. -/
def Reports (P : Diagnostic → Prop) (x : Reporting α) : Prop := ∀ d ∈ x.diagnostics, P d

theorem reports_of_nil {x : Reporting α} (h : x.diagnostics = []) : x.Reports P := by
  intro d hd
  rw [h] at hd
  exact absurd hd List.not_mem_nil

theorem reports_pure (a : α) : (pure a : Reporting α).Reports P := reports_of_nil rfl

theorem reports_warn {space : Option String} {problem : Problem}
    (h : P ⟨.warning, space, problem⟩) : (warn space problem).Reports P := by
  intro d hd
  rw [diagnostics_warn, List.mem_singleton] at hd
  exact hd ▸ h

theorem reports_error {space : Option String} {problem : Problem}
    (h : P ⟨.error, space, problem⟩) : (error space problem).Reports P := by
  intro d hd
  rw [diagnostics_error, List.mem_singleton] at hd
  exact hd ▸ h

theorem Reports.bind {x : Reporting α} {f : α → Reporting β} (hx : x.Reports P)
    (hf : (f x.value).Reports P) : (x >>= f).Reports P := by
  intro d hd
  rw [diagnostics_bind, List.mem_append] at hd
  exact hd.elim (hx d) (hf d)

theorem reports_collect {f : α → Reporting (Option β)} {l : List α}
    (h : ∀ a ∈ l, (f a).Reports P) : (collect f l).Reports P := by
  intro d hd
  rw [diagnostics_collect, List.mem_flatMap] at hd
  obtain ⟨a, ha, hd⟩ := hd
  exact h a ha d hd

theorem reports_collectAll {f : α → Reporting (List β)} {l : List α}
    (h : ∀ a ∈ l, (f a).Reports P) : (collectAll f l).Reports P := by
  intro d hd
  rw [diagnostics_collectAll, List.mem_flatMap] at hd
  obtain ⟨a, ha, hd⟩ := hd
  exact h a ha d hd

/-! ## Generators that may fail -/

theorem reports_run_bind {x : Generating α} {f : α → Generating β} (hx : x.run.Reports P)
    (hf : ∀ a, x.run.value = .ok a → (f a).run.Reports P) : (x >>= f).run.Reports P := by
  rw [ExceptT.run_bind]
  refine hx.bind ?_
  cases h : x.run.value with
  | ok a => exact hf a h
  | error fault => exact reports_pure _

theorem reports_run_lift {x : Reporting α} (hx : x.Reports P) :
    (liftM x : Generating α).run.Reports P := by
  intro d hd
  exact hx d (by simpa using hd)

end SchemaTypings.Reporting
