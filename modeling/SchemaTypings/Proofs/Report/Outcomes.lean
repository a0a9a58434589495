import SchemaTypings.Report.Reporting

/-!
# Outcomes of steps that may fail

A sequence of steps succeeds exactly when each step does, and it does so quietly exactly when each step
is quiet.
-/

namespace SchemaTypings

variable {ε α β : Type}

theorem except_bind_eq_ok {x : Except ε α} {f : α → Except ε β} {b : β} :
    (x >>= f) = .ok b ↔ ∃ a, x = .ok a ∧ f a = .ok b := by
  cases x with
  | ok a => exact ⟨fun h => ⟨a, rfl, h⟩, fun ⟨_, ha, h⟩ => Except.ok.inj ha ▸ h⟩
  | error fault => exact ⟨nofun, fun ⟨_, ha, _⟩ => nomatch ha⟩

theorem except_bind_isOk_iff {x : Except ε α} {f : α → β} :
    (∃ b, (x >>= fun a => .ok (f a)) = .ok b) ↔ ∃ a, x = .ok a := by
  cases x with
  | ok a => exact ⟨fun _ => ⟨a, rfl⟩, fun _ => ⟨f a, rfl⟩⟩
  | error fault => exact ⟨nofun, nofun⟩

theorem except_mapError_eq_ok {ε' : Type} {x : Except ε α} {f : ε → ε'} {a : α} :
    x.mapError f = .ok a ↔ x = .ok a := by
  cases x with
  | ok b => exact ⟨fun h => congrArg _ (Except.ok.inj h), fun h => congrArg _ (Except.ok.inj h)⟩
  | error fault => exact ⟨nofun, nofun⟩

theorem except_map_eq_error {x : Except ε α} {f : α → β} {fault : ε} :
    x.map f = .error fault ↔ x = .error fault := by
  cases x with
  | ok a => exact ⟨nofun, nofun⟩
  | error other =>
    exact ⟨fun h => congrArg _ (Except.error.inj h), fun h => congrArg _ (Except.error.inj h)⟩

theorem exists_ok_of_isSome {x : Except ε α} (h : x.toOption.isSome = true) : ∃ a, x = .ok a := by
  cases x with
  | ok a => exact ⟨a, rfl⟩
  | error fault => cases h

/-- What a list of steps gives comes from one of them. -/
theorem mem_of_except_mapM {f : α → Except ε β} {l : List α} {found : List β}
    (h : l.mapM f = .ok found) : ∀ b ∈ found, ∃ a ∈ l, f a = .ok b := by
  induction l generalizing found with
  | nil =>
    cases h
    exact List.forall_mem_nil _
  | cons a l ih =>
    rw [List.mapM_cons] at h
    obtain ⟨first, hfirst, h⟩ := except_bind_eq_ok.mp h
    obtain ⟨rest, hrest, h⟩ := except_bind_eq_ok.mp h
    cases h
    refine List.forall_mem_cons.mpr ⟨⟨a, List.mem_cons_self, hfirst⟩, fun b hb => ?_⟩
    obtain ⟨c, hc, hcb⟩ := ih hrest b hb
    exact ⟨c, List.mem_cons_of_mem a hc, hcb⟩

/-- Steps that undo a function each undo it on a list. -/
theorem except_mapM_map {f : α → Except ε β} {g : β → α} {l : List β}
    (h : ∀ b ∈ l, f (g b) = .ok b) : (l.map g).mapM f = .ok l := by
  induction l with
  | nil => rfl
  | cons b l ih =>
    obtain ⟨hfirst, hrest⟩ := List.forall_mem_cons.mp h
    rw [List.map_cons, List.mapM_cons, hfirst, ih hrest]
    rfl

namespace Reporting

theorem run_bind_eq_ok {x : ExceptT ε Reporting α} {f : α → ExceptT ε Reporting β} {b : β} :
    (x >>= f).run.value = .ok b ↔
      ∃ a, x.run.value = .ok a ∧ (f a).run.value = .ok b := by
  rw [ExceptT.run_bind, value_bind, ← except_bind_eq_ok]
  cases x.run.value <;> rfl

theorem value_run_bind {x : ExceptT ε Reporting α} {f : α → ExceptT ε Reporting β} {a : α}
    (h : x.run.value = .ok a) : (x >>= f).run.value = (f a).run.value := by
  rw [ExceptT.run_bind, value_bind, h]

theorem diagnostics_run_bind {x : ExceptT ε Reporting α} {f : α → ExceptT ε Reporting β} {a : α}
    (h : x.run.value = .ok a) :
    (x >>= f).run.diagnostics = x.run.diagnostics ++ (f a).run.diagnostics := by
  rw [ExceptT.run_bind, diagnostics_bind, h]

/-- What follows a failure does not happen. -/
theorem value_run_bind_of_error {x : ExceptT ε Reporting α} {f : α → ExceptT ε Reporting β} {fault : ε}
    (h : x.run.value = .error fault) : (x >>= f).run.value = .error fault := by
  rw [ExceptT.run_bind, value_bind, h]
  rfl

theorem run_lift_eq_ok {x : Reporting α} {a : α} :
    (liftM x : ExceptT ε Reporting α).run.value = .ok a ↔ x.value = a := by
  rw [ExceptT.run_liftM, value_map]
  exact ⟨Except.ok.inj, congrArg Except.ok⟩

theorem value_run_lift (x : Reporting α) : (liftM x : ExceptT ε Reporting α).run.value = .ok x.value :=
  run_lift_eq_ok.mpr rfl

theorem diagnostics_run_lift (x : Reporting α) :
    (liftM x : ExceptT ε Reporting α).run.diagnostics = x.diagnostics := by
  rw [ExceptT.run_liftM, diagnostics_map]

/-! ## Nothing to report -/

/-- The computation succeeds and reports nothing. -/
def Quiet (x : ExceptT ε Reporting α) (a : α) : Prop :=
  x.run.value = .ok a ∧ x.run.diagnostics = []

theorem diagnostics_bind_eq_nil {x : Reporting α} {f : α → Reporting β} :
    (x >>= f).diagnostics = [] ↔ x.diagnostics = [] ∧ (f x.value).diagnostics = [] := by
  rw [diagnostics_bind, List.append_eq_nil_iff]

theorem quiet_bind {x : ExceptT ε Reporting α} {f : α → ExceptT ε Reporting β} {b : β} :
    Quiet (x >>= f) b ↔ ∃ a, Quiet x a ∧ Quiet (f a) b := by
  unfold Quiet
  rw [run_bind_eq_ok, ExceptT.run_bind, diagnostics_bind_eq_nil]
  constructor
  · rintro ⟨⟨a, hx, hf⟩, hxd, hfd⟩
    rw [hx] at hfd
    exact ⟨a, ⟨hx, hxd⟩, hf, hfd⟩
  · rintro ⟨a, ⟨hx, hxd⟩, hf, hfd⟩
    rw [hx]
    exact ⟨⟨a, rfl, hf⟩, hxd, hfd⟩

theorem quiet_lift {x : Reporting α} {a : α} :
    Quiet (liftM x : ExceptT ε Reporting α) a ↔ x.value = a ∧ x.diagnostics = [] := by
  unfold Quiet
  rw [run_lift_eq_ok, ExceptT.run_liftM, diagnostics_map]

theorem collect_quiet {f : α → Reporting (Option β)} {l : List α}
    (h : (collect f l).diagnostics = []) : ∀ a ∈ l, (f a).diagnostics = [] := by
  rw [diagnostics_collect] at h
  exact List.flatMap_eq_nil_iff.mp h

theorem collectAll_quiet {f : α → Reporting (List β)} {l : List α}
    (h : (collectAll f l).diagnostics = []) : ∀ a ∈ l, (f a).diagnostics = [] := by
  rw [diagnostics_collectAll] at h
  exact List.flatMap_eq_nil_iff.mp h

end Reporting

end SchemaTypings
