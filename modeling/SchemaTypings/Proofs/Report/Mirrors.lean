import SchemaTypings.Typing.Scope

/-!
# Two runs that report alike

One computation mirrors another when its value is that of the other one, seen through a function, and when
it reports as many problems, each of the same severity and in the same name. What the reports say may be
different, and so may the faults of computations that fail. The lemmas follow the ways in which generators
are put together.

* `Reporting.Mirrors`: the relation of two computations.
* `Reporting.MirrorsRun`: the same of computations that may fail; both fail or neither does.
-/

namespace SchemaTypings

/-- Severity and namespace of a diagnostic: what is left of it without the problem. -/
def Diagnostic.tag (x : Diagnostic) : Severity × Option String := (x.severity, x.space)

/-- Diagnostics correspond one by one in severity and namespace. -/
def Diagnostics.Alike (first second : Diagnostics) : Prop :=
  second.map Diagnostic.tag = first.map Diagnostic.tag

namespace Reporting

variable {α β γ δ : Type}

/-- The second computation has the value of the first one, seen through `f`, and reports alike. -/
structure Mirrors (f : α → β) (x : Reporting α) (y : Reporting β) : Prop where
  value : y.value = f x.value
  diagnostics : Diagnostics.Alike x.diagnostics y.diagnostics

theorem mirrors_pure {f : α → β} {a : α} {b : β} (h : b = f a) :
    Mirrors f (pure a) (pure b) := ⟨h, rfl⟩

theorem Mirrors.bind {f : α → β} {g : γ → δ} {x : Reporting α} {y : Reporting β}
    {k : α → Reporting γ} {k' : β → Reporting δ} (h : Mirrors f x y)
    (hk : Mirrors g (k x.value) (k' (f x.value))) : Mirrors g (x >>= k) (y >>= k') := by
  constructor
  · rw [value_bind, value_bind, h.value]
    exact hk.value
  · unfold Diagnostics.Alike
    rw [diagnostics_bind, diagnostics_bind, List.map_append, List.map_append, h.value, h.diagnostics,
      hk.diagnostics]

theorem mirrors_note (note note' : Note) : Mirrors id (Reporting.note note) (Reporting.note note') :=
  ⟨rfl, rfl⟩

/-- Reports do not have to say the same. -/
theorem mirrors_warn {space space' : Option String} (h : space' = space)
    (problem problem' : Problem) : Mirrors id (warn space problem) (warn space' problem') := by
  subst h
  exact ⟨rfl, rfl⟩

theorem mirrors_error {space space' : Option String} (h : space' = space)
    (problem problem' : Problem) : Mirrors id (error space problem) (error space' problem') := by
  subst h
  exact ⟨rfl, rfl⟩

theorem mirrors_collect {f : γ → δ} {φ : α → β} {run : α → Reporting (Option γ)}
    {run' : β → Reporting (Option δ)} (l : List α)
    (h : ∀ a ∈ l, Mirrors (Option.map f) (run a) (run' (φ a))) :
    Mirrors (List.map f) (collect run l) (collect run' (l.map φ)) := by
  induction l with
  | nil => exact mirrors_pure rfl
  | cons a rest ih =>
    refine (h a List.mem_cons_self).bind ?_
    refine (ih fun b hb => h b (List.mem_cons_of_mem a hb)).bind (mirrors_pure ?_)
    cases (run a).value <;> rfl

theorem mirrors_collectAll {f : γ → δ} {φ : α → β} {run : α → Reporting (List γ)}
    {run' : β → Reporting (List δ)} (l : List α)
    (h : ∀ a ∈ l, Mirrors (List.map f) (run a) (run' (φ a))) :
    Mirrors (List.map f) (collectAll run l) (collectAll run' (l.map φ)) := by
  induction l with
  | nil => exact mirrors_pure rfl
  | cons a rest ih =>
    refine (h a List.mem_cons_self).bind ?_
    refine (ih fun b hb => h b (List.mem_cons_of_mem a hb)).bind (mirrors_pure ?_)
    exact List.map_append.symm

/-! ## Generators that may fail -/

/-- Both computations fail or neither does; then the second one has the value of the first one, seen
through `f`. Either way they report alike. -/
structure MirrorsRun (f : α → β) (x : Generating α) (y : Generating β) : Prop where
  value : y.run.value.toOption = x.run.value.toOption.map f
  diagnostics : Diagnostics.Alike x.run.diagnostics y.run.diagnostics

theorem mirrorsRun_pure {f : α → β} {a : α} {b : β} (h : b = f a) :
    MirrorsRun f (pure a) (pure b) := ⟨congrArg some h, rfl⟩

theorem mirrorsRun_throw {f : α → β} (fault fault' : GenerateFault) :
    MirrorsRun f (throw fault) (throw fault') := ⟨rfl, rfl⟩

theorem mirrorsRun_lift {f : α → β} {x : Reporting α} {y : Reporting β} (h : Mirrors f x y) :
    MirrorsRun f (liftM x) (liftM y) := by
  constructor
  · rw [ExceptT.run_liftM, ExceptT.run_liftM, value_map, value_map, h.value]
    rfl
  · rw [ExceptT.run_liftM, ExceptT.run_liftM, diagnostics_map, diagnostics_map]
    exact h.diagnostics

section Run

variable {f : α → β} {g : γ → δ} {x : Generating α} {y : Generating β}

theorem MirrorsRun.cases (h : MirrorsRun f x y) :
    (∃ a, x.run.value = .ok a ∧ y.run.value = .ok (f a)) ∨
      ∃ fault fault', x.run.value = .error fault ∧ y.run.value = .error fault' := by
  have hvalue := h.value
  cases hx : x.run.value with
  | ok a =>
    cases hy : y.run.value with
    | ok b =>
      rw [hx, hy] at hvalue
      cases hvalue
      exact .inl ⟨a, rfl, rfl⟩
    | error fault' =>
      rw [hx, hy] at hvalue
      cases hvalue
  | error fault =>
    cases hy : y.run.value with
    | ok b =>
      rw [hx, hy] at hvalue
      cases hvalue
    | error fault' => exact .inr ⟨fault, fault', rfl, rfl⟩

/-- What is made of an outcome, if it does not matter which fault there was. -/
theorem MirrorsRun.handle {k : Except GenerateFault α → Reporting γ}
    {k' : Except GenerateFault β → Reporting δ} (h : MirrorsRun f x y)
    (hok : ∀ a, Mirrors g (k (.ok a)) (k' (.ok (f a))))
    (herror : ∀ fault fault', Mirrors g (k (.error fault)) (k' (.error fault'))) :
    Mirrors g (x.run >>= k) (y.run >>= k') := by
  have hk : Mirrors g (k x.run.value) (k' y.run.value) := by
    rcases h.cases with ⟨a, hx, hy⟩ | ⟨fault, fault', hx, hy⟩
    · rw [hx, hy]
      exact hok a
    · rw [hx, hy]
      exact herror fault fault'
  refine ⟨hk.value, ?_⟩
  unfold Diagnostics.Alike
  rw [diagnostics_bind, diagnostics_bind, List.map_append, List.map_append, h.diagnostics,
    hk.diagnostics]

theorem MirrorsRun.bind {k : α → Generating γ} {k' : β → Generating δ} (h : MirrorsRun f x y)
    (hk : ∀ a, MirrorsRun g (k a) (k' (f a))) : MirrorsRun g (x >>= k) (y >>= k') := by
  constructor
  · rw [ExceptT.run_bind, ExceptT.run_bind, value_bind, value_bind]
    rcases h.cases with ⟨a, hx, hy⟩ | ⟨fault, fault', hx, hy⟩
    · rw [hx, hy]
      exact (hk a).value
    · rw [hx, hy]
      rfl
  · unfold Diagnostics.Alike
    rw [ExceptT.run_bind, ExceptT.run_bind, diagnostics_bind, diagnostics_bind, List.map_append,
      List.map_append, h.diagnostics]
    rcases h.cases with ⟨a, hx, hy⟩ | ⟨fault, fault', hx, hy⟩
    · rw [hx, hy]
      exact congrArg (_ ++ ·) (hk a).diagnostics
    · rw [hx, hy]
      rfl

theorem MirrorsRun.map {φ : α → γ} {φ' : β → δ} (h : MirrorsRun f x y)
    (hφ : ∀ a, φ' (f a) = g (φ a)) : MirrorsRun g (φ <$> x) (φ' <$> y) := by
  rw [← bind_pure_comp, ← bind_pure_comp]
  exact h.bind fun a => mirrorsRun_pure (hφ a)

/-- Both sides stop under the same condition. -/
theorem MirrorsRun.check (h : MirrorsRun f x y) {stops : Bool} (fault fault' : GenerateFault) :
    MirrorsRun f (if stops then throw fault >>= fun _ : PUnit => x else x)
      (if stops then throw fault' >>= fun _ : PUnit => y else y) := by
  cases stops with
  | false => exact h
  | true =>
    have hthrow : MirrorsRun (fun done : PUnit => done) (throw fault) (throw fault') :=
      mirrorsRun_throw fault fault'
    exact hthrow.bind fun _ => h

end Run

end Reporting

end SchemaTypings
