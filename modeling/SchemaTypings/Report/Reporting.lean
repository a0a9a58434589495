import SchemaTypings.Report.Diagnostic

/-!
# Computations that report

A `Reporting` computation is its value together with the events it reported, in order. Events are the
diagnostics and, between them, the notes that only a log shows. A computation can add events but never
read those reported before it, so whatever surrounds a computation does not change what it does.

* `Reporting.diagnostics` is the view that answers show; it turns sequencing into concatenation.
-/

namespace SchemaTypings

/-- Something that happened and that only a log shows. -/
inductive Note where
  | skippedByOverride (space label : String)
  | addingNamespace (name file : String)
  | mergingNamespace (name file : String)
  | loadedFile (file : String) (fragments : Nat)
  | loadedCatalog (files namespaces : Nat) (directory : String)
  | ignoringNamespace (name : String)
  | generatedNamespace (name : String) (declarations : Nat)
  | assembled (namespaces warnings errors : Nat)
  | creatingDirectory (directory : String)
  | declarationsWritten (file : String) (bytes : Nat)

/-- An event of a run. -/
inductive Event where
  | diagnostic (d : Diagnostic)
  | note (n : Note)

/-- The diagnostic of an event, if it is one. -/
def Event.diagnostic? : Event → Option Diagnostic
  | diagnostic d => some d
  | note _ => none

/-- A value with the events reported on the way to it. -/
structure Reporting (α : Type u) where
  value : α
  events : List Event

namespace Reporting

variable {α β γ : Type u}

instance : Monad Reporting where
  pure a := ⟨a, []⟩
  bind x f :=
    let y := f x.value
    ⟨y.value, x.events ++ y.events⟩

@[simp] theorem value_pure (a : α) : (pure a : Reporting α).value = a := rfl

@[simp] theorem events_pure (a : α) : (pure a : Reporting α).events = [] := rfl

@[simp] theorem value_bind (x : Reporting α) (f : α → Reporting β) :
    (x >>= f).value = (f x.value).value := rfl

@[simp] theorem events_bind (x : Reporting α) (f : α → Reporting β) :
    (x >>= f).events = x.events ++ (f x.value).events := rfl

@[ext] theorem ext {x y : Reporting α} (hv : x.value = y.value) (he : x.events = y.events) :
    x = y := by
  cases x; cases y; simp_all

instance : LawfulMonad Reporting :=
  LawfulMonad.mk' Reporting
    (fun x => ext rfl (List.append_nil x.events))
    (fun _ _ => ext rfl (List.nil_append _))
    (fun _ _ _ => ext rfl (List.append_assoc _ _ _))

@[simp] theorem value_map (f : α → β) (x : Reporting α) : (f <$> x).value = f x.value := rfl

/-! ## Diagnostics -/

/-- The reported diagnostics. -/
def diagnostics (x : Reporting α) : Diagnostics := x.events.filterMap Event.diagnostic?

@[simp] theorem diagnostics_pure (a : α) : (pure a : Reporting α).diagnostics = [] := rfl

@[simp] theorem diagnostics_bind (x : Reporting α) (f : α → Reporting β) :
    (x >>= f).diagnostics = x.diagnostics ++ (f x.value).diagnostics := by
  simp [diagnostics]

@[simp] theorem diagnostics_map (f : α → β) (x : Reporting α) :
    (f <$> x).diagnostics = x.diagnostics := by
  rw [← bind_pure_comp, diagnostics_bind, diagnostics_pure, List.append_nil]

/-! ## Reporting one event -/

/-- Report an event. -/
def event (e : Event) : Reporting PUnit := ⟨⟨⟩, [e]⟩

/-- Add a note to the log. -/
def note (n : Note) : Reporting PUnit := event (.note n)

/-- Report a warning. -/
def warn (space : Option String) (problem : Problem) : Reporting PUnit :=
  event (.diagnostic ⟨.warning, space, problem⟩)

/-- Report an error. -/
def error (space : Option String) (problem : Problem) : Reporting PUnit :=
  event (.diagnostic ⟨.error, space, problem⟩)

@[simp] theorem diagnostics_note (n : Note) : (note n).diagnostics = [] := rfl

@[simp] theorem diagnostics_warn (space : Option String) (problem : Problem) :
    (warn space problem).diagnostics = [⟨.warning, space, problem⟩] := rfl

@[simp] theorem diagnostics_error (space : Option String) (problem : Problem) :
    (error space problem).diagnostics = [⟨.error, space, problem⟩] := rfl

/-! ## Lists -/

/-- Run over a list and keep the present answers. -/
def collect (f : α → Reporting (Option β)) : List α → Reporting (List β)
  | [] => pure []
  | a :: rest => do
    let first ← f a
    let others ← collect f rest
    pure (first.toList ++ others)

/-- Run over a list and join the answers. -/
def collectAll (f : α → Reporting (List β)) : List α → Reporting (List β)
  | [] => pure []
  | a :: rest => do
    let first ← f a
    let others ← collectAll f rest
    pure (first ++ others)

@[simp] theorem value_collect (f : α → Reporting (Option β)) (l : List α) :
    (collect f l).value = l.filterMap fun a => (f a).value := by
  induction l with
  | nil => rfl
  | cons a rest ih =>
    rw [collect, value_bind, value_bind, value_pure, ih]
    cases h : (f a).value <;> simp [h]

@[simp] theorem diagnostics_collect (f : α → Reporting (Option β)) (l : List α) :
    (collect f l).diagnostics = l.flatMap fun a => (f a).diagnostics := by
  induction l with
  | nil => rfl
  | cons a rest ih =>
    rw [collect, diagnostics_bind, diagnostics_bind, diagnostics_pure, ih, List.append_nil,
      List.flatMap_cons]

theorem collect_congr {f g : α → Reporting (Option β)} {l : List α} (h : ∀ a ∈ l, f a = g a) :
    collect f l = collect g l := by
  induction l with
  | nil => rfl
  | cons a rest ih =>
    rw [collect, collect, h a List.mem_cons_self, ih fun b hb => h b (List.mem_cons_of_mem _ hb)]

@[simp] theorem value_collectAll (f : α → Reporting (List β)) (l : List α) :
    (collectAll f l).value = l.flatMap fun a => (f a).value := by
  induction l with
  | nil => rfl
  | cons a rest ih => rw [collectAll, value_bind, value_bind, value_pure, ih, List.flatMap_cons]

@[simp] theorem diagnostics_collectAll (f : α → Reporting (List β)) (l : List α) :
    (collectAll f l).diagnostics = l.flatMap fun a => (f a).diagnostics := by
  induction l with
  | nil => rfl
  | cons a rest ih =>
    rw [collectAll, diagnostics_bind, diagnostics_bind, diagnostics_pure, ih, List.append_nil,
      List.flatMap_cons]

theorem collectAll_congr {f g : α → Reporting (List β)} {l : List α} (h : ∀ a ∈ l, f a = g a) :
    collectAll f l = collectAll g l := by
  induction l with
  | nil => rfl
  | cons a rest ih =>
    rw [collectAll, collectAll, h a List.mem_cons_self,
      ih fun b hb => h b (List.mem_cons_of_mem _ hb)]

end Reporting

end SchemaTypings
