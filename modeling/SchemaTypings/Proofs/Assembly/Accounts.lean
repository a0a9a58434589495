import SchemaTypings.Proofs.Assembly.Diagnostics
import SchemaTypings.Proofs.Assembly.Quiet
import SchemaTypings.Proofs.Typing.Contexts

/-!
# The account of a namespace

Entries have their turns one after another. An entry hands over declarations, reports something or is
skipped by an override, and each declaration that it hands over is kept or reported.

* `Scope.KeepsNodes`: what is made of a node has the shape that it is asked for.
* `Entry.shown`: an entry that is not skipped shows.
* `NamespaceSchema.Accounts`: what the turns of the entries come to.
* `NamespaceSchema.generate_accounts`: the body and the diagnostics of a namespace are accounted for.
-/

namespace SchemaTypings

open Reporting (diagnostics_bind_eq_nil)

/-! ## Nodes -/

/-- No node that was made is lost because it has another shape than the one asked for. -/
structure Scope.KeepsNodes (scope : Scope) : Prop where
  /-- What is made inline is a type. -/
  inline : ∀ (levels : Nat) (d : Descriptor), (scope.inlineWithin (levels + 1) d).value.isSome =
    (scope.contain d .inline (scope.typing (scope.inlineWithin levels) d .inline)).value.isSome
  /-- What is made in a namespace is a declaration. -/
  standalone : ∀ d, (scope.declaration d .namespace).value.isSome =
    (scope.generate d .namespace).value.isSome
  /-- What is made for an interface is a declaration, unless it goes to the place of its identifier;
  type entries of those kinds are not generated for an interface. -/
  collected : ∀ d : Descriptor, (∀ kind, d.kind? = some kind → kind.isPlaced = false) →
    (scope.declaration d .interface).value.isSome = (scope.generate d .interface).value.isSome
  /-- A signature is a type for an event, a declaration for a function and a member for a method. -/
  signature : ∀ (inline : InlineTyping) (d : Descriptor) (ps : List Descriptor)
    (handling : CallbackHandling) (context : Context) (g : Generated),
    (Signature.typing inline d ps handling context).run.value = .ok g →
      match context with
      | .inline => g.type?.isSome
      | .namespace => g.declaration?.isSome
      | .interface => g.member?.isSome

namespace Generated

variable {g : Generated}

theorem isSome_type? (h : g.shape = .type) : g.type?.isSome = true := by
  cases g with
  | type => rfl
  | declaration => cases h
  | member => cases h

theorem isSome_declaration? (h : g.shape = .declaration) : g.declaration?.isSome = true := by
  cases g with
  | type => cases h
  | declaration => rfl
  | member => cases h

theorem isSome_member? (h : g.shape = .member) : g.member?.isSome = true := by
  cases g with
  | type => cases h
  | declaration => cases h
  | member => rfl

end Generated

namespace Scope

variable {scope : Scope} {inline : InlineTyping} {d : Descriptor} {context : Context}

/-- Looking for a part of what was made finds it, if the shape is right. -/
theorem isSome_bind_contain {α : Type} {part : Generated → Option α} {shape : Generated.Shape}
    (hpart : ∀ {g : Generated}, g.shape = shape → (part g).isSome = true)
    (hshape : ∀ kind, d.kind? = some kind → context.shape kind.isPlaced = shape) :
    ((scope.contain d context (scope.typing inline d context)).value.bind part).isSome =
      (scope.contain d context (scope.typing inline d context)).value.isSome := by
  cases h : (scope.contain d context (scope.typing inline d context)).value with
  | none => rfl
  | some g =>
    obtain ⟨kind, hk, hg⟩ := shape_of_typing (contain_eq_some h)
    exact hpart (hg.trans (hshape kind hk))

theorem keepsNodes (scope : Scope) : scope.KeepsNodes := by
  constructor
  case inline =>
    intro levels d
    exact isSome_bind_contain Generated.isSome_type? fun _ _ => rfl
  case standalone =>
    intro d
    exact isSome_bind_contain Generated.isSome_declaration? fun _ _ => rfl
  case collected =>
    intro d hkind
    refine isSome_bind_contain Generated.isSome_declaration? fun kind hk => ?_
    rw [hkind kind hk]
    rfl
  case signature =>
    intro inline d ps handling context g h
    obtain ⟨type, -, hfits, -⟩ := Descriptor.agrees_signature ps handling g h
    cases context with
    | inline => exact Generated.isSome_type? hfits.shape
    | «namespace» => exact Generated.isSome_declaration? hfits.shape
    | interface => exact Generated.isSome_member? hfits.shape

/-- A descriptor that is not skipped comes to something, if it reports nothing. -/
theorem isSome_generate {d' : Descriptor} (ho : d.overridden? = some d')
    (h : (scope.generate d context).diagnostics = []) :
    (scope.generate d context).value.isSome = true := by
  obtain ⟨kind, g, -, hg, -⟩ := quiet_generate ho h
  rw [hg]
  rfl

end Scope

/-! ## Entries -/

/-- The descriptor that is generated for an entry. A constant value goes by the key of the property. -/
def Entry.generated : Entry → Descriptor
  | type d => d
  | function d => d
  | event d => d
  | property key d =>
    match d.kind? with
    | some (.staticValue _) => { d with name := some key }
    | _ => d

theorem Entry.generated_static {key : String} {d : Descriptor} {value : Json}
    (h : d.kind? = some (.staticValue value)) :
    (property key d).generated = { d with name := some key } := by
  simp only [generated, h]

theorem Entry.generated_property {key : String} {d : Descriptor}
    (h : ∀ value, d.kind? ≠ some (.staticValue value)) : (property key d).generated = d := by
  unfold generated
  dsimp only
  split
  next value hk => exact absurd hk (h value)
  next => rfl

/-- An entry shows: it hands something over, reports something or is skipped by an override. -/
def Entry.Shows (scope : Scope) (entry : Entry) : Prop :=
  (entry.declarations scope).value ≠ [] ∨ (entry.declarations scope).diagnostics ≠ [] ∨
    entry.generated.override? = some .skip

variable {scope : Scope} {d : Descriptor}

theorem Descriptor.override?_of_skipped (h : d.overridden? = none) : d.override? = some .skip := by
  unfold overridden? at h
  rcases d.override?_cases with hc | hc | ⟨hc, -⟩
  · rw [hc] at h
    cases h
  · exact hc
  · rw [hc] at h
    cases h

/-- It is enough to look at an entry that reports nothing and is not skipped. -/
theorem Entry.shows_of_quiet {entry : Entry}
    (h : ∀ d', entry.generated.overridden? = some d' → (entry.declarations scope).diagnostics = [] →
      (entry.declarations scope).value ≠ []) : entry.Shows scope := by
  by_cases hquiet : (entry.declarations scope).diagnostics = []
  · cases ho : entry.generated.overridden? with
    | none => exact .inr (.inr (Descriptor.override?_of_skipped ho))
    | some d' => exact .inl (h d' ho hquiet)
  · exact .inr (.inl hquiet)

theorem toList_ne_nil {made : Option Declaration} (h : made.isSome = true) : made.toList ≠ [] := by
  cases made with
  | none => cases h
  | some decl => exact List.cons_ne_nil decl []

theorem shows_type : (Entry.type d).Shows scope := by
  refine Entry.shows_of_quiet fun d' ho hquiet => ?_
  exact toList_ne_nil (isSome_typeEntry (diagnostics_bind_eq_nil.mp hquiet).1 ho)

theorem shows_function : (Entry.function d).Shows scope := by
  refine Entry.shows_of_quiet fun f hf hquiet => ?_
  change d.overridden? = some f at hf
  rw [Entry.declarations] at hquiet ⊢
  cases hn : f.identifier? with
  | none =>
    unfold FunctionTyping.expand at hquiet
    rw [hf] at hquiet
    dsimp only at hquiet
    rw [hn] at hquiet
    cases hquiet
  | some name =>
    rw [FunctionTyping.expand_eq_expandNamed scope hf hn, FunctionTyping.value_expandNamed_eq hn]
    have hcount : 0 < (FunctionTyping.signatureDeclarations f name scope).length := by
      rw [FunctionTyping.length_signatureDeclarations]
      exact FunctionTyping.count_pos f.params
    intro hnil
    rw [List.append_eq_nil_iff, List.append_eq_nil_iff] at hnil
    rw [hnil.1.2] at hcount
    exact Nat.lt_irrefl 0 hcount

theorem shows_event : (Entry.event d).Shows scope := by
  refine Entry.shows_of_quiet fun event ho hquiet => ?_
  change d.overridden? = some event at ho
  have hentry := (diagnostics_bind_eq_nil.mp hquiet).1
  refine toList_ne_nil ?_
  unfold EntryTyping.eventEntry at hentry ⊢
  split at hentry
  · cases hentry
  next hsupported =>
    obtain ⟨decl, -, hvalue⟩ := quiet_expand_event ho hentry
    rw [if_neg hsupported, hvalue]
    rfl

theorem shows_property {key : String} : (Entry.property key d).Shows scope := by
  refine Entry.shows_of_quiet fun d' ho hquiet => ?_
  have hentry := (diagnostics_bind_eq_nil.mp hquiet).1
  refine toList_ne_nil ?_
  unfold EntryTyping.propertyEntry at hentry ⊢
  dsimp only at hentry ⊢
  split at hentry
  · cases hentry
  next hsupported =>
    rw [if_neg hsupported]
    split at hentry
    next value hk =>
      rw [Entry.generated_static hk] at ho
      rw [scope.keepsNodes.standalone]
      exact Scope.isSome_generate ho (diagnostics_bind_eq_nil.mp hentry).1
    next kind hstatic hk =>
      have hother : ∀ value, d.kind? ≠ some (.staticValue value) := by
        intro value hvalue
        exact hstatic value (Option.some.inj (hk.symm.trans hvalue))
      rw [Entry.generated_property hother] at ho
      split at hentry
      next hlike =>
        have hinline := (diagnostics_bind_eq_nil.mp hentry).1
        have hmade := scope.keepsNodes.inline d.depth d
        rw [if_pos hlike, Reporting.value_bind, Reporting.value_pure, Option.isSome_map]
        refine Eq.trans hmade ?_
        exact Scope.isSome_generate ho (diagnostics_bind_eq_nil.mp hinline).1
      · cases hentry
    · cases hentry

/-- **Every entry shows.** -/
theorem Entry.shown (scope : Scope) (entry : Entry) : entry.Shows scope := by
  cases entry with
  | type d => exact shows_type
  | function d => exact shows_function
  | event d => exact shows_event
  | property key d => exact shows_property

/-! ## Turns -/

/-- The turn of an entry: what it reported, and what it handed over, with whether that was kept. -/
structure Turn where
  entry : Entry
  reported : Diagnostics
  handed : List (Declaration × Bool)

namespace Turn

/-- What was kept of a turn. -/
def kept (turn : Turn) : List Declaration := Body.kept turn.handed

/-- What was left out of a turn. -/
def leftOut (turn : Turn) : List Declaration := Body.leftOut turn.handed

end Turn

namespace NamespaceSchema

/-- The turns of the entries of a namespace account for its body and its diagnostics. -/
structure Accounts (schema : NamespaceSchema) (catalog : Catalog) (turns : List Turn) : Prop where
  /-- Every entry has one turn: first types, then functions, events and properties. -/
  entries : turns.map (·.entry) =
    schema.types.map .type ++ schema.functions.map .function ++ schema.events.map .event ++
      schema.properties.map fun (key, d) => .property key d
  /-- In its turn an entry sees what the turns before it keep. -/
  runs : ∀ (i : Nat) (turn : Turn), turns[i]? = some turn →
    let run := turn.entry.declarations (schema.scope catalog ((turns.take i).flatMap Turn.kept))
    run.value = turn.handed.map Prod.fst ∧ run.diagnostics = turn.reported
  /-- Something is handed over or reported, or an override skips the entry. -/
  shown : ∀ turn ∈ turns, turn.handed ≠ [] ∨ turn.reported ≠ [] ∨
    turn.entry.generated.override? = some .skip
  /-- The body is what was kept, in order. -/
  body : (schema.generate catalog).value = turns.flatMap Turn.kept
  /-- The diagnostics are what entries report and one warning for each declaration left out. -/
  diagnostics : (schema.generate catalog).diagnostics = turns.flatMap fun turn =>
    turn.reported ++ turn.leftOut.map (Body.skipped schema.name)
  /-- No entry reports such a warning itself. -/
  warned : ∀ turn ∈ turns, ∀ x ∈ turn.reported, ∀ path, x.problem ≠ .duplicateDeclaration path

variable (schema : NamespaceSchema) (catalog : Catalog)

/-- The turn of an entry behind a body. -/
def turn (body : List Declaration) (entry : Entry) : Turn :=
  let run := entry.declarations (schema.scope catalog body)
  { entry, reported := run.diagnostics, handed := Body.marked body run.value }

/-- The turns of entries, each behind what those before it keep. -/
def turns : List Declaration → List Entry → List Turn
  | _, [] => []
  | body, entry :: rest =>
    let first := schema.turn catalog body entry
    first :: turns (body ++ first.kept) rest

theorem map_entry_turns (body : List Declaration) (entries : List Entry) :
    (schema.turns catalog body entries).map (·.entry) = entries := by
  induction entries generalizing body with
  | nil => rfl
  | cons entry rest ih => rw [turns, List.map_cons, ih]; rfl

/-- A turn is that of its entry behind what the turns before it keep. -/
theorem eq_turn {body : List Declaration} {entries : List Entry} {i : Nat} {turn : Turn}
    (h : (schema.turns catalog body entries)[i]? = some turn) :
    turn = schema.turn catalog
      (body ++ ((schema.turns catalog body entries).take i).flatMap Turn.kept) turn.entry := by
  induction entries generalizing body i with
  | nil => cases h
  | cons entry rest ih =>
    rw [turns] at h ⊢
    cases i with
    | zero =>
      cases h
      rw [List.take_zero, List.flatMap_nil, List.append_nil]
      rfl
    | succ i =>
      rw [List.take_succ_cons, List.flatMap_cons, ← List.append_assoc]
      exact ih h

theorem value_eq_turns (body : List Declaration) (entries : List Entry) :
    (schema.generateEntries catalog body entries).value =
      body ++ (schema.turns catalog body entries).flatMap Turn.kept := by
  induction entries generalizing body with
  | nil => exact (List.append_nil body).symm
  | cons entry rest ih =>
    rw [generateEntries, Reporting.value_bind, Reporting.value_bind, Body.value_push, ih, turns,
      List.flatMap_cons, ← List.append_assoc, Body.keep_eq_append_kept]
    rfl

theorem diagnostics_eq_turns (body : List Declaration) (entries : List Entry) :
    (schema.generateEntries catalog body entries).diagnostics =
      (schema.turns catalog body entries).flatMap fun turn =>
        turn.reported ++ turn.leftOut.map (Body.skipped schema.name) := by
  induction entries generalizing body with
  | nil => rfl
  | cons entry rest ih =>
    rw [generateEntries, Reporting.diagnostics_bind, Reporting.diagnostics_bind,
      Body.diagnostics_push, Body.value_push, ih, turns, List.flatMap_cons, ← List.append_assoc,
      Body.keep_eq_append_kept]
    rfl

/-- What holds behind every body holds of every turn. -/
theorem forall_mem_turns {P : Turn → Prop}
    (h : ∀ body entry, P (schema.turn catalog body entry)) (body : List Declaration)
    (entries : List Entry) : ∀ turn ∈ schema.turns catalog body entries, P turn := by
  intro turn hturn
  obtain ⟨i, hi⟩ := List.mem_iff_getElem?.mp hturn
  rw [schema.eq_turn catalog hi]
  exact h _ _

theorem accounts_turns : schema.Accounts catalog (schema.turns catalog [] schema.entries) := by
  constructor
  case entries => exact schema.map_entry_turns catalog [] schema.entries
  case runs =>
    intro i turn hturn
    have hrun := schema.eq_turn catalog hturn
    rw [List.nil_append] at hrun
    refine ⟨?_, ?_⟩
    · rw [congrArg Turn.handed hrun]
      exact (Body.map_fst_marked _ _).symm
    · rw [congrArg Turn.reported hrun]
      rfl
  case shown =>
    refine schema.forall_mem_turns catalog (fun body entry => ?_) [] schema.entries
    rcases entry.shown (schema.scope catalog body) with hvalue | hreported | hskipped
    · refine .inl fun hnil => hvalue ?_
      rw [← Body.map_fst_marked body (entry.declarations (schema.scope catalog body)).value]
      exact congrArg (List.map Prod.fst) hnil
    · exact .inr (.inl hreported)
    · exact .inr (.inr hskipped)
  case body =>
    rw [generate, Reporting.value_bind, Reporting.value_bind, Reporting.value_pure,
      value_eq_turns, List.nil_append]
  case diagnostics => rw [diagnostics_generate, diagnostics_eq_turns]
  case warned =>
    refine schema.forall_mem_turns catalog (fun body entry => ?_) [] schema.entries
    exact entry.declarations_reports fun severity problem h => h.ne_duplicateDeclaration

/-- **No entry and no declaration is lost silently**, and no node is lost for its shape. -/
theorem generate_accounts :
    (∃ turns, schema.Accounts catalog turns) ∧ ∀ scope : Scope, scope.KeepsNodes :=
  ⟨⟨_, schema.accounts_turns catalog⟩, Scope.keepsNodes⟩

end NamespaceSchema

end SchemaTypings
