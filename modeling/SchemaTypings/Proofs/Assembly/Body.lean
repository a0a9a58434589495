import SchemaTypings.Assembly.Namespace

/-!
# What a body keeps

Declarations are handed to the body of a namespace one after another. Those that may repeat always
stay, and any other one stays if it is the first of its name.

* `Body.value_push`: appending keeps declarations, whatever it reports.
* `Body.pairwise_keep`: behind a declaration of the same name there is only one that may repeat.
* `Body.find?_keep`: the first declaration of a name stays.
* `NamespaceSchema.value_generate`: a body is what is kept of everything handed to it.
-/

namespace SchemaTypings

namespace Declaration

theorem sharesName_iff {a b : Declaration} :
    a.sharesName b = true ↔ a.name = b.name ∧ a.inTypeSpace = b.inTypeSpace := by
  rw [sharesName, Bool.and_eq_true, beq_iff_eq, beq_iff_eq]

theorem sharesName_refl (a : Declaration) : a.sharesName a = true :=
  sharesName_iff.mpr ⟨rfl, rfl⟩

theorem sharesName_trans {a b c : Declaration} (hab : a.sharesName b = true)
    (hbc : b.sharesName c = true) : a.sharesName c = true := by
  rw [sharesName_iff] at hab hbc ⊢
  exact ⟨hab.1.trans hbc.1, hab.2.trans hbc.2⟩

end Declaration

namespace Body

/-- Whether a declaration is left out behind a body. -/
def isDropped (body : List Declaration) (d : Declaration) : Bool :=
  !d.mayRepeat && body.any (·.sharesName d)

/-- A body with further declarations, except those left out. -/
def keep : List Declaration → List Declaration → List Declaration
  | body, [] => body
  | body, d :: rest => keep (if isDropped body d then body else body ++ [d]) rest

theorem value_push (space : String) (body declarations : List Declaration) :
    (push space body declarations).value = keep body declarations := by
  induction declarations generalizing body with
  | nil => rfl
  | cons d rest ih =>
    rw [push, keep, isDropped]
    split
    · exact ih body
    · exact ih (body ++ [d])

theorem keep_append (body first second : List Declaration) :
    keep body (first ++ second) = keep (keep body first) second := by
  induction first generalizing body with
  | nil => rfl
  | cons d rest ih => exact ih _

/-- What was there stays in front, and nothing new comes in. -/
theorem keep_eq_append (body declarations : List Declaration) :
    ∃ kept, keep body declarations = body ++ kept ∧ kept.Sublist declarations := by
  induction declarations generalizing body with
  | nil => exact ⟨[], (List.append_nil body).symm, List.Sublist.refl []⟩
  | cons d rest ih =>
    rw [keep]
    split
    · obtain ⟨kept, he, hs⟩ := ih body
      exact ⟨kept, he, hs.cons d⟩
    · obtain ⟨kept, he, hs⟩ := ih (body ++ [d])
      exact ⟨d :: kept, by rw [he, List.append_assoc]; rfl, hs.cons_cons d⟩

theorem mem_keep_of_mem {body : List Declaration} {d : Declaration} (h : d ∈ body)
    (declarations : List Declaration) : d ∈ keep body declarations := by
  obtain ⟨kept, he, -⟩ := keep_eq_append body declarations
  rw [he]
  exact List.mem_append_left kept h

theorem mem_of_mem_keep {body declarations : List Declaration} {d : Declaration}
    (h : d ∈ keep body declarations) : d ∈ body ∨ d ∈ declarations := by
  obtain ⟨kept, he, hs⟩ := keep_eq_append body declarations
  rw [he] at h
  exact (List.mem_append.mp h).imp_right fun hd => hs.subset hd

theorem mem_keep_of_mayRepeat {declarations : List Declaration} {d : Declaration}
    (h : d ∈ declarations) (hd : d.mayRepeat = true) (body : List Declaration) :
    d ∈ keep body declarations := by
  induction declarations generalizing body with
  | nil => exact absurd h List.not_mem_nil
  | cons e rest ih =>
    rw [keep]
    rcases List.mem_cons.mp h with rfl | h
    · rw [isDropped, hd]
      exact mem_keep_of_mem (List.mem_append_right body List.mem_cons_self) rest
    · exact ih h _

/-- The first declaration of a name is kept. -/
theorem find?_keep (body declarations : List Declaration) (d : Declaration) :
    (keep body declarations).find? (·.sharesName d) =
      (body ++ declarations).find? (·.sharesName d) := by
  induction declarations generalizing body with
  | nil => rw [List.append_nil]; rfl
  | cons e rest ih =>
    rw [keep]
    by_cases hdrop : isDropped body e = true
    · rw [if_pos hdrop, ih body, List.find?_append, List.find?_append, List.find?_cons]
      rw [isDropped, Bool.and_eq_true, List.any_eq_true] at hdrop
      obtain ⟨-, b, hb, hbe⟩ := hdrop
      cases he : e.sharesName d with
      | false => rfl
      | true =>
        -- the declaration that takes the name of `e` has the name of `d` too
        have hfound : (body.find? (·.sharesName d)).isSome = true :=
          List.find?_isSome.mpr ⟨b, hb, Declaration.sharesName_trans hbe he⟩
        obtain ⟨first, hfirst⟩ := Option.isSome_iff_exists.mp hfound
        rw [hfirst]
        rfl
    · rw [if_neg hdrop, ih (body ++ [e]), List.append_assoc]
      rfl

/-- Declarations under new and different names are all kept. -/
theorem keep_eq_append_of_free {body declarations : List Declaration}
    (hfree : ∀ d ∈ declarations, ∀ b ∈ body, b.sharesName d = false)
    (hdistinct : declarations.Pairwise fun a b => a.sharesName b = false) :
    keep body declarations = body ++ declarations := by
  induction declarations generalizing body with
  | nil => exact (List.append_nil body).symm
  | cons d rest ih =>
    obtain ⟨hd, hrest⟩ := List.pairwise_cons.mp hdistinct
    have hany : body.any (·.sharesName d) = false := by
      rw [List.any_eq_false]
      intro b hb
      rw [hfree d List.mem_cons_self b hb]
      exact Bool.false_ne_true
    rw [keep, isDropped, hany, Bool.and_false, if_neg Bool.false_ne_true]
    rw [ih ?_ hrest, List.append_assoc, List.singleton_append]
    intro e he b hb
    rcases List.mem_append.mp hb with hb | hb
    · exact hfree e (List.mem_cons_of_mem d he) b hb
    · rw [List.mem_singleton.mp hb]
      exact hd e he

/-- What is picked out of a body stays the same if nothing handed to it is picked. -/
theorem filter_keep {pick : Declaration → Bool} {declarations : List Declaration}
    (h : ∀ d ∈ declarations, pick d = false) (body : List Declaration) :
    (keep body declarations).filter pick = body.filter pick := by
  obtain ⟨kept, he, hs⟩ := keep_eq_append body declarations
  have hkept : kept.filter pick = [] := by
    rw [List.filter_eq_nil_iff]
    intro d hd
    rw [h d (hs.subset hd)]
    exact Bool.false_ne_true
  rw [he, List.filter_append, hkept, List.append_nil]

/-- Behind a declaration of its name there stands only one that may repeat. -/
def Follows (a b : Declaration) : Prop := a.sharesName b = true → b.mayRepeat = true

theorem follows_of_not_isDropped {body : List Declaration} {d a : Declaration}
    (h : isDropped body d = false) (ha : a ∈ body) : Follows a d := by
  intro hs
  rw [isDropped, Bool.and_eq_false_iff, Bool.not_eq_false', List.any_eq_false] at h
  rcases h with h | h
  · exact h
  · exact absurd hs (h a ha)

theorem pairwise_keep {body : List Declaration} (h : body.Pairwise Follows)
    (declarations : List Declaration) : (keep body declarations).Pairwise Follows := by
  induction declarations generalizing body with
  | nil => exact h
  | cons d rest ih =>
    rw [keep]
    by_cases hdrop : isDropped body d = true
    · rw [if_pos hdrop]
      exact ih h
    · rw [if_neg hdrop]
      refine ih (List.pairwise_append.mpr ⟨h, List.pairwise_singleton Follows d, ?_⟩)
      intro a ha b hb
      rw [List.mem_singleton.mp hb]
      exact follows_of_not_isDropped (by simpa using hdrop) ha

end Body

namespace NamespaceSchema

/-- The declarations handed to a body for entries, each asked for behind the entries before it. -/
def handedFrom (schema : NamespaceSchema) (catalog : Catalog) :
    List Declaration → List Entry → List Declaration
  | _, [] => []
  | body, entry :: rest =>
    let declarations := (entry.declarations (schema.scope catalog body)).value
    declarations ++ schema.handedFrom catalog (Body.keep body declarations) rest

/-- The declarations handed to the body of a namespace. -/
def handed (schema : NamespaceSchema) (catalog : Catalog) : List Declaration :=
  schema.handedFrom catalog [] schema.entries

theorem value_generateEntries (schema : NamespaceSchema) (catalog : Catalog)
    (body : List Declaration) (entries : List Entry) :
    (schema.generateEntries catalog body entries).value =
      Body.keep body (schema.handedFrom catalog body entries) := by
  induction entries generalizing body with
  | nil => rfl
  | cons entry rest ih =>
    rw [generateEntries, Reporting.value_bind, Reporting.value_bind, Body.value_push, ih,
      handedFrom, Body.keep_append]

theorem value_generateEntries_append (schema : NamespaceSchema) (catalog : Catalog)
    (body : List Declaration) (first second : List Entry) :
    (schema.generateEntries catalog body (first ++ second)).value =
      (schema.generateEntries catalog (schema.generateEntries catalog body first).value
        second).value := by
  induction first generalizing body with
  | nil => rfl
  | cons entry rest ih => exact ih _

/-- The body behind entries. -/
def bodyBehind (schema : NamespaceSchema) (catalog : Catalog) (entries : List Entry) :
    List Declaration :=
  (schema.generateEntries catalog [] entries).value

/-- Around one entry, a body is what the entries before it leave, then what is kept of its own
declarations, then what the entries behind it add. -/
theorem value_generate_split {schema : NamespaceSchema} {before behind : List Entry}
    {entry : Entry} (h : schema.entries = before ++ entry :: behind) (catalog : Catalog) :
    (schema.generate catalog).value =
      (schema.generateEntries catalog
        (Body.keep (schema.bodyBehind catalog before)
          (entry.declarations (schema.scope catalog (schema.bodyBehind catalog before))).value)
        behind).value := by
  rw [generate, Reporting.value_bind, Reporting.value_bind, Reporting.value_pure, h,
    value_generateEntries_append, generateEntries, Reporting.value_bind, Reporting.value_bind,
    Body.value_push]
  rfl

/-- **A body is what is kept of everything handed to it.** -/
theorem value_generate (schema : NamespaceSchema) (catalog : Catalog) :
    (schema.generate catalog).value = Body.keep [] (schema.handed catalog) := by
  rw [generate, Reporting.value_bind, Reporting.value_bind, Reporting.value_pure,
    value_generateEntries]
  rfl

/-- What holds of the declarations of every entry holds of all that are handed over. -/
theorem forall_mem_handedFrom {schema : NamespaceSchema} {catalog : Catalog}
    {P : Declaration → Prop}
    (h : ∀ (entry : Entry) (body : List Declaration),
      ∀ d ∈ (entry.declarations (schema.scope catalog body)).value, P d)
    (body : List Declaration) (entries : List Entry) :
    ∀ d ∈ schema.handedFrom catalog body entries, P d := by
  induction entries generalizing body with
  | nil => exact fun d hd => absurd hd List.not_mem_nil
  | cons entry rest ih =>
    intro d hd
    rw [handedFrom] at hd
    rcases List.mem_append.mp hd with hd | hd
    · exact h entry body d hd
    · exact ih _ d hd

end NamespaceSchema

end SchemaTypings
