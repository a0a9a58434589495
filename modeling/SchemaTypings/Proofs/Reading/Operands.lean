import SchemaTypings.Proofs.Reading.Tokens

/-!
# Operands in the tokens of a type

The parentheses of the printer are told by the form of a type alone. What they come to is this: where a type
is an operand, its tokens are those of the operands that stand side by side in it, with signs between
them, and only an operand that would be torn apart is in parentheses. And whatever a type begins with, it
is not taken for the parameters of a function.

* `TypeExpr.tokensIn_eq_intercalate`: the tokens of an operand are those of the operands in it.
* `TypeExpr.leads_tokens`: a type does not begin like a parameter.
* `TypeExpr.not_beginFunction_tokens`: only a function type begins like one.
-/

namespace SchemaTypings

open Reading

/-! ## Lists with a separator -/

namespace Reading

variable {α : Type} {separator : List α}

theorem intercalate_append {first second : List (List α)} (hf : first ≠ []) (hs : second ≠ []) :
    List.intercalate separator (first ++ second) =
      List.intercalate separator first ++ separator ++ List.intercalate separator second := by
  induction first with
  | nil => exact absurd rfl hf
  | cons l ls ih =>
    cases ls with
    | nil => rw [List.singleton_append, List.intercalate_singleton, List.intercalate_cons_of_ne_nil hs]
    | cons next ls =>
      rw [List.cons_append, List.cons_append, List.intercalate_cons_cons, List.intercalate_cons_cons,
        ← List.cons_append, ih (List.cons_ne_nil next ls)]
      simp only [List.append_assoc]

theorem length_le_intercalate {l : List α} {ls : List (List α)} (h : l ∈ ls) :
    l.length ≤ (List.intercalate separator ls).length := by
  induction ls with
  | nil => exact absurd h List.not_mem_nil
  | cons first ls ih =>
    cases ls with
    | nil =>
      obtain rfl := List.mem_singleton.mp h
      exact Nat.le_of_eq (congrArg List.length List.intercalate_singleton.symm)
    | cons next ls =>
      rw [List.intercalate_cons_cons, List.length_append, List.length_append]
      rcases List.mem_cons.mp h with rfl | h
      · omega
      · have := ih h
        omega

/-- There is a separator before each list but the first. -/
theorem length_lists_le_intercalate (token : α) (ls : List (List α)) :
    ls.length ≤ (List.intercalate [token] ls).length + 1 := by
  induction ls with
  | nil => exact Nat.zero_le _
  | cons first ls ih =>
    cases ls with
    | nil => exact Nat.le_add_left 1 _
    | cons next ls =>
      rw [List.intercalate_cons_cons, List.length_append, List.length_append, List.length_cons,
        List.length_singleton]
      omega

end Reading

/-! ## Operands -/

namespace TypeExpr

theorem tokensAll_eq_map (types : List TypeExpr) : tokensAll types = types.map tokens := by
  induction types with
  | nil => rfl
  | cons t ts ih => rw [tokensAll, ih, List.map_cons]

theorem tokensGrouped_eq_map (isGrouped : TypeExpr → Bool) (types : List TypeExpr) :
    tokensGrouped isGrouped types = types.map fun t => grouped (isGrouped t) t.tokens := by
  induction types with
  | nil => rfl
  | cons t ts ih => rw [tokensGrouped, ih, List.map_cons]

theorem tokensParams_eq_map (params : List (Param TypeExpr)) :
    tokensParams params = params.map tokensParam := by
  induction params with
  | nil => rfl
  | cons p ps ih => rw [tokensParams, ih, List.map_cons]

theorem tokensMembers_eq_map (members : List (Member TypeExpr)) :
    tokensMembers members = members.map tokensMember := by
  induction members with
  | nil => rfl
  | cons m ms ih => rw [tokensMembers, ih, List.map_cons]

/-- Whether a type takes parentheses as an operand. -/
def groupedIn : Junction → TypeExpr → Bool
  | .union => groupedInUnion
  | .intersection => groupedInIntersection

/-- The tokens of a type as an operand. -/
def tokensIn (j : Junction) (t : TypeExpr) : List Token := grouped (groupedIn j t) t.tokens

/-- A type is not the junction of some types. -/
def IsApart (j : Junction) (t : TypeExpr) : Prop := ∀ types, t = j.make types → types = []

mutual

/-- What stands side by side in a type is not taken apart any further. -/
theorem isApart_of_mem_operands (j : Junction) : ∀ t : TypeExpr, ∀ u ∈ j.operands t, IsApart j u
  | .union (t :: ts), u, hu => by
    cases j with
    | union => exact isApart_of_mem_operandsAll .union (t :: ts) u hu
    | intersection =>
      rw [List.mem_singleton.mp hu]
      exact fun _ h => nomatch h
  | .intersection (t :: ts), u, hu => by
    cases j with
    | union =>
      rw [List.mem_singleton.mp hu]
      exact fun _ h => nomatch h
    | intersection => exact isApart_of_mem_operandsAll .intersection (t :: ts) u hu
  | .union [], u, hu => by
    rw [List.mem_singleton.mp hu]
    intro types h
    cases j <;> cases h
    rfl
  | .intersection [], u, hu => by
    rw [List.mem_singleton.mp hu]
    intro types h
    cases j <;> cases h
    rfl
  | .keyword _, u, hu | .literal _, u, hu | .array _, u, hu | .object _, u, hu | .function _ _, u, hu
  | .reference _, u, hu | .generic _ _, u, hu | .query _, u, hu | .documented _ _, u, hu => by
    rw [List.mem_singleton.mp hu]
    intro types h
    cases j <;> cases h

theorem isApart_of_mem_operandsAll (j : Junction) :
    ∀ types : List TypeExpr, ∀ u ∈ j.operandsAll types, IsApart j u
  | [], _, hu => absurd hu List.not_mem_nil
  | t :: ts, u, hu => by
    rcases List.mem_append.mp hu with hu | hu
    · exact isApart_of_mem_operands j t u hu
    · exact isApart_of_mem_operandsAll j ts u hu

end

section Legible

variable {mayCall : String → Bool}

mutual

theorem isLegible_of_mem_operands (j : Junction) : ∀ t : TypeExpr, t.isLegible mayCall = true →
    ∀ u ∈ j.operands t, u.isLegible mayCall = true
  | .union (t :: ts), h, u, hu => by
    cases j with
    | union => exact isLegible_of_mem_operandsAll .union (t :: ts) h u hu
    | intersection => rwa [List.mem_singleton.mp hu]
  | .intersection (t :: ts), h, u, hu => by
    cases j with
    | union => rwa [List.mem_singleton.mp hu]
    | intersection => exact isLegible_of_mem_operandsAll .intersection (t :: ts) h u hu
  | .union [], h, u, hu | .intersection [], h, u, hu | .keyword _, h, u, hu | .literal _, h, u, hu
  | .array _, h, u, hu | .object _, h, u, hu | .function _ _, h, u, hu | .reference _, h, u, hu
  | .generic _ _, h, u, hu | .query _, h, u, hu | .documented _ _, h, u, hu => by
    rwa [List.mem_singleton.mp hu]

theorem isLegible_of_mem_operandsAll (j : Junction) : ∀ types : List TypeExpr,
    areLegible mayCall types = true → ∀ u ∈ j.operandsAll types, u.isLegible mayCall = true
  | [], _, _, hu => absurd hu List.not_mem_nil
  | t :: ts, h, u, hu => by
    obtain ⟨ht, hts⟩ := Bool.and_eq_true_iff.mp h
    rcases List.mem_append.mp hu with hu | hu
    · exact isLegible_of_mem_operands j t ht u hu
    · exact isLegible_of_mem_operandsAll j ts hts u hu

end

end Legible

theorem tokensIn_make (j : Junction) (t : TypeExpr) (ts : List TypeExpr) :
    tokensIn j (j.make (t :: ts)) =
      List.intercalate [junctionSign j] ((t :: ts).map (tokensIn j)) := by
  cases j with
  | union => exact congrArg (List.intercalate _) (tokensGrouped_eq_map groupedInUnion (t :: ts))
  | intersection =>
    exact congrArg (List.intercalate _) (tokensGrouped_eq_map groupedInIntersection (t :: ts))

mutual

theorem operands_ne_nil (j : Junction) : ∀ t : TypeExpr, j.operands t ≠ []
  | .union (t :: ts) => by
    cases j with
    | union => exact operandsAll_ne_nil .union t ts
    | intersection => exact List.cons_ne_nil _ _
  | .intersection (t :: ts) => by
    cases j with
    | union => exact List.cons_ne_nil _ _
    | intersection => exact operandsAll_ne_nil .intersection t ts
  | .union [] | .intersection [] | .keyword _ | .literal _ | .array _ | .object _ | .function _ _
  | .reference _ | .generic _ _ | .query _ | .documented _ _ => List.cons_ne_nil _ _

theorem operandsAll_ne_nil (j : Junction) : ∀ (t : TypeExpr) (ts : List TypeExpr),
    j.operandsAll (t :: ts) ≠ []
  | t, _ => List.append_ne_nil_of_left_ne_nil (operands_ne_nil j t) _

end

mutual

/-- The tokens of an operand are those of the operands in it, with signs between them. -/
theorem tokensIn_eq_intercalate (j : Junction) : ∀ t : TypeExpr,
    tokensIn j t = List.intercalate [junctionSign j] ((j.operands t).map (tokensIn j))
  | .union (t :: ts) => by
    cases j with
    | union => exact (tokensIn_make .union t ts).trans (tokensIn_all .union (t :: ts))
    | intersection => exact List.intercalate_singleton.symm
  | .intersection (t :: ts) => by
    cases j with
    | union => exact List.intercalate_singleton.symm
    | intersection =>
      exact (tokensIn_make .intersection t ts).trans (tokensIn_all .intersection (t :: ts))
  | .union [] | .intersection [] | .keyword _ | .literal _ | .array _ | .object _ | .function _ _
  | .reference _ | .generic _ _ | .query _ | .documented _ _ => List.intercalate_singleton.symm

theorem tokensIn_all (j : Junction) : ∀ types : List TypeExpr,
    List.intercalate [junctionSign j] (types.map (tokensIn j)) =
      List.intercalate [junctionSign j] ((j.operandsAll types).map (tokensIn j))
  | [] => rfl
  | [t] => by
    rw [Junction.operandsAll, Junction.operandsAll, List.append_nil, ← tokensIn_eq_intercalate j t]
    exact List.intercalate_singleton
  | t :: u :: ts => by
    have hfirst : (j.operands t).map (tokensIn j) ≠ [] := by
      simpa using operands_ne_nil j t
    have hothers : (j.operandsAll (u :: ts)).map (tokensIn j) ≠ [] := by
      simpa using operandsAll_ne_nil j u ts
    rw [Junction.operandsAll, List.map_append, intercalate_append hfirst hothers,
      ← tokensIn_eq_intercalate j t, ← tokensIn_all j (u :: ts)]
    exact List.intercalate_cons_cons

end

/-- An operand takes no more tokens than the type. -/
theorem length_tokensIn_le {j : Junction} {t u : TypeExpr} (h : u ∈ j.operands t) :
    (tokensIn j u).length ≤ (tokensIn j t).length := by
  rw [tokensIn_eq_intercalate j t]
  exact length_le_intercalate (List.mem_map_of_mem h)

end TypeExpr

/-! ## Beginnings -/

namespace Reading

/-- Whether a token may begin a type. -/
def opens : Token → Bool
  | .word _ | .text _ | .numeral _ => true
  | .sign c => c = '(' || c = '\x7b' || c = '-'
  | .arrow | .ellipsis => false

/-- Nothing that makes a parameter of a name before it. -/
def NoColon (ts : List Token) : Prop := ∀ t ∈ ts.head?, t ≠ .sign ':' ∧ t ≠ .sign '?'

/-- The tokens begin like a type, and not like a parameter. -/
def Leads (ts : List Token) : Prop :=
  ∃ first more, ts = first :: more ∧ opens first = true ∧ ∀ name, first = .word name → NoColon more

theorem Leads.not_beginParams {ts : List Token} (h : Leads ts) : beginParams ts = false := by
  obtain ⟨first, more, rfl, hopens, hword⟩ := h
  cases first with
  | word name =>
    have hmore := hword name rfl
    rcases more with _ | ⟨next, more⟩
    · rfl
    · obtain ⟨hcolon, hquestion⟩ := hmore next rfl
      unfold beginParams
      split <;> simp_all
  | sign c =>
    unfold beginParams
    split <;> simp_all [opens]
  | _ => simp_all [beginParams, opens]

end Reading

namespace TypeExpr

variable {mayCall : String → Bool}

theorem leads_literal {l : Literal} (h : l.isExact = true) {rest : List Token} (hr : NoColon rest) :
    Leads (l.tokens ++ rest) := by
  cases l with
  | string value => exact ⟨_, _, rfl, rfl, fun _ hname => nomatch hname⟩
  | integer value =>
    cases value with
    | ofNat n => exact ⟨_, _, rfl, rfl, fun _ hname => nomatch hname⟩
    | negSucc n => exact ⟨_, _, rfl, rfl, fun _ hname => nomatch hname⟩
  | number value => cases h
  | bool on => cases on <;> exact ⟨_, _, rfl, rfl, fun _ _ => hr⟩

theorem leads_grouped {isGrouped : Bool} {ts rest : List Token} (h : Leads (ts ++ rest)) :
    Leads (grouped isGrouped ts ++ rest) := by
  cases isGrouped with
  | false => exact h
  | true => exact ⟨.sign '(', _, rfl, rfl, fun _ hname => nomatch hname⟩

mutual

/-- A type does not begin like a parameter. -/
theorem leads_tokens : ∀ t : TypeExpr, t.isLegible mayCall = true → ∀ rest, NoColon rest →
    Leads (t.tokens ++ rest)
  | .keyword _, _, _, hr => ⟨_, _, rfl, rfl, fun _ _ => hr⟩
  | .literal _, h, _, hr => leads_literal h hr
  | .array item, h, rest, _ => by
    rw [tokens, List.append_assoc]
    exact leads_grouped (leads_tokens item h _ (by simp [NoColon]))
  | .union [], _, _, hr => ⟨_, _, rfl, rfl, fun _ _ => hr⟩
  | .union (t :: ts), h, rest, hr =>
    leads_tokensGrouped (.sign '|') (by simp) _ (t :: ts) (List.cons_ne_nil t ts) h rest hr
  | .intersection ts, h, rest, hr => by
    obtain ⟨hne, hts⟩ := Bool.and_eq_true_iff.mp h
    exact leads_tokensGrouped (.sign '&') (by simp) _ ts (by simpa using hne) hts rest hr
  | .object _, _, _, _ => ⟨.sign '\x7b', _, rfl, rfl, fun _ hname => nomatch hname⟩
  | .function _ _, _, _, _ => ⟨.sign '(', _, rfl, rfl, fun _ hname => nomatch hname⟩
  | .reference _, _, _, hr => ⟨_, _, rfl, rfl, fun _ _ => hr⟩
  | .generic _ _, _, _, _ => ⟨_, _, rfl, rfl, fun _ _ => by simp [NoColon]⟩
  | .query _, _, _, _ => ⟨_, _, rfl, rfl, fun _ _ => by simp [NoColon]⟩
  | .documented _ (.literal _), h, _, hr => leads_literal (Bool.and_eq_true_iff.mp h).2 hr

theorem leads_tokensGrouped (sign : Token) (hs : sign ≠ .sign ':' ∧ sign ≠ .sign '?')
    (isGrouped : TypeExpr → Bool) : ∀ types : List TypeExpr, types ≠ [] →
      areLegible mayCall types = true → ∀ rest, NoColon rest →
        Leads (List.intercalate [sign] (tokensGrouped isGrouped types) ++ rest)
  | [], hne, _, _, _ => absurd rfl hne
  | [t], _, h, rest, hr => by
    rw [tokensGrouped, tokensGrouped, List.intercalate_singleton]
    exact leads_grouped (leads_tokens t (Bool.and_eq_true_iff.mp h).1 rest hr)
  | t :: u :: ts, _, h, rest, _ => by
    rw [tokensGrouped, tokensGrouped, List.intercalate_cons_cons, List.append_assoc, List.append_assoc]
    refine leads_grouped (leads_tokens t (Bool.and_eq_true_iff.mp h).1 _ ?_)
    intro next hnext
    cases hnext
    exact hs

end

/-- Behind the parenthesis of an operand stands a type, and no parameter. -/
theorem not_beginFunction_grouped {isGrouped : Bool} {t : TypeExpr} (ht : t.isLegible mayCall = true)
    {rest : List Token} (h : isGrouped = false → beginFunction (t.tokens ++ rest) = false) :
    beginFunction (grouped isGrouped t.tokens ++ rest) = false := by
  cases isGrouped with
  | false => exact h rfl
  | true =>
    have hbehind := (leads_tokens t ht ([.sign ')'] ++ rest) (by simp [NoColon])).not_beginParams
    rw [← List.append_assoc] at hbehind
    exact hbehind

mutual

/-- A type that is not a function does not begin like one. -/
theorem not_beginFunction_tokens : ∀ t : TypeExpr, t.isLegible mayCall = true →
    (∀ params returns, t ≠ .function params returns) → ∀ rest, beginFunction (t.tokens ++ rest) = false
  | .function params returns, _, hf, _ => absurd rfl (hf params returns)
  | .array item, h, _, rest => by
    rw [tokens, List.append_assoc]
    refine not_beginFunction_grouped (t := item) h fun hopen => not_beginFunction_tokens item h ?_ _
    rintro _ _ rfl
    cases hopen
  | .union (t :: ts), h, _, rest =>
    not_beginFunction_tokensGrouped _ _ (fun _ _ => rfl) (t :: ts) (List.cons_ne_nil t ts) h rest
  | .intersection ts, h, _, rest => by
    obtain ⟨hne, hts⟩ := Bool.and_eq_true_iff.mp h
    exact not_beginFunction_tokensGrouped _ _ (fun _ _ => rfl) ts (by simpa using hne) hts rest
  | .literal l, _, _, _ | .documented _ (.literal l), _, _, _ => by
    rcases l with _ | ⟨_ | _⟩ | _ | ⟨_ | _⟩ <;> rfl
  | .keyword _, _, _, _ | .union [], _, _, _ | .object _, _, _, _ | .reference _, _, _, _
  | .generic _ _, _, _, _ | .query _, _, _, _ => rfl

theorem not_beginFunction_tokensGrouped (sign : Token) (isGrouped : TypeExpr → Bool)
    (hg : ∀ params returns, isGrouped (.function params returns) = true) :
    ∀ types : List TypeExpr, types ≠ [] → areLegible mayCall types = true → ∀ rest,
      beginFunction (List.intercalate [sign] (tokensGrouped isGrouped types) ++ rest) = false
  | [], hne, _, _ => absurd rfl hne
  | [t], _, h, rest => by
    rw [tokensGrouped, tokensGrouped, List.intercalate_singleton]
    have ht := (Bool.and_eq_true_iff.mp h).1
    refine not_beginFunction_grouped ht fun hopen => not_beginFunction_tokens t ht ?_ rest
    rintro params returns rfl
    exact Bool.noConfusion ((hg params returns).symm.trans hopen)
  | t :: u :: ts, _, h, rest => by
    rw [tokensGrouped, tokensGrouped, List.intercalate_cons_cons, List.append_assoc, List.append_assoc]
    have ht := (Bool.and_eq_true_iff.mp h).1
    refine not_beginFunction_grouped ht fun hopen => not_beginFunction_tokens t ht ?_ _
    rintro params returns rfl
    exact Bool.noConfusion ((hg params returns).symm.trans hopen)

end

end TypeExpr

end SchemaTypings
