import SchemaTypings.Proofs.Reading.Operands

/-!
# What the parsers take

Every parser of types takes as much as it can, so what it takes depends on the token behind it. A sign that
none of the parsers at work goes on with stops them all: `)` stops every type, `|` stops an intersection,
`[` stops neither.

* `Parses`: a parser takes certain tokens before anything that stops it.
* `Recovers`: what it takes them for differs from the original in ways that a text cannot show.
* `Knows`: a parser recovers the legible types up to a length.
* `Knows.recovers_param`, `Knows.recovers_member`: types inside of parameters and members are recovered.
-/

namespace SchemaTypings.Reading

/-! ## Taking tokens -/

/-- There is nothing behind, or a sign that is none of these. -/
def Stops (signs : List Char) (rest : List Token) : Prop :=
  ∀ t ∈ rest.head?, ∃ c, t = .sign c ∧ c ∉ signs

theorem stops_nil (signs : List Char) : Stops signs [] := fun _ h => nomatch h

theorem stops_sign {signs : List Char} {c : Char} (h : c ∉ signs) (rest : List Token) :
    Stops signs (.sign c :: rest) := by
  intro t ht
  cases ht
  exact ⟨c, rfl, h⟩

theorem Stops.mono {signs others : List Char} {rest : List Token} (h : Stops signs rest)
    (hsub : others ⊆ signs) : Stops others rest := by
  intro t ht
  obtain ⟨c, hc, hout⟩ := h t ht
  exact ⟨c, hc, fun hin => hout (hsub hin)⟩

theorem Stops.expect?_eq_none {signs : List Char} {rest : List Token} (h : Stops signs rest) {c : Char}
    (hc : c ∈ signs) : expect? (.sign c) rest = none := by
  rcases rest with _ | ⟨t, rest⟩
  · rfl
  · obtain ⟨d, rfl, hd⟩ := h t rfl
    refine if_neg fun heq => hd ?_
    rwa [Token.sign.inj heq]

@[simp] theorem expect?_cons (token : Token) (ts : List Token) :
    expect? token (token :: ts) = some ts := if_pos rfl

variable {α : Type}

/-- A parser takes the tokens, and no more, before anything that stops it. -/
def Parses (p : Parser α) (stops : List Char) (ts : List Token) (a : α) : Prop :=
  ∀ rest, Stops stops rest → p (ts ++ rest) = some (a, rest)

/-- A parser takes the tokens for something with the same image. -/
def Recovers {β : Type} (image : α → β) (p : Parser α) (stops : List Char) (ts : List Token) (a : α) :
    Prop :=
  ∃ b, Parses p stops ts b ∧ image b = image a

/-! ## Lists -/

section Lists

variable {one : Parser α} {stops : List Char} {separator closing : Char}

theorem separatedWithin_eq (hs : separator ∉ stops) {lists : List (List Token)} {things : List α}
    (h : List.Forall₂ (Parses one stops) lists things) (hne : lists ≠ []) {rest : List Token}
    (hr : Stops (separator :: stops) rest) {most : Nat} (hmost : lists.length ≤ most) :
    separatedWithin (.sign separator) one most (List.intercalate [.sign separator] lists ++ rest) =
      some (things, rest) := by
  induction h generalizing most with
  | nil => exact absurd rfl hne
  | @cons l a ls as hl hls ih =>
    obtain ⟨more, rfl⟩ : ∃ more, most = more + 1 := Nat.exists_eq_add_one.mpr (by simp at hmost; omega)
    cases hls with
    | nil =>
      have hfirst := hl rest (hr.mono (List.subset_cons_self separator stops))
      have hend := hr.expect?_eq_none List.mem_cons_self
      rw [List.intercalate_singleton]
      simp only [separatedWithin, hfirst, hend, Option.bind_eq_bind, Option.bind_some]
    | @cons next b ls bs hnext hls =>
      have hothers := ih (List.cons_ne_nil next ls) (Nat.le_of_succ_le_succ hmost)
      have hfirst := hl _ (stops_sign hs (List.intercalate [.sign separator] (next :: ls) ++ rest))
      rw [List.intercalate_cons_cons, List.append_assoc, List.append_assoc, List.singleton_append]
      simp only [separatedWithin, hfirst, hothers, expect?_cons, Option.bind_eq_bind, Option.bind_some]

theorem parses_separated (hs : separator ∉ stops) {lists : List (List Token)} {things : List α}
    (h : List.Forall₂ (Parses one stops) lists things) (hne : lists ≠ []) :
    Parses (separated (.sign separator) one) (separator :: stops)
      (List.intercalate [.sign separator] lists) things := by
  intro rest hr
  refine separatedWithin_eq hs h hne hr ?_
  have hlength := length_lists_le_intercalate (.sign separator) lists
  rw [List.length_append]
  omega

/-- The tokens do not begin with the sign. -/
def BeginsApart (sign : Char) (ts : List Token) : Prop := ∃ t ∈ ts.head?, t ≠ .sign sign

theorem BeginsApart.expect?_eq_none {ts : List Token} (h : BeginsApart closing ts) (rest : List Token) :
    expect? (.sign closing) (ts ++ rest) = none := by
  obtain ⟨t, ht, hne⟩ := h
  obtain ⟨more, rfl⟩ := List.head?_eq_some_iff.mp ht
  exact if_neg hne

theorem BeginsApart.append {ts : List Token} (h : BeginsApart closing ts) (rest : List Token) :
    BeginsApart closing (ts ++ rest) := by
  obtain ⟨t, ht, hne⟩ := h
  obtain ⟨more, rfl⟩ := List.head?_eq_some_iff.mp ht
  exact ⟨t, rfl, hne⟩

/-- Several things are recovered together if each of them is. -/
theorem exists_parses_all {β : Type} {image : α → β} {write : α → List Token} {things : List α}
    (h : ∀ a ∈ things, Recovers image one stops (write a) a) :
    ∃ taken, List.Forall₂ (Parses one stops) (things.map write) taken ∧
      taken.map image = things.map image := by
  induction things with
  | nil => exact ⟨[], .nil, rfl⟩
  | cons a as ih =>
    obtain ⟨b, hb, himage⟩ := h a List.mem_cons_self
    obtain ⟨bs, hbs, himages⟩ := ih fun other hother => h other (List.mem_cons_of_mem a hother)
    exact ⟨b :: bs, .cons hb hbs, by rw [List.map_cons, List.map_cons, himage, himages]⟩

theorem recovers_enclosed (hs : separator ∉ stops) (hc : closing ∉ separator :: stops) {β : Type}
    {image : α → β} {write : α → List Token} {things : List α}
    (h : ∀ a ∈ things, Recovers image one stops (write a) a)
    (hbegin : ∀ a ∈ things, BeginsApart closing (write a)) :
    ∃ taken, (∀ rest, enclosed (.sign separator) (.sign closing) one
        (List.intercalate [.sign separator] (things.map write) ++ .sign closing :: rest) =
          some (taken, rest)) ∧
      taken.map image = things.map image := by
  obtain ⟨taken, htaken, himages⟩ := exists_parses_all h
  refine ⟨taken, fun rest => ?_, himages⟩
  cases things with
  | nil =>
    cases htaken
    simp [enclosed]
  | cons a as =>
    have hlist := parses_separated hs htaken (List.cons_ne_nil _ _) _ (stops_sign hc rest)
    have hopen : BeginsApart closing (List.intercalate [.sign separator] ((a :: as).map write)) := by
      have ha := hbegin a List.mem_cons_self
      cases as with
      | nil => rwa [List.map_singleton, List.intercalate_singleton]
      | cons b bs =>
        rw [List.map_cons, List.map_cons, List.intercalate_cons_cons, List.append_assoc]
        exact ha.append _
    simp only [enclosed, hopen.expect?_eq_none, hlist, expect?_cons, Option.bind_eq_bind,
      Option.bind_some]

end Lists

/-! ## Types inside of others -/

/-- The signs that go on with a type. -/
def typeStops : List Char := ['|', '&', '[', '<']

/-- A parser recovers every legible type of less than so many tokens. -/
def Knows (mayCall : String → Bool) (inner : Parser TypeExpr) (most : Nat) : Prop :=
  ∀ t : TypeExpr, t.isLegible mayCall = true → t.tokens.length < most →
    Recovers TypeExpr.normal inner typeStops t.tokens t

section Inner

variable {mayCall : String → Bool} {inner : Parser TypeExpr} {most : Nat}

theorem isLegible_of_mem {types : List TypeExpr} (h : TypeExpr.areLegible mayCall types = true) :
    ∀ t ∈ types, t.isLegible mayCall = true := by
  induction types with
  | nil => exact fun t ht => absurd ht List.not_mem_nil
  | cons t ts ih =>
    obtain ⟨ht, hts⟩ := Bool.and_eq_true_iff.mp h
    exact List.forall_mem_cons.mpr ⟨ht, ih hts⟩

theorem isLegibleParam_of_mem {ps : List (Param TypeExpr)}
    (h : TypeExpr.areLegibleParams mayCall ps = true) :
    ∀ p ∈ ps, TypeExpr.isLegibleParam mayCall p = true := by
  induction ps with
  | nil => exact fun p hp => absurd hp List.not_mem_nil
  | cons p ps ih =>
    obtain ⟨hp, hps⟩ := Bool.and_eq_true_iff.mp h
    exact List.forall_mem_cons.mpr ⟨hp, ih hps⟩

theorem isLegibleMember_of_mem {members : List (Member TypeExpr)}
    (h : TypeExpr.areLegibleMembers mayCall members = true) :
    ∀ m ∈ members, TypeExpr.isLegibleMember mayCall m = true := by
  induction members with
  | nil => exact fun m hm => absurd hm List.not_mem_nil
  | cons m ms ih =>
    obtain ⟨hm, hms⟩ := Bool.and_eq_true_iff.mp h
    exact List.forall_mem_cons.mpr ⟨hm, ih hms⟩

theorem beginsApart_tokens {t : TypeExpr} (h : t.isLegible mayCall = true) : BeginsApart '>' t.tokens := by
  obtain ⟨first, more, heq, hopens, -⟩ := TypeExpr.leads_tokens t h [] (fun _ hnil => nomatch hnil)
  rw [List.append_nil] at heq
  refine ⟨first, by rw [heq]; rfl, ?_⟩
  rintro rfl
  cases hopens

theorem Knows.recovers_args (hinner : Knows mayCall inner most) {args : List TypeExpr}
    (hargs : TypeExpr.areLegible mayCall args = true)
    (hlength : (List.intercalate [.sign ','] (TypeExpr.tokensAll args)).length < most) :
    ∃ taken, (∀ rest, enclosed (.sign ',') (.sign '>') inner
        (List.intercalate [.sign ','] (TypeExpr.tokensAll args) ++ .sign '>' :: rest) =
          some (taken, rest)) ∧
      TypeExpr.normalAll taken = TypeExpr.normalAll args := by
  rw [TypeExpr.tokensAll_eq_map] at *
  simp only [TypeExpr.normalAll_eq_map]
  have hall : ∀ t ∈ args, Recovers TypeExpr.normal inner typeStops t.tokens t :=
    fun t ht => hinner t (isLegible_of_mem hargs t ht)
      (Nat.lt_of_le_of_lt (length_le_intercalate (List.mem_map_of_mem ht)) hlength)
  exact recovers_enclosed (by decide) (by decide) hall fun t ht =>
    beginsApart_tokens (isLegible_of_mem hargs t ht)

theorem Knows.recovers_param (hinner : Knows mayCall inner most) (p : Param TypeExpr)
    (hp : TypeExpr.isLegibleParam mayCall p = true) (hlength : (TypeExpr.tokensParam p).length ≤ most) :
    Recovers TypeExpr.normalParam (param inner) typeStops (TypeExpr.tokensParam p) p := by
  obtain ⟨name, type, optional, rest⟩ := p
  obtain ⟨hname, htype⟩ := Bool.and_eq_true_iff.mp hp
  have hshort : type.tokens.length < most := by
    simp [TypeExpr.tokensParam] at hlength
    omega
  obtain ⟨r, hr, hnormal⟩ := hinner type htype hshort
  refine ⟨⟨name, r, optional, rest⟩, fun behind hbehind => ?_, ?_⟩
  · have hread := hr behind hbehind
    cases rest <;> cases optional <;>
      simp [TypeExpr.tokensParam, optionally, param, namedParam, hread, hname]
  · simp only [TypeExpr.normalParam, hnormal]

theorem beginsApart_tokensParam (p : Param TypeExpr) : BeginsApart ')' (TypeExpr.tokensParam p) := by
  obtain ⟨name, type, optional, _ | _⟩ := p
  · exact ⟨.word name, rfl, by simp⟩
  · exact ⟨.ellipsis, rfl, by simp⟩

theorem Knows.recovers_params (hinner : Knows mayCall inner most) {ps : List (Param TypeExpr)}
    (hps : TypeExpr.areLegibleParams mayCall ps = true)
    (hlength : (List.intercalate [.sign ','] (TypeExpr.tokensParams ps)).length ≤ most) :
    ∃ taken, (∀ rest, params inner
        (List.intercalate [.sign ','] (TypeExpr.tokensParams ps) ++ .sign ')' :: rest) =
          some (taken, rest)) ∧
      TypeExpr.normalParams taken = TypeExpr.normalParams ps := by
  rw [TypeExpr.tokensParams_eq_map] at *
  simp only [TypeExpr.normalParams_eq_map]
  have hall : ∀ p ∈ ps, Recovers TypeExpr.normalParam (param inner) typeStops (TypeExpr.tokensParam p) p :=
    fun p hp => hinner.recovers_param p (isLegibleParam_of_mem hps p hp)
      (Nat.le_trans (length_le_intercalate (List.mem_map_of_mem hp)) hlength)
  exact recovers_enclosed (by decide) (by decide) hall fun p _ => beginsApart_tokensParam p

/-- A key goes before its member, if the two are not a construct signature. -/
theorem member_keyToken {key : String} {ts : List Token} (h : isConstruct key ts = false) :
    member inner (keyToken key :: ts) = keyedMember inner key ts := by
  unfold keyToken
  cases hform : Text.keyForm key with
  | bare =>
    have hidentifier : Text.isIdentifier key = true := by
      unfold Text.keyForm at hform
      split at hform
      · assumption
      · cases hform
    simp [member, hidentifier, h]
  | quoted => simp [member]

theorem Knows.recovers_member (hinner : Knows (· != constructWord) inner most) (m : Member TypeExpr)
    (hm : TypeExpr.isLegibleMember (· != constructWord) m = true)
    (hlength : (TypeExpr.tokensMember m).length ≤ most) :
    Recovers TypeExpr.normalMember (member inner) typeStops (TypeExpr.tokensMember m) m := by
  cases m with
  | property name type optional doc =>
    have hshort : type.tokens.length < most := by
      simp [TypeExpr.tokensMember] at hlength
      omega
    obtain ⟨r, hr, hnormal⟩ := hinner type hm hshort
    refine ⟨.property name r optional .none, fun rest hrest => ?_, ?_⟩
    · have hread := hr rest hrest
      cases optional <;>
        simp [TypeExpr.tokensMember, optionally, member_keyToken, isConstruct, keyedMember, hread]
    · simp only [TypeExpr.normalMember, hnormal]
  | method name ps returns doc =>
    obtain ⟨hname, hsignature⟩ := Bool.and_eq_true_iff.mp hm
    obtain ⟨hps, hreturns⟩ := Bool.and_eq_true_iff.mp hsignature
    simp [TypeExpr.tokensMember] at hlength
    obtain ⟨r, hr, hnormal⟩ := hinner returns hreturns (by omega)
    obtain ⟨taken, htaken, himages⟩ := hinner.recovers_params hps (by omega)
    refine ⟨.method name taken r .none, fun rest hrest => ?_, ?_⟩
    · have hread := hr rest hrest
      have hword : ¬name = constructWord := by simpa using hname
      simp [TypeExpr.tokensMember, member_keyToken, isConstruct, hword, keyedMember, htaken, hread]
    · simp only [TypeExpr.normalMember, hnormal, himages]
  | index key value =>
    obtain ⟨hkey, hvalue⟩ := Bool.and_eq_true_iff.mp hm
    have hshort : value.tokens.length < most := by
      simp [TypeExpr.tokensMember] at hlength
      omega
    obtain ⟨r, hr, hnormal⟩ := hinner value hvalue hshort
    refine ⟨.index key r, fun rest hrest => ?_, ?_⟩
    · have hread := hr rest hrest
      simp [TypeExpr.tokensMember, member, hkey, hread]
    · simp only [TypeExpr.normalMember, hnormal]

theorem beginsApart_tokensMember (m : Member TypeExpr) : BeginsApart '\x7d' (TypeExpr.tokensMember m) := by
  have hkey : ∀ name, keyToken name ≠ .sign '\x7d' := by
    intro name
    unfold keyToken
    split <;> simp
  cases m with
  | property name type optional doc => exact ⟨keyToken name, rfl, hkey name⟩
  | method name ps returns doc => exact ⟨keyToken name, rfl, hkey name⟩
  | index key value => exact ⟨.sign '[', rfl, by simp⟩

theorem Knows.recovers_members (hinner : Knows (· != constructWord) inner most)
    {members : List (Member TypeExpr)}
    (hmembers : TypeExpr.areLegibleMembers (· != constructWord) members = true)
    (hlength : (List.intercalate [.sign ';'] (TypeExpr.tokensMembers members)).length ≤ most) :
    ∃ taken, (∀ rest, enclosed (.sign ';') (.sign '\x7d') (member inner)
        (List.intercalate [.sign ';'] (TypeExpr.tokensMembers members) ++ .sign '\x7d' :: rest) =
          some (taken, rest)) ∧
      TypeExpr.normalMembers taken = TypeExpr.normalMembers members := by
  rw [TypeExpr.tokensMembers_eq_map] at *
  simp only [TypeExpr.normalMembers_eq_map]
  have hall : ∀ m ∈ members,
      Recovers TypeExpr.normalMember (member inner) typeStops (TypeExpr.tokensMember m) m :=
    fun m hm => hinner.recovers_member m (isLegibleMember_of_mem hmembers m hm)
      (Nat.le_trans (length_le_intercalate (List.mem_map_of_mem hm)) hlength)
  exact recovers_enclosed (by decide) (by decide) hall fun m _ => beginsApart_tokensMember m

end Inner

end SchemaTypings.Reading
