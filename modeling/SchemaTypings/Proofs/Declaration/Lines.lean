import SchemaTypings.Proofs.Declaration.Confinement

/-!
# Declarations line by line

The text of a declaration is laid out from lines, and each of them has to be one. Most of what stands in a line
cannot break it: keywords, numbers and signs have no line feed, string literals and property keys escape it, and
documentation is cut at it. What remains are the names that are printed as they are.

* `Text.OneLine`: a text without a line feed.
* `TypeExpr.names`, `Declaration.names`: the names that are printed as they are.
* `TypeExpr.oneLine_write`: a type is printed on one line if its names are.
* `Declaration.oneLine_of_mem_lines`: so is each line of a declaration.
-/

namespace SchemaTypings

namespace Text

/-! ## Texts on one line -/

/-- The text has no line feed. -/
def OneLine (text : String) : Prop := '\n' ∉ text.toList

instance (text : String) : Decidable (OneLine text) :=
  inferInstanceAs (Decidable ('\n' ∉ text.toList))

variable {first second separator : String} {texts : List String}

theorem OneLine.append (h : OneLine first) (hsecond : OneLine second) : OneLine (first ++ second) := by
  rw [OneLine, String.toList_append]
  exact fun hmem => (List.mem_append.mp hmem).elim h hsecond

theorem oneLine_ofList {chars : List Char} (h : '\n' ∉ chars) : OneLine (String.ofList chars) := by
  rwa [OneLine, String.toList_ofList]

theorem OneLine.intercalate (hs : OneLine separator) (h : ∀ text ∈ texts, OneLine text) :
    OneLine (String.intercalate separator texts) := by
  induction texts with
  | nil => exact List.not_mem_nil
  | cons text rest ih =>
    have htext := h text List.mem_cons_self
    cases rest with
    | nil => rwa [String.intercalate_singleton]
    | cons next rest =>
      rw [String.intercalate_cons_cons]
      exact (htext.append hs).append (ih fun other hother => h other (List.mem_cons_of_mem text hother))

theorem not_lineFeed_toDigits (n : Nat) : '\n' ∉ Nat.toDigits 10 n := by
  intro hmem
  have hdigit := Nat.isDigit_of_mem_toDigits (by decide) (by decide) hmem
  exact absurd hdigit (by decide)

/-- In a literal a line feed is escaped. -/
theorem not_lineFeed_literalChar (c : Char) : '\n' ∉ literalChar c := by
  unfold literalChar
  split_ifs with hbackslash hquote hfeed hreturn
  · decide
  · decide
  · decide
  · decide
  · exact fun hmem => hfeed (List.mem_singleton.mp hmem).symm

theorem oneLine_stringLiteral (s : String) : OneLine (stringLiteral s) := by
  have hbody : OneLine (escapeLiteral s) := by
    refine oneLine_ofList fun hmem => ?_
    obtain ⟨c, -, hc⟩ := List.mem_flatMap.mp hmem
    exact not_lineFeed_literalChar c hc
  exact (OneLine.append (by decide) hbody).append (by decide)

theorem oneLine_of_isIdentifier {name : String} (h : isIdentifier name = true) : OneLine name := by
  intro hmem
  unfold isIdentifier at h
  split at h
  · cases h
  next c rest hname =>
    rw [hname] at hmem
    have hall := (Bool.and_eq_true_iff.mp h).2
    exact absurd (List.all_eq_true.mp hall '\n' hmem) (by decide)

/-- What is no identifier is written as a literal. -/
theorem oneLine_propertyKey (name : String) : OneLine (propertyKey name) := by
  by_cases h : isIdentifier name = true
  · rw [propertyKey, keyForm, if_pos h]
    exact oneLine_of_isIdentifier h
  · rw [propertyKey, keyForm, if_neg h]
    exact oneLine_stringLiteral name

end Text

open Text (OneLine)

/-! ## Constants -/

theorem Keyword.oneLine_write (k : Keyword) : OneLine k.write := by
  cases k <;> decide

theorem Layout.oneLine_zeros (n : Nat) : OneLine (zeros n) :=
  Text.oneLine_ofList fun hmem => absurd (List.mem_replicate.mp hmem).2 (by decide)

theorem Layout.oneLine_writePositional {digits : List Char} (h : '\n' ∉ digits) (exponent : Int) :
    OneLine (literal.writePositional digits exponent) := by
  have hpart : ∀ {part : List Char}, part <:+: digits → OneLine (String.ofList part) :=
    fun hpart => Text.oneLine_ofList fun hmem => h (hpart.subset hmem)
  unfold writePositional
  dsimp only
  split
  · have hwhole : OneLine (if literal.wholeFraction then ".0" else "") := by decide
    exact ((hpart List.infix_rfl).append (oneLine_zeros exponent.toNat)).append hwhole
  · split
    · have hlead := hpart (List.take_prefix (digits.length - (-exponent).toNat) digits).isInfix
      have hrest := hpart (List.drop_suffix (digits.length - (-exponent).toNat) digits).isInfix
      exact (hlead.append (by decide)).append hrest
    · have hlead : OneLine ("0." ++ zeros ((-exponent).toNat - digits.length)) :=
        OneLine.append (by decide) (oneLine_zeros _)
      exact hlead.append (hpart List.infix_rfl)

/-- A numeric literal type is written positionally. -/
theorem Layout.oneLine_write (x : Binary64) : OneLine (literal.write x) := by
  have hpositional := oneLine_writePositional
    (Text.not_lineFeed_toDigits (x.shortest literal.halfway).digits)
    (x.shortest literal.halfway).exponent
  unfold write
  refine OneLine.append ?_ hpositional
  split_ifs <;> decide

theorem oneLine_toString (n : Int) : OneLine (toString n) := by
  cases n with
  | ofNat n =>
    have htext : (toString (Int.ofNat n)).toList = Nat.toDigits 10 n := Nat.toList_repr
    rw [OneLine, htext]
    exact Text.not_lineFeed_toDigits n
  | negSucc n =>
    have hdigits : OneLine (n + 1).repr := by
      rw [OneLine, Nat.toList_repr]
      exact Text.not_lineFeed_toDigits (n + 1)
    have hsign : OneLine "-" := by decide
    exact hsign.append hdigits

theorem Literal.oneLine_write (l : Literal) : OneLine l.write := by
  cases l with
  | string value => exact Text.oneLine_stringLiteral value
  | integer value => exact oneLine_toString value
  | number value => exact Layout.oneLine_write value
  | bool value => cases value <;> decide

/-! ## Comments -/

namespace DocComment

/-- The names of the parameters, which a comment shows as they are. -/
def names (doc : DocComment) : List String := doc.params.map (·.1)

variable {doc : DocComment}

theorem oneLine_of_mem_content (h : ∀ name ∈ doc.names, OneLine name) {line : String}
    (hline : line ∈ doc.content) : OneLine line :=
  not_lineFeed_content (fun _ hp => h _ (List.mem_map_of_mem hp)) hline

theorem oneLine_starLine {line : String} (h : OneLine line) : OneLine (starLine line) := by
  unfold starLine
  split_ifs
  · decide
  · exact OneLine.append (by decide) h

theorem oneLine_of_mem_lines (h : ∀ name ∈ doc.names, OneLine name) :
    ∀ line ∈ doc.lines, OneLine line := by
  have hcontent : ∀ line ∈ doc.content, OneLine line := fun _ => oneLine_of_mem_content h
  cases hempty : doc.isEmpty with
  | true =>
    rw [lines_of_isEmpty hempty]
    exact List.forall_mem_nil _
  | false =>
    rcases lines_cases hempty with ⟨single, hsingle, hlines⟩ | hlines
    · have hline : OneLine single := hcontent single (hsingle ▸ List.mem_cons_self)
      rw [hlines]
      exact List.forall_mem_singleton.mpr ((OneLine.append (by decide) hline).append (by decide))
    · have hstars : ∀ line ∈ doc.content.map starLine, OneLine line := by
        intro line hline
        obtain ⟨source, hsource, rfl⟩ := List.mem_map.mp hline
        exact oneLine_starLine (hcontent source hsource)
      rw [hlines]
      exact List.forall_mem_cons.mpr ⟨by decide,
        List.forall_mem_append.mpr ⟨hstars, List.forall_mem_singleton.mpr (by decide)⟩⟩

theorem oneLine_of_inlineText? (h : ∀ name ∈ doc.names, OneLine name) {remark : String}
    (hremark : doc.inlineText? = some remark) : OneLine remark := by
  unfold inlineText? at hremark
  split at hremark
  · cases hremark
  · cases hremark
    have hcontent : OneLine (String.intercalate " " doc.content) :=
      OneLine.intercalate (by decide) fun _ => oneLine_of_mem_content h
    exact (OneLine.append (by decide) hcontent).append (by decide)

end DocComment

/-! ## Types -/

namespace TypeExpr

mutual

/-- The names in a type that are printed as they are. -/
def names : TypeExpr → List String
  | .keyword _ | .literal _ => []
  | .array item => names item
  | .union types => namesAll types
  | .intersection types => namesAll types
  | .object members => namesMembers members
  | .function params returns => namesParams params ++ names returns
  | .reference name => [name]
  | .generic name args => name :: namesAll args
  | .query name => [name]
  | .documented doc type => doc.names ++ names type

/-- The names in types. -/
def namesAll : List TypeExpr → List String
  | [] => []
  | t :: ts => names t ++ namesAll ts

/-- The names in parameters, with their own. -/
def namesParams : List (Param TypeExpr) → List String
  | [] => []
  | p :: ps => namesParam p ++ namesParams ps

/-- The names in a parameter, with its own. -/
def namesParam : Param TypeExpr → List String
  | ⟨name, type, _, _⟩ => name :: names type

/-- The names in members. -/
def namesMembers : List (Member TypeExpr) → List String
  | [] => []
  | m :: ms => namesMember m ++ namesMembers ms

/-- The names in a member; that of a property or a method is escaped. -/
def namesMember : Member TypeExpr → List String
  | .property _ type _ _ => names type
  | .method _ params returns _ => namesParams params ++ names returns
  | .index key value => key :: names value

end

variable {text : String}

theorem oneLine_group {grouped : Bool} (h : OneLine text) : OneLine (group grouped text) := by
  unfold group
  split_ifs
  · exact (OneLine.append (by decide) h).append (by decide)
  · exact h

theorem oneLine_mark {on : Bool} (h : OneLine text) : OneLine (mark on text) := by
  unfold mark
  split_ifs
  · exact h
  · decide

mutual

/-- **A type is printed on one line** if the names in it are. The induction is on the type, with a statement for
each of the lists in it. -/
theorem oneLine_write : ∀ t : TypeExpr, (∀ name ∈ t.names, OneLine name) → OneLine t.write
  | .keyword k, _ => k.oneLine_write
  | .literal l, _ => l.oneLine_write
  | .array item, h => (oneLine_group (oneLine_write item h)).append (by decide)
  | .union [], _ => by decide
  | .union (t :: ts), h =>
    OneLine.intercalate (by decide) (oneLine_of_mem_writeGrouped groupedInUnion (t :: ts) h)
  | .intersection ts, h =>
    OneLine.intercalate (by decide) (oneLine_of_mem_writeGrouped groupedInIntersection ts h)
  | .object [], _ => by decide
  | .object (m :: ms), h => by
    have hmembers : OneLine (String.intercalate "; " (writeMembers (m :: ms))) :=
      OneLine.intercalate (by decide) (oneLine_of_mem_writeMembers (m :: ms) h)
    exact (OneLine.append (by decide) hmembers).append (by decide)
  | .function params returns, h => by
    obtain ⟨hparams, hreturns⟩ := List.forall_mem_append.mp h
    have hlist : OneLine (String.intercalate ", " (writeParams params)) :=
      OneLine.intercalate (by decide) (oneLine_of_mem_writeParams params hparams)
    exact ((OneLine.append (by decide) hlist).append (by decide)).append (oneLine_write returns hreturns)
  | .reference name, h => h name List.mem_cons_self
  | .generic name args, h => by
    obtain ⟨hname, hargs⟩ := List.forall_mem_cons.mp h
    have hlist : OneLine (String.intercalate ", " (writeAll args)) :=
      OneLine.intercalate (by decide) (oneLine_of_mem_writeAll args hargs)
    exact ((hname.append (by decide)).append hlist).append (by decide)
  | .query name, h => OneLine.append (by decide) (h name List.mem_cons_self)
  | .documented doc type, h => by
    obtain ⟨hdoc, htype⟩ := List.forall_mem_append.mp h
    have hrest := oneLine_write type htype
    rw [write]
    split
    next remark hremark =>
      exact ((DocComment.oneLine_of_inlineText? hdoc hremark).append (by decide)).append hrest
    next => exact hrest

theorem oneLine_of_mem_writeAll : ∀ types : List TypeExpr, (∀ name ∈ namesAll types, OneLine name) →
    ∀ text ∈ writeAll types, OneLine text
  | [], _ => List.forall_mem_nil _
  | t :: ts, h => by
    obtain ⟨hfirst, hrest⟩ := List.forall_mem_append.mp h
    exact List.forall_mem_cons.mpr ⟨oneLine_write t hfirst, oneLine_of_mem_writeAll ts hrest⟩

theorem oneLine_of_mem_writeGrouped (grouped : TypeExpr → Bool) : ∀ types : List TypeExpr,
    (∀ name ∈ namesAll types, OneLine name) → ∀ text ∈ writeGrouped grouped types, OneLine text
  | [], _ => List.forall_mem_nil _
  | t :: ts, h => by
    obtain ⟨hfirst, hrest⟩ := List.forall_mem_append.mp h
    exact List.forall_mem_cons.mpr
      ⟨oneLine_group (oneLine_write t hfirst), oneLine_of_mem_writeGrouped grouped ts hrest⟩

theorem oneLine_of_mem_writeParams : ∀ params : List (Param TypeExpr),
    (∀ name ∈ namesParams params, OneLine name) → ∀ text ∈ writeParams params, OneLine text
  | [], _ => List.forall_mem_nil _
  | p :: ps, h => by
    obtain ⟨hfirst, hrest⟩ := List.forall_mem_append.mp h
    exact List.forall_mem_cons.mpr ⟨oneLine_writeParam p hfirst, oneLine_of_mem_writeParams ps hrest⟩

theorem oneLine_writeParam : ∀ p : Param TypeExpr, (∀ name ∈ namesParam p, OneLine name) →
    OneLine (writeParam p)
  | ⟨name, type, optional, rest⟩, h => by
    obtain ⟨hname, htype⟩ := List.forall_mem_cons.mp h
    have hlead : OneLine (mark rest "..." ++ name ++ mark optional "?") :=
      ((oneLine_mark (by decide)).append hname).append (oneLine_mark (by decide))
    exact (hlead.append (by decide)).append (oneLine_write type htype)

theorem oneLine_of_mem_writeMembers : ∀ members : List (Member TypeExpr),
    (∀ name ∈ namesMembers members, OneLine name) → ∀ text ∈ writeMembers members, OneLine text
  | [], _ => List.forall_mem_nil _
  | m :: ms, h => by
    obtain ⟨hfirst, hrest⟩ := List.forall_mem_append.mp h
    exact List.forall_mem_cons.mpr ⟨oneLine_writeMember m hfirst, oneLine_of_mem_writeMembers ms hrest⟩

theorem oneLine_writeMember : ∀ m : Member TypeExpr, (∀ name ∈ namesMember m, OneLine name) →
    OneLine (writeMember m)
  | .property name type optional _, h => by
    have hlead : OneLine (Text.propertyKey name ++ mark optional "?") :=
      (Text.oneLine_propertyKey name).append (oneLine_mark (by decide))
    exact (hlead.append (by decide)).append (oneLine_write type h)
  | .method name params returns _, h => by
    obtain ⟨hparams, hreturns⟩ := List.forall_mem_append.mp h
    have hlist : OneLine (String.intercalate ", " (writeParams params)) :=
      OneLine.intercalate (by decide) (oneLine_of_mem_writeParams params hparams)
    have hlead : OneLine (Text.propertyKey name ++ "(") :=
      (Text.oneLine_propertyKey name).append (by decide)
    exact ((hlead.append hlist).append (by decide)).append (oneLine_write returns hreturns)
  | .index key value, h => by
    obtain ⟨hkey, hvalue⟩ := List.forall_mem_cons.mp h
    exact ((OneLine.append (by decide) hkey).append (by decide)).append (oneLine_write value hvalue)

end

end TypeExpr

/-! ## Declarations -/

namespace Member

/-- The names in the member of an interface, with those in its comment. -/
def names (m : Member TypeExpr) : List String := m.doc.names ++ TypeExpr.namesMember m

theorem oneLine_of_mem_lines {m : Member TypeExpr} (h : ∀ name ∈ m.names, OneLine name) :
    ∀ line ∈ m.lines, OneLine line := by
  obtain ⟨hdoc, hmember⟩ := List.forall_mem_append.mp h
  have hline : OneLine (m.write ++ ";") :=
    (TypeExpr.oneLine_writeMember m hmember).append (by decide)
  exact List.forall_mem_append.mpr
    ⟨DocComment.oneLine_of_mem_lines hdoc, List.forall_mem_singleton.mpr hline⟩

end Member

namespace Declaration

mutual

/-- The names in a declaration that are printed as they are. -/
def names : Declaration → List String
  | ⟨name, _, _, doc, body⟩ => name :: (doc.names ++ bodyNames body)

/-- The names in what is declared. -/
def bodyNames : DeclarationBody Declaration → List String
  | .interface typeParams members => typeParams ++ members.flatMap Member.names
  | .alias type => type.names
  | .function params returns => TypeExpr.namesParams params ++ returns.names
  | .const type => type.names
  | .exportAlias target => [target]
  | .importAlias target => [target]
  | .namespace body => allNames body

/-- The names in several declarations. -/
def allNames : List Declaration → List String
  | [] => []
  | d :: ds => names d ++ allNames ds

end

theorem oneLine_of_mem_braced {head : String} {lines : List String} (hhead : OneLine head)
    (h : ∀ line ∈ lines, OneLine line) : ∀ line ∈ braced head lines, OneLine line := by
  intro line hline
  unfold braced at hline
  split at hline
  · obtain rfl := List.mem_singleton.mp hline
    exact hhead.append (by decide)
  · simp only [List.mem_append, List.mem_singleton, List.mem_map] at hline
    rcases hline with (rfl | ⟨source, hsource, rfl⟩) | rfl
    · exact hhead.append (by decide)
    · exact OneLine.append (by decide) (h source hsource)
    · decide

theorem oneLine_writeTypeParams {typeParams : List String} (h : ∀ name ∈ typeParams, OneLine name) :
    OneLine (writeTypeParams typeParams) := by
  unfold writeTypeParams
  split_ifs
  · decide
  · exact (OneLine.append (by decide) (OneLine.intercalate (by decide) h)).append (by decide)

theorem oneLine_writeList {params : List (Param TypeExpr)}
    (h : ∀ name ∈ TypeExpr.namesParams params, OneLine name) : OneLine (Param.writeList params) := by
  have hlist : OneLine (String.intercalate ", " (TypeExpr.writeParams params)) :=
    OneLine.intercalate (by decide) (TypeExpr.oneLine_of_mem_writeParams params h)
  exact (OneLine.append (by decide) hlist).append (by decide)

mutual

/-- **The lines of a declaration are lines** if the names in it are. The induction is on the declaration. -/
theorem oneLine_of_mem_lines : ∀ d : Declaration, (∀ name ∈ d.names, OneLine name) →
    ∀ line ∈ d.lines, OneLine line
  | ⟨name, exported, declared, doc, body⟩, h => by
    obtain ⟨hname, hrest⟩ := List.forall_mem_cons.mp h
    obtain ⟨hdoc, hbody⟩ := List.forall_mem_append.mp hrest
    have hmodifiers : OneLine
        (TypeExpr.mark exported "export " ++ TypeExpr.mark declared "declare ") :=
      (TypeExpr.oneLine_mark (by decide)).append (TypeExpr.oneLine_mark (by decide))
    exact List.forall_mem_append.mpr ⟨DocComment.oneLine_of_mem_lines hdoc,
      oneLine_of_mem_bodyLines hname hmodifiers body hbody⟩

theorem oneLine_of_mem_bodyLines {name modifiers : String} (hname : OneLine name)
    (hmodifiers : OneLine modifiers) : ∀ body : DeclarationBody Declaration,
      (∀ n ∈ bodyNames body, OneLine n) → ∀ line ∈ bodyLines name modifiers body, OneLine line
  | .interface typeParams members, h => by
    obtain ⟨htypeParams, hmembers⟩ := List.forall_mem_append.mp h
    have hhead : OneLine (modifiers ++ "interface " ++ name ++ writeTypeParams typeParams) :=
      ((hmodifiers.append (by decide)).append hname).append (oneLine_writeTypeParams htypeParams)
    refine oneLine_of_mem_braced hhead fun line hline => ?_
    obtain ⟨m, hm, hline⟩ := List.mem_flatMap.mp hline
    exact Member.oneLine_of_mem_lines
      (fun n hn => hmembers n (List.mem_flatMap.mpr ⟨m, hm, hn⟩)) line hline
  | .alias type, h => List.forall_mem_singleton.mpr <| by
    have hlead : OneLine (modifiers ++ "type " ++ name) := (hmodifiers.append (by decide)).append hname
    exact ((hlead.append (by decide)).append (type.oneLine_write h)).append (by decide)
  | .function params returns, h => List.forall_mem_singleton.mpr <| by
    obtain ⟨hparams, hreturns⟩ := List.forall_mem_append.mp h
    have hlead : OneLine (modifiers ++ "function " ++ name ++ Param.writeList params) :=
      ((hmodifiers.append (by decide)).append hname).append (oneLine_writeList hparams)
    exact ((hlead.append (by decide)).append (returns.oneLine_write hreturns)).append (by decide)
  | .const type, h => List.forall_mem_singleton.mpr <| by
    have hlead : OneLine (modifiers ++ "const " ++ name) := (hmodifiers.append (by decide)).append hname
    exact ((hlead.append (by decide)).append (type.oneLine_write h)).append (by decide)
  | .exportAlias target, h => List.forall_mem_singleton.mpr <| by
    have hlead : OneLine ("export \x7b " ++ target) :=
      OneLine.append (by decide) (h target List.mem_cons_self)
    exact ((hlead.append (by decide)).append hname).append (by decide)
  | .importAlias target, h => List.forall_mem_singleton.mpr <| by
    have hlead : OneLine (modifiers ++ "import " ++ name) := (hmodifiers.append (by decide)).append hname
    exact ((hlead.append (by decide)).append (h target List.mem_cons_self)).append (by decide)
  | .namespace body, h =>
    oneLine_of_mem_braced ((hmodifiers.append (by decide)).append hname)
      (oneLine_of_mem_allLines body h)

theorem oneLine_of_mem_allLines : ∀ ds : List Declaration, (∀ name ∈ allNames ds, OneLine name) →
    ∀ line ∈ allLines ds, OneLine line
  | [], _ => List.forall_mem_nil _
  | d :: ds, h => by
    obtain ⟨hfirst, hrest⟩ := List.forall_mem_append.mp h
    exact List.forall_mem_append.mpr ⟨oneLine_of_mem_lines d hfirst, oneLine_of_mem_allLines ds hrest⟩

end

end Declaration

end SchemaTypings
