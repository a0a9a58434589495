import Mathlib.Data.List.Basic
import SchemaTypings.Declaration.Printer
import SchemaTypings.Proofs.Text.StringValue
import SchemaTypings.Typing.Literal

/-!
# What literal types denote

A string, a boolean and an integer of 64 bits each have a type of their own, which is written as a literal. Read
again, the literal is that value: integers are decimal with a sign in front, strings are those of
`Text.stringValue?`.

* `literalValue?`: the value of a literal.
* `literals_denote`: literals, property keys and the literal types of constants and choices mean what they
  were written for.
-/

namespace SchemaTypings

/-- The value of a literal. -/
inductive LiteralValue where
  | text (units : List Nat)
  | integer (value : Int)
  | bool (value : Bool)
deriving DecidableEq

/-- The value of decimal digits; only zero begins with a zero. -/
def naturalValue? (digits : List Char) : Option Nat :=
  if digits = [] ∨ (digits.head? = some '0' ∧ digits ≠ ['0']) then none
  else if digits.all Char.isDigit then some (Nat.ofDigitChars 10 digits 0)
  else none

/-- The value of an integer, with its sign. -/
def integerValue? : List Char → Option Int
  | '-' :: digits => (naturalValue? digits).map fun n => -(n : Int)
  | digits => (naturalValue? digits).map fun n => (n : Int)

/-- The value of a text that is exactly one literal. -/
def literalValue? (text : String) : Option LiteralValue :=
  if text = "true" then some (.bool true)
  else if text = "false" then some (.bool false)
  else match integerValue? text.toList with
    | some n => some (.integer n)
    | none => (Text.stringValue? text).map .text

/-! ## Integers -/

/-- The digits of a number begin with a zero only if the number is zero. -/
theorem head?_toDigits {n : Nat} (h : (Nat.toDigits 10 n).head? = some '0') : n = 0 := by
  induction n using Nat.strongRecOn with
  | ind n ih =>
    rw [Nat.toDigits_eq_if (by decide)] at h
    split at h
    next hsmall =>
      have hcode := Nat.toNat_digitChar_of_lt_ten hsmall
      rw [Option.some.inj h] at hcode
      have hzero : '0'.toNat = 48 := rfl
      omega
    next hlarge =>
      rw [List.head?_append_of_ne_nil _ Nat.toDigits_ne_nil] at h
      have hrest := ih (n / 10) (by omega) h
      omega

theorem naturalValue?_toDigits (n : Nat) : naturalValue? (Nat.toDigits 10 n) = some n := by
  have hdigits : (Nat.toDigits 10 n).all Char.isDigit = true := List.all_eq_true.mpr fun c hc =>
    Nat.isDigit_of_mem_toDigits (by decide) (by decide) hc
  have hlead : ¬(Nat.toDigits 10 n = [] ∨
      ((Nat.toDigits 10 n).head? = some '0' ∧ Nat.toDigits 10 n ≠ ['0'])) := by
    rintro (hnil | ⟨hhead, hzero⟩)
    · exact Nat.toDigits_ne_nil hnil
    · rw [head?_toDigits hhead] at hzero
      exact hzero (Nat.toDigits_zero 10)
  rw [naturalValue?, if_neg hlead, if_pos hdigits, Nat.ofDigitChars_ten_toDigits]

theorem integerValue?_toString (n : Int) : integerValue? (toString n).toList = some n := by
  cases n with
  | ofNat n =>
    have htext : (toString (Int.ofNat n)).toList = Nat.toDigits 10 n := Nat.toList_repr
    have hminus : ∀ digits, Nat.toDigits 10 n ≠ '-' :: digits := fun digits h => by
      have hminus := Nat.isDigit_of_mem_toDigits (by decide) (by decide) (h ▸ List.mem_cons_self)
      exact absurd hminus (by decide)
    rw [htext, integerValue?.eq_2 _ hminus, naturalValue?_toDigits]
    rfl
  | negSucc n =>
    have htext : (toString (Int.negSucc n)).toList = '-' :: Nat.toDigits 10 (n + 1) := by
      show ("-" ++ (n + 1).repr).toList = _
      rw [String.toList_append, Nat.toList_repr]
      rfl
    rw [htext, integerValue?, naturalValue?_toDigits]
    rfl

/-! ## Literals -/

/-- A string literal is no integer. -/
theorem integerValue?_stringLiteral (s : String) :
    integerValue? (Text.stringLiteral s).toList = none := by
  have htext : ∃ rest, (Text.stringLiteral s).toList = '"' :: rest := by
    rw [Text.stringLiteral, String.toList_append, String.toList_append]
    exact ⟨_, rfl⟩
  obtain ⟨rest, htext⟩ := htext
  rw [htext, integerValue?.eq_2 _ (by simp), naturalValue?]
  rw [if_neg (by simp)]
  simp

/-- A value with a literal type. -/
inductive Constant where
  | text (value : String)
  | bool (value : Bool)
  | integer (value : Int64)

namespace Constant

/-- The value in a schema. -/
def toJson : Constant → Json
  | text value => .text value
  | bool value => .bool value
  | integer value => .number (.integer value.toInt)

/-- The value in a program. -/
def value : Constant → LiteralValue
  | text value => .text (Text.units value)
  | bool value => .bool value
  | integer value => .integer value.toInt

/-- The literal for a value. -/
def literal : Constant → Literal
  | text value => .string value
  | bool value => .bool value
  | integer value => .integer value.toInt

theorem literalType?_toJson (c : Constant) : c.toJson.literalType? = some (.literal c.literal) := by
  cases c with
  | text value => rfl
  | bool value => rfl
  | integer value =>
    have hbound : value.toInt < JsonNumber.signedBound := value.toInt_lt
    exact if_pos hbound

theorem literalValue?_literal (c : Constant) :
    literalValue? (TypeExpr.literal c.literal).write = some c.value := by
  show literalValue? c.literal.write = some c.value
  cases c with
  | text value =>
    show literalValue? (Text.stringLiteral value) = _
    have hquote : ∀ word : String, word.toList.head? ≠ some '"' → Text.stringLiteral value ≠ word := by
      rintro _ hword rfl
      refine hword ?_
      rw [Text.stringLiteral, String.toList_append, String.toList_append]
      rfl
    rw [literalValue?, if_neg (hquote "true" (by decide)), if_neg (hquote "false" (by decide)),
      integerValue?_stringLiteral, Text.stringValue?_stringLiteral]
    rfl
  | bool value => cases value <;> rfl
  | integer value =>
    show literalValue? (toString value.toInt) = _
    have hinteger := integerValue?_toString value.toInt
    have hword : ∀ word : String, integerValue? word.toList = none → toString value.toInt ≠ word := by
      rintro _ hnone rfl
      cases hinteger.symm.trans hnone
    rw [literalValue?, if_neg (hword "true" (by decide)), if_neg (hword "false" (by decide)), hinteger]
    rfl

end Constant

/-- A choice of an enumeration stands for a value. -/
inductive EnumChoice.Offers : EnumChoice → Constant → Prop
  | plain (value : String) : Offers (.plain value) (.text value)
  | named (name : String) (description : Option String) : Offers (.named name description) (.text name)
  | other (c : Constant) : Offers (.other c.toJson) c

/-- A choice has the literal type of its value, with its documentation. -/
theorem EnumChoice.Offers.type?_eq {choice : EnumChoice} {c : Constant} (h : choice.Offers c) :
    choice.type? = some (.literal c.literal) ∨
      ∃ doc, choice.type? = some (.documented doc (.literal c.literal)) := by
  cases h with
  | plain value => exact .inl rfl
  | named name description =>
    cases description with
    | none => exact .inl rfl
    | some description => exact .inr ⟨_, rfl⟩
  | other c => exact .inl c.literalType?_toJson

/-- **What is written reads back.** A text as a string literal is one literal with that value; a name as a
property key means the name, so that different names have different keys; and every string, boolean and
integer of 64 bits, as a constant or as a choice of an enumeration, has the type of a literal that denotes
it. -/
theorem literals_denote :
    (∀ s, Text.stringValue? (Text.stringLiteral s) = some (Text.units s)) ∧
    (∀ name, Text.keyValue? (Text.propertyKey name) = some (Text.units name)) ∧
    (Function.Injective fun name => Text.keyValue? (Text.propertyKey name)) ∧
    (∀ c : Constant, ∃ literal, c.toJson.literalType? = some (.literal literal) ∧
      literalValue? (TypeExpr.literal literal).write = some c.value) ∧
    ∀ (choice : EnumChoice) (c : Constant), choice.Offers c →
      ∃ literal, (choice.type? = some (.literal literal) ∨
          ∃ doc, choice.type? = some (.documented doc (.literal literal))) ∧
        literalValue? (TypeExpr.literal literal).write = some c.value :=
  ⟨Text.stringValue?_stringLiteral, Text.keyValue?_propertyKey, Text.keyValue?_injective,
    fun c => ⟨c.literal, c.literalType?_toJson, c.literalValue?_literal⟩,
    fun _ c h => ⟨c.literal, h.type?_eq, c.literalValue?_literal⟩⟩

/-- A documented choice with a quote, a backslash and a line break. -/
theorem literals_denote_choice :
    (EnumChoice.named "a\"\\\n" (some "odd")).Offers (.text "a\"\\\n") ∧
      ∃ literal, ((EnumChoice.named "a\"\\\n" (some "odd")).type? = some (.literal literal) ∨
          ∃ doc, (EnumChoice.named "a\"\\\n" (some "odd")).type? =
            some (.documented doc (.literal literal))) ∧
        literalValue? (TypeExpr.literal literal).write = some (.text [97, 34, 92, 10]) :=
  have hoffers := EnumChoice.Offers.named "a\"\\\n" (some "odd")
  ⟨hoffers, literals_denote.2.2.2.2 _ _ hoffers⟩

end SchemaTypings
