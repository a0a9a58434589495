import SchemaTypings.Binary64.Arithmetic
import SchemaTypings.Json.Reader
import SchemaTypings.Json.SyntaxFault

/-!
# Reading JSON text

A reader takes a cursor, which is the rest of the text with its position, and answers a value with
the cursor behind it, or the first fault. Two places of a fault recur: *here*, behind everything
read so far, and *at the next byte*, one byte past the character that does not fit.

* `Json.parse levels text` reads a whole text whose lists and objects nest at most `levels` deep.
* `Json.reader` is the reader that the program runs with.
* Loops are bounded by the length of the text: each turn reads at least one character.
* Numbers that are no integers are taken by best effort: digits beyond 64 bits are not counted, and the
  rest is `Binary64.bestEffort?`.
-/

namespace SchemaTypings

/-- The rest of a text and where it begins. -/
structure Cursor where
  rest : List Char
  position : Position

/-- A reader of one value. -/
abbrev Reader (α : Type) := Cursor → Except SyntaxFault (α × Cursor)

namespace Cursor

/-- A fault behind everything read so far. -/
def faultHere (cursor : Cursor) (cause : SyntaxCause) : Except SyntaxFault α :=
  .error ⟨cause, cursor.position⟩

/-- A fault one byte past the next character; at the end of the text there is no such byte. -/
def faultNext (cursor : Cursor) (cause : SyntaxCause) : Except SyntaxFault α :=
  match cursor.rest with
  | [] => .error ⟨cause, cursor.position⟩
  | c :: _ => .error ⟨cause, cursor.position.afterByte c⟩

/-- Step over the next character. -/
def advance (cursor : Cursor) : Cursor :=
  match cursor.rest with
  | [] => cursor
  | c :: rest => ⟨rest, cursor.position.after c⟩

/-- Step over the characters at the front that satisfy `p`. -/
def skipWhile (p : Char → Bool) (cursor : Cursor) : Cursor :=
  ⟨cursor.rest.dropWhile p, cursor.position.atEnd (cursor.rest.takeWhile p)⟩

end Cursor

namespace Json

/-- The blanks of JSON. -/
def isBlank (c : Char) : Bool := c = ' ' || c = '\n' || c = '\t' || c = '\r'

/-! ## Words -/

/-- The remaining letters of `true`, `false` or `null`. -/
def readWord : List Char → Reader Unit
  | [], cursor => .ok ((), cursor)
  | letter :: letters, cursor =>
    match cursor.rest with
    | [] => cursor.faultHere .endInValue
    | c :: _ =>
      if c = letter then readWord letters cursor.advance
      else cursor.faultNext .expectedIdent

/-! ## Numbers -/

/-- The value of a decimal digit. -/
def digitValue (c : Char) : Nat := c.toNat - '0'.toNat

/-- The value of a run of decimal digits. -/
def digitsValue (digits : List Char) : Nat :=
  digits.foldl (fun n c => 10 * n + digitValue c) 0

/-- Digits are appended to a number as long as it fits 64 bits. The answer is the number and how many
digits are left over. -/
def countDigits : Nat → List Char → Nat × Nat
  | n, [] => (n, 0)
  | n, c :: rest =>
    let next := 10 * n + digitValue c
    if next < JsonNumber.unsignedBound then countDigits next rest else (n, rest.length + 1)

/-- The whole part of a number. The digits left over only make it greater. -/
def wholePart (digits : List Char) : Decimal :=
  let (value, left) := countDigits 0 digits
  ⟨value, left⟩

/-- A number with its fraction. The digits left over make no difference. -/
def withFraction (whole : Decimal) (digits : List Char) : Decimal :=
  let (value, left) := countDigits whole.digits digits
  ⟨value, whole.exponent - (digits.length - left : Nat)⟩

/-- The digits at the front. -/
def readDigits (cursor : Cursor) : List Char × Cursor :=
  (cursor.rest.takeWhile Char.isDigit, cursor.skipWhile Char.isDigit)

/-- Exponents up to this one are counted; a longer one settles the number by itself. -/
def maxCountedExponent : Nat := 2147483647

/-- The shortest beginning of the digits that already exceeds the counted exponents. -/
def excessiveExponent? (digits : List Char) : Option (List Char) :=
  ((List.range (digits.length + 1)).map digits.take).find? fun lead =>
    maxCountedExponent < digitsValue lead

/-- The exponent behind `e`: a sign and at least one digit, taken with the numeral before it. -/
def readExponent (negative : Bool) (numeral : Decimal) : Reader JsonNumber := fun cursor =>
  let (down, cursor) :=
    match cursor.rest with
    | '+' :: _ => (false, cursor.advance)
    | '-' :: _ => (true, cursor.advance)
    | _ => (false, cursor)
  match cursor.rest with
  | [] => cursor.faultHere .endInValue
  | c :: _ =>
    if !c.isDigit then cursor.faultNext .invalidNumber
    else
      let (exponent, after) := readDigits cursor
      match excessiveExponent? exponent with
      | some lead =>
        if down || numeral.digits = 0 then .ok (.binary (.zero negative), after)
        else .error ⟨.numberOutOfRange, cursor.position.atEnd lead⟩
      | none =>
        let power : Int := if down then -(digitsValue exponent : Int) else digitsValue exponent
        match Binary64.bestEffort? negative ⟨numeral.digits, numeral.exponent + power⟩ with
        | some value => .ok (.binary value, after)
        | none => after.faultHere .numberOutOfRange

/-- What follows the digits of a number: nothing, or an exponent. -/
def readScale (negative : Bool) (numeral : Decimal) (plain : Reader JsonNumber) :
    Reader JsonNumber := fun cursor =>
  match cursor.rest with
  | 'e' :: _ => readExponent negative numeral cursor.advance
  | 'E' :: _ => readExponent negative numeral cursor.advance
  | _ => plain cursor

/-- A numeral without exponent, as a floating-point number. -/
def plainBinary (negative : Bool) (numeral : Decimal) : Reader JsonNumber := fun cursor =>
  match Binary64.bestEffort? negative numeral with
  | some value => .ok (.binary value, cursor)
  | none => cursor.faultHere .numberOutOfRange

/-- A numeral without fraction and exponent: an integer of 64 bits if it fits. Minus zero is not an
integer. -/
def plainInteger (negative : Bool) (numeral : Decimal) : Reader JsonNumber := fun cursor =>
  if numeral.exponent ≠ 0 then plainBinary negative numeral cursor
  else if negative then
    if numeral.digits ≠ 0 && numeral.digits ≤ JsonNumber.signedBound then
      .ok (.integer (-(numeral.digits : Int)), cursor)
    else plainBinary negative numeral cursor
  else .ok (.integer numeral.digits, cursor)

/-- What follows the whole part of a number. -/
def readFraction (negative : Bool) (whole : List Char) : Reader JsonNumber := fun cursor =>
  match cursor.rest with
  | '.' :: _ =>
    let (fraction, after) := readDigits cursor.advance
    if fraction.isEmpty then
      match after.rest with
      | [] => after.faultNext .endInValue
      | _ => after.faultNext .invalidNumber
    else
      let numeral := withFraction (wholePart whole) fraction
      readScale negative numeral (plainBinary negative numeral) after
  | _ => readScale negative (wholePart whole) (plainInteger negative (wholePart whole)) cursor

/-- A number behind its sign: a leading zero stands alone. -/
def readNumber (negative : Bool) : Reader JsonNumber := fun cursor =>
  match cursor.rest with
  | [] => cursor.faultHere .endInValue
  | '0' :: rest =>
    match rest with
    | c :: _ =>
      if c.isDigit then cursor.advance.faultNext .invalidNumber
      else readFraction negative ['0'] cursor.advance
    | [] => readFraction negative ['0'] cursor.advance
  | c :: _ =>
    if c.isDigit then
      let (whole, after) := readDigits cursor
      readFraction negative whole after
    else cursor.faultNext .invalidNumber

/-! ## Strings -/

/-- The value of a hexadecimal digit. -/
def hexValue? (c : Char) : Option Nat :=
  if c.isDigit then some (c.toNat - '0'.toNat)
  else if 'a' ≤ c && c ≤ 'f' then some (c.toNat - 'a'.toNat + 10)
  else if 'A' ≤ c && c ≤ 'F' then some (c.toNat - 'A'.toNat + 10)
  else none

/-- The four hexadecimal digits of an escape. Four bytes are taken whatever they are. -/
def readHexUnit : Reader Nat := fun cursor =>
  let fault : Except SyntaxFault (Nat × Cursor) :=
    if byteLength cursor.rest < 4 then
      .error ⟨.endInString, cursor.position.atEnd cursor.rest⟩
    else .error ⟨.invalidEscape, cursor.position.afterBytes 4 cursor.rest⟩
  match cursor.rest with
  | a :: b :: c :: d :: rest =>
    match hexValue? a, hexValue? b, hexValue? c, hexValue? d with
    | some i, some j, some k, some l =>
      .ok (((i * 16 + j) * 16 + k) * 16 + l, ⟨rest, cursor.position.atEnd [a, b, c, d]⟩)
    | _, _, _, _ => fault
  | _ => fault

/-- A character that has to follow a high surrogate. -/
def readSurrogateMark (mark : Char) : Reader Unit := fun cursor =>
  match cursor.rest with
  | [] => cursor.faultHere .endInString
  | c :: _ =>
    if c = mark then .ok ((), cursor.advance)
    else cursor.faultNext .unexpectedEndOfHexEscape

/-- The escape behind `\u`: one unit, or a pair of surrogates. -/
def readUnicodeEscape : Reader Char := fun cursor => do
  let (high, cursor) ← readHexUnit cursor
  if 0xDC00 ≤ high && high ≤ 0xDFFF then cursor.faultHere .loneSurrogate
  else if 0xD800 ≤ high && high ≤ 0xDBFF then
    let (_, cursor) ← readSurrogateMark '\\' cursor
    let (_, cursor) ← readSurrogateMark 'u' cursor
    let (low, cursor) ← readHexUnit cursor
    if 0xDC00 ≤ low && low ≤ 0xDFFF then
      .ok (Char.ofNat (0x10000 + (high - 0xD800) * 0x400 + (low - 0xDC00)), cursor)
    else cursor.faultHere .loneSurrogate
  else .ok (Char.ofNat high, cursor)

/-- The escape behind a backslash. -/
def readEscape : Reader Char := fun cursor =>
  match cursor.rest with
  | [] => cursor.faultHere .endInString
  | 'u' :: _ => readUnicodeEscape cursor.advance
  | '"' :: _ => .ok ('"', cursor.advance)
  | '\\' :: _ => .ok ('\\', cursor.advance)
  | '/' :: _ => .ok ('/', cursor.advance)
  | 'b' :: _ => .ok (Char.ofNat 8, cursor.advance)
  | 'f' :: _ => .ok (Char.ofNat 12, cursor.advance)
  | 'n' :: _ => .ok ('\n', cursor.advance)
  | 'r' :: _ => .ok ('\r', cursor.advance)
  | 't' :: _ => .ok ('\t', cursor.advance)
  | _ => cursor.faultNext .invalidEscape

/-- The characters up to the closing quote, behind those already read (last one first). -/
def readStringTail : Nat → List Char → Reader String
  | 0, _, cursor => cursor.faultHere .endInString
  | bound + 1, read, cursor =>
    match cursor.rest with
    | [] => cursor.faultHere .endInString
    | '"' :: _ => .ok (String.ofList read.reverse, cursor.advance)
    | '\\' :: _ => do
      let (c, cursor) ← readEscape cursor.advance
      readStringTail bound (c :: read) cursor
    | c :: _ =>
      if c.toNat < 32 then cursor.faultNext .controlCharacter
      else readStringTail bound (c :: read) cursor.advance

/-! ## Lists and objects -/

/-- The items behind the first one. -/
def readListTail (item : Reader Json) : Nat → List Json → Reader (List Json)
  | 0, _, cursor => cursor.faultHere .endInList
  | bound + 1, read, cursor =>
    let cursor := cursor.skipWhile isBlank
    match cursor.rest with
    | [] => cursor.faultNext .endInList
    | ']' :: _ => .ok (read.reverse, cursor.advance)
    | ',' :: _ =>
      let cursor := cursor.advance.skipWhile isBlank
      match cursor.rest with
      | [] => cursor.faultNext .endInValue
      | ']' :: _ => cursor.faultNext .trailingComma
      | _ => do
        let (value, cursor) ← item cursor
        readListTail item bound (value :: read) cursor
    | _ => cursor.faultNext .expectedListCommaOrEnd

/-- A list behind its opening bracket. -/
def readList (item : Reader Json) (bound : Nat) : Reader (List Json) := fun cursor =>
  let cursor := cursor.skipWhile isBlank
  match cursor.rest with
  | [] => cursor.faultNext .endInList
  | ']' :: _ => .ok ([], cursor.advance)
  | _ => do
    let (value, cursor) ← item cursor
    readListTail item bound [value] cursor

/-- A field from the opening quote of its key. -/
def readField (item : Reader Json) (bound : Nat) : Reader (String × Json) := fun cursor => do
  let (key, cursor) ← readStringTail bound [] cursor.advance
  let cursor := cursor.skipWhile isBlank
  match cursor.rest with
  | [] => cursor.faultNext .endInObject
  | ':' :: _ =>
    let (value, cursor) ← item cursor.advance
    .ok ((key, value), cursor)
  | _ => cursor.faultNext .expectedColon

/-- The fields behind the first one. -/
def readObjectTail (item : Reader Json) (text : Nat) : Nat → Fields Json → Reader (Fields Json)
  | 0, _, cursor => cursor.faultHere .endInObject
  | bound + 1, read, cursor =>
    let cursor := cursor.skipWhile isBlank
    match cursor.rest with
    | [] => cursor.faultNext .endInObject
    | '}' :: _ => .ok (read, cursor.advance)
    | ',' :: _ =>
      let cursor := cursor.advance.skipWhile isBlank
      match cursor.rest with
      | [] => cursor.faultNext .endInValue
      | '"' :: _ => do
        let ((key, value), cursor) ← readField item text cursor
        readObjectTail item text bound (read.put key value) cursor
      | '}' :: _ => cursor.faultNext .trailingComma
      | _ => cursor.faultNext .keyNotString
    | _ => cursor.faultNext .expectedObjectCommaOrEnd

/-- An object behind its opening brace. -/
def readObject (item : Reader Json) (bound : Nat) : Reader (Fields Json) := fun cursor =>
  let cursor := cursor.skipWhile isBlank
  match cursor.rest with
  | [] => cursor.faultNext .endInObject
  | '}' :: _ => .ok ([], cursor.advance)
  | '"' :: _ => do
    let ((key, value), cursor) ← readField item bound cursor
    readObjectTail item bound bound [(key, value)] cursor
  | _ => cursor.faultNext .keyNotString

/-! ## Values -/

/-- A value, given the reader of the values one level further inside, if there may be any. -/
def readValueWith (inner : Option (Reader Json)) (bound : Nat) : Reader Json := fun cursor =>
  let cursor := cursor.skipWhile isBlank
  match cursor.rest with
  | [] => cursor.faultNext .endInValue
  | 'n' :: _ => do
    let (_, cursor) ← readWord ['u', 'l', 'l'] cursor.advance
    .ok (.null, cursor)
  | 't' :: _ => do
    let (_, cursor) ← readWord ['r', 'u', 'e'] cursor.advance
    .ok (.bool true, cursor)
  | 'f' :: _ => do
    let (_, cursor) ← readWord ['a', 'l', 's', 'e'] cursor.advance
    .ok (.bool false, cursor)
  | '-' :: _ => do
    let (value, cursor) ← readNumber true cursor.advance
    .ok (.number value, cursor)
  | '"' :: _ => do
    let (value, cursor) ← readStringTail bound [] cursor.advance
    .ok (.text value, cursor)
  | '[' :: _ =>
    match inner with
    | none => cursor.faultNext .recursionLimit
    | some item => do
      let (items, cursor) ← readList item bound cursor.advance
      .ok (.array items, cursor)
  | '{' :: _ =>
    match inner with
    | none => cursor.faultNext .recursionLimit
    | some item => do
      let (fields, cursor) ← readObject item bound cursor.advance
      .ok (.object fields, cursor)
  | c :: _ =>
    if c.isDigit then do
      let (value, cursor) ← readNumber false cursor
      .ok (.number value, cursor)
    else cursor.faultNext .expectedValue

/-- A value whose lists and objects nest at most `levels` deep. -/
def readValue (bound : Nat) : Nat → Reader Json
  | 0 => readValueWith none bound
  | levels + 1 => readValueWith (some (readValue bound levels)) bound

/-- Read a whole text. -/
def parse (levels : Nat) (text : String) : Except SyntaxFault Json := do
  let characters := text.toList
  let (value, cursor) ← readValue (characters.length + 1) levels ⟨characters, .start⟩
  let cursor := cursor.skipWhile isBlank
  match cursor.rest with
  | [] => .ok value
  | _ => cursor.faultNext .trailingCharacters

/-- The nesting that schema files may have. -/
def maxNesting : Nat := 127

/-- The reader of schema files. -/
instance reader : JsonReader where
  read text := (parse maxNesting text).mapError SyntaxFault.message

end Json

end SchemaTypings
