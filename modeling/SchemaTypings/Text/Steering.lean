import SchemaTypings.Text.Quoted

/-!
# Steering characters

A text that is shown on a terminal must not be able to steer it. There are two ways to keep it from that:

* `disarm` writes the characters with which a control sequence can begin, or that move what follows, by
  their codes;
* `withoutControls` leaves control characters out, with the sequences that begin with an escape.
-/

namespace SchemaTypings.Text

/-- One character of a disarmed text. -/
def disarmChar (c : Char) : String :=
  match c.toNat with
  | 0x07 | 0x08 | 0x0C => "\\x0" ++ hexDigits c
  | 0x1B | 0x7F => "\\x" ++ hexDigits c
  | code => if 0x80 ≤ code && code ≤ 0x9F then codeEscape c else String.singleton c

/-- The text with its steering characters written out. -/
def disarm (s : String) : String := String.join (s.toList.map disarmChar)

/-- Where in a control sequence a character stands. -/
inductive ControlState where
  /-- Outside. -/
  | text
  /-- Behind the escape. -/
  | escape
  /-- Behind the escape and characters that only a final one can follow. -/
  | intermediate
  /-- In the parameters of a sequence with a final letter. -/
  | parameters
  /-- In a string that ends with a bell. -/
  | command
  /-- In a string that only the next escape ends. -/
  | payload

namespace ControlState

/-- The state behind the character that follows an escape. -/
def afterEscape (c : Char) : ControlState :=
  if c = '[' then parameters
  else if c = ']' then command
  else if c = 'P' || c = 'X' || c = '^' || c = '_' then payload
  else if ' ' ≤ c && c ≤ '/' then intermediate
  else if '0' ≤ c && c ≤ '~' then text
  else escape

/-- The state behind any other character but the escape. -/
def after (state : ControlState) (c : Char) : ControlState :=
  match state with
  | text => text
  | escape => afterEscape c
  | intermediate => if '0' ≤ c && c ≤ '~' then text else intermediate
  | parameters => if '@' ≤ c && c ≤ '~' then text else parameters
  | command => if c.toNat = 0x07 then text else command
  | payload => payload

end ControlState

/-- Whether a character is a control character other than a blank one. -/
def isControl (c : Char) : Bool :=
  c.toNat = 0x7F ||
    (c.toNat < 0x20 && c ≠ '\t' && c ≠ '\n' && c ≠ '\r' && c.toNat ≠ 0x0C)

/-- The characters that stay, given the state before them. -/
def dropControls : ControlState → List Char → List Char
  | _, [] => []
  | state, c :: rest =>
    if c.toNat = 0x1B then dropControls .escape rest
    else if c.toNat = 0x18 || c.toNat = 0x1A then dropControls .text rest
    else match state with
      | .text => if isControl c then dropControls .text rest else c :: dropControls .text rest
      | state => dropControls (state.after c) rest

/-- The text without control characters and control sequences. -/
def withoutControls (s : String) : String := String.ofList (dropControls .text s.toList)

end SchemaTypings.Text
