import Relay.Decimal.Shortest
import Relay.Table

/-!
# JSON values

A JSON value keeps integers apart from other numbers, and an object keeps its
members in the order in which they are written. Values that are held as data
have their members in code point order, once each; records have theirs in the
order in which their fields are declared.

## Main definitions

* `Json.Value` — a value.
* `Json.Value.object` — an object held as data, from members in any order.
* `Json.quote` — a string literal.
* `Json.Value.compact`, `Json.Value.pretty` — the two written forms.
-/

namespace Relay.Json

/-- A JSON value. -/
inductive Value where
  | null
  | bool (b : Bool)
  /-- A number written without fraction and exponent. -/
  | int (i : Int)
  /-- Any other number; it is finite. -/
  | float (x : Float)
  | str (s : String)
  | arr (items : List Value)
  /-- The members in the order they are written. -/
  | obj (members : List (String × Value))
  deriving Inhabited

/-! ### Literals -/

/-- The two lower-case hexadecimal digits of a number below 256. -/
def hexPair (n : Nat) : List Char := [Nat.digitChar (n / 16), Nat.digitChar (n % 16)]

/-- A character inside a string literal. Quotes, backslashes and the characters
below U+0020 are escaped; everything else stands for itself. -/
def escape (c : Char) : List Char :=
  if c = '"' then ['\\', '"']
  else if c = '\\' then ['\\', '\\']
  else if c = '\x08' then ['\\', 'b']
  else if c = '\x0c' then ['\\', 'f']
  else if c = '\n' then ['\\', 'n']
  else if c = '\r' then ['\\', 'r']
  else if c = '\t' then ['\\', 't']
  else if c.toNat < 0x20 then ['\\', 'u', '0', '0'] ++ hexPair c.toNat
  else [c]

/-- The literal of a string. -/
def quote (s : String) : List Char :=
  '"' :: s.toList.flatMap escape ++ ['"']

/-- The literal of an integer. -/
def integerText (i : Int) : List Char :=
  if i < 0 then '-' :: Nat.toDigits 10 i.natAbs else Nat.toDigits 10 i.natAbs

/-- The greatest power of ten of a first digit that is written without an exponent. -/
def greatestPlain : Int := 15

/-- The least power of ten of a first digit that is written without an exponent. -/
def leastPlain : Int := -5

/-- A decimal with a point. Its first digit's power of ten decides the form:
within the plain range all places are written, beyond it an exponent with its
sign. -/
def decimalText (d : Decimal) : List Char :=
  let digits := Nat.toDigits 10 d.factor
  let power := d.exponent + digits.length - 1
  if d.factor = 0 then ['0', '.', '0']
  else if leastPlain ≤ power && power ≤ greatestPlain then
    if 0 ≤ d.exponent then digits ++ List.replicate d.exponent.toNat '0' ++ ['.', '0']
    else if 0 ≤ power then
      digits.take (power.toNat + 1) ++ '.' :: digits.drop (power.toNat + 1)
    else ['0', '.'] ++ List.replicate (-power - 1).toNat '0' ++ digits
  else
    let tail := match digits.drop 1 with
      | [] => []
      | rest => '.' :: rest
    let sign := if power < 0 then '-' else '+'
    digits.take 1 ++ tail ++ 'e' :: sign :: Nat.toDigits 10 power.natAbs

/-- The literal of a finite double: the fewest digits that read back as it. -/
def floatText (x : Float) : List Char :=
  let d := decimalText (.ofFloat x)
  if Decimal.isNegative x then '-' :: d else d

namespace Value

/-! ### Objects held as data -/

/-- The object with these members, in code point order; of several with one
name the last counts. -/
def object (members : List (String × Value)) : Value :=
  .obj (members.foldl (fun acc m => Table.put m.1 m.2 acc) [])

/-! ### Written forms -/

mutual

/-- The written form without any blanks. -/
def compact : Value → List Char
  | .null => ['n', 'u', 'l', 'l']
  | .bool true => ['t', 'r', 'u', 'e']
  | .bool false => ['f', 'a', 'l', 's', 'e']
  | .int i => integerText i
  | .float x => floatText x
  | .str s => quote s
  | .arr items => '[' :: [','].intercalate (compactItems items) ++ [']']
  | .obj members => '\x7b' :: [','].intercalate (compactMembers members) ++ ['\x7d']

/-- The items without any blanks. -/
def compactItems : List Value → List (List Char)
  | [] => []
  | item :: rest => item.compact :: compactItems rest

/-- The members without any blanks. -/
def compactMembers : List (String × Value) → List (List Char)
  | [] => []
  | (name, value) :: rest => (quote name ++ ':' :: value.compact) :: compactMembers rest

end

/-- The start of a line at a depth: two blanks for each level. -/
def lineStart (depth : Nat) : List Char := '\n' :: List.replicate (2 * depth) ' '

/-- Parts between brackets, one on each line one level deeper; without parts the
brackets stay together. -/
def block (left right : Char) (depth : Nat) : List (List Char) → List Char
  | [] => [left, right]
  | parts =>
    left :: lineStart (depth + 1) ++ (',' :: lineStart (depth + 1)).intercalate parts ++
      lineStart depth ++ [right]

mutual

/-- The written form with one item or member on a line, at the given depth. -/
def pretty (depth : Nat) : Value → List Char
  | .null => ['n', 'u', 'l', 'l']
  | .bool true => ['t', 'r', 'u', 'e']
  | .bool false => ['f', 'a', 'l', 's', 'e']
  | .int i => integerText i
  | .float x => floatText x
  | .str s => quote s
  | .arr items => block '[' ']' depth (prettyItems (depth + 1) items)
  | .obj members => block '\x7b' '\x7d' depth (prettyMembers (depth + 1) members)

/-- The items, each with its lines at the given depth. -/
def prettyItems (depth : Nat) : List Value → List (List Char)
  | [] => []
  | item :: rest => item.pretty depth :: prettyItems depth rest

/-- The members, each with its lines at the given depth. -/
def prettyMembers (depth : Nat) : List (String × Value) → List (List Char)
  | [] => []
  | (name, value) :: rest =>
    (quote name ++ ':' :: ' ' :: value.pretty depth) :: prettyMembers depth rest

end

/-- The compact written form. -/
def text (v : Value) : String := String.ofList v.compact

/-- The written form over several lines. -/
def prettyText (v : Value) : String := String.ofList (v.pretty 0)

/-- The literal `null` for nothing, a string literal otherwise. -/
def ofText? : Option String → Value
  | none => .null
  | some s => .str s

end Value

end Relay.Json
