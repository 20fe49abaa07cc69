import Relay.Json.Scan
import Relay.Json.Value

/-!
# Reading JSON values

A JSON text is read into a value. An object's members go to their places in
code point order; of several with one name the last counts.

## Main definitions

* `Json.readWhole` — a reader applied to a text that must hold nothing else.
* `Json.Value.ofText` — the value that a text writes down.
-/

namespace Relay.Json

/-- A reader applied to a text that may hold nothing else but blanks. -/
def readWhole {α : Type} (read : Reader α) (text : String) : Except Fault α :=
  match read text.toList with
  | .error e => .error e
  | .ok (value, rest) => if (skipSpaces rest).isEmpty then .ok value else .error .malformed

/-- A value without brackets. -/
def readScalar : Reader Value
  | [] => .error .truncated
  | c :: rest =>
    if c = 'n' then (expectWord ['u', 'l', 'l'] rest).map fun rest => (.null, rest)
    else if c = 't' then (expectWord ['r', 'u', 'e'] rest).map fun rest => (.bool true, rest)
    else if c = 'f' then (expectWord ['a', 'l', 's', 'e'] rest).map fun rest => (.bool false, rest)
    else if c = '"' then (readString rest).map fun (s, rest) => (.str s, rest)
    else if c = '-' || c.isDigit then
      (readNumber (c :: rest)).map fun (number, rest) =>
        match number with
        | .int i => (.int i, rest)
        | .float x => (.float x, rest)
    else .error .malformed

mutual

/-- A value, with at most so many brackets and separators. -/
def readValue : Nat → Reader Value
  | 0, _ => .error .malformed
  | steps + 1, cs =>
    match skipSpaces cs with
    | '[' :: rest =>
      match skipSpaces rest with
      | ']' :: rest => .ok (.arr [], rest)
      | rest => (readItems steps [] rest).map fun (items, rest) => (.arr items, rest)
    | '\x7b' :: rest =>
      match skipSpaces rest with
      | '\x7d' :: rest => .ok (.obj [], rest)
      | rest => (readMembers steps [] rest).map fun (members, rest) => (.object members, rest)
    | cs => readScalar cs

/-- The items from here on, up to the closing bracket; `seen` holds the earlier
ones, the last first. -/
def readItems : Nat → List Value → Reader (List Value)
  | 0, _, _ => .error .malformed
  | steps + 1, seen, cs =>
    match readValue steps cs with
    | .error e => .error e
    | .ok (item, rest) =>
      match skipSpaces rest with
      | [] => .error .truncated
      | ',' :: rest => readItems steps (item :: seen) rest
      | ']' :: rest => .ok ((item :: seen).reverse, rest)
      | _ => .error .malformed

/-- The members from here on, up to the closing bracket; `seen` holds the
earlier ones, the last first. -/
def readMembers : Nat → List (String × Value) → Reader (List (String × Value))
  | 0, _, _ => .error .malformed
  | steps + 1, seen, cs =>
    match skipSpaces cs with
    | [] => .error .truncated
    | '"' :: rest =>
      match readString rest with
      | .error e => .error e
      | .ok (name, rest) =>
        match expectColon rest with
        | .error e => .error e
        | .ok rest =>
          match readValue steps rest with
          | .error e => .error e
          | .ok (value, rest) =>
            match skipSpaces rest with
            | [] => .error .truncated
            | ',' :: rest => readMembers steps ((name, value) :: seen) rest
            | '\x7d' :: rest => .ok (((name, value) :: seen).reverse, rest)
            | _ => .error .malformed
    | _ => .error .malformed

end

/-- The value that a text writes down. Every step reads a character, so a text
has no more steps than characters. -/
def Value.ofText (text : String) : Except Fault Value :=
  readWhole (readValue (2 * text.length + 1)) text

end Relay.Json
