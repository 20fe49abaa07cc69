import Relay.Json.Skip
import Relay.Json.Value

/-!
# Reading JSON into records

A record is read either from an object, with its fields in any order and under
their names, or from an array that lists the fields in their declared order. In
an object, members with other names are passed over and a field may be given
once only. In an array, fields at the end may be left out. Whether a field that
was not given is missing or has a default is up to the record.

## Main definitions

* `Json.readText`, `Json.readTextOrNull`, `Json.readFlag`, `Json.readInt32` —
  the kinds of fields.
* `Json.RecordField` — a field's name and how its value goes into the record.
* `Json.readRecord` — a record from an object or an array.
* `Json.readList` — the items of a list.
* `Json.readTagged` — an object whose only name tells which kind of value it has.
-/

namespace Relay.Json

/-! ### Kinds of values -/

/-- What is wrong with a value that is of another kind than the one asked for.
If it is no list or object, it is read to its end first. -/
def otherKind : List Char → Fault
  | [] => .truncated
  | c :: rest =>
    if c = '[' || c = '\x7b' then .mismatch
    else if c = '"' then
      match readString rest with
      | .error e => e
      | .ok _ => .mismatch
    else if c = '-' || c.isDigit then
      match readNumber (c :: rest) with
      | .error e => e
      | .ok _ => .mismatch
    else
      match skipScalar (c :: rest) with
      | .error e => e
      | .ok _ => .mismatch

/-- A string. -/
def readText : Reader String := fun cs =>
  match skipSpaces cs with
  | '"' :: rest => readString rest
  | cs => .error (otherKind cs)

/-- A string, or nothing for `null`. -/
def readTextOrNull : Reader (Option String) := fun cs =>
  match skipSpaces cs with
  | 'n' :: rest => (expectWord ['u', 'l', 'l'] rest).map fun rest => (none, rest)
  | cs => (readText cs).map fun (s, rest) => (some s, rest)

/-- A Boolean. -/
def readFlag : Reader Bool := fun cs =>
  match skipSpaces cs with
  | 't' :: rest => (expectWord ['r', 'u', 'e'] rest).map fun rest => (true, rest)
  | 'f' :: rest => (expectWord ['a', 'l', 's', 'e'] rest).map fun rest => (false, rest)
  | cs => .error (otherKind cs)

/-- An integer of 32 bits with a sign. -/
def readInt32 : Reader Int32 := fun cs =>
  match skipSpaces cs with
  | [] => .error .truncated
  | c :: rest =>
    if c = '-' || c.isDigit then
      match readNumber (c :: rest) with
      | .error e => .error e
      | .ok (.int i, rest) =>
        if Int32.minValue.toInt ≤ i && i ≤ Int32.maxValue.toInt then .ok (.ofInt i, rest)
        else .error .mismatch
      | .ok (.float _, _) => .error .mismatch
    else .error (otherKind (c :: rest))

/-! ### Records -/

/-- A field of a record: its name, and how its value goes into the record. -/
structure RecordField (α : Type) where
  /-- The name in an object. -/
  name : String
  /-- Reads the value into the record. -/
  read : α → Reader α

variable {α β : Type}

/-- A field whose value is read by `read` and put into the record by `put`. -/
def RecordField.of (name : String) (read : Reader β) (put : β → α → α) : RecordField α where
  name := name
  read record cs := (read cs).map fun (value, rest) => (put value record, rest)

/-- A member of an object, from its name on. A field that is among those `given`
is refused as soon as its name is read; a name that is no field's has its value
passed over. -/
def readMember (fields : List (RecordField α)) (given : List String) (record : α) :
    Reader (α × List String) := fun cs =>
  match skipSpaces cs with
  | [] => .error .truncated
  | c :: rest =>
    if c = '"' then
      match readString rest with
      | .error e => .error e
      | .ok (name, rest) =>
        if name ∈ given then .error .mismatch
        else
          match expectColon rest with
          | .error e => .error e
          | .ok rest =>
            match fields.find? (·.name == name) with
            | some field => (field.read record rest).map fun (r, rest) => ((r, name :: given), rest)
            | none => (skipValue rest).map fun rest => ((record, given), rest)
    else .error .malformed

/-- The members of an object up to its closing bracket; `first` tells whether
none has been read yet. -/
def readFields (fields : List (RecordField α)) :
    Nat → (first : Bool) → (given : List String) → α → Reader α
  | 0, _, _, _, _ => .error .malformed
  | steps + 1, first, given, record, cs =>
    match skipSpaces cs with
    | [] => .error .truncated
    | c :: rest =>
      if c = '\x7d' then .ok (record, rest)
      else if !first && c != ',' then .error .malformed
      else
        match readMember fields given record (if first then c :: rest else rest) with
        | .error e => .error e
        | .ok ((record, given), rest) => readFields fields steps false given record rest

/-- The end of an array all of whose items have been read. -/
def readArrayEnd (record : α) : Reader α := fun cs =>
  match skipSpaces cs with
  | [] => .error .truncated
  | c :: rest => if c = ']' then .ok (record, rest) else .error .malformed

/-- The items of an array up to its closing bracket, one for each field in
turn; `first` tells whether none has been read yet. -/
def readInOrder : List (RecordField α) → (first : Bool) → α → Reader α
  | [], _, record, cs => readArrayEnd record cs
  | field :: fields, first, record, cs =>
    match skipSpaces cs with
    | [] => .error .truncated
    | c :: rest =>
      if c = ']' then .ok (record, rest)
      else if !first && c != ',' then .error .malformed
      else
        let item := skipSpaces (if first then c :: rest else rest)
        if !first && item.head? = some ']' then .error .malformed
        else
          match field.read record item with
          | .error e => .error e
          | .ok (record, rest) => readInOrder fields false record rest

/-- A record, from an object or an array. Fields that are not given stay as they
are in `start`. -/
def readRecord (fields : List (RecordField α)) (start : α) : Reader α := fun cs =>
  match skipSpaces cs with
  | [] => .error .truncated
  | c :: rest =>
    if c = '\x7b' then readFields fields (rest.length + 1) true [] start rest
    else if c = '[' then readInOrder fields true start rest
    else .error (otherKind (c :: rest))

/-! ### Lists -/

/-- The items of a list up to its closing bracket; `first` tells whether none
has been read yet, and `seen` holds the earlier ones, the last first. -/
def readEach (read : Reader α) : Nat → (first : Bool) → (seen : List α) → Reader (List α)
  | 0, _, _, _ => .error .malformed
  | steps + 1, first, seen, cs =>
    match skipSpaces cs with
    | [] => .error .truncated
    | c :: rest =>
      if c = ']' then .ok (seen.reverse, rest)
      else if !first && c != ',' then .error .malformed
      else
        let item := skipSpaces (if first then c :: rest else rest)
        if !first && item.head? = some ']' then .error .malformed
        else
          match read item with
          | .error e => .error e
          | .ok (value, rest) => readEach read steps false (value :: seen) rest

/-- The items of a list, which are all of one kind. -/
def readList (read : Reader α) : Reader (List α) := fun cs =>
  match skipSpaces cs with
  | [] => .error .truncated
  | c :: rest =>
    if c = '[' then readEach read (rest.length + 1) true [] rest
    else .error (otherKind (c :: rest))

/-! ### Tagged values -/

/-- The text after the bracket that closes a tagged value. -/
def expectTaggedEnd (cs : List Char) : Except Fault (List Char) :=
  match skipSpaces cs with
  | [] => .error .truncated
  | c :: rest => if c = '\x7d' then .ok rest else .error .malformed

/-- An object with a single member whose name tells the kind of its value. A
bare string names a kind without a value, and no kind is without one. -/
def readTagged (kinds : String → Option (Reader α)) : Reader α := fun cs =>
  match skipSpaces cs with
  | [] => .error .truncated
  | c :: rest =>
    if c = '\x7b' then
      match skipSpaces rest with
      | [] => .error .truncated
      | d :: tail =>
        if d = '"' then
          match readString tail with
          | .error e => .error e
          | .ok (name, rest) =>
            match kinds name with
            | none => .error .mismatch
            | some read =>
              match expectColon rest with
              | .error e => .error e
              | .ok rest =>
                match read rest with
                | .error e => .error e
                | .ok (value, rest) => (expectTaggedEnd rest).map fun rest => (value, rest)
        else .error .malformed
    else if c = '"' then
      match readString rest with
      | .error e => .error e
      | .ok _ => .error .mismatch
    else .error .malformed

end Relay.Json
