import Relay.Json.Value

/-!
# Data to be written as JSON

Data differ from JSON values in their maps, which may have keys of any kind. A
key that is a string, a Boolean or a number becomes the name of a member; with
any other key the map has no JSON form.

## Main definitions

* `Json.Datum` — data that may or may not have a JSON form.
* `Json.Datum.encode?` — the JSON form.
-/

namespace Relay.Json

/-- Data to be written as JSON. -/
inductive Datum where
  /-- A JSON value as it is. -/
  | value (v : Value)
  | list (items : List Datum)
  /-- Keys with their data. -/
  | map (entries : List (Datum × Datum))

namespace Datum

/-- The name that a key becomes. -/
def keyName? : Datum → Option String
  | .value (.str s) => some s
  | .value (.bool b) => some (Value.text (.bool b))
  | .value (.int i) => some (Value.text (.int i))
  | .value (.float x) => some (Value.text (.float x))
  | _ => none

mutual

/-- The JSON form, if every key has a name. -/
def encode? : Datum → Option Value
  | .value v => some v
  | .list items => (encodeItems? items).map .arr
  | .map entries => (encodeEntries? entries).map .obj

/-- The JSON forms of the items. -/
def encodeItems? : List Datum → Option (List Value)
  | [] => some []
  | item :: rest => do
    let v ← item.encode?
    let vs ← encodeItems? rest
    return v :: vs

/-- The members that the entries become. -/
def encodeEntries? : List (Datum × Datum) → Option (List (String × Value))
  | [] => some []
  | (key, item) :: rest => do
    let name ← key.keyName?
    let v ← item.encode?
    let members ← encodeEntries? rest
    return (name, v) :: members

end

end Datum

end Relay.Json
