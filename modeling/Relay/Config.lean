import Relay.Json.Read
import Relay.Json.Record

/-!
# Configurations

A configuration says how a swarm is named, which flow it follows and how it
runs. It is written as a JSON object with its fields in declared order, and read
from an object or an array; fields that are not given have their defaults.

## Main definitions

* `Config` — a configuration, with its defaults.
* `Config.toJson`, `Config.text` — the written form.
* `Config.ofJson` — the configuration that a JSON text writes down.
-/

namespace Relay

open Json

/-- How a swarm is named, which flow it follows and how it runs. -/
structure Config where
  /-- The identifier; if there is none, one is generated. -/
  id : Option String := none
  name : String := "SwarmRearrange"
  description : String := "A swarm of swarms for rearranging tasks."
  flow : String := ""
  /-- How often the flow is repeated; below one, it runs once. -/
  maxLoops : Int32 := 1
  /-- Events of level `info` are reported. -/
  verbose : Bool := true
  /-- A custom human, if there is one, answers in place of the terminal. -/
  humanInTheLoop : Bool := false
  /-- The record of each run is saved. -/
  autosave : Bool := false
  /-- The directory in which records are saved. -/
  directory : String := "./temp/swarm_rearrange/metadata"
  deriving DecidableEq

namespace Config

/-- The fields in declared order. -/
def toJson (c : Config) : Value :=
  .obj [("id", .ofText? c.id), ("name", .str c.name), ("description", .str c.description),
    ("flow", .str c.flow), ("max_loops", .int c.maxLoops.toInt), ("verbose", .bool c.verbose),
    ("human_in_the_loop", .bool c.humanInTheLoop), ("autosave", .bool c.autosave),
    ("metadata_output_dir", .str c.directory)]

/-- The compact written form. -/
def text (c : Config) : String := c.toJson.text

/-- How each field is read, in declared order. -/
def fields : List (RecordField Config) :=
  [.of "id" readTextOrNull fun id c => { c with id := id },
    .of "name" readText fun name c => { c with name := name },
    .of "description" readText fun description c => { c with description := description },
    .of "flow" readText fun flow c => { c with flow := flow },
    .of "max_loops" readInt32 fun loops c => { c with maxLoops := loops },
    .of "verbose" readFlag fun verbose c => { c with verbose := verbose },
    .of "human_in_the_loop" readFlag fun enabled c => { c with humanInTheLoop := enabled },
    .of "autosave" readFlag fun autosave c => { c with autosave := autosave },
    .of "metadata_output_dir" readText fun directory c => { c with directory := directory }]

/-- The configuration that a JSON text writes down. -/
def ofJson (text : String) : Except Fault Config := readWhole (readRecord fields {}) text

/-- The number of loops: one, unless more are asked for. -/
def loops (c : Config) : Nat := max 1 c.maxLoops.toInt.toNat

theorem one_le_loops (c : Config) : 1 ≤ c.loops := Nat.le_max_left ..

end Config

end Relay
