import TunnelProxy.Yaml.Meaning

/-!
# Reading records

A record is written as a mapping from the names of its fields to their values, or as the sequence of
its values in the order of the fields.  A field is read by a function of its own and may have a
default.
-/

namespace TunnelProxy
namespace Yaml

namespace Node

/-- The text of a scalar, whatever else it may stand for. -/
def text? : Node → Option String
  | scalar _ _ text => some text
  | _ => none

/-- A number of at most `limit`, which must not be quoted. -/
def natural? (limit : Nat) (node : Node) : Option Nat :=
  match node.meaning? with
  | some (.integer value) =>
      if 0 ≤ value ∧ value ≤ limit then some value.toNat else none
  | _ => none

/-- A number of 64 bits. -/
def word64? (node : Node) : Option UInt64 :=
  (node.natural? (Nat.pow 2 64 - 1)).map UInt64.ofNat

/-- A number of eight bits. -/
def byte? (node : Node) : Option UInt8 :=
  (node.natural? 0xFF).map UInt8.ofNat

/-- Read a value unless it stands for nothing. -/
def optional? {α : Type} (read : Node → Option α) (node : Node) : Option (Option α) :=
  match node with
  | scalar true none text => if Meaning.isNullText text then some none else (read node).map some
  | scalar true (some ⟨"!!", "null"⟩) text => if Meaning.isNullText text then some none else none
  | _ => (read node).map some

/-- Read the values of a sequence. -/
def list? {α : Type} (read : Node → Option α) : Node → Option (List α)
  | sequence items => items.mapM read
  | _ => none

/-- The name of an alternative and its value, if it has one.  A scalar is a name alone, unless its
type is one of the names. -/
def alternative? (names : List String) : Node → Option (String × Option Node)
  | scalar _ tag name =>
      match tag with
      | some ⟨"!", type⟩ => if names.contains type then none else some (name, none)
      | _ => some (name, none)
  | mapping [(key, value)] => key.text?.map fun name => (name, some value)
  | _ => none

/-- Whether an alternative without a value is written properly: alone or with nothing as value. -/
def isUnit (value : Option Node) : Bool :=
  match value with
  | none => true
  | some node => node.meaning? = some .null

end Node

/-- The fields which are present in a record. -/
structure Record where
  /-- The values of the fields by their names. -/
  entries : List (String × Node)

namespace Node

/-- The fields among `names` which are present.  Other fields are ignored unless the record is
closed.  No field may be present twice. -/
def record? (closed : Bool) (names : List String) : Node → Option Record
  | sequence items =>
      if items.length ≤ names.length then some ⟨names.zip items⟩ else none
  | mapping pairs => do
      let entries ← pairs.mapM fun (key, value) => key.text?.map fun name => (name, value)
      let known := entries.filter fun entry => names.contains entry.1
      let unique := names.all fun name => (known.filter fun entry => entry.1 = name).length ≤ 1
      if unique && !(closed && known.length < entries.length) then some ⟨known⟩ else none
  | scalar .. => none

end Node

namespace Record

/-- The value of a field. -/
def get? (record : Record) (name : String) : Option Node :=
  (record.entries.find? fun entry => entry.1 = name).map Prod.snd

/-- Read a field which has to be present. -/
def required? {α : Type} (record : Record) (name : String) (read : Node → Option α) : Option α :=
  (record.get? name).bind read

/-- Read a field which has a default. -/
def value? {α : Type} (record : Record) (name : String) (read : Node → Option α) (default : α) :
    Option α :=
  match record.get? name with
  | some node => read node
  | none => some default

end Record
end Yaml
end TunnelProxy
