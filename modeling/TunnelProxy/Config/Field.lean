import TunnelProxy.Acl.RuleFile
import TunnelProxy.Obfuscation.Keystream
import TunnelProxy.Session.Pacing

/-!
# Fields of configurations

Both configurations name their fields in the same way: addresses and files by their texts, time
limits by whole seconds, and the keystream by its key.
-/

namespace TunnelProxy
namespace Config

open Yaml (Node Record)

/-- The contents of the files by their names. -/
abbrev Files := String → Except IoError String

/-- The failure to read a file which does not exist. -/
def missingFile : IoError := ⟨.notFound, "No such file or directory (os error 2)"⟩

/-- Read a socket address. -/
def socketAddress? (node : Node) : Option Net.SocketAddress :=
  node.text?.bind fun text => Net.SocketAddress.parse? text.toList

/-- Read a time limit in seconds, which may be absent; zero stands for no limit. -/
def limit? (node : Node) : Option (Option UInt64) :=
  (node.optional? Node.word64?).map fun seconds => seconds.filter (0 < ·)

/-- Read two rates. -/
def rate? (node : Node) : Option Rate := do
  let record ← node.record? false ["send_bps", "recv_bps"]
  let send ← record.required? "send_bps" Node.word64?
  let recv ← record.required? "recv_bps" Node.word64?
  return { send, recv }

/-- Read the bounds of two rates. -/
def ceiling? (node : Node) : Option RateCeiling := do
  let record ← node.record? false ["send_bps", "recv_bps"]
  let send ← record.value? "send_bps" (Node.optional? Node.word64?) none
  let recv ← record.value? "recv_bps" (Node.optional? Node.word64?) none
  return { send, recv }

/-- The name of a choice of pacing. -/
def pacingName : PacingPolicy → String
  | .transportDefault => "Default"
  | .fixedRate => "FixedRate"

/-- Read a choice of pacing. -/
def pacing? (node : Node) : Option PacingPolicy := do
  let (name, value) ← node.alternative? ["Default", "FixedRate"]
  if !Node.isUnit value then none
  else if name = "Default" then some .transportDefault
  else if name = "FixedRate" then some .fixedRate
  else none

/-- The keystream of a key, if there is one. -/
def keystream (key : Option String) : Except ServiceError (Option Keystream) :=
  match key with
  | none => .ok none
  | some key => ((Keystream.ofKey (Text.Utf8.encode key)).map some).mapError ServiceError.ofError

/-- The policy in a file, if there is one. -/
def policy (files : Files) (file : Option String) : Except ServiceError Acl.Policy :=
  match file with
  | none => .ok .none
  | some name =>
      match files name with
      | .error cause => .error (.io cause)
      | .ok document => (Acl.RuleSet.parse document).map .rules

/-- Read a document in a file. -/
def load {α : Type} (read : Node → Option α) (files : Files) (file : String) :
    Except ServiceError α :=
  match files file with
  | .error cause => .error (.io cause)
  | .ok document =>
      match (Yaml.document? document).bind read with
      | some value => .ok value
      | none => .error (.config none)

end Config
end TunnelProxy
