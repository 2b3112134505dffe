/-!
# Descriptions

The texts by which values with named parts, and values which may be absent, are shown in messages.
-/

namespace TunnelProxy
namespace Text

/-- A value with named parts. -/
def record (name : String) (parts : List (String × String)) : String :=
  let shown := parts.map fun (part, value) => part ++ ": " ++ value
  name ++ " \x7b " ++ ", ".intercalate shown ++ " \x7d"

/-- A value which may be absent. -/
def optional (value : Option String) : String :=
  match value with
  | some text => "Some(" ++ text ++ ")"
  | none => "None"

end Text
end TunnelProxy
