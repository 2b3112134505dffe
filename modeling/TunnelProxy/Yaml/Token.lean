/-!
# Tokens of YAML documents

The marks of structure and the scalars of which a document consists.
-/

namespace TunnelProxy
namespace Yaml

/-- The name of the type of a value. -/
structure Tag where
  /-- What comes before the last exclamation mark, and that mark. -/
  handle : String
  /-- The rest of the name. -/
  suffix : String
  deriving DecidableEq, Inhabited

/-- A token. -/
inductive Token where
  /-- A directive before a document. -/
  | directive
  /-- The mark at the start of a document. -/
  | documentStart
  /-- The mark at the end of a document. -/
  | documentEnd
  /-- The end of the input. -/
  | streamEnd
  /-- The start of a sequence by indentation. -/
  | blockSequenceStart
  /-- The start of a mapping by indentation. -/
  | blockMappingStart
  /-- The end of a collection by indentation. -/
  | blockEnd
  /-- An opening bracket. -/
  | flowSequenceStart
  /-- A closing bracket. -/
  | flowSequenceEnd
  /-- An opening brace. -/
  | flowMappingStart
  /-- A closing brace. -/
  | flowMappingEnd
  /-- The dash before an entry of a sequence. -/
  | blockEntry
  /-- The comma between entries. -/
  | flowEntry
  /-- A key follows. -/
  | key
  /-- A value follows. -/
  | value
  /-- A reference to a value with a name. -/
  | alias (name : String)
  /-- The name of the value which follows. -/
  | anchor (name : String)
  /-- The type of the value which follows. -/
  | tag (tag : Tag)
  /-- A scalar; one without quotes and not in block style is plain. -/
  | scalar (plain : Bool) (text : String)
  deriving DecidableEq, Inhabited

end Yaml
end TunnelProxy
