import TunnelProxy.Yaml.Scalar
import TunnelProxy.Yaml.Token

/-!
# Tokens of a document

Collections in block style are marked by indentation, and a key in front of a colon is known as a
key only when the colon is met: its token is put in front of it afterwards.  A scanner therefore
remembers the columns of the open collections and, for each level of brackets, where a key might
have begun.
-/

namespace TunnelProxy
namespace Yaml

/-- A place where a key may have begun. -/
structure PossibleKey where
  /-- Whether it still may be a key. -/
  possible : Bool := false
  /-- Whether it has to be a key. -/
  required : Bool := false
  /-- Number of tokens before it. -/
  position : Nat := 0
  /-- Characters before it. -/
  index : Nat := 0
  /-- Lines before it. -/
  line : Nat := 0
  /-- Its column. -/
  column : Nat := 0
  deriving Inhabited

/-- The state of scanning. -/
structure Scanner where
  /-- What has not been scanned. -/
  cursor : Cursor
  /-- The tokens found so far. -/
  tokens : Array Token := #[]
  /-- The column of the innermost collection in block style; none is open if it is negative. -/
  indent : Int := -1
  /-- The columns of the collections around it. -/
  indents : List Int := []
  /-- The place where a key may have begun, at the current level of brackets. -/
  key : PossibleKey := {}
  /-- The places at the levels around it. -/
  outerKeys : List PossibleKey := []
  /-- Whether a key may begin here. -/
  keyAllowed : Bool := true
  /-- Where a colon need not be followed by a blank, because a quoted key ends there. -/
  adjacentValue : Nat := 0
  deriving Inhabited

namespace Scanner

/-- The level of brackets. -/
def flowLevel (scanner : Scanner) : Nat := scanner.outerKeys.length

/-- Whether the scanner is inside brackets. -/
def inFlow (scanner : Scanner) : Bool := !scanner.outerKeys.isEmpty

/-- The deepest level of brackets. -/
def maximumFlowLevel : Nat := 255

/-- Add a token. -/
def push (scanner : Scanner) (token : Token) : Scanner :=
  { scanner with tokens := scanner.tokens.push token }

/-- Go past several characters. -/
def skip (scanner : Scanner) (count : Nat) : Scanner :=
  { scanner with cursor := scanner.cursor.skipMany count }

/-- Allow or forbid a key at this place. -/
def allowKey (scanner : Scanner) (allowed : Bool) : Scanner :=
  { scanner with keyAllowed := allowed }

/-- Go past blanks, comments and line ends in front of a token. -/
def skipBlanks : Nat → Scanner → Scanner
  | 0, scanner => scanner
  | fuel + 1, scanner =>
      let char := scanner.cursor.char
      if char = ' ' || (char = '\t' && (scanner.inFlow || !scanner.keyAllowed)) then
        (scanner.skip 1).skipBlanks fuel
      else if isBreak char then
        let next := { scanner with cursor := scanner.cursor.skipBreak }
        (if next.inFlow then next else next.allowKey true).skipBlanks fuel
      else if char = '#' then
        { scanner with cursor := scanner.cursor.skipWhile (!isBreakOrEnd ·) }.skipBlanks fuel
      else scanner

/-- A key has to be followed by its colon in the same line and soon. -/
def expire? (scanner : Scanner) : Option Scanner :=
  let expired (key : PossibleKey) : Bool :=
    key.possible && (key.line < scanner.cursor.line || key.index + 1024 < scanner.cursor.index)
  let update (key : PossibleKey) : PossibleKey :=
    if expired key then { key with possible := false } else key
  if (scanner.key :: scanner.outerKeys).any fun key => expired key && key.required then none
  else some { scanner with key := update scanner.key, outerKeys := scanner.outerKeys.map update }

/-- What may have been a key is none. -/
def dropKey? (scanner : Scanner) : Option Scanner :=
  if scanner.key.possible && scanner.key.required then none
  else some { scanner with key := { scanner.key with possible := false } }

/-- Remember that a key may begin here. -/
def saveKey? (scanner : Scanner) : Option Scanner :=
  if scanner.keyAllowed then do
    let required := scanner.inFlow && scanner.indent = scanner.cursor.column
    let scanner ← scanner.dropKey?
    return { scanner with
      key :=
        { possible := true
          required
          position := scanner.tokens.size
          index := scanner.cursor.index
          line := scanner.cursor.line
          column := scanner.cursor.column } }
  else some scanner

/-- Close the collections whose column is greater than a given one. -/
def unroll (column : Int) : List Int → Scanner → Scanner
  | [], scanner => scanner
  | outer :: rest, scanner =>
      if column < scanner.indent then
        unroll column rest { scanner.push .blockEnd with indent := outer, indents := rest }
      else scanner

/-- Close the collections in block style which end before a column. -/
def unindent (scanner : Scanner) (column : Int) : Scanner :=
  if scanner.inFlow then scanner else unroll column scanner.indents scanner

/-- Open a collection in block style at a column, unless one is open there.  Its token is put after
the first `position` tokens. -/
def reindent (scanner : Scanner) (column position : Nat) (token : Token) : Scanner :=
  if !scanner.inFlow && scanner.indent < column then
    { scanner with
      indent := column
      indents := scanner.indent :: scanner.indents
      tokens := scanner.tokens.insertIdxIfInBounds position token }
  else scanner

/-- Open a collection in block style which begins with the next token. -/
def openBlock (scanner : Scanner) (token : Token) : Scanner :=
  scanner.reindent scanner.cursor.column scanner.tokens.size token

/-- Scan a mark between documents or a directive. -/
def betweenDocuments? (scanner : Scanner) (token : Token) : Option Scanner := do
  let scanner ← (scanner.unindent (-1)).dropKey?
  return (scanner.allowKey false).push token

/-- Scan an opening bracket or brace. -/
def openFlow? (scanner : Scanner) (token : Token) : Option Scanner := do
  let scanner ← scanner.saveKey?
  if scanner.flowLevel < maximumFlowLevel then
    let inner :=
      { scanner with outerKeys := scanner.key :: scanner.outerKeys, key := {}, keyAllowed := true }
    return (inner.skip 1).push token
  else none

/-- Scan a closing bracket or brace. -/
def closeFlow? (scanner : Scanner) (token : Token) : Option Scanner := do
  let scanner ← scanner.dropKey?
  let outer :=
    match scanner.outerKeys with
    | [] => scanner
    | key :: rest => { scanner with key, outerKeys := rest }
  return ((outer.allowKey false).skip 1).push token

/-- Scan a comma. -/
def flowEntry? (scanner : Scanner) : Option Scanner := do
  let scanner ← scanner.dropKey?
  return ((scanner.allowKey true).skip 1).push .flowEntry

/-- Scan the dash before an entry. -/
def blockEntry? (scanner : Scanner) : Option Scanner :=
  if scanner.inFlow || !scanner.keyAllowed then none
  else do
    let scanner ← (scanner.openBlock .blockSequenceStart).dropKey?
    return ((scanner.allowKey true).skip 1).push .blockEntry

/-- Scan the question mark before a key. -/
def explicitKey? (scanner : Scanner) : Option Scanner :=
  if !scanner.inFlow && !scanner.keyAllowed then none
  else do
    let scanner ← (scanner.openBlock .blockMappingStart).dropKey?
    return ((scanner.allowKey (!scanner.inFlow)).skip 1).push .key

/-- Scan the colon before a value.  If a key may have begun before it, that was a key. -/
def value? (scanner : Scanner) : Option Scanner :=
  let key := scanner.key
  if key.possible then
    let marked :=
      { scanner with
        tokens := scanner.tokens.insertIdxIfInBounds key.position .key
        key := { key with possible := false } }
    let opened := marked.reindent key.column key.position .blockMappingStart
    some (((opened.allowKey false).skip 1).push .value)
  else if scanner.inFlow then some (((scanner.allowKey false).skip 1).push .value)
  else if scanner.keyAllowed then
    some ((((scanner.openBlock .blockMappingStart).allowKey true).skip 1).push .value)
  else none

/-- Characters of the names of values. -/
def isNameChar (char : Char) : Bool := char.isAlphanum || char = '_' || char = '-'

/-- Scan the name of a value, or a reference to one. -/
def anchor? (scanner : Scanner) (make : String → Token) : Option Scanner := do
  let scanner ← scanner.saveKey?
  let (name, cursor) := scanner.cursor.skip.spanWith isNameChar
  let ends := isBlankOrEnd cursor.char || ['?', ':', ',', ']', '\x7d', '%', '@', '\x60'].contains cursor.char
  if name.isEmpty || !ends then none
  else return ({ scanner with cursor }.allowKey false).push (make (String.ofList name))

/-- Characters of the names of types. -/
def isTagChar (char : Char) : Bool :=
  isNameChar char || ";/?:@&=+$,.!~*'()[]%".toList.contains char

/-- Scan the name of a type. -/
def tag? (scanner : Scanner) : Option Scanner := do
  let scanner ← scanner.saveKey?
  let cursor := scanner.cursor.skip
  let (tag, cursor) ←
    if cursor.char = '<' then do
      let (name, cursor) := cursor.skip.spanWith isTagChar
      if cursor.char = '>' && !name.isEmpty then
        pure (Tag.mk "" (String.ofList name), cursor.skip)
      else none
    else
      let (first, after) := cursor.spanWith isNameChar
      if after.char = '!' then
        let (suffix, cursor) := after.skip.spanWith isTagChar
        if suffix.isEmpty then none
        else pure (Tag.mk ("!" ++ String.ofList first ++ "!") (String.ofList suffix), cursor)
      else
        let (more, cursor) := after.spanWith isTagChar
        let suffix := first ++ more
        pure (if suffix.isEmpty then Tag.mk "" "!" else Tag.mk "!" (String.ofList suffix), cursor)
  if isBlankOrEnd cursor.char then
    return ({ scanner with cursor }.allowKey false).push (.tag tag)
  else none

/-- Scan a scalar in block style. -/
def blockScalar? (scanner : Scanner) (literal : Bool) : Option Scanner := do
  let scanner ← scanner.saveKey?
  let (text, cursor) ← block? literal scanner.indent scanner.cursor.skip
  return ({ scanner with cursor }.allowKey true).push (.scalar false text)

/-- Scan a scalar in quotes. -/
def quotedScalar? (scanner : Scanner) (single : Bool) : Option Scanner := do
  let scanner ← scanner.saveKey?
  let (text, cursor) ←
    quoted? single (scanner.cursor.rest.length + 1) {} scanner.cursor.skip
  return ({ scanner with cursor, adjacentValue := cursor.index }.allowKey false).push
    (.scalar false text)

/-- Scan a scalar without quotes. -/
def plainScalar? (scanner : Scanner) : Option Scanner := do
  let scanner ← scanner.saveKey?
  let (folding, cursor) ←
    plain? scanner.inFlow (scanner.indent + 1) (scanner.cursor.rest.length + 1) {} scanner.cursor
  let allowed := folding.atLineStart
  return ({ scanner with cursor }.allowKey allowed).push (.scalar true folding.value)

/-- Scan the next token; blanks have been skipped. -/
def token? (scanner : Scanner) : Option Scanner :=
  let cursor := scanner.cursor
  let next := cursor.peek 1
  if cursor.column = 0 && cursor.char = '%' then
    (scanner.betweenDocuments? .directive).map fun scanner =>
      { scanner with cursor := cursor.skipWhile (!isBreakOrEnd ·) }
  else if cursor.atMark '-' then (scanner.betweenDocuments? .documentStart).map (·.skip 3)
  else if cursor.atMark '.' then (scanner.betweenDocuments? .documentEnd).map (·.skip 3)
  else
    match cursor.char with
    | '[' => scanner.openFlow? .flowSequenceStart
    | '\x7b' => scanner.openFlow? .flowMappingStart
    | ']' => scanner.closeFlow? .flowSequenceEnd
    | '\x7d' => scanner.closeFlow? .flowMappingEnd
    | ',' => scanner.flowEntry?
    | '-' => if isBlankOrEnd next then scanner.blockEntry? else scanner.plainScalar?
    | '?' => if isBlankOrEnd next then scanner.explicitKey? else scanner.plainScalar?
    | ':' =>
        if isBlankOrEnd next ||
            (scanner.inFlow && (isFlow next || cursor.index = scanner.adjacentValue)) then
          scanner.value?
        else scanner.plainScalar?
    | '*' => scanner.anchor? .alias
    | '&' => scanner.anchor? .anchor
    | '!' => scanner.tag?
    | '|' => if scanner.inFlow then scanner.plainScalar? else scanner.blockScalar? true
    | '>' => if scanner.inFlow then scanner.plainScalar? else scanner.blockScalar? false
    | '\'' => scanner.quotedScalar? true
    | '"' => scanner.quotedScalar? false
    | '%' => none
    | '@' => none
    | '\x60' => none
    | _ => scanner.plainScalar?

/-- Scan to the end of the document.  Blanks and tokens take at least one character each, so `fuel`
may be the length of the document and one more. -/
def finish? : Nat → Scanner → Option (Array Token)
  | 0, _ => none
  | fuel + 1, scanner => do
      let scanner ← (scanner.skipBlanks (fuel + 1)).expire?
      let scanner := scanner.unindent scanner.cursor.column
      if scanner.cursor.atEnd then
        let scanner ← (scanner.unindent (-1)).dropKey?
        return scanner.tokens.push .streamEnd
      else
        let scanner ← scanner.token?
        finish? fuel scanner

end Scanner

/-- The tokens of a document. -/
def tokens? (document : String) : Option (Array Token) :=
  let rest := document.toList
  Scanner.finish? (rest.length + 1) { cursor := { rest } }

end Yaml
end TunnelProxy
