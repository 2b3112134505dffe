import TunnelProxy.Text.Numeral
import TunnelProxy.Yaml.Cursor

/-!
# Scalars of YAML documents

Texts may be written plainly, in quotes of two kinds, or as indented blocks.  A single line end
inside a text becomes a blank and further ones are kept, unless the block is literal.
-/

namespace TunnelProxy
namespace Yaml

/-- A text which spans lines, as far as it has been read. -/
structure Folding where
  /-- The characters of the text, most recent first. -/
  text : List Char := []
  /-- Blanks which belong to the text only if it goes on in this line, most recent first. -/
  blanks : List Char := []
  /-- Whether a line end has been read since the last character. -/
  broken : Bool := false
  /-- How many further line ends have been read. -/
  furtherBreaks : Nat := 0
  /-- Whether blanks are at the start of a line. -/
  atLineStart : Bool := false
  deriving Inhabited

namespace Folding

/-- Put line ends and blanks into the text before it goes on. -/
def join (folding : Folding) : Folding :=
  if folding.atLineStart then
    let breaks := List.replicate folding.furtherBreaks '\n'
    let joined := if folding.broken && folding.furtherBreaks = 0 then [' '] else breaks
    { text := joined ++ folding.text, blanks := folding.blanks }
  else { folding with text := folding.blanks ++ folding.text, blanks := [] }

/-- Go on with a character. -/
def push (folding : Folding) (char : Char) : Folding :=
  { folding with text := char :: folding.text }

/-- Go on with a blank. -/
def blank (folding : Folding) (char : Char) : Folding :=
  if folding.atLineStart then folding else { folding with blanks := char :: folding.blanks }

/-- Go on with a line end. -/
def lineEnd (folding : Folding) : Folding :=
  if folding.atLineStart then { folding with furtherBreaks := folding.furtherBreaks + 1 }
  else { folding with blanks := [], broken := true, atLineStart := true }

/-- The text. -/
def value (folding : Folding) : String := String.ofList folding.text.reverse

end Folding

/-- Read blanks and line ends inside a text.  `allowed` tells whether a blank may stand at a place
at the start of a line. -/
def foldBlanks? (allowed : Char → Nat → Bool) :
    Nat → Folding → Cursor → Option (Folding × Cursor)
  | 0, _, _ => none
  | fuel + 1, folding, cursor =>
      if isBlank cursor.char then
        if folding.atLineStart && !allowed cursor.char cursor.column then none
        else foldBlanks? allowed fuel (folding.blank cursor.char) cursor.skip
      else if isBreak cursor.char then foldBlanks? allowed fuel folding.lineEnd cursor.skipBreak
      else some (folding, cursor)

/-! ## Quoted texts -/

/-- The character which a single letter after a backslash stands for. -/
def shortEscape? (char : Char) : Option Char :=
  match char with
  | '0' => some '\x00'
  | 'a' => some '\x07'
  | 'b' => some '\x08'
  | 't' => some '\t'
  | '\t' => some '\t'
  | 'n' => some '\n'
  | 'v' => some '\x0b'
  | 'f' => some '\x0c'
  | 'r' => some '\r'
  | 'e' => some '\x1b'
  | ' ' => some ' '
  | '"' => some '"'
  | '\'' => some '\''
  | '/' => some '/'
  | '\\' => some '\\'
  | 'N' => some '\u0085'
  | '_' => some '\u00A0'
  | 'L' => some '\u2028'
  | 'P' => some '\u2029'
  | _ => none

/-- How many digits follow a letter for a character by number. -/
def escapeWidth? (char : Char) : Option Nat :=
  match char with
  | 'x' => some 2
  | 'u' => some 4
  | 'U' => some 8
  | _ => none

/-- Read an escape after its backslash. -/
def quotedEscape? (cursor : Cursor) : Option (Char × Cursor) :=
  match shortEscape? cursor.char with
  | some char => some (char, cursor.skip)
  | none => do
      let width ← escapeWidth? cursor.char
      let digits := cursor.skip.rest.take width
      if digits.length = width then
        let code ← Text.Numeral.digits? 16 0x10FFFF digits
        if code.isValidChar then return (Char.ofNat code, cursor.skip.skipMany width) else none
      else none

/-- Read a part of a quoted text without blanks and line ends. -/
def quotedRun? (single : Bool) : Nat → Folding → Cursor → Option (Folding × Cursor)
  | 0, _, _ => none
  | fuel + 1, folding, cursor =>
      let char := cursor.char
      if isBlankOrEnd char then some (folding, cursor)
      else if single then
        if char = '\'' then
          if cursor.peek 1 = '\'' then
            quotedRun? single fuel (folding.push '\'') cursor.skip.skip
          else some (folding, cursor)
        else quotedRun? single fuel (folding.push char) cursor.skip
      else if char = '"' then some (folding, cursor)
      else if char = '\\' then
        if isBreak (cursor.peek 1) then
          some ({ folding with atLineStart := true }, cursor.skip.skipBreak)
        else do
          let (value, after) ← quotedEscape? cursor.skip
          quotedRun? single fuel (folding.push value) after
      else quotedRun? single fuel (folding.push char) cursor.skip

/-- Read a quoted text after its first quote. -/
def quoted? (single : Bool) : Nat → Folding → Cursor → Option (String × Cursor)
  | 0, _, _ => none
  | fuel + 1, folding, cursor =>
      if cursor.atDocumentMark || cursor.atEnd then none
      else do
        let (folding, cursor) ← quotedRun? single (cursor.rest.length + 1) folding cursor
        if cursor.char = (if single then '\'' else '"') then
          return (folding.value, cursor.skip)
        else
          let (folding, cursor) ←
            foldBlanks? (fun _ _ => true) (cursor.rest.length + 1) folding cursor
          quoted? single fuel folding.join cursor

/-! ## Plain texts -/

/-- Whether a plain text ends before the next character. -/
def endsPlain (inFlow : Bool) (cursor : Cursor) : Bool :=
  let char := cursor.char
  (char = ':' && (isBlankOrEnd (cursor.peek 1) || (inFlow && isFlow (cursor.peek 1)))) ||
    (inFlow && isFlow char)

/-- Read a part of a plain text without blanks and line ends. -/
def plainRun (inFlow : Bool) : Nat → Folding → Cursor → Folding × Cursor
  | 0, folding, cursor => (folding, cursor)
  | fuel + 1, folding, cursor =>
      if isBlankOrEnd cursor.char || endsPlain inFlow cursor then (folding, cursor)
      else plainRun inFlow fuel (folding.join.push cursor.char) cursor.skip

/-- Read a plain text.  In block context it ends at the first line which is not indented by
`indent`. -/
def plain? (inFlow : Bool) (indent : Int) : Nat → Folding → Cursor → Option (Folding × Cursor)
  | 0, _, _ => none
  | fuel + 1, folding, cursor =>
      if cursor.atDocumentMark || cursor.char = '#' then some (folding, cursor)
      else do
        let (folding, cursor) := plainRun inFlow (cursor.rest.length + 1) folding cursor
        if isBlank cursor.char || isBreak cursor.char then
          let allowed (char : Char) (column : Nat) : Bool := char ≠ '\t' || indent ≤ column
          let (folding, cursor) ← foldBlanks? allowed (cursor.rest.length + 1) folding cursor
          if !inFlow && cursor.column < indent then return (folding, cursor)
          else plain? inFlow indent fuel folding cursor
        else return (folding, cursor)

/-! ## Block texts -/

/-- What to do with the line ends at the end of a block. -/
inductive Chomping where
  /-- Keep one. -/
  | clip
  /-- Keep none. -/
  | strip
  /-- Keep all. -/
  | keep
  deriving DecidableEq, Inhabited

/-- The head of a block: what to do at its end, and its indentation if it is given. -/
structure BlockHead where
  /-- What to do at the end. -/
  chomping : Chomping := .clip
  /-- The indentation relative to the surrounding one; zero if it is not given. -/
  increment : Nat := 0
  deriving Inhabited

/-- Read the mark for the end of a block. -/
def chomping (head : BlockHead) (cursor : Cursor) : BlockHead × Cursor :=
  if cursor.char = '+' then ({ head with chomping := .keep }, cursor.skip)
  else if cursor.char = '-' then ({ head with chomping := .strip }, cursor.skip)
  else (head, cursor)

/-- Read an indentation, which must not be zero. -/
def increment? (head : BlockHead) (cursor : Cursor) : Option (BlockHead × Cursor) :=
  if cursor.char.isDigit then
    if cursor.char = '0' then none
    else some ({ head with increment := cursor.char.toNat - '0'.toNat }, cursor.skip)
  else some (head, cursor)

/-- Read the head of a block up to the end of its line. -/
def blockHead? (cursor : Cursor) : Option (BlockHead × Cursor) := do
  let (head, cursor) ←
    if cursor.char.isDigit then do
      let (head, cursor) ← increment? {} cursor
      pure (chomping head cursor)
    else
      let (head, cursor) := chomping {} cursor
      if head.chomping = .clip then pure (head, cursor) else increment? head cursor
  let cursor := cursor.skipWhile isBlank
  let cursor := if cursor.char = '#' then cursor.skipWhile (!isBreakOrEnd ·) else cursor
  if isBreakOrEnd cursor.char then return (head, cursor.skipBreak) else none

/-- Read the indentation of the lines of a block up to the next one with content.  The answer has
the number of line ends and the greatest indentation. -/
def blockBreaks? (indent : Nat) : Nat → Nat → Nat → Cursor → Option (Nat × Nat × Cursor)
  | 0, _, _, _ => none
  | fuel + 1, breaks, deepest, cursor =>
      let spaces := (cursor.rest.takeWhile (· = ' ')).length
      let cursor :=
        cursor.skipMany (if indent = 0 then spaces else min spaces (indent - cursor.column))
      let deepest := max deepest cursor.column
      if (indent = 0 || cursor.column < indent) && cursor.char = '\t' then none
      else if isBreak cursor.char then
        blockBreaks? indent fuel (breaks + 1) deepest cursor.skipBreak
      else some (breaks, deepest, cursor)

/-- A block of which some lines have been read. -/
structure Block where
  /-- The characters of the text, most recent first. -/
  text : List Char := []
  /-- Whether the last line ended. -/
  broken : Bool := false
  /-- How many empty lines followed. -/
  furtherBreaks : Nat := 0
  /-- Whether the last line began with a blank. -/
  leadingBlank : Bool := false
  deriving Inhabited

/-- Read the lines of a block with a known indentation. -/
def blockLines? (literal : Bool) (indent : Nat) : Nat → Block → Cursor → Option (Block × Cursor)
  | 0, _, _ => none
  | fuel + 1, block, cursor =>
      if cursor.column = indent && !cursor.atEnd then
        let blank := isBlank cursor.char
        let folded := !literal && block.broken && !block.leadingBlank && !blank
        let glue :=
          if folded then if block.furtherBreaks = 0 then [' '] else []
          else if block.broken then ['\n'] else []
        let breaks := List.replicate block.furtherBreaks '\n'
        let (line, cursor) := cursor.spanWith (!isBreakOrEnd ·)
        let text := line.reverse ++ breaks ++ glue ++ block.text
        if cursor.atEnd then some ({ text, leadingBlank := blank }, cursor)
        else do
          let cursor := cursor.skipBreak
          let (breaks, _, cursor) ← blockBreaks? indent (cursor.rest.length + 1) 0 0 cursor
          blockLines? literal indent fuel
            { text, broken := true, furtherBreaks := breaks, leadingBlank := blank } cursor
      else some (block, cursor)

/-- Read a block after its indicator; `outer` is the indentation around it. -/
def block? (literal : Bool) (outer : Int) (cursor : Cursor) : Option (String × Cursor) := do
  let (head, cursor) ← blockHead? cursor
  let given :=
    if head.increment = 0 then 0
    else if 0 ≤ outer then (outer + head.increment).toNat else head.increment
  let (breaks, deepest, cursor) ← blockBreaks? given (cursor.rest.length + 1) 0 0 cursor
  let indent := if given = 0 then max (max deepest (outer + 1).toNat) 1 else given
  let (block, cursor) ←
    blockLines? literal indent (cursor.rest.length + 2) { furtherBreaks := breaks } cursor
  let last := if block.broken && head.chomping ≠ .strip then ['\n'] else []
  let further :=
    if head.chomping = .keep then List.replicate block.furtherBreaks '\n' else []
  return (String.ofList (further ++ last ++ block.text).reverse, cursor)

end Yaml
end TunnelProxy
