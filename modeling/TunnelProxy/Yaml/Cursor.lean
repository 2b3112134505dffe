/-!
# Positions in a document

A cursor is the rest of a document together with its position, counted in characters and lines.
-/

namespace TunnelProxy
namespace Yaml

/-- The rest of a document and where it begins. -/
structure Cursor where
  /-- The characters which have not been read. -/
  rest : List Char
  /-- How many characters have been read. -/
  index : Nat := 0
  /-- How many line ends have been read. -/
  line : Nat := 0
  /-- How many characters of the current line have been read. -/
  column : Nat := 0
  deriving DecidableEq, Inhabited

/-- A space or a tab. -/
def isBlank (char : Char) : Bool := char = ' ' || char = '\t'

/-- A line end. -/
def isBreak (char : Char) : Bool := char = '\n' || char = '\r'

/-- A line end or the end of the document. -/
def isBreakOrEnd (char : Char) : Bool := isBreak char || char = '\x00'

/-- Blank, line end or the end of the document. -/
def isBlankOrEnd (char : Char) : Bool := isBlank char || isBreakOrEnd char

/-- A character which structures collections in brackets and braces. -/
def isFlow (char : Char) : Bool := [',', '[', ']', '\x7b', '\x7d'].contains char

namespace Cursor

/-- A later character; past the end of the document there are null characters. -/
def peek (cursor : Cursor) (offset : Nat) : Char := cursor.rest.getD offset '\x00'

/-- The next character. -/
def char (cursor : Cursor) : Char := cursor.rest.headD '\x00'

/-- Whether the document is over; a null character ends it, too. -/
def atEnd (cursor : Cursor) : Bool := cursor.char = '\x00'

/-- Go past one character. -/
def skip (cursor : Cursor) : Cursor :=
  match cursor.rest with
  | [] => cursor
  | char :: rest =>
      if char = '\n' then ⟨rest, cursor.index + 1, cursor.line + 1, 0⟩
      else ⟨rest, cursor.index + 1, cursor.line, cursor.column + 1⟩

/-- Go past several characters. -/
def skipMany (cursor : Cursor) : Nat → Cursor
  | 0 => cursor
  | count + 1 => cursor.skip.skipMany count

/-- Go past a line end. -/
def skipBreak (cursor : Cursor) : Cursor :=
  if cursor.char = '\r' && cursor.peek 1 = '\n' then cursor.skip.skip
  else if isBreak cursor.char then cursor.skip
  else cursor

/-- Go past the characters with a property, which are returned, too. -/
def spanWith (property : Char → Bool) (cursor : Cursor) : List Char × Cursor :=
  let taken := cursor.rest.takeWhile property
  (taken, cursor.skipMany taken.length)

/-- Go past the characters with a property. -/
def skipWhile (property : Char → Bool) (cursor : Cursor) : Cursor :=
  (cursor.spanWith property).2

/-- Whether a line begins with three equal characters, as the marks between documents do. -/
def atMark (cursor : Cursor) (char : Char) : Bool :=
  cursor.column = 0 && cursor.char = char && cursor.peek 1 = char && cursor.peek 2 = char &&
    isBlankOrEnd (cursor.peek 3)

/-- Whether a mark between documents follows. -/
def atDocumentMark (cursor : Cursor) : Bool := cursor.atMark '-' || cursor.atMark '.'

end Cursor
end Yaml
end TunnelProxy
