import TunnelProxy.Regex.CharClass

/-!
# Notation of regular expressions

The reader keeps the groups which are open and, for each, the alternatives read so far.  It refuses
what it does not understand: unknown escapes, back references, assertions about what comes before
or after, repetitions of nothing, and expressions which are nested too deeply or written out would
be too large.
-/

namespace TunnelProxy
namespace Regex

open Text (CharSet)

/-- A part of an expression. -/
structure Piece where
  /-- The expression it stands for. -/
  regex : Regex
  /-- How deep its notation is nested. -/
  depth : Nat
  /-- Whether there is nothing in it which could be repeated. -/
  bare : Bool
  deriving Inhabited

namespace Piece

/-- Pieces one after another, given most recent first. -/
def concat : List Piece → Piece
  | [] => ⟨.empty, 0, true⟩
  | [piece] => piece
  | pieces =>
      ⟨Regex.concat (pieces.reverse.map regex), (pieces.map depth).foldl max 0 + 1, false⟩

/-- Alternatives, given most recent first, of which there is at least one. -/
def choice (last : Piece) : List Piece → Piece
  | [] => last
  | earlier =>
      ⟨earlier.foldl (fun right left => .alt left.regex right) last.regex,
        ((last :: earlier).map depth).foldl max 0 + 1, false⟩

end Piece

/-- A group which is open: what has been read of it, most recent first. -/
structure OpenGroup where
  /-- The flags in force before the group. -/
  flags : Flags
  /-- The complete alternatives. -/
  alternatives : List Piece
  /-- The pieces of the last alternative. -/
  pieces : List Piece
  deriving Inhabited

/-- What is known when a part of an expression has been read. -/
structure ParseState where
  /-- The flags in force. -/
  flags : Flags := {}
  /-- The groups around the innermost one. -/
  outer : List OpenGroup := []
  /-- The complete alternatives of the innermost group. -/
  alternatives : List Piece := []
  /-- The pieces of its last alternative. -/
  pieces : List Piece := []
  /-- The names of groups. -/
  names : List (List Char) := []
  deriving Inhabited

namespace ParseState

/-- Go on after a piece. -/
def push (state : ParseState) (piece : Piece) : ParseState :=
  { state with pieces := piece :: state.pieces }

/-- Go on after an expression which is not nested. -/
def pushSimple (state : ParseState) (regex : Regex) : ParseState :=
  state.push ⟨regex, 0, false⟩

/-- The innermost group as one piece. -/
def value (state : ParseState) : Piece :=
  Piece.choice (Piece.concat state.pieces) state.alternatives

/-- Go on after a bar. -/
def alternate (state : ParseState) : ParseState :=
  { state with alternatives := Piece.concat state.pieces :: state.alternatives, pieces := [] }

/-- Go on inside a new group. -/
def openGroup (state : ParseState) (flags : Flags) : ParseState :=
  { state with
    flags
    outer := ⟨state.flags, state.alternatives, state.pieces⟩ :: state.outer
    alternatives := []
    pieces := [] }

/-- Go on after the innermost group. -/
def closeGroup? (state : ParseState) : Option ParseState :=
  match state.outer with
  | [] => none
  | group :: outer =>
      let inner := state.value
      some
        { state with
          flags := group.flags
          outer
          alternatives := group.alternatives
          pieces := ⟨inner.regex, inner.depth + 1, false⟩ :: group.pieces }

/-- Repeat the last piece. -/
def repeatLast? (state : ParseState) (least : Nat) (extra : Option Nat) : Option ParseState :=
  match state.pieces with
  | [] => none
  | piece :: pieces =>
      if piece.bare then none
      else some
        { state with pieces := ⟨runOf piece.regex least extra, piece.depth + 1, false⟩ :: pieces }

end ParseState

/-- Read flags up to a colon or a closing parenthesis, which is returned, too.  Each flag may be
given once; those after a dash are taken back. -/
def flags? (flags : Flags) (seen : List Char) :
    List Char → Option (Flags × List Char × Char × List Char)
  | [] => none
  | char :: rest =>
      if char = ':' || char = ')' then
        if seen.head? = some '-' then none else some (flags, seen, char, rest)
      else if seen.contains char then none
      else
        let value := !seen.contains '-'
        match char with
        | '-' => flags? flags ('-' :: seen) rest
        | 'i' => flags? { flags with ignoreCase := value } ('i' :: seen) rest
        | 'm' => flags? { flags with multiLine := value } ('m' :: seen) rest
        | 's' => flags? { flags with dotAll := value } ('s' :: seen) rest
        | 'u' => flags? { flags with unicode := value } ('u' :: seen) rest
        | 'R' => flags? { flags with carriageReturn := value } ('R' :: seen) rest
        | 'x' => flags? { flags with verbose := value } ('x' :: seen) rest
        | 'U' => flags? flags ('U' :: seen) rest
        | _ => none

/-- Whether a character may stand in the name of a group. -/
def isNameChar (first : Bool) (char : Char) : Bool :=
  if first then char = '_' || Text.Property.alphabetic.contains char
  else ['_', '.', '[', ']'].contains char || Text.Property.alphanumeric.contains char

/-- Read the name of a group up to its closing angle bracket. -/
def groupName? (input : List Char) : Option (List Char × List Char) :=
  let name := input.takeWhile (· ≠ '>')
  match name, input.drop name.length with
  | first :: more, '>' :: rest =>
      if isNameChar true first && more.all (isNameChar false) then some (name, rest) else none
  | _, _ => none

namespace ParseState

/-- Open a group with a name. -/
def openNamed? (state : ParseState) (input : List Char) : Option (ParseState × List Char) := do
  let (name, rest) ← groupName? input
  if state.names.contains name then none
  else return ({ state with names := name :: state.names }.openGroup state.flags, rest)

/-- Read what stands after an opening parenthesis. -/
def parenthesis? (state : ParseState) (input : List Char) : Option (ParseState × List Char) :=
  match state.flags.skip input with
  | '?' :: 'P' :: '<' :: rest => state.openNamed? rest
  | '?' :: '<' :: rest =>
      match rest with
      | '=' :: _ => none
      | '!' :: _ => none
      | _ => state.openNamed? rest
  | '?' :: rest => do
      let (flags, seen, last, rest) ← flags? state.flags [] rest
      if last = ':' then return (state.openGroup flags, rest)
      else if seen.isEmpty then none
      else return ({ state with flags }.push ⟨.empty, 0, true⟩, rest)
  | rest => some (state.openGroup state.flags, rest)

end ParseState

/-- Read decimal digits. -/
def digitRun (flags : Flags) : List Char → List Char × List Char
  | [] => ([], [])
  | char :: rest =>
      if char.isDigit then
        let (digits, after) := digitRun flags rest
        (char :: digits, after)
      else if flags.verbose && Text.Property.whiteSpace.contains char then digitRun flags rest
      else ([], char :: rest)

/-- Read a number of repetitions. -/
def count? (flags : Flags) (input : List Char) : Option (Nat × List Char) := do
  let blank := Text.Property.whiteSpace.contains
  let (digits, rest) := digitRun flags (input.dropWhile blank)
  return (← Text.Numeral.digits? 10 0xFFFFFFFF digits, rest.dropWhile blank)

/-- Read the bounds of a repetition after the opening brace: the least number and, if there is a
greatest one, how many more that is. -/
def bounds? (flags : Flags) (input : List Char) : Option (Nat × Option Nat × List Char) := do
  let (least, rest) ← count? flags (flags.skip input)
  match rest with
  | ',' :: rest =>
      match flags.skip rest with
      | '\x7d' :: rest => return (least, none, rest)
      | rest => do
          let (most, rest) ← count? flags rest
          match rest with
          | '\x7d' :: rest => if least ≤ most then return (least, some (most - least), rest) else none
          | _ => none
  | '\x7d' :: rest => return (least, some 0, rest)
  | _ => none

/-- Drop the mark of a repetition which prefers to be short. -/
def dropLazy : List Char → List Char
  | '?' :: rest => rest
  | rest => rest

namespace ParseState

/-- Go on after an escape, a class or a character. -/
def atom? (state : ParseState) (atom : Atom) : Option ParseState :=
  match atom with
  | .literal char => do
      let set ← state.flags.admit? (CharSet.singleton char)
      return state.pushSimple (.oneOf (state.flags.fold set))
  | .members set => some (state.pushSimple (.oneOf set))
  | .look test => some (state.pushSimple (.look test))

/-- Read one part of an expression. -/
def step? (state : ParseState) : List Char → Option (ParseState × List Char)
  | [] => none
  | '(' :: rest => state.parenthesis? rest
  | ')' :: rest => state.closeGroup?.map (·, rest)
  | '|' :: rest => some (state.alternate, rest)
  | '[' :: rest => do
      let (nested, rest) ← charClass? state.flags rest
      return (state.push ⟨.oneOf nested.set, nested.depth, false⟩, rest)
  | '?' :: rest => (state.repeatLast? 0 (some 1)).map (·, dropLazy rest)
  | '*' :: rest => (state.repeatLast? 0 none).map (·, dropLazy rest)
  | '+' :: rest => (state.repeatLast? 1 none).map (·, dropLazy rest)
  | '\x7b' :: rest => do
      let (least, extra, rest) ← bounds? state.flags rest
      return (← state.repeatLast? least extra, dropLazy (state.flags.skip rest))
  | '\\' :: rest => do
      let (atom, rest) ← escape? state.flags rest
      return (← state.atom? atom, rest)
  | '.' :: rest => do return (state.pushSimple (.oneOf (← state.flags.dot?)), rest)
  | '^' :: rest => some (state.pushSimple (.look state.flags.lineStart), rest)
  | '$' :: rest => some (state.pushSimple (.look state.flags.lineEnd), rest)
  | char :: rest => (state.atom? (.literal char)).map (·, rest)

/-- Read an expression to its end.  Every step takes at least one character, so `fuel` may be the
length of the input and one more. -/
def finish? (state : ParseState) : Nat → List Char → Option Piece
  | 0, _ => none
  | fuel + 1, input =>
      match state.flags.skip input with
      | [] => if state.outer.isEmpty then some state.value else none
      | rest => do
          let (next, rest) ← state.step? rest
          next.finish? fuel rest

end ParseState

/-- The deepest nesting of notation. -/
def maximumDepth : Nat := 250

/-- The greatest size of an expression whose repetitions are written out. -/
def maximumSize : Nat := 10485760

/-- About how large an expression is if its repetitions are written out. -/
def size : Regex → Nat
  | empty => 24
  | oneOf members =>
      match members.ranges with
      | [_] => 24
      | ranges => 24 + 20 * ranges.length
  | look _ => 24
  | seq first second => first.size + second.size
  | alt first second => first.size + second.size + 24
  | run body least extra => body.size * (least + extra.getD 1) + 24

/-- Read a regular expression. -/
def parse? (text : String) : Option Regex := do
  let input := text.toList
  let piece ← ParseState.finish? {} (input.length + 1) input
  if piece.depth ≤ maximumDepth ∧ piece.regex.size ≤ maximumSize then some piece.regex else none

end Regex
end TunnelProxy
