import TunnelProxy.Text.Unicode.Property

/-!
# Regular expressions

The expressions which patterns stand for.  A position in a text lies between two characters, or at
one of its ends; looks test a position without moving.
-/

namespace TunnelProxy

open Text (CharSet)

/-- A test of a position by the characters around it. -/
inductive Look where
  /-- At the start of the text. -/
  | textStart
  /-- At the end of the text. -/
  | textEnd
  /-- At the start of a line. -/
  | lineStart
  /-- At the end of a line. -/
  | lineEnd
  /-- At the start of a line, where a carriage return before a line feed belongs to its line end. -/
  | returnLineStart
  /-- At the end of a line, where a carriage return before a line feed belongs to its line end. -/
  | returnLineEnd
  /-- At the start or the end of a word. -/
  | wordBoundary (word : CharSet)
  /-- Neither at the start nor at the end of a word. -/
  | noWordBoundary (word : CharSet)
  /-- At the start of a word. -/
  | wordStart (word : CharSet)
  /-- At the end of a word. -/
  | wordEnd (word : CharSet)
  /-- Not behind a word character. -/
  | notAfterWord (word : CharSet)
  /-- Not before a word character. -/
  | notBeforeWord (word : CharSet)
  deriving DecidableEq, Inhabited

namespace Look

/-- Whether there is a character and it is in a set. -/
def isIn (set : CharSet) (char : Option Char) : Bool :=
  char.any set.contains

/-- Whether a position between two optional characters passes a test. -/
def holds (look : Look) (before after : Option Char) : Bool :=
  match look with
  | textStart => before.isNone
  | textEnd => after.isNone
  | lineStart => before.all (· = '\n')
  | lineEnd => after.all (· = '\n')
  | returnLineStart => before.all (· = '\n') || (before = some '\r' && after ≠ some '\n')
  | returnLineEnd => after.all (· = '\r') || (after = some '\n' && before ≠ some '\r')
  | wordBoundary word => isIn word before ≠ isIn word after
  | noWordBoundary word => isIn word before = isIn word after
  | wordStart word => !isIn word before && isIn word after
  | wordEnd word => isIn word before && !isIn word after
  | notAfterWord word => !isIn word before
  | notBeforeWord word => !isIn word after

end Look

/-- A regular expression. -/
inductive Regex where
  /-- The empty text. -/
  | empty
  /-- One character of a set. -/
  | oneOf (members : CharSet)
  /-- The empty text at a position which passes a test. -/
  | look (test : Look)
  /-- One expression after another. -/
  | seq (first second : Regex)
  /-- Either expression. -/
  | alt (first second : Regex)
  /-- An expression repeated at least `least` times, and at most `extra` times more if that is
  bounded. -/
  | run (body : Regex) (least : Nat) (extra : Option Nat)
  deriving DecidableEq, Inhabited

namespace Regex

/-- One character after another expression. -/
def char (value : Char) : Regex := oneOf (CharSet.singleton value)

/-- Expressions one after another. -/
def concat (parts : List Regex) : Regex := parts.foldr seq empty

/-- An expression repeated; a run of runs is written as one run where that is possible. -/
def runOf (body : Regex) (least : Nat) (extra : Option Nat) : Regex :=
  match body, extra with
  | run inner 0 none, none => run inner 0 none
  | run inner 1 none, none => run inner least none
  | _, _ => run body least extra

end Regex
end TunnelProxy
