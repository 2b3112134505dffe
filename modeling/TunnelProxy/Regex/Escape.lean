import TunnelProxy.Regex.Basic
import TunnelProxy.Text.Unicode.Fold
import TunnelProxy.Text.Unicode.Script

/-!
# Escapes of regular expressions

The notation after a backslash: characters with a meaning which are to stand for themselves,
characters by number, classes by letter or property, and tests of a position.  Which characters a
class holds depends on the flags in force.
-/

namespace TunnelProxy
namespace Regex

open Text (CharSet)

/-- The flags in force at a place of an expression. -/
structure Flags where
  /-- Upper and lower case are the same. -/
  ignoreCase : Bool := false
  /-- Line starts and ends count as starts and ends. -/
  multiLine : Bool := false
  /-- A dot stands for line ends, too. -/
  dotAll : Bool := false
  /-- Classes hold characters beyond the first 128. -/
  unicode : Bool := true
  /-- Carriage returns belong to line ends. -/
  carriageReturn : Bool := false
  /-- Blanks and comments mean nothing. -/
  verbose : Bool := false
  deriving DecidableEq, Inhabited

/-- The first 128 characters. -/
def ascii : CharSet := ⟨[⟨0, 0x7F⟩]⟩

/-- Whether a set holds none but the first 128 characters. -/
def isAscii (set : CharSet) : Bool :=
  set.ranges.all fun range => range.high < 0x80

namespace Flags

/-- A set as it is under the flags; with classes restricted to the first 128 characters, no other
set is possible. -/
def admit? (flags : Flags) (set : CharSet) : Option CharSet :=
  if flags.unicode || isAscii set then some set else none

/-- A set with the characters which are the same as a member under the flags. -/
def fold (flags : Flags) (set : CharSet) : CharSet :=
  if flags.ignoreCase then
    if flags.unicode then Text.Fold.close set else (Text.Fold.close set).inter ascii
  else set

/-- A set, or what it leaves out. -/
def negate (set : CharSet) (negated : Bool) : CharSet :=
  if negated then set.complement else set

/-- Decimal digits. -/
def digit (flags : Flags) : CharSet :=
  if flags.unicode then Text.Category.decimalNumber else CharSet.interval '0' '9'

/-- White space. -/
def space (flags : Flags) : CharSet :=
  if flags.unicode then Text.Property.whiteSpace else CharSet.ofTable ["9-D 20"]

/-- The ASCII characters of words. -/
def asciiWord : CharSet := CharSet.ofTable ["30-39 41-5A 5F 61-7A"]

/-- Characters of words. -/
def word (flags : Flags) : CharSet :=
  if flags.unicode then Text.Property.word else asciiWord

/-- What a dot stands for. -/
def dot? (flags : Flags) : Option CharSet :=
  if !flags.unicode then none
  else if flags.dotAll then some CharSet.all
  else if flags.carriageReturn then some (CharSet.ofTable ["A", "D"]).complement
  else some (CharSet.singleton '\n').complement

/-- What a circumflex tests. -/
def lineStart (flags : Flags) : Look :=
  if !flags.multiLine then .textStart
  else if flags.carriageReturn then .returnLineStart
  else .lineStart

/-- What a dollar sign tests. -/
def lineEnd (flags : Flags) : Look :=
  if !flags.multiLine then .textEnd
  else if flags.carriageReturn then .returnLineEnd
  else .lineEnd

end Flags

/-- What an escape stands for. -/
inductive Atom where
  /-- A character. -/
  | literal (value : Char)
  /-- Any character of a class. -/
  | members (set : CharSet)
  /-- A test. -/
  | look (test : Look)
  deriving Inhabited

/-- Drop blanks and comments; a comment runs from a number sign to the end of its line. -/
def dropBlanks (inComment : Bool) : List Char → List Char
  | [] => []
  | char :: rest =>
      if inComment then dropBlanks (char ≠ '\n') rest
      else if Text.Property.whiteSpace.contains char then dropBlanks false rest
      else if char = '#' then dropBlanks true rest
      else char :: rest

namespace Flags

/-- Drop what means nothing under the flags. -/
def skip (flags : Flags) (input : List Char) : List Char :=
  if flags.verbose then dropBlanks false input else input

end Flags

/-- Characters with a meaning of their own. -/
def isMeta (char : Char) : Bool :=
  "\\.+*?()|[]\x7b\x7d^$#&-~".toList.contains char

/-- A text in which a backslash stands before every character with a meaning of its own. -/
def escaped (text : List Char) : List Char :=
  text.flatMap fun char => if isMeta char then ['\\', char] else [char]

/-- Whether a backslash before a character without other meaning lets it stand for itself. -/
def isEscapable (char : Char) : Bool :=
  isMeta char || (char.toNat < 0x80 && !char.isAlphanum && char ≠ '<' && char ≠ '>')

/-- The character with a number. -/
def charOfCode? (code : Nat) : Option Char :=
  if code.isValidChar then some (Char.ofNat code) else none

/-- Read a fixed number of hexadecimal digits. -/
def hexDigits? (flags : Flags) (value : Nat) : Nat → List Char → Option (Char × List Char)
  | 0, input => (charOfCode? value).map (·, input)
  | count + 1, input =>
      match flags.skip input with
      | char :: rest => do
          hexDigits? flags (value * 16 + (← Text.Numeral.hexDigit? char)) count rest
      | [] => none

/-- Read hexadecimal digits up to a closing brace. -/
def bracedHex? (flags : Flags) (digits : List Char) : List Char → Option (Char × List Char)
  | [] => none
  | '\x7d' :: rest => do
      let value ← Text.Numeral.digits? 16 0xFFFFFFFF digits.reverse
      return (← charOfCode? value, rest)
  | char :: rest =>
      if flags.verbose && Text.Property.whiteSpace.contains char then
        bracedHex? flags digits rest
      else
        bracedHex? flags (char :: digits) rest

/-- Read a character number after the letter which tells how many digits it has. -/
def hex? (flags : Flags) (count : Nat) (input : List Char) : Option (Char × List Char) :=
  match flags.skip input with
  | '\x7b' :: rest => bracedHex? flags [] rest
  | other => hexDigits? flags 0 count other

/-- A property name without blanks, dashes and underscores, in lower case. -/
def normalName (name : List Char) : String :=
  let letters := (name.filter fun char =>
    char ≠ ' ' && char ≠ '-' && char ≠ '_' && char.toNat < 0x80).map Char.toLower
  match letters with
  | 'i' :: 's' :: rest => if rest = ['c'] then "isc" else String.ofList rest
  | _ => String.ofList letters

/-- The general categories by name. -/
def categories : List (List String × CharSet) :=
  [(["l", "letter"], Text.Category.letter),
    (["lc", "casedletter"], Text.Category.casedLetter),
    (["lu", "uppercaseletter"], Text.Category.uppercaseLetter),
    (["ll", "lowercaseletter"], Text.Category.lowercaseLetter),
    (["lt", "titlecaseletter"], Text.Category.titlecaseLetter),
    (["lm", "modifierletter"], Text.Category.modifierLetter),
    (["lo", "otherletter"], Text.Category.otherLetter),
    (["m", "mark", "combiningmark"], Text.Category.mark),
    (["mn", "nonspacingmark"], Text.Category.nonspacingMark),
    (["mc", "spacingmark"], Text.Category.spacingMark),
    (["me", "enclosingmark"], Text.Category.enclosingMark),
    (["n", "number"], Text.Category.number),
    (["nd", "decimalnumber", "digit"], Text.Category.decimalNumber),
    (["nl", "letternumber"], Text.Category.letterNumber),
    (["no", "othernumber"], Text.Category.otherNumber),
    (["p", "punctuation", "punct"], Text.Category.punctuation),
    (["pc", "connectorpunctuation"], Text.Category.connectorPunctuation),
    (["pd", "dashpunctuation"], Text.Category.dashPunctuation),
    (["ps", "openpunctuation"], Text.Category.openPunctuation),
    (["pe", "closepunctuation"], Text.Category.closePunctuation),
    (["pi", "initialpunctuation"], Text.Category.initialPunctuation),
    (["pf", "finalpunctuation"], Text.Category.finalPunctuation),
    (["po", "otherpunctuation"], Text.Category.otherPunctuation),
    (["s", "symbol"], Text.Category.symbol),
    (["sm", "mathsymbol"], Text.Category.mathSymbol),
    (["sc", "currencysymbol"], Text.Category.currencySymbol),
    (["sk", "modifiersymbol"], Text.Category.modifierSymbol),
    (["so", "othersymbol"], Text.Category.otherSymbol),
    (["z", "separator"], Text.Category.separator),
    (["zs", "spaceseparator"], Text.Category.spaceSeparator),
    (["zl", "lineseparator"], Text.Category.lineSeparator),
    (["zp", "paragraphseparator"], Text.Category.paragraphSeparator),
    (["c", "other"], Text.Category.other),
    (["cc", "control", "cntrl"], Text.Category.control),
    (["cf", "format"], Text.Category.format),
    (["cn", "unassigned"], Text.Category.unassigned),
    (["co", "privateuse"], Text.Category.privateUse),
    (["any"], CharSet.all),
    (["ascii"], ascii),
    (["assigned"], Text.Category.assigned)]

/-- The truth value properties by name. -/
def properties : List (List String × CharSet) :=
  [(["alpha", "alphabetic"], Text.Property.alphabetic),
    (["lower", "lowercase"], Text.Property.lowercase),
    (["upper", "uppercase"], Text.Property.uppercase),
    (["grext", "graphemeextend"], Text.Property.graphemeExtend),
    (["wspace", "whitespace", "space"], Text.Property.whiteSpace)]

/-- The first set which has a name. -/
def named? (name : String) (table : List (List String × CharSet)) : Option CharSet :=
  (table.find? fun entry => entry.1.contains name).map Prod.snd

/-- The characters of the script with a name. -/
def script? (name : String) : Option CharSet :=
  (Text.Script.all.find? fun script => script.names.contains name).map fun script =>
    CharSet.ofTable script.table

/-- The characters with a property: a truth value, a general category or a script.  A few short
names mean a category although a property is called so as well. -/
def property? (name : List Char) : Option CharSet :=
  let name := normalName name
  (if ["cf", "sc", "lc"].contains name then none else named? name properties)
    <|> named? name categories <|> script? name

/-- The characters for which a property with several values has a certain one. -/
def propertyValue? (name value : List Char) : Option CharSet :=
  let value := normalName value
  match normalName name with
  | "gc" => named? value categories
  | "generalcategory" => named? value categories
  | "sc" => script? value
  | "script" => script? value
  | _ => none

/-- Cut a text at the first place where one of several characters stands. -/
def cutAt? (chars : List Char) : List Char → Option (List Char × Char × List Char)
  | [] => none
  | char :: rest =>
      if chars.contains char then some ([], char, rest)
      else (cutAt? chars rest).map fun (front, cut, back) => (char :: front, cut, back)

/-- The characters meant by the text in braces after the letter for properties. -/
def bracedProperty? (text : List Char) : Option CharSet :=
  match cutAt? ['!', ':', '='] text with
  | some (name, '!', '=' :: value) => (propertyValue? name value).map CharSet.complement
  | some (name, ':', value) => propertyValue? name value
  | some (name, '=', value) => propertyValue? name value
  | _ => property? text

/-- The text up to a closing brace. -/
def upToBrace? (flags : Flags) : List Char → Option (List Char × List Char)
  | [] => none
  | '\x7d' :: rest => some ([], rest)
  | char :: rest =>
      (upToBrace? flags rest).map fun (front, back) =>
        (if flags.verbose && Text.Property.whiteSpace.contains char then front else char :: front,
          back)

/-- Read a property after its letter. -/
def propertyClass? (flags : Flags) (negated : Bool) (input : List Char) :
    Option (CharSet × List Char) := do
  if !flags.unicode then none
  let (set, rest) ←
    match flags.skip input with
    | '\x7b' :: rest => do
        let (text, rest) ← upToBrace? flags rest
        pure (← bracedProperty? text, rest)
    | '\\' :: _ => none
    | char :: rest => do pure (← property? [char], rest)
    | [] => none
  return (Flags.negate (flags.fold set) negated, rest)

/-- The test with a name in braces after the letter for word boundaries. -/
def boundary? (word : CharSet) (name : List Char) : Option Look :=
  match String.ofList name with
  | "start" => some (.wordStart word)
  | "end" => some (.wordEnd word)
  | "start-half" => some (.notAfterWord word)
  | "end-half" => some (.notBeforeWord word)
  | _ => none

/-- Letters of the names of tests. -/
def isBoundaryLetter (char : Char) : Bool := char.isAlpha || char = '-'

/-- Read a test after the letter for word boundaries.  A brace which is not followed by a letter
or a dash begins a repetition. -/
def wordBoundary? (flags : Flags) (input : List Char) : Option (Look × List Char) :=
  match input with
  | '\x7b' :: rest =>
      match flags.skip rest with
      | [] => none
      | char :: tail =>
          if isBoundaryLetter char then do
            let (text, after) ← upToBrace? flags (char :: tail)
            return (← boundary? flags.word text, after)
          else some (.wordBoundary flags.word, input)
  | _ => some (.wordBoundary flags.word, input)

/-- Read what stands after a backslash. -/
def escape? (flags : Flags) : List Char → Option (Atom × List Char)
  | [] => none
  | char :: rest =>
      let perl (set : CharSet) (negated : Bool) : Option (Atom × List Char) := do
        return (.members (← flags.admit? (Flags.negate set negated)), rest)
      let code (count : Nat) : Option (Atom × List Char) :=
        (hex? flags count rest).map fun (value, rest) => (.literal value, rest)
      let property (negated : Bool) : Option (Atom × List Char) :=
        (propertyClass? flags negated rest).map fun (set, rest) => (.members set, rest)
      match char with
      | 'x' => code 2
      | 'u' => code 4
      | 'U' => code 8
      | 'p' => property false
      | 'P' => property true
      | 'd' => perl flags.digit false
      | 'D' => perl flags.digit true
      | 's' => perl flags.space false
      | 'S' => perl flags.space true
      | 'w' => perl flags.word false
      | 'W' => perl flags.word true
      | 'a' => some (.literal '\x07', rest)
      | 'f' => some (.literal '\x0c', rest)
      | 't' => some (.literal '\t', rest)
      | 'n' => some (.literal '\n', rest)
      | 'r' => some (.literal '\r', rest)
      | 'v' => some (.literal '\x0b', rest)
      | 'A' => some (.look .textStart, rest)
      | 'z' => some (.look .textEnd, rest)
      | 'B' => some (.look (.noWordBoundary flags.word), rest)
      | '<' => some (.look (.wordStart flags.word), rest)
      | '>' => some (.look (.wordEnd flags.word), rest)
      | 'b' => (wordBoundary? flags rest).map fun (test, rest) => (.look test, rest)
      | _ => if isEscapable char then some (.literal char, rest) else none

end Regex
end TunnelProxy
