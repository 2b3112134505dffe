import TunnelProxy.Text.Unicode.Category
import TunnelProxy.Text.Unicode.PropertyTables

/-!
# Character properties

Classes of characters made up from general categories.
-/

namespace TunnelProxy
namespace Text
namespace Category

/-- Letters of all kinds. -/
def letter : CharSet :=
  CharSet.unions [uppercaseLetter, lowercaseLetter, titlecaseLetter, modifierLetter, otherLetter]

/-- Letters with case. -/
def casedLetter : CharSet :=
  CharSet.unions [uppercaseLetter, lowercaseLetter, titlecaseLetter]

/-- Marks of all kinds. -/
def mark : CharSet := CharSet.unions [nonspacingMark, spacingMark, enclosingMark]

/-- Numbers of all kinds. -/
def number : CharSet := CharSet.unions [decimalNumber, letterNumber, otherNumber]

/-- Punctuation of all kinds. -/
def punctuation : CharSet :=
  CharSet.unions
    [connectorPunctuation, dashPunctuation, openPunctuation, closePunctuation,
      initialPunctuation, finalPunctuation, otherPunctuation]

/-- Symbols of all kinds. -/
def symbol : CharSet := CharSet.unions [mathSymbol, currencySymbol, modifierSymbol, otherSymbol]

/-- Separators of all kinds. -/
def separator : CharSet := CharSet.unions [spaceSeparator, lineSeparator, paragraphSeparator]

/-- Characters which have a category and are not for private use. -/
def visibleOrControl : CharSet :=
  CharSet.unions [letter, mark, number, punctuation, symbol, separator, control, format]

/-- Characters which have a category. -/
def assigned : CharSet := visibleOrControl.union privateUse

/-- Characters without a category. -/
def unassigned : CharSet := assigned.complement

/-- Everything which is no letter, mark, number, punctuation, symbol or separator. -/
def other : CharSet :=
  (CharSet.unions [letter, mark, number, punctuation, symbol, separator]).complement

end Category

namespace Property

/-- Alphabetic characters. -/
def alphabetic : CharSet :=
  CharSet.unions [Category.letter, Category.letterNumber, otherAlphabetic]

/-- Lowercase characters. -/
def lowercase : CharSet := Category.lowercaseLetter.union otherLowercase

/-- Uppercase characters. -/
def uppercase : CharSet := Category.uppercaseLetter.union otherUppercase

/-- Alphabetic characters and numbers. -/
def alphanumeric : CharSet := alphabetic.union Category.number

/-- White space. -/
def whiteSpace : CharSet :=
  CharSet.ofTable ["9-D 20 85 A0 1680 2000-200A 2028-2029 202F 205F 3000"]

/-- Characters of words: alphabetic ones, marks, decimal digits, connectors and joiners. -/
def word : CharSet :=
  CharSet.unions
    [alphabetic, Category.mark, Category.decimalNumber, Category.connectorPunctuation,
      CharSet.ofTable ["200C-200D"]]

/-- Characters which extend the one before. -/
def graphemeExtend : CharSet :=
  CharSet.unions [Category.nonspacingMark, Category.enclosingMark, otherGraphemeExtend]

/-- Characters which are shown as themselves in a quoted text. -/
def printable : CharSet :=
  (CharSet.unions
    [Category.letter, Category.mark, Category.number, Category.punctuation, Category.symbol]).union
      (CharSet.singleton ' ')

end Property
end Text
end TunnelProxy
