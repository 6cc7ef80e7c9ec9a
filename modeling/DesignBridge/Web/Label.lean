import DesignBridge.Web.Label.Character
import DesignBridge.Web.Label.Composition
import DesignBridge.Web.Label.Context
import DesignBridge.Web.Label.Direction
import DesignBridge.Web.Punycode

/-! # Labels

The names of hosts consist of labels. A label in letters of any script has an ASCII form, which
marks itself by its first four characters. Not every label has one: its characters, their contexts
and their directions have to fit.
-/

namespace DesignBridge.Label

/-- What the ASCII form of a label begins with, if it stands for other letters. -/
def mark : List Char := "xn--".toList

/-- The most characters that a label may have in its ASCII form. -/
def maxLength : Nat := 63

/-- Whether a label has no hyphen at its ends, nor at its third and fourth place. -/
def hyphensFit (label : List Char) : Bool :=
  label.head? != some '-' && label.getLast? != some '-' && (label.drop 2).take 2 != ['-', '-']

def isAllowed (label : List Char) : Bool :=
  !label.isEmpty && hyphensFit label && !label.head?.any isMark &&
    label.all (fun c => isCharacter c || c == joiner || c == nonJoiner) && contextsFit [] label &&
    directionsFit (label.map direction) && isComposed label

/-- Whether a label in ASCII is allowed: if it stands for another label, that one has to be. -/
def isAllowedAscii (label : List Char) : Bool :=
  if mark.isPrefixOf label then
    let coded := label.drop mark.length
    !coded.isEmpty && coded.getLast? != some '-' && (Punycode.decode? coded).any isAllowed
  else isAllowed label

/-- The ASCII form of a label in small letters. -/
def encode? (label : List Char) : Option (List Char) :=
  let ascii := label.all (·.toNat < 0x80)
  let written := if ascii then label else mark ++ Punycode.encode label
  if (if ascii then isAllowedAscii label else isAllowed label) && written.length ≤ maxLength then
    some written
  else none

end DesignBridge.Label
