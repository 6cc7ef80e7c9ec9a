import DesignBridge.Table
import DesignBridge.Text.Blank
import DesignBridge.Web.Percent

/-! # Forms in queries

Names with values as the query of an address: pairs with an equals sign between name and value and
an ampersand between neighbours. A blank is written as a plus sign, and everything but letters,
digits and four marks as escapes; so neither sign occurs in what is written.
-/

namespace DesignBridge.Form

open Text

/-- One character of a name or a value. -/
def encodeChar (c : Char) : List Char :=
  if c = ' ' then ['+'] else if Percent.isUnreserved c then [c] else Percent.escapeChar c

/-- A name or a value. -/
def encodeText (s : String) : List Char :=
  s.toList.flatMap encodeChar

/-- A name with its value. -/
def encodePair (pair : String × String) : List Char :=
  encodeText pair.1 ++ '=' :: encodeText pair.2

/-- Writes the pieces with a character between neighbours. -/
def interleave (sep : Char) : List (List Char) → List Char
  | [] => []
  | [piece] => piece
  | piece :: rest => piece ++ sep :: interleave sep rest

/-- The query of some names with values. -/
def encode (pairs : Entries String String) : String :=
  String.ofList (interleave '&' (pairs.map encodePair))

/-- Reads a name or a value. -/
def decodeText (cs : List Char) : String :=
  String.ofList (Percent.decode (cs.map fun c => if c = '+' then ' ' else c))

/-- Reads a pair: what stands before the first equals sign, and what stands behind it. -/
def decodePair (cs : List Char) : String × String :=
  (decodeText (cs.takeWhile (· ≠ '=')), decodeText ((cs.dropWhile (· ≠ '=')).drop 1))

/-- The names with values of a query. Empty pairs are left out. -/
def decode (query : String) : Entries String String :=
  ((splitAt '&' query.toList).filter (!·.isEmpty)).map decodePair

/-- The value under a name; of several the last one counts. -/
def value? (pairs : Entries String String) (name : String) : Option String :=
  pairs.reverse.lookup name

end DesignBridge.Form
