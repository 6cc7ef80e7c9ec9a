import DesignBridge.Validation.Field

/-! # Labels and attributes

A label is a text with at least one character and no halves of surrogate pairs; tags, identifiers
and names are labels. Attributes are named texts, among which the name that holds identifiers is
never given.
-/

namespace DesignBridge

/-- A text with at least one character, all of which are whole. -/
structure Label where
  text : Runes
  nonempty : text ≠ ""
  whole : text.isWhole = true
  deriving DecidableEq

namespace Label

/-- A text as a label, unless it is empty or has halves. -/
def ofText (s : Runes) : Checked Label :=
  if whole : s.isWhole = true then
    if nonempty : s ≠ "" then .accepted ⟨s, nonempty, whole⟩ else .fail .textTooShort
  else .fail .textUnreadable

/-- Accepts a text that is not empty. -/
def read : Json → Checked Label
  | .text s => ofText s
  | _ => .fail .textExpected

theorem read_text (label : Label) : read (.text label.text) = .accepted label := by
  simp [read, ofText, label.nonempty, label.whole]

end Label

/-- The attribute that holds the identifier of an element. -/
def identifierAttribute : String := "data-oid"

/-- Attributes without an identifier. -/
structure Attributes where
  table : Table Runes
  free : table.contains identifierAttribute = false
  deriving DecidableEq

namespace Attributes

/-- The reason why attributes with an identifier are refused. -/
def reservedReason : String :=
  "'" ++ identifierAttribute ++ "' is reserved, use the 'oid' field instead"

/-- Accepts a table of texts in which no identifier is set. -/
def ofTable (table : Table Runes) : Checked Attributes :=
  if h : table.contains identifierAttribute = false then .accepted ⟨table, h⟩
  else .fail (.refused reservedReason)

/-- Reads attributes. Whether an identifier is set is looked at only if all values are texts. -/
def read (value : Json) : Checked Attributes :=
  (Validation.readTextTable value).andThen ofTable

theorem ofTable_table (attributes : Attributes) :
    ofTable attributes.table = .accepted attributes := by
  simp [ofTable, attributes.free]

end Attributes

end DesignBridge
