import CrcTables.Error
import CrcTables.Listing.Language
import CrcTables.Rows

/-!
# The style of a listing

A style is what the writer of a listing may choose: the language, the name of the array, and how
many entries stand in a row.

## What is here

* `Style`, with the default choices for a language (`Style.ofLanguage`).
* `isIdentifier` — the names that both languages allow, keywords aside.
* `Style.check` — a style is accepted if its rows hold something and its name can be declared.
* `Style.rowsPerTable`, `Style.rowsPerTable?` — the number of rows that a table takes.
-/

set_option autoImplicit false
namespace CrcTables

/-- Whether a character can start an identifier: an ASCII letter or an underscore. -/
def isIdentifierStart (c : Char) : Bool := c.isAlpha || c == '_'

/-- Whether a character can stand inside an identifier: an ASCII letter or digit, or an
underscore. -/
def isIdentifierPart (c : Char) : Bool := c.isAlphanum || c == '_'

/-- Whether a text is an identifier of both languages.  The underscore alone is none. -/
def isIdentifier (name : String) : Bool :=
  match name.toList with
  | [] => false
  | c :: rest => isIdentifierStart c && rest.all isIdentifierPart && name != "_"

/-- The choices of the writer of a listing. -/
structure Style where
  /-- The language written. -/
  language : Language
  /-- The name of the array. -/
  name : String
  /-- The number of entries in a row. -/
  columns : Nat
  deriving DecidableEq, Repr

namespace Style

/-- The number of entries in a row when none is chosen. -/
def defaultColumns : Nat := 2

/-- The default choices for a language. -/
def ofLanguage (l : Language) : Style := ⟨l, l.defaultName, defaultColumns⟩

instance : Inhabited Style := ⟨ofLanguage default⟩

/-- Whether the array can be declared under its name. -/
def NameAllowed (s : Style) : Prop :=
  isIdentifier s.name = true ∧ s.language.isKeyword s.name = false

/-- Whether a listing can be written in this style. -/
def Accepted (s : Style) : Prop := s.columns ≠ 0 ∧ s.NameAllowed

instance (s : Style) : Decidable s.NameAllowed :=
  inferInstanceAs (Decidable (_ ∧ _))

instance (s : Style) : Decidable s.Accepted :=
  inferInstanceAs (Decidable (_ ∧ _))

/-- Refuses a style that no listing can be written in; empty rows are reported before a bad
name. -/
def check (s : Style) : Except Error Unit :=
  if s.columns = 0 then .error (.columnCount s.columns)
  else if s.NameAllowed then .ok ()
  else .error (.arrayName s.name)

/-- The number of rows that the entries of a table take, the last row of which may be short; it is
counted on its own, without cutting the rows. -/
def rowsPerTable (s : Style) : Nat := rowCount s.columns Table.size

/-- The number of rows that the entries of a table take; `none` if the rows are empty. -/
def rowsPerTable? (s : Style) : Option Nat :=
  if s.columns = 0 then none else some s.rowsPerTable

/-- A style passes its check exactly if a listing can be written in it. -/
theorem check_eq_ok_iff (s : Style) : s.check = .ok () ↔ s.Accepted := by
  unfold check Accepted
  by_cases hc : s.columns = 0
  · simp [hc]
  · by_cases hn : s.NameAllowed <;> simp [hc, hn]

end Style
end CrcTables
