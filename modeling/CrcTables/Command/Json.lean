import CrcTables.Text.Count
import CrcTables.Text.Hex

/-!
# Records in JSON

Output for programs is a list of flat records.  Each record and each of its fields stands on
lines of its own, two blanks deeper than what encloses it.

## What is here

* `JsonValue`, `JsonRecord` — values, and named values in order.
* `jsonList` — the text of a list of records.
-/

set_option autoImplicit false
namespace CrcTables

/-- A value of a record. -/
inductive JsonValue where
  /-- A text. -/
  | text (s : String)
  /-- A number. -/
  | number (n : Nat)
  /-- A truth value. -/
  | truth (b : Bool)
  /-- No value. -/
  | null
  deriving DecidableEq, Repr

/-- Named values, in the order in which they are written. -/
abbrev JsonRecord := List (String × JsonValue)

namespace JsonValue

/-- A character between double quotes.  The two that would end or change the text and the control
characters below the blank are escaped. -/
def escape (c : Char) : List Char :=
  match c with
  | '"' => ['\\', '"']
  | '\\' => ['\\', '\\']
  | '\x08' => ['\\', 'b']
  | '\t' => ['\\', 't']
  | '\n' => ['\\', 'n']
  | '\x0c' => ['\\', 'f']
  | '\r' => ['\\', 'r']
  | c => if c.toNat < 0x20 then '\\' :: 'u' :: Text.writeHex 4 c.toNat [] else [c]

/-- A text between double quotes. -/
def quote (s : String) : List Char := '"' :: s.toList.flatMap escape ++ ['"']

/-- The text of a value. -/
def write : JsonValue → List Char
  | text s => quote s
  | number n => Text.decimal n
  | truth true => "true".toList
  | truth false => "false".toList
  | null => "null".toList

end JsonValue

/-- Texts with a comma and a line feed between any two. -/
def commaLines (texts : List (List Char)) : List Char := [',', '\n'].intercalate texts

/-- The text of a record, as a member of a list. -/
def JsonRecord.write (r : JsonRecord) : List Char :=
  let field (f : String × JsonValue) : List Char :=
    "    ".toList ++ JsonValue.quote f.1 ++ ": ".toList ++ f.2.write
  "  \x7b\n".toList ++ commaLines (r.map field) ++ "\n  \x7d".toList

/-- The text of a list of records. -/
def jsonList (rs : List JsonRecord) : List Char :=
  if rs.isEmpty then "[]".toList
  else "[\n".toList ++ commaLines (rs.map JsonRecord.write) ++ "\n]".toList

end CrcTables
