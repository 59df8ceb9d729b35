import CrcTables.Error
import CrcTables.Text.Count

/-!
# Flaws of a listing

A text that is no listing has a first flaw: a line and what is wrong there.  `Flaw.Cause.message`
holds the wording, `Flaw.toError` makes it an error of the library.
-/

set_option autoImplicit false
namespace CrcTables

/-- What can be wrong with a line. -/
inductive Flaw.Cause where
  /-- The text behind the polynomial's label spells no polynomial. -/
  | badPolynomial (text : String)
  /-- The declaration does not go on to an initializer. -/
  | noInitializer
  /-- The declaration has no name. -/
  | noName
  /-- The declaration is not one of an array. -/
  | noDimensions
  /-- A dimension is no count. -/
  | badDimension (text : String)
  /-- No set has this many tables. -/
  | tableCount (count : Nat)
  /-- The array is neither a table nor a set of tables. -/
  | dimensions (dims : List Nat)
  /-- This run of digits is no word. -/
  | badLiteral (digits : String)
  /-- The array does not have the declared number of entries. -/
  | entryCount (expected found : Nat)
  /-- The text ends without a declaration. -/
  | noDeclaration
  deriving DecidableEq, Repr

/-- A line, counted from one, and what is wrong there. -/
structure Flaw where
  /-- The line. -/
  line : Nat
  /-- What is wrong. -/
  cause : Flaw.Cause
  deriving DecidableEq, Repr

namespace Flaw

/-- Numbers in brackets, with a comma and a space between any two. -/
def bracketed (ns : List Nat) : String :=
  "[" ++ ", ".intercalate (ns.map toString) ++ "]"

/-- The wording of what is wrong. -/
def Cause.message : Cause → String
  | badPolynomial text => "bad polynomial " ++ Error.quoted text
  | noInitializer => "declaration has no initializer"
  | noName => "declaration has no name"
  | noDimensions => "declaration has no array dimensions"
  | badDimension text => "bad array dimension " ++ Error.quoted text
  | tableCount count => "table count " ++ toString count ++ " out of range 1..=64"
  | dimensions dims =>
    "unsupported dimensions " ++ bracketed dims ++ ", expected [256] or [N][256]"
  | badLiteral digits => "bad literal 0x" ++ digits
  | entryCount expected found =>
    "expected " ++ toString expected ++ " entries, found " ++ toString found
  | noDeclaration => "missing array declaration"

/-- The flaw as an error. -/
def toError (f : Flaw) : Error := .unreadable f.line f.cause.message

end Flaw
end CrcTables
