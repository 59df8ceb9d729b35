import CrcTables.Listing.Flaw
import CrcTables.Listing.Language
import CrcTables.Text.Blank

/-!
# Reading a declaration

The part of a declaration before its equals sign holds the name of the array and its dimensions.
A colon in it marks Rust, where the type follows the colon; otherwise it is C, where the
dimensions follow the name in brackets.  The name is the last word before them.

## What is here

* `Declaration.read` — the name, the language and the dimensions.
* `Declaration.layout` — the layout that the dimensions stand for.
-/

set_option autoImplicit false
namespace CrcTables

/-- What a declaration says. -/
structure Declaration where
  /-- The name of the array. -/
  name : String
  /-- The language it is written in. -/
  language : Language
  /-- The dimensions, the outermost first. -/
  dimensions : List Nat
  deriving DecidableEq, Repr

namespace Declaration

/-- The name of an array: the last word before its dimensions. -/
def readName (s : List Char) : Except Flaw.Cause String :=
  match Text.lastWord s with
  | [] => .error .noName
  | word => .ok (String.ofList word)

/-- A dimension: a count, before any closing brackets. -/
def readDimension (s : List Char) : Except Flaw.Cause Nat :=
  let text := Text.trim (Text.dropEndWhile (fun c ↦ c == ']') (Text.trim s))
  match Text.count? text with
  | some n => .ok n
  | none => .error (.badDimension (String.ofList text))

/-- The dimensions in pieces of text, in order. -/
def readDimensions : List (List Char) → Except Flaw.Cause (List Nat)
  | [] => .ok []
  | s :: rest =>
    match readDimension s with
    | .error e => .error e
    | .ok n =>
      match readDimensions rest with
      | .error e => .error e
      | .ok ns => .ok (n :: ns)

/-- A declaration from what stands before the dimensions, and the pieces that hold them. -/
def assemble (language : Language) (before : List Char) (pieces : List (List Char)) :
    Except Flaw.Cause Declaration :=
  match readName before with
  | .error e => .error e
  | .ok name =>
    match readDimensions pieces with
    | .error e => .error e
    | .ok dims =>
      match language with
      | .c => .ok ⟨name, .c, dims⟩
      | .rust => .ok ⟨name, .rust, dims.reverse⟩

/-- The declaration before an equals sign.  In Rust each semicolon of the type is followed by a
dimension, the innermost first; in C each opening bracket is, the outermost first. -/
def read (s : List Char) : Except Flaw.Cause Declaration :=
  match s.dropWhile fun c ↦ c != ':' with
  | _ :: type => assemble .rust (s.takeWhile fun c ↦ c != ':') ((type.splitOn ';').drop 1)
  | [] =>
    match s.dropWhile fun c ↦ c != '[' with
    | _ :: rest => assemble .c (s.takeWhile fun c ↦ c != '[') (rest.splitOn '[')
    | [] => .error .noDimensions

/-- The layout of dimensions: one dimension for a flat table, two for a set of 1 to 64. -/
def layout (dims : List Nat) : Except Flaw.Cause Layout :=
  match dims with
  | [n] => if n = Table.size then .ok .single else .error (.dimensions dims)
  | [count, n] =>
    if n = Table.size then
      if 1 ≤ count ∧ count ≤ Layout.maxSlices then .ok (.sliced count)
      else .error (.tableCount count)
    else .error (.dimensions dims)
  | _ => .error (.dimensions dims)

end Declaration
end CrcTables
