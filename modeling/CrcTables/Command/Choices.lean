import CrcTables.Command.Key
import CrcTables.Listing.Language
import CrcTables.Checksum.Variant
import CrcTables.Generator.Spelling

/-!
# Choices on the command line

`Choices` holds what the options and arguments say, each value already read.  An option is given
at most once, except the one for diagnostics; its value has to be one that can be read.

## What is here

* `Shell` — the shells that completion scripts are written for.
* `Choices.assign` — an option with its value.
* `Choices.raise` — an option without a value.
* `Choices.addWord` — an argument that is no option.
-/

set_option autoImplicit false
namespace CrcTables

/-- Why the arguments lead to no work. -/
inductive Stop where
  /-- They are not understood. -/
  | usage
  /-- An explanation is asked for. -/
  | help
  /-- The program's version is asked for. -/
  | version
  deriving DecidableEq, Repr

/-- A shell that completion scripts are written for. -/
inductive Shell where
  /-- Bash. -/
  | bash
  /-- Elvish. -/
  | elvish
  /-- Fish. -/
  | fish
  /-- PowerShell. -/
  | powershell
  /-- Zsh. -/
  | zsh
  deriving DecidableEq, Repr

namespace Shell

/-- The shell of a name. -/
def ofName? : String → Option Shell
  | "bash" => some bash
  | "elvish" => some elvish
  | "fish" => some fish
  | "powershell" => some powershell
  | "zsh" => some zsh
  | _ => none

end Shell

/-- Whether tables are written flat or nested. -/
inductive Nesting where
  /-- One flat table. -/
  | single
  /-- A nested set. -/
  | sliced
  deriving DecidableEq, Repr

/-- What the options and arguments say. -/
structure Choices where
  /-- The preset. -/
  preset? : Option Variant := none
  /-- The polynomial given as a word. -/
  polynomial? : Option UInt64 := none
  /-- Whether that word is in normal form. -/
  normal : Bool := false
  /-- Flat or nested. -/
  nesting? : Option Nesting := none
  /-- The number of tables of a set. -/
  slices? : Option Nat := none
  /-- The name of the array. -/
  name? : Option String := none
  /-- The number of entries in a row. -/
  columns? : Option Nat := none
  /-- The language of the listing. -/
  language? : Option Language := none
  /-- The initial word. -/
  init? : Option UInt64 := none
  /-- The final word. -/
  xorOut? : Option UInt64 := none
  /-- Whether output is for programs. -/
  json : Bool := false
  /-- The arguments that are no options, in order. -/
  words : List String := []

namespace Choices

/-- The nesting of a name. -/
def nestingOf? : String → Option Nesting
  | "single" => some .single
  | "sliced" => some .sliced
  | _ => none

/-- The language of a name. -/
def languageOf? : String → Option Language
  | "c" => some .c
  | "rust" => some .rust
  | _ => none

/-- A number of tables that a set can have. -/
def slicesOf? (text : String) : Option Nat :=
  (Text.count? text.toList).filter fun n ↦ decide (Layout.sliced n).Accepted

/-- A value for a place that has to be empty before. -/
def once {α : Type} (place value? : Option α) : Except Stop (Option α) :=
  match place, value? with
  | none, some v => .ok (some v)
  | _, _ => .error .usage

/-- The choices with the value of an option, which was not given before. -/
def assign (ch : Choices) (k : Key) (text : String) : Except Stop Choices :=
  match k with
  | .preset =>
    (once ch.preset? (Variant.presets.find? fun v ↦ v.name = text)).map
      fun x ↦ { ch with preset? := x }
  | .polynomial =>
    (once ch.polynomial? (Generator.read? text.toList)).map
      fun x ↦ { ch with polynomial? := x }
  | .mode => (once ch.nesting? (nestingOf? text)).map fun x ↦ { ch with nesting? := x }
  | .slices => (once ch.slices? (slicesOf? text)).map fun x ↦ { ch with slices? := x }
  | .name => (once ch.name? (some text)).map fun x ↦ { ch with name? := x }
  | .columns =>
    (once ch.columns? (Text.count? text.toList)).map fun x ↦ { ch with columns? := x }
  | .language => (once ch.language? (languageOf? text)).map fun x ↦ { ch with language? := x }
  | .init => (once ch.init? (Generator.read? text.toList)).map fun x ↦ { ch with init? := x }
  | .xorOut =>
    (once ch.xorOut? (Generator.read? text.toList)).map fun x ↦ { ch with xorOut? := x }
  | .normal | .json | .verbose | .help => .error .usage

/-- The choices with an option that has no value. -/
def raise (ch : Choices) (k : Key) : Except Stop Choices :=
  match k with
  | .normal => if ch.normal then .error .usage else .ok { ch with normal := true }
  | .json => if ch.json then .error .usage else .ok { ch with json := true }
  | .verbose => .ok ch
  | .help => .error .help
  | _ => .error .usage

/-- The choices with one more argument for a command.  The empty text names no file. -/
def addWord (ch : Choices) (c : Command) (text : String) : Except Stop Choices :=
  if text.isEmpty then .error .usage
  else
    match c.arity, ch.words with
    | .one, [] =>
      if c = .completions ∧ Shell.ofName? text = none then .error .usage
      else .ok { ch with words := [text] }
    | .many, _ => .ok { ch with words := ch.words ++ [text] }
    | _, _ => .error .usage

end Choices
end CrcTables
