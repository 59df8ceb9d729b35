import CrcTables.Checksum.Stream

/-!
# Files and standard input

The program sees files by name and one standard input.  Standard input has to be read in order, so
whoever reads it first gets all of it, and whoever comes later gets nothing.

## What is here

* `FileFault` — why a file cannot be read.
* `Surroundings` — what the program can read.
* `Surroundings.sources` — the inputs of a list of names, where a dash stands for standard input.
-/

set_option autoImplicit false
namespace CrcTables

/-- Why a file cannot be read. -/
inductive FileFault where
  /-- There is no such file. -/
  | missing
  /-- A directory cannot be read as a file. -/
  | isDirectory
  /-- A part of the path before its end is no directory. -/
  | notDirectory
  /-- The path, or the name of a step on it, is too long. -/
  | nameTooLong
  /-- The bytes of the file are no UTF-8 text. -/
  | notText
  /-- Any other reason, in words. -/
  | other (reason : String)
  deriving DecidableEq, Repr

namespace FileFault

/-- The reason in words. -/
def message : FileFault → String
  | missing => "No such file or directory (os error 2)"
  | isDirectory => "Is a directory (os error 21)"
  | notDirectory => "Not a directory (os error 20)"
  | nameTooLong => "File name too long (os error 36)"
  | notText => "stream did not contain valid UTF-8"
  | other reason => reason

/-- The reason behind an error code of the operating system, with its description. -/
def ofCode (code : Nat) (description : String) : FileFault :=
  match code with
  | 2 => missing
  | 20 => notDirectory
  | 21 => isDirectory
  | 36 => nameTooLong
  | _ => other (description.capitalize ++ " (os error " ++ toString code ++ ")")

end FileFault

/-- What reading a file or standard input delivers. -/
abbrev Deliveries := List (Delivery FileFault)

/-- What the program can read. -/
structure Surroundings where
  /-- Opens a file by its name. -/
  openFile : String → Except FileFault Deliveries
  /-- What reading standard input to its end delivers. -/
  standardInput : Deliveries

/-- An input with the name it is reported under. -/
structure Source where
  /-- The name. -/
  name : String
  /-- What reading it delivers, if it can be opened. -/
  opened : Except FileFault Deliveries

namespace Surroundings

/-- Whether a path is a dash alone, which stands for standard input.  Empty steps and steps to the
same directory behind the dash do not count; before it they make it the name of a file. -/
def isDash (path : String) : Bool :=
  match path.toList.splitOn '/' with
  | first :: rest => first == ['-'] && rest.all fun step ↦ step == [] || step == ['.']
  | [] => false

/-- The inputs of some names, where `left` is what standard input still delivers. -/
def sourcesFrom (s : Surroundings) (left : Deliveries) : List String → List Source
  | [] => []
  | name :: rest =>
    if isDash name then ⟨"<stdin>", .ok left⟩ :: s.sourcesFrom [] rest
    else ⟨name, s.openFile name⟩ :: s.sourcesFrom left rest

/-- The inputs of some names; without a name, standard input is the only one. -/
def sources (s : Surroundings) (names : List String) : List Source :=
  s.sourcesFrom s.standardInput (if names.isEmpty then ["-"] else names)

/-- The text of a file. -/
def readText (s : Surroundings) (name : String) : Except FileFault String :=
  match s.openFile name with
  | .error e => .error e
  | .ok deliveries =>
    match Delivery.collect deliveries with
    | .error e => .error e
    | .ok bytes =>
      match String.fromUTF8? bytes.toByteArray with
      | some text => .ok text
      | none => .error .notText

end Surroundings
end CrcTables
