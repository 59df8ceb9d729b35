import CrcTables.Command.Arguments
import CrcTables.Command.Selection
import CrcTables.Listing.Style

/-!
# Requests

A request is what the program is asked to do, with all defaults filled in.

## What is here

* `Request.ofChoices` — the request of a command, unless its choices exclude each other.
* `Request.ofArguments` — the request of a whole command line.
-/

set_option autoImplicit false
namespace CrcTables

/-- What the program is asked to do. -/
inductive Request where
  /-- Write a listing of the tables of a polynomial. -/
  | generate (selection : Selection) (layout : Layout) (style : Style)
  /-- Check that a file holds the tables of a polynomial. -/
  | check (file : String) (selection : Selection) (layout : Layout)
  /-- Compute the checksums of files; a dash stands for standard input. -/
  | checksum (inputs : List String) (variant : Variant) (json : Bool)
  /-- List the presets. -/
  | presets (json : Bool)
  /-- Write a completion script. -/
  | completions (shell : Shell)
  deriving DecidableEq

namespace Request

/-- The polynomial selected.  A preset and a word exclude each other, and the normal form is a
form of a word. -/
def selectionOf (ch : Choices) : Except Stop Selection :=
  match ch.preset?, ch.polynomial? with
  | some _, some _ => .error .usage
  | some v, none => .ok (.preset v)
  | none, some w => .ok (if ch.normal then .normal w else .reflected w)
  | none, none => if ch.normal then .error .usage else .ok default

/-- The layout.  A flat table has no number of tables. -/
def layoutOf (ch : Choices) : Except Stop Layout :=
  match ch.nesting?, ch.slices? with
  | some .single, some _ => .error .usage
  | some .single, none => .ok .single
  | _, some n => .ok (.sliced n)
  | _, none => .ok .slicedByEight

/-- The style. -/
def styleOf (ch : Choices) : Style :=
  let base := Style.ofLanguage (ch.language?.getD default)
  { base with name := ch.name?.getD base.name, columns := ch.columns?.getD base.columns }

/-- The request of a command. -/
def ofChoices (c : Command) (ch : Choices) : Except Stop Request :=
  match c with
  | .generate => do return .generate (← selectionOf ch) (← layoutOf ch) (styleOf ch)
  | .check => do
    let selection ← selectionOf ch
    let layout ← layoutOf ch
    match ch.words with
    | [file] => return .check file selection layout
    | _ => .error .usage
  | .checksum => do
    let selection ← selectionOf ch
    return .checksum ch.words (selection.variantWith ch.init? ch.xorOut?) ch.json
  | .presets => .ok (.presets ch.json)
  | .completions =>
    match ch.words.map Shell.ofName? with
    | [some shell] => .ok (.completions shell)
    | _ => .error .usage

/-- The request for an explanation of the program or of one of its commands. -/
def helpOn : List String → Stop
  | [] => .help
  | [name] => if name = "help" ∨ (Command.ofName? name).isSome then .help else .usage
  | _ => .usage

/-- Letters before the command: `v`, `h` and `V`. -/
def generalLetters : List Char → Except Stop Unit
  | [] => .ok ()
  | 'v' :: rest => generalLetters rest
  | 'h' :: _ => .error .help
  | 'V' :: _ => .error .version
  | _ => .error .usage

/-- An argument before the command, which has to be an option of the program as a whole. -/
def generalOption (argument : String) : Except Stop Unit :=
  match Shape.ofArgument argument with
  | .long "verbose" none => .ok ()
  | .long "help" none => .error .help
  | .long "version" none => .error .version
  | .letters cs => generalLetters cs
  | _ => .error .usage

/-- The request of a command line. -/
def ofArguments : List String → Except Stop Request
  | [] => .error .usage
  | argument :: rest =>
    if argument = "help" then .error (helpOn rest)
    else
      match Command.ofName? argument with
      | some c =>
        match Choices.ofArguments c rest with
        | .error e => .error e
        | .ok ch => ofChoices c ch
      | none =>
        match generalOption argument with
        | .error e => .error e
        | .ok () => ofArguments rest

end Request
end CrcTables
