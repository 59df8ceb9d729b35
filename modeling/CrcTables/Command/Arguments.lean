import CrcTables.Command.Choices

/-!
# Reading arguments

The arguments of a command are read from left to right.  An option is two dashes and its long
name, or a dash and its letter; letters may share a dash.  A value follows its option as the next
argument, or behind an equals sign, or directly behind the letter.  The next argument is no value
if it starts with a dash, unless it is a dash and nothing else.  Two dashes alone end the options:
what follows them is an argument whatever it looks like.

## What is here

* `Shape` — what an argument looks like.
* `Progress.feed` — one argument more.
* `Choices.ofArguments` — all of them.
-/

set_option autoImplicit false
namespace CrcTables

/-- What an argument looks like. -/
inductive Shape where
  /-- Two dashes alone. -/
  | endOfOptions
  /-- Two dashes and a name, perhaps with an equals sign and a value. -/
  | long (name : String) (value? : Option String)
  /-- A dash and letters. -/
  | letters (cs : List Char)
  /-- Anything else, a dash alone included. -/
  | word
  deriving DecidableEq, Repr

namespace Shape

/-- The text behind the first equals sign. -/
def valueOf? (s : List Char) : Option String :=
  match s.dropWhile fun c ↦ c != '=' with
  | [] => none
  | _ :: rest => some (String.ofList rest)

/-- What an argument looks like. -/
def ofArgument (argument : String) : Shape :=
  match argument.toList with
  | ['-'] => word
  | ['-', '-'] => endOfOptions
  | '-' :: '-' :: rest => long (String.ofList (rest.takeWhile fun c ↦ c != '=')) (valueOf? rest)
  | '-' :: rest => letters rest
  | _ => word

end Shape

/-- How far the arguments of a command have been read. -/
structure Progress where
  /-- What they say so far. -/
  choices : Choices
  /-- The option whose value comes next, if there is one. -/
  awaiting? : Option Key
  /-- Whether the options have ended. -/
  ended : Bool

namespace Progress

/-- No argument read. -/
def start : Progress := ⟨{}, none, false⟩

/-- The value behind a letter; one equals sign before it does not count. -/
def attached : List Char → String
  | '=' :: rest => String.ofList rest
  | s => String.ofList s

/-- Letters that share a dash, with the option whose value comes next, if there is one. -/
def feedLetters (c : Command) (ch : Choices) : List Char → Except Stop (Choices × Option Key)
  | [] => .ok (ch, none)
  | l :: rest =>
    match c.keyOfLetter? l with
    | none => .error .usage
    | some k =>
      if k.takesValue then
        if rest.isEmpty then .ok (ch, some k)
        else (ch.assign k (attached rest)).map fun ch ↦ (ch, none)
      else
        match ch.raise k with
        | .error e => .error e
        | .ok ch => feedLetters c ch rest

/-- A long name, with the option whose value comes next, if there is one. -/
def feedLong (c : Command) (ch : Choices) (name : String) (value? : Option String) :
    Except Stop (Choices × Option Key) :=
  match c.keyOfLong? name with
  | none => .error .usage
  | some k =>
    match k.takesValue, value? with
    | true, some v => (ch.assign k v).map fun ch ↦ (ch, none)
    | true, none => .ok (ch, some k)
    | false, none => (ch.raise k).map fun ch ↦ (ch, none)
    | false, some _ => .error .usage

/-- One argument more. -/
def feed (c : Command) (pr : Progress) (argument : String) : Except Stop Progress :=
  if pr.ended then
    (pr.choices.addWord c argument).map fun ch ↦ { pr with choices := ch }
  else
    match pr.awaiting?, Shape.ofArgument argument with
    | some k, .word => (pr.choices.assign k argument).map fun ch ↦ ⟨ch, none, false⟩
    | some _, _ => .error .usage
    | none, .endOfOptions => .ok { pr with ended := true }
    | none, .long name value? =>
      (feedLong c pr.choices name value?).map fun r ↦ ⟨r.1, r.2, false⟩
    | none, .letters cs => (feedLetters c pr.choices cs).map fun r ↦ ⟨r.1, r.2, false⟩
    | none, .word => (pr.choices.addWord c argument).map fun ch ↦ { pr with choices := ch }

end Progress

/-- What the arguments of a command say. -/
def Choices.ofArguments (c : Command) (arguments : List String) : Except Stop Choices :=
  match arguments.foldlM (Progress.feed c) Progress.start with
  | .error e => .error e
  | .ok pr => if pr.awaiting?.isSome then .error .usage else .ok pr.choices

end CrcTables
