/-!
# Commands and options

The names on the command line: each command with its short name, and each option with the long
name that follows two dashes and the letter that follows one.
-/

set_option autoImplicit false
namespace CrcTables

/-- An option. -/
inductive Key where
  /-- A preset polynomial by name. -/
  | preset
  /-- A polynomial as a word. -/
  | polynomial
  /-- The word is in normal form. -/
  | normal
  /-- One flat table or a nested set. -/
  | mode
  /-- The number of tables of a set. -/
  | slices
  /-- The name of the array. -/
  | name
  /-- The number of entries in a row. -/
  | columns
  /-- The language of the listing. -/
  | language
  /-- The initial word of a checksum. -/
  | init
  /-- The final word of a checksum. -/
  | xorOut
  /-- Output for programs. -/
  | json
  /-- More diagnostics; the output is the same. -/
  | verbose
  /-- An explanation in place of any work. -/
  | help
  deriving DecidableEq, Repr

namespace Key

/-- The name of an option behind two dashes. -/
def long : Key → String
  | preset => "preset"
  | polynomial => "polynomial"
  | normal => "normal"
  | mode => "mode"
  | slices => "slices"
  | name => "name"
  | columns => "columns"
  | language => "syntax"
  | init => "init"
  | xorOut => "xor-out"
  | json => "json"
  | verbose => "verbose"
  | help => "help"

/-- The letter of an option behind one dash. -/
def letter? : Key → Option Char
  | preset => some 'p'
  | polynomial => some 'P'
  | mode => some 'm'
  | name => some 'n'
  | columns => some 'c'
  | language => some 's'
  | json => some 'j'
  | verbose => some 'v'
  | help => some 'h'
  | normal | slices | init | xorOut => none

/-- Whether an option comes with a value. -/
def takesValue : Key → Bool
  | normal | json | verbose | help => false
  | _ => true

end Key

/-- What the program can be told to do. -/
inductive Command where
  /-- Write a listing. -/
  | generate
  /-- Check that a listing is up to date. -/
  | check
  /-- Compute checksums of files. -/
  | checksum
  /-- List the presets. -/
  | presets
  /-- Write a completion script for a shell. -/
  | completions
  deriving DecidableEq, Repr

/-- How many arguments a command takes beside its options. -/
inductive Arity where
  /-- No argument. -/
  | none
  /-- Exactly one. -/
  | one
  /-- Any number. -/
  | many
  deriving DecidableEq, Repr

namespace Command

/-- All commands, in the order in which they are listed. -/
def all : List Command := [generate, check, checksum, presets, completions]

/-- The names of a command, the long one first. -/
def names : Command → List String
  | generate => ["generate", "g"]
  | check => ["check", "k"]
  | checksum => ["checksum", "c"]
  | presets => ["presets"]
  | completions => ["completions"]

/-- The command of a name. -/
def ofName? (name : String) : Option Command := all.find? fun c ↦ c.names.contains name

/-- The options of a command. -/
def keys : Command → List Key
  | generate =>
    [.preset, .polynomial, .normal, .mode, .slices, .name, .columns, .language, .verbose, .help]
  | check => [.preset, .polynomial, .normal, .mode, .slices, .verbose, .help]
  | checksum => [.preset, .polynomial, .normal, .init, .xorOut, .json, .verbose, .help]
  | presets => [.json, .verbose, .help]
  | completions => [.verbose, .help]

/-- The arguments of a command beside its options. -/
def arity : Command → Arity
  | generate | presets => .none
  | check | completions => .one
  | checksum => .many

/-- The option of a command with a long name. -/
def keyOfLong? (c : Command) (name : String) : Option Key :=
  c.keys.find? fun k ↦ k.long = name

/-- The option of a command with a letter. -/
def keyOfLetter? (c : Command) (letter : Char) : Option Key :=
  c.keys.find? fun k ↦ k.letter? = some letter

end Command
end CrcTables
