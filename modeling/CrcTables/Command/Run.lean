import CrcTables.Command.Report
import CrcTables.Command.Request
import CrcTables.Verification

/-!
# Running a command line

`run` takes the arguments to what the program prints and the code it ends with: 0 when the work is
done, 1 when it fails, and 2 when the arguments are not understood.  Nothing is printed for work
that fails.

## What is here

* `Outcome` — what is printed, and the code.
* `Failure` — why work fails.
* `Request.result` — the output of a request.
* `run` — a whole command line.
-/

set_option autoImplicit false
namespace CrcTables

/-- How the program ends. -/
structure Outcome where
  /-- The code. -/
  code : Nat
  /-- The output. -/
  output : String
  /-- The diagnostics. -/
  diagnostics : String
  deriving DecidableEq, Repr

/-- Why work fails. -/
inductive Failure where
  /-- A file cannot be read. -/
  | file (fault : FileFault)
  /-- Anything else. -/
  | error (cause : Error)
  deriving DecidableEq, Repr

namespace Failure

/-- The reason in words. -/
def message : Failure → String
  | file fault => fault.message
  | error cause => cause.message

end Failure

/-- A completion script, which offers the names of the commands. -/
def Shell.script (s : Shell) : String :=
  let names := " ".intercalate (Command.all.flatMap Command.names ++ ["help"])
  match s with
  | bash => "complete -W \"" ++ names ++ "\" crc64gen\n"
  | elvish =>
    "set edit:completion:arg-completer[crc64gen] = \x7b|@words| put " ++ names ++ " \x7d\n"
  | fish => "complete -c crc64gen -f -a \"" ++ names ++ "\"\n"
  | powershell =>
    "Register-ArgumentCompleter -Native -CommandName crc64gen -ScriptBlock \x7b -split \"" ++
      names ++ "\" \x7d\n"
  | zsh => "compdef '_values command " ++ names ++ "' crc64gen\n"

/-- The version of the program. -/
def versionText : String := "crc64gen 0.1.0\n"

/-- The lines that explain the program. -/
def helpLines : List String :=
  ["CRC-64 lookup table generator",
    "",
    "Usage: crc64gen [-v] COMMAND [OPTION]... [FILE]...",
    "",
    "Commands:",
    "  generate     Print lookup tables as a static array literal [alias: g]",
    "  check        Verify a generated file is up to date [alias: k]",
    "  checksum     Compute CRC-64 checksums of files, or of stdin [alias: c]",
    "  presets      List built-in polynomial presets",
    "  completions  Generate shell completions",
    "  help         Print this message",
    "",
    "Polynomial options of generate, check and checksum:",
    "  -p, --preset NAME       jones, ecma182 or nvme",
    "  -P, --polynomial HEX    a polynomial in reflected form",
    "      --normal            the polynomial is in normal form",
    "Layout options of generate and check:",
    "  -m, --mode MODE         single or sliced",
    "      --slices N          number of tables in sliced mode",
    "Options of generate:",
    "  -n, --name NAME         array name",
    "  -c, --columns N         entries per line",
    "  -s, --syntax LANGUAGE   c or rust",
    "Options of checksum:",
    "      --init HEX          initial register value",
    "      --xor-out HEX       final XOR value",
    "Options of checksum and presets:",
    "  -j, --json              output as JSON",
    "Options everywhere:",
    "  -v, --verbose           more diagnostics",
    "  -h, --help              print this message",
    "  -V, --version           print the version, before a command"]

/-- The explanation of the program. -/
def helpText : String := String.join (helpLines.map fun l ↦ l ++ "\n")

/-- What is said about arguments that are not understood. -/
def usageText : String :=
  "error: the arguments are not understood\n\nFor more information, try '--help'.\n"

namespace Request

/-- The listing of the tables of a polynomial; the style is checked before the tables are
computed. -/
def listing (selection : Selection) (layout : Layout) (style : Style) : Except Error String :=
  match Printer.ofStyle style with
  | .error e => .error e
  | .ok pr =>
    match TableSet.generate selection.polynomial layout with
    | .error e => .error e
    | .ok tables => .ok (pr.render selection.polynomial tables)

/-- The line that confirms a file. -/
def confirmation (file : String) (language : Language) (layout : Layout) (p : UInt64) : String :=
  "OK: " ++ file ++ " (" ++ language.title ++ " " ++ layout.describe ++ ", polynomial " ++
    Error.word p ++ ")\n"

/-- Checks a text; the answer is the language it is written in. -/
def checkText (text : String) (p : UInt64) (layout : Layout) : Except Error Language :=
  match Listing.parse text with
  | .error e => .error e
  | .ok l =>
    match l.verify p layout with
    | .error e => .error e
    | .ok () => .ok l.language

/-- Checks a file; the layout is checked before the file is read. -/
def checkFile (s : Surroundings) (file : String) (selection : Selection) (layout : Layout) :
    Except Failure String :=
  match layout.check with
  | .error e => .error (.error e)
  | .ok () =>
    match s.readText file with
    | .error e => .error (.file e)
    | .ok text =>
      match checkText text selection.polynomial layout with
      | .error e => .error (.error e)
      | .ok language => .ok (confirmation file language layout selection.polynomial)

/-- The checksums of some inputs. -/
def checksums (s : Surroundings) (inputs : List String) (v : Variant) :
    Except FileFault (List ChecksumRecord) :=
  checksumsOf (.new v) (s.sources inputs)

/-- The output of a request. -/
def result (s : Surroundings) : Request → Except Failure String
  | generate selection layout style => (listing selection layout style).mapError .error
  | check file selection layout => checkFile s file selection layout
  | checksum inputs v json =>
    match checksums s inputs v with
    | .error e => .error (.file e)
    | .ok records => .ok (String.ofList (checksumReport json records))
  | presets json => .ok (String.ofList (presetReport json Variant.presets))
  | completions shell => .ok shell.script

/-- The names of the files that a request reads. -/
def files : Request → List String
  | check file _ _ => [file]
  | checksum inputs _ _ => inputs.filter fun name ↦ !Surroundings.isDash name
  | _ => []

/-- Whether a request reads standard input. -/
def readsStandardInput : Request → Bool
  | checksum inputs _ _ => inputs.isEmpty || inputs.any Surroundings.isDash
  | _ => false

end Request

/-- How the program ends on a command line. -/
def run (s : Surroundings) (arguments : List String) : Outcome :=
  match Request.ofArguments arguments with
  | .error .usage => ⟨2, "", usageText⟩
  | .error .help => ⟨0, helpText, ""⟩
  | .error .version => ⟨0, versionText, ""⟩
  | .ok request =>
    match request.result s with
    | .ok output => ⟨0, output, ""⟩
    | .error failure => ⟨1, "", "Error: " ++ failure.message ++ "\n"⟩

end CrcTables
