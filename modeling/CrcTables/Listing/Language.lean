import CrcTables.Table.TableSet
import CrcTables.Text.Count
import CrcTables.Text.Hex

/-!
# Languages of a listing

A listing is source text that declares a constant array of words.  It is written for C or for
Rust; this file holds what differs between the two: punctuation, comments, literals, the order of
the dimensions in the declaration, and the words that cannot name an array.
-/

set_option autoImplicit false
namespace CrcTables

/-- The language that a listing is written in. -/
inductive Language where
  /-- C, with braces around arrays. -/
  | c
  /-- Rust, with brackets around arrays. -/
  | rust
  deriving DecidableEq, Repr, Inhabited

namespace Language

/-- The language's name in messages. -/
def title : Language → String
  | c => "C"
  | rust => "Rust"

/-- The name of the array when none is chosen. -/
def defaultName : Language → String
  | c => "crc_table"
  | rust => "CRC_TABLE"

/-- The lower-case keywords of C up to C23. -/
def keywordsOfC : List String :=
  ["alignas", "alignof", "auto", "bool", "break", "case", "char", "const", "constexpr",
    "continue", "default", "do", "double", "else", "enum", "extern", "false", "float", "for",
    "goto", "if", "inline", "int", "long", "nullptr", "register", "restrict", "return", "short",
    "signed", "sizeof", "static", "static_assert", "struct", "switch", "thread_local", "true",
    "typedef", "typeof", "typeof_unqual", "union", "unsigned", "void", "volatile", "while"]

/-- The strict and the reserved keywords of Rust. -/
def keywordsOfRust : List String :=
  ["Self", "abstract", "as", "async", "await", "become", "box", "break", "const", "continue",
    "crate", "do", "dyn", "else", "enum", "extern", "false", "final", "fn", "for", "gen", "if",
    "impl", "in", "let", "loop", "macro", "match", "mod", "move", "mut", "override", "priv",
    "pub", "ref", "return", "self", "static", "struct", "super", "trait", "true", "try", "type",
    "typeof", "unsafe", "unsized", "use", "virtual", "where", "while", "yield"]

/-- The words that cannot name an array. -/
def keywords : Language → List String
  | c => keywordsOfC
  | rust => keywordsOfRust

/-- Whether a word cannot name an array. -/
def isKeyword (l : Language) (word : String) : Bool := l.keywords.contains word

/-- One level of indentation. -/
def indent : Language → List Char
  | c => ['\t']
  | rust => [' ', ' ', ' ', ' ']

/-- The character that opens an array. -/
def opening : Language → Char
  | c => '\x7b'
  | rust => '['

/-- The character that closes an array. -/
def closing : Language → Char
  | c => '\x7d'
  | rust => ']'

/-- A comment that fills a line. -/
def comment (l : Language) (text : List Char) : List Char :=
  match l with
  | c => "/* ".toList ++ text ++ " */".toList
  | rust => "// ".toList ++ text

/-- What stands behind the digits of a literal. -/
def literalEnd : Language → List Char
  | c => ['u', 'l', 'l']
  | rust => []

/-- A word as a literal. -/
def literal (l : Language) (w : UInt64) : List Char := Text.marked16 w ++ l.literalEnd

/-- The name and the type of the array.  In C the dimensions follow the name, the outer one first;
in Rust they are part of the type, the inner one first. -/
def heading (l : Language) (name : List Char) (s : TableSet) : List Char :=
  let inner := Text.decimal Table.size
  let outer := Text.decimal s.tables.length
  match l, s.isNested with
  | c, false => "static const unsigned long long ".toList ++ name ++ ['['] ++ inner ++ [']']
  | c, true =>
    "static const unsigned long long ".toList ++ name ++ ['['] ++ outer ++ "][".toList ++ inner ++
      [']']
  | rust, false => "pub static ".toList ++ name ++ ": [u64; ".toList ++ inner ++ [']']
  | rust, true =>
    "pub static ".toList ++ name ++ ": [[u64; ".toList ++ inner ++ "]; ".toList ++ outer ++ [']']

/-- The line that declares the array and opens it. -/
def declaration (l : Language) (name : List Char) (s : TableSet) : List Char :=
  l.heading name s ++ [' ', '=', ' ', l.opening]

end Language
end CrcTables
