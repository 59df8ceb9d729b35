/-!
# Lines

A line ends at a line feed, and a carriage return just before that feed belongs to the ending.
What follows the last feed is a line of its own unless it is empty; a carriage return at its end
is part of it.

## What is here

* `lines` — the lines of a text, without their endings.
* `unlines` — a text from its lines, each ended by a line feed.
-/

set_option autoImplicit false
namespace CrcTables
namespace Text

/-- The text without a carriage return at its end. -/
def dropReturn (s : List Char) : List Char :=
  if s.getLast? = some '\r' then s.dropLast else s

/-- The lines of a text: the pieces between line feeds, the last of which counts only if it holds
something. -/
def lines (s : List Char) : List (List Char) :=
  let pieces := s.splitOn '\n'
  pieces.dropLast.map dropReturn ++ (pieces.getLast?.filter fun last ↦ !last.isEmpty).toList

/-- The lines, each ended by a line feed. -/
def unlines (ls : List (List Char)) : List Char :=
  ls.flatMap fun l ↦ l ++ ['\n']

/-- An empty text has no lines. -/
theorem lines_nil : lines [] = [] := rfl

/-- A text ends where its last line ends. -/
theorem unlines_append (a b : List (List Char)) : unlines (a ++ b) = unlines a ++ unlines b :=
  List.flatMap_append

end Text
end CrcTables
