/-!
# Looking for a mark

* `after?` — what follows the first place where a mark stands.
* `stripEnd` — a text without the copies of a two-character mark at its end.
-/

set_option autoImplicit false
namespace CrcTables
namespace Text

/-- What follows the first occurrence of `mark`, or `none` if there is none. -/
def after? (mark : List Char) : List Char → Option (List Char)
  | [] => if mark.isEmpty then some [] else none
  | c :: rest =>
    if mark.isPrefixOf (c :: rest) then some ((c :: rest).drop mark.length)
    else after? mark rest

/-- A reversed text without the copies of the mark `first second` that it starts with; read
backwards, they are the copies of `second first` at its end. -/
def stripPairs (first second : Char) : List Char → List Char
  | a :: b :: rest =>
    if a = first ∧ b = second then stripPairs first second rest else a :: b :: rest
  | s => s

/-- The text without the copies of `*/` at its end. -/
def stripCommentEnds (s : List Char) : List Char :=
  (stripPairs '/' '*' s.reverse).reverse

end Text
end CrcTables
