import CrcTables.Listing.Reader
import CrcTables.Proofs.Listing.Scan

/-!
# A scan, turn by turn

A scan is a loop.  Each turn looks for the next mark, takes all the digits behind it, and either adds
their word to the list or fails.  A character that is neither a digit nor the `x` of a mark is part of
no literal, so a text can be cut there: what the loop does before such a separator does not depend on
what stands behind it, and behind it the loop goes on as if the text started there.

## What is here

* `Literal.Turn`, `Literal.turn` — what one turn does; `Literal.scan_eq_turn` is a scan by its first
  turn.
* `Literal.turn_append_separator` — one turn on a text that is cut at a separator.
* `Literal.Run` — the loop from its first turn to its last, with the list that it leaves, also where
  it fails.
* `Literal.exists_run`, `Literal.Run.unique`, `Literal.Run.scan_eq` — every loop ends, in one way
  only, and the scan is what it comes to.
* `Literal.run_append_separator_iff` — the loop on a text that is cut at a separator.
* `Listing.scanLine_append_separator` — all this for the lines of a listing.
-/

set_option autoImplicit false
namespace CrcTables
namespace Literal

open Text

/-! ## One turn -/

/-- What one turn does with the text that is left. -/
inductive Turn where
  /-- No mark is left, and the loop is done. -/
  | finish
  /-- The digits behind the next mark are no word, and the loop fails. -/
  | fail (digits : List Char)
  /-- The digits behind the next mark are this word, and the loop goes on with what follows them. -/
  | take (w : UInt64) (rest : List Char)

/-- What one turn does with the text that is left. -/
def turn (s : List Char) : Turn :=
  match after? mark s with
  | none => .finish
  | some tail =>
    match word? (tail.takeWhile isHexDigit) with
    | none => .fail (tail.takeWhile isHexDigit)
    | some w => .take w (tail.dropWhile isHexDigit)

/-- **A scan, by its first turn.** -/
theorem scan_eq_turn (s : List Char) (found : Array UInt64) :
    scan s found =
      match turn s with
      | .finish => .ok found
      | .fail digits => .error digits
      | .take w rest => scan rest (found.push w) := by
  rw [scan_eq, turn]
  cases after? mark s with
  | none => rfl
  | some tail =>
    simp only
    cases word? (tail.takeWhile isHexDigit) <;> rfl

/-- A turn that takes a literal leaves less text than there was. -/
theorem length_lt_of_turn_eq_take {s rest : List Char} {w : UInt64} (h : turn s = .take w rest) :
    rest.length < s.length := by
  rw [turn] at h
  cases hafter : after? mark s with
  | none =>
    rw [hafter] at h
    contradiction
  | some tail =>
    rw [hafter] at h
    simp only at h
    split at h
    · contradiction
    · obtain ⟨-, rfl⟩ := Turn.take.inj h
      exact length_dropWhile_lt ((after?_eq_some_iff mark_ne_nil).1 hafter)

section Separator

variable {c : Char} (hdigit : isHexDigit c = false) (hx : c ≠ 'x')

include hdigit

/-- The digits that a text starts with end at a separator, if not before. -/
theorem takeWhile_append_separator (a b : List Char) :
    (a ++ c :: b).takeWhile isHexDigit = a.takeWhile isHexDigit ∧
      (a ++ c :: b).dropWhile isHexDigit = a.dropWhile isHexDigit ++ c :: b := by
  have hdigits : ∀ d ∈ a.takeWhile isHexDigit, isHexDigit d = true :=
    fun d hd ↦ List.mem_takeWhile_imp hd
  have hend : ∀ d ∈ (a.dropWhile isHexDigit ++ c :: b).head?, isHexDigit d = false := by
    have hrest := isHexDigit_of_mem_head?_dropWhile a
    cases hdrop : a.dropWhile isHexDigit with
    | nil => simpa using hdigit
    | cons e rest => simpa [hdrop] using hrest
  have hcut := takeWhile_append_of_end hdigits hend
  rwa [← List.append_assoc, List.takeWhile_append_dropWhile] at hcut

include hx

/-- A separator is not in a mark. -/
theorem not_mem_mark : c ∉ mark := by
  have hzero := ne_zero_of_isHexDigit_eq_false hdigit
  simp [mark, hzero, hx]

/-- **One turn on a text that is cut at a separator** does what it does with the text before it, or
if that has no mark, with the text behind it. -/
theorem turn_append_separator (a b : List Char) :
    turn (a ++ c :: b) =
      match turn a with
      | .finish => turn b
      | .fail digits => .fail digits
      | .take w rest => .take w (rest ++ c :: b) := by
  rw [turn, after?_append_separator mark_ne_nil (not_mem_mark hdigit hx), turn.eq_def a]
  cases after? mark a with
  | none => rfl
  | some tail =>
    obtain ⟨htake, hdrop⟩ := takeWhile_append_separator hdigit tail b
    simp only [Option.map_some, Option.some_or, htake, hdrop]
    cases word? (tail.takeWhile isHexDigit) <;> rfl

end Separator

/-! ## All turns -/

/-- The loop on a text, from its first turn to its last.  It is given a list of words and leaves the
list that it has made of this one; `bad?` is the run of digits at which it failed, if it did. -/
inductive Run : List Char → Array UInt64 → Array UInt64 → Option (List Char) → Prop
  /-- No mark is left. -/
  | finish {s : List Char} {found : Array UInt64} (hturn : turn s = .finish) :
      Run s found found none
  /-- The digits behind the next mark are no word. -/
  | fail {s digits : List Char} {found : Array UInt64} (hturn : turn s = .fail digits) :
      Run s found found (some digits)
  /-- A word is added to the list, and the loop goes on. -/
  | take {s rest : List Char} {w : UInt64} {found words : Array UInt64} {bad? : Option (List Char)}
      (hturn : turn s = .take w rest) (hrest : Run rest (found.push w) words bad?) :
      Run s found words bad?

/-- What a scan comes to whose loop leaves this list and fails at these digits, if it fails. -/
def outcome (words : Array UInt64) : Option (List Char) → Except (List Char) (Array UInt64)
  | none => .ok words
  | some digits => .error digits

section Run

variable {s a b : List Char} {found between words : Array UInt64} {bad? : Option (List Char)}

/-- **Every loop ends.** -/
theorem exists_run (s : List Char) (found : Array UInt64) : ∃ words bad?, Run s found words bad? := by
  -- a turn that does not end the loop leaves less text
  induction hlength : s.length using Nat.strong_induction_on generalizing s found with
  | _ n ih =>
    subst hlength
    cases hturn : turn s with
    | finish => exact ⟨found, none, .finish hturn⟩
    | fail digits => exact ⟨found, some digits, .fail hturn⟩
    | take w rest =>
      obtain ⟨words, bad?, hrest⟩ :=
        ih rest.length (length_lt_of_turn_eq_take hturn) rest (found.push w) rfl
      exact ⟨words, bad?, .take hturn hrest⟩

/-- **A loop, by its first turn.** -/
theorem run_iff :
    Run s found words bad? ↔
      match turn s with
      | .finish => words = found ∧ bad? = none
      | .fail digits => words = found ∧ bad? = some digits
      | .take w rest => Run rest (found.push w) words bad? := by
  constructor
  · intro h
    cases h with
    | finish hturn =>
      rw [hturn]
      exact ⟨rfl, rfl⟩
    | fail hturn =>
      rw [hturn]
      exact ⟨rfl, rfl⟩
    | take hturn hrest =>
      rw [hturn]
      exact hrest
  · intro h
    cases hturn : turn s with
    | finish =>
      rw [hturn] at h
      obtain ⟨rfl, rfl⟩ := h
      exact .finish hturn
    | fail digits =>
      rw [hturn] at h
      obtain ⟨rfl, rfl⟩ := h
      exact .fail hturn
    | take w rest =>
      rw [hturn] at h
      exact .take hturn h

/-- A loop ends in one way only. -/
theorem Run.unique {words' : Array UInt64} {bad?' : Option (List Char)}
    (h : Run s found words bad?) (h' : Run s found words' bad?') :
    words = words' ∧ bad? = bad?' := by
  induction h with
  | finish hturn =>
    rw [run_iff, hturn] at h'
    exact ⟨h'.1.symm, h'.2.symm⟩
  | fail hturn =>
    rw [run_iff, hturn] at h'
    exact ⟨h'.1.symm, h'.2.symm⟩
  | take hturn hrest ih =>
    rw [run_iff, hturn] at h'
    exact ih h'

/-- The words that were on the list stay where they are; others are added behind them. -/
theorem Run.keeps (h : Run s found words bad?) : found.toList <+: words.toList := by
  induction h with
  | finish => exact List.prefix_refl _
  | fail => exact List.prefix_refl _
  | @take s rest w found words bad? hturn hrest ih =>
    rw [Array.toList_push] at ih
    exact (List.prefix_append found.toList [w]).trans ih

/-- **A scan is what its loop comes to.** -/
theorem Run.scan_eq (h : Run s found words bad?) : scan s found = outcome words bad? := by
  induction h with
  | finish hturn =>
    rw [scan_eq_turn, hturn]
    rfl
  | fail hturn =>
    rw [scan_eq_turn, hturn]
    rfl
  | take hturn hrest ih =>
    rw [scan_eq_turn, hturn]
    exact ih

section Separator

variable {c : Char} (hdigit : isHexDigit c = false) (hx : c ≠ 'x')

include hdigit hx

/-- A loop that is done with the text before a separator goes on with the text behind it. -/
theorem Run.append_separator (ha : Run a found between none) (hb : Run b between words bad?) :
    Run (a ++ c :: b) found words bad? := by
  generalize hnone : (none : Option (List Char)) = end? at ha
  induction ha with
  | @finish a found hturn =>
    have hcut : turn (a ++ c :: b) = turn b := by rw [turn_append_separator hdigit hx, hturn]
    rwa [run_iff, hcut, ← run_iff]
  | fail hturn => contradiction
  | @take a rest w found between end? hturn hrest ih =>
    have hcut : turn (a ++ c :: b) = .take w (rest ++ c :: b) := by
      rw [turn_append_separator hdigit hx, hturn]
    exact .take hcut (ih hb hnone)

/-- A loop that fails before a separator does not come to it. -/
theorem Run.append_separator_of_fail {digits : List Char} (ha : Run a found words (some digits)) :
    Run (a ++ c :: b) found words (some digits) := by
  generalize hsome : some digits = end? at ha ⊢
  induction ha with
  | finish hturn => contradiction
  | @fail a digits found hturn =>
    have hcut : turn (a ++ c :: b) = .fail digits := by rw [turn_append_separator hdigit hx, hturn]
    exact .fail hcut
  | @take a rest w found words end? hturn hrest ih =>
    have hcut : turn (a ++ c :: b) = .take w (rest ++ c :: b) := by
      rw [turn_append_separator hdigit hx, hturn]
    exact .take hcut (ih hsome)

/-- **The loop on a text that is cut at a separator** fails before the separator, or it is the loop
on the text before it and then, with the list that this leaves, the one on the text behind it. -/
theorem run_append_separator_iff :
    Run (a ++ c :: b) found words bad? ↔
      (∃ digits, bad? = some digits ∧ Run a found words (some digits)) ∨
        ∃ between, Run a found between none ∧ Run b between words bad? := by
  constructor
  · intro h
    obtain ⟨between, end?, ha⟩ := exists_run a found
    cases end? with
    | none =>
      obtain ⟨words', bad?', hb⟩ := exists_run b between
      obtain ⟨rfl, rfl⟩ := h.unique (ha.append_separator hdigit hx hb)
      exact .inr ⟨between, ha, hb⟩
    | some digits =>
      obtain ⟨rfl, rfl⟩ := h.unique (ha.append_separator_of_fail hdigit hx)
      exact .inl ⟨digits, rfl, ha⟩
  · rintro (⟨digits, rfl, ha⟩ | ⟨between, ha, hb⟩)
    · exact ha.append_separator_of_fail hdigit hx
    · exact ha.append_separator hdigit hx hb

end Separator

end Run

end Literal

namespace Listing

open Literal Text

/-- **A line can be cut at a separator**, that is at any character that is neither a digit nor the
`x` of a mark.  Scanning it is scanning what stands before the separator and then, unless that is an
error, what stands behind it with the words found so far; the loop leaves the same list also where
it fails.  On every line the loop ends, it leaves the words that were on its list as they are, and
the scan is what it comes to. -/
theorem scanLine_append_separator (line : Nat) (found : Array UInt64) (a b : List Char) {c : Char}
    (hdigit : isHexDigit c = false) (hx : c ≠ 'x') :
    scanLine line (a ++ c :: b) found = (scanLine line a found).bind (scanLine line b) ∧
      (∀ words bad?, Run (a ++ c :: b) found words bad? ↔
        (∃ digits, bad? = some digits ∧ Run a found words (some digits)) ∨
          ∃ between, Run a found between none ∧ Run b between words bad?) ∧
      ∀ l, ∃ words bad?, Run l found words bad? ∧ found.toList <+: words.toList ∧
        scanLine line l found =
          (outcome words bad?).mapError fun digits ↦ ⟨line, .badLiteral (String.ofList digits)⟩ := by
  refine ⟨?_, fun words bad? ↦ run_append_separator_iff hdigit hx, fun l ↦ ?_⟩
  · rw [scanLine, scan, scanFrom_append_cons hdigit hx, ← scan, scanLine]
    cases scan a found <;> rfl
  · obtain ⟨words, bad?, hrun⟩ := exists_run l found
    refine ⟨words, bad?, hrun, hrun.keeps, ?_⟩
    rw [scanLine, hrun.scan_eq]
    cases bad? <;> rfl

/-- Two lines that are cut at a wide character.  On the first, the digits behind a mark end where it
looks as if there were another mark; on the second, a mark without digits keeps the loop from the
literal behind the cut. -/
theorem scanLine_append_separator_wide :
    isHexDigit 'é' = false ∧ 'é' ≠ 'x' ∧
      scanLine 3 "0x0x1é00x2".toList #[7] = .ok #[7, 0, 2] ∧
      Run "0x5 0xé0x2".toList #[7] #[7, 5] (some []) := by
  have hdigit : isHexDigit 'é' = false := rfl
  have hx : 'é' ≠ 'x' := by decide
  have hfails : Run "0x5 0x".toList #[7] #[7, 5] (some []) := .take rfl (.fail rfl)
  refine ⟨hdigit, hx, ?_, ?_⟩
  · exact (scanLine_append_separator 3 #[7] "0x0x1".toList "00x2".toList hdigit hx).1.trans rfl
  · exact ((scanLine_append_separator 3 #[7] "0x5 0x".toList "0x2".toList hdigit hx).2.1 _ _).2
      (.inl ⟨[], rfl, hfails⟩)

end Listing
end CrcTables
