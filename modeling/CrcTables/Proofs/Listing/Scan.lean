import CrcTables.Proofs.Listing.Literals
import CrcTables.Proofs.Text.Search

/-!
# What a scan accepts

A scan goes from mark to mark.  Behind each mark it takes all the digits that follow, and it fails
if there are none or more than sixteen.  So which texts are scanned, and what is found in them, can
be said without the scan.

## What is here

* `Literal.Has` — the literals of a text, from its first mark on.
* `Literal.scan_eq` — a scan, mark by mark.
* `Literal.scan_eq_ok_iff` — a scan succeeds exactly on the texts that have literals in this sense,
  and adds their words.
-/

set_option autoImplicit false
namespace CrcTables
namespace Literal

open Text

/-- The words of the literals of a text.  Each literal is found at the first mark of what is left,
and its digits are all that follow the mark: at least one and at most sixteen of them. -/
inductive Has : List Char → List UInt64 → Prop
  /-- No mark is left. -/
  | none {s : List Char} (hmark : ¬ mark <:+: s) : Has s []
  /-- A literal, and the words of what follows it. -/
  | some {s digits rest : List Char} {ws : List UInt64}
      (hmark : FollowsFirst mark s (digits ++ rest)) (hdigits : ∀ c ∈ digits, isHexDigit c = true)
      (hend : ∀ c ∈ rest.head?, isHexDigit c = false)
      (hcount : 1 ≤ digits.length ∧ digits.length ≤ 16) (hrest : Has rest ws) :
      Has s (UInt64.ofNat (ofHex digits) :: ws)

/-! ## A scan, mark by mark -/

/-- Outside a literal a scan goes to the next mark. -/
theorem scanFrom_none_eq (s : List Char) (found : Array UInt64) :
    scanFrom none s found =
      match after? mark s with
      | none => .ok found
      | some tail => scanFrom (some []) tail found := by
  induction s with
  | nil => rfl
  | cons c s ih =>
    by_cases hprefix : mark <+: c :: s
    · obtain ⟨tail, htail⟩ := hprefix
      rw [← htail, after?_append mark_ne_nil]
      rfl
    · rw [after?_cons_of_mismatch hprefix, ← ih, scanFrom]
      rintro rest rfl rfl
      exact hprefix ⟨rest, rfl⟩

/-- What is left of a text behind its first digits starts with no digit. -/
theorem isHexDigit_of_mem_head?_dropWhile (s : List Char) :
    ∀ c ∈ (s.dropWhile isHexDigit).head?, isHexDigit c = false := by
  intro c hc
  have hhead := List.head?_dropWhile_not isHexDigit s
  rw [hc] at hhead
  simpa using hhead

/-- Behind its mark a literal ends at the first character that is no digit. -/
theorem scanFrom_some_eq (s : List Char) (found : Array UInt64) :
    scanFrom (some []) s found =
      match close (s.takeWhile isHexDigit).reverse found with
      | .error e => .error e
      | .ok words => scanFrom none (s.dropWhile isHexDigit) words := by
  have hdigits : ∀ c ∈ s.takeWhile isHexDigit, isHexDigit c = true :=
    fun c hc ↦ List.mem_takeWhile_imp hc
  have hsplit := scanFrom_append_digits hdigits [] (s.dropWhile isHexDigit) found
  rw [List.takeWhile_append_dropWhile, List.append_nil] at hsplit
  rw [hsplit]
  cases hrest : s.dropWhile isHexDigit with
  | nil =>
    rw [scanFrom]
    cases close (s.takeWhile isHexDigit).reverse found <;> rfl
  | cons c rest =>
    have hc : isHexDigit c = false := isHexDigit_of_mem_head?_dropWhile s c (by rw [hrest]; rfl)
    have hzero := ne_zero_of_isHexDigit_eq_false hc
    rw [scanFrom, if_neg (by simp [hc])]
    cases close (s.takeWhile isHexDigit).reverse found with
    | error e => rfl
    | ok words => exact (scanFrom_none_cons hzero rest words).symm

/-- **A scan, mark by mark**: at each mark the digits behind it are read as a word. -/
theorem scan_eq (s : List Char) (found : Array UInt64) :
    scan s found =
      match after? mark s with
      | none => .ok found
      | some tail =>
        match word? (tail.takeWhile isHexDigit) with
        | none => .error (tail.takeWhile isHexDigit)
        | some w => scan (tail.dropWhile isHexDigit) (found.push w) := by
  rw [scan, scanFrom_none_eq]
  cases after? mark s with
  | none => rfl
  | some tail =>
    simp only [scanFrom_some_eq, close, List.reverse_reverse]
    cases word? (tail.takeWhile isHexDigit) <;> rfl

/-! ## What is scanned -/

/-- Digits that are all of what follows a mark are what a scan takes. -/
theorem takeWhile_append_of_end {digits rest : List Char}
    (hdigits : ∀ c ∈ digits, isHexDigit c = true) (hend : ∀ c ∈ rest.head?, isHexDigit c = false) :
    (digits ++ rest).takeWhile isHexDigit = digits ∧
      (digits ++ rest).dropWhile isHexDigit = rest := by
  rw [List.takeWhile_append_of_pos hdigits, List.dropWhile_append_of_pos hdigits]
  cases rest with
  | nil => simp
  | cons c rest =>
    have hc : ¬ isHexDigit c = true := by simp [hend c rfl]
    rw [List.takeWhile_cons_of_neg hc, List.dropWhile_cons_of_neg hc, List.append_nil]
    exact ⟨rfl, rfl⟩

/-- **What a text has is what a scan finds in it.** -/
theorem Has.holds {s : List Char} {ws : List UInt64} (h : Has s ws) : Holds s ws := by
  induction h with
  | none hmark =>
    intro found
    rw [scan_eq, (after?_eq_none_iff mark_ne_nil).2 hmark, Array.append_empty]
  | @some s digits rest ws hmark hdigits hend hcount hrest ih =>
    intro found
    obtain ⟨htake, hdrop⟩ := takeWhile_append_of_end hdigits hend
    rw [scan_eq, (after?_eq_some_iff mark_ne_nil).2 hmark]
    simp only [htake, hdrop, word?_eq_some_iff.2 ⟨hcount, hdigits, rfl⟩]
    rw [ih (found.push _)]
    simp

/-- What is left behind a mark and the digits that follow it is shorter than the text. -/
theorem length_dropWhile_lt {s tail : List Char} (h : FollowsFirst mark s tail) :
    (tail.dropWhile isHexDigit).length < s.length := by
  have hdrop := (List.dropWhile_suffix isHexDigit (l := tail)).length_le
  obtain ⟨before, rfl, -⟩ := h
  rw [List.length_append, List.length_append, mark, List.length_cons, List.length_singleton]
  omega

/-- A scan that succeeds has found what the text has. -/
theorem exists_has_of_scan_eq_ok {s : List Char} {found words : Array UInt64}
    (h : scan s found = .ok words) : ∃ ws, Has s ws ∧ words = found ++ ws.toArray := by
  induction hlength : s.length using Nat.strong_induction_on generalizing s found with
  | _ n ih =>
    subst hlength
    rw [scan_eq] at h
    cases hafter : after? mark s with
    | none =>
      rw [hafter] at h
      refine ⟨[], .none ((after?_eq_none_iff mark_ne_nil).1 hafter), ?_⟩
      rw [Array.append_empty]
      exact (Except.ok.inj h).symm
    | some tail =>
      have hfirst := (after?_eq_some_iff mark_ne_nil).1 hafter
      have hshort := length_dropWhile_lt hfirst
      rw [hafter] at h
      simp only at h
      split at h
      · contradiction
      · next w hword =>
        obtain ⟨hcount, hdigits, rfl⟩ := word?_eq_some_iff.1 hword
        obtain ⟨ws, hws, rfl⟩ := ih _ hshort h rfl
        rw [← List.takeWhile_append_dropWhile (p := isHexDigit) (l := tail)] at hfirst
        have hend := isHexDigit_of_mem_head?_dropWhile tail
        exact ⟨_, .some hfirst hdigits hend hcount hws, by simp⟩

/-- What a scan finds in a text is what the text has. -/
theorem Holds.has {s : List Char} {ws : List UInt64} (h : Holds s ws) : Has s ws := by
  obtain ⟨ws', hws', heq⟩ := exists_has_of_scan_eq_ok (h #[])
  obtain rfl : ws = ws' := by simpa using heq
  exact hws'

/-- **A scan succeeds exactly on the texts that have literals**, and adds their words. -/
theorem scan_eq_ok_iff {s : List Char} {found words : Array UInt64} :
    scan s found = .ok words ↔ ∃ ws, Has s ws ∧ words = found ++ ws.toArray := by
  refine ⟨exists_has_of_scan_eq_ok, ?_⟩
  rintro ⟨ws, hws, rfl⟩
  exact hws.holds found

end Literal
end CrcTables
