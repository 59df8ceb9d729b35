import CrcTables.Proofs.Verification

/-!
# Comparing sets of tables

A comparison of two sets of tables has three ways to end: the sets have not as many tables, they
have the same tables, or there is a place at which they differ first.  Which of them it is does not
depend on which set comes first, and neither does the place; only what is expected and what is found
change roles.

## What is here

* `Error.exchanged` — an error with what was expected and what was found exchanged.
* `TableSet.DifferFirst.symm` — sets differ first at the same place in either order.
* `TableSet.Compared` — the three ways a comparison can end, as a relation.  It is the graph of the
  comparison (`TableSet.compare_eq_iff`), and it is symmetric (`TableSet.Compared.symm`).
* `TableSet.compare_finds_first` — what each result of the comparison says, and the comparison in
  the other order.
-/

set_option autoImplicit false
namespace CrcTables

/-- The error with what was expected and what was found exchanged. -/
def Error.exchanged : Error → Error
  | polynomialMismatch expected found => polynomialMismatch found expected
  | layoutMismatch expected found => layoutMismatch found expected
  | staleEntry table index expected found => staleEntry table index found expected
  | e => e

namespace TableSet

/-! ## The first place -/

section DifferFirst

variable {a b : TableSet} {t i : Nat} {expected found : UInt64}

/-- Sets differ first at the same place in either order. -/
theorem DifferFirst.symm (h : DifferFirst a b t i expected found) :
    DifferFirst b a t i found expected :=
  ⟨h.right, h.left, h.ne.symm, fun t' i' hlt ↦ (h.before t' i' hlt).symm⟩

/-- Sets that differ at some place have not the same tables. -/
theorem DifferFirst.tables_ne (h : DifferFirst a b t i expected found) : a.tables ≠ b.tables := by
  intro htables
  have hsame : a.wordAt? t i = b.wordAt? t i := by rw [wordAt?, wordAt?, htables]
  exact h.ne (Option.some.inj (h.left.symm.trans (hsame.trans h.right)))

end DifferFirst

/-! ## The three ways a comparison can end -/

/-- How a comparison of two sets ends. -/
inductive Compared (a b : TableSet) : Except Error Unit → Prop where
  /-- The sets have the same tables. -/
  | same (h : a.tables = b.tables) : Compared a b (.ok ())
  /-- The sets have not as many tables. -/
  | count (h : a.tables.length ≠ b.tables.length) :
      Compared a b (.error (.layoutMismatch a.countText b.countText))
  /-- The sets have as many tables, and this is the first place at which they differ. -/
  | entry {t i : Nat} {expected found : UInt64} (hlength : a.tables.length = b.tables.length)
      (hfirst : DifferFirst a b t i expected found) :
      Compared a b (.error (.staleEntry t i expected found))

variable {a b : TableSet} {r : Except Error Unit}

/-- In the other order the comparison ends the same way, with the roles exchanged. -/
theorem Compared.symm (h : Compared a b r) : Compared b a (r.mapError Error.exchanged) := by
  cases h with
  | same h => exact .same h.symm
  | count h => exact .count h.symm
  | entry hlength hfirst => exact .entry hlength.symm hfirst.symm

/-- The comparison ends as it does. -/
theorem Compared.compare_eq (h : Compared a b r) : a.compare b = r := by
  cases h with
  | same h => exact compare_of_tables_eq h
  | count h => rw [compare, if_pos h]
  | entry hlength hfirst => exact hfirst.compare_eq hlength

/-- **Every comparison ends in one of the three ways.** -/
theorem compared_compare (a b : TableSet) : Compared a b (a.compare b) := by
  have hends : ∃ r, Compared a b r := by
    by_cases hlength : a.tables.length = b.tables.length
    · by_cases htables : a.tables = b.tables
      · exact ⟨_, .same htables⟩
      · obtain ⟨t, i, expected, found, hfirst⟩ := exists_differFirst hlength htables
        exact ⟨_, .entry hlength hfirst⟩
    · exact ⟨_, .count hlength⟩
  obtain ⟨r, hr⟩ := hends
  rwa [hr.compare_eq]

/-- The relation is the comparison. -/
theorem compare_eq_iff : a.compare b = r ↔ Compared a b r :=
  ⟨fun h ↦ h ▸ compared_compare a b, Compared.compare_eq⟩

theorem compared_ok_iff : Compared a b (.ok ()) ↔ a.tables = b.tables :=
  ⟨fun h ↦ by cases h; assumption, .same⟩

theorem compared_layoutMismatch_iff {expected found : String} :
    Compared a b (.error (.layoutMismatch expected found)) ↔
      a.tables.length ≠ b.tables.length ∧ expected = a.countText ∧ found = b.countText := by
  constructor
  · rintro ⟨⟩
    exact ⟨‹_›, rfl, rfl⟩
  · rintro ⟨h, rfl, rfl⟩
    exact .count h

theorem compared_staleEntry_iff {t i : Nat} {expected found : UInt64} :
    Compared a b (.error (.staleEntry t i expected found)) ↔
      a.tables.length = b.tables.length ∧ DifferFirst a b t i expected found := by
  constructor
  · rintro ⟨⟩
    exact ⟨‹_›, ‹_›⟩
  · rintro ⟨hlength, hfirst⟩
    exact .entry hlength hfirst

/-- Entries are reported exactly if the sets have as many tables and not the same ones. -/
theorem exists_compared_staleEntry_iff :
    (∃ t i expected found, Compared a b (.error (.staleEntry t i expected found))) ↔
      a.tables.length = b.tables.length ∧ a.tables ≠ b.tables := by
  simp only [compared_staleEntry_iff]
  constructor
  · rintro ⟨t, i, expected, found, hlength, hfirst⟩
    exact ⟨hlength, hfirst.tables_ne⟩
  · rintro ⟨hlength, hne⟩
    obtain ⟨t, i, expected, found, hfirst⟩ := exists_differFirst hlength hne
    exact ⟨t, i, expected, found, hlength, hfirst⟩

/-- **The comparison finds the first difference, and it is symmetric.**  Sets pass if they have the
same tables, however they are nested.  The numbers of tables are reported if these differ, and
otherwise an entry is, at the first place, by table and then by index, at which the sets have
different entries.  In the other order the result is the same, but that what was expected and what
was found are exchanged. -/
theorem compare_finds_first (a b : TableSet) :
    (a.compare b = .ok () ↔ a.tables = b.tables) ∧
      (∀ expected found, a.compare b = .error (.layoutMismatch expected found) ↔
        a.tables.length ≠ b.tables.length ∧ expected = a.countText ∧ found = b.countText) ∧
      ((∃ t i expected found, a.compare b = .error (.staleEntry t i expected found)) ↔
        a.tables.length = b.tables.length ∧ a.tables ≠ b.tables) ∧
      (∀ t i expected found, a.compare b = .error (.staleEntry t i expected found) ↔
        a.tables.length = b.tables.length ∧ DifferFirst a b t i expected found) ∧
      b.compare a = (a.compare b).mapError Error.exchanged := by
  have hsymm : b.compare a = (a.compare b).mapError Error.exchanged :=
    (compared_compare a b).symm.compare_eq
  simp only [compare_eq_iff (a := a) (b := b)]
  exact ⟨compared_ok_iff, fun _ _ ↦ compared_layoutMismatch_iff, exists_compared_staleEntry_iff,
    fun _ _ _ _ ↦ compared_staleEntry_iff, hsymm⟩

end TableSet
end CrcTables
