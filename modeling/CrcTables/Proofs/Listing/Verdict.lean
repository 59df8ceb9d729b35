import CrcTables.Proofs.Listing.Grammar
import CrcTables.Proofs.Listing.RoundTrip
import CrcTables.Proofs.Verification

/-!
# The verdict on what was read

Any layout may be asked for in a check, also one in which no tables are generated.  A listing that
was read is never in such a layout, so the check ends with a mismatch before it could fail to
generate, and the mismatch names two things that are not the same.

## What is here

* `Listing.accepted_of_readLines` — what is read is in an accepted layout.
* `Layout.describe_injective` — different layouts have different names in messages.
* `Listing.Mismatch` — how a listing can fail to be the generated one, as an error.
* `Listing.verify_of_parse` — the verdict on a text that was read.
-/

set_option autoImplicit false
namespace CrcTables

/-! ## What is read is in an accepted layout -/

/-- **What is read is in an accepted layout.** -/
theorem Listing.accepted_of_readLines {ls : List (List Char)} {l : Listing}
    (h : readLines ls = .ok l) : l.tables.layout.Accepted := by
  obtain ⟨x, hx, hl⟩ := readLines_eq_ok_iff.1 h
  have hlayout : Declaration.layout l.tables.dimensions = .ok l.tables.layout :=
    layout_eq_ok_iff.2 ⟨hl.dimensions ▸ hx.shape, rfl⟩
  rw [Declaration.layout_dimensions] at hlayout
  by_contra hrefused
  rw [if_neg hrefused] at hlayout
  contradiction

/-! ## Names of layouts -/

namespace Layout

theorem toList_describe_single : single.describe.toList = Text.decimal Table.size := rfl

theorem toList_describe_sliced (n : Nat) :
    (sliced n).describe.toList = Text.decimal n ++ 'x' :: Text.decimal Table.size := by
  simp [describe, Text.decimal]

/-- **Different layouts have different names in messages.** -/
theorem describe_injective : Function.Injective describe := by
  -- a name has a mark in it exactly if the layout is that of a set, behind the number of tables
  have hmark : ∀ n, 'x' ∉ Text.decimal n := fun n hmem ↦ by
    simpa using Text.isDigit_of_mem_decimal hmem
  intro a b h
  replace h := congrArg String.toList h
  cases a with
  | single =>
    cases b with
    | single => rfl
    | sliced n =>
      rw [toList_describe_single, toList_describe_sliced] at h
      exact absurd (h ▸ List.mem_append_right _ List.mem_cons_self) (hmark Table.size)
  | sliced m =>
    rw [toList_describe_sliced] at h
    cases b with
    | single =>
      rw [toList_describe_single] at h
      exact absurd (h ▸ List.mem_append_right _ List.mem_cons_self) (hmark Table.size)
    | sliced n =>
      rw [toList_describe_sliced] at h
      have hcount : Text.decimal m = Text.decimal n := List.append_cancel_right h
      rw [← Text.ofDecimal_decimal m, hcount, Text.ofDecimal_decimal]

end Layout

/-! ## Mismatches -/

/-- The error names what was expected and what was found, and these are not the same. -/
def Error.NamesDifference : Error → Prop
  | polynomialMismatch expected found => expected ≠ found
  | layoutMismatch expected found => expected ≠ found
  | staleEntry _ _ expected found => expected ≠ found
  | _ => False

theorem Error.NamesDifference.isMismatch {e : Error} (h : e.NamesDifference) :
    e.isMismatch = true := by
  cases e with
  | polynomialMismatch expected found => rfl
  | layoutMismatch expected found => rfl
  | staleEntry table index expected found => rfl
  | _ => exact h.elim

namespace Listing

/-- How a listing differs from the generated one for a polynomial and a layout.  The recorded
polynomial is looked at first, then the layout, then the entries; an entry can only be wrong in a
layout in which tables are generated. -/
inductive Mismatch (l : Listing) (p : UInt64) (layout : Layout) : Error → Prop
  /-- Another polynomial is recorded. -/
  | polynomial {q : UInt64} (hq : l.polynomial? = some q) (hne : q ≠ p) :
      Mismatch l p layout (.polynomialMismatch p q)
  /-- The tables are in another layout. -/
  | layout (hp : ∀ q ∈ l.polynomial?, q = p) (hne : l.tables.layout ≠ layout) :
      Mismatch l p layout (.layoutMismatch layout.describe l.tables.layout.describe)
  /-- The entries are others from this place on. -/
  | entry {fresh : TableSet} {t i : Nat} {expected found : UInt64}
      (hp : ∀ q ∈ l.polynomial?, q = p) (hlayout : l.tables.layout = layout)
      (hfresh : TableSet.generate p layout = .ok fresh)
      (hfirst : fresh.DifferFirst l.tables t i expected found) :
      Mismatch l p layout (.staleEntry t i expected found)

/-- A mismatch is the verdict. -/
theorem Mismatch.verify_eq {l : Listing} {p : UInt64} {layout : Layout} {e : Error}
    (h : l.Mismatch p layout e) : l.verify p layout = .error e := by
  cases h with
  | polynomial hq hne => exact verify_of_polynomial_ne hq hne
  | layout hp hne => rw [verify_of_recorded hp, if_neg hne]
  | @entry fresh t i expected found hp hlayout hfresh hfirst =>
    obtain ⟨-, hfreshLayout⟩ := TableSet.layout_of_generate hfresh
    have hlength : fresh.tables.length = l.tables.tables.length :=
      TableSet.length_tables_of_layout_eq (hfreshLayout.trans hlayout.symm)
    rw [verify_of_recorded hp, if_pos hlayout, hfresh]
    exact hfirst.compare_eq hlength

/-- A mismatch names a difference. -/
theorem Mismatch.namesDifference {l : Listing} {p : UInt64} {layout : Layout} {e : Error}
    (h : l.Mismatch p layout e) : e.NamesDifference := by
  cases h with
  | polynomial hq hne => exact hne.symm
  | layout hp hne => exact fun heq ↦ hne (Layout.describe_injective heq).symm
  | entry hp hlayout hfresh hfirst => exact hfirst.ne

/-- **A listing in an accepted layout is the generated one or has a mismatch.** -/
theorem generated_or_mismatch {l : Listing} (h : l.tables.layout.Accepted) (p : UInt64)
    (layout : Layout) :
    ((∀ q ∈ l.polynomial?, q = p) ∧ TableSet.generate p layout = .ok l.tables) ∨
      ∃ e, l.Mismatch p layout e := by
  by_cases hp : ∀ q ∈ l.polynomial?, q = p
  · by_cases hlayout : l.tables.layout = layout
    · obtain ⟨fresh, hfresh⟩ := TableSet.exists_generate_eq_ok (hlayout ▸ h) p
      obtain ⟨-, hfreshLayout⟩ := TableSet.layout_of_generate hfresh
      have hsameLayout : fresh.layout = l.tables.layout := hfreshLayout.trans hlayout.symm
      by_cases htables : fresh.tables = l.tables.tables
      · exact .inl ⟨hp, TableSet.eq_of_tables_eq hsameLayout htables ▸ hfresh⟩
      · obtain ⟨t, i, expected, found, hfirst⟩ := TableSet.exists_differFirst
          (TableSet.length_tables_of_layout_eq hsameLayout) htables
        exact .inr ⟨_, .entry hp hlayout hfresh hfirst⟩
    · exact .inr ⟨_, .layout hp hlayout⟩
  · obtain ⟨q, hq, hne⟩ : ∃ q, l.polynomial? = some q ∧ q ≠ p := by
      simpa using hp
    exact .inr ⟨_, .polynomial hq hne⟩

/-- Generated tables pass the check, if no other polynomial is recorded. -/
theorem verify_eq_ok {l : Listing} {p : UInt64} {layout : Layout}
    (hp : ∀ q ∈ l.polynomial?, q = p) (hfresh : TableSet.generate p layout = .ok l.tables) :
    l.verify p layout = .ok () := by
  obtain ⟨-, hlayout⟩ := TableSet.layout_of_generate hfresh
  rw [verify_of_recorded hp, if_pos hlayout, hfresh]
  exact TableSet.compare_self l.tables

/-- **The verdict on what was read.**  It passes exactly if no other polynomial is recorded and its
tables are the generated ones, in the layout asked for.  Otherwise the error is the mismatch that is
looked for first, and it names two things that are not the same. -/
theorem verify_of_parse {text : String} {l : Listing} (h : parse text = .ok l) (p : UInt64)
    (layout : Layout) :
    (l.verify p layout = .ok () ↔
        (l.polynomial? = none ∨ l.polynomial? = some p) ∧
          TableSet.generate p layout = .ok l.tables) ∧
      (∀ e, l.verify p layout = .error e ↔ l.Mismatch p layout e) ∧
      ∀ e, l.verify p layout = .error e → e.isMismatch = true ∧ e.NamesDifference := by
  have haccepted := accepted_of_readLines (parse_eq_ok_iff_readLines.1 h)
  have hrecorded : (∀ q ∈ l.polynomial?, q = p) ↔
      l.polynomial? = none ∨ l.polynomial? = some p := by
    cases l.polynomial? <;> simp
  have herror : ∀ e, l.verify p layout = .error e → l.Mismatch p layout e := by
    intro e he
    rcases generated_or_mismatch haccepted p layout with ⟨hp, hfresh⟩ | ⟨e', he'⟩
    · rw [verify_eq_ok hp hfresh] at he
      contradiction
    · obtain rfl : e' = e := Except.error.inj (he'.verify_eq.symm.trans he)
      exact he'
  refine ⟨⟨fun hok ↦ ?_, fun hgenerated ↦ ?_⟩, fun e ↦ ⟨herror e, Mismatch.verify_eq⟩,
    fun e he ↦ ?_⟩
  · rcases generated_or_mismatch haccepted p layout with ⟨hp, hfresh⟩ | ⟨e, he⟩
    · exact ⟨hrecorded.1 hp, hfresh⟩
    · rw [he.verify_eq] at hok
      contradiction
  · exact verify_eq_ok (hrecorded.2 hgenerated.1) hgenerated.2
  · exact ⟨(herror e he).namesDifference.isMismatch, (herror e he).namesDifference⟩

/-- Ones are not the table of the polynomial seven, and no set without tables is ever read. -/
theorem verify_of_parse_ones :
    ∃ text l, parse text = .ok l ∧ l.verify 7 .single = .error (.staleEntry 0 0 0 1) ∧
      l.verify 7 (.sliced 0) = .error (.layoutMismatch "0x256" "256") ∧
      l.verify 8 .single ≠ .ok () := by
  have hstyle : Style.Accepted ⟨.c, "crc_table", 2⟩ := by decide
  have hparse := parse_render_of_accepted ⟨_, hstyle⟩ 7 (.single (Vector.replicate 256 1)) trivial
  have hfirst : (TableSet.single (Table.base 7)).DifferFirst
      (.single (Vector.replicate 256 1)) 0 0 0 1 :=
    ⟨TableSet.wordAt?_base 7 (by decide),
      TableSet.wordAt?_eq_some_iff.2 ⟨by decide, by decide, rfl⟩, by decide, by omega⟩
  have hseven : ∀ q ∈ some (7 : UInt64), q = 7 := by simp
  have hlayout : Layout.single ≠ .sliced 0 := by decide
  refine ⟨_, _, hparse, ?_, ?_, ?_⟩
  · exact ((verify_of_parse hparse 7 .single).2.1 _).2 (.entry hseven rfl rfl hfirst)
  · exact ((verify_of_parse hparse 7 (.sliced 0)).2.1 _).2 (.layout hseven hlayout)
  · rw [ne_eq, (verify_of_parse hparse 8 .single).1]
    simp

end Listing
end CrcTables
