import CrcTables.Verification
import Mathlib.Data.Nat.Find
import Mathlib.Tactic.ByContra

/-!
# What a check of tables finds

Two sets of tables are compared entry by entry, in order of tables and then of indices, so what is
reported is where they differ first.  The comparison is reached only if neither the recorded
polynomial nor the layout is wrong.

## What is here

* `firstDifference?_eq_some`, `firstStale?_eq_some` — the first place where lists, or lists of
  tables, differ is the one that is found; `firstStale?_self` says that equal ones pass.
* `TableSet.wordAt?`, `TableSet.compare_of_wordAt?` — the entry at a place, and the comparison of
  sets in terms of it.
* `TableSet.DifferFirst`, `TableSet.exists_differFirst` — the first place where two sets differ;
  there is one if sets of as many tables are not equal.
* `TableSet.layout_of_generate` — generated tables are in the layout asked for.
* `Listing.verify_of_recorded`, `Listing.verify_eq_compare` — what a check comes down to if no other
  polynomial is recorded, and when it comes down to the comparison of entries.
* `Listing.verify_of_generated` — the verdict on tables that were generated.
-/

set_option autoImplicit false
namespace CrcTables

/-! ## First differences -/

/-- **The first difference of two lists is found.** -/
theorem firstDifference?_eq_some {as bs : List UInt64} {i : Nat} (ha : i < as.length)
    (hb : i < bs.length) (hbefore : ∀ j (hj : j < i), as[j] = bs[j]) (hne : as[i] ≠ bs[i])
    (index : Nat) : firstDifference? index as bs = some (index + i, as[i], bs[i]) := by
  induction i generalizing as bs index with
  | zero =>
    obtain ⟨a, as, rfl⟩ := List.exists_cons_of_length_pos ha
    obtain ⟨b, bs, rfl⟩ := List.exists_cons_of_length_pos hb
    exact if_neg hne
  | succ i ih =>
    obtain ⟨a, as, rfl⟩ := List.exists_cons_of_length_pos (Nat.zero_lt_of_lt ha)
    obtain ⟨b, bs, rfl⟩ := List.exists_cons_of_length_pos (Nat.zero_lt_of_lt hb)
    have hhead : a = b := hbefore 0 (Nat.zero_lt_succ i)
    have htail := ih (Nat.lt_of_succ_lt_succ ha) (Nat.lt_of_succ_lt_succ hb)
      (fun j hj ↦ hbefore (j + 1) (Nat.succ_lt_succ hj)) hne (index + 1)
    rw [firstDifference?, if_pos hhead, htail, Nat.add_assoc, Nat.add_comm 1 i]
    rfl

theorem firstDifference?_self (index : Nat) (as : List UInt64) :
    firstDifference? index as as = none := by
  induction as generalizing index with
  | nil => rfl
  | cons a as ih => rw [firstDifference?, if_pos rfl, ih]

/-- **The first entry that differs is found**, by table and then by index. -/
theorem firstStale?_eq_some {ts us : List Table} {t i : Nat} (ht : t < ts.length)
    (hu : t < us.length) (hi : i < 256) (htables : ∀ j (hj : j < t), ts[j] = us[j])
    (hentries : ∀ j (hj : j < i), ts[t][j] = us[t][j]) (hne : ts[t][i] ≠ us[t][i])
    (table : Nat) :
    firstStale? table ts us = some (.staleEntry (table + t) i ts[t][i] us[t][i]) := by
  induction t generalizing ts us table with
  | zero =>
    obtain ⟨a, ts, rfl⟩ := List.exists_cons_of_length_pos ht
    obtain ⟨b, us, rfl⟩ := List.exists_cons_of_length_pos hu
    have hfirst : firstDifference? 0 a.toList b.toList = some (0 + i, a[i], b[i]) :=
      firstDifference?_eq_some (by simpa using hi) (by simpa using hi) hentries hne 0
    rw [firstStale?, hfirst, Nat.zero_add]
    rfl
  | succ t ih =>
    obtain ⟨a, ts, rfl⟩ := List.exists_cons_of_length_pos (Nat.zero_lt_of_lt ht)
    obtain ⟨b, us, rfl⟩ := List.exists_cons_of_length_pos (Nat.zero_lt_of_lt hu)
    have hhead : a = b := htables 0 (Nat.zero_lt_succ t)
    have htail := ih (Nat.lt_of_succ_lt_succ ht) (Nat.lt_of_succ_lt_succ hu)
      (fun j hj ↦ htables (j + 1) (Nat.succ_lt_succ hj)) hentries hne (table + 1)
    rw [firstStale?, hhead, firstDifference?_self]
    simp only [htail, Nat.add_assoc, Nat.add_comm 1 t]
    rfl

theorem firstStale?_self (table : Nat) (ts : List Table) : firstStale? table ts ts = none := by
  induction ts generalizing table with
  | nil => rfl
  | cons t ts ih =>
    rw [firstStale?, firstDifference?_self]
    exact ih (table + 1)

/-! ## First places -/

/-- Of the places that have a property there is a first one, by table and then by index. -/
theorem exists_first_place {P : Nat → Nat → Prop} (h : ∃ t i, P t i) :
    ∃ t i, P t i ∧ ∀ t' i', t' < t ∨ t' = t ∧ i' < i → ¬ P t' i' := by
  classical
  have hindex : ∃ i, P (Nat.find h) i := Nat.find_spec h
  refine ⟨Nat.find h, Nat.find hindex, Nat.find_spec hindex, ?_⟩
  rintro t' i' (hlt | ⟨rfl, hlt⟩)
  · exact fun hp ↦ Nat.find_min h hlt ⟨i', hp⟩
  · exact Nat.find_min hindex hlt

/-! ## Sets of tables -/

namespace TableSet

/-- Sets with the same tables pass the comparison, however they are nested. -/
theorem compare_of_tables_eq {s s' : TableSet} (h : s.tables = s'.tables) :
    s.compare s' = .ok () := by
  rw [compare, h, if_neg fun hne ↦ hne rfl, firstStale?_self]

/-- A set passes the comparison with itself. -/
theorem compare_self (s : TableSet) : s.compare s = .ok () := compare_of_tables_eq rfl

/-- Sets in one layout are equal if their tables are. -/
theorem eq_of_tables_eq {s s' : TableSet} (hlayout : s.layout = s'.layout)
    (h : s.tables = s'.tables) : s = s' := by
  cases s with
  | single t =>
    cases s' with
    | single t' => exact congrArg single (List.cons.inj h).1
    | sliced ts' => contradiction
  | sliced ts =>
    cases s' with
    | single t' => contradiction
    | sliced ts' => exact congrArg sliced h

/-- Sets with the same number of tables are compared entry by entry. -/
theorem compare_of_firstStale {s s' : TableSet} {e : Error}
    (hlength : s.tables.length = s'.tables.length)
    (h : firstStale? 0 s.tables s'.tables = some e) : s.compare s' = .error e := by
  rw [compare, if_neg fun hne ↦ hne hlength, h]

/-- Entry `i` of table `t`, if the set has one. -/
def wordAt? (s : TableSet) (t i : Nat) : Option UInt64 :=
  s.tables[t]?.bind fun table ↦ table[i]?

/-- A set has an entry at the indices of a table it has. -/
theorem wordAt?_eq_some_iff {s : TableSet} {t i : Nat} {w : UInt64} :
    s.wordAt? t i = some w ↔ ∃ (ht : t < s.tables.length) (hi : i < 256), s.tables[t][i] = w := by
  rw [wordAt?, Option.bind_eq_some_iff]
  constructor
  · rintro ⟨table, htable, hw⟩
    obtain ⟨ht, rfl⟩ := List.getElem?_eq_some_iff.1 htable
    obtain ⟨hi, rfl⟩ := Vector.getElem?_eq_some_iff.1 hw
    exact ⟨ht, hi, rfl⟩
  · rintro ⟨ht, hi, rfl⟩
    exact ⟨s.tables[t], List.getElem?_eq_getElem ht, Vector.getElem?_eq_getElem hi⟩

/-- A set has an entry at no other place. -/
theorem wordAt?_eq_none_iff {s : TableSet} {t i : Nat} :
    s.wordAt? t i = none ↔ s.tables.length ≤ t ∨ 256 ≤ i := by
  constructor
  · intro hnone
    by_contra! h
    have hsome : s.wordAt? t i = some s.tables[t][i] := wordAt?_eq_some_iff.2 ⟨h.1, h.2, rfl⟩
    rw [hsome] at hnone
    contradiction
  · intro h
    rw [Option.eq_none_iff_forall_ne_some]
    intro w hw
    obtain ⟨ht, hi, -⟩ := wordAt?_eq_some_iff.1 hw
    omega

theorem wordAt?_eq_none {s : TableSet} {i : Nat} (h : 256 ≤ i) (t : Nat) :
    s.wordAt? t i = none :=
  wordAt?_eq_none_iff.2 (.inr h)

theorem wordAt?_base (p : UInt64) {i : Nat} (h : i < 256) :
    (single (Table.base p)).wordAt? 0 i = some (Table.entry p (UInt8.ofNat i)) :=
  wordAt?_eq_some_iff.2 ⟨Nat.one_pos, h, Vector.getElem_ofFn h⟩

/-- Where two sets have the same to say, their entries are the same. -/
theorem wordAt?_eq_of_agree {s s' : TableSet} (hlength : s.tables.length = s'.tables.length)
    {t i : Nat} (h : s.wordAt? t i = s'.wordAt? t i) (ht : t < s.tables.length) (hi : i < 256) :
    s.tables[t][i] = s'.tables[t][i] := by
  have hw : s'.wordAt? t i = some s.tables[t][i] := h ▸ wordAt?_eq_some_iff.2 ⟨ht, hi, rfl⟩
  obtain ⟨_, _, hw⟩ := wordAt?_eq_some_iff.1 hw
  exact hw.symm

/-- **The first place where two sets differ is reported**, by table and then by index. -/
theorem compare_of_wordAt? {s s' : TableSet} {t i : Nat} {expected found : UInt64}
    (hlength : s.tables.length = s'.tables.length) (hexpected : s.wordAt? t i = some expected)
    (hfound : s'.wordAt? t i = some found) (hne : expected ≠ found)
    (hbefore : ∀ t' i', t' < t ∨ t' = t ∧ i' < i → s.wordAt? t' i' = s'.wordAt? t' i') :
    s.compare s' = .error (.staleEntry t i expected found) := by
  obtain ⟨ht, hi, rfl⟩ := wordAt?_eq_some_iff.1 hexpected
  obtain ⟨ht', _, rfl⟩ := wordAt?_eq_some_iff.1 hfound
  have htables : ∀ j (hj : j < t), s.tables[j] = s'.tables[j] := fun j hj ↦
    Vector.ext fun k hk ↦
      wordAt?_eq_of_agree hlength (hbefore j k (.inl hj)) (Nat.lt_trans hj ht) hk
  have hentries : ∀ j (hj : j < i), s.tables[t][j] = s'.tables[t][j] := fun j hj ↦
    wordAt?_eq_of_agree hlength (hbefore t j (.inr ⟨rfl, hj⟩)) ht (Nat.lt_trans hj hi)
  refine compare_of_firstStale hlength ?_
  rw [firstStale?_eq_some ht ht' hi htables hentries hne, Nat.zero_add]

/-- The place at which two sets differ first, by table and then by index, with their entries. -/
structure DifferFirst (s s' : TableSet) (t i : Nat) (expected found : UInt64) : Prop where
  /-- The first set has the one entry there. -/
  left : s.wordAt? t i = some expected
  /-- The second set has the other. -/
  right : s'.wordAt? t i = some found
  /-- They differ. -/
  ne : expected ≠ found
  /-- Before this place the entries are the same. -/
  before : ∀ t' i', t' < t ∨ t' = t ∧ i' < i → s.wordAt? t' i' = s'.wordAt? t' i'

/-- The comparison reports this place. -/
theorem DifferFirst.compare_eq {s s' : TableSet} {t i : Nat} {expected found : UInt64}
    (h : DifferFirst s s' t i expected found) (hlength : s.tables.length = s'.tables.length) :
    s.compare s' = .error (.staleEntry t i expected found) :=
  compare_of_wordAt? hlength h.left h.right h.ne h.before

/-- Different sets of as many tables differ first at some place. -/
theorem exists_differFirst {s s' : TableSet} (hlength : s.tables.length = s'.tables.length)
    (h : s.tables ≠ s'.tables) : ∃ t i expected found, DifferFirst s s' t i expected found := by
  have hplace : ∃ t i, s.wordAt? t i ≠ s'.wordAt? t i := by
    by_contra! hagree
    refine h (List.ext_getElem hlength fun t ht _ ↦ Vector.ext fun i hi ↦ ?_)
    exact wordAt?_eq_of_agree hlength (hagree t i) ht hi
  obtain ⟨t, i, hdiffer, hbefore⟩ := exists_first_place hplace
  -- an entry that only one of them had would be an entry of both
  have hnone : s.wordAt? t i = none ↔ s'.wordAt? t i = none := by
    rw [wordAt?_eq_none_iff, wordAt?_eq_none_iff, hlength]
  cases hexpected : s.wordAt? t i with
  | none => exact absurd (hexpected.trans (hnone.1 hexpected).symm) hdiffer
  | some expected =>
    obtain ⟨found, hfound⟩ := Option.ne_none_iff_exists'.1 fun hnone' ↦
      Option.some_ne_none _ (hexpected.symm.trans (hnone.2 hnone'))
    refine ⟨t, i, expected, found, hexpected, hfound, ?_, fun t' i' hlt ↦ ?_⟩
    · rintro rfl
      exact hdiffer (hexpected.trans hfound.symm)
    · exact not_not.1 (hbefore t' i' hlt)

/-- Tables are generated in every accepted layout. -/
theorem exists_generate_eq_ok {layout : Layout} (h : layout.Accepted) (p : UInt64) :
    ∃ s, generate p layout = .ok s := by
  unfold generate Layout.check
  rw [if_pos h]
  cases layout with
  | single => exact ⟨_, rfl⟩
  | sliced n => exact ⟨_, rfl⟩

/-- **Generated tables are in the layout asked for**, which was accepted. -/
theorem layout_of_generate {p : UInt64} {layout : Layout} {s : TableSet}
    (h : generate p layout = .ok s) : layout.Accepted ∧ s.layout = layout := by
  unfold generate Layout.check at h
  by_cases haccepted : layout.Accepted
  · refine ⟨haccepted, ?_⟩
    rw [if_pos haccepted] at h
    cases layout with
    | single =>
      obtain rfl := Except.ok.inj h
      rfl
    | sliced n =>
      obtain rfl := Except.ok.inj h
      exact congrArg Layout.sliced (Table.length_slices p n)
  · rw [if_neg haccepted] at h
    contradiction

end TableSet

/-! ## Listings -/

namespace Listing

variable {l : Listing} {p : UInt64} {layout : Layout} {fresh : TableSet}

/-- If no other polynomial is recorded, a check goes on to the layout and then to the entries. -/
theorem verify_of_recorded (hp : ∀ q ∈ l.polynomial?, q = p) :
    l.verify p layout =
      if l.tables.layout = layout then
        match TableSet.generate p layout with
        | .error e => .error e
        | .ok fresh => fresh.compare l.tables
      else .error (.layoutMismatch layout.describe l.tables.layout.describe) := by
  have hfilter : l.polynomial?.filter (fun found ↦ found ≠ p) = none := by
    simpa [Option.filter_eq_none_iff] using hp
  rw [verify, hfilter]
  by_cases hlayout : l.tables.layout = layout
  · exact (if_neg fun hne ↦ hne hlayout).trans (if_pos hlayout).symm
  · exact (if_pos hlayout).trans (if_neg hlayout).symm

/-- **A check comes down to the comparison of entries** if the recorded polynomial and the layout
are right. -/
theorem verify_eq_compare (hp : l.polynomial? = some p) (hlayout : l.tables.layout = layout)
    (hfresh : TableSet.generate p layout = .ok fresh) :
    l.verify p layout = fresh.compare l.tables := by
  rw [verify_of_recorded (by simp [hp]), if_pos hlayout, hfresh]

theorem verify_of_polynomial_ne {q : UInt64} (hp : l.polynomial? = some q) (hne : q ≠ p) :
    l.verify p layout = .error (.polynomialMismatch p q) := by
  have hfilter : (some q).filter (fun found ↦ found ≠ p) = some q := by simp [hne]
  rw [verify, hp, hfilter]

theorem verify_of_layout_ne (hp : l.polynomial? = some p) (hne : l.tables.layout ≠ layout) :
    l.verify p layout = .error (.layoutMismatch layout.describe l.tables.layout.describe) := by
  rw [verify_of_recorded (by simp [hp]), if_neg hne]

/-- **The verdict on generated tables**: the polynomial is looked at first, then the layout, and
nothing else can be wrong. -/
theorem verify_of_generated {q : UInt64} (hp : l.polynomial? = some q)
    (hfresh : TableSet.generate q layout = .ok l.tables) (p : UInt64) (layout' : Layout) :
    l.verify p layout' =
      if q ≠ p then .error (.polynomialMismatch p q)
      else if layout ≠ layout' then
        .error (.layoutMismatch layout'.describe layout.describe)
      else .ok () := by
  obtain ⟨-, hlayout⟩ := TableSet.layout_of_generate hfresh
  by_cases hq : q = p
  · subst hq
    rw [if_neg fun h ↦ h rfl]
    by_cases hl : layout = layout'
    · subst hl
      rw [if_neg fun h ↦ h rfl, verify_eq_compare hp hlayout hfresh, TableSet.compare_self]
    · rw [if_pos hl, ← hlayout, verify_of_layout_ne hp (hlayout ▸ hl)]
  · rw [if_pos hq, verify_of_polynomial_ne hp hq]

end Listing
end CrcTables
