import CrcTables.Proofs.Listing.Body
import CrcTables.Proofs.Listing.Heading
import CrcTables.Proofs.Listing.Scan

/-!
# What the body of an array may hold

The entries of an array stand behind its equals sign, up to the first line that closes the array.
They are read exactly if each line there has literals, and they make up tables exactly if there are
as many of them as the dimensions say.

## What is here

* `Listing.throughClosing` — the lines up to the first that closes the array.
* `Listing.readEntries_eq_ok_iff` — which lines are read, and what is found on them.
* `Listing.fit?_eq_some_iff` — which words make up a set of tables, and which set.
-/

set_option autoImplicit false
namespace CrcTables
namespace Listing

open Literal

/-! ## The lines of an array -/

/-- The lines up to and including the first that closes the array, or all if none does. -/
def throughClosing : List (List Char) → List (List Char)
  | [] => []
  | l :: rest => if closes l then [l] else l :: throughClosing rest

theorem scanLine_eq_ok_iff {n : Nat} {l : List Char} {found words : Array UInt64} :
    scanLine n l found = .ok words ↔ ∃ ws, Has l ws ∧ words = found ++ ws.toArray := by
  rw [← scan_eq_ok_iff, scanLine]
  cases scan l found with
  | error digits => simp
  | ok words' => simp

theorem exists_has_of_readEntries_eq_ok {ls : List (List Char)} {last last' : Nat}
    {found words : Array UInt64} (h : readEntries last found ls = .ok (last', words)) :
    ∃ wss, List.Forall₂ Has (throughClosing ls) wss ∧ words = found ++ wss.flatten.toArray := by
  induction ls generalizing last found with
  | nil =>
    obtain ⟨-, rfl⟩ := Prod.mk.inj (Except.ok.inj h)
    exact ⟨[], .nil, by simp⟩
  | cons l rest ih =>
    rw [readEntries] at h
    split at h
    · contradiction
    · next words' hline =>
      obtain ⟨ws, hws, rfl⟩ := scanLine_eq_ok_iff.1 hline
      by_cases hclose : closes l = true
      · rw [if_pos hclose] at h
        obtain ⟨-, rfl⟩ := Prod.mk.inj (Except.ok.inj h)
        refine ⟨[ws], ?_, by simp⟩
        rw [throughClosing, if_pos hclose]
        exact .cons hws .nil
      · rw [if_neg hclose] at h
        obtain ⟨wss, hwss, rfl⟩ := ih h
        refine ⟨ws :: wss, ?_, by simp⟩
        rw [throughClosing, if_neg hclose]
        exact .cons hws hwss

theorem exists_readEntries_eq_ok {ls : List (List Char)} {wss : List (List UInt64)}
    (h : List.Forall₂ Has (throughClosing ls) wss) (last : Nat) (found : Array UInt64) :
    ∃ last', readEntries last found ls = .ok (last', found ++ wss.flatten.toArray) := by
  induction ls generalizing last found wss with
  | nil =>
    obtain rfl := List.forall₂_nil_left_iff.1 h
    exact ⟨last, by simp [readEntries]⟩
  | cons l rest ih =>
    by_cases hclose : closes l = true
    · rw [throughClosing, if_pos hclose] at h
      obtain ⟨ws, _, hws, hnil, rfl⟩ := List.forall₂_cons_left_iff.1 h
      obtain rfl := List.forall₂_nil_left_iff.1 hnil
      exact ⟨last + 1, by simpa using readEntries_of_closes hws.holds hclose last found rest⟩
    · rw [throughClosing, if_neg hclose] at h
      obtain ⟨ws, wss', hws, hwss, rfl⟩ := List.forall₂_cons_left_iff.1 h
      obtain ⟨last', hread⟩ := ih hwss (last + 1) (found ++ ws.toArray)
      refine ⟨last', ?_⟩
      rw [readEntries, scanLine_of_holds hws.holds]
      simp only [hclose, Bool.false_eq_true, if_false]
      rw [hread, List.flatten_cons, ← List.append_toArray, Array.append_assoc]

/-- **The lines of an array are read exactly if each has literals**, and their words add up. -/
theorem readEntries_eq_ok_iff {ls : List (List Char)} {last : Nat} {found words : Array UInt64} :
    (∃ last', readEntries last found ls = .ok (last', words)) ↔
      ∃ wss, List.Forall₂ Has (throughClosing ls) wss ∧
        words = found ++ wss.flatten.toArray := by
  constructor
  · rintro ⟨last', h⟩
    exact exists_has_of_readEntries_eq_ok h
  · rintro ⟨wss, hwss, rfl⟩
    exact exists_readEntries_eq_ok hwss last found

/-! ## Tables from words -/

/-- The words of tables that are cut from words are these words. -/
theorem flatMap_ofFn_tableAt {words : Array UInt64} {n : Nat} (h : words.size = 256 * n) :
    (List.ofFn fun t : Fin n ↦ tableAt words t.val (tableAt_bound t.isLt h)).flatMap
      Vector.toList = words.toList := by
  refine List.ext_getElem? fun k ↦ ?_
  have hplace : 256 * (k / 256) + k % 256 = k := Nat.div_add_mod k 256
  have hindex : k % 256 < 256 := Nat.mod_lt k (by decide)
  have hget := getElem?_flatMap_toList
    (List.ofFn fun t : Fin n ↦ tableAt words t.val (tableAt_bound t.isLt h)) (k / 256) (k % 256)
    hindex
  rw [hplace] at hget
  rw [hget, List.getElem?_ofFn]
  by_cases ht : k / 256 < n
  · have hk : k < words.size := by omega
    rw [dif_pos ht]
    simp [tableAt, hplace, hk]
  · have hk : words.size ≤ k := by omega
    rw [dif_neg ht]
    simp [hk]

/-- The words of a set are as many as its dimensions say. -/
theorem length_words (s : TableSet) : s.words.length = s.dimensions.prod := by
  rw [TableSet.words, length_flatMap_toList]
  cases s with
  | single t => rfl
  | sliced ts => simp [TableSet.tables, TableSet.dimensions, Table.size, Nat.mul_comm]

/-- Words make up a set in a layout only if they are the words of the set. -/
theorem words_of_fit?_eq_some {words : Array UInt64} {layout : Layout} {s : TableSet}
    (h : fit? words layout = some s) : s.layout = layout ∧ s.words = words.toList := by
  cases layout with
  | single =>
    rw [fit?] at h
    split at h
    · next hsize =>
      obtain rfl := Option.some.inj h
      exact ⟨rfl, flatMap_ofFn_tableAt (n := 1) hsize⟩
    · contradiction
  | sliced n =>
    rw [fit?] at h
    split at h
    · next hsize =>
      obtain rfl := Option.some.inj h
      exact ⟨by simp [TableSet.layout], flatMap_ofFn_tableAt hsize⟩
    · contradiction

/-- **Words make up a set exactly if they are its words**, and the layout is its layout. -/
theorem fit?_eq_some_iff {words : Array UInt64} {layout : Layout} {s : TableSet} :
    fit? words layout = some s ↔ s.layout = layout ∧ s.words = words.toList := by
  refine ⟨words_of_fit?_eq_some, ?_⟩
  rintro ⟨rfl, hwords⟩
  rw [← fit?_words s, hwords, Array.toArray_toList]

/-- Words that are as many as some dimensions say make up a set with these dimensions. -/
theorem exists_words_eq {dims : List Nat} {ws : List UInt64}
    (hdims : dims = [Table.size] ∨ ∃ n, dims = [n, Table.size]) (hcount : ws.length = dims.prod) :
    ∃ s : TableSet, s.dimensions = dims ∧ s.words = ws := by
  rcases hdims with rfl | ⟨n, rfl⟩
  · have hsize : ws.toArray.size = 256 * 1 := by simpa [Table.size] using hcount
    exact ⟨.single (tableAt ws.toArray 0 (tableAt_bound Nat.one_pos hsize)), rfl,
      flatMap_ofFn_tableAt hsize⟩
  · have hsize : ws.toArray.size = 256 * n := by
      simpa [Table.size, Nat.mul_comm] using hcount
    refine ⟨.sliced (List.ofFn fun t : Fin n ↦
      tableAt ws.toArray t.val (tableAt_bound t.isLt hsize)), ?_, flatMap_ofFn_tableAt hsize⟩
    simp [TableSet.dimensions]

end Listing
end CrcTables
