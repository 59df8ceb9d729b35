import CrcTables.Text.Search
import Mathlib.Data.List.TakeWhile

/-!
# Where a mark is found

A mark is found where it was put, unless the text before it holds a piece that could be taken for
it.

## What is here

* `Text.takeWhile_ne_append_cons`, `Text.dropWhile_ne_append_cons` — a text is cut at the first
  place of a character.
* `Text.after?_append`, `Text.after?_append_of_not_mem` — a mark is found where it stands, behind
  text without its first character.
* `Text.after?_append_separator` — a text that is cut at a character that is not in the mark is
  searched piece by piece.
* `Text.after?_append_cons` — no mark is found around a character that comes too early for it.
* `Text.FollowsFirst`, `Text.after?_eq_some_iff` — what is found is the first place of a mark.
* `Text.occurrences` — the number of places where a mark stands, which adds up over the pieces of a
  text that is cut at a character that is not in the mark (`Text.occurrences_append_cons`).
* `Text.stripCommentEnds_append` — the end of a comment is taken off.
-/

set_option autoImplicit false
namespace CrcTables
namespace Text

/-! ## Cutting at a character -/

section Cut

variable {a : List Char} {c : Char}

theorem forall_bne_of_not_mem (h : c ∉ a) : ∀ d ∈ a, (d != c) = true := by
  intro d hd
  rw [bne_iff_ne]
  rintro rfl
  exact h hd

theorem takeWhile_ne_append_cons (h : c ∉ a) (s : List Char) :
    (a ++ c :: s).takeWhile (fun d ↦ d != c) = a := by
  rw [List.takeWhile_append_of_pos (forall_bne_of_not_mem h),
    List.takeWhile_cons_of_neg (by simp), List.append_nil]

theorem dropWhile_ne_append_cons (h : c ∉ a) (s : List Char) :
    (a ++ c :: s).dropWhile (fun d ↦ d != c) = c :: s := by
  rw [List.dropWhile_append_of_pos (forall_bne_of_not_mem h), List.dropWhile_cons_of_neg (by simp)]

theorem dropWhile_ne_eq_nil (h : c ∉ a) : a.dropWhile (fun d ↦ d != c) = [] :=
  List.dropWhile_eq_nil_iff.2 (forall_bne_of_not_mem h)

theorem not_mem_takeWhile_ne (c : Char) (s : List Char) : c ∉ s.takeWhile (fun d ↦ d != c) := by
  intro h
  simpa using List.mem_takeWhile_imp h

/-- A text that was cut at a character is put together again. -/
theorem takeWhile_ne_append_of_dropWhile {s tail : List Char} {d : Char}
    (h : s.dropWhile (fun e ↦ e != c) = d :: tail) :
    s.takeWhile (fun e ↦ e != c) ++ c :: tail = s := by
  have hd : d = c := by
    have hhead := List.head?_dropWhile_not (fun e ↦ e != c) s
    rw [h] at hhead
    simpa using hhead
  rw [hd] at h
  rw [← h, List.takeWhile_append_dropWhile]

end Cut

/-! ## Looking for a mark -/

/-- A mark at the start of a text is found there. -/
theorem after?_append {mark : List Char} (h : mark ≠ []) (s : List Char) :
    after? mark (mark ++ s) = some s := by
  obtain ⟨m, mark, rfl⟩ := List.exists_cons_of_ne_nil h
  have hstarts : (m :: mark).isPrefixOf (m :: (mark ++ s)) = true :=
    List.isPrefixOf_iff_prefix.2 ⟨s, rfl⟩
  rw [List.cons_append, after?, if_pos hstarts, ← List.cons_append, List.drop_left]

theorem after?_cons_of_mismatch {mark : List Char} {c : Char} {s : List Char}
    (h : ¬ mark <+: c :: s) : after? mark (c :: s) = after? mark s := by
  have hstarts : ¬ mark.isPrefixOf (c :: s) = true := fun hp ↦ h (List.isPrefixOf_iff_prefix.1 hp)
  rw [after?, if_neg hstarts]

/-- No mark starts in a text without its first character. -/
theorem after?_append_of_not_mem {m : Char} {mark a : List Char} (h : m ∉ a) (s : List Char) :
    after? (m :: mark) (a ++ s) = after? (m :: mark) s := by
  induction a with
  | nil => rfl
  | cons c a ih =>
    rw [List.mem_cons, not_or] at h
    rw [List.cons_append, after?_cons_of_mismatch, ih h.2]
    exact fun hp ↦ h.1 (List.cons_prefix_cons.1 hp).1

/-- A mark without `c` in it does not reach to a `c`. -/
theorem prefix_append_cons_iff_of_not_mem {mark a : List Char} {c : Char} (h : c ∉ mark)
    (b : List Char) : mark <+: a ++ c :: b ↔ mark <+: a := by
  refine ⟨fun hmark ↦ ?_, fun hmark ↦ hmark.trans (List.prefix_append a _)⟩
  rcases List.prefix_or_prefix_of_prefix hmark (List.prefix_append a (c :: b)) with hle | ⟨d, rfl⟩
  · exact hle
  · rw [List.prefix_append_right_inj] at hmark
    cases d with
    | nil => exact (List.append_nil a).symm ▸ List.prefix_refl a
    | cons e d =>
      obtain ⟨rfl, -⟩ := List.cons_prefix_cons.1 hmark
      exact absurd (List.mem_append_right a List.mem_cons_self) h

/-- Nor does it start at a `c`. -/
theorem not_prefix_cons_of_not_mem {mark : List Char} {c : Char} (hne : mark ≠ []) (h : c ∉ mark)
    (b : List Char) : ¬ mark <+: c :: b := fun hmark ↦
  hne (List.prefix_nil.1 ((prefix_append_cons_iff_of_not_mem h b).1 hmark))

theorem after?_nil {mark : List Char} (h : mark ≠ []) : after? mark [] = none :=
  if_neg (by simp [h])

/-- It is found in front of that `c`, where it is found without what follows, or else behind it. -/
theorem after?_append_separator {mark : List Char} {c : Char} (hne : mark ≠ []) (h : c ∉ mark)
    (a b : List Char) :
    after? mark (a ++ c :: b) = ((after? mark a).map (· ++ c :: b)).or (after? mark b) := by
  induction a with
  | nil =>
    rw [List.nil_append, after?_cons_of_mismatch (not_prefix_cons_of_not_mem hne h b),
      after?_nil hne, Option.map_none, Option.none_or]
  | cons d a ih =>
    by_cases hprefix : mark <+: d :: a
    · obtain ⟨tail, htail⟩ := hprefix
      rw [← htail, List.append_assoc, after?_append hne, after?_append hne]
      rfl
    · have hprefix' : ¬ mark <+: d :: (a ++ c :: b) := by
        rwa [← List.cons_append, prefix_append_cons_iff_of_not_mem h]
      rw [List.cons_append, after?_cons_of_mismatch hprefix', after?_cons_of_mismatch hprefix, ih]

/-- At the end such a character makes no difference. -/
theorem after?_concat {mark : List Char} {c : Char} (hne : mark ≠ []) (h : c ∉ mark)
    (s : List Char) : after? mark (s ++ [c]) = (after? mark s).map (· ++ [c]) := by
  rw [after?_append_separator hne h, after?_nil hne, Option.or_none]

/-- A mark in which `c` comes before any `d` is no prefix of a text in which `d` comes before any
`c`. -/
theorem not_prefix_of_order {u v w s : List Char} {c d : Char} (hne : c ≠ d) (hd : d ∉ u)
    (hc : c ∉ w) : ¬ u ++ c :: v <+: w ++ d :: s := by
  rintro ⟨t, ht⟩
  rw [List.append_assoc, List.append_eq_append_iff] at ht
  rcases ht with ⟨x, hw, hx⟩ | ⟨x, hu, hx⟩
  · cases x with
    | nil => simp [hne] at hx
    | cons e x =>
      rw [List.cons_append, List.cons_append, List.cons.injEq] at hx
      rw [hw, ← hx.1] at hc
      simp at hc
  · cases x with
    | nil => simp [hne.symm] at hx
    | cons e x =>
      rw [List.cons_append, List.cons.injEq] at hx
      rw [hu, ← hx.1] at hd
      simp at hd

/-- No mark starts before a character that comes too early for it. -/
theorem after?_append_cons {u v w : List Char} {c d : Char} (hne : c ≠ d) (hd : d ∉ u)
    (hc : c ∉ w) (s : List Char) :
    after? (u ++ c :: v) (w ++ d :: s) = after? (u ++ c :: v) (d :: s) := by
  induction w with
  | nil => rfl
  | cons e w ih =>
    rw [List.cons_append, after?_cons_of_mismatch, ih fun h ↦ hc (List.mem_cons_of_mem e h)]
    rw [← List.cons_append]
    exact not_prefix_of_order hne hd hc

/-! ## The first place of a mark -/

/-- A text has a mark in it, `tail` is what follows the mark where it stands first. -/
def FollowsFirst (mark s tail : List Char) : Prop :=
  ∃ before, s = before ++ (mark ++ tail) ∧
    ∀ before' tail', s = before' ++ (mark ++ tail') → before.length ≤ before'.length

section FollowsFirst

variable {mark s tail : List Char}

/-- What follows the first place of a mark is determined. -/
theorem FollowsFirst.unique {tail' : List Char} (h : FollowsFirst mark s tail)
    (h' : FollowsFirst mark s tail') : tail = tail' := by
  obtain ⟨before, rfl, hfirst⟩ := h
  obtain ⟨before', heq, hfirst'⟩ := h'
  have hlength : before.length = before'.length :=
    Nat.le_antisymm (hfirst before' tail' heq) (hfirst' before tail rfl)
  exact List.append_cancel_left (List.append_inj heq hlength).2

theorem after?_eq_none_iff (h : mark ≠ []) : after? mark s = none ↔ ¬ mark <:+: s := by
  induction s with
  | nil => simp [after?, h]
  | cons c s ih =>
    rw [List.infix_cons_iff, not_or, ← ih]
    by_cases hprefix : mark <+: c :: s
    · have hstarts : mark.isPrefixOf (c :: s) = true := List.isPrefixOf_iff_prefix.2 hprefix
      simp [after?, hstarts, hprefix]
    · simp [after?_cons_of_mismatch hprefix, hprefix]

theorem followsFirst_of_after?_eq_some (h : mark ≠ []) (hafter : after? mark s = some tail) :
    FollowsFirst mark s tail := by
  induction s with
  | nil => simp [after?, h] at hafter
  | cons c s ih =>
    by_cases hprefix : mark <+: c :: s
    · obtain ⟨rest, hrest⟩ := hprefix
      rw [← hrest, after?_append h] at hafter
      obtain rfl := Option.some.inj hafter
      exact ⟨[], hrest.symm, fun _ _ _ ↦ Nat.zero_le _⟩
    · rw [after?_cons_of_mismatch hprefix] at hafter
      obtain ⟨before, rfl, hfirst⟩ := ih hafter
      refine ⟨c :: before, rfl, fun before' tail' heq ↦ ?_⟩
      cases before' with
      | nil => exact absurd ⟨tail', heq.symm⟩ hprefix
      | cons d before' =>
        exact Nat.succ_le_succ (hfirst before' tail' (List.cons.inj heq).2)

/-- **The search for a mark finds its first place**, and fails only if there is none. -/
theorem after?_eq_some_iff (h : mark ≠ []) :
    after? mark s = some tail ↔ FollowsFirst mark s tail := by
  refine ⟨followsFirst_of_after?_eq_some h, fun hfirst ↦ ?_⟩
  cases hafter : after? mark s with
  | none =>
    obtain ⟨before, rfl, -⟩ := hfirst
    refine absurd ⟨before, tail, ?_⟩ ((after?_eq_none_iff h).1 hafter)
    rw [List.append_assoc]
  | some tail' => rw [(followsFirst_of_after?_eq_some h hafter).unique hfirst]

end FollowsFirst

/-! ## All places of a mark -/

/-- The number of places where a mark stands in a text. -/
def occurrences (mark : List Char) : List Char → Nat
  | [] => 0
  | c :: s => if mark.isPrefixOf (c :: s) then occurrences mark s + 1 else occurrences mark s

section Occurrences

variable {mark : List Char}

theorem occurrences_cons_of_mismatch {c : Char} {s : List Char} (h : ¬ mark <+: c :: s) :
    occurrences mark (c :: s) = occurrences mark s := by
  have hstarts : ¬ mark.isPrefixOf (c :: s) = true := fun hp ↦ h (List.isPrefixOf_iff_prefix.1 hp)
  rw [occurrences, if_neg hstarts]

theorem occurrences_cons_of_match {c : Char} {s : List Char} (h : mark <+: c :: s) :
    occurrences mark (c :: s) = occurrences mark s + 1 := by
  rw [occurrences, if_pos (List.isPrefixOf_iff_prefix.2 h)]

/-- No mark stands in a text without one of its characters. -/
theorem occurrences_eq_zero {c : Char} {s : List Char} (hc : c ∈ mark) (h : c ∉ s) :
    occurrences mark s = 0 := by
  induction s with
  | nil => rfl
  | cons d s ih =>
    rw [occurrences_cons_of_mismatch fun hp ↦ h (hp.subset hc)]
    exact ih fun hmem ↦ h (List.mem_cons_of_mem d hmem)

/-- No mark starts in a text without its first character. -/
theorem occurrences_append_of_not_mem {m : Char} {a : List Char} (h : m ∉ a) (s : List Char) :
    occurrences (m :: mark) (a ++ s) = occurrences (m :: mark) s := by
  induction a with
  | nil => rfl
  | cons c a ih =>
    rw [List.mem_cons, not_or] at h
    rw [List.cons_append, occurrences_cons_of_mismatch, ih h.2]
    exact fun hp ↦ h.1 (List.cons_prefix_cons.1 hp).1

/-- **Marks are counted piece by piece**, if the text is cut at a character that is not in the
mark. -/
theorem occurrences_append_cons {c : Char} (hne : mark ≠ []) (h : c ∉ mark) (a b : List Char) :
    occurrences mark (a ++ c :: b) = occurrences mark a + occurrences mark b := by
  induction a with
  | nil =>
    rw [List.nil_append, occurrences_cons_of_mismatch (not_prefix_cons_of_not_mem hne h b),
      occurrences, Nat.zero_add]
  | cons d a ih =>
    have hiff := prefix_append_cons_iff_of_not_mem (a := d :: a) h b
    rw [List.cons_append] at hiff ⊢
    by_cases hprefix : mark <+: d :: a
    · rw [occurrences_cons_of_match (hiff.2 hprefix), occurrences_cons_of_match hprefix, ih,
        Nat.add_right_comm]
    · rw [occurrences_cons_of_mismatch fun hp ↦ hprefix (hiff.1 hp),
        occurrences_cons_of_mismatch hprefix, ih]

end Occurrences

/-! ## Ends of comments -/

theorem stripPairs_eq_self {first second : Char} {s : List Char} (h : ∀ c ∈ s.head?, c ≠ first) :
    stripPairs first second s = s := by
  rw [stripPairs.eq_def]
  split
  · next a b rest => exact if_neg fun heq ↦ h a rfl heq.1
  · rfl

/-- A text that does not end in a slash ends no comment. -/
theorem stripCommentEnds_eq_self {s : List Char} (h : ∀ c ∈ s.getLast?, c ≠ '/') :
    stripCommentEnds s = s := by
  rw [stripCommentEnds, stripPairs_eq_self (by rwa [List.head?_reverse]), List.reverse_reverse]

/-- The end of a comment is taken off. -/
theorem stripCommentEnds_append (s : List Char) :
    stripCommentEnds (s ++ ['*', '/']) = stripCommentEnds s := by
  simp [stripCommentEnds, stripPairs]

end Text
end CrcTables
