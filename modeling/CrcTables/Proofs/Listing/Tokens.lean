import CrcTables.Proofs.Listing.Printed
import Mathlib.Data.List.Chain

/-!
# The tokens of a listing

Behind its equals sign a listing is a sequence of brackets, literals, commas and a semicolon, with
blanks between them.  Which tokens there are, and in which order, is decided by the tables alone;
where the blanks stand is a matter of layout.

## What is here

* `Token` — a token, with its text in a language and the words it holds.
* `LaidOut` — a text is these tokens, with any blanks between them.
* `LaidOut.dense_eq` — such a text without its blanks is its tokens.
* `LaidOut.exists_append` — it can be cut wherever that does not cut a literal.
* `LaidOut.holds` — such a text holds the words of its tokens, if no two literals touch
  (`Separated`).
-/

set_option autoImplicit false
namespace CrcTables

open Text Literal

/-! ## Tokens -/

/-- What a literal is written with. -/
theorem Language.isHexDigit_or_mem_literal {l : Language} {w : UInt64} {c : Char}
    (h : c ∈ l.literal w) : isHexDigit c = true ∨ c ∈ ['x', 'u', 'l'] := by
  rw [literal, marked16, List.cons_append, List.cons_append, List.mem_cons, List.mem_cons,
    List.mem_append] at h
  rcases h with rfl | rfl | h | h
  · exact .inl rfl
  · exact .inr (by decide)
  · exact .inl (isHexDigit_of_mem_word16 h)
  · have hsuffix : l.literalEnd ⊆ ['x', 'u', 'l'] := by cases l <;> decide
    exact .inr (hsuffix h)

/-- A token of the text of an array. -/
inductive Token where
  /-- The bracket that opens an array. -/
  | opening
  /-- The bracket that closes an array. -/
  | closing
  /-- A comma. -/
  | comma
  /-- The semicolon behind the outermost array. -/
  | semicolon
  /-- The literal of an entry. -/
  | entry (w : UInt64)
  deriving DecidableEq

namespace Token

/-- How a token is written. -/
def text (l : Language) : Token → List Char
  | opening => [l.opening]
  | closing => [l.closing]
  | comma => [',']
  | semicolon => [';']
  | entry w => l.literal w

/-- The words that a token holds. -/
def words : Token → List UInt64
  | entry w => [w]
  | _ => []

/-- Whether a token is a literal. -/
def isEntry : Token → Bool
  | entry _ => true
  | _ => false

section Text

variable {l : Language} {t : Token}

theorem text_ne_nil (l : Language) (t : Token) : t.text l ≠ [] := by
  cases t <;> exact List.cons_ne_nil _ _

/-- What a token is written with. -/
theorem isHexDigit_or_mem {c : Char} (h : c ∈ t.text l) :
    isHexDigit c = true ∨ c ∈ ['x', 'u', 'l'] ++ ['\x7b', '\x7d', '[', ']', ',', ';'] := by
  cases t with
  | entry w => exact (Language.isHexDigit_or_mem_literal h).imp_right (List.mem_append_left _)
  | _ =>
    rw [text, List.mem_singleton] at h
    subst h
    cases l <;> decide

/-- No token has a blank in it. -/
theorem isBlank_of_mem_text {c : Char} (h : c ∈ t.text l) : isBlank c = false := by
  rcases isHexDigit_or_mem h with h | h
  · exact isBlank_of_isIdentifierPart (isIdentifierPart_of_isHexDigit h)
  · have hmarks : (['x', 'u', 'l'] ++ ['\x7b', '\x7d', '[', ']', ',', ';']).all
        (fun c ↦ !isBlank c) = true := rfl
    simpa using List.all_eq_true.1 hmarks c h

/-- The first letter of the label stands in no token. -/
theorem ne_of_mem_text {c : Char} (h : c ∈ t.text l) : c ≠ 'R' := by
  rintro rfl
  rcases isHexDigit_or_mem h with h | h <;> revert h <;> decide

/-- A semicolon is a token of its own. -/
theorem eq_semicolon_of_mem (h : ';' ∈ t.text l) : t = semicolon := by
  cases t with
  | semicolon => rfl
  | entry w =>
    have hletter : ¬ (isHexDigit ';' = true ∨ ';' ∈ ['x', 'u', 'l']) := by decide
    exact absurd (Language.isHexDigit_or_mem_literal h) hletter
  | _ =>
    revert h
    cases l <;> decide

/-- All tokens but literals are single characters that neither go on with a literal nor start
one. -/
theorem exists_text_eq (h : t.isEntry = false) :
    ∃ c, t.text l = [c] ∧ isHexDigit c = false ∧ c ≠ 'x' ∧ t.words = [] := by
  cases t with
  | entry w => contradiction
  | _ => cases l <;> exact ⟨_, rfl, rfl, by decide, rfl⟩

end Text
end Token

/-! ## Texts of tokens -/

/-- A text without its blanks. -/
def dense (s : List Char) : List Char := s.filter fun c ↦ !isBlank c

/-- A text is these tokens in order, with any blanks before, between and behind them. -/
inductive LaidOut (l : Language) : List Token → List Char → Prop
  /-- No tokens. -/
  | nil : LaidOut l [] []
  /-- A blank in front. -/
  | blank {ts : List Token} {c : Char} {s : List Char} (hc : isBlank c = true)
      (h : LaidOut l ts s) : LaidOut l ts (c :: s)
  /-- A token in front. -/
  | token {ts : List Token} {s : List Char} (t : Token) (h : LaidOut l ts s) :
      LaidOut l (t :: ts) (t.text l ++ s)

/-- A cut between two texts goes through a literal. -/
def CutsLiteral (l : Language) (a b : List Char) : Prop :=
  ∃ w u v, u ≠ [] ∧ v ≠ [] ∧ l.literal w = u ++ v ∧ u <:+ a ∧ v <+: b

section CutsLiteral

variable {l : Language} {a b : List Char}

/-- More text in front makes no difference. -/
theorem CutsLiteral.append_left (h : CutsLiteral l a b) (front : List Char) :
    CutsLiteral l (front ++ a) b := by
  obtain ⟨w, u, v, hu, hv, hw, hua, hvb⟩ := h
  exact ⟨w, u, v, hu, hv, hw, hua.trans (List.suffix_append front a), hvb⟩

/-- A token that is cut is a literal. -/
theorem Token.cutsLiteral {t : Token} (ht : t.text l = a ++ b) (ha : a ≠ []) (hb : b ≠ [])
    (rest : List Char) : CutsLiteral l a (b ++ rest) := by
  cases hentry : t.isEntry with
  | false =>
    obtain ⟨c, hc, -⟩ := exists_text_eq (l := l) hentry
    have hlength := congrArg List.length (hc.symm.trans ht)
    have ha' := List.length_pos_of_ne_nil ha
    have hb' := List.length_pos_of_ne_nil hb
    rw [List.length_append, List.length_singleton] at hlength
    omega
  | true =>
    cases t with
    | entry w => exact ⟨w, a, b, ha, hb, ht, List.suffix_rfl, List.prefix_append b rest⟩
    | _ => contradiction

/-- No literal is cut at a blank. -/
theorem not_cutsLiteral_cons {c : Char} (hc : isBlank c = true) : ¬ CutsLiteral l a (c :: b) := by
  rintro ⟨w, u, v, -, hv, hw, -, hvb⟩
  obtain ⟨d, v, rfl⟩ := List.exists_cons_of_ne_nil hv
  obtain ⟨rfl, -⟩ := List.cons_prefix_cons.1 hvb
  have hd : d ∈ (Token.entry w).text l := by simp [Token.text, hw]
  rw [Token.isBlank_of_mem_text hd] at hc
  contradiction

end CutsLiteral

namespace LaidOut

variable {l : Language} {ts us : List Token} {a b s : List Char}

/-- Texts of tokens one after the other. -/
theorem append (ha : LaidOut l ts a) (hb : LaidOut l us b) : LaidOut l (ts ++ us) (a ++ b) := by
  induction ha with
  | nil => exact hb
  | blank hc _ ih => exact .blank hc ih
  | token t _ ih =>
    rw [List.cons_append, List.append_assoc]
    exact .token t ih

theorem of_blanks (ha : ∀ c ∈ a, isBlank c = true) : LaidOut l [] a := by
  induction a with
  | nil => exact .nil
  | cons c a ih =>
    rw [List.forall_mem_cons] at ha
    exact .blank ha.1 (ih ha.2)

theorem of_token (l : Language) (t : Token) : LaidOut l [t] (t.text l) := by
  simpa using token t (nil (l := l))

/-- **Without its blanks, the text is its tokens.** -/
theorem dense_eq (h : LaidOut l ts s) : dense s = ts.flatMap (Token.text l) := by
  induction h with
  | nil => rfl
  | blank hc _ ih => rw [dense, List.filter_cons_of_neg (by simp [hc]), ← dense, ih]
  | token t _ ih =>
    have htext : dense (t.text l) = t.text l :=
      List.filter_eq_self.2 fun c hc ↦ by simp [Token.isBlank_of_mem_text hc]
    rw [dense, List.filter_append, ← dense, ← dense, htext, ih, List.flatMap_cons]

theorem exists_mem_text (h : LaidOut l ts s) {c : Char} (hc : c ∈ s) (hblank : isBlank c = false) :
    ∃ t ∈ ts, c ∈ t.text l := by
  have hmem : c ∈ dense s := List.mem_filter.2 ⟨hc, by simp [hblank]⟩
  rw [h.dense_eq] at hmem
  exact List.mem_flatMap.1 hmem

/-! ### Cutting -/

/-- A blank in front is not part of a token. -/
theorem of_cons_blank {c : Char} (h : LaidOut l ts (c :: s)) (hc : isBlank c = true) :
    LaidOut l ts s := by
  generalize htext : c :: s = text at h
  cases h with
  | nil => contradiction
  | blank _ h =>
    obtain ⟨rfl, rfl⟩ := List.cons.inj htext
    exact h
  | token t h =>
    obtain ⟨d, rest, ht⟩ := List.exists_cons_of_ne_nil (t.text_ne_nil l)
    have hd : isBlank d = false := Token.isBlank_of_mem_text (l := l) (t := t) (by simp [ht])
    rw [ht] at htext
    obtain ⟨rfl, -⟩ := List.cons.inj htext
    rw [hc] at hd
    contradiction

/-- **The text can be cut** wherever that does not cut a literal. -/
theorem exists_append (h : LaidOut l ts (a ++ b)) (hcut : ¬ CutsLiteral l a b) :
    ∃ us vs, ts = us ++ vs ∧ LaidOut l us a ∧ LaidOut l vs b := by
  generalize htext : a ++ b = text at h
  induction h generalizing a with
  | nil =>
    obtain ⟨rfl, rfl⟩ := List.append_eq_nil_iff.1 htext
    exact ⟨[], [], rfl, .nil, .nil⟩
  | @blank ts c s hc h ih =>
    cases a with
    | nil =>
      obtain rfl : b = c :: s := htext
      exact ⟨[], ts, rfl, .nil, .blank hc h⟩
    | cons d a =>
      obtain ⟨rfl, rfl⟩ := List.cons.inj htext
      obtain ⟨us, vs, hts, hus, hvs⟩ := ih (fun hrest ↦ hcut (hrest.append_left [d])) rfl
      exact ⟨us, vs, hts, .blank hc hus, hvs⟩
  | @token ts s t h ih =>
    rcases List.append_eq_append_iff.1 htext with ⟨m, hm, rfl⟩ | ⟨a', rfl, rfl⟩
    · -- the cut is not in the token, so it is at one of its ends
      by_cases ha : a = []
      · subst ha
        obtain rfl : t.text l = m := hm
        exact ⟨[], t :: ts, rfl, .nil, .token t h⟩
      · have hmne : m = [] := by
          by_contra hmne
          exact hcut (Token.cutsLiteral hm ha hmne s)
        subst hmne
        rw [List.append_nil] at hm
        exact ⟨[t], ts, rfl, hm ▸ .of_token l t, h⟩
    · -- the cut is behind the token
      obtain ⟨us, vs, rfl, hus, hvs⟩ := ih (fun hrest ↦ hcut (hrest.append_left _)) rfl
      exact ⟨t :: us, vs, rfl, .token t hus, hvs⟩

/-- The text can be cut at a blank. -/
theorem exists_append_cons {c : Char} (h : LaidOut l ts (a ++ c :: b)) (hc : isBlank c = true) :
    ∃ us vs, ts = us ++ vs ∧ LaidOut l us a ∧ LaidOut l vs b := by
  obtain ⟨us, vs, hts, hus, hvs⟩ := h.exists_append (not_cutsLiteral_cons hc)
  exact ⟨us, vs, hts, hus, hvs.of_cons_blank hc⟩

end LaidOut

/-! ## The words of a text -/

/-- No two literals are next to each other. -/
def Separated (ts : List Token) : Prop :=
  ts.IsChain fun t u ↦ t.isEntry = false ∨ u.isEntry = false

theorem Separated.append_cons {ts us : List Token} {t : Token} (hts : Separated ts)
    (hus : Separated us) (ht : t.isEntry = false) : Separated (ts ++ t :: us) :=
  List.isChain_append.2 ⟨hts, List.isChain_cons.2 ⟨fun _ _ ↦ .inl ht, hus⟩, fun _ _ u hu ↦ by
    obtain rfl : t = u := Option.some.inj hu
    exact .inr ht⟩

/-- What stands behind a literal neither goes on with it nor starts another. -/
theorem LaidOut.head {l : Language} {ts : List Token} {s : List Char} (h : LaidOut l ts s)
    (hts : ∀ t ∈ ts.head?, t.isEntry = false) :
    ∀ c ∈ s.head?, isHexDigit c = false ∧ c ≠ 'x' := by
  intro c hc
  cases h with
  | nil => contradiction
  | @blank _ d s hd _ =>
    obtain rfl : d = c := Option.some.inj hc
    have hpart : isIdentifierPart d = false := by
      by_contra hpart
      rw [isBlank_of_isIdentifierPart (by simpa using hpart)] at hd
      contradiction
    refine ⟨?_, ?_⟩
    · by_contra hdigit
      rw [isIdentifierPart_of_isHexDigit (by simpa using hdigit)] at hpart
      contradiction
    · rintro rfl
      contradiction
  | token t _ =>
    obtain ⟨d, htext, hdigit, hx, -⟩ := Token.exists_text_eq (l := l) (hts t rfl)
    rw [htext] at hc
    obtain rfl : d = c := Option.some.inj hc
    exact ⟨hdigit, hx⟩

/-- **A text holds the words of its tokens**, if no two literals touch. -/
theorem LaidOut.holds {l : Language} {ts : List Token} {s : List Char} (h : LaidOut l ts s)
    (hts : Separated ts) : Holds s (ts.flatMap Token.words) := by
  induction h with
  | nil => exact holds_of_not_mem List.not_mem_nil
  | @blank ts c s hc _ ih =>
    have hzero : '0' ∉ [c] := by
      rw [List.mem_singleton]
      rintro rfl
      contradiction
    exact (ih hts).append_left hzero
  | @token ts s t h ih =>
    obtain ⟨hnext, htail⟩ := List.isChain_cons.1 hts
    rw [List.flatMap_cons]
    cases ht : t.isEntry with
    | false =>
      obtain ⟨c, htext, hdigit, -, hwords⟩ := Token.exists_text_eq (l := l) ht
      rw [htext, hwords]
      refine (ih htail).append_left ?_
      rw [List.mem_singleton]
      rintro rfl
      contradiction
    | true =>
      cases t with
      | entry w =>
        refine (holds_of_spells (spells_literal l w)).append (ih htail) (h.head fun u hu ↦ ?_)
        rcases hnext u hu with hentry | hentry
        · contradiction
        · exact hentry
      | _ => contradiction

end CrcTables
