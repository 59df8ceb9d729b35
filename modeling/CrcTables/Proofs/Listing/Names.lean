import CrcTables.Listing.Printer
import CrcTables.Proofs.Text.Digits
import Mathlib.Logic.Basic
import Mathlib.Tactic.ByContra

/-!
# The names that an array can have

A listing is written only if its array can be declared under its name in the language of the
listing, that is, if the name is an identifier and the language does not reserve it.  This file
states that without the lists of the check, and compares the two.  For Rust they agree.  For C the
check lets some reserved words through, and these are just the ones that begin with an underscore.

## What is here

* `Printer.exists_ofStyle_iff` — the styles that have a printer.
* `IsArrayName`, `isIdentifier_iff` — identifiers, by their characters.
* `Language.reserved` — the words that a language reserves, by the edition that brought them in.
* `Language.overlooked`, `Language.isKeyword_iff` — the reserved words that the check lets through.
* `Style.Usable`, `Printer.ofStyle_accepts_iff` — the styles that can be used, and how far the
  accepted ones go beyond them.
-/

set_option autoImplicit false
namespace CrcTables

/-! ## Printers -/

/-- An accepted style has a printer. -/
theorem Printer.ofStyle_eq_ok {style : Style} (h : style.Accepted) :
    ofStyle style = .ok ⟨style, h⟩ := by
  have hcheck := style.check_eq_ok_iff.2 h
  rw [ofStyle]
  split
  · next e herror =>
    rw [hcheck] at herror
    contradiction
  · rfl

/-- A printer prints in the style it was made for. -/
theorem Printer.style_of_ofStyle {style : Style} {pr : Printer} (h : ofStyle style = .ok pr) :
    pr.style = style := by
  unfold ofStyle at h
  split at h
  · contradiction
  · obtain rfl := Except.ok.inj h
    rfl

/-- No other style has one. -/
theorem Printer.exists_ofStyle_iff {style : Style} :
    (∃ pr, ofStyle style = .ok pr) ↔ style.Accepted := by
  constructor
  · rintro ⟨pr, h⟩
    exact style_of_ofStyle h ▸ pr.accepted
  · exact fun h ↦ ⟨_, ofStyle_eq_ok h⟩

/-! ## Identifiers -/

/-- An ASCII letter. -/
def IsLetter (c : Char) : Prop := ('A' ≤ c ∧ c ≤ 'Z') ∨ ('a' ≤ c ∧ c ≤ 'z')

/-- An ASCII digit. -/
def IsDigit (c : Char) : Prop := '0' ≤ c ∧ c ≤ '9'

/-- A letter or an underscore, then any letters, digits and underscores; but not the underscore
alone. -/
structure IsArrayName (name : String) : Prop where
  /-- What the name consists of. -/
  parts : ∃ c rest, name.toList = c :: rest ∧ (IsLetter c ∨ c = '_') ∧
    ∀ d ∈ rest, IsLetter d ∨ IsDigit d ∨ d = '_'
  /-- It is more than an underscore. -/
  ne_underscore : name ≠ "_"

theorem isIdentifierStart_eq_true_iff {c : Char} :
    isIdentifierStart c = true ↔ IsLetter c ∨ c = '_' := by
  have hletter : c.isAlpha = true ↔ IsLetter c := Text.isAlpha_iff
  rw [isIdentifierStart, Bool.or_eq_true, hletter, beq_iff_eq]

theorem isIdentifierPart_eq_true_iff {c : Char} :
    isIdentifierPart c = true ↔ IsLetter c ∨ IsDigit c ∨ c = '_' := by
  have hletter : c.isAlpha = true ↔ IsLetter c := Text.isAlpha_iff
  have hdigit : c.isDigit = true ↔ IsDigit c := Text.isDigit_iff
  rw [isIdentifierPart, Bool.or_eq_true, Char.isAlphanum, Bool.or_eq_true, hletter, hdigit,
    beq_iff_eq, or_assoc]

/-- **The check knows identifiers** by their characters. -/
theorem isIdentifier_iff {name : String} : isIdentifier name = true ↔ IsArrayName name := by
  rw [isIdentifier]
  cases hname : name.toList with
  | nil =>
    refine iff_of_false Bool.false_ne_true ?_
    rintro ⟨⟨c, rest, hparts, -⟩, -⟩
    rw [hname] at hparts
    contradiction
  | cons c rest =>
    simp only [Bool.and_eq_true, isIdentifierStart_eq_true_iff, List.all_eq_true,
      isIdentifierPart_eq_true_iff, bne_iff_ne]
    constructor
    · rintro ⟨⟨hfirst, hrest⟩, hne⟩
      exact ⟨⟨c, rest, hname, hfirst, hrest⟩, hne⟩
    · rintro ⟨⟨c', rest', hparts, hfirst, hrest⟩, hne⟩
      rw [hname, List.cons.injEq] at hparts
      obtain ⟨rfl, rfl⟩ := hparts
      exact ⟨⟨hfirst, hrest⟩, hne⟩

/-! ## Reserved words -/

namespace Language

/-- The keywords of C, by the edition that brought them in: the first, 1999, 2011 and 2023. -/
def reservedOfC : List String :=
  ["auto", "break", "case", "char", "const", "continue", "default", "do", "double", "else", "enum",
    "extern", "float", "for", "goto", "if", "int", "long", "register", "return", "short", "signed",
    "sizeof", "static", "struct", "switch", "typedef", "union", "unsigned", "void", "volatile",
    "while"] ++
  ["inline", "restrict", "_Bool", "_Complex", "_Imaginary"] ++
  ["_Alignas", "_Alignof", "_Atomic", "_Generic", "_Noreturn", "_Static_assert",
    "_Thread_local"] ++
  ["alignas", "alignof", "bool", "constexpr", "false", "nullptr", "static_assert", "thread_local",
    "true", "typeof", "typeof_unqual", "_BitInt", "_Decimal32", "_Decimal64", "_Decimal128"]

/-- The keywords of Rust: those in use since 2015 and since 2018, and those kept for later use since
2015, 2018 and 2024. -/
def reservedOfRust : List String :=
  ["as", "break", "const", "continue", "crate", "else", "enum", "extern", "false", "fn", "for", "if",
    "impl", "in", "let", "loop", "match", "mod", "move", "mut", "pub", "ref", "return", "self",
    "Self", "static", "struct", "super", "trait", "true", "type", "unsafe", "use", "where",
    "while"] ++
  ["async", "await", "dyn"] ++
  ["abstract", "become", "box", "do", "final", "macro", "override", "priv", "typeof", "unsized",
    "virtual", "yield"] ++
  ["try"] ++
  ["gen"]

/-- The words that a language reserves. -/
def reserved : Language → List String
  | c => reservedOfC
  | rust => reservedOfRust

/-- The reserved words that are let through. -/
def overlooked : Language → List String
  | c =>
    ["_Alignas", "_Alignof", "_Atomic", "_BitInt", "_Bool", "_Complex", "_Decimal32", "_Decimal64",
      "_Decimal128", "_Generic", "_Imaginary", "_Noreturn", "_Static_assert", "_Thread_local"]
  | rust => []

/-- **The check refuses the reserved words** but those that it overlooks. -/
theorem isKeyword_iff {l : Language} {w : String} :
    l.isKeyword w = true ↔ w ∈ l.reserved ∧ w ∉ l.overlooked := by
  have hrefused : ∀ l : Language, ∀ w ∈ l.keywords, w ∈ l.reserved ∧ w ∉ l.overlooked := by
    rintro (_ | _) <;> decide +kernel
  have hreserved : ∀ l : Language, ∀ w ∈ l.reserved, w ∈ l.overlooked ∨ w ∈ l.keywords := by
    rintro (_ | _) <;> decide +kernel
  rw [isKeyword, List.contains_iff_mem]
  exact ⟨hrefused l w, fun h ↦ (hreserved l w h.1).resolve_left h.2⟩

/-- What is overlooked is reserved, and it is what begins with an underscore. -/
theorem mem_overlooked_iff {l : Language} {w : String} :
    w ∈ l.overlooked ↔ w ∈ l.reserved ∧ w.toList.head? = some '_' := by
  have hall : ∀ l : Language, ∀ w ∈ l.overlooked, w ∈ l.reserved ∧ w.toList.head? = some '_' := by
    rintro (_ | _) <;> decide +kernel
  have hothers : ∀ l : Language, ∀ w ∈ l.reserved,
      w.toList.head? = some '_' → w ∈ l.overlooked := by
    rintro (_ | _) <;> decide +kernel
  exact ⟨hall l w, fun h ↦ hothers l w h.1 h.2⟩

theorem isArrayName_of_mem_overlooked {l : Language} {w : String} (h : w ∈ l.overlooked) :
    IsArrayName w := by
  have hall : ∀ l : Language, ∀ w ∈ l.overlooked, isIdentifier w = true := by
    rintro (_ | _) <;> decide +kernel
  exact isIdentifier_iff.1 (hall l w h)

end Language

/-! ## Styles that can be used -/

/-- The rows of the style hold something, and its array can be declared. -/
structure Style.Usable (s : Style) : Prop where
  /-- There is an entry in a row. -/
  columns : 1 ≤ s.columns
  /-- The name is an identifier. -/
  name : IsArrayName s.name
  /-- The language does not reserve it. -/
  free : s.name ∉ s.language.reserved

/-- An accepted style can be used, but for the words that are overlooked. -/
theorem Style.accepted_iff {s : Style} :
    s.Accepted ↔ s.Usable ∨ 1 ≤ s.columns ∧ s.name ∈ s.language.overlooked := by
  rw [Accepted, NameAllowed, isIdentifier_iff, ← Bool.not_eq_true, Language.isKeyword_iff,
    ← Nat.one_le_iff_ne_zero]
  constructor
  · rintro ⟨hcolumns, hname, hkeyword⟩
    by_cases hreserved : s.name ∈ s.language.reserved
    · exact .inr ⟨hcolumns, by_contra fun hseen ↦ hkeyword ⟨hreserved, hseen⟩⟩
    · exact .inl ⟨hcolumns, hname, hreserved⟩
  · rintro (h | ⟨hcolumns, hoverlooked⟩)
    · exact ⟨h.columns, h.name, fun hkeyword ↦ h.free hkeyword.1⟩
    · exact ⟨hcolumns, Language.isArrayName_of_mem_overlooked hoverlooked,
        fun hkeyword ↦ hkeyword.2 hoverlooked⟩

/-- A style with an overlooked name cannot be used. -/
theorem Style.not_usable_of_mem_overlooked {s : Style} (h : s.name ∈ s.language.overlooked) :
    ¬s.Usable :=
  fun husable ↦ husable.free (Language.mem_overlooked_iff.1 h).1

/-- **The styles that are accepted** are those that can be used, and those that would be usable if
the language did not reserve a word that begins with an underscore.  So acceptance means that a
style can be used, with the exception of just these words. -/
theorem Printer.ofStyle_accepts_iff (s : Style) :
    ((∃ pr, ofStyle s = .ok pr) ↔
        s.Usable ∨ 1 ≤ s.columns ∧ s.name ∈ s.language.overlooked) ∧
      (((∃ pr, ofStyle s = .ok pr) ↔ s.Usable) ↔
        ¬(1 ≤ s.columns ∧ s.name ∈ s.language.overlooked)) ∧
      (s.name ∈ s.language.overlooked ↔
        s.name ∈ s.language.reserved ∧ s.name.toList.head? = some '_') := by
  have haccepts : (∃ pr, ofStyle s = .ok pr) ↔
      s.Usable ∨ 1 ≤ s.columns ∧ s.name ∈ s.language.overlooked :=
    exists_ofStyle_iff.trans Style.accepted_iff
  refine ⟨haccepts, ?_, Language.mem_overlooked_iff⟩
  rw [haccepts]
  constructor
  · intro hsame hoverlooked
    exact Style.not_usable_of_mem_overlooked hoverlooked.2 (hsame.1 (.inr hoverlooked))
  · exact fun hnone ↦ or_iff_left hnone

/-- A word of C that is reserved since 1999, and is accepted. -/
theorem Printer.ofStyle_accepts_reserved :
    (∃ pr, ofStyle ⟨.c, "_Bool", 2⟩ = .ok pr) ∧ ¬Style.Usable ⟨.c, "_Bool", 2⟩ := by
  refine ⟨exists_ofStyle_iff.2 ?_, fun husable ↦ husable.free ?_⟩ <;> decide +kernel

end CrcTables
