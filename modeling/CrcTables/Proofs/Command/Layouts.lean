import CrcTables.Command.Request

/-!
# Layouts on the command line

A number of tables is read only if a set can have it, and the other layouts that options can ask for
are fixed, so no command line that is understood asks for tables that cannot be generated.

## What is here

* `Choices.Sound` — the number of tables in some choices is one that a set can have.
* `Progress.sound_feed`, `Choices.sound_ofArguments` — one argument more keeps it so, and hence all
  arguments of a command do.
* `Request.accepted_of_ofArguments` — the layout of a request is accepted.
-/

set_option autoImplicit false
namespace CrcTables

/-- The value behind a successful map. -/
theorem exists_of_map_eq_ok {ε α β : Type} {f : α → β} {x : Except ε α} {y : β}
    (h : x.map f = .ok y) : ∃ a, x = .ok a ∧ f a = y := by
  cases x with
  | error e => contradiction
  | ok a => exact ⟨a, rfl, Except.ok.inj h⟩

/-- The value behind a successful step. -/
theorem exists_of_bind_eq_ok {ε α β : Type} {x : Except ε α} {f : α → Except ε β} {y : β}
    (h : x >>= f = .ok y) : ∃ a, x = .ok a ∧ f a = .ok y := by
  cases x with
  | error e => contradiction
  | ok a => exact ⟨a, rfl, h⟩

namespace Choices

/-- The number of tables, if there is one, is a number that a set can have. -/
def Sound (ch : Choices) : Prop := ∀ n ∈ ch.slices?, (Layout.sliced n).Accepted

theorem accepted_of_slicesOf? {text : String} {n : Nat} (h : slicesOf? text = some n) :
    (Layout.sliced n).Accepted := by
  rw [slicesOf?, Option.filter_eq_some_iff] at h
  exact of_decide_eq_true h.2

theorem once_eq_ok {α : Type} {place value? x : Option α} (h : once place value? = .ok x) :
    value? = x := by
  unfold once at h
  split at h
  · exact Except.ok.inj h
  · contradiction

section Sound

variable {c : Command} {ch ch' : Choices} (hs : ch.Sound)

include hs

theorem sound_assign {k : Key} {text : String} (h : ch.assign k text = .ok ch') : ch'.Sound := by
  cases k with
  | slices =>
    obtain ⟨x, hx, rfl⟩ := exists_of_map_eq_ok h
    intro n hn
    exact accepted_of_slicesOf? ((once_eq_ok hx).trans hn)
  | preset | polynomial | mode | name | columns | language | init | xorOut =>
    obtain ⟨x, -, rfl⟩ := exists_of_map_eq_ok h
    exact hs
  | normal | json | verbose | help => contradiction

theorem sound_raise {k : Key} (h : ch.raise k = .ok ch') : ch'.Sound := by
  unfold raise at h
  split at h
  · split at h
    · contradiction
    · obtain rfl := Except.ok.inj h
      exact hs
  · split at h
    · contradiction
    · obtain rfl := Except.ok.inj h
      exact hs
  · obtain rfl := Except.ok.inj h
    exact hs
  · contradiction
  · contradiction

theorem sound_addWord {text : String} (h : ch.addWord c text = .ok ch') : ch'.Sound := by
  unfold addWord at h
  split at h
  · contradiction
  · split at h
    · split at h
      · contradiction
      · obtain rfl := Except.ok.inj h
        exact hs
    · obtain rfl := Except.ok.inj h
      exact hs
    · contradiction

end Sound
end Choices

namespace Progress

open Choices

theorem sound_feedLetters {c : Command} {letters : List Char} {ch : Choices}
    {r : Choices × Option Key} (hs : ch.Sound) (h : feedLetters c ch letters = .ok r) :
    r.1.Sound := by
  induction letters generalizing ch with
  | nil =>
    obtain rfl := Except.ok.inj h
    exact hs
  | cons l rest ih =>
    rw [feedLetters] at h
    split at h
    · contradiction
    · split at h
      · split at h
        · obtain rfl := Except.ok.inj h
          exact hs
        · obtain ⟨ch', hassign, rfl⟩ := exists_of_map_eq_ok h
          exact sound_assign hs hassign
      · split at h
        · contradiction
        · next ch' hraise => exact ih (sound_raise hs hraise) h

theorem sound_feedLong {c : Command} {name : String} {value? : Option String} {ch : Choices}
    {r : Choices × Option Key} (hs : ch.Sound) (h : feedLong c ch name value? = .ok r) :
    r.1.Sound := by
  unfold feedLong at h
  split at h
  · contradiction
  · split at h
    · obtain ⟨ch', hassign, rfl⟩ := exists_of_map_eq_ok h
      exact sound_assign hs hassign
    · obtain rfl := Except.ok.inj h
      exact hs
    · obtain ⟨ch', hraise, rfl⟩ := exists_of_map_eq_ok h
      exact sound_raise hs hraise
    · contradiction

/-- **One argument more** keeps the number of tables one that a set can have. -/
theorem sound_feed {c : Command} {pr pr' : Progress} {argument : String} (hs : pr.choices.Sound)
    (h : feed c pr argument = .ok pr') : pr'.choices.Sound := by
  unfold feed at h
  split at h
  · obtain ⟨ch, hword, rfl⟩ := exists_of_map_eq_ok h
    exact sound_addWord hs hword
  · split at h
    · obtain ⟨ch, hassign, rfl⟩ := exists_of_map_eq_ok h
      exact sound_assign hs hassign
    · contradiction
    · obtain rfl := Except.ok.inj h
      exact hs
    · obtain ⟨r, hlong, rfl⟩ := exists_of_map_eq_ok h
      exact sound_feedLong hs hlong
    · obtain ⟨r, hletters, rfl⟩ := exists_of_map_eq_ok h
      exact sound_feedLetters hs hletters
    · obtain ⟨ch, hword, rfl⟩ := exists_of_map_eq_ok h
      exact sound_addWord hs hword

theorem sound_foldlM_feed {c : Command} {arguments : List String} {pr pr' : Progress}
    (hs : pr.choices.Sound) (h : arguments.foldlM (feed c) pr = .ok pr') : pr'.choices.Sound := by
  induction arguments generalizing pr with
  | nil =>
    obtain rfl := Except.ok.inj h
    exact hs
  | cons argument rest ih =>
    rw [List.foldlM_cons] at h
    cases hfeed : feed c pr argument with
    | error e =>
      rw [hfeed] at h
      contradiction
    | ok next =>
      rw [hfeed] at h
      exact ih (sound_feed hs hfeed) h

end Progress

/-- **All arguments of a command** give a number of tables that a set can have, if they give one. -/
theorem Choices.sound_ofArguments {c : Command} {arguments : List String} {ch : Choices}
    (h : ofArguments c arguments = .ok ch) : ch.Sound := by
  have hstart : Progress.start.choices.Sound := fun n hn ↦ by contradiction
  unfold ofArguments at h
  split at h
  · contradiction
  · next pr hfold =>
    split at h
    · contradiction
    · obtain rfl := Except.ok.inj h
      exact Progress.sound_foldlM_feed hstart hfold

/-! ## Requests -/

namespace Request

/-- The layout of the tables that a request is about. -/
def layout? : Request → Option Layout
  | generate _ layout _ => some layout
  | check _ _ layout => some layout
  | checksum .. | presets _ | completions _ => none

theorem accepted_of_layoutOf {ch : Choices} (hs : ch.Sound) {layout : Layout}
    (h : layoutOf ch = .ok layout) : layout.Accepted := by
  unfold layoutOf at h
  split at h
  · contradiction
  · obtain rfl := Except.ok.inj h
    trivial
  · next n hn _ =>
    obtain rfl := Except.ok.inj h
    exact hs n hn
  · obtain rfl := Except.ok.inj h
    decide

theorem accepted_of_ofChoices {c : Command} {ch : Choices} {r : Request} (hs : ch.Sound)
    (h : ofChoices c ch = .ok r) : ∀ layout ∈ r.layout?, layout.Accepted := by
  cases c with
  | generate =>
    obtain ⟨selection, -, h⟩ := exists_of_bind_eq_ok h
    obtain ⟨layout, hlayout, h⟩ := exists_of_bind_eq_ok h
    obtain rfl := Except.ok.inj h
    rintro _ ⟨⟩
    exact accepted_of_layoutOf hs hlayout
  | check =>
    obtain ⟨selection, -, h⟩ := exists_of_bind_eq_ok h
    obtain ⟨layout, hlayout, h⟩ := exists_of_bind_eq_ok h
    split at h
    · obtain rfl := Except.ok.inj h
      rintro _ ⟨⟩
      exact accepted_of_layoutOf hs hlayout
    · contradiction
  | checksum =>
    obtain ⟨selection, -, h⟩ := exists_of_bind_eq_ok h
    obtain rfl := Except.ok.inj h
    rintro _ ⟨⟩
  | presets =>
    obtain rfl := Except.ok.inj h
    rintro _ ⟨⟩
  | completions =>
    rw [ofChoices] at h
    split at h
    · obtain rfl := Except.ok.inj h
      rintro _ ⟨⟩
    · contradiction

/-- **The layout of a request is accepted**, whatever the command line is. -/
theorem accepted_of_ofArguments {arguments : List String} {r : Request}
    (h : ofArguments arguments = .ok r) : ∀ layout ∈ r.layout?, layout.Accepted := by
  induction arguments with
  | nil => contradiction
  | cons argument rest ih =>
    rw [ofArguments] at h
    split at h
    · contradiction
    · split at h
      · split at h
        · contradiction
        · next ch hch => exact accepted_of_ofChoices (Choices.sound_ofArguments hch) h
      · split at h
        · contradiction
        · exact ih h

end Request
end CrcTables
