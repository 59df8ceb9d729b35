import CrcTables.Proofs.Listing.Grammar
import CrcTables.Proofs.Listing.RoundTrip
import CrcTables.Proofs.Listing.SearchStep

/-!
# What is read is settled on the way

A flaw is reported for the line on which it was found, and the lines behind that line had no part in
it, unless it is only found at the end of the text.  In the same way nothing counts that stands
behind the line that closes the array.

## What is here

* `Listing.SettledAt` — what is read does not depend on the lines behind this one.
* `Listing.readEntries_cons_cases` — what one line can do to the reading of the array.
* `Listing.settled_of_openingOf_eq_error`, `Listing.settled_of_readEntries`,
  `Listing.settled_of_readLines_eq_error` — what is read from any number of lines is settled on the
  line that is reported, or at their end.
* `Listing.ClosesAt`, `Listing.readLines_eq_of_closesAt` — a listing is settled where its array is
  closed.
* `Listing.parse_local` — both for a text.
-/

set_option autoImplicit false
namespace CrcTables
namespace Listing

open Text

/-! ## Settled on a line -/

/-- What is read from some lines is settled on line `k` of them, counted from one: whatever stands
behind this line, the same is read. -/
def SettledAt {α : Type} (read : List (List Char) → α) (ls : List (List Char)) (k : Nat) : Prop :=
  ∃ before l after, ls = before ++ l :: after ∧ k = before.length + 1 ∧
    ∀ after', read (before ++ l :: after') = read ls

namespace SettledAt

variable {α : Type} {read : List (List Char) → α} {ls : List (List Char)} {k : Nat}

/-- The first line settles what is read. -/
theorem head {l : List Char} {rest : List (List Char)}
    (h : ∀ rest', read (l :: rest') = read (l :: rest)) : SettledAt read (l :: rest) 1 :=
  ⟨[], l, rest, rfl, rfl, h⟩

/-- Lines that are passed over first only move the line. -/
theorem append {read' : List (List Char) → α} (before : List (List Char))
    (hread : ∀ ls, read' (before ++ ls) = read ls) (h : SettledAt read ls k) :
    SettledAt read' (before ++ ls) (before.length + k) := by
  obtain ⟨inside, l, after, rfl, rfl, hsame⟩ := h
  refine ⟨before ++ inside, l, after, by simp, by simp [Nat.add_assoc], fun after' ↦ ?_⟩
  rw [List.append_assoc, hread, hread, hsame]

/-- What is made of what is read is settled on the same line. -/
theorem comp {β : Type} (f : α → β) (h : SettledAt read ls k) :
    SettledAt (fun ls ↦ f (read ls)) ls k := by
  obtain ⟨before, l, after, hls, hk, hsame⟩ := h
  exact ⟨before, l, after, hls, hk, fun after' ↦ congrArg f (hsame after')⟩

theorem pos (h : SettledAt read ls k) : 1 ≤ k := by
  obtain ⟨before, l, after, -, rfl, -⟩ := h
  omega

theorem le_length (h : SettledAt read ls k) : k ≤ ls.length := by
  obtain ⟨before, l, after, rfl, rfl, -⟩ := h
  simp

/-- **Lines that agree up to the line** on which it is settled are read in the same way. -/
theorem read_eq (h : SettledAt read ls k) {ls' : List (List Char)}
    (hls : ls'.take k = ls.take k) : read ls' = read ls := by
  obtain ⟨before, l, after, rfl, rfl, hsame⟩ := h
  have htake : (before ++ l :: after).take (before.length + 1) = before ++ [l] := by
    rw [← List.singleton_append, ← List.append_assoc]
    exact List.take_left' (by simp)
  have hls' : ls' = before ++ l :: ls'.drop (before.length + 1) := by
    rw [← List.take_append_drop (before.length + 1) ls', hls, htake]
    simp
  rw [hls', hsame]

end SettledAt

/-! ## The search for the declaration -/

/-- **A search that fails is settled** on the line that is reported, unless no declaration was found
at all. -/
theorem settled_of_openingOf_eq_error {recorded? : Option UInt64} {line : Nat}
    {ls : List (List Char)} {f : Flaw} (h : openingOf recorded? line ls = .error f) :
    f.line = max (line + ls.length - 1) 1 ∨
      ∃ k, SettledAt (openingOf recorded? line) ls k ∧ f.line + 1 = line + k := by
  induction ls generalizing recorded? line with
  | nil =>
    obtain rfl := Except.error.inj h
    exact .inl rfl
  | cons l rest ih =>
    cases hstep : searchStep l with
    | goOn found? =>
      have hnext : ∀ rest', openingOf recorded? line (l :: rest') =
          openingOf (found?.or recorded?) (line + 1) rest' := fun rest' ↦ by
        rw [openingOf_cons, hstep]
      rw [hnext] at h
      rcases ih h with hend | ⟨k, hk, hline⟩
      · refine .inl (hend.trans ?_)
        rw [List.length_cons, Nat.add_right_comm, Nat.add_assoc]
      · exact .inr ⟨1 + k, hk.append [l] hnext, by omega⟩
    | fail cause =>
      have hfails : ∀ rest', openingOf recorded? line (l :: rest') = .error ⟨line, cause⟩ :=
        fun rest' ↦ by rw [openingOf_cons, hstep]
      rw [hfails] at h
      obtain rfl := Except.error.inj h
      exact .inr ⟨1, .head fun rest' ↦ by rw [hfails, hfails], rfl⟩
    | declare d tail =>
      rw [openingOf_cons, hstep] at h
      contradiction

/-! ## The array -/

/-- The line on which reading the array ended. -/
def lastLine : Except Flaw (Nat × Array UInt64) → Nat
  | .error f => f.line
  | .ok (last, _) => last

/-- **What one line can do to the reading of the array**: if it does not close the array, reading
may go on behind it, and otherwise reading ends on it. -/
theorem readEntries_cons_cases (last : Nat) (found : Array UInt64) (l : List Char) :
    (closes l = false ∧ ∃ words, ∀ rest,
        readEntries last found (l :: rest) = readEntries (last + 1) words rest) ∨
      ∃ r, lastLine r = last + 1 ∧ ∀ rest, readEntries last found (l :: rest) = r := by
  cases hscan : Literal.scan l found with
  | error digits =>
    refine .inr ⟨.error ⟨last + 1, .badLiteral (String.ofList digits)⟩, rfl, fun rest ↦ ?_⟩
    simp only [readEntries, scanLine, hscan]
  | ok words =>
    cases hclose : closes l with
    | false =>
      refine .inl ⟨rfl, words, fun rest ↦ ?_⟩
      simp only [readEntries, scanLine, hscan, hclose, Bool.false_eq_true, if_false]
    | true =>
      refine .inr ⟨.ok (last + 1, words), rfl, fun rest ↦ ?_⟩
      simp only [readEntries, scanLine, hscan, hclose, if_true]

/-- **Reading the array is settled** on the line on which it ended, or that is the last line. -/
theorem settled_of_readEntries (last : Nat) (found : Array UInt64) (ls : List (List Char)) :
    lastLine (readEntries last found ls) = last + ls.length ∨
      ∃ k, SettledAt (readEntries last found) ls k ∧
        lastLine (readEntries last found ls) = last + k := by
  induction ls generalizing last found with
  | nil => exact .inl rfl
  | cons l rest ih =>
    rcases readEntries_cons_cases last found l with ⟨-, words, hnext⟩ | ⟨r, hline, hends⟩
    · rw [hnext, List.length_cons]
      rcases ih (last + 1) words with hend | ⟨k, hk, hend⟩
      · exact .inl (by omega)
      · exact .inr ⟨1 + k, hk.append [l] hnext, by omega⟩
    · exact .inr ⟨1, .head fun rest' ↦ by rw [hends, hends], by rw [hends, hline]⟩

/-- What stands behind the line that closes the array does not matter. -/
theorem readEntries_append_closes {inside : List (List Char)} {l : List Char}
    (hinside : ∀ x ∈ inside, closes x = false) (hclose : closes l = true) (last : Nat)
    (found : Array UInt64) (rest rest' : List (List Char)) :
    readEntries last found (inside ++ l :: rest) =
      readEntries last found (inside ++ l :: rest') := by
  induction inside generalizing last found with
  | nil =>
    rcases readEntries_cons_cases last found l with ⟨hgoesOn, -⟩ | ⟨r, -, hends⟩
    · rw [hgoesOn] at hclose
      contradiction
    · exact (hends rest).trans (hends rest').symm
  | cons x inside ih =>
    rcases readEntries_cons_cases last found x with ⟨-, words, hnext⟩ | ⟨r, -, hends⟩
    · rw [List.cons_append, List.cons_append, hnext, hnext]
      exact ih (List.forall_mem_cons.1 hinside).2 (last + 1) words
    · exact (hends _).trans (hends _).symm

/-- The listing behind a declaration, from the outcome of reading its array. -/
def conclude (o : Opening) (layout : Layout) :
    Except Flaw (Nat × Array UInt64) → Except Flaw Listing
  | .error f => .error f
  | .ok (last, words) =>
    match fit? words layout with
    | some s => .ok ⟨o.declaration.name, o.declaration.language, o.polynomial?, s⟩
    | none => .error ⟨last, .entryCount (Table.size * layout.tableCount) words.size⟩

theorem line_of_conclude_eq_error {o : Opening} {layout : Layout}
    {r : Except Flaw (Nat × Array UInt64)} {f : Flaw} (h : conclude o layout r = .error f) :
    f.line = lastLine r := by
  cases r with
  | error f' =>
    obtain rfl := Except.error.inj h
    rfl
  | ok lastWords =>
    obtain ⟨last, words⟩ := lastWords
    cases hfit : fit? words layout with
    | none =>
      simp only [conclude, hfit] at h
      obtain rfl := Except.error.inj h
      rfl
    | some s => simp [conclude, hfit] at h

/-- **An array with a flaw** is settled on the line of its declaration or on the line that is
reported, or that is the last line. -/
theorem settled_of_finish_eq_error {o : Opening} {f : Flaw} (h : finish o = .error f) :
    (f.line = o.line ∧ ∀ following, finish { o with following := following } = .error f) ∨
      f.line = o.line + o.following.length ∨
      ∃ k, SettledAt (fun following ↦ finish { o with following := following }) o.following k ∧
        f.line = o.line + k := by
  cases hlayout : Declaration.layout o.declaration.dimensions with
  | error cause =>
    have hfinish : ∀ following,
        finish { o with following := following } = .error ⟨o.line, cause⟩ := fun following ↦ by
      simp only [finish, hlayout]
    obtain rfl := Except.error.inj ((hfinish o.following).symm.trans h)
    exact .inl ⟨rfl, hfinish⟩
  | ok layout =>
    cases hscan : Literal.scan o.initializer #[] with
    | error digits =>
      have hfinish : ∀ following, finish { o with following := following } =
          .error ⟨o.line, .badLiteral (String.ofList digits)⟩ := fun following ↦ by
        simp only [finish, hlayout, scanLine, hscan]
      obtain rfl := Except.error.inj ((hfinish o.following).symm.trans h)
      exact .inl ⟨rfl, hfinish⟩
    | ok first =>
      -- from here on the lines behind the declaration count only for what is read from them
      have hfinish : ∀ following, finish { o with following := following } =
          conclude o layout (readEntries o.line first following) := fun following ↦ by
        simp only [finish, hlayout, scanLine, hscan]
        rfl
      have hline := line_of_conclude_eq_error ((hfinish o.following).symm.trans h)
      rcases settled_of_readEntries o.line first o.following with hend | ⟨k, hk, hend⟩
      · exact .inr (.inl (hline.trans hend))
      · refine .inr (.inr ⟨k, ?_, hline.trans hend⟩)
        rw [funext hfinish]
        exact hk.comp (conclude o layout)

/-! ## A whole text -/

/-- The parts of a text up to its array do not depend on the lines behind the declaration. -/
theorem Preamble.Of.with_following {x : Preamble} {ls : List (List Char)} (h : x.Of ls)
    (following : List (List Char)) :
    Of { x with following := following }
      (x.before ++ (x.head ++ '=' :: x.initializer) :: following) :=
  ⟨rfl, h.first, h.declares, h.labels, h.equals, h.declaration⟩

/-- What is read goes on behind the declaration in the same way, whatever follows. -/
theorem Preamble.Of.readLines_eq {x : Preamble} {ls : List (List Char)} (h : x.Of ls)
    (following : List (List Char)) :
    readLines (x.before ++ (x.head ++ '=' :: x.initializer) :: following) =
      finish { x.opening none 1 with following := following } := by
  rw [readLines, openingOf_eq_ok_of_preamble (h.with_following following)]
  rfl

/-- **Lines with a flaw are settled** on the line that is reported, or that is the last line. -/
theorem settled_of_readLines_eq_error {ls : List (List Char)} {f : Flaw}
    (h : readLines ls = .error f) :
    f.line = max ls.length 1 ∨ SettledAt readLines ls f.line := by
  have hcomp : readLines = fun ls ↦ (openingOf none 1 ls).bind finish :=
    funext readLines_eq_readFrom
  cases hopening : openingOf none 1 ls with
  | error f' =>
    rw [readLines, hopening] at h
    obtain rfl := Except.error.inj h
    rcases settled_of_openingOf_eq_error hopening with hend | ⟨k, hk, hline⟩
    · exact .inl (hend.trans (by rw [Nat.add_sub_cancel_left]))
    · obtain rfl : f'.line = k := by omega
      rw [hcomp]
      exact .inr (hk.comp fun r ↦ r.bind finish)
  | ok o =>
    obtain ⟨x, hx, rfl⟩ := openingOf_eq_ok_iff.1 hopening
    have hlines := hx.lines
    have hline : (x.opening none 1).line = 1 + x.before.length := rfl
    have hfollowing : (x.opening none 1).following = x.following := rfl
    rw [readLines, hopening] at h
    rcases settled_of_finish_eq_error h with ⟨hf, hsame⟩ | hend | ⟨k, hk, hf⟩
    · refine .inr ⟨x.before, _, x.following, hlines, by omega, fun after' ↦ ?_⟩
      rw [hx.readLines_eq, hsame, readLines, hopening, h]
    · refine .inl ?_
      rw [hlines, List.length_append, List.length_cons]
      rw [hline, hfollowing] at hend
      omega
    · right
      have hpre : ∀ following, readLines ((x.before ++ [x.head ++ '=' :: x.initializer]) ++
          following) = finish { x.opening none 1 with following := following } := fun following ↦ by
        rw [List.append_assoc]
        exact hx.readLines_eq following
      have hsettled := hk.append _ hpre
      rw [hfollowing, List.append_assoc, List.singleton_append, ← hlines] at hsettled
      have hcount : f.line = (x.before ++ [x.head ++ '=' :: x.initializer]).length + k := by
        rw [hf, hline, List.length_append, List.length_singleton, Nat.add_comm 1]
      rwa [hcount]

/-- Lists that have the same first member with a property, and this member at its first place, are
the same up to there. -/
theorem append_cons_inj_of_first {α : Type} {P : α → Prop} {a a' b b' : List α} {x x' : α}
    (h : a ++ x :: b = a' ++ x' :: b') (ha : ∀ y ∈ a, ¬ P y) (ha' : ∀ y ∈ a', ¬ P y) (hx : P x)
    (hx' : P x') : a = a' ∧ x = x' ∧ b = b' := by
  induction a generalizing a' with
  | nil =>
    cases a' with
    | nil => exact ⟨rfl, List.cons.inj h⟩
    | cons y a' =>
      obtain rfl : x = y := (List.cons.inj h).1
      exact absurd hx (List.forall_mem_cons.1 ha').1
  | cons z a ih =>
    cases a' with
    | nil =>
      obtain rfl : z = x' := (List.cons.inj h).1
      exact absurd hx' (List.forall_mem_cons.1 ha).1
    | cons y a' =>
      obtain ⟨rfl, htail⟩ := List.cons.inj h
      obtain ⟨rfl, hrest⟩ := ih htail (List.forall_mem_cons.1 ha).2 (List.forall_mem_cons.1 ha').2
      exact ⟨rfl, hrest⟩

/-- Line `n` of some lines, counted from one, is the first behind their declaration that closes the
array. -/
def ClosesAt (ls : List (List Char)) (n : Nat) : Prop :=
  ∃ before d inside l after, ls = before ++ d :: (inside ++ l :: after) ∧
    ((∀ x ∈ before, ¬ IsDeclaration x) ∧ IsDeclaration d) ∧
    ((∀ x ∈ inside, closes x = false) ∧ closes l = true) ∧
    n = before.length + 1 + inside.length + 1

/-- **A listing is settled where its array is closed.** -/
theorem settled_of_closesAt {ls : List (List Char)} {r : Listing} (h : readLines ls = .ok r)
    {n : Nat} (hn : ClosesAt ls n) : SettledAt readLines ls n := by
  obtain ⟨before, d, inside, l, after, rfl, ⟨hfirst, hd⟩, ⟨hinside, hclose⟩, rfl⟩ := hn
  obtain ⟨x, hx, -⟩ := readLines_eq_ok_iff.1 h
  have hpreamble := hx.preamble
  -- the declaration that was read is the first line that declares an array
  obtain ⟨rfl, rfl, hfollowing⟩ := append_cons_inj_of_first (hpreamble.lines) hfirst
    hpreamble.first hd hpreamble.declares
  refine ⟨x.before ++ (x.head ++ '=' :: x.initializer) :: inside, l, after, by simp,
    by simp [Nat.add_assoc, Nat.add_comm 1], fun after' ↦ ?_⟩
  rw [List.append_assoc, List.cons_append, hpreamble.readLines_eq, hpreamble.readLines_eq]
  simp only [finish, readEntries_append_closes hinside hclose _ _ after' after]

/-- The array of a listing that is printed is closed on its last line. -/
theorem closesAt_lines (pr : Printer) (w : UInt64) (s : TableSet) :
    ClosesAt (pr.lines w s) (pr.lines w s).length := by
  have hcomments : ∀ x ∈ pr.commentLines w, ¬ IsDeclaration x := by
    have hlabel : IsLabel (pr.style.language.comment
        (polynomialLabel.toList ++ ' ' :: marked16 w)) := by
      by_contra hl
      have hafter := after?_comment pr.style.language (' ' :: marked16 w)
      rw [after?_label_eq_none_iff.2 hl] at hafter
      contradiction
    have hwarning : ¬ IsDeclaration (pr.style.language.comment warning.toList) := fun hd ↦ by
      have hstart := startsDeclaration_eq_true_iff.2 hd.2
      rw [startsDeclaration_warning] at hstart
      contradiction
    exact List.forall_mem_cons.2
      ⟨hwarning, List.forall_mem_singleton.2 fun hd ↦ hd.1 hlabel⟩
  have hdeclaration : IsDeclaration
      (pr.style.language.declaration pr.style.name.toList s) := by
    have htail : 'R' ∉ [' ', pr.style.language.opening] := by cases pr.style.language <;> decide
    rw [Language.declaration_eq]
    exact ⟨after?_label_eq_none_iff.1 (after?_heading _ pr.isName s htail),
      startsDeclaration_eq_true_iff.1 (startsDeclaration_heading _ _ s _)⟩
  have hbody : ∀ x ∈ pr.bodyLines s, closes x = false := by
    have hcarries := (pr.carries_bodyLines s).imp
      (S := fun l _ ↦ closes l = false ∧ True) fun _ _ h ↦ ⟨h.goesOn, trivial⟩
    exact ((List.forall₂_and_left _ _).1 hcarries).1
  refine ⟨pr.commentLines w, _, pr.bodyLines s, _, [], ?_, ⟨hcomments, hdeclaration⟩,
    ⟨hbody, closes_closing pr.style.language⟩, ?_⟩
  · rw [Printer.lines, List.append_assoc, List.cons_append]
  · simp only [Printer.lines, List.length_append, List.length_cons, List.length_nil]
    omega

/-- **What is read is settled on the way.**  An error is about a line of the text, and unless that
is the last line, every text that agrees up to this line has the same error.  If a text is read and
its array is closed on a line, every text that agrees up to that line is read as the same
listing. -/
theorem parse_local (text : String) :
    (∀ e, parse text = .error e → ∃ line reason, e = .unreadable line reason ∧
      (1 ≤ line ∧ line ≤ max 1 (Text.lines text.toList).length) ∧
      (line < (Text.lines text.toList).length → ∀ text' : String,
        (Text.lines text'.toList).take line = (Text.lines text.toList).take line →
          parse text' = .error e)) ∧
    ∀ l, parse text = .ok l → ∀ n, ClosesAt (Text.lines text.toList) n → ∀ text' : String,
      (Text.lines text'.toList).take n = (Text.lines text.toList).take n →
        parse text' = .ok l := by
  have hparse : ∀ text' : String, readLines (Text.lines text'.toList) =
      readLines (Text.lines text.toList) → parse text' = parse text := fun text' hread ↦ by
    rw [parse, read, hread, ← read, ← parse]
  constructor
  · intro e he
    obtain ⟨f, hf, rfl⟩ : ∃ f, readLines (Text.lines text.toList) = .error f ∧ f.toError = e := by
      rw [parse, read] at he
      cases hread : readLines (Text.lines text.toList) with
      | error f => exact ⟨f, rfl, by simpa [hread] using he⟩
      | ok l => simp [hread] at he
    refine ⟨f.line, f.cause.message, rfl, ?_, fun hline text' htext' ↦ ?_⟩
    · rcases settled_of_readLines_eq_error hf with hend | hsettled
      · omega
      · have hpos := hsettled.pos
        have hle := hsettled.le_length
        omega
    · have hsettled : SettledAt readLines (Text.lines text.toList) f.line :=
        (settled_of_readLines_eq_error hf).resolve_left (by omega)
      rw [hparse text' (hsettled.read_eq htext'), he]
  · intro l hl n hn text' htext'
    have hsettled := settled_of_closesAt (parse_eq_ok_iff_readLines.1 hl) hn
    rw [hparse text' (hsettled.read_eq htext'), hl]

/-- A listing with one more line behind it has that line. -/
theorem lines_unlines_append_singleton (pr : Printer) (w : UInt64) (s : TableSet) {l : List Char}
    (hl : '\n' ∉ l ∧ '\r' ∉ l) :
    Text.lines (unlines (pr.lines w s ++ [l])) = pr.lines w s ++ [l] := by
  refine lines_unlines fun x hx ↦ isLine_of_forall_isBreak fun c hc ↦ ?_
  rcases List.mem_append.1 hx with hx | hx
  · exact pr.not_mem_lines hc w s x hx
  · obtain rfl := List.mem_singleton.1 hx
    exact hc.not_mem hl

/-- A declaration without an initializer is reported whatever follows it, and a listing is read
whatever follows the end of its array. -/
theorem parse_local_other_endings :
    parse "static x\n\n" = .error (.unreadable 1 "declaration has no initializer") ∧
      parse "static x\n= 0x" = .error (.unreadable 1 "declaration has no initializer") ∧
      ∃ (pr : Printer) (s : TableSet) (l : Listing), parse (pr.render 7 s) = .ok l ∧
        parse (String.ofList (unlines (pr.lines 7 s ++ ["= 0x".toList]))) = .ok l := by
  have hfails : parse "static x\n\n" =
      .error (.unreadable 1 "declaration has no initializer") := by decide
  have hsame : (Text.lines "static x\n= 0x".toList).take 1 =
      (Text.lines "static x\n\n".toList).take 1 := by decide
  obtain ⟨line, reason, herror, -, hothers⟩ := (parse_local "static x\n\n").1 _ hfails
  obtain ⟨rfl, rfl⟩ : 1 = line ∧ _ = reason := by simpa using herror
  obtain ⟨pr⟩ : Nonempty Printer := ⟨⟨.c, "crc_table", 2⟩, by decide⟩
  have hread := parse_render_of_accepted pr 7 (.single (Vector.replicate 256 1)) trivial
  generalize TableSet.single (Vector.replicate 256 1) = s at hread
  refine ⟨hfails, hothers (by decide) _ hsame, pr, s, _, hread, ?_⟩
  have hcloses : ClosesAt (Text.lines (pr.render 7 s).toList) (pr.lines 7 s).length := by
    rw [pr.lines_render]
    exact closesAt_lines pr 7 s
  refine (parse_local _).2 _ hread _ hcloses _ ?_
  rw [String.toList_ofList, lines_unlines_append_singleton pr 7 s (by decide), pr.lines_render,
    List.take_left, List.take_length]

end Listing
end CrcTables
