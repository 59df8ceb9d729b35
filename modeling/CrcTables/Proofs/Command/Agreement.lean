import CrcTables.Command.Run
import CrcTables.Proofs.Command.Layouts
import CrcTables.Proofs.Listing.RoundTrip
import CrcTables.Proofs.Verification

/-!
# A generated file passes the check it was generated for

What one command writes, the other one reads: a file with a generated listing passes a check exactly
if the check asks for the same polynomial, however it was selected, and for the same layout.  The
style of the listing does not matter.

## What is here

* `Surroundings.Holds` — a file holds a text.
* `Request.checkText_render` — the verdict on a listing that was generated.
* `Request.check_generated` — the verdict on a file that holds it.
* `run_check_generated` — the same for whole command lines.
-/

set_option autoImplicit false
namespace CrcTables

/-! ## Files -/

namespace Surroundings

/-- A file holds a text: it can be opened, and its bytes are those of the text. -/
def Holds (s : Surroundings) (file text : String) : Prop :=
  ∃ deliveries bytes, s.openFile file = .ok deliveries ∧
    Delivery.collect deliveries = .ok bytes ∧ bytes.toByteArray = text.toUTF8

theorem readText_of_holds {s : Surroundings} {file text : String} (h : s.Holds file text) :
    s.readText file = .ok text := by
  obtain ⟨deliveries, bytes, hopen, hcollect, hbytes⟩ := h
  have htext : String.fromUTF8? bytes.toByteArray = some text := by
    rw [hbytes]
    exact dif_pos text.isValidUTF8
  simp only [readText, hopen, hcollect, htext]

end Surroundings

/-! ## The verdict -/

namespace Request

/-- **The verdict on a listing that was generated.** -/
theorem checkText_render (pr : Printer) {q : UInt64} {layout : Layout} {tables : TableSet}
    (h : TableSet.generate q layout = .ok tables) (p : UInt64) (layout' : Layout) :
    checkText (pr.render q tables) p layout' =
      if q ≠ p then .error (.polynomialMismatch p q)
      else if layout ≠ layout' then .error (.layoutMismatch layout'.describe layout.describe)
      else .ok pr.style.language := by
  obtain ⟨haccepted, hlayout⟩ := TableSet.layout_of_generate h
  subst hlayout
  rw [checkText, Listing.parse_render_of_accepted pr q tables haccepted]
  simp only [Listing.verify_of_generated (l := ⟨pr.style.name, pr.style.language, some q, tables⟩)
    rfl h p layout']
  split_ifs <;> rfl

/-- What was generated is the listing of generated tables, in the style asked for. -/
theorem exists_of_listing_eq_ok {selection : Selection} {layout : Layout} {style : Style}
    {text : String} (h : listing selection layout style = .ok text) :
    ∃ (pr : Printer) (tables : TableSet), pr.style = style ∧
      TableSet.generate selection.polynomial layout = .ok tables ∧
      pr.render selection.polynomial tables = text := by
  unfold listing at h
  split at h
  · contradiction
  · next pr hpr =>
    split at h
    · contradiction
    · next tables htables =>
      exact ⟨pr, tables, Printer.style_of_ofStyle hpr, htables, Except.ok.inj h⟩

theorem listing_of_result {s : Surroundings} {selection : Selection} {layout : Layout}
    {style : Style} {text : String} (h : (generate selection layout style).result s = .ok text) :
    listing selection layout style = .ok text := by
  rw [result] at h
  cases hlisting : listing selection layout style with
  | error e =>
    rw [hlisting] at h
    contradiction
  | ok text' =>
    rw [hlisting] at h
    exact congrArg Except.ok (Except.ok.inj h)

/-- The verdict on a file that holds a listing that was generated. -/
theorem checkFile_of_holds {s : Surroundings} {file text : String} {first second : Selection}
    {layout layout' : Layout} {style : Style} (h : listing first layout style = .ok text)
    (hfile : s.Holds file text) (haccepted : layout'.Accepted) :
    checkFile s file second layout' =
      if first.polynomial ≠ second.polynomial then
        .error (.error (.polynomialMismatch second.polynomial first.polynomial))
      else if layout ≠ layout' then
        .error (.error (.layoutMismatch layout'.describe layout.describe))
      else .ok (confirmation file style.language layout' second.polynomial) := by
  obtain ⟨pr, tables, rfl, htables, rfl⟩ := exists_of_listing_eq_ok h
  have hcheck : layout'.check = .ok () := if_pos haccepted
  simp only [checkFile, hcheck, Surroundings.readText_of_holds hfile, checkText_render pr htables]
  split_ifs <;> rfl

end Request

/-! ## Command lines -/

/-- **The same for whole command lines.**  The layout that a command line asks for is always
accepted, so the verdict is about the polynomial and the layout alone. -/
theorem run_check_generated (s s' : Surroundings) {arguments arguments' : List String}
    {first second : Selection} {layout layout' : Layout} {style : Style} {file : String}
    (hgenerate : Request.ofArguments arguments = .ok (.generate first layout style))
    (hcheck : Request.ofArguments arguments' = .ok (.check file second layout'))
    (hcode : (run s arguments).code = 0) (hfile : s'.Holds file (run s arguments).output) :
    run s' arguments' =
      if first.polynomial ≠ second.polynomial then
        ⟨1, "", "Error: " ++
          (Error.polynomialMismatch second.polynomial first.polynomial).message ++ "\n"⟩
      else if layout ≠ layout' then
        ⟨1, "", "Error: " ++
          (Error.layoutMismatch layout'.describe layout.describe).message ++ "\n"⟩
      else ⟨0, Request.confirmation file style.language layout' second.polynomial, ""⟩ := by
  have haccepted : layout'.Accepted := Request.accepted_of_ofArguments hcheck layout' rfl
  rw [run, hgenerate] at hcode hfile
  cases hresult : (Request.generate first layout style).result s with
  | error failure => simp [hresult] at hcode
  | ok text =>
    simp only [hresult] at hfile
    have hverdict : (Request.check file second layout').result s' = _ :=
      Request.checkFile_of_holds (Request.listing_of_result hresult) hfile haccepted
    rw [run, hcheck]
    simp only [hverdict]
    split_ifs <;> rfl

end CrcTables
