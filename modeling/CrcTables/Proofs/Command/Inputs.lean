import CrcTables.Command.Report
import CrcTables.Proofs.Checksum.Blocks

/-!
# What the inputs of a list hold

The names of a list stand for files and for standard input, in any order and as often as one likes.
A file holds the same bytes wherever its name stands.  Standard input holds its bytes where its
dash stands first, and nothing anywhere later.  One calculator goes through all of them, and still
each checksum is that of its own input.

## What is here

* `Surroundings.content`, `Surroundings.contents` — the bytes behind a name, and behind each name of
  a list.
* `Surroundings.map_received_sourcesFrom` — reading one input after the other finds just these.
* `ChecksumRecord.ofContent` — the record of an input, from its bytes, and how these are counted
  (`ChecksumRecord.bytes_ofContent`).
* `checksumsOf_of_ok` — if all inputs can be read, there is one such record for each.
* `checksumsOf_of_error` — if not, there is only the reason why the first of them cannot.
-/

set_option autoImplicit false
namespace CrcTables

/-! ## Reading -/

/-- What comes of opening an input and reading it to its end. -/
def received (opened : Except FileFault Deliveries) : Except FileFault (List UInt8) :=
  match opened with
  | .error e => .error e
  | .ok deliveries => Delivery.collect deliveries

theorem received_eq_ok_iff {opened : Except FileFault Deliveries} {bytes : List UInt8} :
    received opened = .ok bytes ↔
      ∃ deliveries, opened = .ok deliveries ∧ Delivery.collect deliveries = .ok bytes := by
  cases opened <;> simp [received]

/-- An input fails to be opened, or while it is read. -/
theorem received_eq_error_iff {opened : Except FileFault Deliveries} {reason : FileFault} :
    received opened = .error reason ↔ opened = .error reason ∨
      ∃ deliveries, opened = .ok deliveries ∧ Delivery.collect deliveries = .error reason := by
  cases opened <;> simp [received]

namespace Surroundings

/-- The bytes behind a name, or the reason why they cannot be read; `before` are the names that are
read before it.  Standard input holds nothing any more once it has been read. -/
def content (s : Surroundings) (before : List String) (name : String) :
    Except FileFault (List UInt8) :=
  if isDash name then
    if before.any isDash then .ok [] else Delivery.collect s.standardInput
  else received (s.openFile name)

/-- What is behind each name of a list. -/
def contents (s : Surroundings) (names : List String) : List (Except FileFault (List UInt8)) :=
  names.mapIdx fun i name ↦ s.content (names.take i) name

/-- The name under which an input is reported. -/
def reportedName (name : String) : String := if isDash name then "<stdin>" else name

variable (s : Surroundings) {name : String}

theorem sourcesFrom_cons_of_dash (h : isDash name = true) (left : Deliveries)
    (names : List String) :
    s.sourcesFrom left (name :: names) = ⟨"<stdin>", .ok left⟩ :: s.sourcesFrom [] names :=
  if_pos h

theorem sourcesFrom_cons_of_file (h : ¬isDash name = true) (left : Deliveries)
    (names : List String) :
    s.sourcesFrom left (name :: names) = ⟨name, s.openFile name⟩ :: s.sourcesFrom left names :=
  if_neg h

/-- Every input is reported under its own name. -/
theorem map_name_sourcesFrom (left : Deliveries) (names : List String) :
    (s.sourcesFrom left names).map Source.name = names.map reportedName := by
  induction names generalizing left with
  | nil => rfl
  | cons name names ih =>
    by_cases hname : isDash name = true
    · rw [sourcesFrom_cons_of_dash s hname, List.map_cons, List.map_cons, ih, reportedName,
        if_pos hname]
    · rw [sourcesFrom_cons_of_file s hname, List.map_cons, List.map_cons, ih, reportedName,
        if_neg hname]

/-- **Reading one input after the other** finds what is behind each name. -/
theorem map_received_sourcesFrom (before names : List String) :
    (s.sourcesFrom (if before.any isDash then [] else s.standardInput) names).map
        (fun source ↦ received source.opened) =
      names.mapIdx fun i name ↦ s.content (before ++ names.take i) name := by
  induction names generalizing before with
  | nil => rfl
  | cons name names ih =>
    -- the first name is read before all others
    have hbefore : ∀ i, before ++ (name :: names).take (i + 1) =
        (before ++ [name]) ++ names.take i := by
      intro i
      rw [List.take_succ_cons, List.append_assoc]
      rfl
    have hany : (before ++ [name]).any isDash = (before.any isDash || isDash name) := by
      rw [List.any_append, List.any_cons, List.any_nil, Bool.or_false]
    rw [List.mapIdx_cons, List.take_zero, List.append_nil]
    simp only [hbefore]
    rw [← ih, hany]
    by_cases hname : isDash name = true
    · rw [sourcesFrom_cons_of_dash s hname, List.map_cons, hname, Bool.or_true, if_pos rfl, content,
        if_pos hname]
      split <;> rfl
    · have hfile : isDash name = false := Bool.eq_false_iff.2 hname
      rw [sourcesFrom_cons_of_file s hname, List.map_cons, hfile, Bool.or_false, content,
        if_neg hname]

end Surroundings

/-! ## Records -/

/-- The record of an input, from its bytes. -/
def ChecksumRecord.ofContent (v : Variant) (name : String) (content : List UInt8) :
    ChecksumRecord :=
  ⟨name, v.name, Calculator.compute v content, content.length⟩

/-- The bytes of a record are counted as a counter of 64 bits counts them while they are read, if
there are fewer than `2 ^ 64`. -/
theorem ChecksumRecord.bytes_ofContent (v : Variant) (name : String) {deliveries : Deliveries}
    {content : List UInt8} (hcollect : Delivery.collect deliveries = .ok content)
    (hlength : content.length < 2 ^ 64) :
    (ofContent v name content).bytes = (Delivery.counter deliveries).toNat := by
  obtain rfl := Delivery.message_of_collect hcollect
  exact (Delivery.toNat_counter hlength).symm

section Records

variable {c : Calculator} {source : Source} {sources : List Source}

/-- An input that can be read gets its record, and the next one finds a calculator that is as good
as new. -/
theorem checksumsOf_cons_of_ok (h : c.Consistent) {bytes : List UInt8}
    (hsource : received source.opened = .ok bytes) :
    checksumsOf c (source :: sources) =
      match checksumsOf ((Calculator.new c.variant).update bytes) sources with
      | .error e => .error e
      | .ok records => .ok (.ofContent c.variant source.name bytes :: records) := by
  obtain ⟨deliveries, hopened, hcollect⟩ := received_eq_ok_iff.1 hsource
  have habsorb := (Calculator.consistent_new c.variant).absorb_of_collect hcollect
  simp only [checksumsOf, hopened, h.reset_eq, habsorb]
  rfl

/-- At an input that cannot be read all comes to an end. -/
theorem checksumsOf_cons_of_error {reason : FileFault}
    (hsource : received source.opened = .error reason) :
    checksumsOf c (source :: sources) = .error reason := by
  rcases received_eq_error_iff.1 hsource with hopened | ⟨deliveries, hopened, hcollect⟩
  · simp only [checksumsOf, hopened]
  · have hfailed : (c.reset.absorb deliveries).2 = .error reason :=
      Calculator.absorb_of_failure hcollect
    cases habsorb : c.reset.absorb deliveries with
    | mk reached result =>
      obtain rfl : result = .error reason := by rw [← hfailed, habsorb]
      simp only [checksumsOf, hopened, habsorb]

/-- **If all inputs can be read, each gets its record**, in order, from its own bytes alone. -/
theorem checksumsOf_of_ok (h : c.Consistent) {cs : List (List UInt8)}
    (hsources : sources.map (fun source ↦ received source.opened) = cs.map .ok) :
    checksumsOf c sources =
      .ok (List.zipWith (.ofContent c.variant) (sources.map Source.name) cs) := by
  induction sources generalizing c cs with
  | nil =>
    obtain rfl : cs = [] := by simpa using hsources.symm
    rfl
  | cons source sources ih =>
    cases cs with
    | nil => simp at hsources
    | cons bytes cs =>
      rw [List.map_cons, List.map_cons, List.cons.injEq] at hsources
      have hfed : ((Calculator.new c.variant).update bytes).Consistent :=
        (Calculator.consistent_new c.variant).update bytes
      rw [checksumsOf_cons_of_ok h hsources.1, ih hfed hsources.2]
      rfl

/-- **If an input cannot be read, no record is left**, and the reason given is that of the first
such input. -/
theorem checksumsOf_of_error (h : c.Consistent) {cs : List (List UInt8)} {reason : FileFault}
    {rest : List (Except FileFault (List UInt8))}
    (hsources : sources.map (fun source ↦ received source.opened) =
      cs.map .ok ++ .error reason :: rest) :
    checksumsOf c sources = .error reason := by
  induction cs generalizing c sources with
  | nil =>
    obtain ⟨source, sources, rfl, hsource, -⟩ := List.map_eq_cons_iff.1 hsources
    exact checksumsOf_cons_of_error hsource
  | cons bytes cs ih =>
    obtain ⟨source, sources, rfl, hsource, hsources⟩ := List.map_eq_cons_iff.1 hsources
    have hfed : ((Calculator.new c.variant).update bytes).Consistent :=
      (Calculator.consistent_new c.variant).update bytes
    rw [checksumsOf_cons_of_ok h hsource, ih hfed hsources]

end Records

end CrcTables
