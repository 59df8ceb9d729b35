import CrcTables.Command.Run
import CrcTables.Proofs.Command.Inputs
import CrcTables.Proofs.Text.Digits

/-!
# Checksums are reported all or not at all

A list of inputs leads to one of two ends.  If every input can be read, each has its checksum in the
report, in order and with the same digits for people and for programs.  If one cannot, the report is
left out as a whole, and the reason is that of the first such input.

## What is here

* `JsonValue.quote_marked16` — the digits of a word stand unchanged in a record for programs.
* `ChecksumRecord.line_eq`, `ChecksumRecord.write_json` — both forms of a record, around the same
  digits.
* `Request.checksum_all_or_none` — the two ends.
-/

set_option autoImplicit false
namespace CrcTables

/-! ## Digits in the two reports -/

namespace JsonValue

open Text

theorem escape_of_isIdentifierPart {c : Char} (h : isIdentifierPart c = true) :
    escape c = [c] := by
  have hquote : c ≠ '"' := ne_of_isIdentifierPart h (by decide)
  rw [isIdentifierPart_iff] at h
  unfold escape
  split
  · contradiction
  -- none of the other characters that are escaped is part of an identifier
  iterate 6 · simp at h
  · rw [if_neg (by omega)]

theorem flatMap_escape_eq_self {s : List Char} (h : ∀ c ∈ s, isIdentifierPart c = true) :
    s.flatMap escape = s := by
  induction s with
  | nil => rfl
  | cons c s ih =>
    rw [List.flatMap_cons, escape_of_isIdentifierPart (h c List.mem_cons_self),
      ih fun d hd ↦ h d (List.mem_cons_of_mem c hd)]
    rfl

/-- **The digits of a word are not escaped.** -/
theorem quote_marked16 (w : UInt64) :
    quote (String.ofList (marked16 w)) = "\"0x".toList ++ word16 w ++ "\"".toList := by
  rw [quote, String.toList_ofList,
    flatMap_escape_eq_self fun _ hc ↦ isIdentifierPart_of_mem_marked16 hc]
  rfl

end JsonValue

namespace ChecksumRecord

/-- A record for people that shows these digits. -/
def lineText (r : ChecksumRecord) (digits : List Char) : List Char :=
  digits ++ [' ', ' '] ++ r.name.toList ++ ['\n']

/-- A field of a record for programs, on a line of its own. -/
def jsonField (key : String) (value : List Char) : List Char :=
  "    ".toList ++ JsonValue.quote key ++ ": ".toList ++ value

/-- A record for programs that shows these digits. -/
def jsonText (r : ChecksumRecord) (digits : List Char) : List Char :=
  "  \x7b\n".toList ++
    commaLines [jsonField "file" (JsonValue.quote r.name),
      jsonField "algorithm" (JsonValue.quote r.algorithm),
      jsonField "crc" ("\"0x".toList ++ digits ++ "\"".toList),
      jsonField "bytes" (Text.decimal r.bytes)] ++
    "\n  \x7d".toList

theorem line_eq (r : ChecksumRecord) : r.line ++ ['\n'] = r.lineText (Text.word16 r.crc) := rfl

theorem write_json (r : ChecksumRecord) : r.json.write = r.jsonText (Text.word16 r.crc) := by
  rw [jsonText, ← JsonValue.quote_marked16]
  rfl

end ChecksumRecord

theorem checksumReport_false (rs : List ChecksumRecord) :
    checksumReport false rs = rs.flatMap fun r ↦ r.lineText (Text.word16 r.crc) := by
  show (rs.map ChecksumRecord.line).flatMap (fun l ↦ l ++ ['\n']) = _
  rw [List.flatMap_map]
  simp only [ChecksumRecord.line_eq]

theorem checksumReport_true {rs : List ChecksumRecord} (h : rs ≠ []) :
    checksumReport true rs = "[\n".toList ++
      commaLines (rs.map fun r ↦ r.jsonText (Text.word16 r.crc)) ++ "\n]".toList ++ ['\n'] := by
  have hnonempty : (rs.map ChecksumRecord.json).isEmpty = false := by
    simpa using h
  have hwrite : JsonRecord.write ∘ ChecksumRecord.json = fun r ↦ r.jsonText (Text.word16 r.crc) :=
    funext ChecksumRecord.write_json
  rw [checksumReport, if_pos rfl, jsonList, hnonempty, if_neg Bool.false_ne_true, List.map_map,
    hwrite]

/-! ## The two ends -/

namespace Request

/-- The names of the inputs: without any, standard input is the only one. -/
def inputNames (inputs : List String) : List String :=
  if inputs.isEmpty then ["-"] else inputs

theorem inputNames_ne_nil (inputs : List String) : inputNames inputs ≠ [] := by
  cases inputs with
  | nil => exact List.cons_ne_nil "-" []
  | cons name names => exact List.cons_ne_nil name names

/-- The inputs hold what is behind their names. -/
theorem map_received_sources (s : Surroundings) (inputs : List String) :
    (s.sources inputs).map (fun source ↦ received source.opened) =
      s.contents (inputNames inputs) :=
  s.map_received_sourcesFrom [] (inputNames inputs)

theorem map_name_sources (s : Surroundings) (inputs : List String) :
    (s.sources inputs).map Source.name =
      (inputNames inputs).map Surroundings.reportedName :=
  s.map_name_sourcesFrom s.standardInput (inputNames inputs)

/-- The records of the inputs with these names, from the bytes of each. -/
def recordsOf (v : Variant) (names : List String) (cs : List (List UInt8)) : List ChecksumRecord :=
  List.zipWith (fun name ↦ .ofContent v (Surroundings.reportedName name)) names cs

section Ends

variable {s : Surroundings} {inputs : List String} {cs : List (List UInt8)}

/-- There is one record for each input. -/
theorem length_recordsOf (v : Variant) (h : s.contents (inputNames inputs) = cs.map .ok) :
    (recordsOf v (inputNames inputs) cs).length = (inputNames inputs).length := by
  have hsame := congrArg List.length h
  rw [Surroundings.contents, List.length_mapIdx, List.length_map] at hsame
  rw [recordsOf, List.length_zipWith, hsame, Nat.min_self]

theorem checksums_of_ok (v : Variant) (h : s.contents (inputNames inputs) = cs.map .ok) :
    checksums s inputs v = .ok (recordsOf v (inputNames inputs) cs) := by
  rw [← map_received_sources] at h
  rw [checksums, checksumsOf_of_ok (Calculator.consistent_new v) h, map_name_sources,
    List.zipWith_map_left]
  rfl

theorem checksums_of_error (v : Variant) {reason : FileFault}
    {rest : List (Except FileFault (List UInt8))}
    (h : s.contents (inputNames inputs) = cs.map .ok ++ .error reason :: rest) :
    checksums s inputs v = .error reason := by
  rw [← map_received_sources] at h
  exact checksumsOf_of_error (Calculator.consistent_new v) h

end Ends

/-- **Checksums are reported all or not at all.**  If every input can be read, each has one record,
in order, from its own bytes alone, and both reports show the same digits for it.  If one cannot,
the work fails with the reason of the first such input, and nothing is printed, not even for the
inputs before it. -/
theorem checksum_all_or_none (s : Surroundings) (inputs : List String) (v : Variant) :
    (∀ cs : List (List UInt8), s.contents (inputNames inputs) = cs.map .ok →
      ∃ rs : List ChecksumRecord,
        rs = recordsOf v (inputNames inputs) cs ∧ rs.length = (inputNames inputs).length ∧
          checksums s inputs v = .ok rs ∧
          (checksum inputs v false).result s =
            .ok (String.ofList (rs.flatMap fun r ↦ r.lineText (Text.word16 r.crc))) ∧
          (checksum inputs v true).result s =
            .ok (String.ofList ("[\n".toList ++
              commaLines (rs.map fun r ↦ r.jsonText (Text.word16 r.crc)) ++
              "\n]".toList ++ ['\n']))) ∧
      ∀ (cs : List (List UInt8)) (reason : FileFault)
        (rest : List (Except FileFault (List UInt8))),
        s.contents (inputNames inputs) = cs.map .ok ++ .error reason :: rest →
          (∀ json, (checksum inputs v json).result s = .error (.file reason)) ∧
            ∀ (arguments : List String) (json : Bool),
              ofArguments arguments = .ok (checksum inputs v json) →
                run s arguments = ⟨1, "", "Error: " ++ reason.message ++ "\n"⟩ := by
  refine ⟨fun cs hcs ↦ ?all, fun cs reason rest hcs ↦ ?none⟩
  case all =>
    have hrecords := checksums_of_ok v hcs
    have hlength := length_recordsOf v hcs
    have hne : recordsOf v (inputNames inputs) cs ≠ [] :=
      List.ne_nil_of_length_pos (hlength ▸ List.length_pos_iff.2 (inputNames_ne_nil inputs))
    refine ⟨_, rfl, hlength, hrecords, ?_, ?_⟩
    · rw [result, hrecords, ← checksumReport_false]
    · rw [result, hrecords, ← checksumReport_true hne]
  case none =>
    have hresult : ∀ json, (checksum inputs v json).result s = .error (.file reason) := by
      intro json
      rw [result, checksums_of_error v hcs]
    refine ⟨hresult, fun arguments json harguments ↦ ?_⟩
    rw [run, harguments]
    simp only [hresult]
    rfl

/-- Standard input between files: its dash stands twice in one list, and behind a file that is
missing in the other. -/
theorem checksum_all_or_none_dash :
    ∃ s : Surroundings,
      (s.contents (inputNames ["-", "a", "-"]) = [[0x34], [0x31, 0x32, 0x33], []].map .ok ∧
        checksums s ["-", "a", "-"] .jones =
          .ok [⟨"<stdin>", "jones", Calculator.compute .jones [0x34], 1⟩,
            ⟨"a", "jones", Calculator.compute .jones [0x31, 0x32, 0x33], 3⟩,
            ⟨"<stdin>", "jones", Calculator.compute .jones [], 0⟩]) ∧
        s.contents (inputNames ["a", "b", "-"]) =
            [[0x31, 0x32, 0x33]].map .ok ++ .error .missing :: [.ok [0x34]] ∧
          ofArguments ["checksum", "a", "b", "-"] =
              .ok (checksum ["a", "b", "-"] .jones false) ∧
            run s ["checksum", "a", "b", "-"] =
              ⟨1, "", "Error: No such file or directory (os error 2)\n"⟩ := by
  let s : Surroundings :=
    ⟨fun name ↦ if name = "a" then .ok [.block [0x31], .interrupted, .block [0x32, 0x33]]
      else .error .missing, [.block [0x34]]⟩
  have hall : s.contents (inputNames ["-", "a", "-"]) =
      [[0x34], [0x31, 0x32, 0x33], []].map .ok := rfl
  have hnone : s.contents (inputNames ["a", "b", "-"]) =
      [[0x31, 0x32, 0x33]].map .ok ++ .error .missing :: [.ok [0x34]] := rfl
  have harguments : ofArguments ["checksum", "a", "b", "-"] =
      .ok (checksum ["a", "b", "-"] .jones false) := rfl
  obtain ⟨rs, hrs, -, hrecords, -⟩ := (checksum_all_or_none s ["-", "a", "-"] .jones).1 _ hall
  subst hrs
  exact ⟨s, ⟨hall, hrecords⟩, hnone, harguments,
    ((checksum_all_or_none s ["a", "b", "-"] .jones).2 _ _ _ hnone).2 _ false harguments⟩

end Request
end CrcTables
