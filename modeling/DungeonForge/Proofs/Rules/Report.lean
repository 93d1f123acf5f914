import DungeonForge.Proofs.Document.Decode
import DungeonForge.Run.Program

/-!
Decoding a report. A report shows of a finding its rule, severity, subject and message; the text of
a report is read back as just these, finding by finding.
-/

namespace DungeonForge

open Json (Value)

/-- What a report tells about a finding. -/
structure Diagnostic where
  rule : Rule
  severity : Severity
  subject : String
  message : String
deriving DecidableEq, Repr

def Finding.diagnostic (f : Finding) : Diagnostic :=
  ⟨f.rule, f.severity, f.subject, f.message⟩

instance : Tagged Severity where
  variants := [.warning, .error]
  tag := Severity.text

instance : LawfulTagged Severity where
  mem_variants a := by cases a <;> decide
  tag_inj a b := by cases a <;> cases b <;> decide

instance : LawfulTagged Rule where
  mem_variants a := by cases a <;> decide
  tag_inj a b := by cases a <;> cases b <;> decide

namespace Diagnostic

def toJson (d : Diagnostic) : Value :=
  .object [("code", .string (Tagged.tag d.rule)), ("severity", .string (Tagged.tag d.severity)),
    ("subject", .string d.subject), ("message", .string d.message)]

def ofJson? (v : Value) : Option Diagnostic :=
  match v.fields? ["code", "severity", "subject", "message"] with
  | some [code, severity, subject, message] => do
    return ⟨← code.tag?, ← severity.tag?, ← subject.text?, ← message.text?⟩
  | _ => none

theorem exact : Json.Exact ofJson? toJson := by
  intro v d
  unfold ofJson?
  constructor
  · intro h
    split at h
    · next fields =>
      obtain ⟨-, rfl⟩ := Value.fields?_eq_some_iff.1 fields
      simp only [Option.bind_eq_bind, Option.bind_eq_some_iff, Json.exact_text _ _,
        Json.exact_tag _ _] at h
      obtain ⟨code, rfl, severity, rfl, subject, rfl, message, rfl, same⟩ := h
      cases same
      rfl
    · cases h
  · rintro rfl
    simp [toJson, Value.fields?, Json.exact_text.read, Json.exact_tag.read]

end Diagnostic

namespace Report

def diagnostics (r : Report) : List Diagnostic :=
  r.findings.map Finding.diagnostic

def ofJson? (v : Value) : Option (List Diagnostic) :=
  match v.fields? ["diagnostics"] with
  | some [diagnostics] => diagnostics.list? Diagnostic.ofJson?
  | _ => none

theorem ofJson?_toJson (r : Report) : ofJson? r.toJson = some r.diagnostics := by
  have items : r.findings.map Finding.toJson = r.diagnostics.map Diagnostic.toJson := by
    rw [diagnostics, List.map_map]
    rfl
  rw [ofJson?, toJson, items]
  simp only [Value.fields?, List.map_cons, List.map_nil, if_true]
  exact (Json.exact_list Diagnostic.exact).read r.diagnostics

def ofText? (text : String) : Option (List Diagnostic) :=
  (Json.read? text.toList).bind ofJson?

theorem ofText?_reportText (r : Report) : ofText? (Program.reportText r) = some r.diagnostics := by
  have read := Json.read?_write (.pretty 2) r.toJson [] (List.forall_mem_nil _)
  rw [List.append_nil] at read
  rw [ofText?, Program.reportText, String.toList_ofList, read]
  exact r.ofJson?_toJson

end Report

end DungeonForge
