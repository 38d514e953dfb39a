import PairwiseId.Console.Disk
import PairwiseId.Console.Run
import PairwiseId.Proofs.Export.Concealed

/- What validating an export shows of its salts. Apart from the document itself, which is
   meant to be imported, nothing that is printed and no exit code depends on a salt. -/
namespace PairwiseId.Console

set_option autoImplicit false

variable (format : Format) (report : Report)

theorem report_row_concealed (row : Row) : reportRow row.concealed = reportRow row := by
  simp only [reportRow, Row.concealed, MapperConfig.concealed_name, MapperConfig.concealed_type]
  rfl

theorem quiet_row_concealed (row : Row) : quietRow row.concealed = quietRow row := by
  simp only [quietRow, Row.concealed, MapperConfig.concealed_name]
  rfl

theorem show_report_concealed (hidden : format ≠ .json) :
    showReport format report.concealed = showReport format report := by
  have table : reportRow ∘ Row.concealed = reportRow := funext report_row_concealed
  have quiet : quietRow ∘ Row.concealed = quietRow := funext quiet_row_concealed
  cases format with
  | table => simp only [showReport, Report.concealed, List.map_map, table, Export.masked_concealed]
  | json => exact absurd rfl hidden
  | quiet => simp only [showReport, Report.concealed, List.map_map, quiet]

theorem ending_concealed (hidden : format ≠ .json) :
    endingOfReport format report.concealed = endingOfReport format report := by
  have failures : report.concealed.failures = report.failures := by
    simp only [Report.failures, Report.concealed, List.countP_map]
    rfl
  have rows : report.concealed.rows.length = report.rows.length := List.length_map _
  simp only [endingOfReport, show_report_concealed format report hidden, failures, rows]

-- Whatever the machine does, some salts are drawn for the saves.
theorem validate_report {W : Type} (machine : Machine (StateM W)) (settings : Settings) (path : String)
    (world : W) (e : Export) (read : exportOfText path (machine.read path world).1 = .ok e) :
    ∃ fresh, (validate machine format settings path world).1 =
      endingOfReport format (Report.ofExport settings fresh e) := by
  cases found : machine.read path world with
  | mk content after =>
      rw [found] at read
      refine ⟨(freshSalts machine settings.saltLength e.owned.length after).1, ?_⟩
      simp only [validate, bind, StateT.bind, found, read]
      rfl

-- An ending is what is printed on both streams, and the exit code.
theorem validate_hides_salts {W V : Type} (first : Machine (StateM W)) (second : Machine (StateM V))
    (format : Format) (settings : Settings) (path other : String) (here : W) (there : V) (e f : Export)
    (hidden : format = .table ∨ format = .quiet)
    (read : exportOfText path (first.read path here).1 = .ok e)
    (alsoRead : exportOfText other (second.read other there).1 = .ok f)
    (equal : e.EqualButSalts f) :
    (validate first format settings path here).1 = (validate second format settings other there).1 := by
  have masked : format ≠ .json := by
    rintro rfl
    simp at hidden
  obtain ⟨fresh, one⟩ := validate_report format first settings path here e read
  obtain ⟨later, two⟩ := validate_report format second settings other there f alsoRead
  have same := (Export.equal_but_salts_iff e f).mp equal
  calc (validate first format settings path here).1
      = endingOfReport format (Report.ofExport settings fresh e).concealed := by
        rw [one, ending_concealed format _ masked]
    _ = endingOfReport format (Report.ofExport settings later f).concealed := by
        rw [← Report.of_export_concealed, ← Report.of_export_concealed, same]
    _ = (validate second format settings other there).1 := by
        rw [two, ending_concealed format _ masked]

def saltedExport (salt : String) : Export :=
  { realm := [sampleMapper 0 Variant.staticSector.mapperType [sampleSector, (OptionKey.salt, salt)]] }

def saltedText (salt : String) : String :=
  "[[[\"00000000000000000000000000000000\",\"m\",\"oidc-hmac-pairwise-subject-mapper\",\"openid-connect\"," ++
    "\x7b\"pairwise.sectorIdentifier\":\"https://a.example\",\"pairwise.salt\":\"" ++ salt ++ "\"\x7d]]]"

def saltedDisk (salt : String) : Disk := { nodes := [(["e"], .file (saltedText salt))] }

theorem salted_exports_look_alike :
    exportOfText "/e" (Disk.machine.read "/e" (saltedDisk "one")).1 = .ok (saltedExport "one") ∧
      exportOfText "/e" (Disk.machine.read "/e" (saltedDisk "two")).1 = .ok (saltedExport "two") ∧
      (saltedExport "one").EqualButSalts (saltedExport "two") ∧
      (validate Disk.machine .table {} "/e" (saltedDisk "one")).1 =
        (validate Disk.machine .table {} "/e" (saltedDisk "two")).1 := by
  have first := to_option_ok (exportOfText "/e" (Disk.machine.read "/e" (saltedDisk "one")).1)
    (saltedExport "one") (by decide +kernel)
  have second := to_option_ok (exportOfText "/e" (Disk.machine.read "/e" (saltedDisk "two")).1)
    (saltedExport "two") (by decide +kernel)
  have equal : (saltedExport "one").EqualButSalts (saltedExport "two") :=
    (Export.equal_but_salts_iff _ _).mpr (by decide +kernel)
  exact ⟨first, second, equal, validate_hides_salts Disk.machine Disk.machine .table {} "/e" "/e"
    (saltedDisk "one") (saltedDisk "two") _ _ (.inl rfl) first second equal⟩

end PairwiseId.Console
