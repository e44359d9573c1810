import AgentSpec.Log

/-!
# The text report

A banner and a list for the errors, the same for the warnings, and a summary line when there are
no errors. Colour marks the banners and the summary; line ends stay outside of it.
-/

namespace AgentSpec.Report

/-- Paint text when colour is on. -/
def paint (color : Bool) (code text : String) : String :=
  if color then styled code text else text

def block (banner : String) (messages : List String) : String :=
  if messages.isEmpty then ""
  else banner ++ "\n" ++ String.join (messages.map fun m => "  - " ++ m ++ "\n")

def errorBanner : String := "❌ Validation Errors:"

def warningBanner : String := "⚠️  Validation Warnings:"

def summary (o : Outcome) : String :=
  if o.warnings.isEmpty then "✅ Validation passed with no issues"
  else "✅ Validation passed with warnings"

end AgentSpec.Report

namespace AgentSpec

/-- The report on an outcome. -/
def report (color : Bool) (o : Outcome) : String :=
  Report.block (Report.paint color "1;31" Report.errorBanner) o.errors
    ++ Report.block (Report.paint color "1;33" Report.warningBanner) o.warnings
    ++ (if o.errors.isEmpty then Report.paint color "32" (Report.summary o) ++ "\n" else "")

end AgentSpec
