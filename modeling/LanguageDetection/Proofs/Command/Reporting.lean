import LanguageDetection.Proofs.Command.Accounting

/-!
What a run reports is the verdict of its detector on the bytes, whether they come from the input or
from a file.
-/

namespace LanguageDetection.Command

open LanguageDetection.Files
open LanguageDetection.Text

section

variable {host : Host Id} {arguments : List String} {request : DetectRequest} {directory : Path}
  {settings : Settings} {detector : Detector}

theorem Detects.run_on_input {bytes : List UInt8}
    (detects : Detects host arguments request directory settings detector)
    (reads : request.readsInput = true) (given : host.input.run = .ok bytes) :
    (run host arguments).run.exitCode = 0 ∧
      (textReport detector request.explain bytes request.filename).IsOutput request.format
        (run host arguments).run.output := by
  have prints : (detectWith host directory settings detector request).Prints _ :=
    detectWith_of_readsInput reads ▸ prints_detectInput detector request given
  obtain ⟨succeeds, output⟩ := detects.run_prints prints
  refine ⟨succeeds, output ▸ TextReport.isOutput ?_ request.format⟩
  exact Detector.isPositive_detect detects.built (decodeText bytes) request.filename

end

end LanguageDetection.Command
