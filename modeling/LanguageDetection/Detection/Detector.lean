import LanguageDetection.Detection.Policy
import LanguageDetection.Detection.Scoreboard
import LanguageDetection.Signature.BuiltIn
import LanguageDetection.Text.Decoding

/-!
Detectors: the extension of the filename decides, if it is mapped; otherwise the language whose
rules score highest does.
-/

namespace LanguageDetection

open LanguageDetection.Text

structure Detector where
  registry : Registry
  policy : Policy
  extensionHint : Bool := true
  deriving Repr

inductive Ground
  | filename (language : String)
  | nothing
  | scores (language : String) (score : UInt32) (confidence : Float)
  deriving Repr

def Ground.verdict : Ground → Verdict
  | .filename language => .new language extensionConfidence
  | .nothing => .unknown
  | .scores language _ confidence => .new language confidence

namespace Detector

def ofProfile (profile : Profile) : Except RegistryError Detector :=
  (Registry.builtIn profile).map fun registry => { registry, policy := .ofProfile profile }

def withSettings (registry : Registry) (settings : Settings) : Detector :=
  { registry, policy := .ofProfile settings.profile, extensionHint := settings.extensionHint }

def ofSettings (settings : Settings) : Except RegistryError Detector :=
  (Registry.ofSettings settings).map (withSettings · settings)

def languageOfFilename? (detector : Detector) (filename : Option String) : Option String :=
  if detector.extensionHint then
    (filename.bind Extension.ofFilename?).bind detector.registry.languageForExtension?
  else none

def score (detector : Detector) (text : String) : Scoreboard :=
  .tally detector.registry text

/-- The best score that a language can reach, zero for one that is not declared. -/
def totalWeight (detector : Detector) (language : String) : UInt32 :=
  ((detector.registry.language? language).map (·.totalWeight)).getD 0

def groundOfText (detector : Detector) (text : String) : Ground :=
  let board := detector.score text
  match board.leader? with
  | none => .nothing
  | some leader =>
      .scores leader.language leader.score
        (detector.policy.confidence leader.score board.maxScore
          (detector.totalWeight leader.language))

def ground (detector : Detector) (text : String) (filename : Option String) : Ground :=
  match detector.languageOfFilename? filename with
  | some language => .filename language
  | none => detector.groundOfText text

def detect (detector : Detector) (text : String) (filename : Option String) : Verdict :=
  (detector.ground text filename).verdict

def detectBytes (detector : Detector) (bytes : List UInt8) (filename : Option String) : Verdict :=
  detector.detect (decodeText bytes) filename

end Detector

end LanguageDetection
