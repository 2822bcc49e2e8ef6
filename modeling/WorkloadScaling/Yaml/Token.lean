import WorkloadScaling.Yaml.Directive
import WorkloadScaling.Yaml.Scalar

/-!
# Tokens

The marks and words of a YAML text, with the ends of indented blocks made explicit.
-/
namespace WorkloadScaling.Yaml

inductive Token where
  | streamEnd
  | directive (d : Directive)
  | documentStart
  | documentEnd
  | blockSequenceStart
  | blockMappingStart
  | blockEnd
  | flowSequenceStart
  | flowSequenceEnd
  | flowMappingStart
  | flowMappingEnd
  | blockEntry
  | flowEntry
  | key
  | value
  | alias (name : String)
  | anchor (name : String)
  | tag (t : Tag)
  | scalar (text : String) (style : Style)
  deriving DecidableEq, Repr

end WorkloadScaling.Yaml
