import CallMarkup.Data.Event
import CallMarkup.Diagnostic
import CallMarkup.Registry.Substitution

/-!
# Configuration

A configuration fixes a grammar and how to substitute.  Every part has a
default, so the empty configuration is one too.
-/

namespace CallMarkup

/-- A grammar and the options of substitution. -/
structure Config where
  grammar : Grammar := Grammar.default
  substitution : SubstitutionOptions := {}
  deriving DecidableEq

inductive ConfigFormat
  | json
  | yaml
  deriving DecidableEq

def ConfigFormat.label : ConfigFormat → String
  | .json => "JSON"
  | .yaml => "YAML"

inductive ConfigFault
  /-- The text breaks its notation or does not describe a configuration. -/
  | malformed
  /-- The grammar it describes is none. -/
  | grammar (fault : GrammarFault)
  deriving DecidableEq

def ConfigFault.report (format : ConfigFormat) : ConfigFault → Diagnostic
  | .malformed => { category := .config, message := s!"Invalid {format.label} config" }
  | .grammar fault =>
    { category := .config
      message := s!"Invalid {format.label} config: " ++ fault.report.display }

/-- A registry with the grammar of a configuration and no processors. -/
def Config.registry {State Context : Type} (config : Config) : Registry State Context :=
  Registry.empty config.grammar

end CallMarkup
