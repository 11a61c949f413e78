import Countersign.Environment
import Countersign.Text.Layout
import Countersign.Text.Redaction

/-!
# Settings

Settings are what a signer is told before anything is checked: every one of them may be missing.
They are changed step by step (`Settings.Step`): a step that names a setting replaces it, and a step
that reads an environment fills the three settings that have a variable, where they are still
missing. So what is named wins over any environment, before or after it.
-/

namespace Countersign

open Countersign.Text

/-! ## 1. What is set -/

/-- What becomes of the payload. -/
inductive PayloadMode
  /-- It is hashed, and the hash is sent in a field. -/
  | included
  /-- It is hashed, and the hash is not sent. -/
  | excluded
  /-- A fixed text stands in for the hash. -/
  | unsigned
  deriving Repr, DecidableEq

/-- The mode as layouts show it. -/
def PayloadMode.label : PayloadMode → String
  | .included => "Included"
  | .excluded => "Excluded"
  | .unsigned => "Unsigned"

/-- What a signer is told, unchecked. -/
structure Settings where
  region : Option String := none
  service : Option String := none
  accessKeyId : Option String := none
  secretAccessKey : Option String := none
  algorithm : Option String := none
  doubleEncodePath : Option Bool := none
  /-- The names of the fields to sign, as they were given. -/
  signedNames : Option (List String) := none
  payloadMode : Option PayloadMode := none
  deriving Repr, DecidableEq

namespace Settings

/-- Nothing is set. -/
def blank : Settings := {}

/-! ## 2. Steps -/

/-- The variable of the region. -/
def regionVariable : String := "AWS_REGION"

/-- The variable of the access key id. -/
def accessKeyIdVariable : String := "AWS_ACCESS_KEY_ID"

/-- The variable of the secret access key. -/
def secretAccessKeyVariable : String := "AWS_SECRET_ACCESS_KEY"

/-- The settings with those that are missing and have a variable read from an environment. -/
def fill (s : Settings) (e : Environment) : Settings :=
  { s with
    region := s.region <|> e.value? regionVariable
    accessKeyId := s.accessKeyId <|> e.value? accessKeyIdVariable
    secretAccessKey := s.secretAccessKey <|> e.value? secretAccessKeyVariable }

/-- One change of the settings. -/
inductive Step
  | region (v : String)
  | service (v : String)
  | accessKeyId (v : String)
  | secretAccessKey (v : String)
  | algorithm (v : String)
  | doubleEncodePath (v : Bool)
  | signedNames (v : List String)
  | payloadMode (v : PayloadMode)
  | environment (e : Environment)
  deriving Repr, DecidableEq

/-- The settings after one change. -/
def apply (s : Settings) : Step → Settings
  | .region v => { s with region := some v }
  | .service v => { s with service := some v }
  | .accessKeyId v => { s with accessKeyId := some v }
  | .secretAccessKey v => { s with secretAccessKey := some v }
  | .algorithm v => { s with algorithm := some v }
  | .doubleEncodePath v => { s with doubleEncodePath := some v }
  | .signedNames v => { s with signedNames := some v }
  | .payloadMode v => { s with payloadMode := some v }
  | .environment e => s.fill e

/-- The settings after changes in their order. -/
def run (s : Settings) (steps : List Step) : Settings := steps.foldl apply s

@[simp] theorem run_nil (s : Settings) : s.run [] = s := rfl

@[simp] theorem run_cons (s : Settings) (step : Step) (steps : List Step) :
    s.run (step :: steps) = (s.apply step).run steps := rfl

@[simp] theorem run_append (s : Settings) (as bs : List Step) :
    s.run (as ++ bs) = (s.run as).run bs := List.foldl_append

/-! ## 3. How settings are shown -/

/-- The settings as a layout, the two parts of the credential redacted. -/
def layout (s : Settings) : Layout :=
  .record "Config" [
    ("region", .optional (s.region.map .text)),
    ("service", .optional (s.service.map .text)),
    ("access_key_id", .optional (s.accessKeyId.map fun v => .plain (redactText v))),
    ("secret_access_key", .optional (s.secretAccessKey.map fun v => .plain (redactText v))),
    ("algorithm", .optional (s.algorithm.map .text)),
    ("double_encode_path", .optional (s.doubleEncodePath.map .truth)),
    ("canonical_headers", .optional (s.signedNames.map fun ns => .list (ns.map .text))),
    ("payload_hash_mode", .optional (s.payloadMode.map fun m => .plain m.label))]

end Settings

end Countersign
