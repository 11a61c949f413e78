import Countersign.Settings
import Countersign.Text.Json

/-!
# Settings documents

Settings written as JSON: an object with the settings by name, or an array with their values in a
fixed order. What is missing or `null` is not set. In an object unknown names are passed over, but a
known name may stand only once; an array has at most as many values as there are settings.
-/

namespace Countersign.Settings

open Countersign.Text

/-- The names of the settings in a document, in the order of an array. -/
def documentNames : List String := [
  "region", "service", "access_key_id", "secret_access_key", "algorithm", "double_encode_path",
  "canonical_headers", "payload_hash_mode"]

/-! ## 1. Values -/

/-- A text, or nothing. -/
def readText? : Json → Option (Option String)
  | .null => some none
  | .text (some s) => some (some s)
  | _ => none

/-- A truth value, or nothing. -/
def readTruth? : Json → Option (Option Bool)
  | .null => some none
  | .truth b => some (some b)
  | _ => none

/-- A text. -/
def readItem? : Json → Option String
  | .text s => s
  | _ => none

/-- A list of texts, or nothing. -/
def readTexts? : Json → Option (Option (List String))
  | .null => some none
  | .list items => (items.mapM readItem?).map some
  | _ => none

/-- The payload mode of a name. -/
def modeOf? (name : String) : Option PayloadMode :=
  if name = "INCLUDED" then some .included
  else if name = "EXCLUDED" then some .excluded
  else if name = "UNSIGNED" then some .unsigned
  else none

/-- A payload mode by its name, alone or as the only key of an object with `null` under it; or
    nothing. -/
def readMode? : Json → Option (Option PayloadMode)
  | .null => some none
  | .text (some name) => (modeOf? name).map some
  | .object [(some name, .null)] => (modeOf? name).map some
  | _ => none

/-! ## 2. Documents -/

/-- The settings of eight values in the order of an array. -/
def ofValues? : List Json → Option Settings
  | [region, service, accessKeyId, secretAccessKey, algorithm, double, names, mode] => do
    let region ← readText? region
    let service ← readText? service
    let accessKeyId ← readText? accessKeyId
    let secretAccessKey ← readText? secretAccessKey
    let algorithm ← readText? algorithm
    let double ← readTruth? double
    let names ← readTexts? names
    let mode ← readMode? mode
    some ⟨region, service, accessKeyId, secretAccessKey, algorithm, double, names, mode⟩
  | _ => none

/-- The name is a key of the members more than once. -/
def isRepeated (members : List (Option String × Json)) (name : String) : Bool :=
  1 < members.countP fun m => m.1 == some name

/-- The settings of the members of an object. -/
def ofMembers? (members : List (Option String × Json)) : Option Settings :=
  if members.any fun m => m.1.isNone then none
  else if documentNames.any (isRepeated members) then none
  else ofValues? (documentNames.map fun name => (members.lookup (some name)).getD .null)

/-- The settings of a JSON value. -/
def ofJson? : Json → Option Settings
  | .object members => ofMembers? members
  | .list items => ofValues? (items ++ List.replicate (documentNames.length - items.length) .null)
  | _ => none

/-- The settings that a document spells. -/
def parse? (s : String) : Option Settings := (Json.parse? s).bind ofJson?

end Countersign.Settings
