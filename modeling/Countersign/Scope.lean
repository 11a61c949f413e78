import Countersign.Calendar.Timestamp
import Countersign.Digest.Hmac
import Countersign.Text.Layout
import Countersign.Text.Redaction
import Countersign.Text.Utf8

/-!
# Credential scopes and signing keys

A credential is good for one day, one region and one service. `credentialScope` writes these down,
and `SigningKey.derive` works them into the secret, one keyed digest after the other, so that the
key that signs is good for nothing else.
-/

namespace Countersign

open Countersign.Text Countersign.Calendar Countersign.Digest

/-- The word that ends every scope. -/
def scopeEnd : String := "aws4_request"

/-- The scope of a credential: date, region, service and the closing word. -/
def credentialScope (time : Instant) (region service : String) : String :=
  Timestamp.formatDate time ++ "/" ++ region ++ "/" ++ service ++ "/" ++ scopeEnd

/-- The key that signs within one scope. -/
structure SigningKey where
  bytes : List UInt8

namespace SigningKey

/-- The key of a secret for the day of `time`, a region and a service. -/
def derive (secret : String) (time : Instant) (region service : String) : SigningKey :=
  let dateKey := hmacSha256 (Utf8.bytes ("AWS4" ++ secret)) (Utf8.bytes (Timestamp.formatDate time))
  let regionKey := hmacSha256 dateKey (Utf8.bytes region)
  let serviceKey := hmacSha256 regionKey (Utf8.bytes service)
  ⟨hmacSha256 serviceKey (Utf8.bytes scopeEnd)⟩

/-- The signature of a text, as hexadecimal text. -/
def sign (key : SigningKey) (text : String) : String := hexHmacSha256 key.bytes (Utf8.bytes text)

/-- The key as a layout that shows its length alone. -/
def layout (key : SigningKey) : Layout := .wrapped "SigningKey" (.plain (redactBytes key.bytes))

/-- A signature has sixty-four digits. -/
theorem length_sign (key : SigningKey) (text : String) : (key.sign text).toList.length = 64 :=
  length_hexHmacSha256 _ _

end SigningKey

end Countersign
