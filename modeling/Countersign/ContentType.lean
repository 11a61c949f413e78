import Countersign.Fault

/-!
# Content types

A content type is a media type with parameters. The charset is kept apart; every other parameter
stays in the media type, in the order in which it came.

* `ContentType.parse` cuts a text at every semicolon. The first piece, trimmed and in small letters,
  must have two parts around a slash. Of the other pieces, those without `=` or with an empty name
  are left out, values lose the double quotes around them, and the last charset is the one that
  counts.
* `ContentType.text` writes the media type and then the charset.
-/

namespace Countersign

open Countersign.Text

/-- A media type with its parameters, and the charset where one is given. -/
structure ContentType where
  media : String
  charset : Option String
  deriving Repr, DecidableEq

namespace ContentType

/-- The media type of content of which nothing is said. -/
def unspecified : ContentType := ⟨"application/octet-stream", none⟩

/-- The content type with the given charset. -/
def withCharset (t : ContentType) (charset : String) : ContentType :=
  { t with charset := some charset }

/-! ## 1. Writing -/

/-- The content type as text. -/
def text (t : ContentType) : String :=
  match t.charset with
  | none => t.media
  | some charset => t.media ++ "; charset=" ++ charset

/-! ## 2. Reading -/

/-- The text without the double quotes at its two ends. -/
def unquote (cs : List Char) : List Char :=
  ((cs.dropWhile (· == '\x22')).reverse.dropWhile (· == '\x22')).reverse

/-- Two parts around a slash, neither of them empty. -/
def isMediaType (cs : List Char) : Bool :=
  match cs.dropWhile (· != '/') with
  | _ :: _ :: _ => !(cs.takeWhile (· != '/')).isEmpty
  | _ => false

/-- The name of the parameter that is kept apart. -/
def charsetName : List Char := ['c', 'h', 'a', 'r', 's', 'e', 't']

/-- A name and a value put into the content type: the charset apart, another parameter at the end,
    and none at all where the name is empty. -/
def addParameter (t : ContentType) (name value : List Char) : ContentType :=
  if name.map Char.toLower = charsetName then t.withCharset (String.ofList value)
  else if name.isEmpty then t
  else { t with media := t.media ++ "; " ++ String.ofList name ++ "=" ++ String.ofList value }

/-- A piece behind a semicolon put into the content type; a piece without `=` is left out. -/
def addPiece (t : ContentType) (piece : List Char) : ContentType :=
  match piece.dropWhile (· != '=') with
  | [] => t
  | _ :: value => t.addParameter (trim (piece.takeWhile (· != '='))) (unquote (trim value))

/-- The content type of the pieces between semicolons. -/
def ofPieces? : List (List Char) → Option ContentType
  | [] => none
  | first :: rest =>
    let media := (trim first).map Char.toLower
    if isMediaType media then some (rest.foldl addPiece ⟨String.ofList media, none⟩) else none

/-- The content type that a text spells. -/
def parse (s : String) : Except Fault ContentType :=
  match ofPieces? (s.toList.splitOn ';') with
  | some t => .ok t
  | none => .error (.noMediaType s)

end ContentType

end Countersign
