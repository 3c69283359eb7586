import LanguageClient.Path
import LanguageClient.Uri.Basic

/-!
# File paths and their URIs

An absolute path is a sequence of components; repeated slashes and single dots between them do not
count. Its URI has each component as a segment, with the bytes encoded that mean something else
there.
-/

namespace LanguageClient.Uri

def fileScheme : List Char := "file://".toList

/-- A component as a segment. -/
def segment (component : List Char) : List Char := encode segmentSet (bytesOf component)

/-- The URI of an absolute path. -/
def ofPath (path : List Char) : Option (List Char) :=
  if Path.isAbsolute path then
    match Path.components path with
    | [] => some (fileScheme ++ ['/'])
    | parts => some (fileScheme ++ joined (parts.map segment))
  else none

/-- The bytes of a path end in a drive letter without a slash. -/
def endsInDrive (bytes : List UInt8) : Bool :=
  match bytes.reverse with
  | mark :: letter :: _ :: _ =>
    isLetter (Char.ofNat letter.toNat) && (mark = 0x3A || mark = 0x7C)
  | _ => false

/-- The bytes of the path that a URI without a foreign host names. -/
def toPath (u : Uri) : Option (List UInt8) :=
  match u.host, u.path with
  | .other, _ => none
  | _, '/' :: rest =>
    let bytes := (Text.splitOn '/' rest).flatMap fun s => 0x2F :: decode s
    some (if endsInDrive bytes then bytes ++ [0x2F] else bytes)
  | _, _ => none

/-- Why a path has no URI. -/
def pathFault (path : String) : String := "cannot convert path to file URI: " ++ path

end LanguageClient.Uri
