import CatalogTypes.Json.DecodeError
import CatalogTypes.Schema.Reading
import CatalogTypes.Text.Quoted
import CatalogTypes.Text.Utf8

/-! # Failures

Everything that can end an operation, by its cause, and the one place where each is worded.
-/
namespace CatalogTypes

inductive Obstacle where
  | missing
  | exists
  | notDirectory
  | isDirectory
  | nameTooLong
  deriving DecidableEq, Repr

def Obstacle.number : Obstacle → Nat
  | .missing => 2
  | .exists => 17
  | .notDirectory => 20
  | .isDirectory => 21
  | .nameTooLong => 36

def Obstacle.description : Obstacle → Text
  | .missing => "No such file or directory"
  | .exists => "File exists"
  | .notDirectory => "Not a directory"
  | .isDirectory => "Is a directory"
  | .nameTooLong => "File name too long"

inductive MemoryError where
  | readOnly (path : Text)
  | noDirectory (directory : Text)
  | noFile (path : Text)
  deriving DecidableEq, Repr

def MemoryError.message : MemoryError → Text
  | .readOnly path => "Read-only: " ++ path
  | .noDirectory directory => "Directory does not exist: " ++ directory
  | .noFile path => path

inductive Failure where
  | json (e : Json.DecodeError)
  | schema (e : SchemaError)
  | circularValue
  | undecodable (e : Utf8.DecodeError)
  | unencodable (e : Utf8.EncodeError)
  | embeddedNull
  | variableName
  | file (obstacle : Obstacle) (path : Text)
  | memory (e : MemoryError)
  | unreadableCatalog (path : Text) (cause : Failure)
  | catalogNotArray (path : Text) (kind : Text)
  | outputNotDirectory (path : Text)
  | unsupported
  deriving DecidableEq, Repr

namespace Failure

def message : Failure → Text
  | .json e => e.message
  | .schema e => e.message
  | .circularValue => "Circular reference detected"
  | .undecodable e => e.message
  | .unencodable e => e.message
  | .embeddedNull => "embedded null byte"
  | .variableName => "illegal environment variable name"
  | .file obstacle path =>
    "[Errno " ++ Text.ofNat obstacle.number ++ "] " ++ obstacle.description ++ ": " ++ path.quoted
  | .memory e => e.message
  | .unreadableCatalog path cause => "Could not read catalog " ++ path ++ ": " ++ cause.message
  | .catalogNotArray path kind => "Catalog " ++ path ++ " must contain a JSON array, got " ++ kind
  | .outputNotDirectory path => "Output path is not a directory: " ++ path
  | .unsupported => []

def isCatalogFault : Failure → Bool
  | .schema _ | .unreadableCatalog _ _ | .catalogNotArray _ _ => true
  | _ => false

def isFileFault : Failure → Bool
  | .file _ _ | .memory _ => true
  | _ => false

end Failure
end CatalogTypes
