import Retention.Text.Utf8

/-!
What a path may lead to, and why it may lead nowhere.
-/
namespace Retention

inductive StorageError
  | absent
  | denied
  | exists
  | notDirectory
  | isDirectory
  | tooLong
  | unsupported
  /-- The content is not UTF-8. -/
  | notText
deriving DecidableEq

def StorageError.message : StorageError → String
  | .absent => "No such file or directory (os error 2)"
  | .denied => "Permission denied (os error 13)"
  | .exists => "File exists (os error 17)"
  | .notDirectory => "Not a directory (os error 20)"
  | .isDirectory => "Is a directory (os error 21)"
  | .tooLong => "File name too long (os error 36)"
  | .unsupported => "Operation not supported (os error 95)"
  | .notText => "stream did not contain valid UTF-8"

inductive FileNode
  | file (content : List UInt8)
  | directory
deriving DecidableEq

namespace FileNode

/-- The text of a file. -/
def text : FileNode → Except StorageError String
  | .directory => .error .isDirectory
  | .file content =>
    match Text.Utf8.decode? content with
    | some text => .ok text
    | none => .error .notText

end FileNode

end Retention
