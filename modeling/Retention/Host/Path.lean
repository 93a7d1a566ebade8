import Retention.Text.Blank
import Retention.Text.Utf8

/-!
Paths as a file system takes them: bytes, which need not be UTF-8, cut into the names of files at
slashes. Only what is shown of a path is text.
-/
namespace Retention

/-- The bytes of a name, among which is no slash. -/
abbrev FileName := List UInt8

structure Path where
  bytes : List UInt8
deriving DecidableEq

namespace Path

def slash : UInt8 := 47

def ofText (text : String) : Path := ⟨Text.Utf8.encode text⟩

/-- A path as it is shown. -/
def text (path : Path) : String := Text.Utf8.decodeLenient path.bytes

def isAbsolute (path : Path) : Bool := path.bytes.head? = some slash

/-- An absolute path replaces the one it is joined to. -/
def join (base path : Path) : Path :=
  if path.isAbsolute || base.bytes.isEmpty then path
  else if base.bytes.getLast? = some slash then ⟨base.bytes ++ path.bytes⟩
  else ⟨base.bytes ++ slash :: path.bytes⟩

/-- The names between slashes, some of which may be empty. -/
def names (path : Path) : List FileName := Text.splitAt slash path.bytes

/-- The path of what a path lies in, which is empty for a single name. -/
def parent (path : Path) : Path := ⟨[slash].intercalate path.names.dropLast⟩

/-- The name by which a directory names itself. -/
def here : FileName := Text.Utf8.encode "."

/-- The name by which a directory names the one that it lies in. -/
def above : FileName := Text.Utf8.encode ".."

/-- A path without the names that stay where they are. -/
def plainNames (path : Path) : List FileName :=
  path.names.filter fun name => !(name.isEmpty || name == here)

end Path
end Retention
