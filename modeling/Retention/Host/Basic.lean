import Retention.Hook.Basic
import Retention.Host.Path
import Retention.Host.Storage
import Retention.Settings.Environment

/-!
What a run finds around it: the environment, a terminal, files, a clock, and a way to start programs.
A command is written against these and nothing else.
-/
namespace Retention

structure Host (m : Type → Type) where
  environment : Environment
  inputIsTerminal : Bool
  outputIsTerminal : Bool
  errorsAreTerminal : Bool
  processId : Nat
  now : m Instant
  look : Path → m (Except StorageError FileNode)
  /-- Makes a directory and those it lies in, where they are missing. -/
  makeDirectory : Path → m (Except StorageError Unit)
  writeFile : Path → String → m (Except StorageError Unit)
  print : String → m Unit
  printError : String → m Unit
  /-- A line of the input with its line end, or nothing at the end of the input. -/
  readLine : m (List UInt8)
  launch : Invocation → Span → m Ending

end Retention
