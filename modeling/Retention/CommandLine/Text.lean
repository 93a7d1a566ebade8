import Retention.Sweep.Run

/-!
Fixed texts of the command line: the version, a summary of its use, and completions for shells.
-/
namespace Retention
namespace CommandLine

def programName : String := "tagsweep"

def versionText : String := programName ++ " " ++ Report.currentTool ++ "\n"

def usageText : String :=
  "usage: tagsweep [--config PATH] [--json] [--no-color] [--verbose] [--quiet] COMMAND\n" ++
  "commands:\n" ++
  "  plan --inventory PATH [--account main|second|both] [--target LIST] [--markdown]\n" ++
  "  apply --inventory PATH [--account main|second|both] [--target LIST] [--markdown] [--yes]\n" ++
  "  policy [--target LIST]\n" ++
  "  completion bash|zsh|fish\n" ++
  "  config [--show]\n"

inductive Shell
  | bash
  | zsh
  | fish
deriving DecidableEq

namespace Shell

def parse? (text : String) : Option Shell :=
  match Text.lowerAscii (Text.trim text) with
  | "bash" => some .bash
  | "zsh" => some .zsh
  | "fish" => some .fish
  | _ => none

def unsupportedMessage (text : String) : String :=
  "unsupported shell: " ++ Text.lowerAscii (Text.trim text) ++ " (expected bash|zsh|fish)"

def commandNames : String := "plan apply policy completion config"

/-- A script that completes the names of the commands. -/
def script : Shell → String
  | .bash => "complete -W '" ++ commandNames ++ "' " ++ programName ++ "\n"
  | .zsh => "compctl -k '(" ++ commandNames ++ ")' " ++ programName ++ "\n"
  | .fish => "complete -c " ++ programName ++ " -f -a '" ++ commandNames ++ "'\n"

end Shell
end CommandLine
end Retention
