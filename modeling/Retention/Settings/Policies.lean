import Retention.Resource.Policy
import Retention.Settings.Basic

/-!
Policies from settings. Every configured name has to be a kind, and no kind may be configured twice; a
requested kind that is not configured goes by its tags alone.
-/
namespace Retention

/-- Why there is no policy for some kind. -/
inductive PolicyError
  | missing (kind : Kind)
  | unknownKind (name : String)
  | unknownMode (kind : Kind) (value : String)
  | duplicateKind (kind : Kind) (first second : String)
  | ageNotSupported (kind : Kind)
deriving DecidableEq

def PolicyError.message : PolicyError → String
  | .missing kind => "no retention policy resolved for " ++ kind.name
  | .unknownKind name => "[cleanup." ++ name ++ "]: unknown resource kind"
  | .unknownMode kind value =>
    "[cleanup." ++ kind.name ++ "]: unknown mode \x60" ++ value ++
      "\x60 (expected tag-only|tag-with-age)"
  | .duplicateKind kind first second =>
    "[cleanup." ++ first ++ "] and [cleanup." ++ second ++ "] both configure " ++ kind.name
  | .ageNotSupported kind =>
    "[cleanup." ++ kind.name ++ "]: this kind has no age policy; only tag-only is allowed"

/-- The settings of a kind, with the name that they stand under. -/
structure ConfiguredKind where
  kind : Kind
  name : String
  settings : KindSettings
deriving DecidableEq

namespace ConfiguredKind

/-- Kinds configured so far, and one more. -/
def extend (found : List ConfiguredKind) (entry : String × KindSettings) :
    Except PolicyError (List ConfiguredKind) :=
  match Kind.parse? entry.1 with
  | none => .error (.unknownKind entry.1)
  | some kind =>
    match found.find? (·.kind = kind) with
    | some earlier => .error (.duplicateKind kind earlier.name entry.1)
    | none => .ok (found ++ [⟨kind, entry.1, entry.2⟩])

def ofEntries (entries : List (String × KindSettings)) : Except PolicyError (List ConfiguredKind) :=
  entries.foldlM extend []

end ConfiguredKind

namespace Settings

def modeOf (kind : Kind) : Option String → Except PolicyError Mode
  | none => .ok .tagOnly
  | some value =>
    match Mode.parse? value with
    | none => .error (.unknownMode kind value)
    | some mode => .ok mode

/-- A threshold of its own goes before the general one. -/
def policyOf (settings : Settings) (kind : Kind) (entry : KindSettings) :
    Except PolicyError Policy := do
  match ← modeOf kind entry.mode with
  | .tagOnly => return .tagOnly
  | .tagWithAge =>
    if kind.hasAgePolicy then return .tagWithAge (entry.maxAgeDays.getD settings.maxAgeDays)
    else throw (.ageNotSupported kind)

def addPolicy (settings : Settings) (configured : List ConfiguredKind) (table : PolicyTable)
    (kind : Kind) : Except PolicyError PolicyTable :=
  match configured.find? (·.kind = kind) with
  | none => .ok (table.set kind .tagOnly)
  | some entry => (settings.policyOf kind entry.settings).map (table.set kind)

/-- A policy for each of the requested kinds, and for no other. -/
def resolvePolicies (settings : Settings) (kinds : List Kind) : Except PolicyError PolicyTable := do
  let configured ← ConfiguredKind.ofEntries settings.kinds.entries
  kinds.foldlM (settings.addPolicy configured) .empty

end Settings
end Retention
