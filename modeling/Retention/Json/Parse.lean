import Retention.Json.Token

/-!
Reading a JSON text. The tokens pass through a machine whose state holds the containers still open,
innermost first, so values may nest to any depth.
-/
namespace Retention.Json

/-- An open container with what has been read of it, last first. An object holds the key whose value
is being read; nothing stands for a key that is no text. -/
inductive Frame
  | array (items : List Json)
  | object (entries : List (Option String × Json)) (key : Option String)

/-- What may come next: a value, with or without the end of a fresh array; a key, with or without the
end of a fresh object; the colon after a key; or what follows a finished value. -/
inductive Expected
  | value
  | valueOrEnd
  | key
  | keyOrEnd
  | colon
  | next

inductive Progress
  | reading (containers : List Frame) (expected : Expected)
  | finished (value : Json)

/-- One key that is no text spoils the whole object. -/
def objectOf (entries : List (Option String × Json)) : Json :=
  match entries.mapM fun entry => entry.1.map (·, entry.2) with
  | some entries => .object entries
  | none => .illFormed

namespace Progress

/-- A complete value goes into the innermost container. -/
def place (value : Json) : List Frame → Progress
  | [] => .finished value
  | .array items :: outer => .reading (.array (value :: items) :: outer) .next
  | .object entries key :: outer => .reading (.object ((key, value) :: entries) none :: outer) .next

def start (containers : List Frame) : Token → Option Progress
  | .null => some (place .null containers)
  | .bool value => some (place (.bool value) containers)
  | .int value => some (place (.int value) containers)
  | .decimal spelling => some (place (.decimal spelling) containers)
  | .text (some value) => some (place (.str value) containers)
  | .text none => some (place .illFormed containers)
  | .openArray => some (.reading (.array [] :: containers) .valueOrEnd)
  | .openObject => some (.reading (.object [] none :: containers) .keyOrEnd)
  | _ => none

def close : List Frame → Token → Option Progress
  | .array items :: outer, .closeArray => some (place (.array items.reverse) outer)
  | .object entries _ :: outer, .closeObject => some (place (objectOf entries.reverse) outer)
  | _, _ => none

def step : Progress → Token → Option Progress
  | .finished _, _ => none
  | .reading containers .value, token => start containers token
  | .reading containers .valueOrEnd, .closeArray => close containers .closeArray
  | .reading containers .valueOrEnd, token => start containers token
  | .reading containers .keyOrEnd, .closeObject => close containers .closeObject
  | .reading (.object entries _ :: outer) .keyOrEnd, .text key
  | .reading (.object entries _ :: outer) .key, .text key =>
    some (.reading (.object entries key :: outer) .colon)
  | .reading containers .colon, .colon => some (.reading containers .value)
  | .reading (.array items :: outer) .next, .comma => some (.reading (.array items :: outer) .value)
  | .reading (.object entries key :: outer) .next, .comma =>
    some (.reading (.object entries key :: outer) .key)
  | .reading containers .next, token => close containers token
  | _, _ => none

end Progress

/-- The value of a text that holds one JSON value and nothing else. -/
def parse? (text : String) : Option Json := do
  let tokens ← Token.scan text.toList
  match ← tokens.foldlM Progress.step (.reading [] .value) with
  | .finished value => some value
  | .reading _ _ => none

end Retention.Json
