/-!
Reading bytes as UTF-8. The bytes are cut into pieces: a piece is one character, or a maximal part
that begins no character. Strict reading refuses the second sort of piece, lenient reading shows each
as one replacement character.
-/
namespace Retention.Text.Utf8

/-- The closed ranges in which the bytes after a leading byte lie, and the bits the leading byte
contributes. -/
def lead? (byte : Nat) : Option (Nat × (Nat × Nat) × List (Nat × Nat)) :=
  let any := (0x80, 0xBF)
  if 0xC2 ≤ byte ∧ byte ≤ 0xDF then some (byte - 0xC0, any, [])
  else if byte = 0xE0 then some (0, (0xA0, 0xBF), [any])
  else if byte = 0xED then some (0xD, (0x80, 0x9F), [any])
  else if 0xE1 ≤ byte ∧ byte ≤ 0xEF then some (byte - 0xE0, any, [any])
  else if byte = 0xF0 then some (0, (0x90, 0xBF), [any, any])
  else if 0xF1 ≤ byte ∧ byte ≤ 0xF3 then some (byte - 0xF0, any, [any, any])
  else if byte = 0xF4 then some (4, (0x80, 0x8F), [any, any])
  else none

/-- Where reading stands: between characters, or inside one with the range of its next byte. -/
inductive State
  | between
  | within (bits : Nat) (next : Nat × Nat) (later : List (Nat × Nat))

def start (byte : Nat) : List (Option Char) × State :=
  if byte < 0x80 then ([some (Char.ofNat byte)], .between)
  else match lead? byte with
    | some (bits, next, later) => ([], .within bits next later)
    | none => ([none], .between)

def advance : State → Nat → List (Option Char) × State
  | .between, byte => start byte
  | .within bits next later, byte =>
    if next.1 ≤ byte ∧ byte ≤ next.2 then
      let bits := bits * 64 + byte % 64
      match later with
      | [] => ([some (Char.ofNat bits)], .between)
      | range :: ranges => ([], .within bits range ranges)
    else
      let (pieces, state) := start byte
      (none :: pieces, state)

def piecesFrom : State → List UInt8 → List (Option Char)
  | .between, [] => []
  | .within .., [] => [none]
  | state, byte :: bytes =>
    let (pieces, state) := advance state byte.toNat
    pieces ++ piecesFrom state bytes

/-- Each character, or nothing for a maximal part that begins no character. -/
def pieces (bytes : List UInt8) : List (Option Char) := piecesFrom .between bytes

def decode? (bytes : List UInt8) : Option String := ((pieces bytes).mapM id).map .ofList

def decodeLenient (bytes : List UInt8) : String :=
  .ofList ((pieces bytes).map fun piece => piece.getD '\uFFFD')

def encode (text : String) : List UInt8 := text.toUTF8.data.toList

end Retention.Text.Utf8
