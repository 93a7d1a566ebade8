/-!
Blank characters are those of the White_Space property. Trimming, splitting into words and splitting
into lines all work on lists of characters, so that nothing outside this file depends on how text is
stored.
-/
namespace Retention.Text

/-- The White_Space property as closed ranges of code points, ascending and apart. -/
def blankRanges : List (Nat × Nat) :=
  [(0x09, 0x0D), (0x20, 0x20), (0x85, 0x85), (0xA0, 0xA0), (0x1680, 0x1680), (0x2000, 0x200A),
   (0x2028, 0x2029), (0x202F, 0x202F), (0x205F, 0x205F), (0x3000, 0x3000)]

def inRanges (ranges : List (Nat × Nat)) (code : Nat) : Bool :=
  ranges.any fun range => range.1 ≤ code && code ≤ range.2

def isBlank (c : Char) : Bool := inRanges blankRanges c.toNat

def trimLeft (text : List Char) : List Char := text.dropWhile isBlank

def trimRight (text : List Char) : List Char := (text.reverse.dropWhile isBlank).reverse

def trimmed (text : List Char) : List Char := trimRight (trimLeft text)

def trim (text : String) : String := .ofList (trimmed text.toList)

def trimEnd (text : String) : String := .ofList (trimRight text.toList)

def isBlankText (text : String) : Bool := text.toList.all isBlank

private def wordsAfter (current : List Char) : List Char → List (List Char)
  | [] => if current.isEmpty then [] else [current.reverse]
  | c :: rest =>
    if isBlank c then
      if current.isEmpty then wordsAfter [] rest else current.reverse :: wordsAfter [] rest
    else wordsAfter (c :: current) rest

/-- The maximal runs of characters that are not blank. -/
def words (text : String) : List String := (wordsAfter [] text.toList).map .ofList

/-- The pieces between separators; a list without a separator is one piece. -/
def splitAt {α : Type} [DecidableEq α] (separator : α) : List α → List (List α)
  | [] => [[]]
  | item :: rest =>
    if item = separator then [] :: splitAt separator rest
    else match splitAt separator rest with
      | [] => [[item]]
      | piece :: pieces => (item :: piece) :: pieces

def splitOn (separator : Char) (text : String) : List String :=
  (splitAt separator text.toList).map .ofList

private def dropReturn (line : List Char) : List Char :=
  if line.getLast? = some '\r' then line.dropLast else line

/-- Lines end with a line feed, before which one carriage return is dropped. Only text that a line
feed does not end makes an unfinished last line, and that one keeps its characters. -/
def lines (text : List Char) : List (List Char) :=
  let pieces := splitAt '\n' text
  pieces.dropLast.map dropReturn ++ (pieces.getLast?.filter (! ·.isEmpty)).toList

/-- Every line gets a line feed. -/
def unlines (lines : List String) : String := .join (lines.map (· ++ "\n"))

/-- Lower case for ASCII letters; every other character stays. -/
def lowerAscii (text : String) : String := .ofList (text.toList.map Char.toLower)

/-- Some position of `text` starts with `part`. -/
def occursIn (part : List Char) : List Char → Bool
  | [] => part.isEmpty
  | c :: rest => part.isPrefixOf (c :: rest) || occursIn part rest

def contains (text part : String) : Bool := occursIn part.toList text.toList

end Retention.Text
