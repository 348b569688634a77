import CatalogSearch.Text.Pieces
namespace CatalogSearch.Query

open Text

def reserved : List Char :=
  ['+', '-', '!', '(', ')', '\x7b', '\x7d', '[', ']', '^', '"', '~', '*', '?', ':', '\\']

/-- A backslash before each reserved character, and before each `&&` and `||`. -/
def escape : List Char → List Char
  | '&' :: '&' :: cs => '\\' :: '&' :: '&' :: escape cs
  | '|' :: '|' :: cs => '\\' :: '|' :: '|' :: escape cs
  | c :: cs => if c ∈ reserved then '\\' :: c :: escape cs else c :: escape cs
  | [] => []

/-- Inside quotes only the quote and the backslash have a meaning. -/
def escapePhrase : List Char → List Char
  | [] => []
  | c :: cs => if c = '"' ∨ c = '\\' then '\\' :: c :: escapePhrase cs else c :: escapePhrase cs

def phrase (cs : List Char) : List Char := '"' :: escapePhrase cs ++ ['"']

def words (cs : List Char) : List (List Char) := (pieces ' ' cs).filter (· ≠ [])

/-- Free text: a single word stands alone, several become a group of words; spaces alone become nothing. -/
def group (cs : List Char) : List Char :=
  if (pieces ' ' cs).length > 1 then
    match words cs with
    | [] => []
    | ws => '(' :: [' '].intercalate (ws.map escape) ++ [')']
  else escape cs

/-- Filter text: a single word stands alone, several must be found as they are. -/
def exactText (cs : List Char) : List Char :=
  if (pieces ' ' cs).length > 1 then phrase cs else escape cs

def removeEscapes : List Char → List Char
  | '\\' :: c :: cs => c :: removeEscapes cs
  | c :: cs => c :: removeEscapes cs
  | [] => []

end CatalogSearch.Query
