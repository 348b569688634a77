import CatalogSearch.Json.Basic
import CatalogSearch.Text.Printable
namespace CatalogSearch.Json

def writeChar (c : Char) : List Char :=
  if c = '"' ∨ c = '\\' then ['\\', c]
  else if c = '\n' then ['\\', 'n']
  else if c = '\r' then ['\\', 'r']
  else if c = '\t' then ['\\', 't']
  else if c.toNat < 0x20 then '\\' :: 'u' :: Text.hex 4 c.toNat
  else [c]

def writeText (s : String) : List Char := '"' :: s.toList.flatMap writeChar ++ ['"']

def joined (parts : List (List Char)) : List Char := [','].intercalate parts

mutual

def write : Json → List Char
  | .null => "null".toList
  | .bool b => (if b then "true" else "false").toList
  | .int n => (toString n).toList
  | .real x => realText x
  | .text s => writeText s
  | .array items => '[' :: joined (writeItems items) ++ [']']
  | .object members => '\x7b' :: joined (writeMembers members) ++ ['\x7d']

def writeItems : List Json → List (List Char)
  | [] => []
  | x :: xs => write x :: writeItems xs

def writeMembers : List (String × Json) → List (List Char)
  | [] => []
  | (name, x) :: members => (writeText name ++ ':' :: write x) :: writeMembers members

end

end CatalogSearch.Json
