import CatalogSearch.Query.Criterion
import CatalogSearch.Text.Word

namespace CatalogSearch.Query.Reader

/-- A clause as it reads: a field with an operand, a field between two operands, or one of several clauses. -/
inductive Clause (α : Type) where
  | holds (field : List Char) (operand : α)
  | within (field : List Char) (lower upper : α)
  | either (parts : List (Clause α))

def marks : List Char := [' ', '"', '(', ')', '[', ']', ':', '*']

def readWord : List Char → List Char × List Char
  | [] => ([], [])
  | [c] => if c ∈ marks then ([], [c]) else ([c], [])
  | c :: d :: cs =>
      if c = '\\' then (d :: (readWord cs).1, (readWord cs).2)
      else if c ∈ marks then ([], c :: d :: cs)
      else (c :: (readWord (d :: cs)).1, (readWord (d :: cs)).2)

def readPhrase : List Char → Option (List Char × List Char)
  | [] => none
  | [c] => if c = '"' then some ([], []) else none
  | c :: d :: cs =>
      if c = '"' then some ([], d :: cs)
      else if c = '\\' then (readPhrase cs).map fun r => (d :: r.1, r.2)
      else (readPhrase (d :: cs)).map fun r => (c :: r.1, r.2)

def readExact : List Char → Option (List Char × List Char)
  | '"' :: cs => readPhrase cs
  | cs => some (readWord cs)

def after? (start cs : List Char) : Option (List Char) :=
  if start.isPrefixOf cs then some (cs.drop start.length) else none

def readField (cs : List Char) : Option (List Char × List Char) :=
  let (field, rest) := cs.span Text.isWord
  if field = [] then none else (after? [':'] rest).map (field, ·)

section Clauses

variable {α : Type} (readOperand : List Char → Option (α × List Char))

def readRange (field cs : List Char) : Option (Clause α × List Char) := do
  let (lower, cs) ← readOperand cs
  let cs ← after? " TO ".toList cs
  let (upper, cs) ← readOperand cs
  let cs ← after? [']'] cs
  pure (.within field lower upper, cs)

def readSimple (cs : List Char) : Option (Clause α × List Char) := do
  let (field, cs) ← readField cs
  match after? ['['] cs with
  | some cs => readRange readOperand field cs
  | none => (readOperand cs).map fun r => (.holds field r.1, r.2)

mutual

/-- Parentheses hold clauses with `OR` between them. The number bounds how deep and how long they are. -/
def readClause : Nat → List Char → Option (Clause α × List Char)
  | 0, _ => none
  | n + 1, cs => match after? ['('] cs with
    | some cs => (readParts n cs).map fun r => (.either r.1, r.2)
    | none => readSimple readOperand cs

def readParts : Nat → List Char → Option (List (Clause α) × List Char)
  | 0, _ => none
  | n + 1, cs => do
      let (part, cs) ← readClause n cs
      match after? " OR ".toList cs with
      | some cs => (readParts n cs).map fun r => (part :: r.1, r.2)
      | none => (after? [')'] cs).map ([part], ·)

end

def readConjuncts : Nat → List Char → Option (List (Clause α))
  | 0, _ => none
  | n + 1, cs => do
      let (clause, cs) ← readClause readOperand n cs
      if cs = [] then pure [clause]
      else (readConjuncts n (← after? " AND ".toList cs)).map (clause :: ·)

/-- The clauses of a text that is nothing but clauses with `AND` between them. -/
def readText (cs : List Char) : Option (List (Clause α)) :=
  if cs = [] then some [] else readConjuncts readOperand (cs.length + 2) cs

end Clauses

/-- A field with one text. A category stands for two fields that hold the same text. -/
def scalar? : Clause (List Char) → Option (List Char × List Char)
  | .holds field text => some (field, text)
  | .either [.holds field text, .holds shown text'] =>
      if field = categoryField.toList ∧ shown = shownField.toList ∧ text = text' then some (field, text) else none
  | _ => none

/-- What a clause asks of which field; several texts are asked of one field only. -/
def asked? (c : Clause (List Char)) : Option (List Char × Criterion) :=
  match scalar? c with
  | some (field, text) => some (field, .equals text)
  | none => match c with
    | .holds .. => none
    | .within field lower upper => some (field, .between lower upper)
    | .either parts => do
        match ← parts.mapM scalar? with
        | [] => none
        | (field, text) :: rest =>
            if rest.all (·.1 = field) then some (field, .anyOf (text :: rest.map Prod.snd)) else none

def readFilters (cs : List Char) : Option (List (List Char × Criterion)) := do
  (← readText readExact cs).mapM asked?

end CatalogSearch.Query.Reader
