import Tracepoint.Text.Blank

namespace Tracepoint

open Text

/-- A field of an argument list that blanks delimit: the name it gives, and whether a comma
closes it. One leading star is not part of the name. -/
structure Field where
  name : List Char
  closed : Bool
  deriving DecidableEq

def Field.ofWord (word : List Char) : Field :=
  let text := match word with
    | '*' :: cs => cs
    | cs => cs
  if text.getLast? = some ',' then ⟨text.dropLast, true⟩ else ⟨text, false⟩

/-- The names of the closed fields; behind them that of the last field, if it is not the only
one. A type alone, such as `void`, names nothing. -/
def fieldNames (fields : List Field) : List (List Char) :=
  (fields.filter (·.closed)).map (·.name) ++
    (if fields.length > 1 then (fields.getLast?.map (·.name)).toList else [])

def argNames (args : List Char) : List (List Char) := fieldNames ((words args).map Field.ofWord)

/-- A parameter as C declares it. The stars of a pointer belong to its type. -/
structure Parameter where
  type : List Char
  name : List Char
  deriving DecidableEq

/-- The last word is the name, with the pointer's stars in front of it; a lone word is no
parameter. -/
def Parameter.ofPart? (part : List Char) : Option Parameter :=
  match (words part).reverse with
  | last :: first :: rest =>
    let type := List.intercalate [' '] (first :: rest).reverse
    let stars := last.takeWhile (· == '*')
    let name := last.dropWhile (· == '*')
    some ⟨if stars.isEmpty then type else type ++ ' ' :: stars, name⟩
  | _ => none

def parameters (args : List Char) : List Parameter :=
  (pieces (· == ',') args).filterMap Parameter.ofPart?

end Tracepoint
