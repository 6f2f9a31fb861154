import Tracepoint.Toml.Document
import Tracepoint.Toml.Number

namespace Tracepoint.Toml

/-- What is left behind the blanks, newlines and comments between the items of an array. -/
def skipGap (inComment : Bool) : List Char → Option (List Char)
  | [] => some []
  | c :: cs =>
    if c = '\n' then skipGap false cs
    else if inComment then if isIllegal c then none else skipGap true cs
    else if isSpace c then skipGap false cs
    else if c = '#' then skipGap true cs
    else some (c :: cs)

/-- The tables within one value do not reach beyond it, so arrays of tables are not entered. -/
structure Inline where
  root : Entries Value := []
  marks : Marks := []

def Inline.define (t : Inline) (path : Path) (value : Value) : Option Inline := do
  if t.marks.isSealed path then none
  let root ← changeAt false (addNew (path.getLast?.getD "") value) path.dropLast t.root
  let marks := if Document.isCompound value then t.marks.mark path .sealed else t.marks
  return ⟨root, marks⟩

def dateValue (cs : List Char) : Option (Option Value × List Char) :=
  match dateOrMoment cs with
  | some found => some found
  | none => (timeOfDay cs).map fun (t, rest) => (some (.time t), rest)

/-- A value that holds no other one. -/
def scalar : ValueReader Value := fun cs =>
  match cs with
  | '"' :: _ | '\x27' :: _ =>
    (orMalformed (string cs)).map fun (s, rest) => (.str (String.ofList s), rest)
  | 't' :: 'r' :: 'u' :: 'e' :: rest => .ok (.bool true, rest)
  | 'f' :: 'a' :: 'l' :: 's' :: 'e' :: rest => .ok (.bool false, rest)
  | _ =>
    match dateValue cs with
    | some (found, rest) => (orMalformed found).map (·, rest)
    | none =>
      match number cs with
      | .error .malformed => orMalformed (specialFloat cs)
      | found => found

/-- What is left of a depth after some more steps down. -/
def descend (steps depth : Nat) : Except Defect Nat :=
  if steps ≤ depth then .ok (depth - steps) else .error .tooDeep

mutual

/-- A value with `depth` steps left to go down, where an array takes two and a table three; `fuel`
bounds how many values stand in one another or in a row. -/
def value (depth : Nat) : Nat → ValueReader Value
  | 0, _ => .error .malformed
  | fuel + 1, '[' :: cs => do
    let depth ← descend 2 depth
    match ← orMalformed (skipGap false cs) with
    | ']' :: rest => return (.array [], rest)
    | cs =>
      let (items, rest) ← items depth fuel cs
      return (.array items, rest)
  | fuel + 1, '{' :: cs => do
    let depth ← descend 3 depth
    match cs.dropWhile isSpace with
    | '}' :: rest => return (.table [], rest)
    | cs =>
      let (t, rest) ← fields depth fuel {} cs
      return (.table t.root, rest)
  | _ + 1, cs => scalar cs

/-- The items of an array up to its end; a comma may stand behind the last one. -/
def items (depth : Nat) : Nat → ValueReader (List Value)
  | 0, _ => .error .malformed
  | fuel + 1, cs => do
    let (v, cs) ← value depth fuel cs
    match ← orMalformed (skipGap false cs) with
    | ']' :: rest => return ([v], rest)
    | ',' :: cs =>
      match ← orMalformed (skipGap false cs) with
      | ']' :: rest => return ([v], rest)
      | cs =>
        let (vs, rest) ← items depth fuel cs
        return (v :: vs, rest)
    | _ => throw .malformed

/-- The fields of a table within a line up to its end. -/
def fields (depth : Nat) : Nat → Inline → ValueReader Inline
  | 0, _, _ => .error .malformed
  | fuel + 1, t, cs => do
    let (path, cs) ← orMalformed (key cs)
    let ((), cs) ← orMalformed (symbol '=' cs)
    let (v, cs) ← value depth fuel (cs.dropWhile isSpace)
    let t ← orMalformed (t.define path v)
    match cs.dropWhile isSpace with
    | '}' :: rest => return (t, rest)
    | ',' :: cs => fields depth fuel t (cs.dropWhile isSpace)
    | _ => throw .malformed

end

/-- A header of a table or of an element of an array of tables. -/
def header (d : Document) : List Char → Option (Document × List Char)
  | '[' :: '[' :: cs => do
    let (path, cs) ← key (cs.dropWhile isSpace)
    let d ← d.openElement path
    let ((), cs) ← symbol ']' cs
    let ((), rest) ← symbol ']' cs
    return (d, rest)
  | '[' :: cs => do
    let (path, cs) ← key (cs.dropWhile isSpace)
    let d ← d.openTable path
    let ((), rest) ← symbol ']' cs
    return (d, rest)
  | _ => none

def definition (d : Document) : ValueReader Document := fun cs => do
  let (path, cs) ← orMalformed (key cs)
  let ((), cs) ← orMalformed (symbol '=' cs)
  let cs := cs.dropWhile isSpace
  let (v, rest) ← value Value.depthLimit (2 * cs.length + 1) cs
  let d ← orMalformed (d.define path v)
  return (d, rest)

/-- A header, a definition or nothing. -/
def statement (d : Document) : ValueReader Document := fun cs =>
  match cs with
  | [] | '\n' :: _ | '#' :: _ => .ok (d, cs)
  | '[' :: _ => orMalformed (header d cs)
  | _ => definition d cs

/-- Statements up to the end, each on a line of its own; `fuel` bounds their number. -/
def statements : Nat → Document → List Char → Except Defect Document
  | 0, _, _ => .error .malformed
  | fuel + 1, d, cs => do
    let (d, cs) ← statement d (cs.dropWhile isSpace)
    match ← orMalformed (skipComment (cs.dropWhile isSpace)) with
    | [] => return d
    | '\n' :: cs => statements fuel d cs
    | _ => throw .malformed

/-- A carriage return in front of a newline counts as part of it. -/
def joinNewlines : List Char → List Char
  | '\r' :: '\n' :: cs => '\n' :: joinNewlines cs
  | c :: cs => c :: joinNewlines cs
  | [] => []

/-- The table that a document stands for. -/
def parse (text : List Char) : Except Defect (Entries Value) :=
  let cs := joinNewlines text
  (statements (cs.length + 1) {} cs).map (·.root)

end Tracepoint.Toml
