import Tracepoint.Value

namespace Tracepoint.Toml

abbrev Path := List String

inductive Mark
  /-- Defined by a header or by dotted keys; no header can define it again. -/
  | defined
  /-- Written as one value; nothing can be added to it or below it. -/
  | sealed
  deriving DecidableEq

abbrev Marks := List (Path × Mark)

namespace Marks

def isDefined (marks : Marks) (path : Path) : Bool := marks.contains (path, .defined)

/-- A seal covers everything below it. -/
def isSealed (marks : Marks) (path : Path) : Bool :=
  marks.any fun (p, m) => m = .sealed && p.isPrefixOf path

def mark (marks : Marks) (path : Path) (m : Mark) : Marks := (path, m) :: marks

/-- Lifts the marks at `path` and below it. -/
def clear (marks : Marks) (path : Path) : Marks := marks.filter fun (p, _) => !path.isPrefixOf p

end Marks

/-- Changes the table at a path, making the tables on the way as needed. With `lists`, the last
table of an array of tables stands for the array. -/
def changeAt (lists : Bool) (f : Entries Value → Option (Entries Value)) :
    Path → Entries Value → Option (Entries Value)
  | [], table => f table
  | k :: path, table =>
    match table.get? k with
    | none => (changeAt lists f path []).map fun t => table.put k (.table t)
    | some (.table t) => (changeAt lists f path t).map fun t => table.put k (.table t)
    | some (.array items) =>
      match lists, items.getLast? with
      | true, some (.table t) =>
        (changeAt lists f path t).map fun t => table.put k (.array (items.dropLast ++ [.table t]))
      | _, _ => none
    | some _ => none

/-- Adds an entry under a new key. -/
def addNew (key : String) (value : Value) (table : Entries Value) : Option (Entries Value) :=
  if (table.get? key).isSome then none else some (table.put key value)

/-- Adds an empty table to an array of tables. -/
def addToArray (key : String) (table : Entries Value) : Option (Entries Value) :=
  match table.get? key with
  | none => some (table.put key (.array [.table []]))
  | some (.array items) => some (table.put key (.array (items ++ [.table []])))
  | some _ => none

/-- A document as far as it has been read. `waiting` are the tables that dotted keys have made
since the last header: from the next header on they count as defined. -/
structure Document where
  root : Entries Value := []
  marks : Marks := []
  waiting : List Path := []
  header : Path := []

namespace Document

def settle (d : Document) : Document :=
  { d with marks := d.waiting.map (·, .defined) ++ d.marks, waiting := [] }

/-- A header `[path]`. -/
def openTable (d : Document) (path : Path) : Option Document := do
  let d := d.settle
  if d.marks.isDefined path || d.marks.isSealed path then none
  let root ← changeAt true some path d.root
  return { d with root, marks := d.marks.mark path .defined, header := path }

/-- A header `[[path]]`. The new element starts without the marks of the one before it. -/
def openElement (d : Document) (path : Path) : Option Document := do
  let d := d.settle
  if d.marks.isSealed path then none
  let root ← changeAt true (addToArray (path.getLast?.getD "")) path.dropLast d.root
  return { d with root, marks := (d.marks.clear path).mark path .defined, header := path }

def isCompound : Value → Bool
  | .array _ | .table _ => true
  | _ => false

/-- The tables that the dots of a key lead through. -/
def inner (header key : Path) : List Path :=
  (List.range' 1 (key.length - 1)).map fun i => header ++ key.take i

/-- A line `key = value` below the current header. -/
def define (d : Document) (key : Path) (value : Value) : Option Document := do
  let inner := inner d.header key
  if inner.any d.marks.isDefined then none
  let parent := d.header ++ key.dropLast
  if d.marks.isSealed parent then none
  let root ← changeAt true (addNew (key.getLast?.getD "") value) parent d.root
  let marks := if isCompound value then d.marks.mark (d.header ++ key) .sealed else d.marks
  return { d with root, marks, waiting := inner ++ d.waiting }

end Document

end Tracepoint.Toml
