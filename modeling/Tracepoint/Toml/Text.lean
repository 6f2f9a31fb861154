namespace Tracepoint.Toml

/-- The result with the characters behind it, or `none` if they are malformed. -/
abbrev Reader (α : Type) := List Char → Option (α × List Char)

def isSpace (c : Char) : Bool := c = ' ' || c = '\t'

def isSpaceOrNewline (c : Char) : Bool := isSpace c || c = '\n'

/-- Control characters are allowed nowhere, save the tab. -/
def isIllegal (c : Char) : Bool := (c.toNat < 32 || c.toNat = 127) && c != '\t'

def isIllegalInLines (c : Char) : Bool := isIllegal c && c != '\n'

def isHexDigit (c : Char) : Bool :=
  ('0' ≤ c && c ≤ '9') || ('a' ≤ c && c ≤ 'f') || ('A' ≤ c && c ≤ 'F')

def hexDigitValue (c : Char) : Nat :=
  if c ≤ '9' then c.toNat - 48 else if c ≤ 'F' then c.toNat - 55 else c.toNat - 87

/-- What is left behind a comment, or everything if there is none. -/
def skipComment : List Char → Option (List Char)
  | '#' :: cs =>
    if (cs.takeWhile (· != '\n')).any isIllegal then none else some (cs.dropWhile (· != '\n'))
  | cs => some cs

/-- A character given by its code point in `count` hexadecimal digits. -/
def codePoint (count : Nat) : Reader (List Char) := fun cs =>
  let digits := cs.take count
  let n := digits.foldl (fun n d => n * 16 + hexDigitValue d) 0
  if digits.length = count && digits.all isHexDigit && n.isValidChar then
    some ([Char.ofNat n], cs.drop count)
  else none

/-- A backslash at the end of a line takes with it all blanks up to the next other character. -/
def lineJoin : Reader (List Char) := fun cs =>
  match cs.dropWhile isSpace with
  | [] => some ([], [])
  | '\n' :: cs => some ([], cs.dropWhile isSpaceOrNewline)
  | _ => none

/-- What follows a backslash. -/
def escape (multiline : Bool) : Reader (List Char)
  | 'b' :: cs => some (['\x08'], cs)
  | 't' :: cs => some (['\t'], cs)
  | 'n' :: cs => some (['\n'], cs)
  | 'f' :: cs => some (['\x0c'], cs)
  | 'r' :: cs => some (['\r'], cs)
  | '"' :: cs => some (['"'], cs)
  | '\\' :: cs => some (['\\'], cs)
  | 'u' :: cs => codePoint 4 cs
  | 'U' :: cs => codePoint 8 cs
  | c :: cs => if multiline && isSpaceOrNewline c then lineJoin (c :: cs) else none
  | [] => none

/-- A string with escapes, from behind its opening quotes; `fuel` bounds its length. -/
def basicBody (multiline : Bool) : Nat → Reader (List Char)
  | 0, _ => none
  | _, [] => none
  | fuel + 1, '"' :: cs =>
    if !multiline then some ([], cs)
    else match cs with
      | '"' :: '"' :: cs => some ([], cs)
      | cs => do
        let (body, rest) ← basicBody multiline fuel cs
        return ('"' :: body, rest)
  | fuel + 1, '\\' :: cs => do
    let (escaped, cs) ← escape multiline cs
    let (body, rest) ← basicBody multiline fuel cs
    return (escaped ++ body, rest)
  | fuel + 1, c :: cs =>
    if (if multiline then isIllegalInLines c else isIllegal c) then none
    else do
      let (body, rest) ← basicBody multiline fuel cs
      return (c :: body, rest)

/-- A string without escapes, from behind its opening quote. -/
def literalBody : Reader (List Char) := fun cs =>
  let body := cs.takeWhile (· != '\x27')
  match cs.dropWhile (· != '\x27') with
  | [] => none
  | _ :: rest => if body.any isIllegal then none else some (body, rest)

/-- Up to the next three apostrophes. -/
def literalLines : Reader (List Char)
  | [] => none
  | '\x27' :: '\x27' :: '\x27' :: cs => some ([], cs)
  | c :: cs =>
    if isIllegalInLines c then none
    else do
      let (body, rest) ← literalLines cs
      return (c :: body, rest)

/-- Up to two more quotes directly behind the closing ones belong to the text. -/
def withQuotes (quote : Char) (body rest : List Char) : List Char × List Char :=
  let more := (rest.take 2).takeWhile (· == quote)
  (body ++ more, rest.drop more.length)

/-- A newline directly behind the opening quotes is not part of the text. -/
def dropNewline : List Char → List Char
  | '\n' :: cs => cs
  | cs => cs

def multilineBasic (cs : List Char) : Option (List Char × List Char) := do
  let (body, rest) ← basicBody true (cs.length + 1) (dropNewline cs)
  return withQuotes '"' body rest

def multilineLiteral (cs : List Char) : Option (List Char × List Char) := do
  let (body, rest) ← literalLines (dropNewline cs)
  return withQuotes '\x27' body rest

/-- A string on one line, with or without escapes. -/
def lineString : Reader (List Char)
  | '"' :: cs => basicBody false (cs.length + 1) cs
  | '\x27' :: cs => literalBody cs
  | _ => none

/-- A string of any of the four forms. -/
def string : Reader (List Char)
  | '"' :: '"' :: '"' :: cs => multilineBasic cs
  | '\x27' :: '\x27' :: '\x27' :: cs => multilineLiteral cs
  | cs => lineString cs

def isBareKeyChar (c : Char) : Bool :=
  ('a' ≤ c && c ≤ 'z') || ('A' ≤ c && c ≤ 'Z') || ('0' ≤ c && c ≤ '9') || c = '-' || c = '_'

/-- One part of a key, bare or quoted. -/
def keyPart : Reader String := fun cs =>
  match cs.takeWhile isBareKeyChar with
  | [] => (lineString cs).map fun (text, rest) => (String.ofList text, rest)
  | part => some (String.ofList part, cs.dropWhile isBareKeyChar)

/-- The parts of a key, joined by dots, with spaces around each; `fuel` bounds their number. -/
def keyParts : Nat → Reader (List String)
  | 0, _ => none
  | fuel + 1, cs => do
    let (part, cs) ← keyPart cs
    match cs.dropWhile isSpace with
    | '.' :: cs =>
      let (parts, rest) ← keyParts fuel (cs.dropWhile isSpace)
      return (part :: parts, rest)
    | rest => return ([part], rest)

def key : Reader (List String) := fun cs => keyParts (cs.length + 1) cs

end Tracepoint.Toml
