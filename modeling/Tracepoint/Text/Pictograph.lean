import Tracepoint.Text.Blank
import Tracepoint.Text.Pictograph.Flags
import Tracepoint.Text.Pictograph.People
import Tracepoint.Text.Pictograph.Signs

namespace Tracepoint.Text.Pictograph

/-- The lower case of the letters that occur in names. Besides those of Latin-1 themselves, the
signs for kelvin and ångström have one of them as lower case. -/
def lower (c : Char) : Char :=
  if 'A' ≤ c && c ≤ 'Z' then Char.ofNat (c.toNat + 32)
  else if '\u00c0' ≤ c && c ≤ '\u00de' && c != '\u00d7' then Char.ofNat (c.toNat + 32)
  else if c = '\u212a' then 'k'
  else if c = '\u212b' then '\u00e5'
  else c

def find? (name : List Char) : Option (List Char) :=
  let plain := String.ofList name
  flag? name <|> toned? name <|> (people.lookup plain <|> signs.lookup plain).map String.toList

/-- Endings of a name that ask for a coloured or for a plain sign, with the marks for it. -/
def styles : List (String × Char) := [("-emoji", '\ufe0f'), ("-text", '\ufe0e')]

/-- A name without the style that it may end in, and the mark for the style. -/
def splitStyle (name : List Char) : List Char × List Char :=
  match styles.find? fun (ending, _) => ending.toList.isSuffixOf name with
  | some (ending, mark) => (name.take (name.length - ending.length), [mark])
  | none => (name, [])

/-- The pictograph under a name in capital or small letters, in the style that it may end in. -/
def named? (name : List Char) : Option (List Char) :=
  let (name, mark) := splitStyle name
  (find? (name.map lower)).map (· ++ mark)

/-- The pieces behind the first colon of a text. A piece between two colons is a name unless it
holds a blank; both colons belong to it, whether it is known or not. -/
def substitute : List (List Char) → List Char
  | [] => []
  | [p] => ':' :: p
  | p :: q :: ps =>
    if p.any isBlank then ':' :: p ++ substitute (q :: ps)
    else
      let shown := (named? p).getD (':' :: p ++ [':'])
      shown ++ q ++ substitute ps

def render (text : List Char) : List Char :=
  match pieces (· == ':') text with
  | [] => []
  | p :: ps => p ++ substitute ps

end Tracepoint.Text.Pictograph
