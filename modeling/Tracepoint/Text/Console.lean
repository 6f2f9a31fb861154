import Tracepoint.Text.Columns
import Tracepoint.Text.Pictograph

namespace Tracepoint.Text

/-- What can stand first in the brackets of markup. -/
def startsTag (c : Char) : Bool := ('a' ≤ c && c ≤ 'z') || c = '#' || c = '/' || c = '@'

/-- Whether an opening bracket in front of the text would open markup. -/
def opensTag : List Char → Bool
  | [] => false
  | c :: cs => startsTag c && (cs.find? fun c => c = '[' || c = ']') == some ']'

/-- A text cut in front of and behind everything that looks like markup; `part` holds what has
been read of the current part, last first. -/
def splitTags (inTag : Bool) (part : List Char) : List Char → List (List Char)
  | [] => [part.reverse]
  | c :: cs =>
    if inTag then
      if c = ']' then (c :: part).reverse :: splitTags false [] cs
      else splitTags true (c :: part) cs
    else if c = '[' && opensTag cs then part.reverse :: splitTags true [c] cs
    else splitTags false (c :: part) cs

/-- A backslash in front of an opening bracket is lost. What looks like markup is shown as it is,
with the backslashes in front of it, which belong to another part. -/
def dropEscapes : List Char → List Char
  | '\\' :: '[' :: cs => '[' :: dropEscapes cs
  | c :: cs => c :: dropEscapes cs
  | [] => []

/-- Bell, backspace, vertical tab, form feed and carriage return are not shown. -/
def isSilent (c : Char) : Bool := [7, 8, 11, 12, 13].contains c.toNat

/-- A message as it appears on the console. A name of a pictograph is looked for within one part
only. -/
def shown (message : String) : String :=
  let parts := splitTags false [] message.toList
  let text := parts.flatMap fun part => Pictograph.render (dropEscapes part)
  String.ofList (expandTabs (text.filter (!isSilent ·)))

end Tracepoint.Text
