import Tracepoint.Text.Utf8

namespace Tracepoint.Text

/-- Both other line ends become a newline. -/
def unifyNewlines : List Char → List Char
  | [] => []
  | '\r' :: '\n' :: cs => '\n' :: unifyNewlines cs
  | c :: cs => (if c = '\r' then '\n' else c) :: unifyNewlines cs

/-- Cuts behind every newline; `line` holds what has been read of the current line, last first. -/
def cutLines (line : List Char) : List Char → List (List Char)
  | [] => if line.isEmpty then [] else [line.reverse]
  | c :: cs =>
    if c = '\n' then (c :: line).reverse :: cutLines [] cs else cutLines (c :: line) cs

def lines (text : List Char) : List String := (cutLines [] (unifyNewlines text)).map String.ofList

/-- The lines of which the end has been seen. A carriage return at the very end does not count:
it may be half of a longer line end. -/
def completeLines (text : List Char) : List String :=
  let text := if text.getLast? = some '\r' then text.dropLast else text
  ((cutLines [] (unifyNewlines text)).filter (·.getLast? = some '\n')).map String.ofList

end Tracepoint.Text

namespace Tracepoint

/-- Why no further line comes. -/
inductive Ending
  | complete
  | undecodable (fault : Utf8.Fault)
  | interrupted

/-- The lines that can be read and why they end. -/
structure Input where
  lines : List String
  ending : Ending

def Input.ofLines (lines : List String) : Input := ⟨lines, .complete⟩

/-- Nothing is read before an interruption. -/
def Input.interrupted : Input := ⟨[], .interrupted⟩

/-- Whether the end of the input cuts a character short; `rest` starts at the fault. Two bytes
that could start a surrogate count too. -/
def isCutShort (fault : Utf8.Fault) (rest : List UInt8) : Bool :=
  fault.reason = .truncated || match rest with
    | [a, b] => a = 0xED && Utf8.isContinuation b
    | _ => false

/-- How many bytes are taken at a time. -/
def blockSize : Nat := 8192

/-- Decodes block by block: `text` is what the blocks so far have come to, and `left` what the last
one has ended with of a character that is not complete. A fault ends the lines that are complete
before its block, and its place is counted from the start of what is decoded with the block. -/
def Input.ofBlocks (text : List Char) (left : List UInt8) : List UInt8 → Input
  | [] =>
    match Utf8.scan [] 0 left with
    | (_, none) => ⟨Text.lines text, .complete⟩
    | (_, some fault) => ⟨Text.completeLines text, .undecodable fault⟩
  | b :: bs =>
    let block := left ++ b :: bs.take (blockSize - 1)
    match Utf8.scan [] 0 block with
    | (more, none) => ofBlocks (text ++ more) [] (bs.drop (blockSize - 1))
    | (more, some fault) =>
      let left := block.drop fault.position
      if isCutShort fault left then ofBlocks (text ++ more) left (bs.drop (blockSize - 1))
      else ⟨Text.completeLines text, .undecodable fault⟩
  termination_by bytes => bytes.length
  decreasing_by all_goals simp only [List.length_drop, List.length_cons]; omega

/-- A block is decoded before the first line in it is used. -/
def Input.ofBytes (bytes : List UInt8) : Input := ofBlocks [] [] bytes

end Tracepoint
