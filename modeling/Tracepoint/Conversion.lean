import Tracepoint.Log
import Tracepoint.Template.Probe
import Tracepoint.Text.Lines

namespace Tracepoint

/-- What the lines of the input came to. -/
structure Rendering where
  lines : List String
  context : Context
  /-- Lines of input read. -/
  read : Nat
  rendered : Nat
  disabled : Nat
  log : List Record

def convertLogger : String := loggerName (some "tracetool.convert")

def disabledRecord (e : Event) : Record :=
  ⟨convertLogger, .debug, s!"Event {e.name} is disabled, using nop renderer"⟩

def summaryRecord (total disabled : Nat) (b : Backend) (k : Kind) : Record :=
  ⟨convertLogger, .debug,
    s!"Converted {total} events ({disabled} disabled) with {b.name} backend, output {k.flag}"⟩

/-- Renders the declarations among the lines, each behind an empty line. -/
def Template.render (enabled off : Template) (ctx : Context) : List String → Rendering
  | [] => ⟨[], ctx, 0, 0, 0, []⟩
  | line :: rest =>
    if isDeclaration line then
      let e := Event.parse line
      if e.disabled then
        let (fragment, ctx) := off.event e ctx
        let r := enabled.render off ctx rest
        { r with
          lines := "" :: fragment ++ r.lines
          read := r.read + 1
          disabled := r.disabled + 1
          log := disabledRecord e :: r.log }
      else
        let (fragment, ctx) := enabled.event e ctx
        let r := enabled.render off ctx rest
        { r with
          lines := "" :: fragment ++ r.lines
          read := r.read + 1
          rendered := r.rendered + 1 }
    else
      let r := enabled.render off ctx rest
      { r with read := r.read + 1 }

/-- The fault on which a pass ends, if any, with the number of lines in front of the event that
meets it. The index is never in the way: within a pass it counts the events, and no input has so
many that their number cannot be written. -/
def Template.halt? (enabled : Template) (ctx : Context) (lines : List String) :
    Option (Nat × Fault) :=
  match enabled.obstacle? ctx with
  | none => none
  | some fault =>
    (lines.findIdx? fun line => isDeclaration line && !(Event.parse line).disabled).map (·, fault)

theorem Template.halt?_eq_none {enabled : Template} {ctx : Context}
    (h : enabled.obstacle? ctx = none) (lines : List String) : enabled.halt? ctx lines = none := by
  simp [Template.halt?, h]

def Ending.fault? : Ending → Option Fault
  | .complete => none
  | .undecodable fault => some (.undecodable fault)
  | .interrupted => some .interrupted

/-- How a pass ended, the context behind it, how many lines of input it had read by then, and its
log. -/
structure Conversion where
  result : Except Fault (List String)
  context : Context
  consumed : Nat
  log : List Record

/-- The lines of a file, complete but for what all files have around them. -/
def convert (b : Backend) (k : Kind) (ctx : Context) (input : Input) : Conversion :=
  let templates : Except Failure (Template × Template) := do
    return (← b.template k, ← Backend.nop.template k)
  match templates with
  | .error f => ⟨.error (.failure f), ctx, 0, []⟩
  | .ok (enabled, off) =>
    match enabled.start ctx with
    | (.error fault, ctx) => ⟨.error fault, ctx, 0, []⟩
    | (.ok opening, ctx) =>
      match enabled.halt? ctx input.lines with
      | some (n, fault) =>
        let r := enabled.render off ctx (input.lines.take n)
        ⟨.error fault, r.context, n + 1, r.log⟩
      | none =>
        let r := enabled.render off ctx input.lines
        match input.ending.fault? with
        | some fault => ⟨.error fault, r.context, r.read, r.log⟩
        | none =>
          ⟨.ok (opening ++ r.lines ++ "" :: enabled.closing r.context), r.context, r.read,
            r.log ++ [summaryRecord (r.rendered + r.disabled) r.disabled b k]⟩

end Tracepoint
