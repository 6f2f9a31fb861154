import Tracepoint.Template.Source

namespace Tracepoint.Probe

/-- A parameter list of `void` alone is empty here. -/
def parameterText (e : Event) : String := if e.args = "void" then "" else e.args

def descriptor : Template where
  opening ctx :=
    let provider := ctx.provider.text
    [s!"provider {provider} \x7b"]
  openingObstacle? ctx := ctx.provider.obstacle?.map .unwritable
  fragment _ e :=
    let parameters := parameterText e
    [s!"        probe {e.name}({parameters});"]
  closing _ := ["\x7d;"]

/-- Keywords of the tapset language cannot name a variable. -/
def variableName (arg : String) : String := if arg = "limit" then "_limit" else arg

/-- One assignment an argument; arguments are numbered from `position` on. -/
def bindings (position : Nat) : List String → List String
  | [] => []
  | arg :: args =>
    let name := variableName arg
    s!"  {name} = $arg{position};" :: bindings (position + 1) args

def tapset : Template where
  ready ctx :=
    if !ctx.binary.isPresent then .error (.missingOption "--binary" Kind.tapset.generator)
    else if !ctx.probePrefix.isPresent then
      .error (.missingOption "--probe-prefix" Kind.tapset.generator)
    else .ok ()
  fragment ctx e :=
    let place := ctx.probePrefix.text
    let binary := ctx.binary.text
    s!"probe {place}.{e.name} = process(\"{binary}\").mark(\"{e.name}\")" :: "\x7b" ::
      bindings 1 e.argNames ++ ["\x7d"]
  obstacle? ctx := (ctx.probePrefix.obstacle? <|> ctx.binary.obstacle?).map .unwritable

end Tracepoint.Probe

namespace Tracepoint.Backend

/-- Headers and sources exist for every backend. Probe files exist for dtrace; for nop they are
empty, since the events that are switched off are left out of them. -/
def template (b : Backend) (k : Kind) : Except Failure Template :=
  match k, b with
  | .header, _ => .ok (Header.template b)
  | .source, _ => .ok (Source.template b)
  | .descriptor, .dtrace => .ok Probe.descriptor
  | .tapset, .dtrace => .ok Probe.tapset
  | _, .nop => .ok Template.silent
  | _, _ => .error (.unsupportedOutput k.generator b.name)

def supports (b : Backend) (k : Kind) : Bool := (b.template k).isOk

end Tracepoint.Backend
