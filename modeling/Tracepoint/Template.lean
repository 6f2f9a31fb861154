import Tracepoint.Context
import Tracepoint.Event
import Tracepoint.Failure

namespace Tracepoint

/-- A generated file: what stands in front of the events, what each event gives, and what stands
behind them. -/
structure Template where
  /-- What a context lacks for a pass to begin. -/
  ready : Context → Except Failure Unit := fun _ => .ok ()
  /-- A pass starts to count anew. -/
  clears : Bool := true
  opening : Context → List String := fun _ => []
  /-- What in a context keeps the opening from being written. -/
  openingObstacle? : Context → Option Fault := fun _ => none
  fragment : Context → Event → List String := fun _ _ => []
  /-- What in a context, the index apart, keeps the fragments from being written. -/
  obstacle? : Context → Option Fault := fun _ => none
  /-- Every event takes the next index. -/
  numbered : Bool := false
  /-- The index stands in every fragment and in the closing. -/
  tellsIndex : Bool := false
  /-- The names of the events are kept for the end of the file. -/
  registers : Bool := false
  closing : Context → List String := fun _ => []

namespace Template

/-- Prints nothing and leaves the context alone. -/
def silent : Template := { clears := false }

/-- The context with which a pass sets out. -/
def begun (t : Template) (ctx : Context) : Context := if t.clears then ctx.reset else ctx

/-- The opening, and the context as it is by then: what is lacking shows before the context is
cleared, what cannot be written only behind that. -/
def start (t : Template) (ctx : Context) : Except Fault (List String) × Context :=
  match t.ready ctx with
  | .error f => (.error (.failure f), ctx)
  | .ok () =>
    let begun := t.begun ctx
    match t.openingObstacle? begun with
    | some fault => (.error fault, begun)
    | none => (.ok (t.opening begun), begun)

/-- The context behind an event. -/
def advance (t : Template) (e : Event) (ctx : Context) : Context :=
  { ctx with
    index := if t.numbered then ctx.index + 1 else ctx.index
    names := if t.registers then ctx.names ++ [e.name] else ctx.names }

def event (t : Template) (e : Event) (ctx : Context) : List String × Context :=
  (t.fragment ctx e, t.advance e ctx)

end Template

end Tracepoint
