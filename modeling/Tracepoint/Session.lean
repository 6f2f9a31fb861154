import Tracepoint.Generation

namespace Tracepoint

/-- A change of one field of a context. -/
inductive Assignment
  | provider (value : Value)
  | binary (value : Value)
  | probePrefix (value : Value)
  | index (i : Int)
  | names (ns : List String)

inductive Step
  | opening (backend kind : Value)
  | event (backend kind : Value) (e : Event)
  | closing (backend kind : Value)
  | convert (backend kind : Value) (lines : List String)
  | reset
  | nextIndex
  | assign (a : Assignment)

inductive Answer
  | lines (lines : List String)
  | index (i : Int)
  | nothing

def Assignment.apply (ctx : Context) : Assignment → Context
  | provider value => { ctx with provider := value }
  | binary value => { ctx with binary := value }
  | probePrefix value => { ctx with probePrefix := value }
  | index i => { ctx with index := i }
  | names ns => { ctx with names := ns }

def resolveTemplate (backend kind : Value) : Except Fault Template := do
  let (b, k) ← resolve backend kind
  (b.template k).mapError .failure

/-- What a step came to: the context is the one that the step left, also where it broke off. -/
structure Outcome where
  answer : Except Fault Answer
  context : Context
  log : List Record

/-- A step that works on the context with the template it asks for. -/
def Outcome.ofTemplate (ctx : Context) (backend kind : Value)
    (act : Template → Except Fault (List String) × Context) : Outcome :=
  match resolveTemplate backend kind with
  | .error fault => ⟨.error fault, ctx, []⟩
  | .ok t =>
    let (lines, behind) := act t
    ⟨lines.map .lines, behind, []⟩

/-- The fragment of an event by itself, and the context behind it. That the fragment cannot be
written shows when the context has moved on. -/
def Template.line (t : Template) (e : Event) (ctx : Context) :
    Except Fault (List String) × Context :=
  let fragment := match t.obstacle? ctx with
    | some fault => .error fault
    | none => .ok (t.fragment ctx e)
  (fragment, t.advance e ctx)

/-- A step where the index can be written, as it can within a pass, which counts its events. -/
def Step.inPass (ctx : Context) : Step → Outcome
  | opening backend kind => .ofTemplate ctx backend kind fun t => t.start ctx
  | event backend kind e => .ofTemplate ctx backend kind fun t => t.line e ctx
  | closing backend kind => .ofTemplate ctx backend kind fun t => (.ok (t.closing ctx), ctx)
  | convert backend kind lines =>
    match resolve backend kind with
    | .error fault => ⟨.error fault, ctx, []⟩
    | .ok (b, k) =>
      let c := Tracepoint.convert b k ctx (Input.ofLines lines)
      ⟨c.result.map .lines, c.context, c.log⟩
  | reset => ⟨.ok .nothing, ctx.reset, []⟩
  | nextIndex =>
    let (i, ctx) := ctx.nextIndex
    ⟨.ok (.index i), ctx, []⟩
  | assign a => ⟨.ok .nothing, a.apply ctx, []⟩

/-- The step writes the index of the context that it finds. -/
def Step.tellsIndex : Step → Bool
  | event backend kind _ | closing backend kind =>
    match resolveTemplate backend kind with
    | .ok t => t.tellsIndex
    | .error _ => false
  | _ => false

/-- A step on a context of any past. An index that cannot be written shows only where it is written,
and the context has moved on by then. -/
def Step.outcome (ctx : Context) (s : Step) : Outcome :=
  match ctx.indexObstacle? with
  | some obstacle =>
    if s.tellsIndex then { s.inPass ctx with answer := .error (.unwritable obstacle) }
    else s.inPass ctx
  | none => s.inPass ctx

/-- Any sequence of steps on one context. -/
def runSession (ctx : Context) : List Step → List Outcome
  | [] => []
  | s :: steps =>
    let o := s.outcome ctx
    o :: runSession o.context steps

end Tracepoint
