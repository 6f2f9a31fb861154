import Tracepoint.Value

namespace Tracepoint

/-- The state of a pass over the declarations. -/
structure Context where
  provider : Value := "qemu"
  binary : Value := .null
  probePrefix : Value := .null
  index : Int := 0
  names : List String := []

namespace Context

/-- Counts from zero again, with no names. -/
def reset (ctx : Context) : Context := { ctx with index := 0, names := [] }

/-- The index of the next event, and the context after it is taken. -/
def nextIndex (ctx : Context) : Int × Context := (ctx.index, { ctx with index := ctx.index + 1 })

/-- What keeps the index from being written. -/
def indexObstacle? (ctx : Context) : Option Value.Obstacle := (Value.int ctx.index).obstacle?

theorem indexObstacle?_eq (ctx : Context) :
    ctx.indexObstacle? =
      if ctx.index.natAbs < Value.numberLimit then none else some .longNumber :=
  Value.obstacle?_int ctx.index

end Context

end Tracepoint
