import Tracepoint.Conversion

namespace Tracepoint

/-- How a generation ended, how many lines of input it had read by then, and its log. -/
structure Run (α : Type) where
  result : Except Fault α
  consumed : Nat
  log : List Record

/-- What is settled before any line is read. -/
structure Options where
  binary : Value := .null
  targetType : Value := .null
  targetArch : Value := .null
  probePrefix : Value := .null
  provider : Value := "qemu"

/-- The prefix as given, or else provider, target type and target architecture. -/
def Options.resolveProbePrefix (o : Options) : Except Fault Value :=
  if o.probePrefix.isPresent then .ok o.probePrefix
  else if !o.targetType.isPresent then
    .error (.failure (.missingOption "--target-type" Kind.tapset.generator))
  else if !o.targetArch.isPresent then
    .error (.failure (.missingOption "--target-arch" Kind.tapset.generator))
  else do
    let parts := [o.provider, o.targetType, o.targetArch]
    parts.forM Value.checkWritable
    return .str (".".intercalate (parts.map Value.text))

/-- Only dtrace has probe files, and a tapset needs a binary and a prefix. -/
def validate (b : Backend) (k : Kind) (o : Options) : Except Fault Unit :=
  match k with
  | .header | .source => .ok ()
  | .descriptor | .tapset => do
    if b ≠ .dtrace then
      throw (.failure (.unsupportedOutput k.generator b.name))
    if k = .tapset then
      if !o.binary.isPresent then
        throw (.failure (.missingOption "--binary" k.generator))
      let _ ← o.resolveProbePrefix

/-- The context in which a file is generated; only a tapset uses the prefix. -/
def Options.context (o : Options) (k : Kind) : Except Fault Context :=
  let ctx : Context := { provider := o.provider, binary := o.binary }
  if k = .tapset then do
    let probePrefix ← o.resolveProbePrefix
    return { ctx with probePrefix }
  else .ok ctx

def notice : String := "/* This file is autogenerated by tracetool, do not edit. */"

def guardName : String := "TRACE_H"

/-- A header is guarded against double inclusion; every file carries the notice. -/
def wrap (k : Kind) (body : List String) : List String :=
  match k with
  | .header =>
    [s!"#ifndef {guardName}", s!"#define {guardName}", "", notice, "",
      "#include \"qemu-common.h\""] ++ body ++ [s!"#endif /* {guardName} */"]
  | _ => notice :: body

/-- Lines as a text, every line ended. -/
def unlines (lines : List String) : String := "\n".intercalate lines ++ "\n"

def generationRecord (b : Backend) (k : Kind) : Record :=
  ⟨loggerName (some "tracetool.generate"), .debug,
    s!"Generating {k.label} output with {b.name} backend"⟩

/-- The request is checked in full before the first line is read. -/
def generateFile (b : Backend) (k : Kind) (o : Options) (input : Input) : Run String :=
  let checked : Except Fault Context := do
    validate b k o
    o.context k
  match checked with
  | .error fault => ⟨.error fault, 0, []⟩
  | .ok ctx =>
    let c := convert b k ctx input
    { result := c.result.map fun lines => unlines (wrap k lines)
      consumed := c.consumed
      log := generationRecord b k :: c.log }

/-- Looks up the backend, then the kind. -/
def resolve (backend kind : Value) : Except Fault (Backend × Kind) := do
  let b ← (Backend.resolve backend).mapError .failure
  let k ← Kind.resolve kind
  return (b, k)

theorem resolve_name_flag (b : Backend) (k : Kind) : resolve b.name k.flag = .ok (b, k) := by
  simp only [resolve, Backend.resolve, Backend.ofName?_name, Kind.resolve, Kind.ofFlag?_flag]
  rfl

def generate (backend kind : Value) (o : Options) (lines : List String) : Run String :=
  match resolve backend kind with
  | .error fault => ⟨.error fault, 0, []⟩
  | .ok (b, k) => generateFile b k o (Input.ofLines lines)

end Tracepoint
