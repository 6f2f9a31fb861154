import Tracepoint.Template
import Tracepoint.Text.Uppercase

namespace Tracepoint.Header

def signature (e : Event) : String := s!"static inline void trace_{e.name}({e.args})"

def emptyFunction (e : Event) : List String := [signature e, "\x7b", "\x7d"]

def nop : Template := { fragment := fun _ e => emptyFunction e }

/-- The index and the arguments go to the entry point for that many arguments. -/
def simple : Template where
  opening _ := ["#include \"simpletrace.h\""]
  fragment ctx e :=
    let casts := String.join (e.argNames.map fun name => s!", (uint64_t)(uintptr_t){name}")
    [signature e, "\x7b", s!"    trace{e.argCount}({ctx.index}{casts});", "\x7d"]
  numbered := true
  tellsIndex := true
  closing ctx :=
    [s!"#define NR_TRACE_EVENTS {ctx.index}", "extern TraceEvent trace_list[NR_TRACE_EVENTS];"]

/-- An event prints itself if its entry in the table is switched on. -/
def stderr : Template where
  opening _ :=
    ["#include <stdio.h>", "#include \"trace/stderr.h\"", "", "extern TraceEvent trace_list[];"]
  fragment ctx e :=
    [signature e, "\x7b",
      s!"    if (trace_list[{ctx.index}].state != 0) \x7b",
      s!"        fprintf(stderr, \"{e.name} {e.format}\\n\"{e.furtherArgs});",
      "    \x7d", "\x7d"]
  numbered := true
  tellsIndex := true
  closing ctx := [s!"#define NR_TRACE_EVENTS {ctx.index}"]

/-- Macros of the tracing library's headers that clash with the program's own names. -/
def undefinedMacros : List String :=
  ["mutex_lock", "mutex_unlock", "inline", "wmb"].map fun name => s!"#undef {name}"

def ust : Template where
  opening _ := "#include <ust/tracepoint.h>" :: undefinedMacros
  fragment _ e :=
    [s!"DECLARE_TRACE(ust_{e.name}, TP_PROTO({e.args}), TP_ARGS({e.callArgs}));",
      s!"#define trace_{e.name} trace_ust_{e.name}"]

def upper (s : String) : String := String.ofList (Text.upper s.toList)

/-- The macro that fires the probe of an event. -/
def probeMacro (ctx : Context) (e : Event) : String :=
  let provider := upper ctx.provider.text
  let event := upper e.name
  s!"{provider}_{event}"

def dtrace : Template where
  opening _ := ["#include \"trace-dtrace.h\""]
  fragment ctx e :=
    let fire := probeMacro ctx e
    [signature e ++ " \x7b", s!"    if ({fire}_ENABLED()) \x7b",
      s!"        {fire}({e.callArgs});", "    \x7d", "\x7d"]
  obstacle? ctx :=
    match ctx.provider with
    | .str _ => none
    | other => some (.misuse (.unable other.typeName "upper"))

def template : Backend → Template
  | .nop => nop
  | .simple => simple
  | .stderr => stderr
  | .ust => ust
  | .dtrace => dtrace

end Tracepoint.Header
