import Tracepoint.Template.Header

namespace Tracepoint.Source

/-- The table that holds the state of every event, in the order of the indices. -/
def eventTable : Template where
  opening _ := ["#include \"trace.h\"", "", "TraceEvent trace_list[] = \x7b"]
  fragment _ e := [s!"\x7b.tp_name = \"{e.name}\", .state=0\x7d,"]
  numbered := true
  closing _ := ["\x7d;"]

def register (name : String) : String := s!"    register_trace_ust_{name}(ust_{name}_probe);"

def ust : Template where
  opening _ := "#include <ust/marker.h>" :: Header.undefinedMacros ++ ["#include \"trace.h\""]
  fragment _ e :=
    [s!"DEFINE_TRACE(ust_{e.name});", "",
      s!"static void ust_{e.name}_probe({e.args})", "\x7b",
      s!"    trace_mark(ust, {e.name}, \"{e.format}\"{e.furtherArgs});", "\x7d"]
  registers := true
  closing ctx :=
    ["static void __attribute__((constructor)) trace_init(void)", "\x7b"] ++
      ctx.names.map register ++ ["\x7d"]

def template : Backend → Template
  | .nop | .dtrace => {}
  | .simple | .stderr => eventTable
  | .ust => ust

end Tracepoint.Source
