import Tracepoint.Proofs.Pass

namespace Tracepoint

namespace Header

/-- An event's function for `simple`: number and arguments go to the entry point. -/
def recordFunction (n : Nat) (e : Event) : List String :=
  let casts := String.join (e.argNames.map fun name => s!", (uint64_t)(uintptr_t){name}")
  [functionHead e.name e.args, "\x7b", s!"    trace{e.argNames.length}({n}{casts});", "\x7d"]

/-- An event's function for `stderr`: it prints if the entry of that number is switched on. -/
def printFunction (n : Nat) (e : Event) : List String :=
  let args := String.join (e.argNames.map fun name => s!", {name}")
  [functionHead e.name e.args, "\x7b", s!"    if (trace_list[{n}].state != 0) \x7b",
    s!"        fprintf(stderr, \"{e.name} {e.format}\\n\"{args});", "    \x7d", "\x7d"]

end Header

namespace Source

def entry (e : Event) : String := s!"\x7b.tp_name = \"{e.name}\", .state=0\x7d,"

def tableStart : List String := ["#include \"trace.h\"", "", "TraceEvent trace_list[] = \x7b"]

def tableEnd : String := "\x7d;"

theorem head?_entry (e : Event) : (entry e).toList.head? = some '\x7b' := by
  simp [entry, ToString.toString]

theorem entry_ne_empty (e : Event) : entry e ≠ "" := by
  intro h
  have hh := head?_entry e
  simp [h] at hh

theorem entry_ne_tableEnd (e : Event) : entry e ≠ tableEnd := by
  intro h
  have hh := head?_entry e
  simp [h, tableEnd] at hh

/-- The lines of the table, each entry behind a separator, which an event that is switched off
leaves alone. -/
def table (es : List Event) : List String :=
  es.flatMap fun e => "" :: if e.disabled then [] else [entry e]

theorem eventTable_body (ctx : Context) (es : List Event) :
    eventTable.body {} ctx es = table es := by
  rw [Template.body, Template.fragments_of_constant (fun _ => rfl) (fun _ => rfl), List.flatMap_map]
  rfl

theorem filter_table (es : List Event) :
    (table es).filter (· != "") = (es.filter fun e => !e.disabled).map entry := by
  induction es with
  | nil => rfl
  | cons e es ih =>
    have ht : table (e :: es) = "" :: (if e.disabled then [] else [entry e]) ++ table es := by
      simp [table]
    cases he : e.disabled <;> simp [ht, he, entry_ne_empty, ih]

/-- The end of a table can be told from its entries. -/
theorem tableEnd_notMem_table (es : List Event) : tableEnd ∉ table es := by
  intro hm
  have hf : tableEnd ∈ (table es).filter (· != "") := List.mem_filter.mpr ⟨hm, by decide⟩
  rw [filter_table] at hf
  obtain ⟨e, -, he⟩ := List.mem_map.mp hf
  exact entry_ne_tableEnd e he

end Source

/-- The context behind a pass that numbers the events and starts to count at zero. -/
def Context.counted (ctx : Context) (lines : List String) : Context :=
  { ctx with index := (enabledEvents lines).length, names := [] }

/-- A header whose functions bear numbers: the n-th event that is not switched off is rendered by
`function n`, and the others by functions that do nothing. -/
def HeaderNumbered (function : Nat → Event → List String) (opening closing : List String)
    (lines header : List String) : Prop :=
  ∃ fragments : List (List String),
    fragments.length = (readEvents lines).length ∧
    header = opening ++ (fragments.flatMap fun fragment => "" :: fragment) ++
      "" :: s!"#define NR_TRACE_EVENTS {(enabledEvents lines).length}" :: closing ∧
    ((readEvents lines).zip fragments).filter (fun p => !p.1.disabled) =
      (enabledEvents lines).zipIdx.map (fun p => (p.1, function p.2 p.1)) ∧
    ∀ p ∈ (readEvents lines).zip fragments, p.1.disabled = true → p.2 = Header.idleFunction p.1

/-- A source with one entry for every event that is not switched off, in their order. -/
def SourceTabled (lines source : List String) : Prop :=
  ∃ table : List String,
    source = Source.tableStart ++ table ++ [Source.tableEnd] ∧ Source.tableEnd ∉ table ∧
    table.filter (· != "") = (enabledEvents lines).map Source.entry

/-- What header and source of one backend have in common, whatever the contexts they start from. -/
structure OrdinalsAgree (b : Backend) (function : Nat → Event → List String)
    (opening closing : List String) (ctx ctx' : Context) (lines : List String) : Prop where
  header : ∃ text, (convert b .header ctx (.ofLines lines)).result = .ok text ∧
    HeaderNumbered function opening closing lines text
  source : ∃ text, (convert b .source ctx' (.ofLines lines)).result = .ok text ∧
    SourceTabled lines text
  headerContext : (convert b .header ctx (.ofLines lines)).context = ctx.counted lines
  sourceContext : (convert b .source ctx' (.ofLines lines)).context = ctx'.counted lines

/-- A template of a header that starts to count at zero and gives every event the next number. -/
structure NumbersEvents (t : Template) (function : Nat → Event → List String)
    (opening closing : List String) : Prop where
  starts : ∀ ctx, t.Starts ctx
  obstacle : ∀ ctx, t.obstacle? ctx = none
  clears : t.clears = true
  numbered : t.numbered = true
  registers : t.registers = false
  opens : ∀ ctx, t.opening ctx = opening
  fragment : ∀ (ctx : Context) (n : Nat), t.fragment { ctx with index := n } = function n
  closes : ∀ (ctx : Context) (n : Nat),
    t.closing { ctx with index := n } = s!"#define NR_TRACE_EVENTS {n}" :: closing

theorem simple_numbersEvents :
    NumbersEvents Header.simple Header.recordFunction ["#include \"simpletrace.h\""]
      ["extern TraceEvent trace_list[NR_TRACE_EVENTS];"] :=
  ⟨fun _ => ⟨rfl, rfl⟩, fun _ => rfl, rfl, rfl, rfl, fun _ => rfl, fun _ _ => rfl, fun _ _ => rfl⟩

theorem stderr_numbersEvents :
    NumbersEvents Header.stderr Header.printFunction
      ["#include <stdio.h>", "#include \"trace/stderr.h\"", "", "extern TraceEvent trace_list[];"]
      [] :=
  ⟨fun _ => ⟨rfl, rfl⟩, fun _ => rfl, rfl, rfl, rfl, fun _ => rfl, fun _ _ => rfl, fun _ _ => rfl⟩

theorem convert_header_numbered {b : Backend} {function : Nat → Event → List String}
    {opening closing : List String}
    (h : NumbersEvents (Header.template b) function opening closing) (ctx : Context)
    (lines : List String) :
    (∃ text, (convert b .header ctx (.ofLines lines)).result = .ok text ∧
      HeaderNumbered function opening closing lines text) ∧
    (convert b .header ctx (.ofLines lines)).context = ctx.counted lines := by
  have hbegun : (Header.template b).begun ctx = { ctx.reset with index := (0 : Nat) } := by
    simp [Template.begun, h.clears, Context.reset]
  have hpassed : (Header.template b).passed (enabledEvents lines) ((Header.template b).begun ctx) =
      { ctx.reset with index := (enabledEvents lines).length } := by
    simp [Template.passed, hbegun, h.numbered, h.registers]
  rw [convert_ofLines rfl (h.starts ctx) lines (.inl (h.obstacle _))]
  refine ⟨⟨_, rfl, (Header.template b).fragments (.off .header) ((Header.template b).begun ctx)
    (readEvents lines), Template.length_fragments .., ?_, ?_, ?_⟩, hpassed⟩
  · simp only [hpassed, h.closes, h.opens, Template.body]
  · rw [hbegun, Template.zip_fragments_numbered (Template.off_isStill _) h.numbered h.registers]
    simp only [h.fragment, enabledEvents]
  · exact Template.zip_fragments_disabled _ _ _ Header.fragment_nop

/-- Every backend that has an event table writes it in the same way. -/
theorem convert_eventTable {b : Backend} (ht : Source.template b = Source.eventTable)
    (ctx : Context) (lines : List String) :
    (convert b .source ctx (.ofLines lines)).result =
      .ok (Source.tableStart ++ (Source.table (readEvents lines) ++ [""]) ++ [Source.tableEnd]) ∧
    (convert b .source ctx (.ofLines lines)).context = ctx.counted lines := by
  have hb : b.template .source = .ok Source.eventTable := congrArg Except.ok ht
  rw [convert_ofLines hb ⟨rfl, rfl⟩ lines (.inl rfl)]
  constructor
  · simp only [Template.off, Source.eventTable_body, List.append_assoc]
    rfl
  · simp [Template.passed, Template.begun, Source.eventTable, Context.reset, Context.counted]

theorem sourceTabled_table (lines : List String) :
    SourceTabled lines
      (Source.tableStart ++ (Source.table (readEvents lines) ++ [""]) ++ [Source.tableEnd]) := by
  refine ⟨_, rfl, ?_, ?_⟩
  · have he : Source.tableEnd ≠ "" := by decide
    simp [Source.tableEnd_notMem_table, he]
  · simp [Source.filter_table, enabledEvents]

/-- Header and source agree on the numbers, for both backends that have an event table, and so do
the tables of the two. -/
theorem ordinals_agree (ctx ctx' : Context) (lines : List String) :
    OrdinalsAgree .simple Header.recordFunction ["#include \"simpletrace.h\""]
      ["extern TraceEvent trace_list[NR_TRACE_EVENTS];"] ctx ctx' lines ∧
    OrdinalsAgree .stderr Header.printFunction
      ["#include <stdio.h>", "#include \"trace/stderr.h\"", "", "extern TraceEvent trace_list[];"]
      [] ctx ctx' lines ∧
    (convert .simple .source ctx (.ofLines lines)).result =
      (convert .stderr .source ctx' (.ofLines lines)).result := by
  have hsimple := convert_header_numbered (b := .simple) simple_numbersEvents ctx lines
  have hstderr := convert_header_numbered (b := .stderr) stderr_numbersEvents ctx lines
  have htable (b : Backend) (ht : Source.template b = Source.eventTable) (c : Context) :=
    convert_eventTable ht c lines
  have hs := sourceTabled_table lines
  refine ⟨⟨hsimple.1, ⟨_, (htable .simple rfl ctx').1, hs⟩, hsimple.2, (htable .simple rfl ctx').2⟩,
    ⟨hstderr.1, ⟨_, (htable .stderr rfl ctx').1, hs⟩, hstderr.2, (htable .stderr rfl ctx').2⟩, ?_⟩
  rw [(htable .simple rfl ctx).1, (htable .stderr rfl ctx').1]

end Tracepoint
