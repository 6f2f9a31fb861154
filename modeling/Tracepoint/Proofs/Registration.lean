import Mathlib
import Tracepoint.Proofs.Probes

namespace Tracepoint

namespace Header

/-- The macro gets the parameters as they are declared and the arguments as they are passed on. -/
def traceDeclaration (name parameters : String) (args : List String) : String :=
  let list := ", ".intercalate args
  s!"DECLARE_TRACE(ust_{name}, TP_PROTO({parameters}), TP_ARGS({list}));"

def traceBlock (e : Event) : List String :=
  [traceDeclaration e.name e.args e.argNames, s!"#define trace_{e.name} trace_ust_{e.name}"]

/-- Names of macros that clash with those of the program. -/
def undefinitions : List String :=
  ["#undef mutex_lock", "#undef mutex_unlock", "#undef inline", "#undef wmb"]

def ustStart : List String := "#include <ust/tracepoint.h>" :: undefinitions

/-- An event that is switched off has its empty function here. -/
def ustText (lines : List String) : List String :=
  ustStart ++ ((readEvents lines).flatMap fun e => "" :: stretch idleFunction traceBlock e) ++ [""]

end Header

namespace Source

def traceDefinition (name : String) : String := s!"DEFINE_TRACE(ust_{name});"

def probeHead (name parameters : String) : String :=
  s!"static void ust_{name}_probe({parameters})"

/-- The arguments of the event follow the format. -/
def markCall (name format : String) (args : List String) : String :=
  let list := ", ".intercalate (["ust", name, s!"\"{format}\""] ++ args)
  s!"    trace_mark({list});"

def probeBlock (e : Event) : List String :=
  [traceDefinition e.name, "", probeHead e.name e.args, "\x7b",
    markCall e.name e.format e.argNames, "\x7d"]

def ustStart : List String :=
  "#include <ust/marker.h>" :: Header.undefinitions ++ ["#include \"trace.h\""]

/-- A statement of the constructor registers one probe function. -/
def registration (name : String) : String := s!"    register_trace_ust_{name}(ust_{name}_probe);"

def constructorHead : String := "static void __attribute__((constructor)) trace_init(void)"

def constructor (names : List String) : List String :=
  [constructorHead, "\x7b"] ++ names.map registration ++ ["\x7d"]

/-- The constructor stands behind the probes and registers them. -/
def ustText (lines : List String) : List String :=
  ustStart ++ ((readEvents lines).flatMap fun e => "" :: stretch (fun _ => []) probeBlock e) ++
    [""] ++ constructor ((enabledEvents lines).map (·.name))

end Source

theorem Template.body_eq_stretches {enabled off : Template} {f g : Event → List String}
    (hf : ∀ ctx, enabled.fragment ctx = f) (hg : ∀ ctx, off.fragment ctx = g) (ctx : Context)
    (es : List Event) :
    enabled.body off ctx es = es.flatMap fun e => "" :: stretch g f e := by
  rw [body, fragments_of_constant hf hg, List.flatMap_map]
  rfl

theorem Header.convert_ust (ctx : Context) (lines : List String) :
    (convert .ust .header ctx (.ofLines lines)).result = .ok (ustText lines) := by
  have hbody : ust.body (.off .header) (ust.begun ctx) (readEvents lines) =
      (readEvents lines).flatMap fun e => "" :: stretch idleFunction traceBlock e :=
    Template.body_eq_stretches (fun _ => rfl) (fun _ => rfl) _ _
  rw [convert_ofLines (t := ust) rfl ⟨rfl, rfl⟩ lines (.inl rfl), hbody]
  rfl

namespace Source

theorem intercalate_cons (first : String) (args : List String) :
    ", ".intercalate (first :: args) =
      first ++ String.join (args.map fun arg => ", " ++ arg) := by
  induction args generalizing first with
  | nil => simp
  | cons arg args ih =>
    rw [String.intercalate_cons_cons, ih, List.map_cons, String.join_cons]
    simp only [String.append_assoc]

/-- The two ways of joining the arguments come to the same list. -/
theorem markCall_eq (e : Event) :
    s!"    trace_mark(ust, {e.name}, \"{e.format}\"{e.furtherArgs});" =
      markCall e.name e.format e.argNames := by
  have hlead : "    trace_mark(ust, " = "    trace_mark(" ++ "ust" ++ ", " := by decide
  have hquote : ", \"" = ", " ++ "\"" := by decide
  change "    trace_mark(ust, " ++ e.name ++ ", \"" ++ e.format ++ "\"" ++ e.furtherArgs ++ ");" =
    "    trace_mark(" ++
      ", ".intercalate ("ust" :: e.name :: ("\"" ++ e.format ++ "\"") :: e.argNames) ++ ");"
  rw [hlead, hquote, String.intercalate_cons_cons, String.intercalate_cons_cons, intercalate_cons]
  simp only [String.append_assoc]
  rfl

theorem fragment_ust (ctx : Context) : ust.fragment ctx = probeBlock := by
  funext e
  simp only [ust, probeBlock, ← markCall_eq]
  rfl

theorem convert_ust (ctx : Context) (lines : List String) :
    (convert .ust .source ctx (.ofLines lines)).result = .ok (ustText lines) := by
  have hbody : ust.body (.off .source) (ust.begun ctx) (readEvents lines) =
      (readEvents lines).flatMap fun e => "" :: stretch (fun _ => []) probeBlock e :=
    Template.body_eq_stretches fragment_ust (fun _ => rfl) _ _
  rw [convert_ofLines (t := ust) rfl ⟨rfl, rfl⟩ lines (.inl rfl), hbody]
  -- The pass starts with no names: those that it ends with are the names of its own events.
  change Except.ok (ustStart ++ _ ++ "" :: constructor ((enabledEvents lines).map (·.name))) = _
  rw [ustText, List.append_assoc _ [""], List.singleton_append]

end Source

/-- The lines of a text that begin with a mark. -/
def marked (mark : String) (text : List String) : List String :=
  text.filter fun line => mark.toList.isPrefixOf line.toList

theorem marked_append (mark : String) (text more : List String) :
    marked mark (text ++ more) = marked mark text ++ marked mark more := List.filter_append ..

/-- Whether a line has the mark shows in its lead already. -/
def tells (lead mark : String) : Bool :=
  !lead.toList.isPrefixOf mark.toList || mark.toList.isPrefixOf lead.toList

theorem isPrefixOf_of_tells {mark lead line : String}
    (hlead : lead.toList.isPrefixOf line.toList = true) (htells : tells lead mark = true) :
    mark.toList.isPrefixOf line.toList = mark.toList.isPrefixOf lead.toList := by
  rw [List.isPrefixOf_iff_prefix] at hlead
  rw [Bool.eq_iff_iff, List.isPrefixOf_iff_prefix, List.isPrefixOf_iff_prefix]
  constructor
  · intro hmark
    rw [tells, Bool.or_eq_true, Bool.not_eq_true', ← Bool.not_eq_true,
      List.isPrefixOf_iff_prefix, List.isPrefixOf_iff_prefix] at htells
    rcases htells with hnot | hshort
    · exact (List.prefix_or_prefix_of_prefix hmark hlead).resolve_right hnot
    · exact hshort
  · exact fun hmark => hmark.trans hlead

/-- What the lines begin with decides which of them have the mark. -/
theorem marked_of_leads {mark : String} {leads text : List String} {picks : List Bool}
    (hpicks : leads.map (fun lead => mark.toList.isPrefixOf lead.toList) = picks)
    (h : List.Forall₂ (fun lead line =>
      mark.toList.isPrefixOf line.toList = mark.toList.isPrefixOf lead.toList) leads text) :
    marked mark text = ((picks.zip text).filter (·.1)).map (·.2) := by
  subst hpicks
  induction h with
  | nil => rfl
  | cons hline _ ih =>
    rw [marked, List.filter_cons, hline, List.map_cons, List.zip_cons_cons, List.filter_cons]
    rw [marked] at ih
    split <;> simp [ih]

/-- The marked lines of a file that gives every event a stretch of its own. -/
theorem marked_stretches {mark : String} {off on marks : Event → List String}
    (hempty : marked mark [""] = []) (hoff : ∀ e, marked mark (off e) = [])
    (hon : ∀ e, marked mark (on e) = marks e) (lines : List String) :
    marked mark ((readEvents lines).flatMap fun e => "" :: stretch off on e) =
      (enabledEvents lines).flatMap marks := by
  have hone (e : Event) :
      marked mark ("" :: stretch off on e) = if e.disabled then [] else marks e := by
    rw [← List.singleton_append, marked_append, hempty, List.nil_append, stretch]
    split
    · exact hoff e
    · exact hon e
  rw [enabledEvents]
  induction readEvents lines with
  | nil => rfl
  | cons e es ih =>
    rw [List.flatMap_cons, marked_append, hone, ih]
    cases he : e.disabled <;> simp [he]

namespace Header

theorem marked_traceBlock (e : Event) :
    marked "DECLARE_TRACE(" (traceBlock e) = [traceDeclaration e.name e.args e.argNames] := by
  have hpicks : ["DECLARE_TRACE(ust_", "#define trace_"].map
      (fun lead => "DECLARE_TRACE(".toList.isPrefixOf lead.toList) = [true, false] := by decide
  refine marked_of_leads hpicks
    (.cons (isPrefixOf_of_tells ?_ (by decide)) (.cons (isPrefixOf_of_tells ?_ (by decide)) .nil))
  · exact isPrefixOf_append (isPrefixOf_append (isPrefixOf_append (isPrefixOf_append
      (isPrefixOf_append (isPrefixOf_append (isPrefixOf_self _) _) _) _) _) _) _
  · exact isPrefixOf_append (isPrefixOf_append (isPrefixOf_append (isPrefixOf_self _) _) _) _

theorem marked_idleFunction (e : Event) : marked "DECLARE_TRACE(" (idleFunction e) = [] := by
  have hpicks : ["static inline void trace_", "\x7b", "\x7d"].map
      (fun lead => "DECLARE_TRACE(".toList.isPrefixOf lead.toList) = [false, false, false] := by
    decide
  refine marked_of_leads hpicks
    (.cons (isPrefixOf_of_tells ?_ (by decide)) (.cons rfl (.cons rfl .nil)))
  exact isPrefixOf_append (isPrefixOf_append (isPrefixOf_append
    (isPrefixOf_append (isPrefixOf_self _) _) _) _) _

theorem marked_ustText (lines : List String) :
    marked "DECLARE_TRACE(" (ustText lines) =
      (enabledEvents lines).map fun e => traceDeclaration e.name e.args e.argNames := by
  have hbody := marked_stretches (by decide) marked_idleFunction marked_traceBlock lines
  have hstart : marked "DECLARE_TRACE(" ustStart = [] := by decide
  have hend : marked "DECLARE_TRACE(" [""] = [] := by decide
  rw [ustText, marked_append, marked_append, hstart, hbody, hend, List.append_nil, List.nil_append,
    List.map_eq_flatMap]

end Header

namespace Source

/-- What the lines of a probe begin with, whatever the event. -/
def probeLeads : List String :=
  ["DEFINE_TRACE(ust_", "", "static void ust_", "\x7b", "    trace_mark(", "\x7d"]

def registerLead : String := "    register_trace_ust_"

/-- Where the source has lines with a mark: in every probe those that are picked, `heads` where the
constructor starts, all registrations if `pick` says so, and nowhere else. -/
structure Shows (mark : String) (picks : List Bool) (heads : List String) (pick : Bool) :
    Prop where
  fixed : marked mark (ustStart ++ [""] ++ ["\x7d"]) = []
  tells : ∀ lead ∈ ["DEFINE_TRACE(ust_", "static void ust_", "    trace_mark(", registerLead],
    tells lead mark = true
  picks : probeLeads.map (fun lead => mark.toList.isPrefixOf lead.toList) = picks
  heads : marked mark [constructorHead, "\x7b"] = heads
  pick : mark.toList.isPrefixOf registerLead.toList = pick

namespace Shows

variable {mark : String} {picks : List Bool} {heads : List String} {pick : Bool}

theorem marked_probeBlock (h : Shows mark picks heads pick) (e : Event) :
    marked mark (probeBlock e) = ((picks.zip (probeBlock e)).filter (·.1)).map (·.2) := by
  apply marked_of_leads h.picks
  refine .cons (isPrefixOf_of_tells ?_ (h.tells _ (by simp))) (.cons rfl
    (.cons (isPrefixOf_of_tells ?_ (h.tells _ (by simp))) (.cons rfl
      (.cons (isPrefixOf_of_tells ?_ (h.tells _ (by simp))) (.cons rfl .nil)))))
  · exact isPrefixOf_append (isPrefixOf_append (isPrefixOf_self _) _) _
  · exact isPrefixOf_append (isPrefixOf_append (isPrefixOf_append
      (isPrefixOf_append (isPrefixOf_self _) _) _) _) _
  · exact isPrefixOf_append (isPrefixOf_append (isPrefixOf_self _) _) _

theorem marked_register (h : Shows mark picks heads pick) (names : List String) :
    marked mark (names.map registration) = if pick then names.map registration else [] := by
  have hlead (name : String) : registerLead.toList.isPrefixOf (registration name).toList = true :=
    isPrefixOf_append (isPrefixOf_append (isPrefixOf_append
      (isPrefixOf_append (isPrefixOf_self _) _) _) _) _
  have hline (name : String) : mark.toList.isPrefixOf (registration name).toList = pick :=
    (isPrefixOf_of_tells (hlead name) (h.tells _ (by simp))).trans h.pick
  induction names with
  | nil => simp [marked]
  | cons name names ih =>
    rw [marked] at ih
    rw [List.map_cons, marked, List.filter_cons, hline, ih]
    cases pick <;> rfl

theorem marked_ustText (h : Shows mark picks heads pick) (lines : List String) :
    marked mark (ustText lines) =
      ((enabledEvents lines).flatMap fun e =>
        ((picks.zip (probeBlock e)).filter (·.1)).map (·.2)) ++
      (heads ++ if pick then (enabledEvents lines).map (fun e => registration e.name) else []) := by
  have hfixed := h.fixed
  rw [marked_append, marked_append, List.append_eq_nil_iff, List.append_eq_nil_iff] at hfixed
  obtain ⟨⟨hstart, hempty⟩, hend⟩ := hfixed
  have hoff (e : Event) : marked mark ((fun _ => [] : Event → List String) e) = [] := rfl
  have hbody := marked_stretches hempty hoff h.marked_probeBlock lines
  rw [ustText, constructor, marked_append, marked_append, marked_append, marked_append,
    marked_append, hstart, hbody, hempty, h.heads, h.marked_register, hend, List.map_map,
    List.append_nil, List.append_nil, List.nil_append]
  rfl

/-- The mark of one line of every probe. -/
theorem marked_of_probe (h : Shows mark picks [] false) {line : Event → String}
    (hline : ∀ e, ((picks.zip (probeBlock e)).filter (·.1)).map (·.2) = [line e])
    (lines : List String) :
    marked mark (ustText lines) = (enabledEvents lines).map line := by
  rw [h.marked_ustText]
  simp only [hline, Bool.false_eq_true, if_false, List.append_nil]
  exact List.map_eq_flatMap.symm

/-- A mark that no line of a probe has. -/
theorem marked_of_constructor (h : Shows mark (List.replicate 6 false) heads pick)
    (lines : List String) :
    marked mark (ustText lines) =
      heads ++ if pick then (enabledEvents lines).map (fun e => registration e.name) else [] := by
  have hnone : ((enabledEvents lines).flatMap fun e =>
      (((List.replicate 6 false).zip (probeBlock e)).filter (·.1)).map (·.2)) = [] :=
    List.flatMap_eq_nil_iff.mpr fun _ _ => rfl
  rw [h.marked_ustText, hnone, List.nil_append]

end Shows

end Source

/-- What header, source and constructor have in common, whatever the contexts they start from. -/
structure ProbesRegistered (ctx ctx' : Context) (lines : List String) : Prop where
  header : (convert .ust .header ctx (.ofLines lines)).result = .ok (Header.ustText lines)
  source : (convert .ust .source ctx' (.ofLines lines)).result = .ok (Source.ustText lines)
  declared : marked "DECLARE_TRACE(" (Header.ustText lines) =
    (enabledEvents lines).map fun e => Header.traceDeclaration e.name e.args e.argNames
  defined : marked "DEFINE_TRACE(" (Source.ustText lines) =
    (enabledEvents lines).map fun e => Source.traceDefinition e.name
  probes : marked "static void ust_" (Source.ustText lines) =
    (enabledEvents lines).map fun e => Source.probeHead e.name e.args
  calls : marked "    trace_mark(" (Source.ustText lines) =
    (enabledEvents lines).map fun e => Source.markCall e.name e.format e.argNames
  registered : marked "    register_trace_" (Source.ustText lines) =
    (enabledEvents lines).map fun e => Source.registration e.name
  constructors : marked "static void __attribute__((constructor))" (Source.ustText lines) =
    [Source.constructorHead]

theorem probesRegistered (ctx ctx' : Context) (lines : List String) :
    ProbesRegistered ctx ctx' lines where
  header := Header.convert_ust ctx lines
  source := Source.convert_ust ctx' lines
  declared := Header.marked_ustText lines
  defined := by
    have h : Source.Shows "DEFINE_TRACE(" [true, false, false, false, false, false] [] false := by
      constructor <;> decide
    exact h.marked_of_probe (fun _ => rfl) lines
  probes := by
    have h : Source.Shows "static void ust_" [false, false, true, false, false, false] [] false :=
      by constructor <;> decide
    exact h.marked_of_probe (fun _ => rfl) lines
  calls := by
    have h : Source.Shows "    trace_mark(" [false, false, false, false, true, false] [] false := by
      constructor <;> decide
    exact h.marked_of_probe (fun _ => rfl) lines
  registered := by
    have h : Source.Shows "    register_trace_" (List.replicate 6 false) [] true := by
      constructor <;> decide
    exact h.marked_of_constructor lines
  constructors := by
    have h : Source.Shows "static void __attribute__((constructor))" (List.replicate 6 false)
        [Source.constructorHead] false := by
      constructor <;> decide
    exact h.marked_of_constructor lines

end Tracepoint
