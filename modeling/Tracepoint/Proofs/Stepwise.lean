import Mathlib
import Tracepoint.Proofs.Pass
import Tracepoint.Proofs.Text.Words
import Tracepoint.Session

namespace Tracepoint

open Text

/-- The lines that a step gives. -/
def Outcome.lines (o : Outcome) : Except Fault (List String) := do
  match ← o.answer with
  | .lines lines => return lines
  | .index _ | .nothing => return []

theorem Outcome.lines_mk (lines : List String) (ctx : Context) (log : List Record) :
    Outcome.lines ⟨.ok (.lines lines), ctx, log⟩ = .ok lines := rfl

/-- Of a step only the answer depends on whether the index can be written. -/
theorem Step.context_outcome (s : Step) (ctx : Context) :
    (s.outcome ctx).context = (s.inPass ctx).context := by
  cases hindex : ctx.indexObstacle? with
  | none => simp only [outcome, hindex]
  | some obstacle =>
    simp only [outcome, hindex]
    split <;> rfl

theorem Step.outcome_of_not_tellsIndex {s : Step} (h : s.tellsIndex = false) (ctx : Context) :
    s.outcome ctx = s.inPass ctx := by
  cases hindex : ctx.indexObstacle? <;> simp [outcome, hindex, h]

theorem Step.outcome_of_index {ctx : Context} (h : ctx.indexObstacle? = none) (s : Step) :
    s.outcome ctx = s.inPass ctx := by
  simp only [outcome, h]

/-- The lines of some steps, each behind an empty one, up to the first step that fails. -/
def stepLines (ctx : Context) : List Step → Except Fault (List String)
  | [] => return []
  | s :: steps => do
    let fragment ← (s.inPass ctx).lines
    let later ← stepLines (s.inPass ctx).context steps
    return "" :: fragment ++ later

def contextAfter (ctx : Context) (steps : List Step) : Context :=
  steps.foldl (fun ctx s => (s.outcome ctx).context) ctx

theorem contextAfter_cons (ctx : Context) (s : Step) (steps : List Step) :
    contextAfter ctx (s :: steps) = contextAfter (s.inPass ctx).context steps :=
  congrArg (contextAfter · steps) (s.context_outcome ctx)

theorem contextAfter_append (ctx : Context) (steps more : List Step) :
    contextAfter ctx (steps ++ more) = contextAfter (contextAfter ctx steps) more :=
  List.foldl_append

theorem stepLines_append (ctx : Context) (steps more : List Step) :
    stepLines ctx (steps ++ more) = (do
      let lines ← stepLines ctx steps
      let later ← stepLines (contextAfter ctx steps) more
      return lines ++ later) := by
  induction steps generalizing ctx with
  | nil => simp [stepLines, contextAfter]
  | cons s steps ih => simp [stepLines, contextAfter_cons, ih]

/-- An event that is switched off is left to `nop`. -/
def eventStep (b : Backend) (k : Kind) (e : Event) : Step :=
  .event (if e.disabled then Backend.nop else b).name k.flag e

def passSteps (b : Backend) (k : Kind) (es : List Event) : List Step :=
  .opening b.name k.flag :: (es.map (eventStep b k) ++ [.closing b.name k.flag])

/-- What a pass gives whose steps are taken one after the other. -/
def passLines (b : Backend) (k : Kind) (ctx : Context) (es : List Event) :
    Except Fault (List String) := do
  let o := (Step.opening b.name k.flag).inPass ctx
  let opening ← o.lines
  let later ← stepLines o.context (es.map (eventStep b k) ++ [.closing b.name k.flag])
  return opening ++ later

/-- The opening of a pass succeeds. -/
def Begins (b : Backend) (k : Kind) (ctx : Context) : Prop :=
  ∃ answer, ((Step.opening b.name k.flag).outcome ctx).answer = .ok answer

variable {b : Backend} {k : Kind} {t : Template} {ctx : Context}

theorem resolveTemplate_name_flag (b : Backend) (k : Kind) :
    resolveTemplate b.name k.flag = (b.template k).mapError .failure := by
  simp [resolveTemplate, resolve_name_flag, bind, Except.bind]

theorem resolveTemplate_ok (ht : b.template k = .ok t) : resolveTemplate b.name k.flag = .ok t := by
  rw [resolveTemplate_name_flag, ht]
  rfl

theorem Outcome.ofTemplate_ok (ht : b.template k = .ok t) (ctx : Context)
    (act : Template → Except Fault (List String) × Context) :
    ofTemplate ctx b.name k.flag act = ⟨(act t).1.map .lines, (act t).2, []⟩ := by
  rw [ofTemplate, resolveTemplate_ok ht]

theorem inPass_opening (ht : b.template k = .ok t) (hstarts : t.Starts ctx) :
    (Step.opening b.name k.flag).inPass ctx =
      ⟨.ok (.lines (t.opening (t.begun ctx))), t.begun ctx, []⟩ := by
  rw [Step.inPass, Outcome.ofTemplate_ok ht, Template.start_eq hstarts]
  rfl

theorem inPass_closing (ht : b.template k = .ok t) (ctx : Context) :
    (Step.closing b.name k.flag).inPass ctx = ⟨.ok (.lines (t.closing ctx)), ctx, []⟩ := by
  rw [Step.inPass, Outcome.ofTemplate_ok ht]
  rfl

theorem inPass_event (ht : b.template k = .ok t) (ho : t.obstacle? ctx = none) (e : Event) :
    (Step.event b.name k.flag e).inPass ctx =
      ⟨.ok (.lines (t.fragment ctx e)), t.advance e ctx, []⟩ := by
  rw [Step.inPass, Outcome.ofTemplate_ok ht]
  simp [Template.line, ho, Except.map]

theorem inPass_event_of_obstacle (ht : b.template k = .ok t) {fault : Fault}
    (ho : t.obstacle? ctx = some fault) (e : Event) :
    (Step.event b.name k.flag e).inPass ctx = ⟨.error fault, t.advance e ctx, []⟩ := by
  rw [Step.inPass, Outcome.ofTemplate_ok ht]
  simp [Template.line, ho, Except.map]

theorem inPass_eventStep_disabled {e : Event} (he : e.disabled = true) (ctx : Context) :
    (eventStep b k e).inPass ctx = ⟨.ok (.lines ((Template.off k).fragment ctx e)), ctx, []⟩ := by
  have ho : (Template.off k).obstacle? ctx = none := by cases k <;> rfl
  have hstep := inPass_event (Template.nop_template k) ho e
  rw [Template.advance_of_isStill (Template.off_isStill k)] at hstep
  simpa [eventStep, he] using hstep

theorem eventStep_enabled {e : Event} (he : e.disabled = false) :
    eventStep b k e = .event b.name k.flag e := by
  simp [eventStep, he]

theorem answer_opening (ht : b.template k = .ok t) (ctx : Context) :
    ((Step.opening b.name k.flag).outcome ctx).answer = (t.start ctx).1.map .lines := by
  rw [Step.outcome_of_not_tellsIndex rfl, Step.inPass, Outcome.ofTemplate_ok ht]

theorem begins_iff : Begins b k ctx ↔ ∃ t, b.template k = .ok t ∧ t.Starts ctx := by
  constructor
  · rintro ⟨answer, h⟩
    cases ht : b.template k with
    | error f =>
      rw [Step.outcome_of_not_tellsIndex rfl, Step.inPass, Outcome.ofTemplate,
        resolveTemplate_name_flag, ht] at h
      cases h
    | ok t =>
      rcases t.starts_or_fails ctx with hstarts | ⟨fault, hstart⟩
      · exact ⟨t, rfl, hstarts⟩
      · rw [answer_opening ht, hstart] at h
        cases h
  · rintro ⟨t, ht, hstarts⟩
    exact ⟨_, (answer_opening ht ctx).trans (by rw [Template.start_eq hstarts]; rfl)⟩

/-- A conversion that does not begin comes to what its opening comes to. -/
theorem convert_of_not_begins (h : ¬Begins b k ctx) (input : Input) :
    (∃ fault, (convert b k ctx input).result = .error fault ∧
      ((Step.opening b.name k.flag).outcome ctx).answer = .error fault) ∧
      (convert b k ctx input).context = ((Step.opening b.name k.flag).outcome ctx).context := by
  rw [Step.outcome_of_not_tellsIndex rfl, Step.inPass]
  cases ht : b.template k with
  | error f =>
    rw [convert_of_template_error ht, Outcome.ofTemplate, resolveTemplate_name_flag, ht]
    exact ⟨⟨_, rfl, rfl⟩, rfl⟩
  | ok t =>
    rcases t.starts_or_fails ctx with hstarts | ⟨fault, hstart⟩
    · exact absurd (begins_iff.mpr ⟨t, ht, hstarts⟩) h
    · rw [convert_of_start_error ht hstart, Outcome.ofTemplate_ok ht, hstart]
      exact ⟨⟨_, rfl, rfl⟩, rfl⟩

/-- The steps of events that can be written are the walk over them. -/
theorem steps_of_writes (ht : b.template k = .ok t) (es : List Event) :
    ∀ {ctx : Context}, t.Writes ctx es →
      stepLines ctx (es.map (eventStep b k)) = .ok (t.body (.off k) ctx es) ∧
        contextAfter ctx (es.map (eventStep b k)) =
          t.passed (es.filter fun e => !e.disabled) ctx := by
  induction es with
  | nil =>
    intro ctx _
    exact ⟨rfl, (Template.passed_nil t ctx).symm⟩
  | cons e es ih =>
    intro ctx hw
    rw [List.map_cons, stepLines, contextAfter_cons]
    cases he : e.disabled with
    | true =>
      have hfilter : (e :: es).filter (fun e => !e.disabled) = es.filter fun e => !e.disabled := by
        simp [he]
      have hrest : t.Writes ctx es := by rwa [Template.Writes, hfilter] at hw
      obtain ⟨hlines, hcontext⟩ := ih hrest
      have hstill := Template.advance_of_isStill (Template.off_isStill k) e ctx
      rw [inPass_eventStep_disabled he, hlines, hcontext, hfilter,
        Template.body_cons_disabled _ _ _ he, hstill]
      exact ⟨rfl, rfl⟩
    | false =>
      have hfilter : (e :: es).filter (fun e => !e.disabled) =
          e :: es.filter fun e => !e.disabled := by
        simp [he]
      have ho : t.obstacle? ctx = none := by simpa [Template.Writes, hfilter] using hw
      have hadvance : t.obstacle? (t.advance e ctx) = t.obstacle? ctx :=
        Template.obstacle_congr ht rfl rfl rfl
      obtain ⟨hlines, hcontext⟩ := ih (.inl (hadvance.trans ho))
      rw [eventStep_enabled he, inPass_event ht ho, hlines, hcontext, hfilter,
        Template.body_cons_enabled _ _ _ he, Template.passed_cons]
      exact ⟨rfl, rfl⟩

theorem stepLines_of_obstacle (ht : b.template k = .ok t) {fault : Fault}
    (ho : t.obstacle? ctx = some fault) {es : List Event}
    (hne : es.filter (fun e => !e.disabled) ≠ []) :
    stepLines ctx (es.map (eventStep b k)) = .error fault := by
  induction es with
  | nil => exact absurd rfl hne
  | cons e es ih =>
    rw [List.map_cons, stepLines]
    cases he : e.disabled with
    | true =>
      have hrest := ih (by simpa [he] using hne)
      rw [inPass_eventStep_disabled he, hrest]
      rfl
    | false =>
      rw [eventStep_enabled he, inPass_event_of_obstacle ht ho]
      rfl

theorem contextAfter_of_obstacle (ht : b.template k = .ok t) {fault : Fault}
    (ho : t.obstacle? ctx = some fault) (es : List Event) :
    contextAfter ctx (es.map (eventStep b k)) = ctx := by
  induction es with
  | nil => rfl
  | cons e es ih =>
    rw [List.map_cons, contextAfter_cons]
    cases he : e.disabled with
    | true => rw [inPass_eventStep_disabled he, ih]
    | false =>
      have hstill := Template.isStill_of_obstacle ht ho
      rw [eventStep_enabled he, inPass_event_of_obstacle ht ho, Template.advance_of_isStill hstill,
        ih]

theorem contextAfter_closing (ht : b.template k = .ok t) (ctx : Context) :
    contextAfter ctx [.closing b.name k.flag] = ctx := by
  rw [contextAfter_cons, inPass_closing ht]
  rfl

theorem contextAfter_passSteps (ht : b.template k = .ok t) (hstarts : t.Starts ctx)
    (es : List Event) :
    contextAfter ctx (passSteps b k es) = contextAfter (t.begun ctx) (es.map (eventStep b k)) := by
  rw [passSteps, contextAfter_cons, inPass_opening ht hstarts, contextAfter_append,
    contextAfter_closing ht]

theorem passLines_eq (ht : b.template k = .ok t) (hstarts : t.Starts ctx)
    (es : List Event) :
    passLines b k ctx es = (do
      let lines ← stepLines (t.begun ctx) (es.map (eventStep b k))
      let behind := contextAfter (t.begun ctx) (es.map (eventStep b k))
      return t.opening (t.begun ctx) ++ lines ++ "" :: t.closing behind) := by
  rw [passLines, inPass_opening ht hstarts, Outcome.lines_mk, stepLines_append]
  cases stepLines (t.begun ctx) (es.map (eventStep b k)) with
  | error fault => rfl
  | ok lines =>
    rw [stepLines, inPass_closing ht, Outcome.lines_mk]
    simp [stepLines, bind, Except.bind, pure, Except.pure]

theorem intercalate_empty (first : List String) (more : List (List String)) :
    [""].intercalate (first :: more) = first ++ more.flatMap fun lines => "" :: lines := by
  induction more generalizing first with
  | nil => simp
  | cons next more ih => rw [List.intercalate_cons_cons, ih, List.flatMap_cons]; simp

/-- Where every step can write its index, the lines are those of a session. -/
theorem stepLines_eq_session {steps : List Step} (ctx : Context)
    (h : ∀ (n : Nat) (s : Step), steps[n]? = some s →
      s.outcome (contextAfter ctx (steps.take n)) = s.inPass (contextAfter ctx (steps.take n))) :
    stepLines ctx steps = (do
      let pieces ← (runSession ctx steps).mapM Outcome.lines
      return pieces.flatMap fun piece => "" :: piece) := by
  induction steps generalizing ctx with
  | nil => rfl
  | cons s steps ih =>
    have hfirst : s.outcome ctx = s.inPass ctx := h 0 s rfl
    have hrest := ih (s.inPass ctx).context fun n s' hs' => by
      have hlater := h (n + 1) s' hs'
      rwa [List.take_succ_cons, contextAfter_cons] at hlater
    rw [stepLines, hrest, runSession, hfirst, List.mapM_cons]
    simp only [bind_assoc, pure_bind, List.flatMap_cons]

theorem tellsIndex_event (ht : b.template k = .ok t) (e : Event) :
    (Step.event b.name k.flag e).tellsIndex = t.tellsIndex := by
  rw [Step.tellsIndex, resolveTemplate_ok ht]

theorem tellsIndex_closing (ht : b.template k = .ok t) :
    (Step.closing b.name k.flag).tellsIndex = t.tellsIndex := by
  rw [Step.tellsIndex, resolveTemplate_ok ht]

/-- The index is told by files that number their events from zero on. -/
theorem Template.of_tellsIndex (ht : b.template k = .ok t) (h : t.tellsIndex = true) :
    k = .header ∧ (b = .simple ∨ b = .stderr) ∧ t = Header.template b := by
  rcases Backend.template_cases ht with
    ⟨rfl, rfl⟩ | ⟨-, rfl⟩ | ⟨-, -, rfl⟩ | ⟨-, -, rfl⟩ | ⟨-, -, -, rfl⟩
  · refine ⟨rfl, ?_, rfl⟩
    cases b with
    | simple => exact .inl rfl
    | stderr => exact .inr rfl
    | _ => cases h
  · cases b <;> cases h
  · cases h
  · cases h
  · cases h

theorem index_contextAfter (ht : b.template k = .ok t) (h : t.tellsIndex = true) (ctx : Context)
    (es : List Event) :
    (contextAfter (t.begun ctx) (es.map (eventStep b k))).index =
      (es.filter fun e => !e.disabled).length := by
  obtain ⟨rfl, hb, rfl⟩ := Template.of_tellsIndex ht h
  rcases hb with rfl | rfl
  · rw [(steps_of_writes ht es (.inl rfl)).2]
    simp [Template.passed, Template.begun, Header.template, Header.simple, Context.reset]
  · rw [(steps_of_writes ht es (.inl rfl)).2]
    simp [Template.passed, Template.begun, Header.template, Header.stderr, Context.reset]

/-- The index of a pass counts its events, so that its steps can write it. -/
theorem outcome_eq_inPass (ht : b.template k = .ok t) (ctx : Context) {es : List Event}
    (hfew : (es.filter fun e => !e.disabled).length < Value.numberLimit) {n : Nat} {s : Step}
    (hs : (es.map (eventStep b k) ++ [Step.closing b.name k.flag])[n]? = some s) :
    let before := contextAfter (t.begun ctx)
      ((es.map (eventStep b k) ++ [Step.closing b.name k.flag]).take n)
    s.outcome before = s.inPass before := by
  cases htells : t.tellsIndex with
  | false =>
    refine Step.outcome_of_not_tellsIndex ?_ _
    rcases List.mem_append.mp (List.mem_of_getElem? hs) with hmem | hmem
    · obtain ⟨e, -, rfl⟩ := List.mem_map.mp hmem
      cases he : e.disabled with
      | true =>
        have hoff : (Template.off k).tellsIndex = false := by cases k <;> rfl
        simpa [eventStep, he, hoff] using tellsIndex_event (Template.nop_template k) e
      | false => rw [eventStep_enabled he, tellsIndex_event ht, htells]
    · rw [List.mem_singleton.mp hmem, tellsIndex_closing ht, htells]
  | true =>
    have hclosing (c : Context) (m : Nat) :
        contextAfter c (([.closing b.name k.flag] : List Step).take m) = c := by
      cases m with
      | zero => rfl
      | succ m => simpa using contextAfter_closing ht c
    have hle := ((List.take_sublist n es).filter fun e => !e.disabled).length_le
    refine Step.outcome_of_index ?_ s
    rw [List.take_append, ← List.map_take, contextAfter_append, hclosing, Context.indexObstacle?_eq,
      index_contextAfter ht htells, if_pos (by omega)]

/-- A pass whose events can be numbered is a session on its context. -/
theorem passLines_eq_session (ht : b.template k = .ok t) (hstarts : t.Starts ctx) {es : List Event}
    (hfew : (es.filter fun e => !e.disabled).length < Value.numberLimit) :
    passLines b k ctx es = (do
      let pieces ← (runSession ctx (passSteps b k es)).mapM Outcome.lines
      return [""].intercalate pieces) := by
  have hopening := Step.outcome_of_not_tellsIndex (s := .opening b.name k.flag) rfl ctx
  have hlater := stepLines_eq_session _ fun n s hs => outcome_eq_inPass ht ctx hfew hs
  rw [passLines, passSteps, runSession, hopening, inPass_opening ht hstarts, hlater,
    List.mapM_cons]
  simp [intercalate_empty]

/-- The one pass over the lines and the steps of their events come to the same, also where an event
cannot be written. -/
theorem convert_eq_steps (h : Begins b k ctx) (lines : List String) :
    (convert b k ctx (.ofLines lines)).result = passLines b k ctx (readEvents lines) ∧
      (convert b k ctx (.ofLines lines)).context =
        contextAfter ctx (passSteps b k (readEvents lines)) := by
  obtain ⟨t, ht, hstarts⟩ := begins_iff.mp h
  rw [passLines_eq ht hstarts, contextAfter_passSteps ht hstarts]
  cases hhalt : t.halt? (t.begun ctx) lines with
  | none =>
    have hw := Template.halt?_eq_none_iff.mp hhalt
    obtain ⟨hlines, hcontext⟩ := steps_of_writes ht _ hw
    rw [convert_ofLines ht hstarts lines hw, hlines, hcontext]
    exact ⟨rfl, rfl⟩
  | some halt =>
    obtain ⟨n, fault⟩ := halt
    obtain ⟨ho, hne, -⟩ := Template.of_halt?_eq_some hhalt
    rw [convert_of_halt ht hstarts hhalt, stepLines_of_obstacle ht ho hne,
      contextAfter_of_obstacle ht ho]
    exact ⟨rfl, rfl⟩

/-- What is logged of an event that is switched off. -/
def skipRecord (name : String) : Record :=
  ⟨"tracetool.convert", .debug, s!"Event {name} is disabled, using nop renderer"⟩

/-- What is logged of a conversion as a whole. -/
def totalRecord (events disabled : Nat) (backend kind : String) : Record :=
  ⟨"tracetool.convert", .debug,
    s!"Converted {events} events ({disabled} disabled) with {backend} backend, output {kind}"⟩

theorem convertLogger_eq : convertLogger = "tracetool.convert" := by
  have hbegins : rootLogger.isPrefixOf "tracetool.convert" = true := by
    rw [String.isPrefixOf, String.startsWith_string_iff]
    exact ⟨".convert".toList, by decide⟩
  rw [convertLogger, loggerName, if_pos hbegins]

theorem disabledRecord_eq : disabledRecord = fun e => skipRecord e.name := by
  funext e
  rw [disabledRecord, convertLogger_eq, skipRecord]

theorem summaryRecord_eq (events disabled : Nat) (b : Backend) (k : Kind) :
    summaryRecord events disabled b k = totalRecord events disabled b.name k.flag := by
  rw [summaryRecord, convertLogger_eq, totalRecord]

/-- Only a conversion that ends well is summed up. -/
theorem log_convert (h : Begins b k ctx) {lines text : List String}
    (hok : (convert b k ctx (.ofLines lines)).result = .ok text) :
    (convert b k ctx (.ofLines lines)).log =
      (disabledEvents lines).map (fun e => skipRecord e.name) ++
        [totalRecord (readEvents lines).length (disabledEvents lines).length b.name k.flag] := by
  obtain ⟨t, ht, hstarts⟩ := begins_iff.mp h
  cases hhalt : t.halt? (t.begun ctx) lines with
  | none =>
    have hw := Template.halt?_eq_none_iff.mp hhalt
    simp only [convert_ofLines ht hstarts lines hw, length_enabledEvents_add, disabledRecord_eq,
      summaryRecord_eq]
  | some halt =>
    rw [convert_of_halt ht hstarts hhalt] at hok
    cases hok

def Value.IsTextOrNull (v : Value) : Prop := v = .null ∨ ∃ s : String, v = .str s

theorem Value.IsTextOrNull.obstacle {v : Value} (h : v.IsTextOrNull) : v.obstacle? = none := by
  rcases h with rfl | ⟨s, rfl⟩
  · exact obstacle?_null
  · exact obstacle?_str s

/-- The provider is a string, and so are binary and prefix if they are given. -/
structure Context.IsTextual (ctx : Context) : Prop where
  provider : ∃ s : String, ctx.provider = .str s
  binary : ctx.binary.IsTextOrNull
  probePrefix : ctx.probePrefix.IsTextOrNull

theorem Context.IsTextual.begun (h : ctx.IsTextual) (t : Template) : (t.begun ctx).IsTextual := by
  rw [Template.begun]
  split
  · exact ⟨h.provider, h.binary, h.probePrefix⟩
  · exact h

theorem Context.IsTextual.obstacle (h : ctx.IsTextual) (ht : b.template k = .ok t) :
    t.obstacle? ctx = none := by
  rcases Backend.template_cases ht with
    ⟨-, rfl⟩ | ⟨-, rfl⟩ | ⟨-, -, rfl⟩ | ⟨-, -, rfl⟩ | ⟨-, -, -, rfl⟩
  · cases b with
    | dtrace =>
      obtain ⟨s, hs⟩ := h.provider
      simp [Header.template, Header.dtrace, hs]
    | _ => rfl
  · cases b <;> rfl
  · rfl
  · simp [Probe.tapset, h.binary.obstacle, h.probePrefix.obstacle]
  · rfl

theorem Context.IsTextual.openingObstacle (h : ctx.IsTextual) (ht : b.template k = .ok t) :
    t.openingObstacle? (t.begun ctx) = none := by
  rcases Backend.template_cases ht with
    ⟨-, rfl⟩ | ⟨-, rfl⟩ | ⟨-, -, rfl⟩ | ⟨-, -, rfl⟩ | ⟨-, -, -, rfl⟩
  · cases b <;> rfl
  · cases b <;> rfl
  · obtain ⟨s, hs⟩ := h.provider
    simp [Probe.descriptor, Template.begun, Context.reset, hs, Value.obstacle?_str]
  · rfl
  · rfl

/-- With strings in the context nothing that the lines hold makes a conversion fail. -/
theorem exists_convert_eq_ok (h : Begins b k ctx) (htext : ctx.IsTextual) (lines : List String) :
    ∃ text, (convert b k ctx (.ofLines lines)).result = .ok text ∧
      (convert b k ctx (.ofLines lines)).consumed = lines.length := by
  obtain ⟨t, ht, hstarts⟩ := begins_iff.mp h
  have ho := (htext.begun t).obstacle ht
  rw [convert_ofLines ht hstarts lines (.inl ho)]
  exact ⟨_, rfl, rfl⟩

/-- A blank line, or a comment, whose mark can stand behind blanks. -/
def IsIdle (line : String) : Prop :=
  IsGap line.toList ∨ ∃ gap text, IsGap gap ∧ line.toList = gap ++ '#' :: text

theorem isDeclaration_of_gap_append {line : String} {gap : List Char} {c : Char}
    {rest : List Char} (hgap : IsGap gap) (hc : isBlank c = false)
    (hline : line.toList = gap ++ c :: rest) : isDeclaration line = (c != '#') := by
  rw [isDeclaration, hline, trim_gap_append_cons hgap hc]

theorem isDeclaration_eq_false_iff {line : String} : isDeclaration line = false ↔ IsIdle line := by
  constructor
  · intro h
    rcases isGap_or_exists_cons line.toList with hgap | ⟨gap, c, rest, hgap, hc, hline⟩
    · exact .inl hgap
    · rw [isDeclaration_of_gap_append hgap hc hline] at h
      obtain rfl : c = '#' := by simpa using h
      exact .inr ⟨gap, rest, hgap, hline⟩
  · rintro (hgap | ⟨gap, text, hgap, hline⟩)
    · rw [isDeclaration, trim_of_isGap hgap]
    · rw [isDeclaration_of_gap_append hgap (by decide) hline]
      rfl

/-- The second list has the lines of the first one, and idle lines anywhere between them. -/
inductive Interspersed : List String → List String → Prop
  | nil : Interspersed [] []
  | line (line : String) {lines more : List String} (h : Interspersed lines more) :
      Interspersed (line :: lines) (line :: more)
  | idle {line : String} {lines more : List String} (hidle : IsIdle line)
      (h : Interspersed lines more) : Interspersed lines (line :: more)

theorem Interspersed.readEvents_eq {lines more : List String} (h : Interspersed lines more) :
    readEvents more = readEvents lines := by
  induction h with
  | nil => rfl
  | line line _ ih =>
    cases hd : isDeclaration line with
    | true => rw [readEvents_cons_of_declaration hd, readEvents_cons_of_declaration hd, ih]
    | false => rw [readEvents_cons_of_not hd, readEvents_cons_of_not hd, ih]
  | idle hidle _ ih => rw [readEvents_cons_of_not (isDeclaration_eq_false_iff.mpr hidle), ih]

/-- A conversion is what its steps come to, and of the lines only their events matter. -/
structure IsStepwise (b : Backend) (k : Kind) (ctx : Context) (lines : List String) : Prop where
  result : (convert b k ctx (.ofLines lines)).result = passLines b k ctx (readEvents lines)
  context : (convert b k ctx (.ofLines lines)).context =
    contextAfter ctx (passSteps b k (readEvents lines))
  session : (enabledEvents lines).length < Value.numberLimit →
    (convert b k ctx (.ofLines lines)).result = (do
      let pieces ← (runSession ctx (passSteps b k (readEvents lines))).mapM Outcome.lines
      return [""].intercalate pieces)
  interspersed : ∀ more, Interspersed lines more →
    (convert b k ctx (.ofLines more)).result = (convert b k ctx (.ofLines lines)).result ∧
      (convert b k ctx (.ofLines more)).context = (convert b k ctx (.ofLines lines)).context
  log : ∀ text, (convert b k ctx (.ofLines lines)).result = .ok text →
    (convert b k ctx (.ofLines lines)).log =
      (disabledEvents lines).map (fun e => skipRecord e.name) ++
        [totalRecord (readEvents lines).length (disabledEvents lines).length b.name k.flag]
  succeeds : ctx.IsTextual → ∃ text, (convert b k ctx (.ofLines lines)).result = .ok text

theorem convert_isStepwise (h : Begins b k ctx) (lines : List String) :
    IsStepwise b k ctx lines := by
  obtain ⟨hresult, hcontext⟩ := convert_eq_steps h lines
  obtain ⟨t, ht, hstarts⟩ := begins_iff.mp h
  refine ⟨hresult, hcontext, fun hfew => hresult.trans (passLines_eq_session ht hstarts hfew),
    fun more hmore => ?_, fun text hok => log_convert h hok, fun htext => ?_⟩
  · obtain ⟨hresult', hcontext'⟩ := convert_eq_steps h more
    rw [hresult', hcontext', hmore.readEvents_eq, hresult, hcontext]
    exact ⟨rfl, rfl⟩
  · obtain ⟨text, hok, -⟩ := exists_convert_eq_ok h htext lines
    exact ⟨text, hok⟩

/-- A context in which all of the files can be written. -/
def probeContext : Context :=
  { provider := "qemu", binary := "/bin/qemu", probePrefix := "qemu.user.arm", index := 7,
    names := ["old"] }

theorem convert_isStepwise_tapset :
    Begins .dtrace .tapset probeContext ∧
      IsStepwise .dtrace .tapset probeContext
        ["# blocks", "disable drop(int a) \"a\"", "\t", "keep(char *p, int limit) \"p\""] := by
  have h : Begins .dtrace .tapset probeContext := begins_iff.mpr ⟨Probe.tapset, rfl, rfl, rfl⟩
  exact ⟨h, convert_isStepwise h _⟩

end Tracepoint
