import Tracepoint.Conversion

namespace Tracepoint

/-- The events that are not switched off. -/
def enabledEvents (lines : List String) : List Event :=
  (readEvents lines).filter fun e => !e.disabled

def disabledEvents (lines : List String) : List Event :=
  (readEvents lines).filter fun e => e.disabled

theorem readEvents_cons_of_declaration {line : String} (h : isDeclaration line = true)
    (lines : List String) : readEvents (line :: lines) = Event.parse line :: readEvents lines := by
  simp [readEvents, h]

theorem readEvents_cons_of_not {line : String} (h : isDeclaration line = false)
    (lines : List String) : readEvents (line :: lines) = readEvents lines := by
  simp [readEvents, h]

theorem length_enabledEvents_add (lines : List String) :
    (enabledEvents lines).length + (disabledEvents lines).length = (readEvents lines).length := by
  have h := (readEvents lines).length_eq_countP_add_countP fun e => e.disabled
  simp only [List.countP_eq_length_filter, Bool.not_eq_true, Bool.decide_eq_false] at h
  rw [enabledEvents, disabledEvents]
  omega

theorem enabledEvents_eq_nil_iff {lines : List String} :
    enabledEvents lines = [] ↔
      ∀ line ∈ lines, (isDeclaration line && !(Event.parse line).disabled) = false := by
  simp only [enabledEvents, readEvents, List.filter_eq_nil_iff, List.mem_map, List.mem_filter]
  grind

/-- The templates that there are. -/
theorem Backend.template_cases {b : Backend} {k : Kind} {t : Template}
    (ht : b.template k = .ok t) :
    (k = .header ∧ t = Header.template b) ∨ (k = .source ∧ t = Source.template b) ∨
      (b = .dtrace ∧ k = .descriptor ∧ t = Probe.descriptor) ∨
      (b = .dtrace ∧ k = .tapset ∧ t = Probe.tapset) ∨
      (b = .nop ∧ k ≠ .header ∧ k ≠ .source ∧ t = .silent) := by
  cases k with
  | header => exact .inl ⟨rfl, (Except.ok.inj ht).symm⟩
  | source => exact .inr (.inl ⟨rfl, (Except.ok.inj ht).symm⟩)
  | descriptor => cases b <;> simp_all [Backend.template]
  | tapset => cases b <;> simp_all [Backend.template]

/-- The program's own answer to a request that it does not take up. All other faults come up in
carrying a request out. -/
def Fault.isRefusal : Fault → Bool
  | .failure _ | .unknownKind _ => true
  | _ => false

namespace Header

/-- The line that begins the function of an event. -/
def functionHead (name args : String) : String := s!"static inline void trace_{name}({args})"

theorem signature_eq (e : Event) : signature e = functionHead e.name e.args := rfl

/-- The function of an event that does nothing. -/
def idleFunction (e : Event) : List String := [functionHead e.name e.args, "\x7b", "\x7d"]

theorem fragment_nop (ctx : Context) : nop.fragment ctx = idleFunction := rfl

end Header

namespace Template

/-- A pass begins: nothing is lacking, and the opening can be written. -/
structure Starts (t : Template) (ctx : Context) : Prop where
  ready : t.ready ctx = .ok ()
  opening : t.openingObstacle? (t.begun ctx) = none

theorem start_eq {t : Template} {ctx : Context} (h : t.Starts ctx) :
    t.start ctx = (.ok (t.opening (t.begun ctx)), t.begun ctx) := by
  simp [start, h.ready, h.opening]

theorem start_of_ready_error {t : Template} {ctx : Context} {f : Failure}
    (h : t.ready ctx = .error f) : t.start ctx = (.error (.failure f), ctx) := by
  simp [start, h]

theorem start_of_openingObstacle {t : Template} {ctx : Context} {fault : Fault}
    (hready : t.ready ctx = .ok ()) (h : t.openingObstacle? (t.begun ctx) = some fault) :
    t.start ctx = (.error fault, t.begun ctx) := by
  simp [start, hready, h]

/-- The ways in which a pass can begin or fail to. -/
theorem start_cases (t : Template) (ctx : Context) :
    t.Starts ctx ∨ (∃ f, t.ready ctx = .error f) ∨
      ∃ fault, t.ready ctx = .ok () ∧ t.openingObstacle? (t.begun ctx) = some fault := by
  cases hready : t.ready ctx with
  | error f => exact .inr (.inl ⟨f, rfl⟩)
  | ok ready =>
    cases hopening : t.openingObstacle? (t.begun ctx) with
    | none => exact .inl ⟨hready, hopening⟩
    | some fault => exact .inr (.inr ⟨fault, rfl, rfl⟩)

theorem starts_or_fails (t : Template) (ctx : Context) :
    t.Starts ctx ∨ ∃ fault, (t.start ctx).1 = .error fault := by
  rcases t.start_cases ctx with h | ⟨f, hready⟩ | ⟨fault, hready, hopening⟩
  · exact .inl h
  · exact .inr ⟨_, congrArg Prod.fst (start_of_ready_error hready)⟩
  · exact .inr ⟨_, congrArg Prod.fst (start_of_openingObstacle hready hopening)⟩

/-- The events of such a template leave the context alone. -/
def IsStill (t : Template) : Prop := t.numbered = false ∧ t.registers = false

/-- The template with which a kind of file renders the events that are switched off. -/
def off : Kind → Template
  | .header => Header.nop
  | .source => {}
  | .descriptor | .tapset => silent

theorem nop_template (k : Kind) : Backend.nop.template k = .ok (off k) := by
  cases k <;> rfl

theorem off_isStill (k : Kind) : (off k).IsStill := by
  cases k <;> exact ⟨rfl, rfl⟩

theorem advance_of_isStill {t : Template} (h : t.IsStill) (e : Event) (ctx : Context) :
    t.advance e ctx = ctx := by
  simp [advance, h.1, h.2]

/-- The context behind some events, all of them rendered with the template. -/
def passed (t : Template) (es : List Event) (ctx : Context) : Context :=
  { ctx with
    index := if t.numbered then ctx.index + es.length else ctx.index
    names := if t.registers then ctx.names ++ es.map (·.name) else ctx.names }

theorem passed_nil (t : Template) (ctx : Context) : t.passed [] ctx = ctx := by
  simp [passed]

theorem passed_of_isStill {t : Template} (h : t.IsStill) (es : List Event) (ctx : Context) :
    t.passed es ctx = ctx := by
  simp [passed, h.1, h.2]

theorem passed_cons (t : Template) (e : Event) (es : List Event) (ctx : Context) :
    t.passed (e :: es) ctx = t.passed es (t.advance e ctx) := by
  simp only [passed, advance, List.length_cons, List.map_cons, Context.mk.injEq, true_and]
  constructor
  · split
    · push_cast
      omega
    · rfl
  · split
    · simp
    · rfl

/-- What every event gives, in the order of the events. -/
def fragments (enabled off : Template) (ctx : Context) : List Event → List (List String)
  | [] => []
  | e :: es =>
    if e.disabled then off.fragment ctx e :: enabled.fragments off (off.advance e ctx) es
    else enabled.fragment ctx e :: enabled.fragments off (enabled.advance e ctx) es

/-- The fragments as lines, each behind an empty one. -/
def body (enabled off : Template) (ctx : Context) (es : List Event) : List String :=
  (enabled.fragments off ctx es).flatMap fun fragment => "" :: fragment

theorem length_fragments (enabled off : Template) (ctx : Context) (es : List Event) :
    (enabled.fragments off ctx es).length = es.length := by
  induction es generalizing ctx with
  | nil => rfl
  | cons e es ih =>
    rw [fragments]
    split <;> simp [ih]

theorem fragments_cons_disabled (enabled off : Template) (ctx : Context) {e : Event}
    (h : e.disabled = true) (es : List Event) :
    enabled.fragments off ctx (e :: es) =
      off.fragment ctx e :: enabled.fragments off (off.advance e ctx) es := by
  rw [fragments, if_pos h]

theorem fragments_cons_enabled (enabled off : Template) (ctx : Context) {e : Event}
    (h : e.disabled = false) (es : List Event) :
    enabled.fragments off ctx (e :: es) =
      enabled.fragment ctx e :: enabled.fragments off (enabled.advance e ctx) es := by
  rw [fragments, if_neg (by simp [h])]

/-- Fragments that do not depend on the context. -/
theorem fragments_of_constant {enabled off : Template} {f g : Event → List String}
    (hf : ∀ ctx, enabled.fragment ctx = f) (hg : ∀ ctx, off.fragment ctx = g) (ctx : Context)
    (es : List Event) :
    enabled.fragments off ctx es = es.map fun e => if e.disabled then g e else f e := by
  induction es generalizing ctx with
  | nil => rfl
  | cons e es ih =>
    cases he : e.disabled with
    | true => rw [fragments_cons_disabled _ _ _ he, ih, hg, List.map_cons, if_pos he]
    | false => rw [fragments_cons_enabled _ _ _ he, ih, hf, List.map_cons, if_neg (by simp [he])]

/-- Where no event moves the context, every fragment is written in the one that the walk starts
from. -/
theorem fragments_of_isStill {enabled off : Template} (henabled : enabled.IsStill)
    (hoff : off.IsStill) (ctx : Context) (es : List Event) :
    enabled.fragments off ctx es =
      es.map fun e => if e.disabled then off.fragment ctx e else enabled.fragment ctx e := by
  induction es with
  | nil => rfl
  | cons e es ih =>
    cases he : e.disabled with
    | true =>
      rw [fragments_cons_disabled _ _ _ he, advance_of_isStill hoff, ih, List.map_cons, if_pos he]
    | false =>
      rw [fragments_cons_enabled _ _ _ he, advance_of_isStill henabled, ih, List.map_cons,
        if_neg (by simp [he])]

theorem body_cons_disabled (enabled off : Template) (ctx : Context) {e : Event}
    (h : e.disabled = true) (es : List Event) :
    enabled.body off ctx (e :: es) =
      "" :: off.fragment ctx e ++ enabled.body off (off.advance e ctx) es := by
  rw [body, fragments_cons_disabled _ _ _ h, List.flatMap_cons, body]

theorem body_cons_enabled (enabled off : Template) (ctx : Context) {e : Event}
    (h : e.disabled = false) (es : List Event) :
    enabled.body off ctx (e :: es) =
      "" :: enabled.fragment ctx e ++ enabled.body off (enabled.advance e ctx) es := by
  rw [body, fragments_cons_enabled _ _ _ h, List.flatMap_cons, body]

/-- The loop over the lines is the walk over their events. -/
theorem render_eq (enabled : Template) {off : Template} (hoff : off.IsStill) (ctx : Context)
    (lines : List String) :
    enabled.render off ctx lines =
      { lines := enabled.body off ctx (readEvents lines)
        context := enabled.passed (enabledEvents lines) ctx
        read := lines.length
        rendered := (enabledEvents lines).length
        disabled := (disabledEvents lines).length
        log := (disabledEvents lines).map disabledRecord } := by
  induction lines generalizing ctx with
  | nil => simp [render, readEvents, enabledEvents, disabledEvents, body, fragments, passed_nil]
  | cons line lines ih =>
    cases hd : isDeclaration line with
    | false =>
      have hr := readEvents_cons_of_not hd lines
      simp [render, hd, ih, enabledEvents, disabledEvents, hr]
    | true =>
      have hr := readEvents_cons_of_declaration hd lines
      cases he : (Event.parse line).disabled with
      | true =>
        have ha := advance_of_isStill hoff (Event.parse line) ctx
        simp [render, hd, he, event, ih, ha, enabledEvents, disabledEvents, hr,
          body_cons_disabled _ _ _ he]
      | false =>
        simp [render, hd, he, event, ih, enabledEvents, disabledEvents, hr,
          body_cons_enabled _ _ _ he, passed_cons]

/-- What the walk pairs with the events that are not switched off, `n` being the index at its
start. -/
theorem zip_fragments_numbered {enabled off : Template} (hoff : off.IsStill)
    (hn : enabled.numbered = true) (hr : enabled.registers = false) (ctx : Context) (n : Nat)
    (es : List Event) :
    (es.zip (enabled.fragments off { ctx with index := n } es)).filter (fun p => !p.1.disabled) =
      ((es.filter fun e => !e.disabled).zipIdx n).map fun p =>
        (p.1, enabled.fragment { ctx with index := p.2 } p.1) := by
  induction es generalizing n with
  | nil => rfl
  | cons e es ih =>
    cases he : e.disabled with
    | true =>
      rw [fragments_cons_disabled _ _ _ he, advance_of_isStill hoff]
      simp [he, ih]
    | false =>
      have ha :
          enabled.advance e { ctx with index := n } = { ctx with index := (n + 1 : Nat) } := by
        simp [advance, hn, hr]
      rw [fragments_cons_enabled _ _ _ he, ha]
      simpa [he] using ih (n + 1)

theorem zip_fragments_disabled {enabled off : Template} (ctx : Context) (es : List Event)
    (f : Event → List String) (hf : ∀ ctx, off.fragment ctx = f) :
    ∀ p ∈ es.zip (enabled.fragments off ctx es), p.1.disabled = true → p.2 = f p.1 := by
  induction es generalizing ctx with
  | nil => simp [fragments]
  | cons e es ih =>
    intro p hp hd
    cases he : e.disabled with
    | true =>
      rw [fragments_cons_disabled _ _ _ he, List.zip_cons_cons, List.mem_cons] at hp
      rcases hp with rfl | hp
      · exact congrFun (hf ctx) e
      · exact ih _ p hp hd
    | false =>
      rw [fragments_cons_enabled _ _ _ he, List.zip_cons_cons, List.mem_cons] at hp
      rcases hp with rfl | hp
      · simp [he] at hd
      · exact ih _ p hp hd

/-- What keeps events from being written does not lie in the index or in the names. -/
theorem obstacle_congr {b : Backend} {k : Kind} {t : Template} {ctx ctx' : Context}
    (ht : b.template k = .ok t) (hprovider : ctx'.provider = ctx.provider)
    (hbinary : ctx'.binary = ctx.binary) (hplace : ctx'.probePrefix = ctx.probePrefix) :
    t.obstacle? ctx' = t.obstacle? ctx := by
  rcases Backend.template_cases ht with
    ⟨-, rfl⟩ | ⟨-, rfl⟩ | ⟨-, -, rfl⟩ | ⟨-, -, rfl⟩ | ⟨-, -, -, rfl⟩
  · cases b with
    | dtrace => simp [Header.template, Header.dtrace, hprovider]
    | _ => rfl
  · cases b <;> rfl
  · rfl
  · simp [Probe.tapset, hbinary, hplace]
  · rfl

/-- Only templates whose events leave the context alone can meet such an obstacle. -/
theorem isStill_of_obstacle {b : Backend} {k : Kind} {t : Template} {ctx : Context} {fault : Fault}
    (ht : b.template k = .ok t) (ho : t.obstacle? ctx = some fault) : t.IsStill := by
  rcases Backend.template_cases ht with
    ⟨-, rfl⟩ | ⟨-, rfl⟩ | ⟨-, -, rfl⟩ | ⟨-, -, rfl⟩ | ⟨-, -, -, rfl⟩
  · cases b <;> first | cases ho; done | exact ⟨rfl, rfl⟩
  · cases b <;> cases ho
  · cases ho
  · exact ⟨rfl, rfl⟩
  · cases ho

theorem isStill_of_openingObstacle {b : Backend} {k : Kind} {t : Template} {ctx : Context}
    {fault : Fault} (ht : b.template k = .ok t) (h : t.openingObstacle? ctx = some fault) :
    t.IsStill := by
  rcases Backend.template_cases ht with
    ⟨-, rfl⟩ | ⟨-, rfl⟩ | ⟨-, -, rfl⟩ | ⟨-, -, rfl⟩ | ⟨-, -, -, rfl⟩
  · cases b <;> cases h
  · cases b <;> cases h
  · exact ⟨rfl, rfl⟩
  · cases h
  · cases h

theorem isRefusal_of_obstacle {b : Backend} {k : Kind} {t : Template} {ctx : Context}
    {fault : Fault} (ht : b.template k = .ok t) (h : t.obstacle? ctx = some fault) :
    fault.isRefusal = false := by
  rcases Backend.template_cases ht with
    ⟨-, rfl⟩ | ⟨-, rfl⟩ | ⟨-, -, rfl⟩ | ⟨-, -, rfl⟩ | ⟨-, -, -, rfl⟩
  · cases b with
    | dtrace =>
      simp only [Header.template, Header.dtrace] at h
      split at h
      · cases h
      · rw [← Option.some.inj h]
        rfl
    | _ => cases h
  · cases b <;> cases h
  · cases h
  · obtain ⟨obstacle, -, rfl⟩ := Option.map_eq_some_iff.mp h
    rfl
  · cases h

theorem isRefusal_of_openingObstacle {b : Backend} {k : Kind} {t : Template} {ctx : Context}
    {fault : Fault} (ht : b.template k = .ok t) (h : t.openingObstacle? ctx = some fault) :
    fault.isRefusal = false := by
  rcases Backend.template_cases ht with
    ⟨-, rfl⟩ | ⟨-, rfl⟩ | ⟨-, -, rfl⟩ | ⟨-, -, rfl⟩ | ⟨-, -, -, rfl⟩
  · cases b <;> cases h
  · cases b <;> cases h
  · obtain ⟨obstacle, -, rfl⟩ := Option.map_eq_some_iff.mp h
    rfl
  · cases h
  · cases h

/-- Nothing keeps the events from being written. -/
def Writes (t : Template) (ctx : Context) (es : List Event) : Prop :=
  t.obstacle? ctx = none ∨ es.filter (fun e => !e.disabled) = []

theorem halt?_eq_none_iff {t : Template} {ctx : Context} {lines : List String} :
    t.halt? ctx lines = none ↔ t.Writes ctx (readEvents lines) := by
  cases ho : t.obstacle? ctx with
  | none => simp [halt?, Writes, ho]
  | some fault =>
    simp only [halt?, Writes, ho, Option.map_eq_none_iff, List.findIdx?_eq_none_iff, reduceCtorEq,
      false_or]
    exact enabledEvents_eq_nil_iff.symm

theorem of_halt?_eq_some {t : Template} {ctx : Context} {lines : List String} {n : Nat}
    {fault : Fault} (h : t.halt? ctx lines = some (n, fault)) :
    t.obstacle? ctx = some fault ∧ enabledEvents lines ≠ [] ∧
      enabledEvents (lines.take n) = [] := by
  cases ho : t.obstacle? ctx with
  | none => simp [halt?_eq_none ho] at h
  | some other =>
    simp only [halt?, ho, Option.map_eq_some_iff, Prod.mk.injEq] at h
    obtain ⟨m, hfind, rfl, rfl⟩ := h
    obtain ⟨hm, hmeets, hbefore⟩ := List.findIdx?_eq_some_iff_getElem.mp hfind
    refine ⟨rfl, fun hnil => ?_, enabledEvents_eq_nil_iff.mpr fun line hline => ?_⟩
    · have hnot := enabledEvents_eq_nil_iff.mp hnil lines[m] (List.getElem_mem hm)
      rw [hnot] at hmeets
      exact Bool.false_ne_true hmeets
    · obtain ⟨i, hi, rfl⟩ := List.mem_take_iff_getElem.mp hline
      exact Bool.eq_false_iff.mpr (hbefore i (by omega))

end Template

variable {b : Backend} {k : Kind} {t : Template} {ctx : Context}

theorem convert_of_template_error {f : Failure} (ht : b.template k = .error f) (ctx : Context)
    (input : Input) : convert b k ctx input = ⟨.error (.failure f), ctx, 0, []⟩ := by
  simp [convert, ht, bind, Except.bind]

/-- A conversion that does not begin has read nothing. -/
theorem convert_of_start_error {fault : Fault} (ht : b.template k = .ok t)
    (hstart : (t.start ctx).1 = .error fault) (input : Input) :
    convert b k ctx input = ⟨.error fault, (t.start ctx).2, 0, []⟩ := by
  cases hpair : t.start ctx with
  | mk result behind =>
    obtain rfl : result = .error fault := by rwa [hpair] at hstart
    simp [convert, ht, Template.nop_template, hpair, bind, Except.bind, pure, Except.pure]

/-- What a conversion that has begun does with its input. -/
theorem convert_of_starts (ht : b.template k = .ok t) (hstarts : t.Starts ctx) (input : Input) :
    convert b k ctx input =
      match t.halt? (t.begun ctx) input.lines with
      | some (n, fault) =>
        let r := t.render (.off k) (t.begun ctx) (input.lines.take n)
        ⟨.error fault, r.context, n + 1, r.log⟩
      | none =>
        let r := t.render (.off k) (t.begun ctx) input.lines
        match input.ending.fault? with
        | some fault => ⟨.error fault, r.context, r.read, r.log⟩
        | none =>
          ⟨.ok (t.opening (t.begun ctx) ++ r.lines ++ "" :: t.closing r.context), r.context, r.read,
            r.log ++ [summaryRecord (r.rendered + r.disabled) r.disabled b k]⟩ := by
  -- Both sides are the same `match`; the cases make each of them reduce.
  cases hhalt : t.halt? (t.begun ctx) input.lines <;> cases hend : input.ending.fault? <;>
    simp only [convert, ht, Template.nop_template, Template.start_eq hstarts, bind, Except.bind,
      pure, Except.pure, hhalt, hend]

/-- A conversion in which every event can be written is the walk between opening and closing. -/
theorem convert_ofLines (ht : b.template k = .ok t) (hstarts : t.Starts ctx)
    (lines : List String) (hw : t.Writes (t.begun ctx) (readEvents lines)) :
    convert b k ctx (.ofLines lines) =
      let behind := t.passed (enabledEvents lines) (t.begun ctx)
      { result := .ok (t.opening (t.begun ctx) ++
          t.body (.off k) (t.begun ctx) (readEvents lines) ++ "" :: t.closing behind)
        context := behind
        consumed := lines.length
        log := (disabledEvents lines).map disabledRecord ++
          [summaryRecord ((enabledEvents lines).length + (disabledEvents lines).length)
            (disabledEvents lines).length b k] } := by
  have hr := Template.render_eq t (Template.off_isStill k) (t.begun ctx) lines
  have hhalt := Template.halt?_eq_none_iff.mpr hw
  rw [convert_of_starts ht hstarts]
  simp [Input.ofLines, hhalt, Ending.fault?, hr]

/-- A conversion ends on the first event that cannot be written; no event has moved the context by
then. -/
theorem convert_of_halt {n : Nat} {fault : Fault} (ht : b.template k = .ok t)
    (hstarts : t.Starts ctx) {lines : List String}
    (hhalt : t.halt? (t.begun ctx) lines = some (n, fault)) :
    convert b k ctx (.ofLines lines) =
      { result := .error fault
        context := t.begun ctx
        consumed := n + 1
        log := (disabledEvents (lines.take n)).map disabledRecord } := by
  obtain ⟨-, -, hbefore⟩ := Template.of_halt?_eq_some hhalt
  have hr := Template.render_eq t (Template.off_isStill k) (t.begun ctx) (lines.take n)
  rw [hbefore, Template.passed_nil] at hr
  rw [convert_of_starts ht hstarts]
  simp [Input.ofLines, hhalt, hr]

end Tracepoint
