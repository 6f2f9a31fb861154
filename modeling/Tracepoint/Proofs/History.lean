import Mathlib
import Tracepoint.Proofs.Steps
import Tracepoint.Proofs.Stepwise

namespace Tracepoint

/-- A context that has not been used, with what files are generated for. -/
def Context.unused (ctx : Context) : Context :=
  { provider := ctx.provider, binary := ctx.binary, probePrefix := ctx.probePrefix }

variable {b : Backend} {k : Kind} {t : Template} {ctx ctx' : Context}

theorem Context.unused_eq_iff :
    ctx.unused = ctx'.unused ↔ ctx.provider = ctx'.provider ∧ ctx.binary = ctx'.binary ∧
      ctx.probePrefix = ctx'.probePrefix := by
  simp [unused]

theorem Template.unused_begun (t : Template) (ctx : Context) :
    (t.begun ctx).unused = ctx.unused := by
  rw [begun]
  split <;> rfl

theorem Template.unused_start (t : Template) (ctx : Context) :
    (t.start ctx).2.unused = ctx.unused := by
  rcases t.start_cases ctx with hstarts | ⟨f, hready⟩ | ⟨fault, hready, hopening⟩
  · rw [start_eq hstarts, t.unused_begun]
  · rw [start_of_ready_error hready]
  · rw [start_of_openingObstacle hready hopening, t.unused_begun]

/-- Of the context that a conversion leaves behind only the index and the names can be new. -/
theorem unused_convert (b : Backend) (k : Kind) (ctx : Context) (lines : List String) :
    (convert b k ctx (.ofLines lines)).context.unused = ctx.unused := by
  cases ht : b.template k with
  | error f => rw [convert_of_template_error ht]
  | ok t =>
    rcases t.starts_or_fails ctx with hstarts | ⟨fault, hstart⟩
    · cases hhalt : t.halt? (t.begun ctx) lines with
      | none =>
        rw [convert_ofLines ht hstarts lines (Template.halt?_eq_none_iff.mp hhalt)]
        exact t.unused_begun ctx
      | some halt =>
        rw [convert_of_halt ht hstarts hhalt]
        exact t.unused_begun ctx
    · rw [convert_of_start_error ht hstart, t.unused_start]

/-- Only an assignment can change what files are generated for. -/
def Step.keepsPlace : Step → Bool
  | .assign (.provider _) | .assign (.binary _) | .assign (.probePrefix _) => false
  | _ => true

theorem Outcome.unused_ofTemplate (backend kind : Value)
    {act : Template → Except Fault (List String) × Context}
    (h : ∀ t, (act t).2.unused = ctx.unused) :
    (ofTemplate ctx backend kind act).context.unused = ctx.unused := by
  rw [ofTemplate]
  split
  · rfl
  · exact h _

theorem Step.unused_outcome {s : Step} (h : s.keepsPlace = true) (ctx : Context) :
    (s.outcome ctx).context.unused = ctx.unused := by
  rw [s.context_outcome]
  cases s with
  | opening backend kind => exact Outcome.unused_ofTemplate backend kind fun t => t.unused_start ctx
  | event backend kind e => exact Outcome.unused_ofTemplate backend kind fun _ => rfl
  | closing backend kind => exact Outcome.unused_ofTemplate backend kind fun _ => rfl
  | convert backend kind lines =>
    rw [inPass]
    split
    · rfl
    · exact unused_convert _ _ ctx lines
  | reset => rfl
  | nextIndex => rfl
  | assign a => cases a <;> first | rfl | cases h

theorem unused_contextAfter {steps : List Step} (h : ∀ s ∈ steps, s.keepsPlace = true)
    (ctx : Context) : (contextAfter ctx steps).unused = ctx.unused := by
  induction steps generalizing ctx with
  | nil => rfl
  | cons s steps ih =>
    have hs := Step.unused_outcome (h s (by simp)) ctx
    have hsteps := ih (fun s' hs' => h s' (by simp [hs'])) (s.outcome ctx).context
    exact hsteps.trans hs

/-- Templates that print a context at all start to count anew. -/
theorem Template.begun_eq_unused (ht : b.template k = .ok t) :
    t = .silent ∧ off k = .silent ∨ ∀ ctx, t.begun ctx = ctx.unused := by
  rcases Backend.template_cases ht with
    ⟨-, rfl⟩ | ⟨-, rfl⟩ | ⟨-, -, rfl⟩ | ⟨-, -, rfl⟩ | ⟨-, hheader, hsource, rfl⟩
  · exact .inr fun ctx => by cases b <;> rfl
  · exact .inr fun ctx => by cases b <;> rfl
  · exact .inr fun ctx => rfl
  · exact .inr fun ctx => rfl
  · exact .inl ⟨rfl, by cases k <;> first | rfl | contradiction⟩

/-- Of a context the opening tells what files are generated for at most. -/
theorem Template.start_congr (ht : b.template k = .ok t) (h : ctx.unused = ctx'.unused) :
    (t.start ctx).1 = (t.start ctx').1 := by
  obtain ⟨hprovider, hbinary, hplace⟩ := Context.unused_eq_iff.mp h
  rcases Backend.template_cases ht with
    ⟨-, rfl⟩ | ⟨-, rfl⟩ | ⟨-, -, rfl⟩ | ⟨-, -, rfl⟩ | ⟨-, -, -, rfl⟩
  · cases b <;> rfl
  · cases b <;> rfl
  · simp only [start, Probe.descriptor, begun, Context.reset, hprovider, ite_true]
    cases ctx'.provider.obstacle? <;> rfl
  · simp only [start, Probe.tapset, hbinary, hplace]
    split <;> rfl
  · rfl

/-- A silent conversion comes to the same in any context, which it leaves as it is. -/
theorem convert_silent (ht : b.template k = .ok .silent) (hoff : Template.off k = .silent)
    (ctx ctx' : Context) (lines : List String) :
    convert b k ctx (.ofLines lines) =
      { convert b k ctx' (.ofLines lines) with context := ctx } := by
  have hempty (c : Context) (es : List Event) :
      Template.silent.fragments .silent c es = es.map fun e => if e.disabled then [] else [] :=
    Template.fragments_of_constant (fun _ => rfl) (fun _ => rfl) c es
  have hbody (c : Context) (es : List Event) :
      Template.silent.body .silent c es = Template.silent.body .silent ctx' es := by
    rw [Template.body, Template.body, hempty, hempty]
  rw [convert_ofLines ht ⟨rfl, rfl⟩ lines (.inl rfl),
    convert_ofLines ht ⟨rfl, rfl⟩ lines (.inl rfl), hoff, hbody]
  rfl

/-- Contexts that differ in no more than what has been counted give the same file. -/
theorem convert_congr (b : Backend) (k : Kind) (h : ctx.unused = ctx'.unused)
    (lines : List String) :
    (convert b k ctx (.ofLines lines)).result = (convert b k ctx' (.ofLines lines)).result ∧
      (convert b k ctx (.ofLines lines)).log = (convert b k ctx' (.ofLines lines)).log := by
  cases ht : b.template k with
  | error f =>
    rw [convert_of_template_error ht, convert_of_template_error ht]
    exact ⟨rfl, rfl⟩
  | ok t =>
    have hsame := Template.start_congr ht h
    rcases t.starts_or_fails ctx with hstarts | ⟨fault, hstart⟩
    · have hstarts' : t.Starts ctx' := by
        rcases t.starts_or_fails ctx' with hstarts' | ⟨fault, hstart'⟩
        · exact hstarts'
        · rw [Template.start_eq hstarts, hstart'] at hsame
          cases hsame
      rcases Template.begun_eq_unused ht with ⟨rfl, hoff⟩ | hbegun
      · rw [convert_silent ht hoff ctx ctx']
        exact ⟨rfl, rfl⟩
      · have hbegins : t.begun ctx = t.begun ctx' := by rw [hbegun, hbegun, h]
        cases hhalt : t.halt? (t.begun ctx) lines with
        | none =>
          have hw := Template.halt?_eq_none_iff.mp hhalt
          rw [convert_ofLines ht hstarts lines hw, convert_ofLines ht hstarts' lines (hbegins ▸ hw),
            hbegins]
          exact ⟨rfl, rfl⟩
        | some halt =>
          rw [convert_of_halt ht hstarts hhalt, convert_of_halt ht hstarts' (hbegins ▸ hhalt)]
          exact ⟨rfl, rfl⟩
    · have hstart' : (t.start ctx').1 = .error fault := hsame ▸ hstart
      rw [convert_of_start_error ht hstart, convert_of_start_error ht hstart']
      exact ⟨rfl, rfl⟩

theorem Step.convert_congr (h : ctx.unused = ctx'.unused) (backend kind : Value)
    (lines : List String) :
    ((Step.convert backend kind lines).outcome ctx).answer =
        ((Step.convert backend kind lines).outcome ctx').answer ∧
      ((Step.convert backend kind lines).outcome ctx).log =
        ((Step.convert backend kind lines).outcome ctx').log := by
  rw [outcome_of_not_tellsIndex rfl, outcome_of_not_tellsIndex rfl, inPass, inPass]
  cases resolve backend kind with
  | error fault => exact ⟨rfl, rfl⟩
  | ok request =>
    obtain ⟨hresult, hlog⟩ := Tracepoint.convert_congr request.1 request.2 h lines
    exact ⟨congrArg (·.map Answer.lines) hresult, hlog⟩

theorem runSession_append (ctx : Context) (steps more : List Step) :
    runSession ctx (steps ++ more) =
      runSession ctx steps ++ runSession (contextAfter ctx steps) more := by
  induction steps generalizing ctx with
  | nil => rfl
  | cons s steps ih =>
    rw [List.cons_append, runSession, runSession, ih, List.cons_append]
    rfl

/-- Whatever has been done with a context, failures included, a conversion then answers and logs
what it does on an unused one. -/
theorem runSession_convert {steps : List Step} (h : ∀ s ∈ steps, s.keepsPlace = true)
    (ctx : Context) (backend kind : Value) (lines : List String) :
    ∃ last, runSession ctx (steps ++ [.convert backend kind lines]) =
        runSession ctx steps ++ [last] ∧
      last.answer = ((Step.convert backend kind lines).outcome ctx.unused).answer ∧
      last.log = ((Step.convert backend kind lines).outcome ctx.unused).log := by
  have hpast : (contextAfter ctx steps).unused = ctx.unused.unused := unused_contextAfter h ctx
  refine ⟨_, ?_, Step.convert_congr hpast backend kind lines⟩
  rw [runSession_append, runSession, runSession]

/-- Steps after which names and an index are left over; some of them fail. -/
def usingSteps : List Step :=
  [.opening "ust" "c", .event "ust" "c" (Event.parse "open(int fd) \"%d\""), .closing "lttng" "c",
    .convert "simple" "h" ["read(int fd) \"\"", "disable write(int fd) \"\""], .nextIndex,
    .opening "simple" "d", .assign (.names ["ghost"]), .assign (.index (-3)),
    .convert "nop" "stap" ["seek(int to) \"\""]]

theorem runSession_convert_usingSteps :
    (∀ s ∈ usingSteps, s.keepsPlace = true) ∧
      ∃ last, runSession probeContext (usingSteps ++ [.convert "ust" "c" ["close(void) \"\""]]) =
          runSession probeContext usingSteps ++ [last] ∧
        last.answer =
          ((Step.convert "ust" "c" ["close(void) \"\""]).outcome probeContext.unused).answer ∧
        last.log =
          ((Step.convert "ust" "c" ["close(void) \"\""]).outcome probeContext.unused).log := by
  have h : ∀ s ∈ usingSteps, s.keepsPlace = true := List.all_eq_true.mp rfl
  exact ⟨h, runSession_convert h probeContext "ust" "c" _⟩

end Tracepoint
