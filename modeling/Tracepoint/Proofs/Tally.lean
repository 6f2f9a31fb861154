import Mathlib
import Tracepoint.Proofs.Refusal

namespace Tracepoint

/-- Nothing is printed, and the context is left alone. -/
def isSilent : Backend × Kind → Bool
  | (.nop, .descriptor) | (.nop, .tapset) => true
  | _ => false

/-- Every event takes an index. -/
def isNumbered : Backend × Kind → Bool
  | (.simple, .header) | (.simple, .source) | (.stderr, .header) | (.stderr, .source) => true
  | _ => false

/-- The names of the events are kept. -/
def isRegistering : Backend × Kind → Bool
  | (.ust, .source) => true
  | _ => false

variable {b : Backend} {k : Kind} {t : Template} {ctx ctx' : Context}

theorem Template.tally_eq (ht : b.template k = .ok t) :
    t.clears = !isSilent (b, k) ∧ t.numbered = isNumbered (b, k) ∧
      t.registers = isRegistering (b, k) := by
  cases k <;> cases b <;> first | cases ht; done | (cases ht; exact ⟨rfl, rfl, rfl⟩)

theorem not_tallied_of_isSilent {r : Backend × Kind} (h : isSilent r = true) :
    isNumbered r = false ∧ isRegistering r = false := by
  obtain ⟨b, k⟩ := r
  cases b <;> cases k <;> first | exact ⟨rfl, rfl⟩ | cases h

namespace Step

def isAssignment : Step → Bool
  | .assign _ => true
  | _ => false

def takesIndex : Step → Bool
  | .nextIndex => true
  | _ => false

/-- The backend and the kind that are asked for, if there are such. -/
def request? : Step → Option (Backend × Kind)
  | .opening backend kind | .event backend kind _ | .closing backend kind
  | .convert backend kind _ => (resolve backend kind).toOption
  | _ => none

/-- A step that is to reset the context. -/
def clears (s : Step) : Bool :=
  match s with
  | .reset => true
  | .opening _ _ | .convert _ _ _ => s.request?.any fun r => !isSilent r
  | _ => false

/-- The event that is rendered by itself. -/
def lineEvents : Step → List Event
  | .event _ _ e => [e]
  | _ => []

/-- The events that are rendered in one pass. -/
def passEvents : Step → List Event
  | .convert _ _ lines => enabledEvents lines
  | _ => []

end Step

/-- A step of a session, with the context that it is taken in. -/
structure Turn where
  before : Context
  step : Step

namespace Turn

def outcome (m : Turn) : Outcome := m.step.outcome m.before

def succeeds (m : Turn) : Bool := m.outcome.answer.isOk

/-- The step is not turned down. It can have gone on to the point where something cannot be
written, and what it has done to the context by then stays done. -/
def isCarriedOut (m : Turn) : Bool :=
  match m.outcome.answer with
  | .error fault => !fault.isRefusal
  | .ok _ => true

section

variable (counts : Turn → Bool) (m : Turn)

/-- Which steps have anything to do with the tally is left open: those that count. -/
def resets : Bool := m.step.clears && counts m

/-- The step counts and has such a backend and kind. -/
def fulfils (p : Backend × Kind → Bool) : Bool := counts m && m.step.request?.any p

/-- The names that the step adds to those in the context. -/
def names : List String :=
  if m.fulfils counts isRegistering then m.step.lineEvents.map (·.name) else []

/-- How many indices the step takes of the context. -/
def count : Nat :=
  (if m.fulfils counts isNumbered then m.step.lineEvents.length else 0) +
    if m.step.takesIndex then 1 else 0

/-- The names that a pass leaves in the context that it has reset. -/
def leftNames : List String :=
  if m.fulfils counts isRegistering then m.step.passEvents.map (·.name) else []

def leftCount : Nat := if m.fulfils counts isNumbered then m.step.passEvents.length else 0

/-- What a step makes of the names and of the index. -/
structure Adds : Prop where
  reset : m.resets counts = true → m.outcome.context.names = m.leftNames counts ∧
    m.outcome.context.index = m.leftCount counts
  added : m.resets counts = false →
    m.outcome.context.names = m.before.names ++ m.names counts ∧
      m.outcome.context.index = m.before.index + m.count counts

variable {counts m}

theorem adds_of_still (hcontext : m.outcome.context = m.before) (hresets : m.resets counts = false)
    (hnames : m.names counts = []) (hcount : m.count counts = 0) : m.Adds counts where
  reset h := absurd (hresets.symm.trans h) (by decide)
  added _ := by simp [hcontext, hnames, hcount]

/-- A step that is no event by itself and takes no index has nothing to add. -/
theorem names_of_noLine (h : m.step.lineEvents = []) : m.names counts = [] := by
  simp [names, h]

theorem count_of_noLine (h : m.step.lineEvents = []) (hindex : m.step.takesIndex = false) :
    m.count counts = 0 := by
  simp [count, h, hindex]

/-- A step that does not count has nothing to do with the tally. -/
theorem adds_of_not_counts (hcounts : counts m = false) (hindex : m.step.takesIndex = false)
    (hcontext : m.outcome.context = m.before) : m.Adds counts := by
  refine adds_of_still hcontext ?_ ?_ ?_
  · rw [resets, hcounts, Bool.and_false]
  · simp [names, fulfils, hcounts]
  · simp [count, fulfils, hcounts, hindex]

end

theorem isCarriedOut_of_error {m : Turn} {fault : Fault} (h : m.outcome.answer = .error fault) :
    m.isCarriedOut = !fault.isRefusal := by
  rw [isCarriedOut, h]

theorem isCarriedOut_of_fault {m : Turn} {fault : Fault} (h : m.outcome.answer = .error fault)
    (hfault : fault.isRefusal = false) : m.isCarriedOut = true := by
  rw [isCarriedOut_of_error h, hfault]
  rfl

theorem isCarriedOut_of_ok {m : Turn} {answer : Answer} (h : m.outcome.answer = .ok answer) :
    m.isCarriedOut = true := by
  rw [isCarriedOut, h]

/-- What is turned down is not carried out. -/
theorem adds_of_refused {m : Turn} {fault : Fault} (h : Refused m.before m.step fault)
    (hindex : m.step.takesIndex = false) : m.Adds isCarriedOut := by
  have houtcome : m.outcome = ⟨.error fault, m.before, []⟩ := h.outcome_eq
  refine adds_of_not_counts ?_ hindex (congrArg Outcome.context houtcome)
  rw [isCarriedOut_of_error (congrArg Outcome.answer houtcome), h.isRefusal]
  rfl

end Turn

theorem toOption_resolve (b : Backend) (k : Kind) :
    (resolve b.name k.flag).toOption = some (b, k) := by
  rw [resolve_name_flag]
  rfl

namespace Turn

/-- Where a pass begins, its template says whether the context is reset. -/
theorem clears_eq (ht : b.template k = .ok t) {s : Step}
    (hrequest : s.request? = (resolve b.name k.flag).toOption) (hstarts : s.startsPass = true) :
    s.clears = t.clears := by
  have hany : s.request?.any (fun r => !isSilent r) = t.clears := by
    rw [hrequest, toOption_resolve, Option.any_some, (Template.tally_eq ht).1]
  cases s with
  | opening backend kind => exact hany
  | convert backend kind lines => exact hany
  | _ => cases hstarts

theorem resets_of_isCarriedOut {m : Turn} (ht : b.template k = .ok t)
    (hrequest : m.step.request? = (resolve b.name k.flag).toOption)
    (hstarts : m.step.startsPass = true) (hdone : m.isCarriedOut = true) :
    m.resets isCarriedOut = t.clears := by
  rw [resets, hdone, Bool.and_true, clears_eq ht hrequest hstarts]

theorem fulfils_of_isCarriedOut {m : Turn}
    (hrequest : m.step.request? = (resolve b.name k.flag).toOption) (hdone : m.isCarriedOut = true)
    (p : Backend × Kind → Bool) : m.fulfils isCarriedOut p = p (b, k) := by
  rw [fulfils, hdone, hrequest, toOption_resolve, Bool.true_and, Option.any_some]

/-- A pass that its template lets begin is carried out, also if something cannot be written then. -/
theorem adds_opening (ctx : Context) (backend kind : Value) :
    (Turn.mk ctx (.opening backend kind)).Adds isCarriedOut := by
  rcases Step.refused_or_ready ctx (s := .opening backend kind) rfl with
    ⟨fault, hrefused⟩ | ⟨b, k, t, rfl, rfl, ht, hready⟩
  · exact adds_of_refused hrefused rfl
  have houtcome : (Turn.mk ctx (.opening b.name k.flag)).outcome =
      ⟨(t.start ctx).1.map .lines, (t.start ctx).2, []⟩ := by
    rw [outcome, Step.outcome_of_not_tellsIndex rfl, Step.inPass, Outcome.ofTemplate_ok ht]
  have hdone : (Turn.mk ctx (.opening b.name k.flag)).isCarriedOut = true ∧
      (Turn.mk ctx (.opening b.name k.flag)).outcome.context = t.begun ctx := by
    rw [isCarriedOut, houtcome]
    cases hopening : t.openingObstacle? (t.begun ctx) with
    | none =>
      rw [Template.start_eq ⟨hready rfl, hopening⟩]
      exact ⟨rfl, rfl⟩
    | some fault =>
      rw [Template.start_of_openingObstacle (hready rfl) hopening]
      have hfault := Template.isRefusal_of_openingObstacle ht hopening
      exact ⟨by simp [Except.map, hfault], rfl⟩
  have hresets := resets_of_isCarriedOut ht rfl rfl hdone.1
  constructor
  · intro h
    rw [hresets] at h
    simp [hdone.2, Template.begun, h, Context.reset, leftNames, leftCount, Step.passEvents]
  · intro h
    rw [hresets] at h
    rw [hdone.2, names_of_noLine rfl, count_of_noLine rfl rfl]
    simp [Template.begun, h]

/-- The context moves on with every event that has a template, also with one that then cannot be
written. -/
theorem adds_event (ctx : Context) (backend kind : Value) (e : Event) :
    (Turn.mk ctx (.event backend kind e)).Adds isCarriedOut := by
  rcases Step.refused_or_ready ctx (s := .event backend kind e) rfl with
    ⟨fault, hrefused⟩ | ⟨b, k, t, rfl, rfl, ht, -⟩
  · exact adds_of_refused hrefused rfl
  have hcontext : (Turn.mk ctx (.event b.name k.flag e)).outcome.context = t.advance e ctx := by
    rw [outcome, Step.context_outcome, Step.inPass, Outcome.ofTemplate_ok ht]
    rfl
  have hdone : (Turn.mk ctx (.event b.name k.flag e)).isCarriedOut = true := by
    by_cases hlong : Overlong ctx (.event b.name k.flag e)
    · exact isCarriedOut_of_fault (congrArg Outcome.answer hlong.outcome_eq) rfl
    have houtcome := Step.outcome_of_not_overlong hlong
    cases ho : t.obstacle? ctx with
    | none =>
      rw [inPass_event ht ho] at houtcome
      exact isCarriedOut_of_ok (congrArg Outcome.answer houtcome)
    | some fault =>
      rw [inPass_event_of_obstacle ht ho] at houtcome
      exact isCarriedOut_of_fault (congrArg Outcome.answer houtcome)
        (Template.isRefusal_of_obstacle ht ho)
  have hfulfils := fulfils_of_isCarriedOut (b := b) (k := k) rfl hdone
  have hresets : (Turn.mk ctx (.event b.name k.flag e)).resets isCarriedOut = false := rfl
  obtain ⟨-, hnumbered, hregisters⟩ := Template.tally_eq ht
  refine ⟨fun h => absurd (hresets.symm.trans h) (by decide), fun _ => ?_⟩
  rw [names, count, hfulfils, hfulfils, hcontext, Template.advance, hnumbered, hregisters]
  cases isNumbered (b, k) <;> cases isRegistering (b, k) <;>
    simp [Step.takesIndex, Step.lineEvents]

theorem adds_closing (ctx : Context) (backend kind : Value) :
    (Turn.mk ctx (.closing backend kind)).Adds isCarriedOut := by
  refine adds_of_still ?_ rfl (names_of_noLine rfl) (count_of_noLine rfl rfl)
  rw [outcome, Step.context_outcome, Step.inPass, Outcome.ofTemplate]
  split <;> rfl

theorem outcome_convert (b : Backend) (k : Kind) (ctx : Context) (lines : List String) :
    (Turn.mk ctx (.convert b.name k.flag lines)).outcome =
      ⟨(convert b k ctx (.ofLines lines)).result.map .lines,
        (convert b k ctx (.ofLines lines)).context, (convert b k ctx (.ofLines lines)).log⟩ := by
  rw [outcome, Step.outcome_of_not_tellsIndex rfl, Step.inPass, resolve_name_flag]

theorem adds_convert_of_isCarriedOut (ht : b.template k = .ok t) {lines : List String}
    (hdone : (Turn.mk ctx (.convert b.name k.flag lines)).isCarriedOut = true)
    (hcontext : (convert b k ctx (.ofLines lines)).context =
      t.passed (enabledEvents lines) (t.begun ctx)) :
    (Turn.mk ctx (.convert b.name k.flag lines)).Adds isCarriedOut := by
  have houtcome := outcome_convert b k ctx lines
  have hresets := resets_of_isCarriedOut ht rfl rfl hdone
  have hfulfils := fulfils_of_isCarriedOut (b := b) (k := k) rfl hdone
  obtain ⟨hclears, hnumbered, hregisters⟩ := Template.tally_eq ht
  constructor
  · intro h
    rw [hresets] at h
    rw [leftNames, leftCount, hfulfils, hfulfils, houtcome, hcontext]
    simp [Template.passed, Template.begun, h, Context.reset, hnumbered, hregisters,
      Step.passEvents]
  · intro h
    rw [hresets] at h
    -- Only a silent pass leaves the context unreset, and it has nothing to add.
    have hsilent : isSilent (b, k) = true := by simpa [h] using hclears
    obtain ⟨hnotNumbered, hnotRegistering⟩ := not_tallied_of_isSilent hsilent
    rw [names_of_noLine rfl, count_of_noLine rfl rfl, houtcome, hcontext]
    simp [Template.passed, Template.begun, h, hnumbered, hregisters, hnotNumbered,
      hnotRegistering]

/-- A pass that begins is carried out. A fault behind its beginning finds that nothing has been
added to the context, as the template does not add anything. -/
theorem isCarriedOut_convert (ht : b.template k = .ok t) (hready : t.ready ctx = .ok ())
    (lines : List String) :
    (Turn.mk ctx (.convert b.name k.flag lines)).isCarriedOut = true ∧
      (convert b k ctx (.ofLines lines)).context =
        t.passed (enabledEvents lines) (t.begun ctx) := by
  rw [isCarriedOut, outcome_convert]
  cases hopening : t.openingObstacle? (t.begun ctx) with
  | some fault =>
    have hstart := Template.start_of_openingObstacle hready hopening
    have hstill := Template.isStill_of_openingObstacle ht hopening
    rw [convert_of_start_error ht (congrArg Prod.fst hstart), hstart]
    simp [Except.map, Template.isRefusal_of_openingObstacle ht hopening,
      Template.passed_of_isStill hstill]
  | none =>
    have hstarts : t.Starts ctx := ⟨hready, hopening⟩
    cases hhalt : t.halt? (t.begun ctx) lines with
    | none =>
      rw [convert_ofLines ht hstarts lines (Template.halt?_eq_none_iff.mp hhalt)]
      exact ⟨rfl, rfl⟩
    | some halt =>
      have ho := (Template.of_halt?_eq_some hhalt).1
      have hstill := Template.isStill_of_obstacle ht ho
      rw [convert_of_halt ht hstarts hhalt]
      simp [Except.map, Template.isRefusal_of_obstacle ht ho, Template.passed_of_isStill hstill]

theorem adds_convert (ctx : Context) (backend kind : Value) (lines : List String) :
    (Turn.mk ctx (.convert backend kind lines)).Adds isCarriedOut := by
  rcases Step.refused_or_ready ctx (s := .convert backend kind lines) rfl with
    ⟨fault, hrefused⟩ | ⟨b, k, t, rfl, rfl, ht, hready⟩
  · exact adds_of_refused hrefused rfl
  · obtain ⟨hdone, hcontext⟩ := isCarriedOut_convert ht (hready rfl) lines
    exact adds_convert_of_isCarriedOut ht hdone hcontext

theorem adds {m : Turn} (h : m.step.isAssignment = false) : m.Adds isCarriedOut := by
  obtain ⟨ctx, s⟩ := m
  cases s with
  | opening backend kind => exact adds_opening ctx backend kind
  | event backend kind e => exact adds_event ctx backend kind e
  | closing backend kind => exact adds_closing ctx backend kind
  | convert backend kind lines => exact adds_convert ctx backend kind lines
  | reset =>
    have houtcome : (Turn.mk ctx .reset).outcome = ⟨.ok .nothing, ctx.reset, []⟩ :=
      Step.outcome_of_not_tellsIndex rfl ctx
    have hresets : (Turn.mk ctx .reset).resets isCarriedOut = true := by
      rw [resets, isCarriedOut_of_ok (congrArg Outcome.answer houtcome)]
      rfl
    refine ⟨fun _ => ?_, fun h => absurd (hresets.symm.trans h) (by decide)⟩
    rw [houtcome, leftNames, leftCount]
    simp [Context.reset, Step.passEvents]
  | nextIndex =>
    have houtcome : (Turn.mk ctx .nextIndex).outcome =
        ⟨.ok (.index ctx.index), { ctx with index := ctx.index + 1 }, []⟩ :=
      Step.outcome_of_not_tellsIndex rfl ctx
    refine ⟨fun h => absurd h Bool.false_ne_true, fun _ => ?_⟩
    rw [houtcome, names_of_noLine rfl]
    simp [count, Step.lineEvents, Step.takesIndex]
  | assign a => cases h

end Turn

/-- The steps of a session, each with the context that it is taken in. -/
def turns (ctx : Context) : List Step → List Turn
  | [] => []
  | s :: steps => ⟨ctx, s⟩ :: turns (s.outcome ctx).context steps

theorem turns_append (ctx : Context) (steps more : List Step) :
    turns ctx (steps ++ more) = turns ctx steps ++ turns (contextAfter ctx steps) more := by
  induction steps generalizing ctx with
  | nil => rfl
  | cons s steps ih =>
    rw [List.cons_append, turns, turns, ih, List.cons_append]
    rfl

theorem runSession_eq_map (ctx : Context) (steps : List Step) :
    runSession ctx steps = (turns ctx steps).map Turn.outcome := by
  induction steps generalizing ctx with
  | nil => rfl
  | cons s steps ih => rw [runSession, turns, List.map_cons, ih, Turn.outcome]

theorem getElem?_turns (ctx : Context) (steps : List Step) (n : Nat) :
    (turns ctx steps)[n]? = steps[n]?.map (Turn.mk (contextAfter ctx (steps.take n))) := by
  induction steps generalizing ctx n with
  | nil => rfl
  | cons s steps ih =>
    cases n with
    | zero => rfl
    | succ n => exact ih (s.outcome ctx).context n

/-- The last step that has reset the context. -/
def lastReset? (counts : Turn → Bool) (history : List Turn) : Option Turn :=
  history.reverse.find? (·.resets counts)

/-- The steps behind the last one that has reset the context. -/
def sinceReset (counts : Turn → Bool) (history : List Turn) : List Turn :=
  history.rtakeWhile fun m => !m.resets counts

/-- The names and the index are those that the last reset has left, or else those of the start, with
what all steps since then add. Of the steps only those are told that count. -/
structure Tallied (counts : Turn → Bool) (start : Context) (history : List Turn) (now : Context) :
    Prop where
  names : now.names = (lastReset? counts history).elim start.names (·.leftNames counts) ++
    (sinceReset counts history).flatMap (·.names counts)
  index : now.index =
    (lastReset? counts history).elim start.index (fun m => (m.leftCount counts : Int)) +
      ((sinceReset counts history).map (·.count counts)).sum
  provider : now.provider = start.provider
  binary : now.binary = start.binary
  probePrefix : now.probePrefix = start.probePrefix

variable {start now : Context} {history : List Turn} {m : Turn}

theorem tallied_nil (counts : Turn → Bool) (ctx : Context) : Tallied counts ctx [] ctx := by
  constructor <;> simp [lastReset?, sinceReset]

theorem Step.keepsPlace_of_not_assignment {s : Step} (h : s.isAssignment = false) :
    s.keepsPlace = true := by
  cases s with
  | assign a => cases h
  | _ => rfl

/-- The step behind a history. -/
theorem Tallied.step (h : Tallied Turn.isCarriedOut start history m.before)
    (hassign : m.step.isAssignment = false) :
    Tallied Turn.isCarriedOut start (history ++ [m]) m.outcome.context := by
  have hadds := Turn.adds hassign
  have hunused := Step.unused_outcome (Step.keepsPlace_of_not_assignment hassign) m.before
  have hprovider : m.outcome.context.provider = m.before.provider :=
    congrArg (·.provider) hunused
  have hbinary : m.outcome.context.binary = m.before.binary := congrArg (·.binary) hunused
  have hplace : m.outcome.context.probePrefix = m.before.probePrefix :=
    congrArg (·.probePrefix) hunused
  refine ⟨?_, ?_, hprovider.trans h.provider, hbinary.trans h.binary, hplace.trans h.probePrefix⟩
  · cases hresets : m.resets Turn.isCarriedOut with
    | true => simp [lastReset?, sinceReset, hresets, (hadds.reset hresets).1]
    | false => simp [lastReset?, sinceReset, hresets, (hadds.added hresets).1, h.names]
  · cases hresets : m.resets Turn.isCarriedOut with
    | true => simp [lastReset?, sinceReset, hresets, (hadds.reset hresets).2]
    | false =>
      rw [(hadds.added hresets).2, h.index]
      simp [lastReset?, sinceReset, hresets]
      omega

theorem contextAfter_concat (ctx : Context) (steps : List Step) (s : Step) :
    contextAfter ctx (steps ++ [s]) = (s.outcome (contextAfter ctx steps)).context :=
  contextAfter_append ctx steps [s]

theorem tallied_contextAfter {steps : List Step} (h : ∀ s ∈ steps, s.isAssignment = false)
    (ctx : Context) :
    Tallied Turn.isCarriedOut ctx (turns ctx steps) (contextAfter ctx steps) := by
  -- From the end: the history grows by the step that is taken last.
  induction steps using List.reverseRecOn with
  | nil => exact tallied_nil _ ctx
  | append_singleton steps s ih =>
    have hbefore := ih fun s' hs' => h s' (by simp [hs'])
    rw [turns_append, contextAfter_concat]
    exact hbefore.step (m := ⟨contextAfter ctx steps, s⟩) (h s (by simp))

theorem Context.IsTextual.of_tallied {counts : Turn → Bool} (htext : start.IsTextual)
    (h : Tallied counts start history now) : now.IsTextual where
  provider := h.provider ▸ htext.provider
  binary := h.binary ▸ htext.binary
  probePrefix := h.probePrefix ▸ htext.probePrefix

/-- With strings in the context only an index that is too long makes a step fail that is carried
out. -/
theorem Turn.isCarriedOut_iff (htext : m.before.IsTextual) :
    m.isCarriedOut = true ↔ m.succeeds = true ∨ Overlong m.before m.step := by
  cases hanswer : m.outcome.answer with
  | ok answer =>
    have hsucceeds : m.succeeds = true := by
      rw [succeeds, hanswer]
      rfl
    exact ⟨fun _ => .inl hsucceeds, fun _ => isCarriedOut_of_ok hanswer⟩
  | error fault =>
    have hfails : m.succeeds = false := by
      rw [succeeds, hanswer]
      rfl
    rw [isCarriedOut_of_error hanswer, hfails]
    rcases (Step.answer_eq_error_iff htext).mp hanswer with hrefused | ⟨hlong, rfl⟩
    · have hnot : ¬Overlong m.before m.step := fun hlong => by
        have hboth := hrefused.isRefusal
        rw [hlong.fault_eq hanswer] at hboth
        cases hboth
      simp [hrefused.isRefusal, hnot]
    · simp [Fault.isRefusal, hlong]

/-- After every step of a session without assignments names and index are the tally of the steps
since the last reset, and what else is in the context is as at the start. With strings in the
context it is the steps that succeed that count, and those that fail on an index of too many
digits. -/
theorem runSession_tallied {steps : List Step} (h : ∀ s ∈ steps, s.isAssignment = false)
    (ctx : Context) :
    (∀ n o, (runSession ctx steps)[n]? = some o →
      Tallied Turn.isCarriedOut ctx (turns ctx (steps.take (n + 1))) o.context ∧
        (steps[n]? = some .nextIndex →
          o.answer = .ok (.index (contextAfter ctx (steps.take n)).index))) ∧
      (ctx.IsTextual → ∀ m ∈ turns ctx steps,
        m.isCarriedOut = true ↔ m.succeeds = true ∨ Overlong m.before m.step) := by
  -- What holds at the end of a session holds after every step: the steps up to it are a session.
  have htake (n : Nat) : Tallied Turn.isCarriedOut ctx (turns ctx (steps.take n))
      (contextAfter ctx (steps.take n)) :=
    tallied_contextAfter (fun s hs => h s (List.mem_of_mem_take hs)) ctx
  refine ⟨fun n o ho => ?_, fun htext m hm => ?_⟩
  · rw [runSession_eq_map, List.getElem?_map, getElem?_turns, Option.map_map,
      Option.map_eq_some_iff] at ho
    obtain ⟨s, hs, rfl⟩ := ho
    refine ⟨?_, fun hnext => ?_⟩
    · have hcontext : contextAfter ctx (steps.take (n + 1)) =
          (s.outcome (contextAfter ctx (steps.take n))).context := by
        rw [List.take_add_one, hs]
        exact contextAfter_concat ctx (steps.take n) s
      exact hcontext ▸ htake (n + 1)
    · obtain rfl := Option.some.inj (hs.symm.trans hnext)
      exact congrArg Outcome.answer (Step.outcome_of_not_tellsIndex rfl _)
  · obtain ⟨n, hn⟩ := List.mem_iff_getElem?.mp hm
    rw [getElem?_turns, Option.map_eq_some_iff] at hn
    obtain ⟨s, -, rfl⟩ := hn
    exact Turn.isCarriedOut_iff (htext.of_tallied (htake n))

/-- Steps that reset, count and register, one of which fails. -/
def mixedSteps : List Step :=
  [.nextIndex, .opening "ust" "c", .event "ust" "c" (Event.parse "open(int fd) \"%d\""),
    .convert "nop" "d" ["read(int fd) \"\""], .convert "lttng" "c" [], .nextIndex,
    .convert "simple" "h" ["seek(int to) \"\"", "disable close(void) \"\""],
    .event "stderr" "c" (Event.parse "write(int fd) \"\""), .reset, .nextIndex]

theorem runSession_tallied_mixedSteps :
    (∀ s ∈ mixedSteps, s.isAssignment = false) ∧
      (∀ n o, (runSession probeContext mixedSteps)[n]? = some o →
        Tallied Turn.isCarriedOut probeContext (turns probeContext (mixedSteps.take (n + 1)))
            o.context ∧
          (mixedSteps[n]? = some .nextIndex →
            o.answer = .ok (.index (contextAfter probeContext (mixedSteps.take n)).index))) ∧
      (probeContext.IsTextual → ∀ m ∈ turns probeContext mixedSteps,
        m.isCarriedOut = true ↔ m.succeeds = true ∨ Overlong m.before m.step) := by
  have h : ∀ s ∈ mixedSteps, s.isAssignment = false := by
    simp [mixedSteps, Step.isAssignment]
  exact ⟨h, runSession_tallied h probeContext⟩

/-- Behind one step that does not count the tally is that of the start. -/
theorem Tallied.eq_of_not_counts {counts : Turn → Bool} (h : Tallied counts start [m] now)
    (hcounts : counts m = false) (hindex : m.step.takesIndex = false) :
    now.names = start.names ∧ now.index = start.index := by
  have hresets : m.resets counts = false := by rw [Turn.resets, hcounts, Bool.and_false]
  have hlast : lastReset? counts [m] = none := by simp [lastReset?, hresets]
  have hsince : sinceReset counts [m] = [m] := by simp [sinceReset, List.rtakeWhile, hresets]
  have hnames := h.names
  have htally := h.index
  rw [hlast, hsince] at hnames htally
  simp [Turn.names, Turn.count, Turn.fulfils, hcounts, hindex] at hnames htally
  exact ⟨hnames, htally⟩

/-- A used context whose provider is a number, which has no spelling in capitals. -/
def numericContext : Context := { provider := .int 5, index := 7, names := ["ghost"] }

/-- An index that has one digit too many. -/
def longContext : Context := { index := Value.numberLimit }

def brokenPass : Step := .convert Backend.dtrace.name Kind.header.flag ["f(int a)"]

def brokenLine : Step := .event Backend.simple.name Kind.header.flag (Event.parse "f(int a)")

/-- A tally of the steps that succeed misses those that break off behind their first change of the
context: a pass that has cleared it, and a line that has taken an index. -/
theorem not_runSession_tallied_succeeds :
    (∃ o, runSession numericContext [brokenPass] = [o] ∧
        ¬Tallied Turn.succeeds numericContext (turns numericContext [brokenPass]) o.context) ∧
      ∃ o, longContext.IsTextual ∧ runSession longContext [brokenLine] = [o] ∧
        ¬Tallied Turn.succeeds longContext (turns longContext [brokenLine]) o.context := by
  refine ⟨⟨_, rfl, fun h => ?_⟩, _, ⟨⟨_, rfl⟩, .inl rfl, .inl rfl⟩, rfl, fun h => ?_⟩
  · have hfails : (Turn.mk numericContext brokenPass).succeeds = false := by decide +kernel
    have hnames : (brokenPass.outcome numericContext).context.names = [] := by decide +kernel
    have hkept := (h.eq_of_not_counts hfails rfl).1
    rw [hnames] at hkept
    exact absurd hkept (by decide)
  · have hlong : Overlong longContext brokenLine :=
      ⟨⟨.simple, .inl rfl, .inr ⟨_, rfl⟩⟩, Nat.le_refl _⟩
    have hfails : (Turn.mk longContext brokenLine).succeeds = false := by
      rw [Turn.succeeds, Turn.outcome, hlong.outcome_eq]
      rfl
    have hindex : (brokenLine.outcome longContext).context.index = longContext.index + 1 := by
      rw [hlong.outcome_eq]
      rfl
    have hkept := (h.eq_of_not_counts hfails rfl).2
    omega

end Tracepoint
