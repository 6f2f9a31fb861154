import Tracepoint.Proofs.History
import Tracepoint.Proofs.Names

namespace Tracepoint

variable {b : Backend} {k : Kind} {t : Template} {ctx : Context} {value backend kind : Value}
variable {fault : Fault} {f : Failure}

theorem Backend.resolve_eq_error_iff : Backend.resolve value = .error f ↔
    (∀ b : Backend, value ≠ .str b.name) ∧ f = .unknownBackend value Backend.names := by
  constructor
  · intro h
    refine ⟨?_, ?_⟩
    · rintro b rfl
      simp [Backend.resolve, Backend.ofName?_name] at h
    · simp only [Backend.resolve] at h
      split at h
      · split at h
        · cases h
        · exact (Except.error.inj h).symm
      · exact (Except.error.inj h).symm
  · rintro ⟨hnot, rfl⟩
    cases value with
    | str s =>
      cases hs : Backend.ofName? s with
      | none => simp [Backend.resolve, hs]
      | some b => exact absurd (congrArg Value.str (Backend.name_of_ofName? hs).symm) (hnot b)
    | _ => rfl

theorem Kind.resolve_eq_error_iff : Kind.resolve value = .error fault ↔
    (∀ k : Kind, value ≠ .str k.flag) ∧ fault = .unknownKind value := by
  constructor
  · intro h
    refine ⟨?_, ?_⟩
    · rintro k rfl
      simp [Kind.resolve, Kind.ofFlag?_flag] at h
    · simp only [Kind.resolve] at h
      split at h
      · split at h
        · cases h
        · exact (Except.error.inj h).symm
      · exact (Except.error.inj h).symm
  · rintro ⟨hnot, rfl⟩
    cases value with
    | str s =>
      cases hs : Kind.ofFlag? s with
      | none => simp [Kind.resolve, hs]
      | some k => exact absurd (congrArg Value.str (Kind.flag_of_ofFlag? hs).symm) (hnot k)
    | _ => rfl

/-- The backend is looked up first. -/
theorem resolve_eq_error_iff : resolve backend kind = .error fault ↔
    (∀ b : Backend, backend ≠ .str b.name) ∧
        fault = .failure (.unknownBackend backend Backend.names) ∨
      ∃ b : Backend, backend = .str b.name ∧ (∀ k : Kind, kind ≠ .str k.flag) ∧
        fault = .unknownKind kind := by
  rw [resolve, Except.bind_error_iff, Except.mapError_error_iff]
  constructor
  · rintro (⟨f, hbackend, rfl⟩ | ⟨b, hbackend, h⟩)
    · obtain ⟨hnot, rfl⟩ := Backend.resolve_eq_error_iff.mp hbackend
      exact .inl ⟨hnot, rfl⟩
    · have hname := Backend.resolve_eq_ok (Except.mapError_ok_iff.mp hbackend)
      rcases Except.bind_error_iff.mp h with hkind | ⟨k, -, h⟩
      · obtain ⟨hnot, hfault⟩ := Kind.resolve_eq_error_iff.mp hkind
        exact .inr ⟨b, hname.symm, hnot, hfault⟩
      · exact absurd h Except.pure_ne_error
  · rintro (⟨hnot, rfl⟩ | ⟨b, rfl, hnot, rfl⟩)
    · exact .inl ⟨_, Backend.resolve_eq_error_iff.mpr ⟨hnot, rfl⟩, rfl⟩
    · refine .inr ⟨b, ?_, Except.bind_error_iff.mpr (.inl ?_)⟩
      · simp [Backend.resolve, Backend.ofName?_name, Except.mapError]
      · exact Kind.resolve_eq_error_iff.mpr ⟨hnot, rfl⟩

/-- Only DTrace has files other than header and source, and `nop` has them empty. -/
theorem Backend.template_eq_error_iff : b.template k = .error f ↔
    (k = .descriptor ∨ k = .tapset) ∧ b ≠ .dtrace ∧ b ≠ .nop ∧
      f = .unsupportedOutput k.generator b.name := by
  cases k <;> cases b <;> simp [Backend.template, eq_comm]

/-- Only a tapset has to be given something. -/
theorem Template.ready_eq_error_iff (ht : b.template k = .ok t) : t.ready ctx = .error f ↔
    b = .dtrace ∧ k = .tapset ∧
      (ctx.binary.isPresent = false ∧ f = .missingOption "--binary" Kind.tapset.generator ∨
        ctx.binary.isPresent = true ∧ ctx.probePrefix.isPresent = false ∧
          f = .missingOption "--probe-prefix" Kind.tapset.generator) := by
  rcases Backend.template_cases ht with
    ⟨rfl, rfl⟩ | ⟨rfl, rfl⟩ | ⟨rfl, rfl, rfl⟩ | ⟨rfl, rfl, rfl⟩ | ⟨rfl, -, -, rfl⟩
  · cases b <;> simp [Header.template, Header.nop, Header.simple, Header.stderr, Header.ust,
      Header.dtrace]
  · cases b <;> simp [Source.template, Source.eventTable, Source.ust]
  · simp [Probe.descriptor]
  · cases hbinary : ctx.binary.isPresent <;> cases hplace : ctx.probePrefix.isPresent <;>
      simp [Probe.tapset, hbinary, hplace, eq_comm (b := f)]
  · simp [Template.silent]

namespace Step

/-- The names of the backend and of the kind that a step asks for. -/
def asks? : Step → Option (Value × Value)
  | .opening backend kind | .event backend kind _ | .closing backend kind
  | .convert backend kind _ => some (backend, kind)
  | .reset | .nextIndex | .assign _ => none

def startsPass : Step → Bool
  | .opening _ _ | .convert _ _ _ => true
  | _ => false

end Step

/-- The errors with which steps are turned down, by what is wrong with the request. -/
inductive Refused (ctx : Context) (s : Step) : Fault → Prop
  | unknownBackend {backend kind : Value} (hs : s.asks? = some (backend, kind))
    (h : ∀ b : Backend, backend ≠ .str b.name) :
    Refused ctx s (.failure (.unknownBackend backend Backend.names))
  | unknownKind {b : Backend} {kind : Value} (hs : s.asks? = some (.str b.name, kind))
    (h : ∀ k : Kind, kind ≠ .str k.flag) : Refused ctx s (.unknownKind kind)
  | unsupported {b : Backend} {k : Kind} (hs : s.asks? = some (.str b.name, .str k.flag))
    (hk : k = .descriptor ∨ k = .tapset) (hdtrace : b ≠ .dtrace) (hnop : b ≠ .nop) :
    Refused ctx s (.failure (.unsupportedOutput k.generator b.name))
  | noBinary (hs : s.asks? = some (.str Backend.dtrace.name, .str Kind.tapset.flag))
    (hstarts : s.startsPass = true) (hbinary : ctx.binary.isPresent = false) :
    Refused ctx s (.failure (.missingOption "--binary" Kind.tapset.generator))
  | noPrefix (hs : s.asks? = some (.str Backend.dtrace.name, .str Kind.tapset.flag))
    (hstarts : s.startsPass = true) (hbinary : ctx.binary.isPresent = true)
    (hplace : ctx.probePrefix.isPresent = false) :
    Refused ctx s (.failure (.missingOption "--probe-prefix" Kind.tapset.generator))

/-- A step by itself that has to write an index of too many digits. Only the headers with numbers
tell the index. -/
structure Overlong (ctx : Context) (s : Step) : Prop where
  step : ∃ b : Backend, (b = .simple ∨ b = .stderr) ∧
    (s = .closing b.name Kind.header.flag ∨ ∃ e, s = .event b.name Kind.header.flag e)
  index : Value.numberLimit ≤ ctx.index.natAbs

variable {s : Step}

theorem resolveTemplate_of_resolve_error (h : resolve backend kind = .error fault) :
    resolveTemplate backend kind = .error fault := by
  rw [resolveTemplate, h]
  rfl

theorem resolveTemplate_of_template_error (h : b.template k = .error f) :
    resolveTemplate b.name k.flag = .error (.failure f) := by
  rw [resolveTemplate_name_flag, h]
  rfl

theorem resolveTemplate_eq_ok (h : resolveTemplate backend kind = .ok t) :
    ∃ b k, .str (Backend.name b) = backend ∧ .str (Kind.flag k) = kind ∧ b.template k = .ok t := by
  obtain ⟨⟨b, k⟩, hresolve, h⟩ := Except.bind_ok_iff.mp h
  obtain ⟨hbackend, hkind⟩ := resolve_eq_ok hresolve
  exact ⟨b, k, hbackend, hkind, Except.mapError_ok_iff.mp h⟩

/-- A step that gets no template does nothing. -/
theorem Step.outcome_of_resolveTemplate_error (hs : s.asks? = some (backend, kind))
    (h : resolveTemplate backend kind = .error fault) :
    s.outcome ctx = ⟨.error fault, ctx, []⟩ := by
  cases s with
  | convert backend' kind' lines =>
    obtain ⟨rfl, rfl⟩ := Prod.mk.inj (Option.some.inj hs)
    rw [outcome_of_not_tellsIndex rfl, inPass]
    rcases Except.bind_error_iff.mp h with hresolve | ⟨⟨b, k⟩, hresolve, htemplate⟩
    · rw [hresolve]
    · obtain ⟨f, ht, rfl⟩ := Except.mapError_error_iff.mp htemplate
      simp only [hresolve, convert_of_template_error ht]
      rfl
  | opening backend' kind' =>
    obtain ⟨rfl, rfl⟩ := Prod.mk.inj (Option.some.inj hs)
    rw [outcome_of_not_tellsIndex rfl, inPass, Outcome.ofTemplate, h]
  | event backend' kind' e =>
    obtain ⟨rfl, rfl⟩ := Prod.mk.inj (Option.some.inj hs)
    have htells : (event backend' kind' e).tellsIndex = false := by rw [tellsIndex, h]
    rw [outcome_of_not_tellsIndex htells, inPass, Outcome.ofTemplate, h]
  | closing backend' kind' =>
    obtain ⟨rfl, rfl⟩ := Prod.mk.inj (Option.some.inj hs)
    have htells : (closing backend' kind').tellsIndex = false := by rw [tellsIndex, h]
    rw [outcome_of_not_tellsIndex htells, inPass, Outcome.ofTemplate, h]
  | _ => cases hs

/-- A pass that is not given what its template needs does not begin: the context is checked before
it is cleared. -/
theorem Step.outcome_of_ready_error (hs : s.asks? = some (.str b.name, .str k.flag))
    (hstarts : s.startsPass = true) (ht : b.template k = .ok t) (h : t.ready ctx = .error f) :
    s.outcome ctx = ⟨.error (.failure f), ctx, []⟩ := by
  have hstart : t.start ctx = (.error (.failure f), ctx) := Template.start_of_ready_error h
  cases s with
  | opening backend kind =>
    obtain ⟨rfl, rfl⟩ := Prod.mk.inj (Option.some.inj hs)
    rw [outcome_of_not_tellsIndex rfl, inPass, Outcome.ofTemplate_ok ht, hstart]
    rfl
  | convert backend kind lines =>
    obtain ⟨rfl, rfl⟩ := Prod.mk.inj (Option.some.inj hs)
    rw [outcome_of_not_tellsIndex rfl, inPass]
    simp only [resolve_name_flag, convert_of_start_error ht (congrArg Prod.fst hstart), hstart]
    rfl
  | _ => cases hstarts

theorem Refused.isRefusal (h : Refused ctx s fault) : fault.isRefusal = true := by
  cases h <;> rfl

/-- A step that is turned down does nothing, whatever is in the context. -/
theorem Refused.outcome_eq (h : Refused ctx s fault) :
    s.outcome ctx = ⟨.error fault, ctx, []⟩ := by
  cases h with
  | @unknownBackend backend kind hs hnot =>
    have hresolve : resolve backend kind = _ := resolve_eq_error_iff.mpr (.inl ⟨hnot, rfl⟩)
    exact Step.outcome_of_resolveTemplate_error hs (resolveTemplate_of_resolve_error hresolve)
  | @unknownKind b kind hs hnot =>
    have hresolve : resolve _ kind = _ := resolve_eq_error_iff.mpr (.inr ⟨b, rfl, hnot, rfl⟩)
    exact Step.outcome_of_resolveTemplate_error hs (resolveTemplate_of_resolve_error hresolve)
  | unsupported hs hk hdtrace hnop =>
    have ht := Backend.template_eq_error_iff.mpr ⟨hk, hdtrace, hnop, rfl⟩
    exact Step.outcome_of_resolveTemplate_error hs (resolveTemplate_of_template_error ht)
  | noBinary hs hstarts hbinary =>
    have ht : Backend.dtrace.template .tapset = .ok Probe.tapset := rfl
    have hready := (Template.ready_eq_error_iff ht).mpr ⟨rfl, rfl, .inl ⟨hbinary, rfl⟩⟩
    exact Step.outcome_of_ready_error hs hstarts ht hready
  | noPrefix hs hstarts hbinary hplace =>
    have ht : Backend.dtrace.template .tapset = .ok Probe.tapset := rfl
    have hready := (Template.ready_eq_error_iff ht).mpr ⟨rfl, rfl, .inr ⟨hbinary, hplace, rfl⟩⟩
    exact Step.outcome_of_ready_error hs hstarts ht hready

theorem Step.tellsIndex_iff : s.tellsIndex = true ↔ ∃ b : Backend, (b = .simple ∨ b = .stderr) ∧
    (s = .closing b.name Kind.header.flag ∨ ∃ e, s = .event b.name Kind.header.flag e) := by
  constructor
  · intro h
    cases s with
    | event backend kind e =>
      rw [tellsIndex] at h
      split at h
      · next t hresolve =>
        obtain ⟨b, k, rfl, rfl, ht⟩ := resolveTemplate_eq_ok hresolve
        obtain ⟨rfl, hb, -⟩ := Template.of_tellsIndex ht h
        exact ⟨b, hb, .inr ⟨e, rfl⟩⟩
      · cases h
    | closing backend kind =>
      rw [tellsIndex] at h
      split at h
      · next t hresolve =>
        obtain ⟨b, k, rfl, rfl, ht⟩ := resolveTemplate_eq_ok hresolve
        obtain ⟨rfl, hb, -⟩ := Template.of_tellsIndex ht h
        exact ⟨b, hb, .inl rfl⟩
      · cases h
    | _ => cases h
  · rintro ⟨b, hb, hs⟩
    have htells : (Header.template b).tellsIndex = true := by
      rcases hb with rfl | rfl
      · rfl
      · rfl
    rcases hs with rfl | ⟨e, rfl⟩
    · rw [tellsIndex_closing (k := .header) rfl, htells]
    · rw [tellsIndex_event (k := .header) rfl, htells]

theorem overlong_iff :
    Overlong ctx s ↔ s.tellsIndex = true ∧ ctx.indexObstacle? = some .longNumber := by
  rw [Step.tellsIndex_iff, Context.indexObstacle?_eq]
  constructor
  · intro h
    exact ⟨h.step, if_neg (Nat.not_lt.mpr h.index)⟩
  · rintro ⟨hstep, hindex⟩
    refine ⟨hstep, Nat.not_lt.mp fun hlt => ?_⟩
    rw [if_pos hlt] at hindex
    cases hindex

theorem Overlong.outcome_eq (h : Overlong ctx s) :
    s.outcome ctx = { s.inPass ctx with answer := .error (.unwritable .longNumber) } := by
  obtain ⟨htells, hindex⟩ := overlong_iff.mp h
  simp only [Step.outcome, hindex, htells, if_true]

theorem Overlong.fault_eq (h : Overlong ctx s) (hanswer : (s.outcome ctx).answer = .error fault) :
    fault = .unwritable .longNumber := by
  rw [h.outcome_eq] at hanswer
  exact (Except.error.inj hanswer).symm

theorem Step.outcome_of_not_overlong (h : ¬Overlong ctx s) : s.outcome ctx = s.inPass ctx := by
  cases htells : s.tellsIndex with
  | false => exact outcome_of_not_tellsIndex htells ctx
  | true =>
    refine outcome_of_index ?_ s
    cases hindex : ctx.indexObstacle? with
    | none => rfl
    | some obstacle =>
      rw [Context.indexObstacle?_eq] at hindex
      split at hindex
      · cases hindex
      · next hlong => exact absurd ⟨tellsIndex_iff.mp htells, Nat.not_lt.mp hlong⟩ h

/-- With strings in the context a step whose template can start succeeds in a pass. -/
theorem Step.exists_answer (htext : ctx.IsTextual) (hs : s.asks? = some (.str b.name, .str k.flag))
    (ht : b.template k = .ok t) (hready : s.startsPass = true → t.ready ctx = .ok ()) :
    ∃ answer, (s.inPass ctx).answer = .ok answer := by
  cases s with
  | opening backend kind =>
    obtain ⟨rfl, rfl⟩ := Prod.mk.inj (Option.some.inj hs)
    rw [inPass_opening ht ⟨hready rfl, htext.openingObstacle ht⟩]
    exact ⟨_, rfl⟩
  | event backend kind e =>
    obtain ⟨rfl, rfl⟩ := Prod.mk.inj (Option.some.inj hs)
    rw [inPass_event ht (htext.obstacle ht)]
    exact ⟨_, rfl⟩
  | closing backend kind =>
    obtain ⟨rfl, rfl⟩ := Prod.mk.inj (Option.some.inj hs)
    rw [inPass_closing ht]
    exact ⟨_, rfl⟩
  | convert backend kind lines =>
    obtain ⟨rfl, rfl⟩ := Prod.mk.inj (Option.some.inj hs)
    have hbegins : Begins b k ctx :=
      begins_iff.mpr ⟨t, ht, hready rfl, htext.openingObstacle ht⟩
    obtain ⟨text, htext, -⟩ := exists_convert_eq_ok hbegins htext lines
    simp only [inPass, resolve_name_flag, htext]
    exact ⟨_, rfl⟩
  | _ => cases hs

/-- A step that is not turned down has a template, and its context what a pass needs to begin. -/
theorem Step.refused_or_ready (ctx : Context) (hs : s.asks? = some (backend, kind)) :
    (∃ fault, Refused ctx s fault) ∨
      ∃ b k t, .str (Backend.name b) = backend ∧ .str (Kind.flag k) = kind ∧
        b.template k = .ok t ∧ (s.startsPass = true → t.ready ctx = .ok ()) := by
  -- The cases follow the order of the checks.
  cases hresolve : resolve backend kind with
  | error fault =>
    rcases resolve_eq_error_iff.mp hresolve with ⟨hnot, rfl⟩ | ⟨b, rfl, hnot, rfl⟩
    · exact .inl ⟨_, .unknownBackend hs hnot⟩
    · exact .inl ⟨_, .unknownKind hs hnot⟩
  | ok request =>
    obtain ⟨b, k⟩ := request
    obtain ⟨rfl, rfl⟩ := resolve_eq_ok hresolve
    cases ht : b.template k with
    | error f =>
      obtain ⟨hk, hdtrace, hnop, rfl⟩ := Backend.template_eq_error_iff.mp ht
      exact .inl ⟨_, .unsupported hs hk hdtrace hnop⟩
    | ok t =>
      by_cases hready : s.startsPass = true → t.ready ctx = .ok ()
      · exact .inr ⟨b, k, t, rfl, rfl, ht, hready⟩
      · obtain ⟨hstarts, hnot⟩ := Classical.not_imp.mp hready
        cases hfails : t.ready ctx with
        | ok ready => exact absurd hfails hnot
        | error f =>
          obtain ⟨rfl, rfl, ⟨hbinary, -⟩ | ⟨hbinary, hplace, -⟩⟩ :=
            (Template.ready_eq_error_iff ht).mp hfails
          · exact .inl ⟨_, .noBinary hs hstarts hbinary⟩
          · exact .inl ⟨_, .noPrefix hs hstarts hbinary hplace⟩

/-- With strings in the context there is no other way for a step to fail within a pass. -/
theorem Refused.of_error (htext : ctx.IsTextual) (hlong : ¬Overlong ctx s)
    (h : (s.outcome ctx).answer = .error fault) : Refused ctx s fault := by
  cases hs : s.asks? with
  | none =>
    rw [Step.outcome_of_not_overlong hlong] at h
    cases s with
    | reset => cases h
    | nextIndex => cases h
    | assign a => cases h
    | _ => cases hs
  | some names =>
    rcases Step.refused_or_ready ctx hs with
      ⟨other, hrefused⟩ | ⟨b, k, t, hbackend, hkind, ht, hready⟩
    · rw [hrefused.outcome_eq] at h
      obtain rfl := Except.error.inj h
      exact hrefused
    · have hasks : s.asks? = some (.str b.name, .str k.flag) := by rw [hs, hbackend, hkind]
      obtain ⟨answer, hanswer⟩ := Step.exists_answer htext hasks ht hready
      rw [Step.outcome_of_not_overlong hlong, hanswer] at h
      cases h

/-- With strings in the context a step is turned down, or its index is too long, or it succeeds. -/
theorem Step.answer_eq_error_iff (htext : ctx.IsTextual) :
    (s.outcome ctx).answer = .error fault ↔
      Refused ctx s fault ∨ Overlong ctx s ∧ fault = .unwritable .longNumber := by
  constructor
  · intro h
    by_cases hlong : Overlong ctx s
    · exact .inr ⟨hlong, hlong.fault_eq h⟩
    · exact .inl (.of_error htext hlong h)
  · intro h
    rcases h with hrefused | ⟨hlong, rfl⟩
    · rw [hrefused.outcome_eq]
    · rw [hlong.outcome_eq]

/-- A step of a session that is turned down, behind some steps and ahead of others, changes nothing:
not the context, and none of the outcomes behind it. Where strings are in the context all errors are
of this kind, but for those of an index that is too long to be written. -/
structure LeavesNoTrace (start : Context) (before : List Step) (s : Step) (more : List Step) :
    Prop where
  unchanged : ∀ fault, Refused (contextAfter start before) s fault →
    s.outcome (contextAfter start before) = ⟨.error fault, contextAfter start before, []⟩
  skipped : ∀ fault, Refused (contextAfter start before) s fault →
    ∃ later, runSession start (before ++ more) = runSession start before ++ later ∧
      runSession start (before ++ s :: more) =
        runSession start before ++ ⟨.error fault, contextAfter start before, []⟩ :: later
  failures : (contextAfter start before).IsTextual → ∀ fault,
    (s.outcome (contextAfter start before)).answer = .error fault ↔
      Refused (contextAfter start before) s fault ∨
        Overlong (contextAfter start before) s ∧ fault = .unwritable .longNumber

theorem runSession_leavesNoTrace (start : Context) (before : List Step) (s : Step)
    (more : List Step) : LeavesNoTrace start before s more where
  unchanged _ h := h.outcome_eq
  skipped fault h := by
    refine ⟨runSession (contextAfter start before) more, runSession_append start before more, ?_⟩
    rw [runSession_append, runSession, h.outcome_eq]
  failures htext _ := Step.answer_eq_error_iff htext

/-- Steps that leave an index and a name in the context. -/
def busySteps : List Step :=
  [.opening "ust" "c", .event "ust" "c" (Event.parse "open(int fd) \"%d\""), .nextIndex]

theorem runSession_leavesNoTrace_noBinary :
    Refused (contextAfter {} busySteps) (.convert "dtrace" "stap" ["read(int fd) \"\""])
        (.failure (.missingOption "--binary" Kind.tapset.generator)) ∧
      LeavesNoTrace {} busySteps (.convert "dtrace" "stap" ["read(int fd) \"\""])
        [.nextIndex, .closing "ust" "c"] := by
  have hkeeps : ∀ s ∈ busySteps, s.keepsPlace = true := List.all_eq_true.mp rfl
  have hunused := unused_contextAfter hkeeps {}
  have hbinary : (contextAfter {} busySteps).binary = .null := congrArg (·.binary) hunused
  have hmissing : (contextAfter {} busySteps).binary.isPresent = false := by
    rw [hbinary]
    rfl
  exact ⟨.noBinary rfl rfl hmissing, runSession_leavesNoTrace _ _ _ _⟩

end Tracepoint
