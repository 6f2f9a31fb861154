import Tracepoint.Proofs.Tally

namespace Tracepoint

/-- The context that is due behind a conversion: what the lines have counted, from zero on. -/
def Context.due (ctx : Context) (b : Backend) (k : Kind) (lines : List String) : Context :=
  { ctx with
    index := if isNumbered (b, k) then (enabledEvents lines).length else 0
    names := if isRegistering (b, k) then (enabledEvents lines).map (·.name) else [] }

variable {b : Backend} {k : Kind} {t : Template} {ctx ctx' : Context} {lines text : List String}

theorem Context.due_congr (h : ctx.unused = ctx'.unused) (b : Backend) (k : Kind)
    (lines : List String) : ctx.due b k lines = ctx'.due b k lines := by
  obtain ⟨hprovider, hbinary, hplace⟩ := unused_eq_iff.mp h
  simp only [due, hprovider, hbinary, hplace]

theorem Context.due_of_isSilent (h : isSilent (b, k) = true) (ctx : Context)
    (lines : List String) : ctx.due b k lines = ctx.reset := by
  obtain ⟨hnumbered, hregistering⟩ := not_tallied_of_isSilent h
  simp [due, hnumbered, hregistering, reset]

theorem Context.reset_eq_iff : ctx = ctx.reset ↔ ctx.index = 0 ∧ ctx.names = [] := by
  cases ctx
  simp [reset]

/-- A conversion that succeeds has begun and has advanced the context over all events that are not
switched off. -/
theorem exists_context_convert_eq (h : (convert b k ctx (.ofLines lines)).result = .ok text) :
    ∃ t, b.template k = .ok t ∧
      (convert b k ctx (.ofLines lines)).context =
        t.passed (enabledEvents lines) (t.begun ctx) := by
  have hbegins : Begins b k ctx := by
    by_contra hnot
    obtain ⟨⟨fault, hfault, -⟩, -⟩ := convert_of_not_begins hnot (.ofLines lines)
    rw [hfault] at h
    cases h
  obtain ⟨t, ht, hstarts⟩ := begins_iff.mp hbegins
  refine ⟨t, ht, ?_⟩
  cases hhalt : t.halt? (t.begun ctx) lines with
  | none => rw [convert_ofLines ht hstarts lines (Template.halt?_eq_none_iff.mp hhalt)]
  | some halt =>
    rw [convert_of_halt ht hstarts hhalt] at h
    cases h

/-- Behind a reset it is the pass alone that counts. -/
theorem Template.passed_begun_of_clears (ht : b.template k = .ok t) (hclears : t.clears = true)
    (ctx : Context) (lines : List String) :
    t.passed (enabledEvents lines) (t.begun ctx) = ctx.due b k lines := by
  obtain ⟨-, hnumbered, hregisters⟩ := Template.tally_eq ht
  simp [passed, begun, hclears, hnumbered, hregisters, Context.reset, Context.due]

/-- Without one nothing is counted either. -/
theorem Template.passed_begun_of_not_clears (ht : b.template k = .ok t)
    (hclears : t.clears = false) (es : List Event) (ctx : Context) :
    t.passed es (t.begun ctx) = ctx := by
  obtain ⟨hsilent, hnumbered, hregisters⟩ := Template.tally_eq ht
  obtain ⟨hnotNumbered, hnotRegistering⟩ :=
    not_tallied_of_isSilent (r := (b, k)) (by simpa [hclears] using hsilent)
  simp [passed, begun, hclears, hnumbered, hregisters, hnotNumbered, hnotRegistering]

theorem context_convert_eq_due (h : (convert b k ctx (.ofLines lines)).result = .ok text)
    (hsilent : isSilent (b, k) = false) :
    (convert b k ctx (.ofLines lines)).context = ctx.due b k lines := by
  obtain ⟨t, ht, hcontext⟩ := exists_context_convert_eq h
  have hclears : t.clears = true := by simp [(Template.tally_eq ht).1, hsilent]
  rw [hcontext, Template.passed_begun_of_clears ht hclears]

theorem context_convert_of_isSilent (h : (convert b k ctx (.ofLines lines)).result = .ok text)
    (hsilent : isSilent (b, k) = true) : (convert b k ctx (.ofLines lines)).context = ctx := by
  obtain ⟨t, ht, hcontext⟩ := exists_context_convert_eq h
  have hclears : t.clears = false := by simp [(Template.tally_eq ht).1, hsilent]
  rw [hcontext, Template.passed_begun_of_not_clears ht hclears]

/-- The context behind the conversion does not depend on what had been counted in front of it. -/
def ForgetsPast (b : Backend) (k : Kind) (ctx : Context) (lines : List String) : Prop :=
  ∀ ctx' : Context, ctx'.unused = ctx.unused →
    (convert b k ctx' (.ofLines lines)).context = (convert b k ctx (.ofLines lines)).context

theorem forgetsPast_iff (h : (convert b k ctx (.ofLines lines)).result = .ok text) :
    ForgetsPast b k ctx lines ↔ isSilent (b, k) = false := by
  have hok {ctx' : Context} (hsame : ctx'.unused = ctx.unused) :
      (convert b k ctx' (.ofLines lines)).result = .ok text :=
    (convert_congr b k hsame lines).1.trans h
  constructor
  · intro hforgets
    by_contra hnot
    have hsilent : isSilent (b, k) = true := by simpa using hnot
    -- A silent pass keeps apart contexts that differ in the index.
    let moved : Context := { ctx with index := ctx.index + 1 }
    have hmoved : moved.unused = ctx.unused := rfl
    have hsame := hforgets moved hmoved
    rw [context_convert_of_isSilent (hok hmoved) hsilent,
      context_convert_of_isSilent h hsilent] at hsame
    have hindex : ctx.index + 1 = ctx.index := congrArg Context.index hsame
    omega
  · intro hsilent ctx' hsame
    rw [context_convert_eq_due (hok hsame) hsilent, context_convert_eq_due h hsilent,
      Context.due_congr hsame]

/-- Behind a conversion that succeeds the context is the one that is due, except for a silent pass
in a context that has been used: that pass leaves the context as it is, and is the only one whose
end depends on what came before. -/
theorem context_convert_eq_due_iff (h : (convert b k ctx (.ofLines lines)).result = .ok text) :
    let after := (convert b k ctx (.ofLines lines)).context
    (after = ctx.due b k lines ↔ (isSilent (b, k) = true → ctx.index = 0 ∧ ctx.names = [])) ∧
      (isSilent (b, k) = true → after = ctx) ∧ after.unused = ctx.unused ∧
      (ForgetsPast b k ctx lines ↔ isSilent (b, k) = false) := by
  refine ⟨?_, context_convert_of_isSilent h, unused_convert b k ctx lines, forgetsPast_iff h⟩
  cases hsilent : isSilent (b, k) with
  | false => simp [context_convert_eq_due h hsilent]
  | true =>
    rw [context_convert_of_isSilent h hsilent, Context.due_of_isSilent hsilent,
      Context.reset_eq_iff]
    simp

/-- In a used context a source that keeps the names, with an event that is switched off. -/
def keptLines : List String :=
  ["read(int fd) \"%d\"", "disable write(int fd) \"%d\"", "# none", "close(void) \"\""]

theorem context_convert_eq_due_iff_keptLines :
    ∃ text, (convert .ust .source probeContext (.ofLines keptLines)).result = .ok text ∧
      let after := (convert .ust .source probeContext (.ofLines keptLines)).context
      (after = probeContext.due .ust .source keptLines ↔
          (isSilent (.ust, .source) = true →
            probeContext.index = 0 ∧ probeContext.names = [])) ∧
        (isSilent (.ust, .source) = true → after = probeContext) ∧
        after.unused = probeContext.unused ∧
        (ForgetsPast .ust .source probeContext keptLines ↔ isSilent (.ust, .source) = false) := by
  have hbegins : Begins .ust .source probeContext := begins_iff.mpr ⟨Source.ust, rfl, rfl, rfl⟩
  have htext : probeContext.IsTextual := ⟨⟨_, rfl⟩, .inr ⟨_, rfl⟩, .inr ⟨_, rfl⟩⟩
  obtain ⟨text, hok, -⟩ := exists_convert_eq_ok hbegins htext keptLines
  exact ⟨text, hok, context_convert_eq_due_iff hok⟩

/-- The descriptor of `nop` is silent: behind it a used context is still a used one. -/
theorem not_context_convert_eq_due :
    ¬∀ (b : Backend) (k : Kind) (ctx : Context) (lines text : List String),
      (convert b k ctx (.ofLines lines)).result = .ok text →
        (convert b k ctx (.ofLines lines)).context = ctx.due b k lines := by
  intro hdue
  let ctx : Context := { index := 7, names := ["ghost"] }
  have hbegins : Begins .nop .descriptor ctx := begins_iff.mpr ⟨Template.silent, rfl, rfl, rfl⟩
  have htext : ctx.IsTextual := ⟨⟨_, rfl⟩, .inl rfl, .inl rfl⟩
  obtain ⟨text, hok, -⟩ := exists_convert_eq_ok hbegins htext ["f(int a) \"%d\""]
  have hcontext := hdue .nop .descriptor ctx _ text hok
  rw [context_convert_of_isSilent hok rfl] at hcontext
  have hindex : (7 : Int) = 0 := congrArg Context.index hcontext
  exact absurd hindex (by decide)

end Tracepoint
