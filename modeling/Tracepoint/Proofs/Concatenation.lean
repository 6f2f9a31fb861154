import Tracepoint.Proofs.Disabling
import Tracepoint.Proofs.History
import Tracepoint.Proofs.Ordinals

namespace Tracepoint

variable {b : Backend} {k : Kind} {t : Template} {ctx ctx' : Context}

def eventSteps (b : Backend) (k : Kind) (lines : List String) : List Step :=
  (readEvents lines).map (eventStep b k)

/-- The file without the lines of its opening, and without the empty line and the lines of its
closing. -/
def bodyLines (b : Backend) (k : Kind) (ctx : Context) (lines : List String) :
    Except Fault (List String) := do
  let c := convert b k ctx (.ofLines lines)
  let opening ← ((Step.opening b.name k.flag).inPass ctx).lines
  let closing ← ((Step.closing b.name k.flag).inPass c.context).lines
  let file ← c.result
  return (file.drop opening.length).rdrop (closing.length + 1)

theorem bodyLines_eq (ht : b.template k = .ok t) (hstarts : t.Starts ctx)
    (lines : List String) :
    bodyLines b k ctx lines = stepLines (t.begun ctx) (eventSteps b k lines) := by
  obtain ⟨hresult, hcontext⟩ := convert_eq_steps (begins_iff.mpr ⟨t, ht, hstarts⟩) lines
  rw [contextAfter_passSteps ht hstarts] at hcontext
  rw [passLines_eq ht hstarts] at hresult
  rw [bodyLines, inPass_opening ht hstarts, inPass_closing ht, Outcome.lines_mk, Outcome.lines_mk,
    hresult, hcontext, eventSteps]
  cases stepLines (t.begun ctx) ((readEvents lines).map (eventStep b k)) with
  | error fault => rfl
  | ok body =>
    have hcut (opening closing : List String) :
        ((opening ++ body ++ "" :: closing).drop opening.length).rdrop (closing.length + 1) =
          body := by
      have hlength : closing.length + 1 = ("" :: closing).length := rfl
      rw [List.append_assoc, List.drop_left, hlength, List.rdrop_append_length]
    exact congrArg Except.ok (hcut _ _)

/-- Nothing else is missing from the body. -/
theorem convert_eq_bodyLines (h : Begins b k ctx) (lines : List String) :
    let c := convert b k ctx (.ofLines lines)
    c.result = (do
      let opening ← ((Step.opening b.name k.flag).inPass ctx).lines
      let body ← bodyLines b k ctx lines
      let closing ← ((Step.closing b.name k.flag).inPass c.context).lines
      return opening ++ body ++ "" :: closing) := by
  obtain ⟨t, ht, hstarts⟩ := begins_iff.mp h
  obtain ⟨hresult, hcontext⟩ := convert_eq_steps h lines
  rw [contextAfter_passSteps ht hstarts] at hcontext
  simp only [hresult, passLines_eq ht hstarts, hcontext, bodyLines_eq ht hstarts, eventSteps,
    inPass_opening ht hstarts, inPass_closing ht, Outcome.lines_mk]
  rfl

/-- The headers whose functions bear the numbers of their events. -/
inductive BearsNumbers : Backend → Kind → (Nat → Event → List String) → Prop
  | simple : BearsNumbers .simple .header Header.recordFunction
  | stderr : BearsNumbers .stderr .header Header.printFunction

/-- No function of the file bears a number. -/
def BearsNone (b : Backend) (k : Kind) : Prop := ∀ function, ¬BearsNumbers b k function

/-- The numbers of the events from `n` on. One that is switched off takes none. -/
def numbering (n : Nat) : List Event → List (Option Nat)
  | [] => []
  | e :: es => if e.disabled then none :: numbering n es else some n :: numbering (n + 1) es

/-- Functions for events with their numbers, each behind an empty line. -/
def numberedLines (function : Nat → Event → List String) :
    List Event → List (Option Nat) → List String
  | e :: es, none :: numbers =>
    "" :: Header.idleFunction e ++ numberedLines function es numbers
  | e :: es, some n :: numbers => "" :: function n e ++ numberedLines function es numbers
  | _, _ => []

theorem numbering_add (n m : Nat) (es : List Event) :
    numbering (n + m) es = (numbering n es).map (Option.map (· + m)) := by
  induction es generalizing n with
  | nil => rfl
  | cons e es ih =>
    rw [numbering, numbering]
    split
    · rw [ih, List.map_cons, Option.map_none]
    · have hnext : n + m + 1 = n + 1 + m := by omega
      rw [hnext, ih, List.map_cons, Option.map_some]

theorem BearsNumbers.exists_numbersEvents {function : Nat → Event → List String}
    (h : BearsNumbers b k function) :
    k = .header ∧ ∃ opening closing,
      NumbersEvents (Header.template b) function opening closing := by
  cases h with
  | simple => exact ⟨rfl, _, _, simple_numbersEvents⟩
  | stderr => exact ⟨rfl, _, _, stderr_numbersEvents⟩

theorem Template.body_numbered {function : Nat → Event → List String}
    {opening closing : List String} (h : NumbersEvents t function opening closing) (ctx : Context)
    (n : Nat) (es : List Event) :
    t.body (.off .header) { ctx with index := n } es =
      numberedLines function es (numbering n es) := by
  induction es generalizing n with
  | nil => rfl
  | cons e es ih =>
    rw [numbering]
    cases he : e.disabled with
    | true =>
      rw [body_cons_disabled _ _ _ he, advance_of_isStill (off_isStill _), ih]
      rfl
    | false =>
      have hadvance :
          t.advance e { ctx with index := n } = { ctx with index := (n + 1 : Nat) } := by
        simp [advance, h.numbered, h.registers]
      rw [body_cons_enabled _ _ _ he, hadvance, ih, h.fragment]
      rfl

/-- A fragment tells what files are generated for, and the index at most where it bears a number. -/
theorem Template.fragment_congr (ht : b.template k = .ok t) (hunused : ctx.unused = ctx'.unused)
    (hindex : BearsNone b k ∨ ctx.index = ctx'.index) : t.fragment ctx = t.fragment ctx' := by
  obtain ⟨hprovider, hbinary, hplace⟩ := Context.unused_eq_iff.mp hunused
  rcases Backend.template_cases ht with
    ⟨rfl, rfl⟩ | ⟨rfl, rfl⟩ | ⟨-, -, rfl⟩ | ⟨-, -, rfl⟩ | ⟨-, -, -, rfl⟩
  · cases b with
    | simple =>
      have hsame := hindex.resolve_left fun hnone => hnone _ .simple
      simp only [Header.template, Header.simple, hsame]
    | stderr =>
      have hsame := hindex.resolve_left fun hnone => hnone _ .stderr
      simp only [Header.template, Header.stderr, hsame]
    | dtrace => simp only [Header.template, Header.dtrace, Header.probeMacro, hprovider]
    | nop | ust => rfl
  · cases b <;> rfl
  · rfl
  · simp only [Probe.tapset, hbinary, hplace]
  · rfl

theorem Template.obstacle_congr_unused (ht : b.template k = .ok t)
    (hunused : ctx.unused = ctx'.unused) : t.obstacle? ctx = t.obstacle? ctx' := by
  obtain ⟨hprovider, hbinary, hplace⟩ := Context.unused_eq_iff.mp hunused
  exact obstacle_congr ht hprovider hbinary hplace

theorem stepLines_congr (ht : b.template k = .ok t) (es : List Event) :
    ∀ {ctx ctx' : Context}, ctx.unused = ctx'.unused →
      BearsNone b k ∨ ctx.index = ctx'.index →
      stepLines ctx (es.map (eventStep b k)) = stepLines ctx' (es.map (eventStep b k)) := by
  induction es with
  | nil => intros; rfl
  | cons e es ih =>
    intro ctx ctx' hunused hindex
    rw [List.map_cons, stepLines, stepLines]
    cases he : e.disabled with
    | true =>
      have hoff : (Template.off k).fragment ctx = (Template.off k).fragment ctx' := by
        cases k <;> rfl
      have hrest := ih hunused hindex
      simp only [inPass_eventStep_disabled he, Outcome.lines_mk, hoff, hrest]
    | false =>
      rw [eventStep_enabled he]
      cases ho : t.obstacle? ctx with
      | some fault =>
        have ho' := (Template.obstacle_congr_unused ht hunused).symm.trans ho
        rw [inPass_event_of_obstacle ht ho, inPass_event_of_obstacle ht ho']
        rfl
      | none =>
        have ho' := (Template.obstacle_congr_unused ht hunused).symm.trans ho
        have hnext : BearsNone b k ∨ (t.advance e ctx).index = (t.advance e ctx').index :=
          hindex.imp_right fun hsame => by rw [Template.advance, Template.advance, hsame]
        have hadvance : (t.advance e ctx).unused = (t.advance e ctx').unused := hunused
        have hfragment := Template.fragment_congr ht hunused hindex
        have hrest := ih hadvance hnext
        simp only [inPass_event ht ho, inPass_event ht ho', Outcome.lines_mk, hfragment, hrest]

/-- What a pass gives for `more` behind `lines`. Of the context only the index has moved on by then,
and only with the backends that have an event table. -/
def laterLines (b : Backend) (k : Kind) (ctx : Context) (lines more : List String) :
    Except Fault (List String) :=
  let taken := if b = .simple ∨ b = .stderr then (enabledEvents lines).length else 0
  stepLines { ctx with index := taken } (eventSteps b k more)

/-- What a conversion of lines put one behind the other has to do with those of the parts. -/
structure Concatenates (b : Backend) (k : Kind) (ctx : Context) (lines more : List String) :
    Prop where
  append : bodyLines b k ctx (lines ++ more) = (do
    let front ← bodyLines b k ctx lines
    let back ← laterLines b k ctx lines more
    return front ++ back)
  unnumbered : BearsNone b k → laterLines b k ctx lines more = bodyLines b k ctx more
  numbered : ∀ function, BearsNumbers b k function →
    let numbers := numbering 0 (readEvents more)
    bodyLines b k ctx more = .ok (numberedLines function (readEvents more) numbers) ∧
      laterLines b k ctx lines more = .ok (numberedLines function (readEvents more)
        (numbers.map (Option.map (· + (enabledEvents lines).length))))
  earlier : ∀ text, bodyLines b k ctx (lines ++ more) = .ok text →
    ∃ front, bodyLines b k ctx lines = .ok front ∧ front <+: text
  succeeds : ctx.IsTextual → ∃ text, bodyLines b k ctx (lines ++ more) = .ok text

namespace BearsNumbers

variable {function : Nat → Event → List String}

theorem stepLines_eq (h : BearsNumbers b k function) (ctx : Context) (n : Nat)
    (lines : List String) :
    stepLines { ctx with index := n } (eventSteps b k lines) =
      .ok (numberedLines function (readEvents lines) (numbering n (readEvents lines))) := by
  obtain ⟨rfl, opening, closing, hnumbers⟩ := h.exists_numbersEvents
  have hw : (Header.template b).Writes { ctx with index := n } (readEvents lines) :=
    .inl (hnumbers.obstacle _)
  rw [eventSteps, (steps_of_writes rfl _ hw).1, Template.body_numbered hnumbers]

theorem begun_eq (h : BearsNumbers b k function) (ht : b.template k = .ok t) (ctx : Context) :
    t.begun ctx = { ctx.reset with index := (0 : Nat) } := by
  cases h <;> cases ht <;> rfl

theorem index_contextAfter (h : BearsNumbers b k function) (ht : b.template k = .ok t)
    (ctx : Context) (lines : List String) :
    (contextAfter (t.begun ctx) (eventSteps b k lines)).index = (enabledEvents lines).length := by
  obtain ⟨rfl, opening, closing, hnumbers⟩ := h.exists_numbersEvents
  obtain rfl := Except.ok.inj ht
  have hw : (Header.template b).Writes ((Header.template b).begun ctx) (readEvents lines) :=
    .inl (hnumbers.obstacle _)
  rw [eventSteps, (steps_of_writes rfl _ hw).2, h.begun_eq rfl]
  simp [Template.passed, hnumbers.numbered, enabledEvents]

theorem laterLines_eq (h : BearsNumbers b k function) (ctx : Context) (lines more : List String) :
    laterLines b k ctx lines more =
      stepLines { ctx with index := (enabledEvents lines).length } (eventSteps b k more) := by
  cases h <;> rfl

end BearsNumbers

/-- Behind some lines the rest of a pass is taken up where they have left the numbers. -/
theorem stepLines_behind (ht : b.template k = .ok t) (ctx : Context) (lines more : List String) :
    stepLines (contextAfter (t.begun ctx) (eventSteps b k lines)) (eventSteps b k more) =
      laterLines b k ctx lines more := by
  have hkeeps : ∀ s ∈ eventSteps b k lines, s.keepsPlace = true := by
    intro s hs
    obtain ⟨e, -, rfl⟩ := List.mem_map.mp hs
    rfl
  have hunused : (contextAfter (t.begun ctx) (eventSteps b k lines)).unused = ctx.unused := by
    rw [unused_contextAfter hkeeps, t.unused_begun]
  by_cases hnone : BearsNone b k
  · exact stepLines_congr ht _ hunused (.inl hnone)
  · obtain ⟨function, hbears⟩ := not_forall_not.mp hnone
    rw [hbears.laterLines_eq]
    exact stepLines_congr ht _ hunused (.inr (hbears.index_contextAfter ht ctx lines))

theorem concatenates (h : Begins b k ctx) (lines more : List String) :
    Concatenates b k ctx lines more := by
  obtain ⟨t, ht, hstarts⟩ := begins_iff.mp h
  have hsteps : eventSteps b k (lines ++ more) = eventSteps b k lines ++ eventSteps b k more := by
    rw [eventSteps, readEvents_append, List.map_append, eventSteps, eventSteps]
  have happend : bodyLines b k ctx (lines ++ more) = (do
      let front ← bodyLines b k ctx lines
      let back ← laterLines b k ctx lines more
      return front ++ back) := by
    rw [bodyLines_eq ht hstarts, bodyLines_eq ht hstarts, hsteps, stepLines_append,
      stepLines_behind ht]
  refine ⟨happend, fun hnone => ?_, fun function hbears => ⟨?_, ?_⟩, fun text hok => ?_,
    fun htext => ?_⟩
  · rw [bodyLines_eq ht hstarts]
    exact stepLines_congr ht _ (t.unused_begun ctx).symm (.inl hnone)
  · rw [bodyLines_eq ht hstarts, hbears.begun_eq ht, hbears.stepLines_eq]
  · rw [hbears.laterLines_eq, hbears.stepLines_eq, ← numbering_add, Nat.zero_add]
  · rw [happend] at hok
    obtain ⟨front, hfront, hok⟩ := Except.bind_ok_iff.mp hok
    obtain ⟨back, -, hok⟩ := Except.bind_ok_iff.mp hok
    exact ⟨front, hfront, back, Except.pure_ok_iff.mp hok⟩
  · have hw : t.Writes (t.begun ctx) (readEvents (lines ++ more)) :=
      .inl ((htext.begun t).obstacle ht)
    exact ⟨_, (bodyLines_eq ht hstarts _).trans (steps_of_writes ht _ hw).1⟩

/-- Comments and an event that is switched off on both sides of the cut. -/
theorem concatenates_header :
    Begins .stderr .header probeContext ∧
      Concatenates .stderr .header probeContext
        ["# files", "open(int fd) \"%d\"", "disable seek(int to) \"\"", "read(int n) \"\""]
        ["disable lock(void) \"\"", "close(int fd) \"%d\"", "", "drop(void) \"\""] := by
  have h : Begins .stderr .header probeContext := begins_iff.mpr ⟨Header.stderr, rfl, rfl, rfl⟩
  exact ⟨h, concatenates h _ _⟩

end Tracepoint
