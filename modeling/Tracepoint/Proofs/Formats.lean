import Tracepoint.Proofs.Registration

namespace Tracepoint

open Text

/-- What can stand in front of a format: no quote, and an opening parenthesis with a closing one
somewhere behind it. -/
structure IsFront (front : String) : Prop where
  clear : '"' ∉ front.toList
  args : ')' ∈ after '(' front.toList

/-- Nothing is asked of the format; it can have quotes and parentheses. -/
def formatted (front format : String) : String := front ++ "\"" ++ format ++ "\""

/-- The second line is the first one, but for the format at its end. -/
inductive Reformatted : String → String → Prop
  | same (line : String) : Reformatted line line
  | format {front : String} (h : IsFront front) (f g : String) :
      Reformatted (formatted front f) (formatted front g)

theorem toList_formatted (front format : String) :
    (formatted front format).toList = front.toList ++ '"' :: (format.toList ++ ['"']) := by
  simp [formatted]

def Event.withFormat (e : Event) (format : String) : Event := { e with format := format }

theorem Event.withFormat_withFormat (e : Event) (f g : String) :
    (e.withFormat f).withFormat g = e.withFormat g := rfl

theorem Event.disabled_withFormat (e : Event) (format : String) :
    (e.withFormat format).disabled = e.disabled := rfl

theorem Event.name_withFormat (e : Event) (format : String) :
    (e.withFormat format).name = e.name := rfl

theorem Template.advance_withFormat (t : Template) (e : Event) (format : String) (ctx : Context) :
    t.advance (e.withFormat format) ctx = t.advance e ctx := rfl

/-- All scanners but the one for the format are done in front of the first quote. -/
theorem Event.ofChars_front {front : List Char} (hclear : '"' ∉ front)
    (hargs : ')' ∈ after '(' front) (format : List Char) :
    Event.ofChars (front ++ '"' :: (format ++ ['"'])) =
      (Event.ofChars front).withFormat (String.ofList format) := by
  have hparen : '(' ∈ front := mem_of_mem_after hargs
  have hhead : Event.head (front ++ '"' :: (format ++ ['"'])) = Event.head front := by
    rw [Event.head, before_append_of_mem hparen, Event.head]
  have htext : Event.argsOf (front ++ '"' :: (format ++ ['"'])) = Event.argsOf front := by
    rw [Event.argsOf, after_append_of_mem hparen, before_append_of_mem hargs, Event.argsOf]
  have hformat : between '"' (front ++ '"' :: (format ++ ['"'])) = format :=
    between_append_cons format hclear (by simp)
  simp only [Event.ofChars, Event.withFormat, hhead, htext, hformat]

/-- A front starts behind its blanks, and what the format is does not matter to that. -/
theorem IsFront.exists_cons {front : String} (h : IsFront front) :
    ∃ gap c rest, IsGap gap ∧ isBlank c = false ∧
      '"' ∉ c :: rest ∧ ')' ∈ after '(' (c :: rest) ∧
      ∀ format, (formatted front format).toList =
        gap ++ c :: (rest ++ '"' :: (format.toList ++ ['"'])) := by
  have hparen : '(' ∈ front.toList := mem_of_mem_after h.args
  rcases isGap_or_exists_cons front.toList with hgap | ⟨gap, c, rest, hgap, hc, hfront⟩
  · exact absurd (hgap _ hparen) (by decide)
  · have hclear := h.clear
    have hargs := h.args
    have hnot : '(' ∉ gap := fun hm => absurd (hgap _ hm) (by decide)
    rw [hfront, List.mem_append, not_or] at hclear
    rw [hfront, after_append_of_notMem hnot] at hargs
    refine ⟨gap, c, rest, hgap, hc, hclear.2, hargs, fun format => ?_⟩
    rw [toList_formatted, hfront, List.append_assoc, List.cons_append]

theorem isDeclaration_formatted {front : String} (h : IsFront front) (f g : String) :
    isDeclaration (formatted front f) = isDeclaration (formatted front g) := by
  obtain ⟨gap, c, rest, hgap, hc, -, -, hline⟩ := h.exists_cons
  rw [isDeclaration_of_gap_append hgap hc (hline f), isDeclaration_of_gap_append hgap hc (hline g)]

theorem Event.parse_formatted {front : String} (h : IsFront front) :
    ∃ e : Event, ∀ format, Event.parse (formatted front format) = e.withFormat format := by
  obtain ⟨gap, c, rest, hgap, hc, hclear, hargs, hline⟩ := h.exists_cons
  refine ⟨Event.ofChars (c :: rest), fun format => ?_⟩
  -- The closing quote is no blank, so that trimming leaves the format alone.
  have htrim : trim (formatted front format).toList =
      (c :: rest) ++ '"' :: (format.toList ++ ['"']) := by
    have hquote : isBlank '"' = false := by decide
    have hend := trimEnd_append_cons (rest ++ '"' :: format.toList) [] hquote
    simp only [List.append_assoc, List.cons_append] at hend
    rw [hline, trim_gap_append_cons hgap hc, hend]
    rfl
  rw [Event.parse, htrim, Event.ofChars_front hclear hargs, String.ofList_toList]

namespace Reformatted

variable {line line' : String}

theorem isDeclaration_eq (h : Reformatted line line') :
    isDeclaration line' = isDeclaration line := by
  cases h with
  | same => rfl
  | format h f g => exact isDeclaration_formatted h g f

theorem parse_eq (h : Reformatted line line') :
    ∃ format, Event.parse line' = (Event.parse line).withFormat format := by
  cases h with
  | same =>
    generalize Event.parse line = e
    exact ⟨e.format, rfl⟩
  | format h f g =>
    obtain ⟨e, he⟩ := Event.parse_formatted h
    exact ⟨g, by rw [he, he, Event.withFormat_withFormat]⟩

/-- What the two lines are read as: nothing, or an event each. -/
theorem read_cases (h : Reformatted line line') :
    (isDeclaration line = false ∧ isDeclaration line' = false) ∨
      (isDeclaration line = true ∧ isDeclaration line' = true ∧
        ∃ format, Event.parse line' = (Event.parse line).withFormat format) := by
  have hsame := h.isDeclaration_eq
  cases hd : isDeclaration line with
  | false => exact .inl ⟨rfl, hsame.trans hd⟩
  | true => exact .inr ⟨rfl, hsame.trans hd, h.parse_eq⟩

end Reformatted

/-- The fragments are the same whatever the formats of the events. -/
def Template.IgnoresFormats (t : Template) : Prop :=
  ∀ (ctx : Context) (e : Event) (format : String),
    t.fragment ctx (e.withFormat format) = t.fragment ctx e

/-- The two files that print formats. -/
def PrintsFormats (b : Backend) (k : Kind) : Prop :=
  b = .stderr ∧ k = .header ∨ b = .ust ∧ k = .source

theorem Template.off_ignoresFormats (k : Kind) : (off k).IgnoresFormats := by
  cases k <;> exact fun _ _ _ => rfl

theorem Backend.template_ignoresFormats {b : Backend} {k : Kind} {t : Template}
    (ht : b.template k = .ok t) (h : ¬PrintsFormats b k) : t.IgnoresFormats := by
  rcases Backend.template_cases ht with
    ⟨rfl, rfl⟩ | ⟨rfl, rfl⟩ | ⟨-, -, rfl⟩ | ⟨-, -, rfl⟩ | ⟨-, -, -, rfl⟩
  · cases b with
    | stderr => exact absurd (.inl ⟨rfl, rfl⟩) h
    | _ => exact fun _ _ _ => rfl
  · cases b with
    | ust => exact absurd (.inr ⟨rfl, rfl⟩) h
    | _ => exact fun _ _ _ => rfl
  · exact fun _ _ _ => rfl
  · exact fun _ _ _ => rfl
  · exact fun _ _ _ => rfl

section Passes

variable {lines lines' : List String}

theorem Template.halt?_reformatted (enabled : Template) (ctx : Context)
    (h : List.Forall₂ Reformatted lines lines') :
    enabled.halt? ctx lines' = enabled.halt? ctx lines := by
  have hfind : (lines'.findIdx? fun line => isDeclaration line && !(Event.parse line).disabled) =
      lines.findIdx? fun line => isDeclaration line && !(Event.parse line).disabled := by
    induction h with
    | nil => rfl
    | cons hline _ ih =>
      obtain ⟨format, hparse⟩ := hline.parse_eq
      rw [List.findIdx?_cons, List.findIdx?_cons, ih, hline.isDeclaration_eq, hparse,
        Event.disabled_withFormat]
  rw [halt?, halt?, hfind]

theorem Template.IgnoresFormats.event_withFormat {t : Template} (h : t.IgnoresFormats) (e : Event)
    (format : String) (ctx : Context) : t.event (e.withFormat format) ctx = t.event e ctx :=
  congrArg (·, t.advance e ctx) (h ctx e format)

theorem Template.render_reformatted {enabled off : Template} (henabled : enabled.IgnoresFormats)
    (hoff : off.IgnoresFormats) (h : List.Forall₂ Reformatted lines lines') (ctx : Context) :
    enabled.render off ctx lines' = enabled.render off ctx lines := by
  induction h generalizing ctx with
  | nil => rfl
  | @cons line line' lines lines' hline _ ih =>
    obtain ⟨format, hparse⟩ := hline.parse_eq
    have hrecord (e : Event) : disabledRecord (e.withFormat format) = disabledRecord e := rfl
    simp only [render, hline.isDeclaration_eq, hparse, Event.disabled_withFormat, hrecord,
      henabled.event_withFormat, hoff.event_withFormat, ih]

/-- A file that prints no format does not tell what the formats are: neither do the context, the
error or the log. -/
theorem convert_reformatted {b : Backend} {k : Kind} (hprints : ¬PrintsFormats b k)
    (h : List.Forall₂ Reformatted lines lines') (ctx : Context) :
    convert b k ctx (.ofLines lines') = convert b k ctx (.ofLines lines) := by
  cases ht : b.template k with
  | error f => rw [convert_of_template_error ht, convert_of_template_error ht]
  | ok t =>
    have henabled := Backend.template_ignoresFormats ht hprints
    have hoff := Template.off_ignoresFormats k
    rcases t.starts_or_fails ctx with hstarts | ⟨fault, hstart⟩
    · have hhalt := Template.halt?_reformatted t (t.begun ctx) h
      have hall := Template.render_reformatted henabled hoff h (t.begun ctx)
      have hfront (n : Nat) :=
        Template.render_reformatted henabled hoff (List.forall₂_take n h) (t.begun ctx)
      rw [convert_of_starts ht hstarts, convert_of_starts ht hstarts]
      simp only [Input.ofLines, hhalt, hall, hfront]
    · rw [convert_of_start_error ht hstart, convert_of_start_error ht hstart]

/-- The fragments for the events of two lists of lines, side by side. Those of events that are
switched off are the same ones. Every other one has a line that `call` gives. All its other lines
are the same, and so is that one where the two lists have the same line. -/
inductive DifferIn (call : Event → String) :
    List String → List String → List (List String) → List (List String) → Prop
  | nil : DifferIn call [] [] [] []
  | idle {line line' lines lines' fragments fragments'}
      (hd : isDeclaration line = false) (hd' : isDeclaration line' = false)
      (h : DifferIn call lines lines' fragments fragments') :
      DifferIn call (line :: lines) (line' :: lines') fragments fragments'
  | disabled {line line' lines lines' fragments fragments'} (fragment : List String)
      (hd : isDeclaration line = true) (hd' : isDeclaration line' = true)
      (he : (Event.parse line).disabled = true) (he' : (Event.parse line').disabled = true)
      (h : DifferIn call lines lines' fragments fragments') :
      DifferIn call (line :: lines) (line' :: lines') (fragment :: fragments)
        (fragment :: fragments')
  | enabled {line line' lines lines' fragments fragments'} (front back : List String)
      (hd : isDeclaration line = true) (hd' : isDeclaration line' = true)
      (he : (Event.parse line).disabled = false) (he' : (Event.parse line').disabled = false)
      (h : DifferIn call lines lines' fragments fragments') :
      DifferIn call (line :: lines) (line' :: lines')
        ((front ++ call (Event.parse line) :: back) :: fragments)
        ((front ++ call (Event.parse line') :: back) :: fragments')

theorem DifferIn.length_eq {call : Event → String} {fragments fragments' : List (List String)}
    (h : DifferIn call lines lines' fragments fragments') :
    (fragments.flatMap fun fragment => "" :: fragment).length =
      (fragments'.flatMap fun fragment => "" :: fragment).length := by
  induction h with
  | nil => rfl
  | idle _ _ _ ih => exact ih
  | disabled fragment _ _ _ _ _ ih => simp [ih]
  | enabled front back _ _ _ _ _ ih => simp [ih]

/-- The format of an event shows in one line of its fragment only. -/
def Template.PrintsFormatIn (t : Template) (call : Event → String) : Prop :=
  ∀ (ctx : Context) (e : Event) (format : String), ∃ front back,
    t.fragment ctx e = front ++ call e :: back ∧
      t.fragment ctx (e.withFormat format) = front ++ call (e.withFormat format) :: back

theorem Template.fragments_differIn {enabled off : Template} {call : Event → String}
    (henabled : enabled.PrintsFormatIn call) (hoff : off.IgnoresFormats)
    (h : List.Forall₂ Reformatted lines lines') (ctx : Context) :
    DifferIn call lines lines' (enabled.fragments off ctx (readEvents lines))
      (enabled.fragments off ctx (readEvents lines')) := by
  induction h generalizing ctx with
  | nil => exact .nil
  | @cons line line' lines lines' hline _ ih =>
    rcases hline.read_cases with ⟨hd, hd'⟩ | ⟨hd, hd', format, hparse⟩
    · rw [readEvents_cons_of_not hd, readEvents_cons_of_not hd']
      exact .idle hd hd' (ih ctx)
    · rw [readEvents_cons_of_declaration hd, readEvents_cons_of_declaration hd']
      have hadvance (t : Template) :
          t.advance (Event.parse line') ctx = t.advance (Event.parse line) ctx := by
        rw [hparse, advance_withFormat]
      have hsame : (Event.parse line').disabled = (Event.parse line).disabled := by
        rw [hparse, Event.disabled_withFormat]
      cases he : (Event.parse line).disabled with
      | true =>
        rw [he] at hsame
        have hfragment :
            off.fragment ctx (Event.parse line') = off.fragment ctx (Event.parse line) := by
          rw [hparse, hoff]
        rw [fragments_cons_disabled _ _ _ he, fragments_cons_disabled _ _ _ hsame, hfragment,
          hadvance]
        exact .disabled _ hd hd' he hsame (ih _)
      | false =>
        rw [he] at hsame
        obtain ⟨front, back, hfirst, hsecond⟩ := henabled ctx (Event.parse line) format
        rw [← hparse] at hsecond
        rw [fragments_cons_enabled _ _ _ he, fragments_cons_enabled _ _ _ hsame, hfirst, hsecond,
          hadvance]
        exact .enabled front back hd hd' he hsame (ih _)

theorem names_reformatted (h : List.Forall₂ Reformatted lines lines') :
    (enabledEvents lines').map (·.name) = (enabledEvents lines).map (·.name) := by
  induction h with
  | nil => rfl
  | @cons line line' lines lines' hline _ ih =>
    rw [enabledEvents, enabledEvents] at ih ⊢
    rcases hline.read_cases with ⟨hd, hd'⟩ | ⟨hd, hd', format, hparse⟩
    · rwa [readEvents_cons_of_not hd, readEvents_cons_of_not hd']
    · rw [readEvents_cons_of_declaration hd, readEvents_cons_of_declaration hd', hparse,
        List.filter_cons, List.filter_cons, Event.disabled_withFormat]
      split
      · rw [List.map_cons, List.map_cons, ih, Event.name_withFormat]
      · exact ih

theorem Template.passed_reformatted (t : Template) (h : List.Forall₂ Reformatted lines lines')
    (ctx : Context) : t.passed (enabledEvents lines') ctx = t.passed (enabledEvents lines) ctx := by
  have hnames := names_reformatted h
  have hlength : (enabledEvents lines').length = (enabledEvents lines).length := by
    simpa using congrArg List.length hnames
  rw [passed, passed, hlength, hnames]

/-- Two conversions that succeed with the same context and with files that differ in no more than
the lines that `call` gives for events with different formats. -/
structure FilesDifferIn (call : Event → String) (lines lines' : List String) (c c' : Conversion) :
    Prop where
  files : ∃ file file' : List String, c.result = .ok file ∧ c'.result = .ok file' ∧
    file.length = file'.length ∧
    ∃ opening closing fragments fragments',
      file = opening ++ (fragments.flatMap fun fragment => "" :: fragment) ++ "" :: closing ∧
      file' = opening ++ (fragments'.flatMap fun fragment => "" :: fragment) ++ "" :: closing ∧
      DifferIn call lines lines' fragments fragments'
  context : c'.context = c.context

theorem convert_differIn {b : Backend} {k : Kind} {t : Template} {ctx : Context}
    {call : Event → String} (ht : b.template k = .ok t) (hstarts : t.Starts ctx)
    (ho : t.obstacle? (t.begun ctx) = none) (hcall : t.PrintsFormatIn call)
    (h : List.Forall₂ Reformatted lines lines') :
    FilesDifferIn call lines lines' (convert b k ctx (.ofLines lines))
      (convert b k ctx (.ofLines lines')) := by
  have hoff := Template.off_ignoresFormats k
  have hfragments := Template.fragments_differIn hcall hoff h (t.begun ctx)
  have hpassed := t.passed_reformatted h (t.begun ctx)
  rw [convert_ofLines ht hstarts lines (.inl ho), convert_ofLines ht hstarts lines' (.inl ho),
    hpassed]
  refine ⟨⟨_, _, rfl, rfl, ?_, _, _, _, _, rfl, rfl, hfragments⟩, rfl⟩
  have hlength := hfragments.length_eq
  simp only [Template.body, List.length_append, hlength]

end Passes

namespace Header

/-- The line with which an event prints itself. -/
def printCall (e : Event) : String :=
  let args := String.join (e.argNames.map fun name => s!", {name}")
  s!"        fprintf(stderr, \"{e.name} {e.format}\\n\"{args});"

theorem stderr_printsFormatIn : stderr.PrintsFormatIn printCall := by
  intro ctx e format
  exact ⟨[signature e, "\x7b", s!"    if (trace_list[{ctx.index}].state != 0) \x7b"],
    ["    \x7d", "\x7d"], rfl, rfl⟩

end Header

namespace Source

theorem ust_printsFormatIn :
    ust.PrintsFormatIn fun e => markCall e.name e.format e.argNames := by
  intro ctx e format
  rw [fragment_ust]
  exact ⟨[traceDefinition e.name, "", probeHead e.name e.args, "\x7b"], ["\x7d"], rfl, rfl⟩

end Source

/-- Where formats go: into one line of every event in the header that prints to `stderr`, into one
line of every event in the source of `ust`, and nowhere else. -/
structure FormatsConfined (ctx : Context) (lines lines' : List String) : Prop where
  others : ∀ b k, ¬PrintsFormats b k →
    convert b k ctx (.ofLines lines') = convert b k ctx (.ofLines lines)
  header : FilesDifferIn Header.printCall lines lines'
    (convert .stderr .header ctx (.ofLines lines)) (convert .stderr .header ctx (.ofLines lines'))
  source : FilesDifferIn (fun e => Source.markCall e.name e.format e.argNames) lines lines'
    (convert .ust .source ctx (.ofLines lines)) (convert .ust .source ctx (.ofLines lines'))

theorem formatsConfined {lines lines' : List String} (h : List.Forall₂ Reformatted lines lines')
    (ctx : Context) : FormatsConfined ctx lines lines' where
  others _ _ hprints := convert_reformatted hprints h ctx
  header := convert_differIn rfl ⟨rfl, rfl⟩ rfl Header.stderr_printsFormatIn h
  source := convert_differIn rfl ⟨rfl, rfl⟩ rfl Source.ust_printsFormatIn h

def plainLines : List String :=
  ["# hold", formatted "disable drop(int a) " "%d", formatted "keep(char *p, int n) " "%p"]

/-- The same lines, with all marks that lines are read by in their formats. -/
def markedLines : List String :=
  ["# hold", formatted "disable drop(int a) " "\" b)\n# (",
    formatted "keep(char *p, int n) " "disable, \")(\""]

theorem formatsConfined_marks :
    List.Forall₂ Reformatted plainLines markedLines ∧
      FormatsConfined probeContext plainLines markedLines := by
  have hdrop : IsFront "disable drop(int a) " := ⟨by decide, by decide⟩
  have hkeep : IsFront "keep(char *p, int n) " := ⟨by decide, by decide⟩
  have h : List.Forall₂ Reformatted plainLines markedLines :=
    .cons (.same _) (.cons (.format hdrop _ _) (.cons (.format hkeep _ _) .nil))
  exact ⟨h, formatsConfined h probeContext⟩

end Tracepoint
