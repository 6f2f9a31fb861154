import Tracepoint.Proofs.Declaration
import Tracepoint.Proofs.Steps
import Tracepoint.Proofs.Stepwise

namespace Tracepoint

open Text

/-- A word stands in front of the arguments. -/
def HasHead (line : String) : Prop := ∃ c ∈ before '(' line.toList, isBlank c = false

-- The instance is given in full for the same reason as that of a gap.
instance (line : String) : Decidable (HasHead line) :=
  List.decidableBEx (isBlank · = false) (before '(' line.toList)

/-- The first character that is not blank belongs to the head. -/
theorem HasHead.exists_cons {line : String} (h : HasHead line) :
    ∃ gap c rest, IsGap gap ∧ isBlank c = false ∧ c ≠ '(' ∧ line.toList = gap ++ c :: rest := by
  obtain ⟨d, hd, hblank⟩ := h
  rcases isGap_or_exists_cons line.toList with hgap | ⟨gap, c, rest, hgap, hc, hline⟩
  · have hmem : d ∈ line.toList := (List.takeWhile_sublist _).subset hd
    simp [hgap d hmem] at hblank
  · refine ⟨gap, c, rest, hgap, hc, ?_, hline⟩
    rintro rfl
    have hparen : '(' ∉ gap := fun hm => absurd (hgap _ hm) (by decide)
    rw [hline, before_append_cons _ hparen] at hd
    simp [hgap d hd] at hblank

theorem Event.ofChars_prepend (t : HeadToken) {gap line : List Char} (hgap : IsGap gap)
    (hne : gap ≠ []) (hhead : Event.head line ≠ []) :
    Event.ofChars (t.chars ++ gap ++ line) =
      { Event.ofChars line with
        properties := String.ofList t.chars :: (Event.ofChars line).properties } := by
  have hclear (c : Char) (hc : c ∈ ['(', '"']) (hblank : isBlank c = false) :
      c ∉ t.chars ++ gap := by
    intro hm
    rcases List.mem_append.mp hm with hm | hm
    · exact t.clear c hc hm
    · simp [hgap c hm] at hblank
  have hparen := hclear '(' (by simp) rfl
  have hquote := hclear '"' (by simp) rfl
  have hwords : Event.head (t.chars ++ gap ++ line) = t.chars :: Event.head line := by
    rw [Event.head, before_append_of_notMem hparen, words_append_gap_append _ _ hgap hne,
      words_of_isWord t.isWord, List.singleton_append, Event.head]
  have hargs : Event.argsOf (t.chars ++ gap ++ line) = Event.argsOf line := by
    rw [Event.argsOf, after_append_of_notMem hparen, Event.argsOf]
  have hformat : between '"' (t.chars ++ gap ++ line) = between '"' line := by
    rw [between, after_append_of_notMem hquote, between]
  obtain ⟨w, ws, hws⟩ := List.exists_cons_of_ne_nil hhead
  simp only [Event.ofChars, hwords, hargs, hformat, hws, List.getLast?_cons_cons,
    List.dropLast_cons_cons, List.map_cons]

/-- Whatever a line is like, a token in front of its head becomes one more property of its event and
does nothing else. -/
theorem Event.parse_prepend (t : HeadToken) {gap : List Char} (hgap : IsGap gap) (hne : gap ≠ [])
    {line : String} (hline : HasHead line) :
    Event.parse (String.ofList (t.chars ++ gap ++ line.toList)) =
      { Event.parse line with
        properties := String.ofList t.chars :: (Event.parse line).properties } := by
  obtain ⟨lead, c, rest, hlead, hc, hparen, hchars⟩ := hline.exists_cons
  have hcore : trim line.toList = c :: trimEnd rest := by
    rw [hchars, trim_gap_append_cons hlead hc]
  have hhead : Event.head (c :: trimEnd rest) ≠ [] := by
    have hbefore :=
      before_append_of_notMem (a := [c]) (by simpa using Ne.symm hparen) (trimEnd rest)
    rw [List.singleton_append] at hbefore
    rw [Event.head, hbefore]
    exact words_cons_ne_nil hc _
  have hgaps : IsGap (gap ++ lead) := List.forall_mem_append.mpr ⟨hgap, hlead⟩
  have hall : trim (t.chars ++ gap ++ line.toList) =
      t.chars ++ (gap ++ lead) ++ c :: trimEnd rest := by
    have hnil : IsGap [] := by simp [IsGap]
    have htrim := trim_gap_append hnil t.isWord.isTrimmed (gap ++ line.toList)
    have hend := trimEnd_append_cons (gap ++ lead) rest hc
    rw [hchars] at htrim ⊢
    simp only [List.nil_append, List.append_assoc] at htrim hend ⊢
    rw [htrim, hend]
  rw [Event.parse, String.toList_ofList, hall, Event.parse, hcore]
  exact Event.ofChars_prepend t hgaps (by simp [hne]) hhead

theorem isWord_disable : IsWord "disable".toList := by decide

theorem disable_clear : ∀ c ∈ ['(', '"'], c ∉ "disable".toList := by simp

def disableToken : HeadToken := ⟨"disable".toList, isWord_disable, disable_clear⟩

def switchOff (line : String) : String := "disable " ++ line

theorem parse_switchOff {line : String} (h : HasHead line) :
    Event.parse (switchOff line) =
      { Event.parse line with properties := "disable" :: (Event.parse line).properties } := by
  have hgap : IsGap [' '] := by decide
  have hparse := Event.parse_prepend disableToken hgap (by simp) h
  have hline : String.ofList (disableToken.chars ++ [' '] ++ line.toList) = switchOff line := by
    rw [String.ofList_append, String.ofList_toList]
    rfl
  rwa [hline] at hparse

theorem disabled_switchOff {line : String} (h : HasHead line) :
    (Event.parse (switchOff line)).disabled = true := by
  rw [parse_switchOff h]
  simp [Event.disabled, Event.hasProperty]

theorem isDeclaration_switchOff (line : String) : isDeclaration (switchOff line) = true := by
  have hchars : (switchOff line).toList = [] ++ 'd' :: ("isable ".toList ++ line.toList) := by
    simp [switchOff]
  rw [isDeclaration_of_gap_append (by simp [IsGap]) (by decide) hchars]
  rfl

theorem readEvents_append (lines more : List String) :
    readEvents (lines ++ more) = readEvents lines ++ readEvents more := by
  simp [readEvents]

variable {b : Backend} {k : Kind} {ctx : Context}

def frontSteps (b : Backend) (k : Kind) (es : List Event) : List Step :=
  .opening b.name k.flag :: es.map (eventStep b k)

/-- What a pass has given behind some events. -/
def frontLines (b : Backend) (k : Kind) (ctx : Context) (es : List Event) :
    Except Fault (List String) := do
  let o := (Step.opening b.name k.flag).inPass ctx
  let opening ← o.lines
  let lines ← stepLines o.context (es.map (eventStep b k))
  return opening ++ lines

/-- What a pass then gives for some more events and at its closing. -/
def backLines (b : Backend) (k : Kind) (ctx : Context) (es more : List Event) :
    Except Fault (List String) :=
  stepLines (contextAfter ctx (frontSteps b k es))
    (more.map (eventStep b k) ++ [.closing b.name k.flag])

theorem passLines_append (b : Backend) (k : Kind) (ctx : Context) (es more : List Event) :
    passLines b k ctx (es ++ more) = (do
      let front ← frontLines b k ctx es
      let back ← backLines b k ctx es more
      return front ++ back) := by
  simp [passLines, frontLines, backLines, frontSteps, contextAfter_cons, stepLines_append]

theorem contextAfter_passSteps_append (b : Backend) (k : Kind) (ctx : Context)
    (es more : List Event) :
    contextAfter ctx (passSteps b k (es ++ more)) =
      contextAfter (contextAfter ctx (frontSteps b k es))
        (more.map (eventStep b k) ++ [.closing b.name k.flag]) := by
  have hsteps : passSteps b k (es ++ more) =
      frontSteps b k es ++ (more.map (eventStep b k) ++ [.closing b.name k.flag]) := by
    simp [passSteps, frontSteps]
  rw [hsteps, contextAfter_append]

/-- What is left of an event that is switched off: a header still has its function, which is
empty. -/
def silentLines (k : Kind) (e : Event) : List String :=
  "" :: if k = .header then Header.idleFunction e else []

theorem off_fragment (k : Kind) (ctx : Context) (e : Event) :
    "" :: (Template.off k).fragment ctx e = silentLines k e := by
  cases k <;> rfl

theorem backLines_cons_disabled {e : Event} (he : e.disabled = true) (ctx : Context)
    (es more : List Event) :
    backLines b k ctx es (e :: more) = (do
      let back ← backLines b k ctx es more
      return silentLines k e ++ back) := by
  rw [backLines, List.map_cons, List.cons_append, stepLines, inPass_eventStep_disabled he,
    Outcome.lines_mk, ← off_fragment k (contextAfter ctx (frontSteps b k es))]
  rfl

/-- What switching the event of a line off leaves as it was: the lines of the file in front of the
event, those behind it, and the context. -/
structure LeavesRest (b : Backend) (k : Kind) (ctx : Context) (line : String)
    (lines more : List String) : Prop where
  without : (convert b k ctx (.ofLines (lines ++ more))).result = (do
    let front ← frontLines b k ctx (readEvents lines)
    let back ← backLines b k ctx (readEvents lines) (readEvents more)
    return front ++ back)
  switched : (convert b k ctx (.ofLines (lines ++ switchOff line :: more))).result = (do
    let front ← frontLines b k ctx (readEvents lines)
    let back ← backLines b k ctx (readEvents lines) (readEvents more)
    return front ++ silentLines k (Event.parse line) ++ back)
  context : (convert b k ctx (.ofLines (lines ++ switchOff line :: more))).context =
    (convert b k ctx (.ofLines (lines ++ more))).context
  succeeds : ctx.IsTextual → ∃ front back, frontLines b k ctx (readEvents lines) = .ok front ∧
    backLines b k ctx (readEvents lines) (readEvents more) = .ok back

theorem convert_switchOff (h : Begins b k ctx) {line : String} (hline : HasHead line)
    (lines more : List String) : LeavesRest b k ctx line lines more := by
  have hdisabled := disabled_switchOff hline
  have hsilent : silentLines k (Event.parse (switchOff line)) =
      silentLines k (Event.parse line) := by
    rw [parse_switchOff hline]
    rfl
  have hevents : readEvents (lines ++ switchOff line :: more) =
      readEvents lines ++ Event.parse (switchOff line) :: readEvents more := by
    rw [readEvents_append, readEvents_cons_of_declaration (isDeclaration_switchOff line)]
  obtain ⟨hresult, hcontext⟩ := convert_eq_steps h (lines ++ more)
  obtain ⟨hresult', hcontext'⟩ := convert_eq_steps h (lines ++ switchOff line :: more)
  rw [readEvents_append, passLines_append] at hresult
  rw [hevents, passLines_append, backLines_cons_disabled hdisabled, hsilent] at hresult'
  refine ⟨hresult, ?_, ?_, fun htext => ?_⟩
  · rw [hresult']
    simp
  · rw [hcontext, hcontext', hevents, readEvents_append, contextAfter_passSteps_append,
      contextAfter_passSteps_append, List.map_cons, List.cons_append, contextAfter_cons,
      inPass_eventStep_disabled hdisabled]
  · obtain ⟨text, hok, -⟩ := exists_convert_eq_ok h htext (lines ++ more)
    rw [hresult] at hok
    obtain ⟨front, hfront, hok⟩ := Except.bind_ok_iff.mp hok
    obtain ⟨back, hback, -⟩ := Except.bind_ok_iff.mp hok
    exact ⟨front, back, hfront, hback⟩

theorem convert_switchOff_header :
    Begins .stderr .header probeContext ∧ HasHead "  seek (off_t *to, \"(\" int n" ∧
      LeavesRest .stderr .header probeContext "  seek (off_t *to, \"(\" int n"
        ["open(int fd) \"%d\""] ["# behind", "close(void) \"\""] := by
  have h : Begins .stderr .header probeContext := begins_iff.mpr ⟨Header.stderr, rfl, rfl, rfl⟩
  have hline : HasHead "  seek (off_t *to, \"(\" int n" := by decide
  exact ⟨h, hline, convert_switchOff h hline _ _⟩

end Tracepoint
