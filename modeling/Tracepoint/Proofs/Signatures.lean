import Tracepoint.Proofs.Text.Words
import Tracepoint.Template.Probe

namespace Tracepoint

open Text

/-- What is known of the parts of such an event, however malformed the line. -/
structure Event.IsRead (e : Event) : Prop where
  opening : '(' ∉ e.name.toList
  blanks : ∀ c ∈ e.name.toList, isBlank c = false
  closing : ')' ∉ e.args.toList
  trimmed : trim e.args.toList = e.args.toList
  argNames : e.argNames = (Tracepoint.argNames e.args.toList).map String.ofList

/-- The name is a word of the text in front of the arguments, or empty. -/
theorem Event.exists_mem_head {line : List Char} {c : Char}
    (h : c ∈ (head line).getLast?.getD []) : ∃ w ∈ head line, c ∈ w := by
  cases hlast : (head line).getLast? with
  | none => simp [hlast] at h
  | some w => exact ⟨w, List.mem_of_getLast? hlast, by simpa [hlast] using h⟩

theorem Event.isRead_parse (line : String) : (parse line).IsRead := by
  have hargs : (parse line).args.toList = argsOf (trim line.toList) := String.toList_ofList
  have hname : (parse line).name.toList = (head (trim line.toList)).getLast?.getD [] :=
    String.toList_ofList
  refine ⟨?_, ?_, ?_, ?_, ?_⟩
  · intro hopening
    rw [hname] at hopening
    obtain ⟨w, hw, hmem⟩ := exists_mem_head hopening
    exact not_mem_before '(' _ (mem_of_mem_words hw hmem)
  · intro c hc
    rw [hname] at hc
    obtain ⟨w, hw, hmem⟩ := exists_mem_head hc
    exact (isWord_of_mem_words hw).2 c hmem
  · rw [hargs]
    exact fun hm => not_mem_before ')' _ (mem_of_mem_trim hm)
  · rw [hargs]
    exact trim_trim _
  · rw [hargs, parse, ofChars]

/-- The first parenthesis of each kind is all that a line is cut by; what stands behind the closing
one does not matter here. -/
theorem Event.parse_of_call {line : String} {lead front args tail : List Char} {c : Char}
    {init : List (List Char)} {last : List Char} (hlead : IsGap lead) (hc : isBlank c = false)
    (hopening : '(' ∉ c :: front) (hwords : words (c :: front) = init ++ [last])
    (hclosing : ')' ∉ args) (htrimmed : trim args = args)
    (hline : line.toList = lead ++ (c :: front ++ '(' :: (args ++ ')' :: tail))) :
    (parse line).name = String.ofList last ∧
      (parse line).properties = init.map String.ofList ∧
      (parse line).args = String.ofList args ∧
      (parse line).argNames = (Tracepoint.argNames args).map String.ofList := by
  have hparen : isBlank ')' = false := by decide
  have htrim : trim line.toList = c :: front ++ '(' :: (args ++ ')' :: trimEnd tail) := by
    have hend := trimEnd_append_cons (front ++ '(' :: args) tail hparen
    simp only [List.append_assoc, List.cons_append] at hend
    rw [hline, List.cons_append, trim_gap_append_cons hlead hc, hend, List.cons_append]
  have hhead : head (trim line.toList) = init ++ [last] := by
    rw [head, htrim, before_append_cons _ hopening, hwords]
  have hargs : argsOf (trim line.toList) = args := by
    rw [argsOf, htrim, after_append_cons _ hopening, before_append_cons _ hclosing, htrimmed]
  simp [parse, ofChars, hhead, hargs]

/-- A line is read as an event with this name and these properties and arguments, of which a call
passes the same names on as of those of `e`. -/
structure Event.ReadsAs (e : Event) (line name : String) (properties : List String)
    (args : String) : Prop where
  name : (parse line).name = name
  properties : (parse line).properties = properties
  args : (parse line).args = args
  argNames : (parse line).argNames = e.argNames
  argCount : (parse line).argCount = e.argCount
  parameters : (parse line).parameters = e.parameters

/-- Arguments that can stand in a line for those of an event. -/
structure Event.StandsForArgs (e : Event) (args : String) : Prop where
  closing : ')' ∉ args.toList
  trimmed : trim args.toList = args.toList
  argNames : Tracepoint.argNames args.toList = Tracepoint.argNames e.args.toList
  parameters : Tracepoint.parameters args.toList = Tracepoint.parameters e.args.toList

namespace Event.IsRead

variable {e : Event}

theorem standsForArgs (h : e.IsRead) : e.StandsForArgs e.args :=
  ⟨h.closing, h.trimmed, rfl, rfl⟩

/-- Neither of the readings finds anything in `void`. -/
theorem standsForArgs_parameterText (h : e.IsRead) :
    e.StandsForArgs (Probe.parameterText e) := by
  rw [Probe.parameterText]
  split
  · next hvoid => exact ⟨by simp, rfl, by rw [hvoid]; rfl, by rw [hvoid]; rfl⟩
  · exact h.standsForArgs

/-- A name with some letters right before it is one word, the last one in front of the arguments. -/
theorem readsAs {args line : String} (h : e.IsRead) (hargs : e.StandsForArgs args)
    {lead front letters tail : List Char} {c : Char} (hlead : IsGap lead) (hc : isBlank c = false)
    (hfront : '(' ∉ c :: front) (hletters : '(' ∉ letters)
    (hword : IsWord (letters ++ e.name.toList))
    (hline : line.toList = lead ++ (c :: (front ++ ' ' :: (letters ++ e.name.toList)) ++
      '(' :: (args.toList ++ ')' :: tail))) :
    e.ReadsAs line (String.ofList (letters ++ e.name.toList))
      ((words (c :: front)).map String.ofList) args := by
  have hwords : words (c :: (front ++ ' ' :: (letters ++ e.name.toList))) =
      words (c :: front) ++ [letters ++ e.name.toList] := by
    rw [← List.cons_append, words_append_cons _ _ (by decide), words_of_isWord hword]
  have hopening : '(' ∉ c :: (front ++ ' ' :: (letters ++ e.name.toList)) := by
    rw [List.mem_cons, not_or] at hfront
    simp [hfront.1, hfront.2, hletters, h.opening]
  obtain ⟨hname, hproperties, hread, hnames⟩ :=
    parse_of_call hlead hc hopening hwords hargs.closing hargs.trimmed hline
  rw [String.ofList_toList] at hread
  rw [hargs.argNames, ← h.argNames] at hnames
  refine ⟨hname, hproperties, hread, hnames, ?_, ?_⟩
  · rw [argCount, hnames, argCount]
  · rw [Event.parameters, hread, hargs.parameters, Event.parameters]

end Event.IsRead

theorem Header.toList_signature (e : Event) :
    (signature e).toList = 's' :: ("tatic inline void".toList ++
      ' ' :: ("trace_".toList ++ e.name.toList)) ++ '(' :: (e.args.toList ++ [')']) := by
  have hfront : "static inline void trace_".toList =
      's' :: ("tatic inline void".toList ++ ' ' :: "trace_".toList) := by decide
  have hopening : "(".toList = ['('] := rfl
  have hclosing : ")".toList = [')'] := rfl
  unfold signature
  simp only [ToString.toString, String.toList_append, hfront, hopening, hclosing, List.append_assoc,
    List.cons_append, List.nil_append]

theorem Header.exists_fragment_eq {b : Backend} (h : b ≠ .ust) (ctx : Context) (e : Event) :
    ∃ body, (template b).fragment ctx e =
      (signature e ++ if b = .dtrace then " \x7b" else "") :: body := by
  cases b with
  | ust => exact absurd rfl h
  | dtrace => exact ⟨_, rfl⟩
  | nop | simple | stderr => exact ⟨_, congrArg (· :: _) String.append_empty.symm⟩

theorem Probe.toList_declaration (name args : String) :
    s!"        probe {name}({args});".toList = "        ".toList ++ ('p' :: ("robe".toList ++
      ' ' :: ([] ++ name.toList)) ++ '(' :: (args.toList ++ ')' :: [';'])) := by
  have hfront : "        probe ".toList = "        ".toList ++ 'p' :: ("robe".toList ++ [' ']) := by
    decide
  have hopening : "(".toList = ['('] := rfl
  have hclosing : ");".toList = [')', ';'] := rfl
  simp only [ToString.toString, String.toList_append, hfront, hopening, hclosing, List.append_assoc,
    List.cons_append, List.nil_append]

namespace Event.IsRead

variable {e : Event}

theorem readsAs_signature (h : e.IsRead) (tail : String) :
    e.ReadsAs (Header.signature e ++ tail) ("trace_" ++ e.name) ["static", "inline", "void"]
      e.args := by
  have hword : IsWord ("trace_".toList ++ e.name.toList) := by
    have hfront : IsWord "trace_".toList := by decide
    exact ⟨by simp, List.forall_mem_append.mpr ⟨hfront.2, h.blanks⟩⟩
  have hline : (Header.signature e ++ tail).toList =
      [] ++ ('s' :: ("tatic inline void".toList ++ ' ' :: ("trace_".toList ++ e.name.toList)) ++
        '(' :: (e.args.toList ++ ')' :: tail.toList)) := by
    simp only [String.toList_append, Header.toList_signature, List.append_assoc, List.cons_append,
      List.nil_append]
  have hreads :=
    h.readsAs h.standsForArgs (by decide) (by decide) (by decide) (by decide) hword hline
  have hname : String.ofList ("trace_".toList ++ e.name.toList) = "trace_" ++ e.name := by
    rw [String.ofList_append, String.ofList_toList, String.ofList_toList]
  have hwords : (words ('s' :: "tatic inline void".toList)).map String.ofList =
      ["static", "inline", "void"] := by decide
  rwa [hname, hwords] at hreads

/-- With no name the line would be read as a probe of the name `probe`. -/
theorem readsAs_declaration (h : e.IsRead) (hne : e.name ≠ "") {args : String}
    (hargs : e.StandsForArgs args) :
    e.ReadsAs s!"        probe {e.name}({args});" e.name ["probe"] args := by
  have hword : IsWord ([] ++ e.name.toList) := ⟨by simpa using hne, h.blanks⟩
  have hreads := h.readsAs hargs (by decide) (by decide) (by decide) (by decide) hword
    (Probe.toList_declaration e.name args)
  have hwords : (words ('p' :: "robe".toList)).map String.ofList = ["probe"] := by decide
  rwa [List.nil_append, String.ofList_toList, hwords] at hreads

end Event.IsRead

/-- What is written for an event reads as one: the function of its header, but for the backend that
writes macros, and its probe, if the event has a name at all. -/
structure Event.ReadsBack (e : Event) : Prop where
  header : ∀ b ctx, b ≠ Backend.ust →
    let line :=
      s!"static inline void trace_{e.name}({e.args})" ++ if b = .dtrace then " \x7b" else ""
    (∃ body, (Header.template b).fragment ctx e = line :: body) ∧
      e.ReadsAs line ("trace_" ++ e.name) ["static", "inline", "void"] e.args
  probe : e.name ≠ "" → ∀ ctx,
    let args := if e.args = "void" then "" else e.args
    let line := s!"        probe {e.name}({args});"
    Probe.descriptor.fragment ctx e = [line] ∧ e.ReadsAs line e.name ["probe"] args

/-- Whatever a line is like, what is written for its event is read as that event again, with a
longer name and other properties, and has the same arguments. -/
theorem signatures_readBack (line : String) : (Event.parse line).ReadsBack := by
  have h := Event.isRead_parse line
  generalize Event.parse line = e at h
  constructor
  · intro b ctx hb
    exact ⟨Header.exists_fragment_eq hb ctx e, h.readsAs_signature _⟩
  · intro hne ctx
    exact ⟨rfl, h.readsAs_declaration hne h.standsForArgs_parameterText⟩

end Tracepoint
