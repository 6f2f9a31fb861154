import Tracepoint.Event
import Tracepoint.Proofs.Parameters

namespace Tracepoint

open Text

/-- What would start the arguments or the format. -/
abbrev HeadToken := Token ['(', '"']

structure DeclarationForm where
  properties : List HeadToken
  name : HeadToken
  parameters : List ParameterForm
  format : List Char

namespace DeclarationForm

def headWords (d : DeclarationForm) : List (List Char) :=
  d.properties.map (·.chars) ++ [d.name.chars]

/-- The declaration in one line. The first and the last quote of the line enclose the format, so no
other may stand outside. -/
inductive Written (d : DeclarationForm) : List Char → Prop
  | line {head args : List Char} (lead gap middle tail trail : List Char) (hlead : IsGap lead)
      (hhead : Spaced d.headWords head) (hgap : IsGap gap)
      (hargs : ParametersWritten d.parameters args) (hmiddle : '"' ∉ middle)
      (htail : '"' ∉ tail) (htrail : IsGap trail) :
      Written d (lead ++ head ++ gap ++ ['('] ++ args ++ [')'] ++ middle ++ ['"'] ++ d.format ++
        ['"'] ++ tail ++ trail)

variable {d : DeclarationForm}

theorem isWord_of_mem_headWords : ∀ w ∈ d.headWords, IsWord w := by
  intro w hw
  rcases List.mem_append.mp hw with hp | hn
  · obtain ⟨t, -, rfl⟩ := List.mem_map.mp hp
    exact t.isWord
  · rw [List.mem_singleton.mp hn]
    exact d.name.isWord

/-- Neither the start of the arguments nor that of the format is in the head. -/
theorem notMem_head {head gap : List Char} (h : Spaced d.headWords head) (hgap : IsGap gap)
    {c : Char} (hc : c = '(' ∨ c = '"') : c ∉ head ++ gap := by
  have hstop : c ∈ ['(', '"'] := by rcases hc with rfl | rfl <;> simp
  have hblank : isBlank c = false := by rcases hc with rfl | rfl <;> rfl
  intro hm
  rcases List.mem_append.mp hm with hm | hm
  · rcases h.mem_text hm with hb | ⟨w, hw, hcw⟩
    · simp [hb] at hblank
    · rcases List.mem_append.mp hw with hp | hn
      · obtain ⟨t, -, rfl⟩ := List.mem_map.mp hp
        exact t.clear c hstop hcw
      · rw [List.mem_singleton.mp hn] at hcw
        exact d.name.clear c hstop hcw
  · simp [hgap c hm] at hblank

end DeclarationForm

/-- The event for a declaration whose parameters are written as `args`. -/
def DeclarationForm.event (d : DeclarationForm) (args : List Char) : Event where
  name := String.ofList d.name.chars
  properties := d.properties.map fun t => String.ofList t.chars
  args := String.ofList args
  format := String.ofList d.format
  argNames := d.parameters.map fun p => String.ofList p.callName

/-- Every part is found by the marks around it, which do not stand in the parts before it. -/
theorem Event.ofChars_written {d : DeclarationForm} {head gap args middle tail : List Char}
    (hhead : Spaced d.headWords head) (hgap : IsGap gap)
    (hargs : ParametersWritten d.parameters args) (hmiddle : '"' ∉ middle) (htail : '"' ∉ tail) :
    Event.ofChars (head ++ gap ++ ['('] ++ args ++ [')'] ++ middle ++ ['"'] ++ d.format ++ ['"'] ++
      tail) = d.event args := by
  have hparen := DeclarationForm.notMem_head hhead hgap (.inl rfl)
  have hquote := DeclarationForm.notMem_head hhead hgap (.inr rfl)
  let text := head ++ gap ++ ['('] ++ args ++ [')'] ++ middle ++ ['"'] ++ d.format ++ ['"'] ++ tail
  change Event.ofChars text = _
  have hargsAt : text = (head ++ gap) ++
      '(' :: (args ++ ')' :: (middle ++ ['"'] ++ d.format ++ ['"'] ++ tail)) := by
    simp [text]
  have hformatAt : text = (head ++ gap ++ ['('] ++ args ++ [')'] ++ middle) ++
      '"' :: (d.format ++ '"' :: tail) := by
    simp [text]
  have hwords : Event.head text = d.headWords := by
    rw [Event.head, hargsAt, before_append_cons _ hparen, words_append_gap _ hgap,
      hhead.words_eq DeclarationForm.isWord_of_mem_headWords]
  have htext : Event.argsOf text = args := by
    rw [Event.argsOf, hargsAt, after_append_cons _ hparen,
      before_append_cons _ (hargs.notMem_text (.inl rfl)), hargs.isTrimmed.trim_eq]
  have hformat : between '"' text = d.format := by
    rw [hformatAt]
    refine between_append_cons _ ?_ htail
    have ha := hargs.notMem_text (.inr rfl)
    simp only [List.mem_append, not_or] at hquote ⊢
    simp [hquote.1, hquote.2, ha, hmiddle]
  simp [Event.ofChars, hwords, htext, hformat, hargs.argNames_eq, DeclarationForm.event,
    DeclarationForm.headWords]

theorem Event.parse_written {d : DeclarationForm} {line : List Char} (h : d.Written line) :
    ∃ args, ParametersWritten d.parameters args ∧
      Event.parse (String.ofList line) = d.event args := by
  cases h with
  | @line head args lead gap middle tail trail hlead hhead hgap hargs hmiddle htail htrail =>
    let core := head ++ gap ++ ['('] ++ args ++ [')'] ++ middle ++ ['"'] ++ d.format ++ ['"']
    have hcore : IsTrimmed core := by
      have hquote : IsTrimmed ['"'] := IsWord.isTrimmed (by simp [IsWord, isBlank])
      have ht := (hhead.isTrimmed DeclarationForm.isWord_of_mem_headWords).append
        (gap ++ ['('] ++ args ++ [')'] ++ middle ++ ['"'] ++ d.format) hquote
      simpa [core] using ht
    have hline : lead ++ head ++ gap ++ ['('] ++ args ++ [')'] ++ middle ++ ['"'] ++ d.format ++
        ['"'] ++ tail ++ trail = lead ++ core ++ (tail ++ trail) := by
      simp [core]
    have hquote : '"' ∉ trimEnd (tail ++ trail) := by
      intro hm
      rcases List.mem_append.mp (mem_of_mem_trimEnd hm) with hm | hm
      · exact htail hm
      · exact absurd (htrail _ hm) (by decide)
    refine ⟨args, hargs, ?_⟩
    rw [Event.parse, String.toList_ofList, hline, trim_gap_append hlead hcore]
    exact Event.ofChars_written hhead hgap hargs hmiddle hquote

/-- Reading a declaration undoes writing it: the stars of a pointer come back with the type of the
parameter, and all but one with the name that calls pass on. -/
theorem Event.parse_eq_of_written {d : DeclarationForm} {line : List Char} (h : d.Written line) :
    let e := Event.parse (String.ofList line)
    e.name = String.ofList d.name.chars ∧
    e.properties = d.properties.map (fun t => String.ofList t.chars) ∧
    e.format = String.ofList d.format ∧
    e.argCount = d.parameters.length ∧
    e.argNames = d.parameters.map (fun p => String.ofList p.callName) ∧
    e.parameters = d.parameters.map (·.parameter) := by
  obtain ⟨args, hargs, he⟩ := Event.parse_written h
  simp only [he]
  refine ⟨rfl, rfl, rfl, ?_, rfl, ?_⟩
  · simp [Event.argCount, DeclarationForm.event]
  · rw [Event.parameters, DeclarationForm.event, String.toList_ofList, hargs.parameters_eq]

/-- A pointer to a pointer. -/
def fromForm : ParameterForm where
  types := [⟨"const".toList, by decide, by simp⟩, ⟨"char".toList, by decide, by simp⟩]
  types_ne_nil := List.cons_ne_nil _ _
  stars := 2
  name := ⟨"from".toList, by decide, by simp⟩
  name_head := by decide

def countForm : ParameterForm where
  types := [⟨"size_t".toList, by decide, by simp⟩]
  types_ne_nil := List.cons_ne_nil _ _
  stars := 0
  name := ⟨"n".toList, by decide, by simp⟩
  name_head := by decide

/-- A declaration with marks of every kind in its format. -/
def copyForm : DeclarationForm where
  properties := [⟨"disable".toList, by decide, by simp⟩]
  name := ⟨"copy".toList, by decide, by simp⟩
  parameters := [fromForm, countForm]
  format := "from (%p), \"n\"=%zu".toList

def copyLine : List Char :=
  " disable\tcopy (const  char **from, size_t n) -> \"from (%p), \"n\"=%zu\" // \n".toList

theorem copyForm_written : copyForm.Written copyLine := by
  have hfrom : Spaced fromForm.words _ :=
    .cons _ "  ".toList (by decide) (by decide)
      (.cons _ " ".toList (by decide) (by decide) (.single _))
  have hcount : Spaced countForm.words _ :=
    .cons _ " ".toList (by decide) (by decide) (.single _)
  have hhead : Spaced copyForm.headWords _ :=
    .cons _ "\t".toList (by decide) (by decide) (.single _)
  have hargs : ParametersWritten copyForm.parameters _ :=
    .cons fromForm hfrom " ".toList (by decide) (by decide) (.last countForm hcount)
  exact .line " ".toList " ".toList " -> ".toList " //".toList " \n".toList (by decide) hhead
    (by decide) hargs (by decide) (by decide) (by decide)

theorem parse_copyLine :
    copyForm.Written copyLine ∧
    let e := Event.parse (String.ofList copyLine)
    e.name = "copy" ∧ e.properties = ["disable"] ∧ e.format = "from (%p), \"n\"=%zu" ∧
    e.argCount = 2 ∧ e.argNames = ["*from", "n"] ∧
    e.parameters = [⟨"const char **".toList, "from".toList⟩, ⟨"size_t".toList, "n".toList⟩] :=
  ⟨copyForm_written, Event.parse_eq_of_written copyForm_written⟩

end Tracepoint
