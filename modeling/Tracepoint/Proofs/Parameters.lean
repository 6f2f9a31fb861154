import Tracepoint.Event.Arguments
import Tracepoint.Proofs.Text.Words

namespace Tracepoint

open Text

/-- A word that keeps clear of some characters. -/
structure Token (stops : List Char) where
  chars : List Char
  isWord : IsWord chars
  clear : ∀ c ∈ stops, c ∉ chars

/-- What would end a parameter, the list or the line. -/
abbrev ParameterToken := Token [',', ')', '"']

/-- A parameter to be written: the words of its type, then the stars of a pointer right in front of
the name. -/
structure ParameterForm where
  types : List ParameterToken
  types_ne_nil : types ≠ []
  stars : Nat
  name : ParameterToken
  name_head : name.chars.head? ≠ some '*'

namespace ParameterForm

def typeWords (p : ParameterForm) : List (List Char) := p.types.map (·.chars)

/-- The stars with the name. -/
def lastWord (p : ParameterForm) : List Char := List.replicate p.stars '*' ++ p.name.chars

def words (p : ParameterForm) : List (List Char) := p.typeWords ++ [p.lastWord]

/-- The name as a call passes it on, which has lost one star. -/
def callName (p : ParameterForm) : List Char := List.replicate (p.stars - 1) '*' ++ p.name.chars

/-- The parameter with its stars moved to the type. -/
def parameter (p : ParameterForm) : Parameter where
  type := List.intercalate [' '] p.typeWords ++
    if p.stars = 0 then [] else ' ' :: List.replicate p.stars '*'
  name := p.name.chars

end ParameterForm

/-- Parameters in a row, with a comma right behind each but the last and blanks behind the comma; no
parameters at all are written `void`. -/
inductive ParametersWritten : List ParameterForm → List Char → Prop
  | void : ParametersWritten [] ['v', 'o', 'i', 'd']
  | last (p : ParameterForm) {text : List Char} (h : Spaced p.words text) :
      ParametersWritten [p] text
  | cons (p : ParameterForm) {q : ParameterForm} {ps : List ParameterForm} {text : List Char}
      (h : Spaced p.words text) (gap : List Char) (hgap : IsGap gap) (hne : gap ≠ [])
      {rest : List Char} (hrest : ParametersWritten (q :: ps) rest) :
      ParametersWritten (p :: q :: ps) (text ++ [','] ++ gap ++ rest)

namespace ParameterForm

theorem star_notMem_stops : '*' ∉ [',', ')', '"'] := by decide

theorem isWord_lastWord (p : ParameterForm) : IsWord p.lastWord := by
  constructor
  · simp [lastWord, p.name.isWord.1]
  · intro c hc
    rcases List.mem_append.mp hc with hs | hn
    · rw [List.eq_of_mem_replicate hs]
      rfl
    · exact p.name.isWord.2 c hn

theorem notMem_lastWord (p : ParameterForm) {c : Char} (h : c ∈ [',', ')', '"']) :
    c ∉ p.lastWord := by
  intro hc
  rcases List.mem_append.mp hc with hs | hn
  · rw [List.eq_of_mem_replicate hs] at h
    exact star_notMem_stops h
  · exact p.name.clear c h hn

theorem isWord_of_mem_words (p : ParameterForm) : ∀ w ∈ p.words, IsWord w := by
  intro w hw
  rcases List.mem_append.mp hw with ht | hl
  · obtain ⟨t, -, rfl⟩ := List.mem_map.mp ht
    exact t.isWord
  · rw [List.mem_singleton.mp hl]
    exact p.isWord_lastWord

theorem notMem_of_mem_words (p : ParameterForm) {c : Char} (h : c ∈ [',', ')', '"']) :
    ∀ w ∈ p.words, c ∉ w := by
  intro w hw
  rcases List.mem_append.mp hw with ht | hl
  · obtain ⟨t, -, rfl⟩ := List.mem_map.mp ht
    exact t.clear c h
  · rw [List.mem_singleton.mp hl]
    exact p.notMem_lastWord h

theorem notMem_text {p : ParameterForm} {text : List Char} (hs : Spaced p.words text) {c : Char}
    (h : c ∈ [',', ')', '"']) (hb : isBlank c = false) : c ∉ text := by
  intro hc
  rcases hs.mem_text hc with hblank | ⟨w, hw, hcw⟩
  · simp [hb] at hblank
  · exact p.notMem_of_mem_words h w hw hcw

/-- The words, and with a comma right behind the text the words with a comma behind the last. -/
theorem words_text {p : ParameterForm} {text : List Char} (hs : Spaced p.words text) :
    Text.words text = p.words ∧
      Text.words (text ++ [',']) = p.typeWords ++ [p.lastWord ++ [',']] := by
  refine ⟨hs.words_eq p.isWord_of_mem_words, (hs.append_last [','] rfl).words_eq ?_⟩
  intro w hw
  rcases List.mem_append.mp hw with ht | hl
  · exact p.isWord_of_mem_words w (List.mem_append_left _ ht)
  · rw [List.mem_singleton.mp hl]
    refine ⟨by simp, fun c hc => ?_⟩
    rcases List.mem_append.mp hc with hc | hc
    · exact p.isWord_lastWord.2 c hc
    · rw [List.mem_singleton.mp hc]
      rfl

end ParameterForm

namespace ParametersWritten

/-- The words of a list, commas included. -/
def listWords : List ParameterForm → List (List Char)
  | [] => [['v', 'o', 'i', 'd']]
  | [p] => p.words
  | p :: q :: ps => p.typeWords ++ [p.lastWord ++ [',']] ++ listWords (q :: ps)

variable {ps : List ParameterForm} {text : List Char}

theorem words_eq (h : ParametersWritten ps text) : words text = listWords ps := by
  induction h with
  | void => rfl
  | last p hs => exact (ParameterForm.words_text hs).1
  | cons p hs gap hgap hne _ ih =>
    rw [words_append_gap_append _ _ hgap hne, ih, (ParameterForm.words_text hs).2, listWords]

theorem isTrimmed (h : ParametersWritten ps text) : IsTrimmed text := by
  induction h with
  | void => exact ⟨⟨'v', _, rfl, rfl⟩, ['v', 'o', 'i'], 'd', rfl, rfl⟩
  | last p hs => exact hs.isTrimmed p.isWord_of_mem_words
  | cons p hs gap _ _ _ ih =>
    have hp := hs.isTrimmed p.isWord_of_mem_words
    simpa using hp.append ([','] ++ gap) ih

/-- Neither the end of the list nor that of the line is in it. -/
theorem notMem_text (h : ParametersWritten ps text) {c : Char} (hc : c = ')' ∨ c = '"') :
    c ∉ text := by
  have hstop : c ∈ [',', ')', '"'] := by rcases hc with rfl | rfl <;> simp
  have hblank : isBlank c = false := by rcases hc with rfl | rfl <;> rfl
  have hcomma : c ≠ ',' := by rcases hc with rfl | rfl <;> decide
  induction h with
  | void => rcases hc with rfl | rfl <;> decide
  | last p hs => exact ParameterForm.notMem_text hs hstop hblank
  | cons p hs gap hgap _ _ ih =>
    simp only [List.mem_append, List.mem_singleton, not_or]
    refine ⟨⟨⟨ParameterForm.notMem_text hs hstop hblank, hcomma⟩, fun hg => ?_⟩, ih⟩
    simp [hgap c hg] at hblank

end ParametersWritten

/-- Without a comma a word is a field that is not closed. -/
theorem Field.ofWord_closed_of_notMem {w : List Char} (h : ',' ∉ w) :
    (Field.ofWord w).closed = false := by
  have hlast (text : List Char) (ht : ',' ∉ text) : text.getLast? ≠ some ',' :=
    fun he => ht (List.mem_of_getLast? he)
  unfold Field.ofWord
  split
  · next cs =>
    have hcs : ',' ∉ cs := fun hm => h (List.mem_cons_of_mem _ hm)
    simp [hlast cs hcs]
  · simp [hlast w h]

/-- One star in front of the name is dropped. -/
theorem Field.ofWord_lastWord_append (p : ParameterForm) (more : List Char) :
    Field.ofWord (p.lastWord ++ more) =
      if (p.callName ++ more).getLast? = some ',' then ⟨(p.callName ++ more).dropLast, true⟩
      else ⟨p.callName ++ more, false⟩ := by
  cases hstars : p.stars with
  | zero =>
    have hn : p.callName = p.name.chars := by simp [ParameterForm.callName, hstars]
    have hw : p.lastWord = p.name.chars := by simp [ParameterForm.lastWord, hstars]
    obtain ⟨c, cs, hc⟩ := List.exists_cons_of_ne_nil p.name.isWord.1
    have hstar : c ≠ '*' := by
      have hh := p.name_head
      simpa [hc] using hh
    rw [hw, hn, hc]
    simp [Field.ofWord, hstar]
  | succ k =>
    have hn : p.callName = List.replicate k '*' ++ p.name.chars := by
      simp [ParameterForm.callName, hstars]
    have hw : p.lastWord = '*' :: p.callName := by
      simp [ParameterForm.lastWord, hstars, hn, List.replicate_succ]
    rw [hw]
    rfl

theorem ParameterForm.getLast?_callName (p : ParameterForm) :
    p.callName.getLast? ≠ some ',' := by
  intro he
  rcases List.mem_append.mp (List.mem_of_getLast? he) with hs | hn
  · simp [List.mem_replicate] at hs
  · exact p.name.clear ',' (by simp) hn

theorem Field.ofWord_lastWord (p : ParameterForm) :
    Field.ofWord p.lastWord = ⟨p.callName, false⟩ ∧
      Field.ofWord (p.lastWord ++ [',']) = ⟨p.callName, true⟩ := by
  constructor
  · have h := Field.ofWord_lastWord_append p []
    simpa [p.getLast?_callName] using h
  · rw [Field.ofWord_lastWord_append]
    simp

/-- The names of the fields that commas close. -/
def closedNames (fields : List Field) : List (List Char) :=
  (fields.filter (·.closed)).map (·.name)

theorem closedNames_append (a b : List Field) :
    closedNames (a ++ b) = closedNames a ++ closedNames b := by
  simp [closedNames]

theorem fieldNames_append (a : List Field) {b : List Field} (h : 1 < b.length) :
    fieldNames (a ++ b) = closedNames a ++ fieldNames b := by
  have hne : b ≠ [] := by
    rintro rfl
    simp at h
  have hl : 1 < (a ++ b).length := by
    rw [List.length_append]
    omega
  have hlast : (a ++ b).getLast? = b.getLast? := by
    rw [List.getLast?_append, List.getLast?_eq_some_getLast hne]
    rfl
  simp only [fieldNames, closedNames, List.filter_append, List.map_append, List.append_assoc,
    if_pos h, if_pos hl, hlast]

/-- Words without a comma close nothing. -/
theorem closedNames_of_notMem {ws : List (List Char)} (h : ∀ w ∈ ws, ',' ∉ w) :
    closedNames (ws.map Field.ofWord) = [] := by
  have hf : (ws.map Field.ofWord).filter (·.closed) = [] := by
    rw [List.filter_eq_nil_iff]
    intro f hf
    obtain ⟨w, hw, rfl⟩ := List.mem_map.mp hf
    simp [Field.ofWord_closed_of_notMem (h w hw)]
  rw [closedNames, hf, List.map_nil]

/-- Only the last of several words gives a name if there is no comma. -/
theorem fieldNames_of_notMem {init : List (List Char)} {last : List Char} (hne : init ≠ [])
    (h : ∀ w ∈ init ++ [last], ',' ∉ w) :
    fieldNames ((init ++ [last]).map Field.ofWord) = [(Field.ofWord last).name] := by
  have hpos : 0 < init.length := List.length_pos_iff.mpr hne
  have hlen : 1 < ((init ++ [last]).map Field.ofWord).length := by
    rw [List.length_map, List.length_append, List.length_singleton]
    omega
  have hlast : ((init ++ [last]).map Field.ofWord).getLast? = some (Field.ofWord last) := by
    rw [List.map_append, List.map_singleton, List.getLast?_concat]
  change closedNames _ ++ _ = _
  rw [closedNames_of_notMem h, if_pos hlen, hlast]
  rfl

namespace ParameterForm

theorem notMem_typeWords (p : ParameterForm) : ∀ w ∈ p.typeWords, ',' ∉ w := by
  intro w hw
  obtain ⟨t, -, rfl⟩ := List.mem_map.mp hw
  exact t.clear ',' (by simp)

theorem typeWords_length_pos (p : ParameterForm) : 0 < p.typeWords.length := by
  simpa [typeWords] using List.length_pos_iff.mpr p.types_ne_nil

theorem fieldNames_words (p : ParameterForm) :
    fieldNames (p.words.map Field.ofWord) = [p.callName] := by
  have hne : p.typeWords ≠ [] := List.length_pos_iff.mp p.typeWords_length_pos
  have hcomma : ∀ w ∈ p.typeWords ++ [p.lastWord], ',' ∉ w := p.notMem_of_mem_words (by simp)
  rw [words, fieldNames_of_notMem hne hcomma, (Field.ofWord_lastWord p).1]

theorem closedNames_words_comma (p : ParameterForm) :
    closedNames ((p.typeWords ++ [p.lastWord ++ [',']]).map Field.ofWord) = [p.callName] := by
  rw [List.map_append, closedNames_append, closedNames_of_notMem p.notMem_typeWords,
    List.map_singleton, (Field.ofWord_lastWord p).2]
  rfl

end ParameterForm

namespace ParametersWritten

variable {ps : List ParameterForm} {text : List Char}

theorem one_lt_length_listWords (p : ParameterForm) (ps : List ParameterForm) :
    1 < (listWords (p :: ps)).length := by
  have hpos := p.typeWords_length_pos
  cases ps with
  | nil =>
    simp only [listWords, ParameterForm.words, List.length_append, List.length_singleton]
    omega
  | cons q ps =>
    simp only [listWords, List.length_append, List.length_singleton]
    omega

theorem argNames_eq (h : ParametersWritten ps text) : argNames text = ps.map (·.callName) := by
  rw [argNames, h.words_eq]
  induction h with
  | void => rfl
  | last p _ => exact p.fieldNames_words
  | @cons p q ps _ _ _ _ _ _ _ ih =>
    have hlen : 1 < ((listWords (q :: ps)).map Field.ofWord).length := by
      rw [List.length_map]
      exact one_lt_length_listWords q ps
    rw [listWords, List.map_append, fieldNames_append _ hlen, p.closedNames_words_comma, ih]
    rfl

end ParametersWritten

theorem Parameter.ofPart?_congr {a b : List Char} (h : words a = words b) :
    Parameter.ofPart? a = Parameter.ofPart? b := by
  simp only [Parameter.ofPart?, h]

/-- A part with a word in front of its last one is a parameter. -/
theorem Parameter.ofPart?_of_words {part : List Char} {types : List (List Char)}
    {last : List Char} (hwords : words part = types ++ [last]) (hne : types ≠ []) :
    Parameter.ofPart? part = some
      { type := [' '].intercalate types ++
          if last.takeWhile (· == '*') = [] then [] else ' ' :: last.takeWhile (· == '*')
        name := last.dropWhile (· == '*') } := by
  obtain ⟨first, more, hmore⟩ := List.exists_cons_of_ne_nil (List.reverse_ne_nil_iff.mpr hne)
  have hreverse : (words part).reverse = last :: first :: more := by simp [hwords, hmore]
  have htypes : (first :: more).reverse = types := by rw [← hmore, List.reverse_reverse]
  simp only [Parameter.ofPart?, hreverse, htypes, List.isEmpty_iff]
  split <;> simp

theorem Parameter.ofPart?_eq_none_iff {part : List Char} :
    Parameter.ofPart? part = none ↔ (words part).length < 2 := by
  rcases List.eq_nil_or_concat (words part) with hnil | ⟨types, last, hwords⟩
  · simp [Parameter.ofPart?, hnil]
  · rw [List.concat_eq_append] at hwords
    by_cases hne : types = []
    · simp [Parameter.ofPart?, hwords, hne]
    · have hpos : 0 < types.length := List.length_pos_iff.mpr hne
      have hlong : ¬(words part).length < 2 := by
        rw [hwords, List.length_append, List.length_singleton]
        omega
      simp [Parameter.ofPart?_of_words hwords hne, hlong]

theorem parameters_gap_append {gap : List Char} (h : IsGap gap) (cs : List Char) :
    parameters (gap ++ cs) = parameters cs := by
  induction gap with
  | nil => rfl
  | cons c gap ih =>
    have hc : isBlank c = true := h c (by simp)
    have hcomma : (c == ',') = false := by
      rw [beq_eq_false_iff_ne]
      rintro rfl
      exact absurd hc (by decide)
    obtain ⟨w, ws, hrest, hall⟩ := pieces_cons_of_not (p := (· == ',')) hcomma (gap ++ cs)
    have hc' : IsGap [c] := by simp [IsGap, hc]
    have hw : words (c :: w) = words w := words_gap_append hc' w
    have hp := ih fun d hd => h d (by simp [hd])
    rw [parameters, hrest] at hp
    rw [List.cons_append, parameters, hall, List.filterMap_cons, Parameter.ofPart?_congr hw,
      ← List.filterMap_cons, hp]

theorem parameters_append_comma {a : List Char} (h : ',' ∉ a) (b : List Char) :
    parameters (a ++ ',' :: b) = (Parameter.ofPart? a).toList ++ parameters b := by
  rw [parameters, pieces_append_cons _ _ _ (by simp), pieces_of_notMem h, List.filterMap_append,
    parameters]
  cases hp : Parameter.ofPart? a <;> simp [hp]

theorem parameters_of_notMem {a : List Char} (h : ',' ∉ a) :
    parameters a = (Parameter.ofPart? a).toList := by
  rw [parameters, pieces_of_notMem h]
  cases hp : Parameter.ofPart? a <;> simp [hp]

namespace ParameterForm

/-- The stars in front of the name are told from the name. -/
theorem span_lastWord (p : ParameterForm) :
    p.lastWord.takeWhile (· == '*') = List.replicate p.stars '*' ∧
      p.lastWord.dropWhile (· == '*') = p.name.chars := by
  obtain ⟨c, cs, hc⟩ := List.exists_cons_of_ne_nil p.name.isWord.1
  have hstar : c ≠ '*' := by
    have hh := p.name_head
    simpa [hc] using hh
  have hall : ∀ d ∈ List.replicate p.stars '*', (d == '*') = true := by
    intro d hd
    simp [List.eq_of_mem_replicate hd]
  rw [lastWord, hc, List.takeWhile_append_of_pos hall, List.dropWhile_append_of_pos hall]
  simp [hstar]

theorem ofPart?_text {p : ParameterForm} {text : List Char} (h : Spaced p.words text) :
    Parameter.ofPart? text = some p.parameter := by
  have hne : p.typeWords ≠ [] := List.length_pos_iff.mp p.typeWords_length_pos
  have hpart := Parameter.ofPart?_of_words (words_text h).1 hne
  rw [hpart, p.span_lastWord.1, p.span_lastWord.2, parameter]
  simp

end ParameterForm

theorem ParametersWritten.parameters_eq {ps : List ParameterForm} {text : List Char}
    (h : ParametersWritten ps text) : parameters text = ps.map (·.parameter) := by
  have hcomma (p : ParameterForm) {text : List Char} (hs : Spaced p.words text) : ',' ∉ text :=
    ParameterForm.notMem_text hs (by simp) rfl
  induction h with
  | void => rfl
  | last p hs =>
    rw [parameters_of_notMem (hcomma p hs), ParameterForm.ofPart?_text hs]
    rfl
  | cons p hs gap hgap _ _ ih =>
    rw [List.append_assoc, List.append_assoc, List.singleton_append,
      parameters_append_comma (hcomma p hs), parameters_gap_append hgap, ih,
      ParameterForm.ofPart?_text hs]
    rfl

end Tracepoint
