import Tracepoint.Proofs.ArgumentCount

namespace Tracepoint

namespace Text

/-- The text ends within a word. -/
def endsInWord (cs : List Char) : Bool := cs.getLast?.any fun c => !isBlank c

/-- The text starts with a blank. -/
def startsBlank (cs : List Char) : Bool := cs.head?.any isBlank

variable {mark : Char}

/-- A character at which a text is not cut goes to the last piece. -/
theorem pieces_concat_of_not {p : Char → Bool} {d : Char} (h : p d = false) (cs : List Char) :
    ∃ init last, pieces p cs = init ++ [last] ∧ pieces p (cs ++ [d]) = init ++ [last ++ [d]] := by
  induction cs with
  | nil => exact ⟨[], [], rfl, by simp [pieces, h]⟩
  | cons c cs ih =>
    obtain ⟨init, last, hcs, hd⟩ := ih
    cases hc : p c with
    | true => exact ⟨[] :: init, last, by simp [pieces, hc, hcs], by simp [pieces, hc, hd]⟩
    | false =>
      obtain ⟨w, ws, hw, hcons⟩ := pieces_cons_of_not hc cs
      obtain ⟨w', ws', hw', hcons'⟩ := pieces_cons_of_not hc (cs ++ [d])
      rw [hw] at hcs
      rw [hw'] at hd
      cases init with
      | nil =>
        obtain ⟨rfl, rfl⟩ := List.cons.inj hcs
        obtain ⟨rfl, rfl⟩ := List.cons.inj hd
        exact ⟨[], c :: w, hcons, hcons'⟩
      | cons v init =>
        obtain ⟨rfl, rfl⟩ := List.cons.inj hcs
        obtain ⟨rfl, rfl⟩ := List.cons.inj hd
        exact ⟨(c :: w') :: init, last, hcons, hcons'⟩

/-- The last piece is empty where the text does not end within a word. -/
theorem getLast?_pieces_eq_nil_iff {cs last : List Char} {init : List (List Char)}
    (h : pieces isBlank cs = init ++ [last]) : last ≠ [] ↔ endsInWord cs = true := by
  induction cs using List.reverseRecOn generalizing init last with
  | nil =>
    have hlast : [[]] = init ++ [last] := h
    obtain rfl : last = [] := by simpa using (congrArg List.getLast? hlast).symm
    simp [endsInWord]
  | append_singleton cs c _ =>
    cases hc : isBlank c with
    | true =>
      rw [pieces_append_cons _ _ _ hc] at h
      obtain rfl : last = [] := by simpa [pieces] using (congrArg List.getLast? h).symm
      simp [endsInWord, hc]
    | false =>
      obtain ⟨front, back, -, hpieces⟩ := pieces_concat_of_not hc cs
      rw [h] at hpieces
      obtain rfl : last = back ++ [c] := by simpa using congrArg List.getLast? hpieces
      simp [endsInWord, hc]

/-- A mark behind a text goes to its last word, or is a word of its own. -/
theorem words_concat (hmark : isBlank mark = false) (cs : List Char) :
    ∃ init last, words (cs ++ [mark]) = init ++ [last ++ [mark]] ∧
      words cs = init ++ (if endsInWord cs then [last] else []) ∧
      (endsInWord cs = false → last = []) := by
  obtain ⟨init, last, hcs, hall⟩ := pieces_concat_of_not hmark cs
  have hlast := getLast?_pieces_eq_nil_iff hcs
  refine ⟨init.filter (!·.isEmpty), last, ?_, ?_, fun hends => ?_⟩
  · simp [words, hall]
  · cases hends : endsInWord cs with
    | true => simp [words, hcs, hlast.mpr hends]
    | false =>
      have hnil : last = [] := by simpa [hends] using hlast
      simp [words, hcs, hnil]
  · simpa [hends] using hlast

theorem words_append_of_startsBlank (a : List Char) {b : List Char} (h : startsBlank b = true) :
    words (a ++ b) = words a ++ words b := by
  cases b with
  | nil => cases h
  | cons c b =>
    have hc : isBlank c = true := h
    have hb : words (c :: b) = words b := words_append_cons [] b hc
    rw [words_append_cons _ _ hc, hb]

/-- Where the first mark of a text is known, something holds of all marks if it holds of that one
and of those behind it. -/
theorem forall_mark_iff {part rest : List Char} (hpart : mark ∉ part)
    {P : List Char → List Char → Prop} :
    (∀ a b, part ++ mark :: rest = a ++ mark :: b → P a b) ↔
      P part rest ∧ ∀ a b, rest = a ++ mark :: b → P (part ++ mark :: a) b := by
  constructor
  · intro h
    exact ⟨h part rest rfl, fun a b hrest => h _ b (by simp [hrest])⟩
  · rintro ⟨hfirst, hlater⟩ a b hall
    rcases List.append_eq_append_iff.mp hall with ⟨a', rfl, hrest⟩ | ⟨a', rfl, hrest⟩
    · cases a' with
      | nil =>
        obtain rfl := (List.cons.inj hrest).2
        simpa using hfirst
      | cons d a' =>
        obtain ⟨rfl, htail⟩ := List.cons.inj hrest
        exact hlater a' b htail
    · cases a' with
      | nil =>
        obtain rfl := (List.cons.inj hrest).2
        simpa using hfirst
      | cons d a' =>
        obtain ⟨rfl, -⟩ := List.cons.inj hrest
        exact absurd (by simp) hpart

end Text

open Text

/-- The text behind all leading stars. -/
def unstarred (w : List Char) : List Char := w.dropWhile (· == '*')

theorem unstarred_star_cons (w : List Char) : unstarred ('*' :: w) = unstarred w := by
  simp [unstarred]

/-- A field has lost one star, which does not show in its unstarred name. -/
theorem Field.unstarred_name_ofWord {w : List Char} (h : ',' ∉ w) :
    unstarred (Field.ofWord w).name = unstarred w ∧
      ∃ name, Field.ofWord (w ++ [',']) = ⟨name, true⟩ ∧ unstarred name = unstarred w := by
  have hopen {text : List Char} (ht : ',' ∉ text) : text.getLast? ≠ some ',' :=
    fun he => ht (List.mem_of_getLast? he)
  cases w with
  | nil => exact ⟨rfl, [], rfl, rfl⟩
  | cons c cs =>
    by_cases hc : c = '*'
    · subst hc
      have hcs : ',' ∉ cs := fun hm => h (List.mem_cons_of_mem _ hm)
      refine ⟨?_, cs, ?_, (unstarred_star_cons cs).symm⟩
      · simp [Field.ofWord, hopen hcs, unstarred_star_cons]
      · simp [Field.ofWord]
    · refine ⟨?_, c :: cs, ?_, rfl⟩
      · simp [Field.ofWord, hc, hopen h]
      · have hlast : (c :: (cs ++ [','])).getLast? = some ',' := by
          rw [← List.cons_append, List.getLast?_concat]
        have hdrop : (c :: (cs ++ [','])).dropLast = c :: cs := by
          rw [← List.cons_append, List.dropLast_concat]
        simp [Field.ofWord, hc, hlast, hdrop]

/-- A part has a word for the type and one for the name, which is not made of stars alone. -/
def DeclaresName (part : List Char) : Prop :=
  2 ≤ (words part).length ∧ ((words part).getLast?.any fun w => unstarred w != []) = true

instance (part : List Char) : Decidable (DeclaresName part) := instDecidableAnd

def DeclaresNames (args : List Char) : Prop := ∀ part ∈ pieces (· == ',') args, DeclaresName part

instance (args : List Char) : Decidable (DeclaresNames args) := List.decidableBAll DeclaresName _

variable {part rest args : List Char}

theorem not_declaresName_nil : ¬DeclaresName [] := by decide

theorem declaresNames_of_notMem (h : ',' ∉ part) : DeclaresNames part ↔ DeclaresName part := by
  simp [DeclaresNames, pieces_of_notMem h]

theorem declaresNames_append_comma (h : ',' ∉ part) :
    DeclaresNames (part ++ ',' :: rest) ↔ DeclaresName part ∧ DeclaresNames rest := by
  have hcut : pieces (· == ',') (part ++ ',' :: rest) = part :: pieces (· == ',') rest := by
    rw [pieces_append_cons (· == ',') part rest (beq_self_eq_true ','), pieces_of_notMem h]
    rfl
  rw [DeclaresNames, hcut, List.forall_mem_cons, DeclaresNames]

/-- No comma is the first or the last character. -/
theorem DeclaresNames.ne_nil (h : DeclaresNames args) {a b : List Char}
    (hargs : args = a ++ ',' :: b) : a ≠ [] ∧ b ≠ [] := by
  have hcut := pieces_append_cons (· == ',') a b (beq_self_eq_true ',')
  rw [← hargs] at hcut
  constructor
  · rintro rfl
    exact not_declaresName_nil (h [] (by simp [hcut, pieces]))
  · rintro rfl
    exact not_declaresName_nil (h [] (by simp [hcut, pieces]))

theorem DeclaresNames.namesParameters (h : DeclaresNames args) : NamesParameters args :=
  fun part hpart => (h part hpart).1

namespace DeclaresName

theorem exists_words (h : DeclaresName part) :
    ∃ init last, words part = init ++ [last] ∧ init ≠ [] ∧ unstarred last ≠ [] := by
  obtain ⟨hlen, hlast⟩ := h
  rcases List.eq_nil_or_concat (words part) with hnil | ⟨init, last, hwords⟩
  · simp [hnil] at hlen
  · rw [List.concat_eq_append] at hwords
    refine ⟨init, last, hwords, ?_, ?_⟩
    · rintro rfl
      simp [hwords] at hlen
    · simpa [hwords] using hlast

end DeclaresName

/-- A parameter is named after the last word of its part. -/
theorem Parameter.exists_ofPart? {init : List (List Char)} {last : List Char}
    (hwords : words part = init ++ [last]) (hinit : init ≠ []) :
    ∃ type, Parameter.ofPart? part = some ⟨type, unstarred last⟩ :=
  ⟨_, Parameter.ofPart?_of_words hwords hinit⟩

/-- The names that a list gives to its parameters, without stars. -/
def unstarredArgNames (args : List Char) : List (List Char) := (argNames args).map unstarred

def parameterNames (args : List Char) : List (List Char) := (parameters args).map (·.name)

namespace DeclaresName

/-- A list with no comma is read in the same way by both. -/
theorem unstarredArgNames_eq (h : DeclaresName part) (hcomma : ',' ∉ part) :
    unstarredArgNames part = parameterNames part := by
  obtain ⟨init, last, hwords, hinit, -⟩ := h.exists_words
  obtain ⟨type, hp⟩ := Parameter.exists_ofPart? hwords hinit
  have hclear : ∀ w ∈ init ++ [last], ',' ∉ w := fun w hw hm =>
    hcomma (mem_of_mem_words (hwords ▸ hw) hm)
  have hlast : unstarred (Field.ofWord last).name = unstarred last :=
    (Field.unstarred_name_ofWord (hclear last (by simp))).1
  have hnames : argNames part = [(Field.ofWord last).name] := by
    rw [argNames, hwords, fieldNames_of_notMem hinit hclear]
  rw [unstarredArgNames, hnames, parameterNames, parameters_of_notMem hcomma, hp,
    List.map_singleton, hlast]
  rfl

/-- In front of a comma that a blank follows, both readings find one name. It is the same one if and
only if the comma stands right behind a word. -/
theorem names_append_comma (h : DeclaresName part) (hcomma : ',' ∉ part)
    (hrest : NamesParameters rest) (hblank : startsBlank rest = true) :
    ∃ name name', unstarredArgNames (part ++ ',' :: rest) = name :: unstarredArgNames rest ∧
      parameterNames (part ++ ',' :: rest) = name' :: parameterNames rest ∧
      (name = name' ↔ endsInWord part = true) := by
  obtain ⟨init, last, hwords, hinit, hnamed⟩ := h.exists_words
  obtain ⟨type, hp⟩ := Parameter.exists_ofPart? hwords hinit
  have hmark : isBlank ',' = false := by decide
  obtain ⟨front, back, hclosed, hopen, hback⟩ := words_concat hmark part
  have hclear : ∀ w ∈ words part, ',' ∉ w := fun w hw hm => hcomma (mem_of_mem_words hw hm)
  have hfront : ∀ w ∈ front, ',' ∉ w := fun w hw => hclear w (by simp [hopen, hw])
  have hbackClear : ',' ∉ back := by
    cases hends : endsInWord part with
    | true => exact hclear back (by simp [hopen, hends])
    | false => simp [hback hends]
  obtain ⟨-, name, hfield, hname⟩ := Field.unstarred_name_ofWord hbackClear
  have hnames : argNames (part ++ ',' :: rest) = name :: argNames rest := by
    have hsplit : part ++ ',' :: rest = part ++ [','] ++ rest := by simp
    have hlen : 1 < ((words rest).map Field.ofWord).length := by
      rw [List.length_map]
      exact hrest.one_lt_length_words
    rw [argNames, hsplit, words_append_of_startsBlank _ hblank, hclosed, List.map_append,
      fieldNames_append _ hlen, List.map_append, closedNames_append, closedNames_of_notMem hfront,
      List.map_singleton, hfield]
    rfl
  refine ⟨unstarred name, unstarred last, ?_, ?_, ?_⟩
  · rw [unstarredArgNames, hnames, List.map_cons, unstarredArgNames]
  · rw [parameterNames, parameters_append_comma hcomma, hp, parameterNames]
    rfl
  · rw [hname]
    cases hends : endsInWord part with
    | true =>
      have hsame : init ++ [last] = front ++ [back] := by rw [← hwords, hopen, hends]; rfl
      obtain rfl : last = back := by simpa using congrArg List.getLast? hsame
      simp
    | false =>
      rw [hback hends]
      simpa [unstarred] using Ne.symm hnamed

end DeclaresName

theorem endsInWord_append (a : List Char) {b : List Char} (h : b ≠ []) :
    endsInWord (a ++ b) = endsInWord b := by
  rw [endsInWord, endsInWord, List.getLast?_append_of_ne_nil a h]

namespace DeclaresNames

/-- Where a blank follows every comma, the names are the same if and only if every comma stands
right behind a word. -/
theorem names_eq_iff (h : DeclaresNames args)
    (hblank : ∀ a b, args = a ++ ',' :: b → startsBlank b = true) :
    unstarredArgNames args = parameterNames args ↔
      ∀ a b, args = a ++ ',' :: b → endsInWord a = true := by
  induction args using inductionOn_mark ',' with
  | single part hcomma =>
    have hpart := (declaresNames_of_notMem hcomma).mp h
    refine iff_of_true (hpart.unstarredArgNames_eq hcomma) fun a b hab => ?_
    exact absurd (by simp [hab]) hcomma
  | cons part rest hcomma ih =>
    obtain ⟨hpart, hrest⟩ := (declaresNames_append_comma hcomma).mp h
    obtain ⟨hfirst, hlater⟩ := (forall_mark_iff hcomma).mp hblank
    obtain ⟨name, name', hnames, hnames', hsame⟩ :=
      hpart.names_append_comma hcomma hrest.namesParameters hfirst
    have hends : (∀ a b, rest = a ++ ',' :: b → endsInWord (part ++ ',' :: a) = true) ↔
        ∀ a b, rest = a ++ ',' :: b → endsInWord a = true := by
      refine forall_congr' fun a => forall_congr' fun b => forall_congr' fun hab => ?_
      have hsplit : part ++ ',' :: a = part ++ [','] ++ a := by simp
      rw [hsplit, endsInWord_append _ (hrest.ne_nil hab).1]
    rw [hnames, hnames', List.cons.injEq, hsame, ih hrest hlater,
      forall_mark_iff hcomma (P := fun a _ => endsInWord a = true), hends]

/-- The two readings find as many names if and only if a blank follows every comma. -/
theorem length_names_eq_iff (h : DeclaresNames args) :
    (argNames args).length = (parameters args).length ↔
      ∀ a b, args = a ++ ',' :: b → startsBlank b = true := by
  have hends : (∀ a b, args = a ++ ',' :: b → breaksOff b = true) ↔
      ∀ a b, args = a ++ ',' :: b → startsBlank b = true := by
    refine forall_congr' fun a => forall_congr' fun b => forall_congr' fun hab => ?_
    obtain ⟨c, cs, rfl⟩ := List.exists_cons_of_ne_nil (h.ne_nil hab).2
    rfl
  rw [length_argNames, h.namesParameters.length_parameters,
    if_pos h.namesParameters.one_lt_length_words, Nat.add_right_cancel_iff,
    countEnds_eq_count_iff, hends]

end DeclaresNames

/-- The two readings of a list find the same names, up to stars, if and only if every comma stands
right behind a word and in front of a blank. They find as many if and only if it stands in front of
a blank. -/
theorem readings_agree_iff {args : List Char} (h : DeclaresNames args) :
    ((argNames args).map unstarred = (parameters args).map (·.name) ↔
      ∀ a b, args = a ++ ',' :: b → endsInWord a = true ∧ startsBlank b = true) ∧
    ((argNames args).length = (parameters args).length ↔
      ∀ a b, args = a ++ ',' :: b → startsBlank b = true) := by
  refine ⟨⟨fun hnames => ?_, fun hcommas => ?_⟩, h.length_names_eq_iff⟩
  · have hlength : (argNames args).length = (parameters args).length := by
      simpa using congrArg List.length hnames
    have hblank := h.length_names_eq_iff.mp hlength
    have hends := (h.names_eq_iff hblank).mp hnames
    exact fun a b hab => ⟨hends a b hab, hblank a b hab⟩
  · have hblank : ∀ a b, args = a ++ ',' :: b → startsBlank b = true :=
      fun a b hab => (hcommas a b hab).2
    exact (h.names_eq_iff hblank).mpr fun a b hab => (hcommas a b hab).1

/-- Commas with a blank behind them, in front of them, on both sides and on none. -/
def mixedArgs : List Char := "const char **to, int n ,int m , off_t *at,bool *up".toList

theorem readings_agree_iff_mixedArgs :
    DeclaresNames mixedArgs ∧
    ((argNames mixedArgs).map unstarred = (parameters mixedArgs).map (·.name) ↔
      ∀ a b, mixedArgs = a ++ ',' :: b → endsInWord a = true ∧ startsBlank b = true) ∧
    ((argNames mixedArgs).length = (parameters mixedArgs).length ↔
      ∀ a b, mixedArgs = a ++ ',' :: b → startsBlank b = true) := by
  have h : DeclaresNames mixedArgs := by decide
  exact ⟨h, readings_agree_iff h⟩

end Tracepoint
