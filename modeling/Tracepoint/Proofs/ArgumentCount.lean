import Mathlib
import Tracepoint.Event
import Tracepoint.Proofs.Parameters

namespace Tracepoint

namespace Text

theorem length_pieces (p : Char → Bool) (cs : List Char) :
    (pieces p cs).length = cs.countP p + 1 := by
  induction cs with
  | nil => rfl
  | cons c cs ih =>
    cases hc : p c with
    | true => simp [pieces, hc, ih]
    | false =>
      obtain ⟨w, ws, hrest, hall⟩ := pieces_cons_of_not hc cs
      rw [hrest] at ih
      simpa [hall, hc] using ih

/-- No word goes on here. -/
def breaksOff (cs : List Char) : Bool := cs.head?.all isBlank

/-- How often a mark ends a word. -/
def countEnds (mark : Char) : List Char → Nat
  | [] => 0
  | c :: cs => (if c = mark ∧ breaksOff cs = true then 1 else 0) + countEnds mark cs

variable {mark : Char}

/-- The first piece is empty where no word goes on. -/
theorem pieces_head_eq_nil_iff {cs w : List Char} {ws : List (List Char)}
    (h : pieces isBlank cs = w :: ws) : w = [] ↔ breaksOff cs = true := by
  cases cs with
  | nil =>
    obtain ⟨rfl, -⟩ := List.cons.inj h
    simp [breaksOff]
  | cons c cs =>
    cases hc : isBlank c with
    | true =>
      rw [pieces, if_pos hc] at h
      obtain ⟨rfl, -⟩ := List.cons.inj h
      simp [breaksOff, hc]
    | false =>
      obtain ⟨v, vs, -, hall⟩ := pieces_cons_of_not hc cs
      obtain ⟨rfl, -⟩ := List.cons.inj (hall.symm.trans h)
      simp [breaksOff, hc]

theorem countP_pieces (hmark : isBlank mark = false) (cs : List Char) :
    (pieces isBlank cs).countP (·.getLast? = some mark) = countEnds mark cs := by
  induction cs with
  | nil => rfl
  | cons c cs ih =>
    cases hc : isBlank c with
    | true =>
      have hne : c ≠ mark := by
        rintro rfl
        simp [hc] at hmark
      simp [pieces, hc, countEnds, hne, ih]
    | false =>
      obtain ⟨w, ws, hrest, hall⟩ := pieces_cons_of_not hc cs
      have hbreak := pieces_head_eq_nil_iff hrest
      rw [hrest, List.countP_cons] at ih
      rw [hall, List.countP_cons, countEnds, ← ih]
      -- The character is the last of its word if the first piece of the rest is empty.
      cases w with
      | nil =>
        have hb : breaksOff cs = true := hbreak.mp rfl
        simp [hb, Nat.add_comm]
      | cons d w =>
        have hb : breaksOff cs = false := by simpa using hbreak
        simp [hb]

/-- Words end with a mark as often as the mark ends a word. -/
theorem countP_words (hmark : isBlank mark = false) (cs : List Char) :
    (words cs).countP (·.getLast? = some mark) = countEnds mark cs := by
  -- Empty pieces, which are no words, end with nothing.
  rw [← countP_pieces hmark, words, List.countP_filter]
  apply List.countP_congr
  intro w _
  cases w <;> simp

theorem countEnds_le_count (cs : List Char) : countEnds mark cs ≤ cs.count mark := by
  induction cs with
  | nil => simp [countEnds]
  | cons c cs ih =>
    rw [countEnds, List.count_cons]
    by_cases hc : c = mark
    · simp only [hc, true_and, beq_self_eq_true, if_true]
      split <;> omega
    · simp [hc, ih]

/-- A mark ends a word wherever it stands if and only if no word goes on behind any of them. -/
theorem countEnds_eq_count_iff (cs : List Char) :
    countEnds mark cs = cs.count mark ↔
      ∀ a b, cs = a ++ mark :: b → breaksOff b = true := by
  induction cs with
  | nil => simp [countEnds]
  | cons c cs ih =>
    have hle : countEnds mark cs ≤ cs.count mark := countEnds_le_count cs
    have hforall : (∀ a b, c :: cs = a ++ mark :: b → breaksOff b = true) ↔
        (c = mark → breaksOff cs = true) ∧ ∀ a b, cs = a ++ mark :: b → breaksOff b = true := by
      constructor
      · intro h
        exact ⟨fun hc => h [] cs (by simp [hc]), fun a b hcs => h (c :: a) b (by simp [hcs])⟩
      · rintro ⟨hhere, hrest⟩ a b hcs
        rcases List.cons_eq_append_iff.mp hcs with ⟨rfl, hb⟩ | ⟨a', rfl, hcs'⟩
        · obtain ⟨rfl, rfl⟩ := List.cons.inj hb
          exact hhere rfl
        · exact hrest a' b hcs'
    rw [hforall, ← ih, countEnds, List.count_cons]
    by_cases hc : c = mark
    · cases hb : breaksOff cs with
      | true => simp [hc]; omega
      | false => simp [hc]; omega
    · simp [hc]

theorem length_words_le_append (a b : List Char) :
    (words b).length ≤ (words (a ++ b)).length := by
  induction a with
  | nil => exact le_rfl
  | cons c a ih =>
    rw [List.cons_append]
    refine ih.trans ?_
    cases hc : isBlank c with
    | true =>
      have hcut := words_append_cons [] (a ++ b) hc
      rw [List.nil_append, words_nil, List.nil_append] at hcut
      rw [hcut]
    | false =>
      obtain ⟨w, ws, hrest, hall⟩ := pieces_cons_of_not hc (a ++ b)
      rw [words, words, hrest, hall]
      cases w <;> simp

/-- The last piece is what the text ends with. -/
theorem exists_suffix_mem_pieces (mark : Char) (cs : List Char) :
    ∃ a b, cs = a ++ b ∧ b ∈ pieces (· == mark) cs := by
  by_cases hmark : mark ∈ cs.reverse
  · obtain ⟨b, a, hcs, hb⟩ := List.eq_append_cons_of_mem hmark
    have hcs : cs = a.reverse ++ mark :: b.reverse := by
      rw [← cs.reverse_reverse, hcs]
      simp
    rw [← List.mem_reverse] at hb
    refine ⟨a.reverse ++ [mark], b.reverse, by simpa using hcs, ?_⟩
    have hcut := pieces_append_cons (· == mark) a.reverse b.reverse (beq_self_eq_true mark)
    rw [hcs, hcut, pieces_of_notMem hb]
    simp
  · rw [List.mem_reverse] at hmark
    have hwhole : pieces (· == mark) cs = [cs] := pieces_of_notMem hmark
    exact ⟨[], cs, rfl, by simp [hwhole]⟩

end Text

open Text

theorem Field.closed_ofWord (w : List Char) :
    (Field.ofWord w).closed = true ↔ w.getLast? = some ',' := by
  have hclosed (text : List Char) :
      (if text.getLast? = some ',' then (⟨text.dropLast, true⟩ : Field)
        else ⟨text, false⟩).closed = true ↔ text.getLast? = some ',' := by
    split <;> simpa
  unfold ofWord
  split
  · next cs =>
    rw [hclosed]
    cases cs <;> simp [List.getLast?_cons_cons]
  · simp only [hclosed]

theorem length_fieldNames (fields : List Field) :
    (fieldNames fields).length =
      fields.countP (·.closed) + if 1 < fields.length then 1 else 0 := by
  rw [fieldNames, List.length_append, List.length_map, ← List.countP_eq_length_filter]
  congr 1
  split
  · next hlen =>
    have hne : fields ≠ [] := List.length_pos_iff.mp (by omega)
    rw [List.getLast?_eq_some_getLast hne]
    rfl
  · rfl

/-- A comma gives a name where it ends a word; the last word gives one more. -/
theorem length_argNames (args : List Char) :
    (argNames args).length =
      countEnds ',' args + if 1 < (words args).length then 1 else 0 := by
  have hclosed : (words args).countP ((·.closed) ∘ Field.ofWord) = countEnds ',' args := by
    rw [← countP_words (by decide)]
    apply List.countP_congr
    intro w _
    rw [Function.comp_apply, Field.closed_ofWord, decide_eq_true_iff]
  rw [argNames, length_fieldNames, List.countP_map, hclosed, List.length_map]

/-- Every part between commas has a word for the type and one for the name. -/
def NamesParameters (args : List Char) : Prop :=
  ∀ part ∈ pieces (· == ',') args, 2 ≤ (words part).length

instance (args : List Char) : Decidable (NamesParameters args) :=
  List.decidableBAll (fun part => 2 ≤ (words part).length) _

namespace NamesParameters

variable {args : List Char}

theorem length_parameters (h : NamesParameters args) :
    (parameters args).length = args.count ',' + 1 := by
  have hsome : ∀ part ∈ pieces (· == ',') args, (Parameter.ofPart? part).isSome = true := by
    intro part hpart
    have hlen : ¬(words part).length < 2 := Nat.not_lt.mpr (h part hpart)
    rw [← Parameter.ofPart?_eq_none_iff] at hlen
    exact Option.isSome_iff_ne_none.mpr hlen
  rw [parameters, List.filterMap_length_eq_length.mpr hsome, length_pieces]
  rfl

theorem one_lt_length_words (h : NamesParameters args) : 1 < (words args).length := by
  obtain ⟨a, part, rfl, hpart⟩ := exists_suffix_mem_pieces ',' args
  have hlast : 2 ≤ (words part).length := h part hpart
  exact hlast.trans (length_words_le_append a part)

end NamesParameters

namespace Event

theorem argCount_parse (line : String) :
    (parse line).argCount = (Tracepoint.argNames (parse line).args.toList).length := by
  rw [argCount, parse, ofChars, List.length_map, String.toList_ofList]

/-- An argument is passed on for every comma that ends a word and for the last parameter. That makes
one for each parameter if and only if no word goes on behind a comma. -/
theorem argCount_eq_iff {line : String} (h : NamesParameters (parse line).args.toList) :
    (parse line).parameters.length = (pieces (· == ',') (parse line).args.toList).length ∧
      (parse line).argCount = countEnds ',' (parse line).args.toList + 1 ∧
      ((parse line).argCount = (pieces (· == ',') (parse line).args.toList).length ↔
        ∀ a b, (parse line).args.toList = a ++ ',' :: b → breaksOff b = true) := by
  have hpieces : (pieces (· == ',') (parse line).args.toList).length =
      (parse line).args.toList.count ',' + 1 := length_pieces _ _
  have hcount : (parse line).argCount = countEnds ',' (parse line).args.toList + 1 := by
    rw [argCount_parse, length_argNames, if_pos h.one_lt_length_words]
  refine ⟨h.length_parameters.trans hpieces.symm, hcount, ?_⟩
  rw [hcount, hpieces, Nat.add_right_cancel_iff, countEnds_eq_count_iff]

/-- Of the two commas the second ends a word. -/
def seekLine : String := "seek(int fd,off_t to , int whence) \"%d\""

theorem argCount_eq_iff_seekLine :
    NamesParameters (parse seekLine).args.toList ∧
      (parse seekLine).parameters.length =
        (pieces (· == ',') (parse seekLine).args.toList).length ∧
      (parse seekLine).argCount = countEnds ',' (parse seekLine).args.toList + 1 ∧
      ((parse seekLine).argCount = (pieces (· == ',') (parse seekLine).args.toList).length ↔
        ∀ a b, (parse seekLine).args.toList = a ++ ',' :: b → breaksOff b = true) := by
  have h : NamesParameters (parse seekLine).args.toList := by decide
  exact ⟨h, argCount_eq_iff h⟩

example : (parse seekLine).argCount = 2 ∧ (parse seekLine).parameters.length = 3 := by decide

/-- With no blank behind the comma only the second parameter is passed on. -/
theorem argCount_not_parameters :
    ¬ ∀ line, NamesParameters (parse line).args.toList →
      (parse line).argCount = (pieces (· == ',') (parse line).args.toList).length := by
  intro h
  have hlen := h "f(int a,int b) \"%d %d\"" (by decide)
  exact absurd hlen (by decide)

end Event

end Tracepoint
