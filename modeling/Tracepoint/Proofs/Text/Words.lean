import Tracepoint.Text.Blank

namespace Tracepoint.Text

def IsGap (cs : List Char) : Prop := ∀ c ∈ cs, isBlank c = true

def IsWord (w : List Char) : Prop := w ≠ [] ∧ ∀ c ∈ w, isBlank c = false

-- Given in full: a search for the instance could go through all characters there are.
instance (cs : List Char) : Decidable (IsGap cs) := List.decidableBAll (isBlank · = true) cs

instance (w : List Char) : Decidable (IsWord w) :=
  have : Decidable (∀ c ∈ w, isBlank c = false) := List.decidableBAll (isBlank · = false) w
  instDecidableAnd

theorem mem_of_mem_after {mark c : Char} {cs : List Char} (h : c ∈ after mark cs) : mark ∈ cs := by
  refine Decidable.byContradiction fun hnot => ?_
  have hnil := after_append_of_notMem hnot []
  rw [List.append_nil] at hnil
  rw [hnil] at h
  cases h

theorem before_append_of_mem {mark : Char} {a : List Char} (h : mark ∈ a) (b : List Char) :
    before mark (a ++ b) = before mark a := by
  obtain ⟨front, back, rfl, hnot⟩ := List.eq_append_cons_of_mem h
  rw [List.append_assoc, List.cons_append, before_append_cons _ hnot, before_append_cons _ hnot]

theorem after_append_of_mem {mark : Char} {a : List Char} (h : mark ∈ a) (b : List Char) :
    after mark (a ++ b) = after mark a ++ b := by
  obtain ⟨front, back, rfl, hnot⟩ := List.eq_append_cons_of_mem h
  rw [List.append_assoc, List.cons_append, after_append_cons _ hnot, after_append_cons _ hnot]

theorem pieces_of_forall_not {p : Char → Bool} {cs : List Char} (h : ∀ c ∈ cs, p c = false) :
    pieces p cs = [cs] := by
  induction cs with
  | nil => rfl
  | cons c cs ih =>
    have hc : p c = false := h c (by simp)
    have hcs := ih fun d hd => h d (by simp [hd])
    simp [pieces, hc, hcs]

theorem pieces_of_notMem {mark : Char} {cs : List Char} (h : mark ∉ cs) :
    pieces (· == mark) cs = [cs] := by
  apply pieces_of_forall_not
  intro c hc
  rw [beq_eq_false_iff_ne]
  rintro rfl
  exact h hc

/-- A character at which a text is not cut goes to the first piece. -/
theorem pieces_cons_of_not {p : Char → Bool} {c : Char} (h : p c = false) (cs : List Char) :
    ∃ w ws, pieces p cs = w :: ws ∧ pieces p (c :: cs) = (c :: w) :: ws := by
  cases hp : pieces p cs with
  | nil => exact absurd hp (pieces_ne_nil p cs)
  | cons w ws => exact ⟨w, ws, rfl, by simp [pieces, h, hp]⟩

/-- What holds of every text without a mark, and goes from the text behind the first mark to the
whole, holds of all texts. -/
@[elab_as_elim]
theorem inductionOn_mark (mark : Char) {motive : List Char → Prop} (cs : List Char)
    (single : ∀ part, mark ∉ part → motive part)
    (cons : ∀ part rest, mark ∉ part → motive rest → motive (part ++ mark :: rest)) :
    motive cs := by
  induction hn : cs.length using Nat.strongRecOn generalizing cs with
  | ind n ih =>
    by_cases hmark : mark ∈ cs
    · obtain ⟨part, rest, rfl, hpart⟩ := List.eq_append_cons_of_mem hmark
      have hlt : rest.length < n := by
        rw [← hn, List.length_append, List.length_cons]
        omega
      exact cons part rest hpart (ih rest.length hlt rest rfl)
    · exact single cs hmark

theorem mem_of_mem_pieces {p : Char → Bool} {cs w : List Char} (hw : w ∈ pieces p cs) {c : Char}
    (hc : c ∈ w) : p c = false ∧ c ∈ cs := by
  induction cs generalizing w with
  | nil =>
    rw [List.mem_singleton.mp hw] at hc
    cases hc
  | cons d cs ih =>
    cases hd : p d with
    | true =>
      rw [pieces, if_pos hd, List.mem_cons] at hw
      rcases hw with rfl | hw
      · cases hc
      · obtain ⟨hp, hm⟩ := ih hw hc
        exact ⟨hp, List.mem_cons_of_mem d hm⟩
    | false =>
      obtain ⟨v, vs, hrest, hall⟩ := pieces_cons_of_not hd cs
      rw [hall, List.mem_cons] at hw
      rcases hw with rfl | hw
      · rcases List.mem_cons.mp hc with rfl | hc
        · exact ⟨hd, List.mem_cons_self⟩
        · obtain ⟨hp, hm⟩ := ih (hrest ▸ List.mem_cons_self) hc
          exact ⟨hp, List.mem_cons_of_mem d hm⟩
      · obtain ⟨hp, hm⟩ := ih (hrest ▸ List.mem_cons_of_mem v hw) hc
        exact ⟨hp, List.mem_cons_of_mem d hm⟩

theorem words_nil : words [] = [] := rfl

theorem isWord_of_mem_words {cs w : List Char} (h : w ∈ words cs) : IsWord w := by
  obtain ⟨hw, hne⟩ := List.mem_filter.mp h
  exact ⟨by simpa using hne, fun c hc => (mem_of_mem_pieces hw hc).1⟩

theorem mem_of_mem_words {cs w : List Char} (h : w ∈ words cs) {c : Char} (hc : c ∈ w) : c ∈ cs :=
  (mem_of_mem_pieces (List.mem_filter.mp h).1 hc).2

/-- A text without its blanks. -/
def withoutBlanks (cs : List Char) : List Char := cs.filter (!isBlank ·)

theorem flatten_pieces (p : Char → Bool) (cs : List Char) :
    (pieces p cs).flatten = cs.filter (!p ·) := by
  induction cs with
  | nil => rfl
  | cons c cs ih =>
    cases hc : p c with
    | true => simp [pieces, hc, ih]
    | false =>
      obtain ⟨w, ws, hrest, hall⟩ := pieces_cons_of_not hc cs
      rw [hrest] at ih
      rw [hall, List.flatten_cons, List.cons_append, ← List.flatten_cons, ih]
      simp [hc]

theorem flatten_words (cs : List Char) : (words cs).flatten = withoutBlanks cs := by
  rw [words, List.flatten_filter_not_isEmpty, flatten_pieces, withoutBlanks]

theorem words_append_cons (a b : List Char) {c : Char} (h : isBlank c = true) :
    words (a ++ c :: b) = words a ++ words b := by
  rw [words, pieces_append_cons _ _ _ h, List.filter_append, words, words]

theorem words_of_isWord {w : List Char} (h : IsWord w) : words w = [w] := by
  simp [words, pieces_of_forall_not h.2, h.1]

/-- A character that is not blank is part of a word. -/
theorem words_cons_ne_nil {c : Char} (h : isBlank c = false) (cs : List Char) :
    words (c :: cs) ≠ [] := by
  obtain ⟨w, ws, -, hp⟩ := pieces_cons_of_not h cs
  simp [words, hp]

theorem words_gap_append {gap : List Char} (h : IsGap gap) (cs : List Char) :
    words (gap ++ cs) = words cs := by
  induction gap with
  | nil => rfl
  | cons c gap ih =>
    have hc : isBlank c = true := h c (by simp)
    have hcut := words_append_cons [] (gap ++ cs) hc
    simpa [words_nil, ih fun d hd => h d (by simp [hd])] using hcut

theorem words_append_gap_append (a b : List Char) {gap : List Char} (h : IsGap gap)
    (hne : gap ≠ []) : words (a ++ gap ++ b) = words a ++ words b := by
  cases gap with
  | nil => exact absurd rfl hne
  | cons c gap =>
    have hc : isBlank c = true := h c (by simp)
    have hgap : IsGap gap := fun d hd => h d (by simp [hd])
    rw [List.append_assoc, List.cons_append, words_append_cons _ _ hc, words_gap_append hgap]

theorem words_append_gap (a : List Char) {gap : List Char} (h : IsGap gap) :
    words (a ++ gap) = words a := by
  by_cases hne : gap = []
  · rw [hne, List.append_nil]
  · have ha := words_append_gap_append a [] h hne
    simpa [words_nil] using ha

theorem intercalate_concat (gap : List Char) {parts : List (List Char)} (h : parts ≠ [])
    (last : List Char) :
    gap.intercalate (parts ++ [last]) = gap.intercalate parts ++ gap ++ last := by
  induction parts with
  | nil => exact absurd rfl h
  | cons part parts ih =>
    cases parts with
    | nil => simp [List.intercalate_cons_cons]
    | cons next parts =>
      have hrest := ih (List.cons_ne_nil next parts)
      rw [List.cons_append, List.cons_append, List.intercalate_cons_cons,
        List.intercalate_cons_cons, ← List.cons_append, hrest]
      simp only [List.append_assoc]

/-- Words with blanks between them. -/
inductive Spaced : List (List Char) → List Char → Prop
  | single (w : List Char) : Spaced [w] w
  | cons (w gap : List Char) {text : List Char} {ws : List (List Char)} (hgap : IsGap gap)
      (hne : gap ≠ []) (hws : Spaced ws text) : Spaced (w :: ws) (w ++ gap ++ text)

namespace Spaced

variable {ws : List (List Char)} {text : List Char}

theorem words_eq (h : Spaced ws text) (hw : ∀ w ∈ ws, IsWord w) : words text = ws := by
  induction h with
  | single w => exact words_of_isWord (hw w (by simp))
  | cons w gap hgap hne _ ih =>
    have hws := ih fun v hv => hw v (by simp [hv])
    rw [words_append_gap_append _ _ hgap hne, words_of_isWord (hw w (by simp)), hws,
      List.singleton_append]

theorem intercalate {gap : List Char} (hgap : IsGap gap) (hne : gap ≠ []) (hws : ws ≠ []) :
    Spaced ws (gap.intercalate ws) := by
  induction ws with
  | nil => exact absurd rfl hws
  | cons w ws ih =>
    cases ws with
    | nil =>
      rw [List.intercalate_singleton]
      exact single w
    | cons v ws =>
      rw [List.intercalate_cons_cons]
      exact cons w gap hgap hne (ih (List.cons_ne_nil v ws))

/-- Text can be put right behind the last word. -/
theorem append_last (h : Spaced ws text) (more : List Char) :
    ∀ {init : List (List Char)} {last : List Char}, ws = init ++ [last] →
      Spaced (init ++ [last ++ more]) (text ++ more) := by
  induction h with
  | single w =>
    intro init last he
    cases init with
    | nil =>
      obtain rfl : w = last := by simpa using he
      exact single _
    | cons v init => simp at he
  | cons w gap hgap hne hws ih =>
    intro init last he
    cases init with
    | nil =>
      obtain rfl : _ = [] := (List.cons.inj he).2
      cases hws
    | cons v init =>
      obtain ⟨rfl, hrest⟩ := List.cons.inj he
      rw [List.append_assoc]
      exact cons w gap hgap hne (ih hrest)

theorem mem_text (h : Spaced ws text) {c : Char} (hc : c ∈ text) :
    isBlank c = true ∨ ∃ w ∈ ws, c ∈ w := by
  induction h with
  | single w => exact .inr ⟨w, by simp, hc⟩
  | cons w gap hgap _ _ ih =>
    rw [List.mem_append, List.mem_append] at hc
    rcases hc with (hw | hg) | ht
    · exact .inr ⟨w, by simp, hw⟩
    · exact .inl (hgap c hg)
    · rcases ih ht with hb | ⟨v, hv, hcv⟩
      · exact .inl hb
      · exact .inr ⟨v, by simp [hv], hcv⟩

end Spaced

/-- A text that neither starts nor ends with a blank. -/
def IsTrimmed (cs : List Char) : Prop :=
  (∃ c rest, cs = c :: rest ∧ isBlank c = false) ∧ ∃ init c, cs = init ++ [c] ∧ isBlank c = false

theorem IsWord.isTrimmed {w : List Char} (h : IsWord w) : IsTrimmed w := by
  constructor
  · obtain ⟨c, rest, rfl⟩ := List.exists_cons_of_ne_nil h.1
    exact ⟨c, rest, rfl, h.2 c (by simp)⟩
  · refine ⟨w.dropLast, w.getLast h.1, (List.dropLast_concat_getLast h.1).symm, ?_⟩
    exact h.2 _ (List.getLast_mem h.1)

theorem IsTrimmed.append {a b : List Char} (ha : IsTrimmed a) (mid : List Char)
    (hb : IsTrimmed b) : IsTrimmed (a ++ mid ++ b) := by
  obtain ⟨⟨c, rest, rfl, hc⟩, -⟩ := ha
  obtain ⟨-, init, d, rfl, hd⟩ := hb
  exact ⟨⟨c, rest ++ mid ++ (init ++ [d]), by simp, hc⟩, c :: rest ++ mid ++ init, d, by simp, hd⟩

theorem Spaced.isTrimmed {ws : List (List Char)} {text : List Char} (h : Spaced ws text)
    (hw : ∀ w ∈ ws, IsWord w) : IsTrimmed text := by
  induction h with
  | single w => exact (hw w (by simp)).isTrimmed
  | cons w gap _ _ _ ih =>
    exact (hw w (by simp)).isTrimmed.append _ (ih fun v hv => hw v (by simp [hv]))

/-- A text is blank, or there is a first character that is not. -/
theorem isGap_or_exists_cons (cs : List Char) :
    IsGap cs ∨ ∃ gap c rest, IsGap gap ∧ isBlank c = false ∧ cs = gap ++ c :: rest := by
  induction cs with
  | nil => exact .inl (by simp [IsGap])
  | cons d cs ih =>
    cases hd : isBlank d with
    | false => exact .inr ⟨[], d, cs, by simp [IsGap], hd, rfl⟩
    | true =>
      rcases ih with hgap | ⟨gap, c, rest, hgap, hc, rfl⟩
      · exact .inl (List.forall_mem_cons.mpr ⟨hd, hgap⟩)
      · exact .inr ⟨d :: gap, c, rest, List.forall_mem_cons.mpr ⟨hd, hgap⟩, hc, rfl⟩

theorem trimStart_gap_append {gap : List Char} (h : IsGap gap) {c : Char}
    (hc : isBlank c = false) (cs : List Char) : trimStart (gap ++ c :: cs) = c :: cs := by
  rw [trimStart, List.dropWhile_append_of_pos h, List.dropWhile_cons_of_neg (by simp [hc])]

theorem trimEnd_append_cons (a b : List Char) {c : Char} (hc : isBlank c = false) :
    trimEnd (a ++ c :: b) = a ++ c :: trimEnd b := by
  have hr : (a ++ c :: b).reverse = b.reverse ++ c :: a.reverse := by simp
  rw [trimEnd, hr, List.dropWhile_append]
  cases hb : b.reverse.dropWhile isBlank with
  | nil => simp [trimEnd, hb, hc]
  | cons d ds => simp [trimEnd, hb]

theorem trimStart_of_isGap {cs : List Char} (h : IsGap cs) : trimStart cs = [] := by
  have hs : trimStart (cs ++ []) = [] := List.dropWhile_append_of_pos h
  rwa [List.append_nil] at hs

theorem trim_of_isGap {cs : List Char} (h : IsGap cs) : trim cs = [] := by
  rw [trim, trimStart_of_isGap h]
  rfl

theorem trim_gap_append_cons {gap : List Char} (hgap : IsGap gap) {c : Char}
    (hc : isBlank c = false) (cs : List Char) : trim (gap ++ c :: cs) = c :: trimEnd cs := by
  rw [trim, trimStart_gap_append hgap hc]
  exact trimEnd_append_cons [] cs hc

/-- What trimming leaves does not end with a blank. -/
theorem trimEnd_eq_nil_or (cs : List Char) :
    trimEnd cs = [] ∨ ∃ init c, trimEnd cs = init ++ [c] ∧ isBlank c = false := by
  rcases isGap_or_exists_cons cs.reverse with hgap | ⟨gap, c, rest, hgap, hc, hrest⟩
  · have hs : cs.reverse.dropWhile isBlank = [] := trimStart_of_isGap hgap
    exact .inl (by rw [trimEnd, hs]; rfl)
  · have hs : cs.reverse.dropWhile isBlank = c :: rest := hrest ▸ trimStart_gap_append hgap hc rest
    exact .inr ⟨rest.reverse, c, by rw [trimEnd, hs, List.reverse_cons], hc⟩

theorem mem_of_mem_trimEnd {cs : List Char} {c : Char} (h : c ∈ trimEnd cs) : c ∈ cs := by
  rw [trimEnd, List.mem_reverse] at h
  exact List.mem_reverse.mp ((List.dropWhile_sublist _).subset h)

theorem trim_gap_append {gap cs : List Char} (hgap : IsGap gap) (h : IsTrimmed cs)
    (tail : List Char) : trim (gap ++ cs ++ tail) = cs ++ trimEnd tail := by
  obtain ⟨⟨c, rest, hcs, hc⟩, init, d, hds, hd⟩ := h
  have hs : trimStart (gap ++ cs ++ tail) = cs ++ tail := by
    rw [hcs, List.append_assoc, List.cons_append, trimStart_gap_append hgap hc]
  rw [trim, hs, hds, List.append_assoc, List.singleton_append, trimEnd_append_cons _ _ hd,
    List.append_assoc, List.singleton_append]

theorem IsTrimmed.trim_eq {cs : List Char} (h : IsTrimmed cs) : trim cs = cs := by
  have hnil : IsGap [] := by simp [IsGap]
  have ht := trim_gap_append hnil h []
  simpa [trimEnd] using ht

theorem trim_eq_nil_or_isTrimmed (cs : List Char) : trim cs = [] ∨ IsTrimmed (trim cs) := by
  rcases isGap_or_exists_cons cs with hgap | ⟨gap, c, rest, hgap, hc, rfl⟩
  · exact .inl (trim_of_isGap hgap)
  · rw [trim_gap_append_cons hgap hc]
    rcases trimEnd_eq_nil_or rest with hnil | ⟨init, d, hend, hd⟩
    · exact .inr ⟨⟨c, [], by rw [hnil], hc⟩, [], c, by rw [hnil]; rfl, hc⟩
    · exact .inr ⟨⟨c, _, rfl, hc⟩, c :: init, d, by rw [hend]; rfl, hd⟩

theorem trim_trim (cs : List Char) : trim (trim cs) = trim cs := by
  rcases trim_eq_nil_or_isTrimmed cs with hnil | htrimmed
  · rw [hnil]
    rfl
  · exact htrimmed.trim_eq

theorem mem_of_mem_trim {cs : List Char} {c : Char} (h : c ∈ trim cs) : c ∈ cs :=
  (List.dropWhile_sublist isBlank).subset (mem_of_mem_trimEnd h)

end Tracepoint.Text
