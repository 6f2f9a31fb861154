import Tracepoint.Proofs.ArgumentNames

namespace Tracepoint

open Text

/-- The type, a blank and the name. -/
def Parameter.text (p : Parameter) : List Char := p.type ++ ' ' :: p.name

/-- Parameters in a row, with a comma and a blank between them. -/
def listing (ps : List Parameter) : List Char := [',', ' '].intercalate (ps.map (·.text))

/-- What is known of a parameter that was found in a list. -/
structure Parameter.IsNormal (p : Parameter) : Prop where
  type_ne_nil : p.type ≠ []
  /-- The words of the type stand one blank apart. -/
  spacing : [' '].intercalate (words p.type) = p.type
  comma : ',' ∉ p.type ∧ ',' ∉ p.name
  blanks : ∀ c ∈ p.name, isBlank c = false
  star : p.name.head? ≠ some '*'
  /-- Without a name it is a pointer, whose stars are the last word of its type. -/
  unnamed : p.name = [] → ∃ types stars, types ≠ [] ∧ words p.type = types ++ [stars] ∧
    ∀ c ∈ stars, c = '*'

/-- The stars that a text starts with. -/
def leadingStars (w : List Char) : List Char := w.takeWhile (· == '*')

theorem eq_star_of_mem_leadingStars {w : List Char} {c : Char} (h : c ∈ leadingStars w) :
    c = '*' := by
  have hstar := List.mem_takeWhile_imp h
  exact beq_iff_eq.mp hstar

theorem head?_unstarred (w : List Char) : (unstarred w).head? ≠ some '*' := by
  intro hhead
  have hnot := List.head?_dropWhile_not (· == '*') w
  rw [unstarred] at hhead
  simp [hhead] at hnot

theorem stars_of_head? {w : List Char} (h : w.head? ≠ some '*') :
    leadingStars w = [] ∧ unstarred w = w := by
  cases w with
  | nil => exact ⟨rfl, rfl⟩
  | cons c w =>
    have hc : c ≠ '*' := by simpa using h
    simp [leadingStars, unstarred, hc]

theorem unstarred_eq_nil_iff {w : List Char} : unstarred w = [] ↔ ∀ c ∈ w, c = '*' := by
  rw [unstarred, List.dropWhile_eq_nil_iff]
  simp only [beq_iff_eq]

theorem leadingStars_eq_self {w : List Char} (h : ∀ c ∈ w, c = '*') : leadingStars w = w := by
  have hall : ∀ c ∈ w, (c == '*') = true := fun c hc => beq_iff_eq.mpr (h c hc)
  exact List.takeWhile_eq_self_iff.mpr hall

namespace Parameter

variable {part last : List Char} {types : List (List Char)} {p : Parameter}

/-- The words of the type of a parameter: those in front of the last word of its part, and the
stars that this one starts with. -/
def typeWords (types : List (List Char)) (last : List Char) : List (List Char) :=
  types ++ if leadingStars last = [] then [] else [leadingStars last]

theorem ofPart?_eq_typeWords (hwords : words part = types ++ [last]) (hne : types ≠ []) :
    ofPart? part = some ⟨[' '].intercalate (typeWords types last), unstarred last⟩ := by
  rw [ofPart?_of_words hwords hne, typeWords, leadingStars, unstarred]
  split
  · rw [List.append_nil, List.append_nil]
  · rw [intercalate_concat _ hne, List.append_assoc, List.singleton_append]

theorem exists_words_of_ofPart? (h : ofPart? part = some p) :
    ∃ types last, words part = types ++ [last] ∧ types ≠ [] ∧
      p = ⟨[' '].intercalate (typeWords types last), unstarred last⟩ := by
  rcases List.eq_nil_or_concat (words part) with hnil | ⟨types, last, hwords⟩
  · simp [ofPart?, hnil] at h
  · rw [List.concat_eq_append] at hwords
    have hne : types ≠ [] := by
      rintro rfl
      simp [ofPart?, hwords] at h
    have hp := ofPart?_eq_typeWords hwords hne
    rw [hp, Option.some.injEq] at h
    exact ⟨types, last, hwords, hne, h.symm⟩

theorem typeWords_ne_nil (hne : types ≠ []) : typeWords types last ≠ [] :=
  List.append_ne_nil_of_left_ne_nil hne _

/-- A word of a type has come from the part as it is, or it is made of stars. -/
theorem mem_typeWords {w : List Char} (h : w ∈ typeWords types last) :
    w ∈ types ∨ w ≠ [] ∧ ∀ c ∈ w, c = '*' := by
  rcases List.mem_append.mp h with htypes | hstars
  · exact .inl htypes
  · split at hstars
    · cases hstars
    · next hne =>
      rw [List.mem_singleton] at hstars
      rw [hstars]
      exact .inr ⟨hne, fun c hc => eq_star_of_mem_leadingStars hc⟩

theorem isWord_of_mem_typeWords (h : ∀ w ∈ types, IsWord w) :
    ∀ w ∈ typeWords types last, IsWord w := by
  intro w hw
  rcases mem_typeWords hw with htypes | ⟨hne, hstars⟩
  · exact h w htypes
  · refine ⟨hne, fun c hc => ?_⟩
    rw [hstars c hc]
    rfl

theorem comma_notMem_typeWords (h : ∀ w ∈ types, ',' ∉ w) :
    ∀ w ∈ typeWords types last, ',' ∉ w := by
  intro w hw
  rcases mem_typeWords hw with htypes | ⟨-, hstars⟩
  · exact h w htypes
  · exact fun hcomma => absurd (hstars ',' hcomma) (by decide)

theorem spaced_typeWords (hne : types ≠ []) :
    Spaced (typeWords types last) ([' '].intercalate (typeWords types last)) :=
  Spaced.intercalate (by decide) (by decide) (typeWords_ne_nil hne)

theorem words_typeWords (hne : types ≠ []) (h : ∀ w ∈ types, IsWord w) :
    words ([' '].intercalate (typeWords types last)) = typeWords types last :=
  (spaced_typeWords hne).words_eq (isWord_of_mem_typeWords h)

theorem comma_notMem_type (hne : types ≠ []) (h : ∀ w ∈ types, ',' ∉ w) :
    ',' ∉ [' '].intercalate (typeWords types last) := by
  intro hm
  rcases (spaced_typeWords hne).mem_text hm with hblank | ⟨w, hw, hcomma⟩
  · exact absurd hblank (by decide)
  · exact comma_notMem_typeWords h w hw hcomma

theorem isNormal_of_words (hne : types ≠ []) (htypes : ∀ w ∈ types, IsWord w ∧ ',' ∉ w)
    (hlast : IsWord last ∧ ',' ∉ last) :
    IsNormal ⟨[' '].intercalate (typeWords types last), unstarred last⟩ := by
  have hwords : words ([' '].intercalate (typeWords types last)) = typeWords types last :=
    words_typeWords hne fun w hw => (htypes w hw).1
  have hname : ∀ c ∈ unstarred last, c ∈ last := fun c hc => (List.dropWhile_sublist _).subset hc
  constructor
  case type_ne_nil =>
    intro hnil
    have hnone : words ([' '].intercalate (typeWords types last)) = words [] := congrArg words hnil
    exact typeWords_ne_nil hne (hwords.symm.trans hnone)
  case spacing => exact congrArg _ hwords
  case comma =>
    exact ⟨comma_notMem_type hne fun w hw => (htypes w hw).2, fun hm => hlast.2 (hname ',' hm)⟩
  case blanks => exact fun c hc => hlast.1.2 c (hname c hc)
  case star => exact head?_unstarred last
  case unnamed =>
    intro hnil
    have hstars : ∀ c ∈ last, c = '*' := unstarred_eq_nil_iff.mp hnil
    have hall : typeWords types last = types ++ [last] := by
      rw [typeWords, leadingStars_eq_self hstars, if_neg hlast.1.1]
    exact ⟨types, last, hne, hwords.trans hall, hstars⟩

theorem isNormal_of_ofPart? (hcomma : ',' ∉ part) (h : ofPart? part = some p) : p.IsNormal := by
  obtain ⟨types, last, hwords, hne, rfl⟩ := exists_words_of_ofPart? h
  have hclear : ∀ w ∈ types ++ [last], IsWord w ∧ ',' ∉ w := by
    intro w hw
    rw [← hwords] at hw
    exact ⟨isWord_of_mem_words hw, fun hm => hcomma (mem_of_mem_words hw hm)⟩
  obtain ⟨htypes, hlast⟩ := List.forall_mem_append.mp hclear
  exact isNormal_of_words hne htypes (hlast last (List.mem_singleton_self last))

/-- Only blanks are moved: all other characters of a part are kept, in their order. -/
theorem withoutBlanks_text (h : ofPart? part = some p) :
    withoutBlanks p.text = withoutBlanks part := by
  obtain ⟨types, last, hwords, hne, rfl⟩ := exists_words_of_ofPart? h
  have hclear : ∀ w ∈ types ++ [last], IsWord w := by
    intro w hw
    rw [← hwords] at hw
    exact isWord_of_mem_words hw
  obtain ⟨htypes, hlast⟩ := List.forall_mem_append.mp hclear
  have htype : withoutBlanks ([' '].intercalate (typeWords types last)) =
      types.flatten ++ leadingStars last := by
    rw [← flatten_words, words_typeWords hne htypes, typeWords, List.flatten_append]
    split
    · next hnil => rw [hnil, List.flatten_nil]
    · rw [List.flatten_singleton]
  have hname : withoutBlanks (unstarred last) = unstarred last := by
    apply List.filter_eq_self.mpr
    intro c hc
    have hlastWord : IsWord last := hlast last (List.mem_singleton_self last)
    simp [hlastWord.2 c ((List.dropWhile_sublist _).subset hc)]
  calc withoutBlanks (text ⟨[' '].intercalate (typeWords types last), unstarred last⟩)
      = withoutBlanks ([' '].intercalate (typeWords types last)) ++
          withoutBlanks (unstarred last) := by
        rw [withoutBlanks, text, List.filter_append]
        rfl
    _ = types.flatten ++ (leadingStars last ++ unstarred last) := by
        rw [htype, hname, List.append_assoc]
    _ = types.flatten ++ last := by
        rw [leadingStars, unstarred, List.takeWhile_append_dropWhile]
    _ = (words part).flatten := by
        rw [hwords, List.flatten_append, List.flatten_singleton]
    _ = withoutBlanks part := flatten_words part

namespace IsNormal

theorem comma_notMem_text (h : p.IsNormal) : ',' ∉ p.text := by
  simp [text, h.comma.1, h.comma.2]

theorem words_type_ne_nil (h : p.IsNormal) : words p.type ≠ [] := by
  intro hnil
  have htype := h.spacing
  rw [hnil] at htype
  exact h.type_ne_nil htype.symm

/-- What is written for a parameter is read as that parameter. -/
theorem ofPart?_text (h : p.IsNormal) : ofPart? p.text = some p := by
  have hblank : isBlank ' ' = true := by decide
  have htext : words p.text = words p.type ++ words p.name := words_append_cons _ _ hblank
  by_cases hname : p.name = []
  · -- The stars behind the type are the last word, and leave no name.
    obtain ⟨types, stars, hne, hwords, hstars⟩ := h.unnamed hname
    rw [hname, words_nil, List.append_nil, hwords] at htext
    have hall : leadingStars stars = stars := leadingStars_eq_self hstars
    have hnone : unstarred stars = [] := unstarred_eq_nil_iff.mpr hstars
    have hstarWord : stars ≠ [] := by
      have hmem : stars ∈ words p.type := by simp [hwords]
      exact (isWord_of_mem_words hmem).1
    rw [ofPart?_eq_typeWords htext hne, typeWords, hall, hnone, if_neg hstarWord, ← hwords,
      h.spacing, ← hname]
  · have hword : words p.name = [p.name] := words_of_isWord ⟨hname, h.blanks⟩
    rw [hword] at htext
    obtain ⟨hnone, hall⟩ := stars_of_head? h.star
    rw [ofPart?_eq_typeWords htext h.words_type_ne_nil, typeWords, hnone, hall, if_pos rfl,
      List.append_nil, h.spacing]

end IsNormal

end Parameter

theorem listing_cons_cons (p q : Parameter) (ps : List Parameter) :
    listing (p :: q :: ps) = p.text ++ ',' :: ([' '] ++ listing (q :: ps)) := by
  rw [listing, List.map_cons, List.map_cons, List.intercalate_cons_cons, ← List.map_cons, listing]
  simp

/-- Parameters in their normal form are found again when they have been written. -/
theorem parameters_listing {ps : List Parameter} (h : ∀ p ∈ ps, p.IsNormal) :
    parameters (listing ps) = ps := by
  induction ps with
  | nil => rfl
  | cons p ps ih =>
    obtain ⟨hp, hps⟩ := List.forall_mem_cons.mp h
    cases ps with
    | nil =>
      have hsingle : listing [p] = p.text := List.intercalate_singleton
      rw [hsingle, parameters_of_notMem hp.comma_notMem_text, hp.ofPart?_text]
      rfl
    | cons q ps =>
      rw [listing_cons_cons, parameters_append_comma hp.comma_notMem_text, hp.ofPart?_text,
        parameters_gap_append (by decide), ih hps]
      rfl

theorem isNormal_of_mem_parameters {args : List Char} {p : Parameter} (h : p ∈ parameters args) :
    p.IsNormal := by
  obtain ⟨part, hpart, hp⟩ := List.mem_filterMap.mp h
  have hcomma : ',' ∉ part := by
    intro hm
    have hcut := (mem_of_mem_pieces hpart hm).1
    exact absurd hcut (by decide)
  exact Parameter.isNormal_of_ofPart? hcomma hp

/-- What can be found in a list of arguments is what has the normal form. -/
theorem exists_parameters_eq_iff {ps : List Parameter} :
    (∃ args, parameters args = ps) ↔ ∀ p ∈ ps, p.IsNormal := by
  constructor
  · rintro ⟨args, rfl⟩ p hp
    exact isNormal_of_mem_parameters hp
  · intro h
    exact ⟨listing ps, parameters_listing h⟩

/-- The parameters are the parts between commas that have two words or more, but for blanks. -/
theorem withoutBlanks_parameters (args : List Char) :
    (parameters args).map (fun p => withoutBlanks p.text) =
      ((pieces (· == ',') args).filter fun part => 2 ≤ (words part).length).map withoutBlanks := by
  rw [parameters]
  induction pieces (· == ',') args with
  | nil => rfl
  | cons part parts ih =>
    cases hpart : Parameter.ofPart? part with
    | none =>
      have hshort : (words part).length < 2 := Parameter.ofPart?_eq_none_iff.mp hpart
      rw [List.filterMap_cons_none hpart, List.filter_cons_of_neg (by simpa using hshort), ih]
    | some p =>
      have hlong : 2 ≤ (words part).length := by
        rw [← Nat.not_lt, ← Parameter.ofPart?_eq_none_iff, hpart]
        exact Option.some_ne_none p
      rw [List.filterMap_cons_some hpart, List.filter_cons_of_pos (by simpa using hlong),
        List.map_cons, List.map_cons, Parameter.withoutBlanks_text hpart, ih]

/-- Whatever a list is like, what is found in it is found again in its normal form. No star is left
in front of a name and no comma anywhere, and every part with two words or more is there, with all
that it has but blanks. -/
theorem parameters_reachNormalForm (args : List Char) :
    parameters (listing (parameters args)) = parameters args ∧
      (∀ p ∈ parameters args, p.name.head? ≠ some '*' ∧ ',' ∉ p.type ∧ ',' ∉ p.name) ∧
      (parameters args).map (fun p => withoutBlanks p.text) =
        ((pieces (· == ',') args).filter fun part => 2 ≤ (words part).length).map
          withoutBlanks := by
  have hnormal : ∀ p ∈ parameters args, p.IsNormal := fun p hp => isNormal_of_mem_parameters hp
  refine ⟨parameters_listing hnormal, ?_, withoutBlanks_parameters args⟩
  intro p hp
  exact ⟨(hnormal p hp).star, (hnormal p hp).comma⟩

/-- A pointer with no name, an empty part, a lone word, and stars in all places. -/
example : listing (parameters "const char **to,int  *,, n,struct* s * *at".toList) =
    "const char ** to, int * , struct* s * * at".toList := by decide

end Tracepoint
