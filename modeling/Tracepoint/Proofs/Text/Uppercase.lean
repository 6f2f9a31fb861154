import Tracepoint.Text.Uppercase

namespace Tracepoint.Text

def IsAscii (c : Char) : Prop := c.toNat < 128

instance (c : Char) : Decidable (IsAscii c) := Nat.decLt _ _

/-- There are few enough characters in ASCII to look at each of them. -/
@[elab_as_elim]
theorem IsAscii.of_forall {motive : Char → Prop} {c : Char} (hc : IsAscii c)
    (h : ∀ n < 128, motive (Char.ofNat n)) : motive c :=
  Char.ofNat_toNat c ▸ h c.toNat hc

theorem toNat_ofNat {n : Nat} (h : n.isValidChar) : (Char.ofNat n).toNat = n := by
  have hvalid : Char.ofNat n = Char.ofNatAux n h := dif_pos h
  rw [hvalid]
  rfl

theorem upperChar_cases (c : Char) :
    (∃ cs, (c, cs) ∈ caseExpansions ∧ upperChar c = cs) ∨
      (∃ r ∈ caseRuns, r.contains c = true ∧
        upperChar c = [Char.ofNat ((c.toNat : Int) + r.shift).toNat]) ∨
      (∀ r ∈ caseRuns, r.contains c = false) ∧ upperChar c = [c] := by
  rw [upperChar]
  split
  · next cs hlookup =>
    obtain ⟨front, back, htable, -⟩ := List.lookup_eq_some_iff.mp hlookup
    exact .inl ⟨cs, by rw [htable]; simp, rfl⟩
  · split
    · next r hfind =>
      have hcontains : r.contains c = true :=
        List.find?_some (p := fun r => CaseRun.contains r c) hfind
      exact .inr (.inl ⟨r, List.mem_of_find?_eq_some hfind, hcontains, rfl⟩)
    · next hfind => exact .inr (.inr ⟨by simpa using hfind, rfl⟩)

/-- The upper cases that a run leads to are characters, and letters if they are in ASCII. -/
theorem caseRuns_targets : ∀ r ∈ caseRuns, 0x41 ≤ (r.first : Int) + r.shift ∧
    ((r.last : Int) + r.shift < 0xD800 ∨ 0xDFFF < (r.first : Int) + r.shift) ∧
    (r.last : Int) + r.shift < 0x110000 := by
  decide +kernel

theorem CaseRun.contains_iff {r : CaseRun} {c : Char} : r.contains c = true ↔
    r.first ≤ c.toNat ∧ c.toNat ≤ r.last ∧ (c.toNat - r.first) % r.step = 0 := by
  simp [CaseRun.contains, and_assoc]

theorem toNat_target {r : CaseRun} (hr : r ∈ caseRuns) {c : Char} (hc : r.contains c = true) :
    ((Char.ofNat ((c.toNat : Int) + r.shift).toNat).toNat : Int) = c.toNat + r.shift := by
  obtain ⟨hpositive, hsurrogate, hlast⟩ := caseRuns_targets r hr
  obtain ⟨hl, hu, -⟩ := CaseRun.contains_iff.mp hc
  have hvalid : ((c.toNat : Int) + r.shift).toNat.isValidChar := by
    rw [Nat.isValidChar]
    omega
  rw [toNat_ofNat hvalid]
  omega

theorem newline_notMem_upperChar {c : Char} (h : c ≠ '\n') : '\n' ∉ upperChar c := by
  rcases upperChar_cases c with ⟨cs, hmem, hupper⟩ | ⟨r, hr, hc, hupper⟩ | ⟨-, hupper⟩
  · have htable : ∀ p ∈ caseExpansions, '\n' ∉ p.2 := by decide
    rw [hupper]
    exact htable _ hmem
  · have htarget := toNat_target hr hc
    obtain ⟨hpositive, -, -⟩ := caseRuns_targets r hr
    obtain ⟨hl, -, -⟩ := CaseRun.contains_iff.mp hc
    rw [hupper, List.mem_singleton]
    intro hnewline
    rw [← hnewline] at htarget
    have hten : '\n'.toNat = 10 := rfl
    omega
  · rw [hupper, List.mem_singleton]
    exact h.symm

theorem newline_notMem_upper {cs : List Char} (h : '\n' ∉ cs) : '\n' ∉ upper cs := by
  rw [upper, List.mem_flatMap]
  rintro ⟨c, hc, hnewline⟩
  exact newline_notMem_upperChar (fun hsame => h (hsame ▸ hc)) hnewline

/-- The letters beyond ASCII with an upper case within: the sharp and the long s, the i without its
dot, and the ligatures. -/
def asciiCapitals : List Char :=
  ['ß', 'ı', 'ſ', '\ufb00', '\ufb01', '\ufb02', '\ufb03', '\ufb04', '\ufb05', '\ufb06']

/-- The run within ASCII. -/
def basicRun : CaseRun where
  first := 'a'.toNat
  last := 'z'.toNat
  step := 1
  shift := -32

/-- One run begins in ASCII, and another two lead there. -/
theorem caseRuns_ascii : ∀ r ∈ caseRuns,
    r = basicRun ∨ 128 ≤ r.first ∧ (128 ≤ (r.first : Int) + r.shift ∨
        r.first = r.last ∧ Char.ofNat r.first ∈ asciiCapitals) := by
  decide +kernel

-- The quantifier over the characters of one text is spelled as a computation on its list: it would
-- be decided for all characters there are, otherwise.
theorem caseExpansions_ascii : ∀ p ∈ caseExpansions,
    ¬IsAscii p.1 ∧ (p.2.all (fun d => decide (IsAscii d)) = true → p.1 ∈ asciiCapitals) := by
  decide +kernel

theorem toUpper_of_isAscii {c : Char} (h : IsAscii c) :
    c.toUpper = if basicRun.contains c then Char.ofNat ((c.toNat : Int) + basicRun.shift).toNat
      else c := by
  have hall : ∀ n < 128, (Char.ofNat n).toUpper = if basicRun.contains (Char.ofNat n) then
      Char.ofNat (((Char.ofNat n).toNat : Int) + basicRun.shift).toNat else Char.ofNat n := by
    decide +kernel
  exact h.of_forall hall

theorem upperChar_of_isAscii {c : Char} (h : IsAscii c) : upperChar c = [c.toUpper] := by
  rw [toUpper_of_isAscii h]
  rcases upperChar_cases c with ⟨cs, hmem, -⟩ | ⟨r, hr, hc, hupper⟩ | ⟨hnone, hupper⟩
  · exact absurd h (caseExpansions_ascii _ hmem).1
  · rcases caseRuns_ascii r hr with rfl | ⟨hfar, -⟩
    · rw [hupper, if_pos hc]
    · have hl := (CaseRun.contains_iff.mp hc).1
      rw [IsAscii] at h
      omega
  · have hc := hnone basicRun List.mem_cons_self
    rw [hupper, if_neg (by simp [hc])]

theorem map_upperChar_asciiCapitals : asciiCapitals.map upperChar =
    [['S', 'S'], ['I'], ['S'], ['F', 'F'], ['F', 'I'], ['F', 'L'], ['F', 'F', 'I'], ['F', 'F', 'L'],
      ['S', 'T'], ['S', 'T']] := by
  decide +kernel

/-- The upper case of such a letter is letters. -/
theorem exists_upperChar_of_asciiCapital {c : Char} (h : c ∈ asciiCapitals) :
    ∃ d ds, upperChar c = d :: ds ∧ ∀ e ∈ d :: ds, e.isAlpha = true ∧ IsAscii e := by
  have hall : ∀ ds ∈ asciiCapitals.map upperChar,
      ds ≠ [] ∧ ds.all (fun e => e.isAlpha && decide (IsAscii e)) = true := by
    rw [map_upperChar_asciiCapitals]
    decide
  obtain ⟨hne, hletters⟩ := hall _ (List.mem_map_of_mem h)
  obtain ⟨d, ds, hds⟩ := List.exists_cons_of_ne_nil hne
  rw [hds] at hletters
  exact ⟨d, ds, hds, by simpa using hletters⟩

theorem isAscii_upperChar_iff {c : Char} :
    (∀ d ∈ upperChar c, IsAscii d) ↔ IsAscii c ∨ c ∈ asciiCapitals := by
  constructor
  · intro h
    rcases upperChar_cases c with ⟨cs, hmem, hupper⟩ | ⟨r, hr, hc, hupper⟩ | ⟨-, hupper⟩
    · have hcapital := (caseExpansions_ascii _ hmem).2
      exact .inr (hcapital (by simpa [hupper] using h))
    · have htarget := toNat_target hr hc
      have hascii := h _ (hupper ▸ List.mem_singleton_self _)
      obtain ⟨hl, hu, -⟩ := CaseRun.contains_iff.mp hc
      rw [IsAscii] at hascii
      rcases caseRuns_ascii r hr with rfl | ⟨-, hfar | ⟨hone, hletter⟩⟩
      · have hz : basicRun.last = 122 := rfl
        exact .inl (by rw [IsAscii]; omega)
      · omega
      · have hsame : r.first = c.toNat := by omega
        rw [hsame, Char.ofNat_toNat] at hletter
        exact .inr hletter
    · exact .inl (h c (hupper ▸ List.mem_singleton_self c))
  · rintro (hascii | hletter)
    · have hall : ∀ n < 128, IsAscii (Char.ofNat n).toUpper := by decide +kernel
      rw [upperChar_of_isAscii hascii]
      simpa using hascii.of_forall hall
    · obtain ⟨d, ds, hds, hletters⟩ := exists_upperChar_of_asciiCapital hletter
      intro e he
      exact (hletters e (hds ▸ he)).2

end Tracepoint.Text
