import Mathlib
import Tracepoint.Proofs.DeclaredTypes
import Tracepoint.Proofs.Outcome

namespace List

variable {α β : Type} [BEq α] [LawfulBEq α]

/-- What is found first does not lie behind a repetition. -/
theorem findSome?_eraseDups (f : α → Option β) (l : List α) :
    l.eraseDups.findSome? f = l.findSome? f := by
  induction l using List.reverseRecOn with
  | nil => rfl
  | append_singleton l a ih =>
    rw [List.eraseDups_append, List.findSome?_append, List.findSome?_append, ih]
    by_cases ha : a ∈ l
    · cases hl : l.findSome? f with
      | some b => simp
      | none => simp [List.removeAll, ha, List.findSome?_eq_none_iff.mp hl a ha]
    · simp [List.removeAll, ha, List.eraseDups_cons]

end List

namespace Tracepoint

namespace Settings

variable {key spelling : String} {value : Value} {given : Entries Value}
variable {sources more : List (Entries Value)}

/-- A key that no other spelling comes to. -/
def IsPlain (key : String) : Prop := spell key = key ∧ '_' ∉ key.toList

theorem IsPlain.eq_of_spell (h : IsPlain key) (hspell : spell spelling = key) : spelling = key := by
  have hchars : spelling.toList.map (fun c => if c = '-' then '_' else c) = key.toList := by
    rw [← hspell, spell, String.toList_map]
  have hdash : '-' ∉ spelling.toList := by
    intro hmem
    refine h.2 (hchars ▸ List.mem_map.mpr ⟨'-', hmem, rfl⟩)
  have hsame : ∀ c ∈ spelling.toList, (if c = '-' then '_' else c) = c := by
    intro c hc
    have hne : c ≠ '-' := fun he => hdash (he ▸ hc)
    rw [if_neg hne]
  rw [List.map_congr_left hsame, List.map_id'] at hchars
  exact String.toList_inj.mp hchars

theorem get?_merge_of_isPlain (h : IsPlain key) (sources : List (Entries Value)) :
    (merge sources).get? key = Entries.last? key sources.flatten := by
  rw [get?_merge]
  cases hlate : lateSpelling? key sources with
  | some spelling =>
    obtain rfl := h.eq_of_spell (spell_lateSpelling hlate)
    rfl
  | none =>
    have hnot : key ∉ Entries.keys sources.flatten := by
      intro hmem
      have hunspelled := List.find?_eq_none.mp hlate key
        (List.mem_reverse.mpr (List.mem_eraseDups.mpr hmem))
      simp [h.1] at hunspelled
    rw [Entries.last?_eq_none_iff.mpr hnot]
    rfl

/-- Keys of a merge are searched in the order in which they first came. -/
theorem findSome?_keys_merge {α : Type} (f : String → Option α) (sources : List (Entries Value)) :
    (merge sources).keys.findSome? f =
      (Entries.keys sources.flatten).findSome? fun spelling => f (spell spelling) := by
  rw [merge, foldl_update, respell, Entries.keys_update, List.findSome?_eraseDups, Entries.keys,
    List.map_map]
  change (List.map (spell ∘ Prod.fst) (Entries.update [] sources.flatten)).findSome? f = _
  rw [← List.map_map, List.findSome?_map]
  change List.findSome? (f ∘ spell) (Entries.keys (Entries.update [] sources.flatten)) = _
  rw [Entries.keys_update, List.findSome?_eraseDups]
  rfl

/-- The sources of `more` give one more value for a key than those of `sources`, behind all else. -/
def Adds (key : String) (value : Value) (sources more : List (Entries Value)) : Prop :=
  more.flatten = sources.flatten ++ [(key, value)]

theorem Adds.check_eq (h : Adds key value sources more) (hplain : IsPlain key)
    (hkey : key ∈ keys) :
    signature.check 0 (merge more).keys = signature.check 0 (merge sources).keys := by
  have hfind : (merge more).keys.findSome? (signature.offence? 0) =
      (merge sources).keys.findSome? (signature.offence? 0) := by
    have hnone : signature.offence? 0 key = none := offence?_eq_none_iff.mpr hkey
    rw [findSome?_keys_merge, findSome?_keys_merge, h]
    simp [Entries.keys, List.findSome?_append, hplain.1, hnone]
  simp only [Signature.check, hfind]
  rfl

theorem Adds.get?_self (h : Adds key value sources more) (hplain : IsPlain key) :
    (merge more).get? key = some value := by
  rw [get?_merge_of_isPlain hplain, h, Entries.last?_append]
  simp [Entries.last?, Entries.get?]

theorem Adds.get?_of_ne (h : Adds key value sources more) (hplain : IsPlain key) {other : String}
    (hne : other ≠ key) : (merge more).get? other = (merge sources).get? other := by
  have hspell : spell key ≠ other := fun he => hne (he.symm.trans hplain.1)
  have hlate : lateSpelling? other more = lateSpelling? other sources := by
    have hkeys : Entries.keys (sources.flatten ++ [(key, value)]) =
        Entries.keys sources.flatten ++ [key] := by
      simp [Entries.keys]
    rw [lateSpelling?, h, hkeys, List.eraseDups_append, lateSpelling?]
    by_cases hmem : key ∈ Entries.keys sources.flatten
    · simp [List.removeAll, hmem]
    · simp [List.removeAll, hmem, List.eraseDups_cons, hspell]
  rw [get?_merge, get?_merge, hlate]
  cases hs : lateSpelling? other sources with
  | none => rfl
  | some spelling =>
    have hneKey : key ≠ spelling := by
      rintro rfl
      exact hspell (spell_lateSpelling hs)
    rw [Option.bind_some, Option.bind_some, h, Entries.last?_append]
    simp [Entries.last?, Entries.get?, hneKey]

/-- All sources but the overriding settings. -/
def readOthers (env : Environment) (file : Option String) :
    Except Fault (List (Entries Value)) := do
  let project ← readProject env
  let explicit ← match file with
    | some file => readFile env file
    | none => pure []
  return [project, explicit, inherited env]

theorem readSources_eq (env : Environment) (file : Option String) (overrides : Entries Value) :
    readSources env file overrides =
      (readOthers env file).map fun others => others ++ [overriding overrides] := by
  rw [readSources, readOthers]
  cases readProject env with
  | error fault => rfl
  | ok project =>
    cases file with
    | none => rfl
    | some path =>
      simp only [bind, Except.bind]
      cases readFile env path <;> rfl

end Settings

namespace Command

open Settings

/-- What the switches for verbosity set; the quiet one prevails. -/
def switchEntries (a : Arguments) : Entries Value :=
  if a.has .quiet then [("verbosity", .str "quiet")]
  else if a.has .verbose then [("verbosity", .str "verbose")]
  else []

theorem overriding_overrides (a : Arguments) :
    overriding (overrides a) =
      (optionValues a).filter (fun (_, value) => !value.isNull) ++ switchEntries a := by
  have hoverrides : overrides a = optionValues a ++
      [("verbose", .bool (a.has .verbose)), ("quiet", .bool (a.has .quiet))] := rfl
  have hswitches : applySwitch "quiet" (applySwitch "verbose" (overrides a)) =
      optionValues a ++ switchEntries a := by
    rw [hoverrides, optionValues, switchEntries]
    cases a.has .verbose <;> cases a.has .quiet <;> rfl
  have hkept : (switchEntries a).filter (fun (_, value) => !value.isNull) = switchEntries a := by
    rw [switchEntries]
    split_ifs <;> rfl
  rw [← settleOverrides_eq, settleOverrides, hswitches, List.filter_append, hkept]

/-- What the option for the backend says prevails over all other sources. -/
theorem last?_overrides_backend {a : Arguments} {name : String}
    (h : a.value? .backend = some name) :
    Entries.last? "backend" (overriding (overrides a)) = some (.str name) := by
  have hgiven : a.given .backend = .str name := by simp [Arguments.given, h]
  have hhead : optionValues a = ("backend", .str name) :: (optionValues a).tail := by
    rw [← hgiven]
    rfl
  have htail : "backend" ∉ Entries.keys
      ((optionValues a).tail.filter (fun (_, value) => !value.isNull) ++ switchEntries a) := by
    rw [switchEntries]
    split_ifs <;> simp [Entries.keys, optionValues]
  rw [overriding_overrides, hhead]
  have hlast := Entries.last?_append "backend" [("backend", .str name)]
    ((optionValues a).tail.filter (fun (_, value) => !value.isNull) ++ switchEntries a)
  rw [Entries.last?_eq_none_iff.mpr htail, Option.none_or] at hlast
  exact hlast

end Command

end Tracepoint
