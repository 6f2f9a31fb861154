import Tracepoint.Proofs.Names
import Tracepoint.Proofs.Sources

namespace Tracepoint

theorem Verbosity.name_of_ofName? {name : String} {v : Verbosity}
    (h : Verbosity.ofName? name = some v) : v.name = name := by
  simpa using List.find?_some h

theorem Signature.of_bind_eq_ok {s : Signature} {positional : List Value} {named : Entries Value}
    {bound : Entries Value × Entries Value} (h : s.bind positional named = .ok bound) :
    s.check positional.length named.keys = .ok () ∧
      bound.1 = s.parameters.zip positional ++ named.filter fun e => s.parameters.contains e.1 := by
  obtain ⟨⟨⟩, hcheck, h⟩ := Except.bind_ok_iff.mp h
  rw [List.partition_eq_filter_filter] at h
  exact ⟨hcheck, (congrArg Prod.fst (Except.pure_ok_iff.mp h)).symm⟩

namespace Settings

theorem value_of_checkBackend {value : Value} {b? : Option Backend}
    (h : checkBackend value = .ok b?) :
    value = .null ∧ b? = none ∨ ∃ b, .str b.name = value ∧ b? = some b := by
  cases value with
  | null => exact .inl ⟨rfl, (Except.ok.inj h).symm⟩
  | _ =>
    right
    obtain ⟨-, -, h⟩ := Except.bind_ok_iff.mp h
    split at h
    · next b hb => exact ⟨b, Backend.resolve_eq_ok hb, (Except.pure_ok_iff.mp h).symm⟩
    · exact absurd h Except.throw_ne_ok

theorem value_of_checkProvider {value : Value} {provider : String}
    (h : checkProvider value = .ok provider) : .str provider = value := by
  cases value with
  | str s =>
    simp only [checkProvider] at h
    split at h
    · exact congrArg Value.str (Except.ok.inj h).symm
    · simp at h
  | _ => simp [checkProvider] at h

theorem value_of_checkVerbosity {value : Value} {v : Verbosity}
    (h : checkVerbosity value = .ok v) : .str v.name = value := by
  cases value with
  | str s =>
    simp only [checkVerbosity] at h
    split at h
    · next w hw =>
      obtain rfl := Except.ok.inj h
      rw [Verbosity.name_of_ofName? hw]
    · simp at h
  | _ => simp [checkVerbosity] at h

/-- The value of a setting that is not given. -/
def defaultOf (key : String) : Value := (({} : Settings).toEntries.get? key).getD .null

/-- Settings have the given values, each as it was given, and defaults for the others. -/
theorem get?_toEntries_of_ofEntries {given : Entries Value} {s : Settings}
    (h : ofEntries given = .ok s) {key : String} (hkey : key ∈ keys) :
    s.toEntries.get? key = some ((given.get? key).getD (defaultOf key)) := by
  obtain ⟨⟨own, other⟩, hbind, h⟩ := Except.bind_ok_iff.mp h
  have hown : own = given.filter fun e => keys.contains e.1 :=
    (Signature.of_bind_eq_ok (Except.mapError_ok_iff.mp hbind)).2
  have hget (k : String) (hk : k ∈ keys) : own.get? k = given.get? k := by
    rw [hown]
    exact Entries.get?_filter_keys _ (List.contains_iff_mem.mpr hk) given
  obtain ⟨backend, hbackend, h⟩ := Except.bind_ok_iff.mp h
  obtain ⟨provider, hprovider, h⟩ := Except.bind_ok_iff.mp h
  obtain ⟨verbosity, hverbosity, h⟩ := Except.bind_ok_iff.mp h
  obtain rfl := Except.pure_ok_iff.mp h
  have hp := value_of_checkProvider hprovider
  have hv := value_of_checkVerbosity hverbosity
  rw [← hget key hkey]
  simp only [keys, List.mem_cons, List.not_mem_nil, or_false] at hkey
  rcases hkey with rfl | rfl | rfl | rfl | rfl | rfl | rfl
  · rcases value_of_checkBackend hbackend with ⟨hnull, rfl⟩ | ⟨b, hb, rfl⟩
    · exact congrArg some hnull.symm
    · exact congrArg some hb
  · rfl
  · rfl
  · rfl
  · rfl
  · exact congrArg some hp
  · exact congrArg some hv

theorem foldl_update (sources : List (Entries Value)) :
    sources.foldl Entries.update [] = Entries.update [] sources.flatten :=
  List.foldl_flatten.symm

/-- Of the spellings of a key that the sources have, the one that came in last. -/
def lateSpelling? (key : String) (sources : List (Entries Value)) : Option String :=
  (Entries.keys sources.flatten).eraseDups.reverse.find? (spell · = key)

theorem get?_respell (key : String) {es : Entries Value} (h : es.keys.Nodup) :
    (respell es).get? key =
      (es.keys.reverse.find? (spell · = key)).bind fun spelling => es.get? spelling := by
  have hfind : (respell es).get? key = (es.reverse.find? (spell ·.1 = key)).map (·.2) := by
    rw [respell, Entries.get?_update, Entries.last?]
    simp [Entries.get?_eq_find?, ← List.map_reverse, List.find?_map, Function.comp_def]
  have hkeys : es.keys.reverse.find? (spell · = key) =
      (es.reverse.find? (spell ·.1 = key)).map (·.1) := by
    simp [Entries.keys, ← List.map_reverse, List.find?_map]
  rw [hfind, hkeys]
  cases he : es.reverse.find? (spell ·.1 = key) with
  | none => rfl
  | some e =>
    have hm : e ∈ es := List.mem_reverse.mp (List.mem_of_find?_eq_some he)
    simp [Entries.get?_of_mem h hm]

/-- The merge takes the last value that stands under the spelling that came in last. -/
theorem get?_merge (key : String) (sources : List (Entries Value)) :
    (merge sources).get? key =
      (lateSpelling? key sources).bind fun spelling => Entries.last? spelling sources.flatten := by
  have hnodup : (Entries.update [] sources.flatten).keys.Nodup :=
    Entries.nodup_keys_update _ List.nodup_nil
  have hlast (spelling : String) : (Entries.update [] sources.flatten).get? spelling =
      Entries.last? spelling sources.flatten := by
    rw [Entries.get?_update]
    simp [Entries.get?]
  rw [merge, foldl_update, get?_respell key hnodup, Entries.keys_update, lateSpelling?]
  simp only [hlast]

/-- The values that a source gives for a key, under any spelling. -/
def given (key : String) (source : Entries Value) : List Value :=
  (source.filter fun e => spell e.1 = key).map (·.2)

def sets (key : String) (source : Entries Value) : Bool := source.any fun e => spell e.1 = key

/-- The source of the highest priority among those that set a key. -/
def foremost? (key : String) (sources : List (Entries Value)) : Option (Entries Value) :=
  sources.reverse.find? (sets key)

/-- What a setting should come to: what the foremost source gives for it, or else its default. -/
def promised (key : String) (sources : List (Entries Value)) : List Value :=
  match foremost? key sources with
  | some source => given key source
  | none => [defaultOf key]

/-- A source sets a key and none of the sources above it does. -/
structure IsForemost (key : String) (source : Entries Value) (above : List (Entries Value)) :
    Prop where
  sets : sets key source = true
  unset : ∀ other ∈ above, Settings.sets key other = false

/-- The foremost source does not have the spelling of a key that came in last, and what the lower
sources have under it is none of its values. -/
def Outranked (key : String) (sources : List (Entries Value)) : Prop :=
  ∃ below source above spelling, sources = below ++ source :: above ∧
    IsForemost key source above ∧ lateSpelling? key sources = some spelling ∧
    spelling ∉ source.keys ∧
    ∀ value, Entries.last? spelling below.flatten = some value → value ∉ given key source

section

variable {key spelling : String} {value : Value} {source : Entries Value}
variable {sources below above : List (Entries Value)}

theorem sets_of_mem_keys (hmem : spelling ∈ source.keys) (hspell : spell spelling = key) :
    sets key source = true := by
  obtain ⟨e, he, rfl⟩ := List.mem_map.mp hmem
  exact List.any_eq_true.mpr ⟨e, he, by simpa using hspell⟩

theorem exists_mem_keys_of_sets (h : sets key source = true) :
    ∃ spelling ∈ source.keys, spell spelling = key := by
  obtain ⟨e, he, hspell⟩ := List.any_eq_true.mp h
  exact ⟨e.1, List.mem_map.mpr ⟨e, he, rfl⟩, by simpa using hspell⟩

theorem mem_given_of_last? (h : Entries.last? spelling source = some value)
    (hspell : spell spelling = key) : value ∈ given key source := by
  have hm : (spelling, value) ∈ source := Entries.mem_of_last? h
  exact List.mem_map.mpr ⟨_, List.mem_filter.mpr ⟨hm, by simpa using hspell⟩, rfl⟩

theorem IsForemost.foremost?_eq (h : IsForemost key source above) :
    foremost? key (below ++ source :: above) = some source := by
  have habove : above.reverse.find? (Settings.sets key) = none :=
    List.find?_eq_none.mpr fun other ho => by simp [h.unset other (List.mem_reverse.mp ho)]
  simp [foremost?, List.find?_append, habove, h.sets]

theorem exists_isForemost (h : foremost? key sources = some source) :
    ∃ below above, sources = below ++ source :: above ∧ IsForemost key source above := by
  obtain ⟨hsets, front, back, hsplit, hfront⟩ := List.find?_eq_some_iff_append.mp h
  refine ⟨back.reverse, front.reverse, ?_, hsets, fun other ho => ?_⟩
  · have hr := congrArg List.reverse hsplit
    simpa using hr
  · simpa using hfront other (List.mem_reverse.mp ho)

/-- Above the foremost source nothing stands under any spelling of the key. -/
theorem IsForemost.last?_flatten (h : IsForemost key source above)
    (hspell : spell spelling = key) :
    Entries.last? spelling (below ++ source :: above).flatten =
      (Entries.last? spelling source).or (Entries.last? spelling below.flatten) := by
  have habove : Entries.last? spelling above.flatten = none := by
    rw [Entries.last?_eq_none_iff]
    intro hmem
    obtain ⟨other, ho, hkeys⟩ := Entries.mem_keys_flatten.mp hmem
    have hset : Settings.sets key other = true := sets_of_mem_keys hkeys hspell
    simp [h.unset other ho] at hset
  simp [Entries.last?_append, habove]

theorem spell_lateSpelling (h : lateSpelling? key sources = some spelling) :
    spell spelling = key := by
  simpa using List.find?_some h

theorem lateSpelling?_eq_none (h : foremost? key sources = none) :
    lateSpelling? key sources = none := by
  refine List.find?_eq_none.mpr fun spelling hmem => ?_
  rw [List.mem_reverse, List.mem_eraseDups, Entries.mem_keys_flatten] at hmem
  obtain ⟨source, hs, hkeys⟩ := hmem
  have hunset := List.find?_eq_none.mp h source (List.mem_reverse.mpr hs)
  intro hspell
  exact hunset (sets_of_mem_keys hkeys (by simpa using hspell))

theorem exists_lateSpelling (below : List (Entries Value)) (h : IsForemost key source above) :
    ∃ spelling, lateSpelling? key (below ++ source :: above) = some spelling := by
  obtain ⟨spelling, hmem, hspell⟩ := exists_mem_keys_of_sets h.sets
  rw [← Option.isSome_iff_exists, lateSpelling?, List.find?_isSome]
  refine ⟨spelling, ?_, by simpa using hspell⟩
  rw [List.mem_reverse, List.mem_eraseDups]
  exact Entries.mem_keys_flatten.mpr ⟨source, by simp, hmem⟩

theorem exists_last?_of_lateSpelling (h : lateSpelling? key sources = some spelling) :
    ∃ value, Entries.last? spelling sources.flatten = some value := by
  have hmem := List.mem_of_find?_eq_some h
  rw [List.mem_reverse, List.mem_eraseDups] at hmem
  exact Entries.exists_last?_of_mem_keys hmem

/-- What is taken for a key is what the foremost source gives, unless it is outranked. -/
theorem mem_promised_iff (key : String) (sources : List (Entries Value)) :
    ((merge sources).get? key).getD (defaultOf key) ∈ promised key sources ↔
      ¬Outranked key sources := by
  rw [get?_merge]
  cases hf : foremost? key sources with
  | none =>
    have hnot : ¬Outranked key sources := by
      rintro ⟨below, source, above, spelling, rfl, hfore, -⟩
      simp [hfore.foremost?_eq] at hf
    simp [lateSpelling?_eq_none hf, promised, hf, hnot]
  | some source =>
    obtain ⟨below, above, rfl, hfore⟩ := exists_isForemost hf
    obtain ⟨spelling, hlate⟩ := exists_lateSpelling below hfore
    obtain ⟨value, hvalue⟩ := exists_last?_of_lateSpelling hlate
    have hspell : spell spelling = key := spell_lateSpelling hlate
    simp only [hlate, Option.bind_some, promised, hf, hvalue, Option.getD_some]
    constructor
    · rintro hmem ⟨below', source', above', spelling', hsplit, hfore', hlate', hlacks, hlower⟩
      obtain rfl : spelling = spelling' := Option.some.inj (hlate.symm.trans hlate')
      obtain rfl : source = source' := by
        rw [hsplit, hfore'.foremost?_eq] at hf
        exact (Option.some.inj hf).symm
      rw [hsplit, hfore'.last?_flatten hspell, Entries.last?_eq_none_iff.mpr hlacks,
        Option.none_or] at hvalue
      exact hlower value hvalue hmem
    · intro hnot
      rw [hfore.last?_flatten hspell] at hvalue
      by_cases hhas : spelling ∈ source.keys
      · obtain ⟨own, hown⟩ := Entries.exists_last?_of_mem_keys hhas
        rw [hown, Option.some_or] at hvalue
        exact mem_given_of_last? (hown.trans hvalue) hspell
      · rw [Entries.last?_eq_none_iff.mpr hhas, Option.none_or] at hvalue
        by_contra hmem
        refine hnot ⟨below, source, above, spelling, rfl, hfore, hlate, hhas, ?_⟩
        intro lower hlower
        obtain rfl : value = lower := Option.some.inj (hvalue.symm.trans hlower)
        exact hmem

end

/-- A setting has the last value that stands under the spelling of its key that came in last. It is
the promised one if and only if the foremost source is not outranked. -/
theorem load_promised_iff {key : String} (h : load env file overrides = .ok s)
    (hkey : key ∈ keys) :
    ∃ sources value, readSources env file overrides = .ok sources ∧
      s.toEntries.get? key = some value ∧
      value = ((lateSpelling? key sources).bind fun spelling =>
        Entries.last? spelling sources.flatten).getD (defaultOf key) ∧
      (value ∈ promised key sources ↔ ¬Outranked key sources) := by
  obtain ⟨-, sources, hsources, hof⟩ := load_eq_ok.mp h
  refine ⟨sources, ((merge sources).get? key).getD (defaultOf key), hsources, ?_, ?_, ?_⟩
  · exact get?_toEntries_of_ofEntries hof hkey
  · rw [get?_merge]
  · exact mem_promised_iff key sources

/-- A project file with both spellings of a key, the one with a dash last. -/
def projectText : List UInt8 :=
  "target_arch='arm'\ntarget-arch='x86'\n".toList.map fun c => UInt8.ofNat c.toNat

def twoSpellings : Environment where
  directory := "/work"
  lookup := fun path => if path = projectFile then .file projectText else .missing
  lookupVariable := fun _ => none

def archOverride : Entries Value := [("target_arch", .str "mips")]

def archSources : List (Entries Value) :=
  [[("target_arch", .str "arm"), ("target-arch", .str "x86")], [], [], archOverride]

theorem ofBytes_projectText (path : String) :
    ofBytes path projectText = .ok [("target_arch", .str "arm"), ("target-arch", .str "x86")] := by
  cbv

theorem readSources_twoSpellings :
    readSources twoSpellings none archOverride = .ok archSources := by
  have hproject : readProject twoSpellings =
      .ok [("target_arch", .str "arm"), ("target-arch", .str "x86")] := by
    simp [readProject, readEntry, twoSpellings, ofBytes_projectText, bind, Except.bind, Except.map,
      pure, Except.pure]
  have hinherited : inherited twoSpellings = [] := by cbv
  have hoverriding : overriding archOverride = archOverride := by cbv
  refine Except.bind_ok_iff.mpr ⟨_, hproject, ?_⟩
  rw [hinherited, hoverriding]
  rfl

theorem ofEntries_arch (arch : Value) :
    ofEntries [("target_arch", arch)] = .ok { targetArch := arch } := by
  have hbind : signature.bind [] [("target_arch", arch)] = .ok ([("target_arch", arch)], []) := by
    cbv
  have hid : Text.isIdentifier "qemu".toList = true := by decide +kernel
  have hprovider : checkProvider (.str "qemu") = .ok "qemu" := by
    simp only [checkProvider, hid]
    rfl
  refine Except.bind_ok_iff.mpr ⟨_, Except.mapError_ok_iff.mpr hbind, ?_⟩
  refine Except.bind_ok_iff.mpr ⟨none, rfl, ?_⟩
  refine Except.bind_ok_iff.mpr ⟨"qemu", hprovider, ?_⟩
  exact Except.bind_ok_iff.mpr ⟨.normal, rfl, rfl⟩

theorem load_twoSpellings :
    load twoSpellings none archOverride = .ok { targetArch := .str "x86" } := by
  have hcheck : loadSignature.check 1 archOverride.keys = .ok () := by cbv
  have hmerge : merge archSources = [("target_arch", .str "x86")] := by cbv
  refine load_eq_ok.mpr ⟨hcheck, archSources, readSources_twoSpellings, ?_⟩
  rw [hmerge, ofEntries_arch]

theorem load_promised_iff_twoSpellings :
    ∃ sources value, readSources twoSpellings none archOverride = .ok sources ∧
      Entries.get? "target_arch" (toEntries { targetArch := .str "x86" }) = some value ∧
      value = ((lateSpelling? "target_arch" sources).bind fun spelling =>
        Entries.last? spelling sources.flatten).getD (defaultOf "target_arch") ∧
      (value ∈ promised "target_arch" sources ↔ ¬Outranked "target_arch" sources) :=
  load_promised_iff load_twoSpellings (by decide)

theorem load_not_promised :
    ¬∀ (env : Environment) (file : Option String) (overrides : Entries Value) (s : Settings),
      load env file overrides = .ok s → ∀ key ∈ keys, ∃ sources value,
        readSources env file overrides = .ok sources ∧ s.toEntries.get? key = some value ∧
          value ∈ promised key sources := by
  intro h
  obtain ⟨sources, value, hsources, hvalue, hmem⟩ :=
    h twoSpellings none archOverride _ load_twoSpellings "target_arch" (by decide)
  obtain rfl : archSources = sources :=
    Except.ok.inj (readSources_twoSpellings.symm.trans hsources)
  obtain rfl : Value.str "x86" = value := Option.some.inj hvalue
  have hpromised : promised "target_arch" archSources = [.str "mips"] := by cbv
  simp [hpromised] at hmem

end Settings

end Tracepoint
