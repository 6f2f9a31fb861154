import Mathlib
import Tracepoint.Proofs.Priority
import Tracepoint.Proofs.Validation

namespace Tracepoint

/-- Values that hold other values. -/
def Value.isContainer : Value → Bool
  | .array _ | .table _ => true
  | _ => false

/-- Strings can always be joined to a prefix. -/
theorem Options.IsTextual.resolveProbePrefix_cases {o : Options} (h : o.IsTextual) :
    (∃ p : String, o.resolveProbePrefix = .ok (.str p)) ∨
      ∃ option reason, o.resolveProbePrefix = .error (.failure (.missingOption option reason)) := by
  cases hplace : o.probePrefix.isPresent with
  | true =>
    obtain ⟨p, hp, -⟩ := h.probePrefix.exists_of_isPresent hplace
    exact .inl ⟨p, by simp [resolveProbePrefix, hp ▸ hplace, hp]⟩
  | false =>
    cases htype : o.targetType.isPresent with
    | false =>
      exact .inr ⟨"--target-type", Kind.tapset.generator,
        by simp [resolveProbePrefix, hplace, htype]⟩
    | true =>
      cases harch : o.targetArch.isPresent with
      | false =>
        exact .inr ⟨"--target-arch", Kind.tapset.generator,
          by simp [resolveProbePrefix, hplace, htype, harch]⟩
      | true =>
        have hwritable : [o.provider, o.targetType, o.targetArch].forM Value.checkWritable =
            .ok () := by
          obtain ⟨provider, hprovider⟩ := h.provider
          have hp := Value.checkWritable_eq_ok (hprovider ▸ Value.obstacle?_str provider)
          have ht := Value.checkWritable_eq_ok h.targetType.obstacle
          have ha := Value.checkWritable_eq_ok h.targetArch.obstacle
          simp [hp, ht, ha, bind, Except.bind, pure, Except.pure]
        exact .inl ⟨_, by simp [resolveProbePrefix, hplace, htype, harch, hwritable]; rfl⟩

namespace Settings

/-- Whether a value is what a setting is declared to be: a string, for some settings one of a few,
or null where it need not be given. -/
def suits (key : String) : Value → Bool
  | .null => key != "provider" && key != "verbosity"
  | .str s =>
    if key = "backend" then Backend.all.any (·.name = s)
    else if key = "provider" then Text.isIdentifier s.toList
    else if key = "verbosity" then Verbosity.all.any (·.name = s)
    else true
  | _ => false

/-- The settings with a check, in the order of the checks. -/
def checkedKeys : List String := ["backend", "provider", "verbosity"]

/-- The value of a setting, which may be its default. -/
def valueOf (given : Entries Value) (key : String) : Value :=
  (given.get? key).getD (defaultOf key)

/-- The first setting that does not pass its check. -/
def refused? (values : String → Value) : Option String :=
  checkedKeys.find? fun key => !suits key (values key)

/-- A result in keeping with the declared types: a value is refused, or else all settings are of
their types and give a prefix that is a string, if they do not lack an option for it. -/
inductive Enforced : Except Fault Settings → Prop
  | refused (key value reason : Value) :
    Enforced (.error (.failure (.invalidSetting key value reason)))
  | loaded {s : Settings} (typed : ∀ e ∈ s.toEntries, suits e.1 e.2 = true)
    (place : (∃ p : String, s.options.resolveProbePrefix = .ok (.str p)) ∨
      ∃ option reason, s.options.resolveProbePrefix =
        .error (.failure (.missingOption option reason))) :
    Enforced (.ok s)

/-- The ways past the declared types. -/
inductive Escapes (values : String → Value) : Prop
  /-- The names of the backends cannot be searched for such a value. -/
  | unsearchable (h : (values "backend").isContainer = true)
  /-- The message cannot show the value that is refused. -/
  | unwritable {key : String} (h : refused? values = some key)
    (hvalue : (values key).obstacle? ≠ none)
  /-- The setting has no check. -/
  | unchecked {key : String} (h : refused? values = none) (hkey : key ∈ keys)
    (hvalue : suits key (values key) = false)

variable {key : String} {value : Value} {given : Entries Value} {s : Settings}

theorem isTextOrNull_of_suits (h : suits key value = true) : value.IsTextOrNull := by
  cases value with
  | null => exact .inl rfl
  | str s => exact .inr ⟨s, rfl⟩
  | _ => cases h

/-- A refused value is named in the message, if it can be shown. -/
theorem refusal_of_shown {reason : String} (h : value.obstacle? = none) :
    refusal key value reason = .failure (.invalidSetting key value reason) := by
  rw [refusal, Value.checkWritable_eq_ok h]

theorem refusal_of_obstacle {obstacle : Value.Obstacle} {reason : String}
    (h : value.obstacle? = some obstacle) :
    refusal key value reason = .unwritable obstacle := by
  simp [refusal, Value.checkWritable, h]

/-- A check takes a value that suits and refuses any other. -/
def Judged {α : Type} (key : String) (value : Value) (result : Except Fault α) : Prop :=
  (suits key value = true ∧ ∃ a, result = .ok a) ∨
    (suits key value = false ∧ ∃ reason : String, result = .error (refusal key value reason))

theorem judged_checkBackend (h : value.isContainer = false) :
    Judged "backend" value (checkBackend value) := by
  cases value with
  | null => exact .inl ⟨rfl, none, rfl⟩
  | str s =>
    have hsuits : suits "backend" (.str s) = (Backend.ofName? s).isSome := List.isSome_find?.symm
    rw [Judged, hsuits]
    cases hs : Backend.ofName? s with
    | none =>
      refine .inr ⟨rfl, "unknown backend", ?_⟩
      simp [checkBackend, Backend.exists, Backend.resolve, hs, Except.mapError, bind, Except.bind,
        throw, throwThe, MonadExceptOf.throw]
    | some b =>
      refine .inl ⟨rfl, some b, ?_⟩
      simp [checkBackend, Backend.exists, Backend.resolve, hs, Except.mapError, bind, Except.bind,
        pure, Except.pure]
  | array items => cases h
  | table entries => cases h
  | _ => exact .inr ⟨rfl, "unknown backend", rfl⟩

theorem checkBackend_of_isContainer (h : value.isContainer = true) :
    checkBackend value = .error (.misuse (.unhashable value.typeName)) := by
  cases value with
  | array items => rfl
  | table entries => rfl
  | _ => cases h

theorem judged_checkProvider (value : Value) : Judged "provider" value (checkProvider value) := by
  cases value with
  | str s =>
    have hsuits : suits "provider" (.str s) = Text.isIdentifier s.toList := rfl
    rw [Judged, hsuits, checkProvider]
    cases Text.isIdentifier s.toList with
    | true => exact .inl ⟨rfl, s, rfl⟩
    | false => exact .inr ⟨rfl, _, rfl⟩
  | _ => exact .inr ⟨rfl, _, rfl⟩

theorem judged_checkVerbosity (value : Value) :
    Judged "verbosity" value (checkVerbosity value) := by
  cases value with
  | str s =>
    have hsuits : suits "verbosity" (.str s) = (Verbosity.ofName? s).isSome :=
      List.isSome_find?.symm
    rw [Judged, hsuits, checkVerbosity]
    cases Verbosity.ofName? s with
    | none => exact .inr ⟨rfl, _, rfl⟩
    | some v => exact .inl ⟨rfl, v, rfl⟩
  | _ => exact .inr ⟨rfl, _, rfl⟩

/-- The keys of the settings are the ones that nothing is wrong with. -/
theorem offence?_eq_none_iff : signature.offence? 0 key = none ↔ key ∈ keys := by
  constructor
  · intro hnone
    simp only [Signature.offence?] at hnone
    split at hnone
    · simp at hnone
    · split at hnone
      · next hknown => simpa [signature] using hknown
      · simp at hnone
  · intro hkey
    have hknown : keys.contains key = true := List.contains_iff_mem.mpr hkey
    have hself : key ≠ "self" := by
      rintro rfl
      exact absurd hkey (by decide)
    simp only [Signature.offence?, signature, hknown]
    simp [hself]

theorem check_of_known (h : ∀ key ∈ given.keys, key ∈ keys) :
    signature.check 0 given.keys = .ok () := by
  have hnone : given.keys.findSome? (signature.offence? 0) = none :=
    List.findSome?_eq_none_iff.mpr fun key hkey => offence?_eq_none_iff.mpr (h key hkey)
  rw [Signature.check, hnone]
  rfl

theorem check_of_unknown (h : ¬∀ key ∈ given.keys, key ∈ keys) :
    ∃ cause, signature.check 0 given.keys = .error cause := by
  cases hfind : given.keys.findSome? (signature.offence? 0) with
  | some cause => exact ⟨cause, by rw [Signature.check, hfind]⟩
  | none =>
    have hnone := List.findSome?_eq_none_iff.mp hfind
    exact absurd (fun key hkey => offence?_eq_none_iff.mp (hnone key hkey)) h

/-- Entries under known keys fail in no other way than by the checks. -/
theorem ofEntries_of_known (h : ∀ key ∈ given.keys, key ∈ keys) :
    ofEntries given = do
      let backend ← checkBackend (valueOf given "backend")
      let provider ← checkProvider (valueOf given "provider")
      let verbosity ← checkVerbosity (valueOf given "verbosity")
      return {
        backend, provider, verbosity
        binary := valueOf given "binary"
        targetType := valueOf given "target_type"
        targetArch := valueOf given "target_arch"
        probePrefix := valueOf given "probe_prefix" } := by
  have hown : given.filter (fun e => signature.parameters.contains e.1) = given := by
    rw [List.filter_eq_self]
    exact fun e he => List.contains_iff_mem.mpr (h e.1 (Entries.mem_keys_of_mem he))
  have hbind : signature.bind [] given =
      .ok (given, given.filter fun e => !signature.parameters.contains e.1) := by
    have hcheck := check_of_known h
    simp only [Signature.bind, List.length_nil, hcheck, List.partition_eq_filter_filter, hown]
    rfl
  rw [ofEntries, hbind]
  rfl

/-- The settings that have these values, if they pass their checks. -/
def ofValues (values : String → Value) : Except Fault Settings := do
  let backend ← checkBackend (values "backend")
  let provider ← checkProvider (values "provider")
  let verbosity ← checkVerbosity (values "verbosity")
  return {
    backend, provider, verbosity
    binary := values "binary"
    targetType := values "target_type"
    targetArch := values "target_arch"
    probePrefix := values "probe_prefix" }

/-- Entries matter by their keys, all of which have to be known, and by their values. -/
theorem ofEntries_eq (given : Entries Value) :
    ofEntries given = (do
      (signature.check 0 given.keys).mapError .misuse
      ofValues (valueOf given)) := by
  cases hcheck : signature.check 0 given.keys with
  | error cause =>
    simp only [ofEntries, Signature.bind, List.length_nil, hcheck]
    rfl
  | ok found =>
    by_cases hknown : ∀ key ∈ given.keys, key ∈ keys
    · rw [ofEntries_of_known hknown]
      rfl
    · obtain ⟨cause, hunknown⟩ := check_of_unknown hknown
      simp [hunknown] at hcheck

/-- Unless the backend is a container, the first value that does not suit is refused. -/
theorem ofEntries_cases (hknown : ∀ key ∈ given.keys, key ∈ keys)
    (hbackend : (valueOf given "backend").isContainer = false) :
    (refused? (valueOf given) = none ∧ ∃ s, ofEntries given = .ok s) ∨
      ∃ key, refused? (valueOf given) = some key ∧
        ∃ reason : String, ofEntries given = .error (refusal key (valueOf given key) reason) := by
  rw [ofEntries_of_known hknown]
  -- The cases follow the order of the checks: each one is reached only if those ahead have passed.
  rcases judged_checkBackend hbackend with ⟨hb, b?, hcheck⟩ | ⟨hb, reason, hcheck⟩
  · rw [hcheck]
    rcases judged_checkProvider (valueOf given "provider") with
      ⟨hp, p, hcheck⟩ | ⟨hp, reason, hcheck⟩
    · rw [hcheck]
      rcases judged_checkVerbosity (valueOf given "verbosity") with
        ⟨hv, v, hcheck⟩ | ⟨hv, reason, hcheck⟩
      · rw [hcheck]
        exact .inl ⟨by simp [refused?, checkedKeys, hb, hp, hv], _, rfl⟩
      · rw [hcheck]
        exact .inr ⟨"verbosity", by simp [refused?, checkedKeys, hb, hp, hv], reason, rfl⟩
    · rw [hcheck]
      exact .inr ⟨"provider", by simp [refused?, checkedKeys, hb, hp], reason, rfl⟩
  · rw [hcheck]
    exact .inr ⟨"backend", by simp [refused?, checkedKeys, hb], reason, rfl⟩

/-- Settings are of their types if and only if the values are that they are made from. -/
theorem forall_mem_toEntries_iff (h : ofEntries given = .ok s) :
    (∀ e ∈ s.toEntries, suits e.1 e.2 = true) ↔
      ∀ key ∈ keys, suits key (valueOf given key) = true := by
  constructor
  · intro htyped key hkey
    exact htyped _ (Entries.mem_of_get? (get?_toEntries_of_ofEntries h hkey))
  · intro hvalues e he
    have hkeys : s.toEntries.keys = keys := rfl
    have hdistinct : keys.Nodup := by decide
    have hnodup : s.toEntries.keys.Nodup := hkeys ▸ hdistinct
    have hkey : e.1 ∈ keys := hkeys ▸ Entries.mem_keys_of_mem he
    have hvalue : e.2 = valueOf given e.1 := by
      have hget := Entries.get?_of_mem hnodup he
      rw [get?_toEntries_of_ofEntries h hkey] at hget
      exact (Option.some.inj hget).symm
    rw [hvalue]
    exact hvalues e.1 hkey

theorem isTextual_options (h : ∀ e ∈ s.toEntries, suits e.1 e.2 = true) : s.options.IsTextual where
  binary := isTextOrNull_of_suits (h ("binary", s.binary) (by simp [toEntries]))
  targetType := isTextOrNull_of_suits (h ("target_type", s.targetType) (by simp [toEntries]))
  targetArch := isTextOrNull_of_suits (h ("target_arch", s.targetArch) (by simp [toEntries]))
  probePrefix := isTextOrNull_of_suits (h ("probe_prefix", s.probePrefix) (by simp [toEntries]))
  provider := ⟨s.provider, rfl⟩

theorem enforced_of_refusal_iff (key : String) (value : Value) (reason : String) :
    Enforced ((.error (refusal key value reason) : Except Fault Settings).mapError
      misuseToFailure) ↔ value.obstacle? = none := by
  cases hvalue : value.obstacle? with
  | none =>
    rw [refusal_of_shown hvalue]
    exact ⟨fun _ => rfl, fun _ => .refused key value reason⟩
  | some obstacle =>
    rw [refusal_of_obstacle hvalue]
    constructor <;> intro h <;> cases h

theorem enforced_ok_iff : Enforced (.ok s) ↔ ∀ e ∈ s.toEntries, suits e.1 e.2 = true := by
  constructor
  · rintro ⟨⟩
    assumption
  · exact fun htyped => .loaded htyped (isTextual_options htyped).resolveProbePrefix_cases

section

variable {values : String → Value} (hbackend : (values "backend").isContainer = false)
include hbackend

theorem escapes_iff_of_refused (h : refused? values = some key) :
    Escapes values ↔ (values key).obstacle? ≠ none := by
  constructor
  · rintro (hcontainer | ⟨hother, hvalue⟩ | ⟨hnone, -, -⟩)
    · simp [hbackend] at hcontainer
    · obtain rfl := Option.some.inj (h.symm.trans hother)
      exact hvalue
    · simp [h] at hnone
  · exact .unwritable h

theorem escapes_iff_of_passed (h : refused? values = none) :
    Escapes values ↔ ∃ key ∈ keys, suits key (values key) = false := by
  constructor
  · rintro (hcontainer | ⟨hsome, -⟩ | ⟨-, hkey, hvalue⟩)
    · simp [hbackend] at hcontainer
    · simp [h] at hsome
    · exact ⟨_, hkey, hvalue⟩
  · rintro ⟨key, hkey, hvalue⟩
    exact .unchecked h hkey hvalue

end

/-- Entries under known keys keep to the declared types, unless a value escapes. -/
theorem enforced_ofEntries_iff (hknown : ∀ key ∈ given.keys, key ∈ keys) :
    Enforced ((ofEntries given).mapError misuseToFailure) ↔ ¬Escapes (valueOf given) := by
  cases hbackend : (valueOf given "backend").isContainer with
  | true =>
    -- The backend comes first, so that no other value is looked at.
    have hof : ofEntries given =
        .error (.misuse (.unhashable (valueOf given "backend").typeName)) := by
      rw [ofEntries_of_known hknown, checkBackend_of_isContainer hbackend]
      rfl
    rw [hof]
    constructor
    · intro h
      cases h
    · exact fun h => absurd (.unsearchable hbackend) h
  | false =>
    rcases ofEntries_cases hknown hbackend with ⟨hnone, s, hof⟩ | ⟨key, hkey, reason, hof⟩
    · have hloaded : (ofEntries given).mapError misuseToFailure = .ok s := by
        rw [hof]
        rfl
      rw [hloaded, enforced_ok_iff, forall_mem_toEntries_iff hof,
        escapes_iff_of_passed hbackend hnone]
      simp
    · rw [hof, enforced_of_refusal_iff, escapes_iff_of_refused hbackend hkey, not_not]

/-- The sources can be read, and all that they set are settings. -/
structure Assigns (env : Environment) (file : Option String) (overrides : Entries Value)
    (sources : List (Entries Value)) : Prop where
  called : loadSignature.check 1 overrides.keys = .ok ()
  read : readSources env file overrides = .ok sources
  known : ∀ source ∈ sources, ∀ key ∈ source.keys, spell key ∈ keys

variable {env : Environment} {file : Option String} {overrides : Entries Value}
variable {sources : List (Entries Value)}

theorem exists_spelling_of_mem_merge (h : key ∈ (merge sources).keys) :
    ∃ source ∈ sources, ∃ spelling ∈ source.keys, spell spelling = key := by
  cases hlate : lateSpelling? key sources with
  | none =>
    have hnone : (merge sources).get? key = none := by simp [get?_merge, hlate]
    exact absurd h (Entries.get?_eq_none_iff.mp hnone)
  | some spelling =>
    have hmem := List.mem_of_find?_eq_some hlate
    rw [List.mem_reverse, List.mem_eraseDups, Entries.mem_keys_flatten] at hmem
    obtain ⟨source, hsource, hkeys⟩ := hmem
    exact ⟨source, hsource, spelling, hkeys, spell_lateSpelling hlate⟩

theorem Assigns.load_eq (h : Assigns env file overrides sources) :
    load env file overrides = (ofEntries (merge sources)).mapError misuseToFailure := by
  rw [Settings.load_eq, h.called, h.read]
  rfl

theorem Assigns.mem_keys_of_mem_merge (h : Assigns env file overrides sources) :
    ∀ key ∈ (merge sources).keys, key ∈ keys := by
  intro key hkey
  obtain ⟨source, hsource, spelling, hspelling, rfl⟩ := exists_spelling_of_mem_merge hkey
  exact h.known source hsource spelling hspelling

/-- Whatever values the settings are given, loading them refuses a value or keeps to the declared
types, unless the values are among those that escape. -/
theorem load_enforced_iff (h : Assigns env file overrides sources) :
    Enforced (load env file overrides) ↔ ¬Escapes (valueOf (merge sources)) := by
  rw [h.load_eq]
  exact enforced_ofEntries_iff h.mem_keys_of_mem_merge

/-- No files and no variables. -/
def bare : Environment where
  directory := "/work"
  lookup := fun _ => .missing
  lookupVariable := fun _ => none

def prefixOverride : Entries Value := [("probe_prefix", .int 5)]

theorem assigns_prefixOverride :
    Assigns bare none prefixOverride [[], [], [], prefixOverride] where
  called := by cbv
  read := by
    have hinherited : inherited bare = [] := by cbv
    have hoverriding : overriding prefixOverride = prefixOverride := by cbv
    refine Except.bind_ok_iff.mpr ⟨[], rfl, ?_⟩
    rw [hinherited, hoverriding]
    rfl
  known := by
    have hspell : spell "probe_prefix" = "probe_prefix" := by cbv
    simp [prefixOverride, Entries.keys, hspell, keys]

theorem load_enforced_iff_prefixOverride :
    Assigns bare none prefixOverride [[], [], [], prefixOverride] ∧
      (Enforced (load bare none prefixOverride) ↔
        ¬Escapes (valueOf (merge [[], [], [], prefixOverride]))) :=
  ⟨assigns_prefixOverride, load_enforced_iff assigns_prefixOverride⟩

theorem load_not_enforced :
    ¬∀ env file overrides sources, Assigns env file overrides sources →
      Enforced (load env file overrides) := by
  intro h
  have henforced := h bare none prefixOverride _ assigns_prefixOverride
  rw [assigns_prefixOverride.load_eq,
    enforced_ofEntries_iff assigns_prefixOverride.mem_keys_of_mem_merge] at henforced
  have hmerge : merge [[], [], [], prefixOverride] = prefixOverride := by cbv
  have hrefused : refused? (valueOf prefixOverride) = none := by
    have hbackend : suits "backend" (valueOf prefixOverride "backend") = true := rfl
    have hprovider : suits "provider" (valueOf prefixOverride "provider") = true := by
      decide +kernel
    have hverbosity : suits "verbosity" (valueOf prefixOverride "verbosity") = true := rfl
    simp [refused?, checkedKeys, hbackend, hprovider, hverbosity]
  rw [hmerge] at henforced
  exact henforced (.unchecked hrefused (by decide : "probe_prefix" ∈ keys) rfl)

end Settings

end Tracepoint
