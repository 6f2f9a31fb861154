import Mathlib
import Tracepoint.Proofs.DeclaredTypes

namespace Tracepoint

/-- A result that is foreseen where settings are loaded: a value, or a failure of the
configuration. -/
inductive Foreseen {α : Type} : Except Fault α → Prop
  | done (a : α) : Foreseen (.ok a)
  | refused {f : Failure} (h : .configuration ∈ f.family.lineage) : Foreseen (.error (.failure f))

section

variable {α β : Type} {fault : Fault}

theorem foreseen_error_iff : Foreseen (.error fault : Except Fault α) ↔
    ∃ f, fault = .failure f ∧ .configuration ∈ f.family.lineage := by
  constructor
  · rintro (_ | hlineage)
    exact ⟨_, rfl, hlineage⟩
  · rintro ⟨f, rfl, hlineage⟩
    exact .refused hlineage

/-- Operations one after the other: as foreseen if each one is that is come to. -/
theorem foreseen_bind_iff {first : Except Fault α} {next : α → Except Fault β} :
    Foreseen (first >>= next) ↔ Foreseen first ∧ ∀ a, first = .ok a → Foreseen (next a) := by
  cases first with
  | error fault =>
    have herror : (.error fault : Except Fault α) >>= next = .error fault := rfl
    rw [herror, foreseen_error_iff, foreseen_error_iff]
    simp
  | ok a =>
    have hok : (.ok a : Except Fault α) >>= next = next a := rfl
    rw [hok]
    simp [Foreseen.done]

theorem foreseen_map_iff {result : Except Fault α} {f : α → β} :
    Foreseen (result.map f) ↔ Foreseen result := by
  cases result with
  | error fault => exact foreseen_error_iff.trans foreseen_error_iff.symm
  | ok a => exact ⟨fun _ => .done a, fun _ => .done (f a)⟩

end

namespace Settings

/-- What is not read and not refused either. -/
inductive Unreadable : Entry → Prop
  | tooLong : Unreadable .tooLong
  /-- The bytes are not UTF-8. -/
  | undecodable {bytes : List UInt8} {fault : Utf8.Fault} (h : Utf8.decode bytes = .error fault) :
    Unreadable (.file bytes)
  /-- There is a number of more digits than are read, or a value too deep in others. -/
  | excessive {bytes : List UInt8} {text : List Char} {defect : Toml.Defect}
    (htext : Utf8.decode bytes = .ok text) (h : Toml.parse text = .error defect)
    (hdefect : defect ≠ .malformed) : Unreadable (.file bytes)

variable {env : Environment} {file : Option String} {overrides given : Entries Value}

theorem foreseen_configuration {α : Type} (fault : ConfigurationFault) :
    Foreseen (.error (.failure (.configuration fault)) : Except Fault α) :=
  .refused (by simp [Failure.family, Family.lineage])

/-- The fault in which the defect of a text ends. -/
def faultOf (path : String) : Toml.Defect → Fault
  | .malformed => .failure (.configuration (.fileUnusable path .malformed))
  | .longNumber digits => .longNumber digits
  | .tooDeep => .tooDeep

section

variable {path : String} {bytes : List UInt8} {text : List Char}

theorem ofBytes_of_defect {defect : Toml.Defect} (htext : Utf8.decode bytes = .ok text)
    (hparse : Toml.parse text = .error defect) :
    ofBytes path bytes = .error (faultOf path defect) := by
  simp only [ofBytes, htext, Except.mapError, bind, Except.bind, hparse]
  cases defect <;> rfl

theorem foreseen_faultOf_iff {α : Type} {defect : Toml.Defect} :
    Foreseen (.error (faultOf path defect) : Except Fault α) ↔ defect = .malformed := by
  rw [foreseen_error_iff]
  cases defect <;> simp [faultOf, Failure.family, Family.lineage]

theorem foreseen_ofBytes_of_document {document : Entries Value}
    (htext : Utf8.decode bytes = .ok text) (hparse : Toml.parse text = .ok document) :
    Foreseen (ofBytes path bytes) := by
  simp only [ofBytes, htext, Except.mapError, bind, Except.bind, hparse]
  cases section? document with
  | none => exact foreseen_configuration _
  | some entries => exact .done entries

theorem unreadable_file_iff : Unreadable (.file bytes) ↔
    ∀ text, Utf8.decode bytes = .ok text →
      ∃ defect, Toml.parse text = .error defect ∧ defect ≠ .malformed := by
  constructor
  · rintro (_ | hdecode | ⟨hdecode, herror, hdefect⟩) text htext
    · simp [htext] at hdecode
    · obtain rfl := Except.ok.inj (htext.symm.trans hdecode)
      exact ⟨_, herror, hdefect⟩
  · intro h
    cases htext : Utf8.decode bytes with
    | error fault => exact .undecodable htext
    | ok text =>
      obtain ⟨defect, herror, hdefect⟩ := h text htext
      exact .excessive htext herror hdefect

theorem foreseen_ofBytes_iff : Foreseen (ofBytes path bytes) ↔ ¬Unreadable (.file bytes) := by
  cases htext : Utf8.decode bytes with
  | error fault =>
    have hbytes : ofBytes path bytes = .error (.undecodable fault) := by
      rw [ofBytes, htext]
      rfl
    rw [hbytes, foreseen_error_iff]
    simp [Unreadable.undecodable htext]
  | ok text =>
    cases hparse : Toml.parse text with
    | error defect =>
      rw [ofBytes_of_defect htext hparse, foreseen_faultOf_iff, unreadable_file_iff]
      simp [htext, hparse]
    | ok document =>
      have hforeseen : Foreseen (ofBytes path bytes) := foreseen_ofBytes_of_document htext hparse
      rw [unreadable_file_iff]
      simp [htext, hparse, hforeseen]

end

theorem foreseen_readEntry_iff (path : String) (entry : Entry) :
    Foreseen (readEntry path entry) ↔ ¬Unreadable entry := by
  cases entry with
  | missing =>
    refine ⟨fun _ h => ?_, fun _ => .done none⟩
    cases h
  | tooLong =>
    rw [readEntry, foreseen_error_iff]
    simp [Unreadable.tooLong]
  | directory =>
    refine ⟨fun _ h => ?_, fun _ => foreseen_configuration _⟩
    cases h
  | file bytes => rw [readEntry, foreseen_map_iff, foreseen_ofBytes_iff]

theorem foreseen_readProject_iff :
    Foreseen (readProject env) ↔ ¬Unreadable (env.lookup projectFile) := by
  rw [readProject, foreseen_bind_iff, foreseen_readEntry_iff]
  exact and_iff_left fun found _ => Foreseen.done (found.getD [])

theorem foreseen_readFile_iff (path : String) :
    Foreseen (readFile env path) ↔ ¬Unreadable (env.lookup (Path.normalize path)) := by
  simp only [readFile]
  rw [foreseen_bind_iff, foreseen_readEntry_iff]
  refine and_iff_left fun found _ => ?_
  cases found with
  | none => exact foreseen_configuration _
  | some entries => exact .done entries

/-- Of settings under known keys the first one that does not pass its check cannot be shown. -/
structure Unshowable (given : Entries Value) (key : String) : Prop where
  known : ∀ other ∈ given.keys, other ∈ keys
  searchable : (valueOf given "backend").isContainer = false
  refused : refused? (valueOf given) = some key
  obstacle : (valueOf given key).obstacle? ≠ none

theorem foreseen_misuseToFailure {α : Type} (cause : Misuse) :
    Foreseen ((.error (.misuse cause) : Except Fault α).mapError misuseToFailure) :=
  foreseen_configuration (.rejected cause)

theorem foreseen_refusal_iff (key : String) (value : Value) (reason : String) :
    Foreseen ((.error (refusal key value reason) : Except Fault Settings).mapError
      misuseToFailure) ↔ value.obstacle? = none := by
  cases hvalue : value.obstacle? with
  | none =>
    rw [refusal_of_shown hvalue]
    exact ⟨fun _ => rfl, fun _ => .refused (by simp [Failure.family, Family.lineage])⟩
  | some obstacle =>
    rw [refusal_of_obstacle hvalue]
    refine ⟨fun h => ?_, fun h => by cases h⟩
    obtain ⟨f, hf, -⟩ := foreseen_error_iff.mp h
    cases hf

theorem foreseen_ofEntries_iff :
    Foreseen ((ofEntries given).mapError misuseToFailure) ↔ ¬∃ key, Unshowable given key := by
  by_cases hknown : ∀ key ∈ given.keys, key ∈ keys
  case neg =>
    obtain ⟨cause, hcheck⟩ := check_of_unknown hknown
    have hof : ofEntries given = .error (.misuse cause) := by
      simp only [ofEntries, Signature.bind, List.length_nil, hcheck]
      rfl
    rw [hof]
    refine iff_of_true (foreseen_misuseToFailure cause) ?_
    rintro ⟨key, h⟩
    exact hknown h.known
  case pos =>
    cases hbackend : (valueOf given "backend").isContainer with
    | true =>
      have hof : ofEntries given =
          .error (.misuse (.unhashable (valueOf given "backend").typeName)) := by
        rw [ofEntries_of_known hknown, checkBackend_of_isContainer hbackend]
        rfl
      rw [hof]
      refine iff_of_true (foreseen_misuseToFailure _) ?_
      rintro ⟨key, h⟩
      exact absurd (hbackend.symm.trans h.searchable) (by decide)
    | false =>
      rcases ofEntries_cases hknown hbackend with ⟨hnone, s, hof⟩ | ⟨key, hkey, reason, hof⟩
      · rw [hof]
        refine iff_of_true (.done s) ?_
        rintro ⟨key, h⟩
        exact absurd (hnone.symm.trans h.refused) (by simp)
      · rw [hof, foreseen_refusal_iff]
        constructor
        · rintro hnone ⟨other, h⟩
          obtain rfl := Option.some.inj (hkey.symm.trans h.refused)
          exact h.obstacle hnone
        · intro h
          by_contra hobstacle
          exact h ⟨key, hknown, hbackend, hkey, hobstacle⟩

/-- The ways in which loading fails without a failure of the configuration. -/
inductive Unforeseen (env : Environment) (file : Option String) (overrides : Entries Value) : Prop
  /-- The file is also given as one of the overriding settings. -/
  | repeated (h : "config_file" ∈ overrides.keys)
  | project (h : Unreadable (env.lookup projectFile))
  | explicit {project : Entries Value} {path : String} (hproject : readProject env = .ok project)
    (hfile : file = some path) (h : Unreadable (env.lookup (Path.normalize path)))
  | value {sources : List (Entries Value)} {key : String}
    (hsources : readSources env file overrides = .ok sources) (h : Unshowable (merge sources) key)

theorem foreseen_readSources_iff : Foreseen (readSources env file overrides) ↔
    ¬Unreadable (env.lookup projectFile) ∧ ∀ project, readProject env = .ok project →
      ∀ path, file = some path → ¬Unreadable (env.lookup (Path.normalize path)) := by
  rw [readSources, foreseen_bind_iff, foreseen_readProject_iff]
  refine and_congr_right fun _ => forall_congr' fun project => imp_congr_right fun _ => ?_
  cases file with
  | none =>
    simp only [reduceCtorEq, false_implies, implies_true, iff_true]
    exact .done _
  | some path =>
    simp only [Option.some.injEq, forall_eq']
    rw [foreseen_bind_iff, foreseen_readFile_iff]
    exact and_iff_left fun explicit _ => .done _

theorem check_loadSignature_cases (names : List String) :
    ("config_file" ∉ names ∧ loadSignature.check 1 names = .ok ()) ∨
      "config_file" ∈ names ∧ ∃ cause, loadSignature.check 1 names = .error cause := by
  have hoffence (name : String) : loadSignature.offence? 1 name =
      if name = "config_file" then some (.repeated "load_config" name) else none := by
    simp [loadSignature, Signature.offence?]
  cases hfind : names.findSome? (loadSignature.offence? 1) with
  | some cause =>
    obtain ⟨name, hname, hcause⟩ := List.exists_of_findSome?_eq_some hfind
    rw [hoffence] at hcause
    split at hcause
    · next heq => exact .inr ⟨heq ▸ hname, cause, by rw [Signature.check, hfind]⟩
    · simp at hcause
  | none =>
    refine .inl ⟨fun hmem => ?_, ?_⟩
    · have hnone := List.findSome?_eq_none_iff.mp hfind "config_file" hmem
      simp [hoffence] at hnone
    · rw [Signature.check, hfind]
      rfl

/-- Loading gives settings or a failure of the configuration, unless it goes one of the ways past
both. -/
theorem load_foreseen_iff (env : Environment) (file : Option String) (overrides : Entries Value) :
    Foreseen (load env file overrides) ↔ ¬Unforeseen env file overrides := by
  rw [load_eq]
  rcases check_loadSignature_cases overrides.keys with ⟨hnot, hcheck⟩ | ⟨hmem, cause, hcheck⟩
  · rw [hcheck]
    change Foreseen (readSources env file overrides >>= _) ↔ _
    rw [foreseen_bind_iff, foreseen_readSources_iff]
    simp only [foreseen_ofEntries_iff]
    constructor
    · rintro ⟨⟨hproject, hexplicit⟩, hvalues⟩ (hrepeated | hfile | ⟨hread, hfile, h⟩ | ⟨hread, h⟩)
      · exact hnot hrepeated
      · exact hproject hfile
      · exact hexplicit _ hread _ hfile h
      · exact hvalues _ hread ⟨_, h⟩
    · intro h
      refine ⟨⟨fun hfile => h (.project hfile), fun project hread path hfile hpath => ?_⟩, ?_⟩
      · exact h (.explicit hread hfile hpath)
      · rintro sources hread ⟨key, hkey⟩
        exact h (.value hread hkey)
  · rw [hcheck]
    change Foreseen (.error (.misuse cause)) ↔ _
    rw [foreseen_error_iff]
    simp [Unforeseen.repeated hmem]

/-- A result other than that of an interruption, which only comes with the input. -/
def Uninterrupted {α : Type} (result : Except Fault α) : Prop := result ≠ .error .interrupted

theorem Uninterrupted.bind {α β : Type} {first : Except Fault α} {next : α → Except Fault β}
    (hfirst : Uninterrupted first) (hnext : ∀ a, Uninterrupted (next a)) :
    Uninterrupted (first >>= next) := by
  intro h
  rcases Except.bind_error_iff.mp h with h | ⟨a, -, h⟩
  · exact hfirst h
  · exact hnext a h

theorem Uninterrupted.mapError {ε α : Type} {f : ε → Fault} (hf : ∀ e, f e ≠ .interrupted)
    (result : Except ε α) : Uninterrupted (result.mapError f) := by
  intro h
  obtain ⟨e, -, he⟩ := Except.mapError_error_iff.mp h
  exact hf e he

theorem uninterrupted_readEntry (path : String) (entry : Entry) :
    Uninterrupted (readEntry path entry) := by
  cases entry with
  | file bytes =>
    have hbytes : Uninterrupted (ofBytes path bytes) := by
      refine .bind (.mapError (by simp) _) fun text => ?_
      split
      · exact Except.error.inj.mt (by simp)
      · exact Except.error.inj.mt (by simp)
      · exact Except.error.inj.mt (by simp)
      · split
        · exact Except.error.inj.mt (by simp)
        · exact Except.pure_ne_error
    intro h
    cases hof : ofBytes path bytes with
    | error fault =>
      rw [readEntry, hof] at h
      exact hbytes (hof.trans (congrArg Except.error (Except.error.inj h)))
    | ok entries => simp [readEntry, hof, Except.map] at h
  | _ => simp [readEntry, Uninterrupted]

theorem Judged.uninterrupted {α : Type} {key : String} {value : Value} {result : Except Fault α}
    (h : Judged key value result) : Uninterrupted result := by
  rcases h with ⟨-, a, rfl⟩ | ⟨-, reason, rfl⟩
  · exact Except.pure_ne_error
  · cases hvalue : value.obstacle? with
    | none => simp [Uninterrupted, refusal_of_shown hvalue]
    | some obstacle => simp [Uninterrupted, refusal_of_obstacle hvalue]

theorem uninterrupted_checkBackend (value : Value) : Uninterrupted (checkBackend value) := by
  cases hcontainer : value.isContainer with
  | true =>
    rw [checkBackend_of_isContainer hcontainer]
    exact Except.error.inj.mt (by simp)
  | false => exact (judged_checkBackend hcontainer).uninterrupted

theorem uninterrupted_ofEntries (given : Entries Value) :
    Uninterrupted ((ofEntries given).mapError misuseToFailure) := by
  have hof : Uninterrupted (ofEntries given) := by
    rw [ofEntries_eq]
    refine .bind (.mapError (by simp) _) fun _ => ?_
    refine .bind (uninterrupted_checkBackend _) fun _ => ?_
    refine .bind (judged_checkProvider _).uninterrupted fun _ => ?_
    exact .bind (judged_checkVerbosity _).uninterrupted fun _ => Except.pure_ne_error
  intro h
  obtain ⟨fault, herror, hfault⟩ := Except.mapError_error_iff.mp h
  cases fault <;> simp [misuseToFailure] at hfault
  exact hof herror

theorem uninterrupted_load (env : Environment) (file : Option String)
    (overrides : Entries Value) : Uninterrupted (load env file overrides) := by
  rw [load_eq]
  refine .bind (.mapError (by simp) _) fun _ => .bind ?_ fun sources => uninterrupted_ofEntries _
  refine .bind (.bind (uninterrupted_readEntry _ _) fun _ => Except.pure_ne_error) fun project => ?_
  cases file with
  | none => exact .bind Except.pure_ne_error fun _ => Except.pure_ne_error
  | some path =>
    refine .bind (.bind (uninterrupted_readEntry _ _) fun found => ?_) fun _ =>
      Except.pure_ne_error
    cases found with
    | none => exact Except.error.inj.mt (by simp)
    | some entries => exact Except.pure_ne_error

/-- A project file with a byte that no character starts with. -/
def garbled : Environment where
  directory := "/work"
  lookup := fun path => if path = projectFile then .file [0xFF] else .missing
  lookupVariable := fun _ => none

theorem load_not_foreseen :
    ¬∀ (env : Environment) (file : Option String) (overrides : Entries Value),
      "config_file" ∉ overrides.keys → Foreseen (load env file overrides) := by
  intro h
  have hdecode : Utf8.decode [0xFF] = .error ⟨0, [0xFF], .start⟩ := by cbv
  have hforeseen := h garbled none [] (by simp [Entries.keys])
  rw [load_foreseen_iff] at hforeseen
  exact hforeseen (.project (.undecodable hdecode))

end Settings

end Tracepoint
