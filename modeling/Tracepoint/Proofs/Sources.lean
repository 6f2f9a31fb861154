import Tracepoint.Proofs.Entries
import Tracepoint.Proofs.Names
import Tracepoint.Settings.Sources

namespace Tracepoint

namespace Entries

variable {α : Type} {key : String} {value : α}

theorem put_put (old new : α) (es : Entries α) :
    put key new (put key old es) = put key new es := by
  induction es with
  | nil => simp [put]
  | cons e es ih => by_cases he : e.1 = key <;> simp [put, he, ih]

/-- A key that is kept can as well be put behind the choice. -/
theorem filter_keys_put {p : String → Bool} (hp : p key = true) (es : Entries α) :
    (put key value es).filter (fun e => p e.1) = put key value (es.filter fun e => p e.1) := by
  induction es with
  | nil => simp [put, hp]
  | cons e es ih =>
    by_cases he : e.1 = key
    · simp [put, he, hp]
    · by_cases hpe : p e.1 = true <;> simp [put, he, hpe, ih]

end Entries

namespace Settings

/-- The settings, each with its variable. -/
def variableNames : List (String × String) :=
  [("backend", "TRACETOOL_BACKEND"), ("binary", "TRACETOOL_BINARY"),
    ("target_type", "TRACETOOL_TARGET_TYPE"), ("target_arch", "TRACETOOL_TARGET_ARCH"),
    ("probe_prefix", "TRACETOOL_PROBE_PREFIX"), ("provider", "TRACETOOL_PROVIDER"),
    ("verbosity", "TRACETOOL_VERBOSITY")]

/-- What the variables set, in the order of the settings. One that is empty sets nothing. -/
def inherited (env : Environment) : Entries Value :=
  variableNames.flatMap fun (key, name) =>
    match env.lookupVariable name with
    | none => []
    | some text => if text = "" then [] else [(key, .str text)]

theorem variableNames_eq : variableNames = keys.map fun key => (key, variableName key) := by
  cbv

theorem readVariables_eq (env : Environment) : readVariables env = inherited env := by
  rw [readVariables, inherited, variableNames_eq, List.flatMap_map,
    List.filterMap_eq_flatMap_toList]
  refine List.flatMap_congr fun key _ => ?_
  cases hfound : env.lookupVariable (variableName key) with
  | none => simp [hfound]
  | some text => by_cases htext : text = "" <;> simp [hfound, htext]

def isOn (switch : String) (given : Entries Value) : Bool :=
  (given.get? switch).any Value.isPresent

/-- What the switches turn verbosity to, the quiet one before the verbose one. -/
def switched? (given : Entries Value) : Option String :=
  if isOn "quiet" given then some "quiet"
  else if isOn "verbose" given then some "verbose"
  else none

/-- The overriding settings proper: the switches are not among them, verbosity is what a switch that
is on says, and what is null is left out. -/
def overriding (given : Entries Value) : Entries Value :=
  let own : Entries Value := given.filter fun e => e.1 != "verbose" && e.1 != "quiet"
  let settled := match switched? given with
    | some name => own.put "verbosity" (Value.str name)
    | none => own
  settled.filter fun e => !e.2.isNull

theorem applySwitch_eq (switch : String) (given : Entries Value) :
    applySwitch switch given =
      if isOn switch given then (given.erase switch).put "verbosity" (.str switch)
      else given.erase switch := by
  rw [applySwitch, isOn]
  cases given.get? switch <;> rfl

theorem isOn_applySwitch_verbose (given : Entries Value) :
    isOn "quiet" (applySwitch "verbose" given) = isOn "quiet" given := by
  have herase : (given.erase "verbose").get? "quiet" = given.get? "quiet" :=
    Entries.get?_filter_keys (fun key => key != "verbose") (by decide) given
  have hput : ((given.erase "verbose").put "verbosity" (.str "verbose")).get? "quiet" =
      given.get? "quiet" := by
    rw [Entries.get?_put_of_ne _ _ (by decide), herase]
  rw [applySwitch_eq]
  split
  · rw [isOn, hput, isOn]
  · rw [isOn, herase, isOn]

theorem settleOverrides_eq (given : Entries Value) :
    settleOverrides given = overriding given := by
  have hown : (given.erase "verbose").erase "quiet" =
      given.filter fun e => e.1 != "verbose" && e.1 != "quiet" := by
    rw [Entries.erase, Entries.erase, List.filter_filter]
    simp only [Bool.and_comm]
  have hput (name : String) : ((given.erase "verbose").put "verbosity" (.str name)).erase "quiet" =
      Entries.put "verbosity" (.str name) ((given.erase "verbose").erase "quiet") :=
    Entries.filter_keys_put (p := fun key => key != "quiet") (by decide) _
  rw [settleOverrides, applySwitch_eq "quiet", isOn_applySwitch_verbose, applySwitch_eq "verbose",
    overriding, switched?]
  cases isOn "quiet" given <;> cases isOn "verbose" given <;>
    simp [hown, hput, Entries.put_put]

/-- The sources of the settings of a run, the one of the lowest priority first. -/
def readSources (env : Environment) (file : Option String) (overrides : Entries Value) :
    Except Fault (List (Entries Value)) := do
  let project ← readProject env
  let explicit ← match file with
    | some file => readFile env file
    | none => pure []
  return [project, explicit, inherited env, overriding overrides]

variable {env : Environment} {file : Option String} {overrides : Entries Value} {s : Settings}

/-- All reading comes before the merge. -/
theorem load_eq (env : Environment) (file : Option String) (overrides : Entries Value) :
    load env file overrides = (do
      (loadSignature.check 1 overrides.keys).mapError .misuse
      let sources ← readSources env file overrides
      (ofEntries (merge sources)).mapError misuseToFailure) := by
  rw [load, readSources, readVariables_eq, settleOverrides_eq]
  congr 1
  funext
  cases readProject env with
  | error fault => rfl
  | ok project =>
    cases file with
    | none => rfl
    | some file => cases hfile : readFile env file <;> simp [hfile, bind, Except.bind]; rfl

theorem load_eq_ok : load env file overrides = .ok s ↔
    loadSignature.check 1 overrides.keys = .ok () ∧
      ∃ sources, readSources env file overrides = .ok sources ∧
        ofEntries (merge sources) = .ok s := by
  rw [load_eq, Except.bind_ok_iff]
  constructor
  · rintro ⟨⟨⟩, hcheck, h⟩
    obtain ⟨sources, hsources, h⟩ := Except.bind_ok_iff.mp h
    exact ⟨Except.mapError_ok_iff.mp hcheck, sources, hsources, Except.mapError_ok_iff.mp h⟩
  · rintro ⟨hcheck, sources, hsources, h⟩
    refine ⟨(), Except.mapError_ok_iff.mpr hcheck, ?_⟩
    exact Except.bind_ok_iff.mpr ⟨sources, hsources, Except.mapError_ok_iff.mpr h⟩

end Settings

end Tracepoint
