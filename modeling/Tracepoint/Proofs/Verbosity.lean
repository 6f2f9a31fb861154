import Mathlib
import Tracepoint.Proofs.Selection

namespace Tracepoint

theorem level_disabledRecord (e : Event) : (disabledRecord e).level = .debug := rfl

theorem convert_log_debug (b : Backend) (k : Kind) (ctx : Context) (input : Input) :
    ∀ r ∈ (convert b k ctx input).log, r.level = .debug := by
  cases ht : b.template k with
  | error f => simp [convert_of_template_error ht]
  | ok t =>
    rcases t.starts_or_fails ctx with hstarts | ⟨fault, hstart⟩
    · have hrender (ctx : Context) (lines : List String) :
          ∀ r ∈ (t.render (.off k) ctx lines).log, r.level = .debug := by
        rw [Template.render_eq t (Template.off_isStill k)]
        simp [level_disabledRecord]
      rw [convert_of_starts ht hstarts]
      split
      · exact hrender _ _
      · split
        · exact hrender _ _
        · intro r hr
          rcases List.mem_append.mp hr with hr | hr
          · exact hrender _ _ r hr
          · rw [List.mem_singleton.mp hr]
            rfl
    · simp [convert_of_start_error ht hstart]

/-- Nothing but debugging is logged of a generation. -/
theorem generateFile_log_debug (b : Backend) (k : Kind) (o : Options) (input : Input) :
    ∀ r ∈ (generateFile b k o input).log, r.level = .debug := by
  simp only [generateFile]
  split
  · simp
  · intro r hr
    rcases List.mem_cons.mp hr with rfl | hr
    · rfl
    · exact convert_log_debug _ _ _ _ r hr

namespace Settings

def withVerbosity (s : Settings) (v : Verbosity) : Settings := { s with verbosity := v }

/-- The verbosity can always be shown. -/
theorem obstacle?_withVerbosity (s : Settings) (v : Verbosity) :
    (s.withVerbosity v).obstacle? = s.obstacle? := by
  have hname (v : Verbosity) : Value.obstacle? (.str v.name) = none := Value.obstacle?_str _
  simp only [obstacle?, toEntries, withVerbosity, List.findSome?_cons, List.findSome?_nil, hname]

section

variable {values values' : String → Value} {v : Verbosity}

theorem checkVerbosity_name (v : Verbosity) : checkVerbosity (.str v.name) = .ok v := by
  cases v <;> rfl

/-- The verbosity is checked last, so that another one does not change what is refused. -/
theorem ofValues_withVerbosity (hsuits : suits "verbosity" (values "verbosity") = true)
    (hsame : ∀ key, key ≠ "verbosity" → values' key = values key)
    (hv : values' "verbosity" = .str v.name) :
    ofValues values' = (ofValues values).map (·.withVerbosity v) := by
  -- A verbosity that does not suit would be refused here, but not with the other one in its place.
  have hold : ∃ old, checkVerbosity (values "verbosity") = .ok old := by
    rcases judged_checkVerbosity (values "verbosity") with ⟨-, old, hold⟩ | ⟨hnot, -⟩
    · exact ⟨old, hold⟩
    · simp [hsuits] at hnot
  obtain ⟨old, hold⟩ := hold
  rw [ofValues, ofValues, hv, checkVerbosity_name, hold]
  simp only [hsame _ (by decide : "backend" ≠ "verbosity"),
    hsame _ (by decide : "provider" ≠ "verbosity"), hsame _ (by decide : "binary" ≠ "verbosity"),
    hsame _ (by decide : "target_type" ≠ "verbosity"),
    hsame _ (by decide : "target_arch" ≠ "verbosity"),
    hsame _ (by decide : "probe_prefix" ≠ "verbosity")]
  cases checkBackend (values "backend") with
  | error fault => rfl
  | ok backend =>
    cases checkProvider (values "provider") with
    | error fault => rfl
    | ok provider => rfl

end

theorem isPlain_verbosity : IsPlain "verbosity" := ⟨by cbv, by decide⟩

theorem Adds.ofEntries_withVerbosity {sources more : List (Entries Value)} {v : Verbosity}
    (h : Adds "verbosity" (.str v.name) sources more)
    (hsuits : suits "verbosity" (valueOf (merge sources) "verbosity") = true) :
    ofEntries (merge more) = (ofEntries (merge sources)).map (·.withVerbosity v) := by
  have hvalues : ofValues (valueOf (merge more)) =
      (ofValues (valueOf (merge sources))).map (·.withVerbosity v) := by
    refine ofValues_withVerbosity hsuits (fun key hne => ?_) ?_
    · rw [valueOf, valueOf, h.get?_of_ne isPlain_verbosity hne]
    · rw [valueOf, h.get?_self isPlain_verbosity]
      rfl
  rw [ofEntries_eq, ofEntries_eq, h.check_eq isPlain_verbosity (by decide), hvalues]
  cases signature.check 0 (merge sources).keys <;> rfl

end Settings

namespace Command

open Settings

variable {env : Environment} {stdin : Input} {args : List String} {a : Arguments}

def Arguments.switchOn (a : Arguments) (s : Switch) : Arguments :=
  { a with switches := s :: a.switches }

theorem parseArguments_verbose (args : List String) :
    parseArguments ("-v" :: args) = (parseArguments args).map (·.switchOn .verbose) := rfl

theorem parseArguments_quiet (args : List String) :
    parseArguments ("-q" :: args) = (parseArguments args).map (·.switchOn .quiet) := rfl

/-- Neither switch for verbosity is among the arguments. -/
structure Arguments.IsNeutral (a : Arguments) : Prop where
  verbose : a.has .verbose = false
  quiet : a.has .quiet = false

theorem Arguments.has_switchOn (a : Arguments) (s t : Switch) :
    (a.switchOn s).has t = (t == s || a.has t) := List.contains_cons

theorem Arguments.backends_switchOn {s : Switch} (hs : s = .verbose ∨ s = .quiet) :
    (a.switchOn s).backends = a.backends := by
  rcases hs with rfl | rfl <;> rfl

theorem Arguments.kinds_switchOn {s : Switch} (hs : s = .verbose ∨ s = .quiet) :
    (a.switchOn s).kinds = a.kinds := by
  rcases hs with rfl | rfl <;> rfl

theorem Arguments.IsNeutral.switchEntries_eq (h : a.IsNeutral) : switchEntries a = [] := by
  simp [switchEntries, h.verbose, h.quiet]

theorem Arguments.IsNeutral.switchEntries_verbose (h : a.IsNeutral) :
    switchEntries (a.switchOn .verbose) = [("verbosity", .str Verbosity.verbose.name)] := by
  simp [switchEntries, has_switchOn, h.quiet, Verbosity.name]

theorem Arguments.switchEntries_quiet (a : Arguments) :
    switchEntries (a.switchOn .quiet) = [("verbosity", .str Verbosity.quiet.name)] := by
  simp [switchEntries, has_switchOn, Verbosity.name]

/-- What the other sources and the options make of the verbosity is one of its names. -/
def Arguments.Fits (env : Environment) (a : Arguments) : Prop :=
  ∀ sources, readSources env (a.value? .config) (overrides a) = .ok sources →
    suits "verbosity" (valueOf (merge sources) "verbosity") = true

/-- A switch for verbosity changes no other setting, and no failure. -/
theorem load_switchOn (hneutral : a.IsNeutral) (hfits : a.Fits env) {s : Switch} {v : Verbosity}
    (hs : switchEntries (a.switchOn s) = [("verbosity", .str v.name)]) :
    load env ((a.switchOn s).value? .config) (overrides (a.switchOn s)) =
      (load env (a.value? .config) (overrides a)).map (·.withVerbosity v) := by
  have hcheck (a : Arguments) : loadSignature.check 1 (overrides a).keys = .ok () := rfl
  have hsettled : overriding (overrides (a.switchOn s)) =
      overriding (overrides a) ++ [("verbosity", .str v.name)] := by
    rw [overriding_overrides, overriding_overrides, hs, hneutral.switchEntries_eq,
      List.append_nil]
    rfl
  have hfile : (a.switchOn s).value? .config = a.value? .config := rfl
  rw [load_eq, load_eq, hcheck, hcheck, hfile, readSources_eq, readSources_eq, hsettled]
  cases hothers : readOthers env (a.value? .config) with
  | error fault => rfl
  | ok others =>
    have hadds : Adds "verbosity" (.str v.name) (others ++ [overriding (overrides a)])
        (others ++ [overriding (overrides a) ++ [("verbosity", .str v.name)]]) := by
      simp [Adds]
    have hsources : readSources env (a.value? .config) (overrides a) =
        .ok (others ++ [overriding (overrides a)]) := by
      rw [readSources_eq, hothers]
      rfl
    have hof := hadds.ofEntries_withVerbosity (hfits _ hsources)
    change (ofEntries _).mapError misuseToFailure = ((ofEntries _).mapError misuseToFailure).map _
    rw [hof]
    cases ofEntries (merge (others ++ [overriding (overrides a)])) <;> rfl

def errors (log : List Record) : List Record := log.filter fun r => decide (r.level = .error)

/-- What is left of an outcome of which only errors are logged. -/
def Outcome.hushed (o : Outcome) : Outcome := { o with log := errors o.log }

/-- The logging of a quiet run. -/
def hushing : Logging := Logging.initial.setup false true

variable {logging : Logging} {log log' : List Record}

theorem errors_append (log log' : List Record) : errors (log ++ log') = errors log ++ errors log' :=
  List.filter_append ..

theorem hushing_filter_of_debug (h : ∀ r ∈ log, r.level = .debug) : hushing.filter log = [] := by
  rw [Logging.filter, List.filter_eq_nil_iff]
  intro r hr
  rw [h r hr]
  decide

theorem errors_filter_of_debug (logging : Logging) (h : ∀ r ∈ log, r.level = .debug) :
    errors (logging.filter log) = [] := by
  rw [errors, List.filter_eq_nil_iff]
  intro r hr
  rw [h r (List.mem_of_mem_filter hr)]
  decide

theorem hushed_failed (hkeeps : logging.keeps .error = true) (hlog : errors log = log')
    (fault : Fault) : (failed logging log fault).hushed = failed hushing log' fault := by
  subst hlog
  have hdebug (l : Logging) (message : String) :
      errors (l.filter [⟨rootLogger, .debug, message⟩]) = [] :=
    errors_filter_of_debug l (by simp)
  have hquiet (message : String) : hushing.filter [⟨rootLogger, .debug, message⟩] = [] :=
    hushing_filter_of_debug (by simp)
  have herror (l : Logging) (hl : l.keeps .error = true) (message : String) :
      l.filter [⟨rootLogger, .error, message⟩] = [⟨rootLogger, .error, message⟩] := by
    simp [Logging.filter, hl]
  have herrors (message : String) :
      errors [⟨rootLogger, .error, message⟩] = [⟨rootLogger, .error, message⟩] := by
    simp [errors]
  cases fault with
  | failure f => simp [Outcome.hushed, failed, errors_append, hdebug, hquiet]
  | interrupted => rfl
  | _ =>
    simp [Outcome.hushed, failed, errors_append, herror logging hkeeps, herror hushing (by decide),
      herrors]

theorem hushed_finish {job : Job} (hkeeps : job.logging.keeps .error = true)
    (hlog : errors job.log = []) (input : Input) :
    (job.finish input).hushed = { job with logging := hushing, log := [] }.finish input := by
  have hdebug := generateFile_log_debug job.backend job.kind job.options input
  have herrors := errors_filter_of_debug job.logging hdebug
  have hquiet := hushing_filter_of_debug hdebug
  simp only [Job.finish, hquiet]
  cases (generateFile job.backend job.kind job.options input).result with
  | ok text => simp [Outcome.hushed, errors_append, hlog, herrors]
  | error fault => exact hushed_failed hkeeps (by simp [errors_append, hlog, herrors]) fault

/-- The run of settings that are loaded and, if need be, shown. -/
def proceed (logging : Logging) (a : Arguments) (s : Settings) (input : Input) : Outcome :=
  match choose logging a s with
  | .error outcome => outcome
  | .ok job => job.finish input

theorem hushed_proceed (hkeeps : logging.keeps .error = true) (a : Arguments) (s : Settings)
    (input : Input) : (proceed logging a s input).hushed = proceed hushing a s input := by
  have hdebug : ∀ r ∈ [settingsRecord s], r.level = .debug := by simp [settingsRecord]
  have herrors := errors_filter_of_debug logging hdebug
  have hquiet := hushing_filter_of_debug hdebug
  simp only [proceed, choose, hquiet]
  cases pickBackend a.backends s.backend with
  | error fault => exact hushed_failed hkeeps herrors _
  | ok b =>
    cases pickKind a.kinds with
    | error fault => exact hushed_failed hkeeps herrors _
    | ok k => exact hushed_finish hkeeps herrors input

/-- A quiet run has no use for the verbosity, neither in the settings nor among the arguments. -/
theorem proceed_hushing_switchOn {s : Switch} (hs : s = .verbose ∨ s = .quiet) (a : Arguments)
    (set : Settings) (v : Verbosity) (input : Input) :
    proceed hushing (a.switchOn s) (set.withVerbosity v) input = proceed hushing a set input := by
  have hquiet (set : Settings) : hushing.filter [settingsRecord set] = [] :=
    hushing_filter_of_debug (by simp [settingsRecord])
  rw [proceed, proceed, choose, choose, hquiet, hquiet, Arguments.backends_switchOn hs,
    Arguments.kinds_switchOn hs]
  rfl

/-- The logging that settings ask for. -/
def loggingOf (s : Settings) : Logging := loggingFor Logging.initial s

theorem keeps_error_setup (verbose quiet : Bool) :
    (Logging.initial.setup verbose quiet).keeps .error = true := by
  cases verbose <;> cases quiet <;> rfl

theorem keeps_debug_loggingOf {s : Settings} :
    (loggingOf s).keeps .debug = true ↔ s.verbosity = .verbose := by
  cases hv : s.verbosity <;> simp [loggingOf, loggingFor, hv] <;> decide

/-- Settings that cannot be shown stand in the way of a run that logs them. -/
def Blocks (s : Settings) : Prop := s.verbosity = .verbose ∧ s.obstacle? ≠ none

theorem attempt_of_error {fault : Fault}
    (h : load env (a.value? .config) (overrides a) = .error fault) :
    attempt env stdin a =
      failed (Logging.initial.setup (a.has .verbose) (a.has .quiet)) [] fault := by
  rw [attempt, prepare_eq, h]
  rfl

theorem attempt_of_loaded {s : Settings}
    (h : load env (a.value? .config) (overrides a) = .ok s) :
    attempt env stdin a = match checkShown (loggingOf s) s with
      | .error outcome => outcome
      | .ok () =>
        proceed (loggingOf s) a s (inputAt env stdin (a.files.head?.getD standardInput)) := by
  rw [attempt, prepare_eq, h]
  change (match checkShown (loggingOf s) s >>= fun _ => choose (loggingOf s) a s with
    | .error outcome => outcome
    | .ok job => job.finish _) = _
  cases checkShown (loggingOf s) s <;> rfl

theorem attempt_of_ok {s : Settings} (h : load env (a.value? .config) (overrides a) = .ok s)
    (hnot : ¬Blocks s) :
    attempt env stdin a =
      proceed (loggingOf s) a s (inputAt env stdin (a.files.head?.getD standardInput)) := by
  have hshown : checkShown (loggingOf s) s = .ok () := by
    rw [checkShown]
    cases hobstacle : s.obstacle? with
    | none => rfl
    | some obstacle =>
      have hv : s.verbosity ≠ .verbose := fun hv => hnot ⟨hv, by simp [hobstacle]⟩
      simp [keeps_debug_loggingOf.not.mpr hv]
  rw [attempt_of_loaded h, hshown]

theorem attempt_of_obstacle {s : Settings} {obstacle : Value.Obstacle}
    (h : load env (a.value? .config) (overrides a) = .ok s) (hv : s.verbosity = .verbose)
    (hobstacle : s.obstacle? = some obstacle) :
    attempt env stdin a = failed (loggingOf s) [] (.unwritable obstacle) := by
  have hshown : checkShown (loggingOf s) s =
      .error (failed (loggingOf s) [] (.unwritable obstacle)) := by
    simp [checkShown, hobstacle, keeps_debug_loggingOf.mpr hv]
  rw [attempt_of_loaded h, hshown]

theorem hushed_attempt_of_error {fault : Fault}
    (h : load env (a.value? .config) (overrides a) = .error fault) :
    (attempt env stdin a).hushed = failed hushing [] fault := by
  rw [attempt_of_error h]
  exact hushed_failed (keeps_error_setup _ _) rfl fault

theorem hushed_attempt_of_ok {s : Settings}
    (h : load env (a.value? .config) (overrides a) = .ok s) (hnot : ¬Blocks s) :
    (attempt env stdin a).hushed =
      proceed hushing a s (inputAt env stdin (a.files.head?.getD standardInput)) := by
  rw [attempt_of_ok h hnot]
  exact hushed_proceed (keeps_error_setup _ _) _ _ _

theorem hushed_attempt_of_obstacle {s : Settings} {obstacle : Value.Obstacle}
    (h : load env (a.value? .config) (overrides a) = .ok s) (hv : s.verbosity = .verbose)
    (hobstacle : s.obstacle? = some obstacle) :
    (attempt env stdin a).hushed = failed hushing [] (.unwritable obstacle) := by
  rw [attempt_of_obstacle h hv hobstacle]
  exact hushed_failed (keeps_error_setup _ _) rfl _

theorem Arguments.IsNeutral.answer?_switchOn (h : a.IsNeutral) {s : Switch}
    (hs : s = .verbose ∨ s = .quiet) : answer? (a.switchOn s) = answer? a := by
  rcases hs with rfl | rfl <;> simp [answer?, Arguments.has_switchOn, h.verbose, h.quiet]

theorem log_of_checkFiles {o : Outcome} (h : checkFiles env a = .error o) : o.log = [] := by
  rcases checkFiles_cases h with rfl | rfl <;> rfl

theorem log_of_answer {o : Outcome} (h : answer? a = some o) : o.log = [] := by
  simp only [answer?] at h
  split_ifs at h <;> exact Option.some.inj h ▸ rfl

theorem log_of_early {o : Outcome} (h : early? env a = some o) : o.log = [] := by
  rw [early?] at h
  split_ifs at h with hhelp
  · exact Option.some.inj h ▸ rfl
  · cases hfiles : checkFiles env a with
    | error outcome =>
      rw [hfiles] at h
      exact Option.some.inj h ▸ log_of_checkFiles hfiles
    | ok found =>
      rw [hfiles] at h
      exact log_of_answer h

theorem Arguments.IsNeutral.early?_switchOn (h : a.IsNeutral) {s : Switch}
    (hs : s = .verbose ∨ s = .quiet) (env : Environment) :
    early? env (a.switchOn s) = early? env a := by
  have hhelp : (a.switchOn s).has .help = a.has .help := by rcases hs with rfl | rfl <;> rfl
  have hfiles : checkFiles env (a.switchOn s) = checkFiles env a := rfl
  rw [early?, early?, hhelp, hfiles, h.answer?_switchOn hs]

theorem Arguments.IsNeutral.early?_eq_none_iff (h : a.IsNeutral) :
    early? env a = none ↔ a.asks = false ∧ checkFiles env a = .ok () := by
  rw [early?]
  cases checkFiles env a with
  | error outcome => cases a.has .help <;> simp
  | ok found =>
    simp only [answer?, h.verbose, Arguments.asks]
    cases a.has .help <;> cases a.has .version <;> cases a.has .checkBackend <;>
      cases a.has .listBackends <;> simp

/-- Three outcomes that come to the same, but that of the logs the quiet one has just the errors. -/
structure Agree (plain verbose quiet : Outcome) : Prop where
  plain : plain.hushed = quiet
  verbose : verbose.hushed = quiet

theorem agree_of_early (hneutral : a.IsNeutral) {o : Outcome} (h : early? env a = some o)
    (stdin : Input) :
    Agree (respond env stdin a) (respond env stdin (a.switchOn .verbose))
      (respond env stdin (a.switchOn .quiet)) := by
  have hhushed : o.hushed = o := by
    have hlog : errors o.log = o.log := by rw [log_of_early h]; rfl
    rw [Outcome.hushed, hlog]
  have hswitch {s : Switch} (hs : s = .verbose ∨ s = .quiet) :
      respond env stdin (a.switchOn s) = o := by
    rw [respond, hneutral.early?_switchOn hs, h]
    rfl
  have hrespond : respond env stdin a = o := by
    rw [respond, h]
    rfl
  rw [hrespond, hswitch (.inl rfl), hswitch (.inr rfl)]
  exact ⟨hhushed, hhushed⟩

section

variable (hneutral : a.IsNeutral) (hfits : a.Fits env)
include hneutral hfits

theorem load_verbose : load env ((a.switchOn .verbose).value? .config)
      (overrides (a.switchOn .verbose)) =
    (load env (a.value? .config) (overrides a)).map (·.withVerbosity .verbose) :=
  load_switchOn hneutral hfits hneutral.switchEntries_verbose

theorem load_quiet : load env ((a.switchOn .quiet).value? .config)
      (overrides (a.switchOn .quiet)) =
    (load env (a.value? .config) (overrides a)).map (·.withVerbosity .quiet) :=
  load_switchOn hneutral hfits a.switchEntries_quiet

theorem attempt_quiet {s : Settings} (hload : load env (a.value? .config) (overrides a) = .ok s)
    (stdin : Input) :
    attempt env stdin (a.switchOn .quiet) =
      proceed hushing a s (inputAt env stdin (a.files.head?.getD standardInput)) := by
  have hquiet := load_quiet hneutral hfits
  rw [hload] at hquiet
  -- A quiet run does not log its settings, so that it need not show them.
  have hnot : ¬Blocks (s.withVerbosity .quiet) := fun h => by
    have hv : Verbosity.quiet = .verbose := h.1
    cases hv
  rw [attempt_of_ok hquiet hnot]
  exact proceed_hushing_switchOn (.inr rfl) a s .quiet _

theorem hushed_attempt_verbose {s : Settings}
    (hload : load env (a.value? .config) (overrides a) = .ok s) (hshown : s.obstacle? = none)
    (stdin : Input) :
    (attempt env stdin (a.switchOn .verbose)).hushed =
      attempt env stdin (a.switchOn .quiet) := by
  have hverbose := load_verbose hneutral hfits
  rw [hload] at hverbose
  have hnot : ¬Blocks (s.withVerbosity .verbose) := fun h =>
    h.2 ((s.obstacle?_withVerbosity .verbose).trans hshown)
  rw [hushed_attempt_of_ok hverbose hnot, attempt_quiet hneutral hfits hload]
  exact proceed_hushing_switchOn (.inl rfl) a s .verbose _

/-- The loud run of settings that cannot be shown ends on them. -/
theorem hushed_attempt_verbose_of_obstacle {s : Settings} {obstacle : Value.Obstacle}
    (hload : load env (a.value? .config) (overrides a) = .ok s)
    (hobstacle : s.obstacle? = some obstacle) (stdin : Input) :
    (attempt env stdin (a.switchOn .verbose)).hushed =
      failed hushing [] (.unwritable obstacle) := by
  have hverbose := load_verbose hneutral hfits
  rw [hload] at hverbose
  exact hushed_attempt_of_obstacle hverbose rfl
    ((s.obstacle?_withVerbosity .verbose).trans hobstacle)

theorem agree_attempt_of_error {fault : Fault}
    (hload : load env (a.value? .config) (overrides a) = .error fault) (stdin : Input) :
    Agree (attempt env stdin a) (attempt env stdin (a.switchOn .verbose))
      (attempt env stdin (a.switchOn .quiet)) := by
  have hverbose := load_verbose hneutral hfits
  have hquiet := load_quiet hneutral hfits
  rw [hload] at hverbose hquiet
  have hlogging : Logging.initial.setup ((a.switchOn .quiet).has .verbose)
      ((a.switchOn .quiet).has .quiet) = hushing := by
    rw [Arguments.has_switchOn, Arguments.has_switchOn, hneutral.verbose]
    rfl
  rw [attempt_of_error hquiet, hlogging]
  exact ⟨hushed_attempt_of_error hload, hushed_attempt_of_error hverbose⟩

theorem agree_attempt_iff {s : Settings}
    (hload : load env (a.value? .config) (overrides a) = .ok s) (stdin : Input) :
    Agree (attempt env stdin a) (attempt env stdin (a.switchOn .verbose))
        (attempt env stdin (a.switchOn .quiet)) ↔
      ∀ obstacle, s.obstacle? = some obstacle →
        attempt env stdin (a.switchOn .quiet) = failed hushing [] (.unwritable obstacle) := by
  constructor
  · intro h obstacle hobstacle
    rw [← h.verbose]
    exact hushed_attempt_verbose_of_obstacle hneutral hfits hload hobstacle stdin
  · intro h
    constructor
    · -- The settings can ask for a loud run even if no switch does.
      by_cases hblocks : Blocks s
      · obtain ⟨hv, hne⟩ := hblocks
        obtain ⟨obstacle, hobstacle⟩ := Option.ne_none_iff_exists'.mp hne
        rw [hushed_attempt_of_obstacle hload hv hobstacle, h obstacle hobstacle]
      · rw [hushed_attempt_of_ok hload hblocks, attempt_quiet hneutral hfits hload]
    · cases hobstacle : s.obstacle? with
      | none => exact hushed_attempt_verbose hneutral hfits hload hobstacle stdin
      | some obstacle =>
        rw [h obstacle hobstacle]
        exact hushed_attempt_verbose_of_obstacle hneutral hfits hload hobstacle stdin

end

/-- The settings cannot be shown, which does not end the quiet run in the same way. -/
structure Chokes (env : Environment) (stdin : Input) (a : Arguments) (s : Settings)
    (obstacle : Value.Obstacle) : Prop where
  asks : a.asks = false
  files : checkFiles env a = .ok ()
  loaded : load env (a.value? .config) (overrides a) = .ok s
  hidden : s.obstacle? = some obstacle
  differs : respond env stdin (a.switchOn .quiet) ≠ failed hushing [] (.unwritable obstacle)

theorem agree_respond_iff (hneutral : a.IsNeutral) (hfits : a.Fits env) (stdin : Input) :
    Agree (respond env stdin a) (respond env stdin (a.switchOn .verbose))
        (respond env stdin (a.switchOn .quiet)) ↔
      ¬∃ s obstacle, Chokes env stdin a s obstacle := by
  cases hearly : early? env a with
  | some o =>
    refine iff_of_true (agree_of_early hneutral hearly stdin) ?_
    rintro ⟨s, obstacle, h⟩
    simp [hneutral.early?_eq_none_iff.mpr ⟨h.asks, h.files⟩] at hearly
  | none =>
    obtain ⟨hasks, hfiles⟩ := hneutral.early?_eq_none_iff.mp hearly
    have hrespond : respond env stdin a = attempt env stdin a := by
      rw [respond, hearly]
      rfl
    have hswitch {s : Switch} (hs : s = .verbose ∨ s = .quiet) :
        respond env stdin (a.switchOn s) = attempt env stdin (a.switchOn s) := by
      rw [respond, hneutral.early?_switchOn hs, hearly]
      rfl
    rw [hrespond, hswitch (.inl rfl), hswitch (.inr rfl)]
    cases hload : load env (a.value? .config) (overrides a) with
    | error fault =>
      refine iff_of_true (agree_attempt_of_error hneutral hfits hload stdin) ?_
      rintro ⟨s, obstacle, h⟩
      have hloaded := h.loaded
      simp [hload] at hloaded
    | ok s =>
      rw [agree_attempt_iff hneutral hfits hload, ← hswitch (.inr rfl)]
      constructor
      · rintro hsame ⟨s', obstacle, h⟩
        obtain rfl := Except.ok.inj (hload.symm.trans h.loaded)
        exact h.differs (hsame obstacle h.hidden)
      · intro hnot obstacle hobstacle
        by_contra hdiffers
        exact hnot ⟨s, obstacle, hasks, hfiles, hload, hobstacle, hdiffers⟩

/-- The run as it is and those with a switch in front agree. -/
def IsSteady (env : Environment) (stdin : Input) (args : List String) : Prop :=
  Agree (run env stdin args) (run env stdin ("-v" :: args)) (run env stdin ("-q" :: args))

/-- The switches for verbosity change the log and nothing else, and quiet is no more than leaving
out of it what is no error, unless the loud run ends on settings that cannot be shown. -/
theorem run_isSteady_iff (hneutral : ∀ a, parseArguments args = some a → a.IsNeutral)
    (hfits : ∀ a, parseArguments args = some a → a.Fits env) (stdin : Input) :
    IsSteady env stdin args ↔
      ∀ a, parseArguments args = some a → ¬∃ s obstacle, Chokes env stdin a s obstacle := by
  rw [IsSteady, run_eq, run_eq, run_eq, parseArguments_verbose, parseArguments_quiet]
  cases hparse : parseArguments args with
  | none =>
    have hagree : Agree misused misused misused := ⟨rfl, rfl⟩
    simpa using hagree
  | some a =>
    simpa using agree_respond_iff (hneutral a hparse) (hfits a hparse) stdin

/-- A project file with a number in hexadecimal digits that has too many decimal digits to be
shown. -/
def lengthy : Environment where
  directory := "/work"
  lookup := fun path =>
    if path = projectFile then
      .file (("binary = 0x1".toList ++ List.replicate 3572 '0').map fun c => UInt8.ofNat c.toNat)
    else .missing
  lookupVariable := fun _ => none

def nopSource : List String := ["--nop", "-c"]

def nopSourceArguments : Arguments where
  switches := [.backend .nop, .kind .source]

set_option maxRecDepth 100000 in
theorem lengthy_evaluated :
    (readSources lengthy none (overrides nopSourceArguments)).toOption.all
        (fun sources => suits "verbosity" (valueOf (merge sources) "verbosity")) = true ∧
      (run lengthy (.ofLines []) ("-v" :: nopSource)).exit = 1 ∧
      (run lengthy (.ofLines []) ("-q" :: nopSource)).exit = 0 := by
  decide +kernel

theorem isNeutral_nopSource : ∀ a, parseArguments nopSource = some a → a.IsNeutral := by
  intro a h
  obtain rfl := Option.some.inj h
  exact ⟨rfl, rfl⟩

theorem fits_nopSource : ∀ a, parseArguments nopSource = some a → a.Fits lengthy := by
  have hparse : parseArguments nopSource = some nopSourceArguments := rfl
  intro a h sources hsources
  obtain rfl := Option.some.inj (hparse.symm.trans h)
  have hfile : nopSourceArguments.value? .config = none := rfl
  have hsuits := lengthy_evaluated.1
  rw [hfile] at hsources
  rw [hsources] at hsuits
  exact hsuits

theorem run_isSteady_iff_nopSource :
    (∀ a, parseArguments nopSource = some a → a.IsNeutral) ∧
      (∀ a, parseArguments nopSource = some a → a.Fits lengthy) ∧
      (IsSteady lengthy (.ofLines []) nopSource ↔
        ∀ a, parseArguments nopSource = some a →
          ¬∃ s obstacle, Chokes lengthy (.ofLines []) a s obstacle) :=
  ⟨isNeutral_nopSource, fits_nopSource,
    run_isSteady_iff isNeutral_nopSource fits_nopSource (.ofLines [])⟩

theorem run_not_isSteady :
    ¬∀ (env : Environment) (stdin : Input) (args : List String),
      (∀ a, parseArguments args = some a → a.IsNeutral) →
      (∀ a, parseArguments args = some a → a.Fits env) → IsSteady env stdin args := by
  intro h
  obtain ⟨-, hverbose, hquiet⟩ := lengthy_evaluated
  have hsteady := h lengthy (.ofLines []) nopSource isNeutral_nopSource fits_nopSource
  have hexit := congrArg Outcome.exit hsteady.verbose
  exact absurd (hverbose.symm.trans (hexit.trans hquiet)) (by decide)

end Command

end Tracepoint
