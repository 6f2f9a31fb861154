import Mathlib
import Tracepoint.Command.Run
import Tracepoint.Proofs.Pass
import Tracepoint.Proofs.Steps
import Tracepoint.Proofs.Text.Console

namespace Tracepoint

theorem ending_of_convert {b : Backend} {k : Kind} {ctx : Context} {input : Input}
    {lines : List String} (h : (convert b k ctx input).result = .ok lines) :
    input.ending = .complete := by
  cases ht : b.template k with
  | error f => simp [convert_of_template_error ht] at h
  | ok t =>
    rcases t.starts_or_fails ctx with hstarts | ⟨fault, hstart⟩
    · rw [convert_of_starts ht hstarts] at h
      split at h
      · cases h
      · split at h
        · cases h
        · next hend => cases he : input.ending <;> simp [he, Ending.fault?] at hend ⊢
    · simp [convert_of_start_error ht hstart] at h

/-- What a request comes to before any input is read. -/
def checked (b : Backend) (k : Kind) (o : Options) : Except Fault Context := do
  validate b k o
  o.context k

theorem result_generateFile (b : Backend) (k : Kind) (o : Options) (input : Input) :
    (generateFile b k o input).result = (do
      let ctx ← checked b k o
      let lines ← (convert b k ctx input).result
      return unlines (wrap k lines)) := by
  cases hchecked : checked b k o with
  | error fault =>
    rw [checked] at hchecked
    simp only [generateFile, hchecked]
    rfl
  | ok ctx =>
    rw [checked] at hchecked
    simp only [generateFile, hchecked]
    change _ = (convert b k ctx input).result >>= fun lines => pure (unlines (wrap k lines))
    cases (convert b k ctx input).result <;> rfl

/-- An input that is read to its end is no more than its lines. -/
theorem generate_lines {input : Input} (h : input.ending = .complete) (b : Backend) (k : Kind)
    (o : Options) : generate b.name k.flag o input.lines = generateFile b k o input := by
  obtain ⟨lines, ending⟩ := input
  obtain rfl : ending = .complete := h
  rw [generate, resolve_name_flag]
  rfl

theorem ending_of_generateFile {b : Backend} {k : Kind} {o : Options} {input : Input}
    {text : String} (h : (generateFile b k o input).result = .ok text) :
    input.ending = .complete := by
  rw [result_generateFile] at h
  obtain ⟨ctx, -, h⟩ := Except.bind_ok_iff.mp h
  obtain ⟨lines, hconvert, -⟩ := Except.bind_ok_iff.mp h
  exact ending_of_convert hconvert

namespace Command

/-- Nothing is printed where the run does not succeed. -/
def Outcome.IsFailed (o : Outcome) : Prop := o.exit ∈ [1, 2, 130] ∧ o.stdout = ""

theorem failed_isFailed (logging : Logging) (log : List Record) (fault : Fault) :
    (failed logging log fault).IsFailed := by
  cases fault <;> exact ⟨by simp [failed], rfl⟩

theorem checkFiles_cases {env : Environment} {a : Arguments} {o : Outcome}
    (h : checkFiles env a = .error o) : o = misused ∨ o = { exit := 1 } := by
  simp only [checkFiles] at h
  split at h
  · exact .inl (Except.error.inj h).symm
  · split at h
    · simp at h
    · split at h
      · exact .inr (Except.error.inj h).symm
      · split at h
        · exact .inl (Except.error.inj h).symm
        · split at h
          · simp at h
          · exact .inl (Except.error.inj h).symm

theorem checkFiles_isFailed {env : Environment} {a : Arguments} {o : Outcome}
    (h : checkFiles env a = .error o) : o.IsFailed := by
  rcases checkFiles_cases h with rfl | rfl
  · exact ⟨by decide, rfl⟩
  · exact ⟨by decide, rfl⟩

/-- What is read: the standard input where no file is named or a dash stands for it, or else the
lines of the file as they are decoded. -/
inductive Reads (env : Environment) (stdin : Input) : List String → Input → Prop
  | unnamed : Reads env stdin [] stdin
  | dash : Reads env stdin ["-"] stdin
  | file {path : String} {bytes : List UInt8} (hpath : path ≠ "-")
    (hfound : env.lookup path = .file bytes) : Reads env stdin [path] (Input.ofBytes bytes)

theorem Reads.inputAt_eq {env : Environment} {stdin input : Input} {files : List String}
    (h : Reads env stdin files input) :
    inputAt env stdin (files.head?.getD standardInput) = input := by
  cases h with
  | unnamed => rfl
  | dash => rfl
  | file hpath hfound => simp [inputAt, standardInput, hpath, hfound]

theorem exists_bytes_of_isFile {entry : Entry} (h : isFile entry = true) :
    ∃ bytes, entry = .file bytes := by
  cases entry with
  | file bytes => exact ⟨bytes, rfl⟩
  | _ => cases h

/-- Where the files are in order one at most is named, and it can be read. -/
theorem files_of_checkFiles {env : Environment} {a : Arguments} (h : checkFiles env a = .ok ()) :
    a.files = [] ∨ ∃ path, a.files = [path] ∧ (path = "-" ∨ isFile (env.lookup path) = true) := by
  simp only [checkFiles] at h
  split at h
  · cases h
  · split at h
    · next hfiles => exact .inl hfiles
    · next path rest hfiles =>
      split at h
      · cases h
      · split at h
        · cases h
        · next hfound =>
          split at h
          · next hlast =>
            obtain rfl := List.isEmpty_iff.mp hlast
            refine .inr ⟨path, hfiles, Classical.or_iff_not_imp_left.mpr fun hpath => ?_⟩
            simpa [standardInput, hpath] using hfound
          · cases h

theorem reads_inputAt {env : Environment} {a : Arguments} (h : checkFiles env a = .ok ())
    (stdin : Input) :
    Reads env stdin a.files (inputAt env stdin (a.files.head?.getD standardInput)) := by
  have hreads : ∃ input, Reads env stdin a.files input := by
    rcases files_of_checkFiles h with hnone | ⟨path, hone, hpath⟩
    · rw [hnone]
      exact ⟨stdin, .unnamed⟩
    · rw [hone]
      by_cases hdash : path = "-"
      · subst hdash
        exact ⟨stdin, .dash⟩
      · obtain ⟨bytes, hbytes⟩ := exists_bytes_of_isFile (hpath.resolve_left hdash)
        exact ⟨_, .file hdash hbytes⟩
  obtain ⟨input, hreads⟩ := hreads
  exact hreads.inputAt_eq ▸ hreads

def Arguments.given (a : Arguments) (o : ValueOption) : Value :=
  match a.value? o with
  | some s => .str s
  | none => .null

def optionValues (a : Arguments) : Entries Value :=
  [("backend", a.given .backend), ("binary", a.given .binary),
    ("target_arch", a.given .targetArch), ("target_type", a.given .targetType),
    ("probe_prefix", a.given .probePrefix)]

/-- What the arguments set: the options, whether they are given or not, and the two switches for
verbosity. -/
def Arguments.settings (a : Arguments) : Entries Value :=
  optionValues a ++
    [("verbose", .bool (decide (Switch.verbose ∈ a.switches))),
      ("quiet", .bool (decide (Switch.quiet ∈ a.switches)))]

theorem overrides_eq (a : Arguments) : overrides a = a.settings := by
  have hdecide (s : Switch) : decide (s ∈ a.switches) = a.has s := (List.contains_eq_mem ..).symm
  rw [Arguments.settings, hdecide, hdecide]
  rfl

/-- The options that are answered without settings and without input. -/
def Arguments.asks (a : Arguments) : Bool :=
  a.has .help || a.has .version || a.has .checkBackend || a.has .listBackends

theorem answer_cases {a : Arguments} {o : Outcome} (h : answer? a = some o) :
    o.IsFailed ∨ o.exit = 0 ∧ a.asks = true := by
  simp only [answer?] at h
  split at h
  · next hv => exact .inr ⟨by rw [← Option.some.inj h], by simp [Arguments.asks, hv]⟩
  · split at h
    · next hc => exact .inr ⟨by rw [← Option.some.inj h], by simp [Arguments.asks, hc]⟩
    · split at h
      · next hl => exact .inr ⟨by rw [← Option.some.inj h], by simp [Arguments.asks, hl]⟩
      · split at h
        · left
          rw [← Option.some.inj h]
          exact ⟨by simp, rfl⟩
        · simp at h

/-- Settings that are to be logged have to be writable. -/
def checkShown (logging : Logging) (s : Settings) : Except Outcome Unit :=
  match s.obstacle? with
  | some obstacle =>
    if logging.keeps .debug then .error (failed logging [] (.unwritable obstacle)) else .ok ()
  | none => .ok ()

/-- Picks what is to be generated with the settings. -/
def choose (logging : Logging) (a : Arguments) (s : Settings) : Except Outcome Job := do
  let log := logging.filter [settingsRecord s]
  let refuse (fault : ConfigurationFault) := failed logging log (.failure (.configuration fault))
  let backend ← (pickBackend a.backends s.backend).mapError refuse
  let kind ← (pickKind a.kinds).mapError refuse
  return { backend, kind, options := s.options, logging, log }

theorem prepare_eq (env : Environment) (a : Arguments) :
    prepare env a = (do
      let logging := Logging.initial.setup (a.has .verbose) (a.has .quiet)
      let s ← (Settings.load env (a.value? .config) (overrides a)).mapError (failed logging [])
      checkShown (loggingFor logging s) s
      choose (loggingFor logging s) a s) := by
  rw [prepare]
  congr 1
  funext s
  cases hobstacle : s.obstacle? with
  | none => simp [hobstacle, checkShown, choose, bind, Except.bind]
  | some obstacle =>
    simp only [hobstacle, checkShown]
    split <;> rfl

/-- The settings cannot be loaded, or else what is wrong does not come from outside. -/
theorem prepare_error_cases {env : Environment} {a : Arguments} {o : Outcome}
    (h : prepare env a = .error o) :
    (∃ fault logging, Settings.load env (a.value? .config) (overrides a) = .error fault ∧
      o = failed logging [] fault) ∨
    ∃ fault logging log, fault ≠ .interrupted ∧ o = failed logging log fault := by
  rw [prepare_eq] at h
  rcases Except.bind_error_iff.mp h with hload | ⟨s, -, h⟩
  · obtain ⟨fault, hfault, rfl⟩ := Except.mapError_error_iff.mp hload
    exact .inl ⟨fault, _, hfault, rfl⟩
  right
  rcases Except.bind_error_iff.mp h with hshown | ⟨-, -, h⟩
  · simp only [checkShown] at hshown
    split at hshown
    · split at hshown
      · exact ⟨_, _, _, by simp, (Except.error.inj hshown).symm⟩
      · simp at hshown
    · simp at hshown
  rcases Except.bind_error_iff.mp h with hbackend | ⟨b, -, h⟩
  · obtain ⟨fault, -, rfl⟩ := Except.mapError_error_iff.mp hbackend
    exact ⟨_, _, _, by simp, rfl⟩
  rcases Except.bind_error_iff.mp h with hkind | ⟨k, -, h⟩
  · obtain ⟨fault, -, rfl⟩ := Except.mapError_error_iff.mp hkind
    exact ⟨_, _, _, by simp, rfl⟩
  · exact absurd h Except.pure_ne_error

theorem prepare_isFailed {env : Environment} {a : Arguments} {o : Outcome}
    (h : prepare env a = .error o) : o.IsFailed := by
  rcases prepare_error_cases h with ⟨fault, logging, -, rfl⟩ | ⟨fault, logging, log, -, rfl⟩
  · exact failed_isFailed _ _ _
  · exact failed_isFailed _ _ _

/-- The backend is that of the one switch, or else that of the settings. -/
def Picks (a : Arguments) (s : Settings) (b : Backend) : Prop :=
  a.backends = [b] ∨ a.backends = [] ∧ s.backend = some b

theorem pickBackend_eq_ok {a : Arguments} {s : Settings} {b : Backend}
    (h : pickBackend a.backends s.backend = .ok b) : Picks a s b := by
  unfold pickBackend at h
  split at h
  · next c hone => exact .inl (hone.trans (congrArg (fun d => [d]) (Except.ok.inj h)))
  · next c hnone hset => exact .inr ⟨hnone, hset.trans (congrArg some (Except.ok.inj h))⟩
  · cases h
  · cases h

theorem pickKind_eq_ok {kinds : List Kind} {k : Kind} (h : pickKind kinds = .ok k) :
    kinds = [k] := by
  match kinds with
  | [] => cases h
  | [l] => exact congrArg (fun l => [l]) (Except.ok.inj h)
  | _ :: _ :: _ => cases h

/-- What a file is generated with: all of the settings but the backend and the verbosity. -/
def fileOptions (s : Settings) : Options where
  binary := s.binary
  targetType := s.targetType
  targetArch := s.targetArch
  probePrefix := s.probePrefix
  provider := .str s.provider

/-- A job is made of the settings, and of what arguments and settings pick. -/
theorem prepare_eq_ok {env : Environment} {a : Arguments} {job : Job}
    (h : prepare env a = .ok job) :
    ∃ s, Settings.load env (a.value? .config) a.settings = .ok s ∧ Picks a s job.backend ∧
      a.kinds = [job.kind] ∧ job.options = fileOptions s := by
  rw [prepare_eq] at h
  obtain ⟨s, hload, h⟩ := Except.bind_ok_iff.mp h
  obtain ⟨-, -, h⟩ := Except.bind_ok_iff.mp h
  obtain ⟨b, hbackend, h⟩ := Except.bind_ok_iff.mp h
  obtain ⟨k, hkind, h⟩ := Except.bind_ok_iff.mp h
  obtain rfl := Except.pure_ok_iff.mp h
  refine ⟨s, ?_, pickBackend_eq_ok (Except.mapError_ok_iff.mp hbackend),
    pickKind_eq_ok (Except.mapError_ok_iff.mp hkind), rfl⟩
  rw [← overrides_eq]
  exact Except.mapError_ok_iff.mp hload

/-- The text is generated for this backend from all lines of the input, with the kind that is
switched on and the options of these settings. -/
structure GeneratesFor (env : Environment) (stdin : Input) (a : Arguments) (text : String)
    (s : Settings) (b : Backend) : Prop where
  loaded : Settings.load env (a.value? .config) a.settings = .ok s
  generated : ∃ k input, a.kinds = [k] ∧ Reads env stdin a.files input ∧
    input.ending = .complete ∧
      (generate b.name k.flag (fileOptions s) input.lines).result = .ok text

/-- The text is generated with the settings of the run, for the backend that is picked. -/
def Generates (env : Environment) (stdin : Input) (a : Arguments) (text : String) : Prop :=
  ∃ s b, GeneratesFor env stdin a text s b ∧ Picks a s b

/-- What the outcome of a run tells: it has one of four codes, nothing is printed unless the run
succeeds, and then the arguments are understood and ask for what is printed. -/
structure Outcome.IsSound (o : Outcome) (env : Environment) (stdin : Input) (args : List String) :
    Prop where
  exit_mem : o.exit ∈ [0, 1, 2, 130]
  stdout_of_ne : o.exit ≠ 0 → o.stdout = ""
  generates : o.exit = 0 → ∃ a, parseArguments args = some a ∧
    (a.asks = false → Generates env stdin a o.stdout)

theorem Outcome.IsFailed.isSound {o : Outcome} (h : o.IsFailed) (env : Environment)
    (stdin : Input) (args : List String) : o.IsSound env stdin args where
  exit_mem := List.mem_cons_of_mem 0 h.1
  stdout_of_ne _ := h.2
  generates hexit := by
    have hmem := h.1
    simp [hexit] at hmem

theorem Outcome.isSound_of_asks {o : Outcome} {args : List String} {a : Arguments}
    (hexit : o.exit = 0) (hparse : parseArguments args = some a) (hasks : a.asks = true)
    (env : Environment) (stdin : Input) : o.IsSound env stdin args where
  exit_mem := by simp [hexit]
  stdout_of_ne hne := absurd hexit hne
  generates _ := ⟨a, hparse, fun hnot => by simp [hasks] at hnot⟩

theorem finish_isSound {env : Environment} {args : List String} {a : Arguments} {job : Job}
    (hparse : parseArguments args = some a) (hfiles : checkFiles env a = .ok ())
    (hprepare : prepare env a = .ok job) (stdin : Input) :
    (job.finish (inputAt env stdin (a.files.head?.getD standardInput))).IsSound env stdin args := by
  obtain ⟨s, hload, hbackend, hkind, hoptions⟩ := prepare_eq_ok hprepare
  simp only [Job.finish]
  split
  · next text hresult =>
    rw [hoptions] at hresult
    have hending := ending_of_generateFile hresult
    rw [← generate_lines hending] at hresult
    refine ⟨by simp, fun hexit => absurd rfl hexit, fun _ => ⟨a, hparse, fun _ => ?_⟩⟩
    refine ⟨s, job.backend, ⟨hload, ?_⟩, hbackend⟩
    exact ⟨job.kind, _, hkind, reads_inputAt hfiles stdin, hending, hresult⟩
  · exact (failed_isFailed _ _ _).isSound env stdin args

/-- A run is over before the input is read, or it has a job that is done with the input. -/
theorem plan_cases (env : Environment) (args : List String) :
    (∃ o, plan env args = .done o ∧ ∀ stdin, o.IsSound env stdin args) ∨
      ∃ a job, parseArguments args = some a ∧ checkFiles env a = .ok () ∧
        prepare env a = .ok job ∧ plan env args = .job job (a.files.head?.getD standardInput) := by
  cases hparse : parseArguments args with
  | none =>
    left
    have hmisused : misused.IsFailed := ⟨by decide, rfl⟩
    exact ⟨misused, by simp [plan, hparse], fun stdin => hmisused.isSound env stdin args⟩
  | some a =>
    by_cases hhelp : a.has .help = true
    · left
      have hasks : a.asks = true := by simp [Arguments.asks, hhelp]
      exact ⟨{ exit := 0, stdout := usage }, by simp [plan, hparse, hhelp],
        Outcome.isSound_of_asks rfl hparse hasks env⟩
    cases hfiles : checkFiles env a with
    | error o =>
      left
      exact ⟨o, by simp [plan, hparse, hhelp, hfiles],
        fun stdin => (checkFiles_isFailed hfiles).isSound env stdin args⟩
    | ok found =>
      cases hanswer : answer? a with
      | some o =>
        left
        refine ⟨o, by simp [plan, hparse, hhelp, hfiles, hanswer], fun stdin => ?_⟩
        rcases answer_cases hanswer with hfailed | ⟨hexit, hasks⟩
        · exact hfailed.isSound env stdin args
        · exact Outcome.isSound_of_asks hexit hparse hasks env stdin
      | none =>
        cases hprepare : prepare env a with
        | error o =>
          left
          exact ⟨o, by simp [plan, hparse, hhelp, hfiles, hanswer, hprepare],
            fun stdin => (prepare_isFailed hprepare).isSound env stdin args⟩
        | ok job =>
          right
          refine ⟨a, job, rfl, hfiles, hprepare, ?_⟩
          simp [plan, hparse, hhelp, hfiles, hanswer, hprepare]

theorem run_isSound (env : Environment) (stdin : Input) (args : List String) :
    (run env stdin args).IsSound env stdin args := by
  rcases plan_cases env args with ⟨o, hplan, hsound⟩ | ⟨a, job, hparse, hfiles, hprepare, hplan⟩
  · simpa [run, hplan] using hsound stdin
  · simpa [run, hplan] using finish_isSound hparse hfiles hprepare stdin

end Command

end Tracepoint
