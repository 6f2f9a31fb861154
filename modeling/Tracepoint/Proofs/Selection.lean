import Mathlib
import Tracepoint.Proofs.Loading
import Tracepoint.Proofs.Outcome
import Tracepoint.Proofs.Overrides

namespace Tracepoint

namespace Command

open Settings

variable {env : Environment} {stdin : Input} {args : List String} {a : Arguments}

/-- What is left to do once no question is to be answered. -/
def attempt (env : Environment) (stdin : Input) (a : Arguments) : Outcome :=
  match prepare env a with
  | .error outcome => outcome
  | .ok job => job.finish (inputAt env stdin (a.files.head?.getD standardInput))

/-- The outcome of arguments for which no settings are needed. -/
def early? (env : Environment) (a : Arguments) : Option Outcome :=
  if a.has .help then some { exit := 0, stdout := usage }
  else match checkFiles env a with
    | .error outcome => some outcome
    | .ok () => answer? a

def respond (env : Environment) (stdin : Input) (a : Arguments) : Outcome :=
  (early? env a).getD (attempt env stdin a)

theorem run_eq (env : Environment) (stdin : Input) (args : List String) :
    run env stdin args = ((parseArguments args).map (respond env stdin)).getD misused := by
  rw [run, plan]
  cases parseArguments args with
  | none => rfl
  | some a =>
    simp only [Option.map_some, Option.getD_some, respond, early?]
    by_cases hhelp : a.has .help = true
    · simp [hhelp]
    · cases checkFiles env a with
      | error outcome => simp [hhelp]
      | ok found =>
        cases answer? a with
        | some outcome => simp [hhelp]
        | none =>
          simp only [hhelp, attempt]
          cases prepare env a <;> rfl

theorem run_of_parse (hparse : parseArguments args = some a) (stdin : Input) :
    run env stdin args = respond env stdin a := by
  rw [run_eq, hparse]
  rfl

/-- An outcome with the code for errors, and nothing printed. -/
def Outcome.IsRefused (o : Outcome) : Prop := o.exit = 1 ∧ o.stdout = ""

theorem failed_isRefused {fault : Fault} (h : fault ≠ .interrupted) (logging : Logging)
    (log : List Record) : (failed logging log fault).IsRefused := by
  cases fault with
  | interrupted => exact absurd rfl h
  | _ => exact ⟨rfl, rfl⟩

/-- Nothing of the preparation waits for the input. -/
theorem prepare_isRefused {o : Outcome} (h : prepare env a = .error o) : o.IsRefused := by
  rcases prepare_error_cases h with ⟨fault, logging, hload, rfl⟩ | ⟨fault, logging, log, hne, rfl⟩
  · refine failed_isRefused (fun hinterrupted => ?_) _ _
    exact uninterrupted_load _ _ _ (hinterrupted ▸ hload)
  · exact failed_isRefused hne _ _

theorem answer_isRefused {o : Outcome} (h : answer? a = some o) (hasks : a.asks = false) :
    o.IsRefused := by
  simp only [Arguments.asks, Bool.or_eq_false_iff] at hasks
  obtain ⟨⟨⟨-, hversion⟩, hcheck⟩, hlist⟩ := hasks
  simp only [answer?, hversion, hcheck, hlist, Bool.false_eq_true, if_false] at h
  split at h
  · exact Option.some.inj h ▸ ⟨rfl, rfl⟩
  · simp at h

/-- Arguments that ask no question and find their files are refused, or there is a job to do. -/
theorem run_cases (hparse : parseArguments args = some a) (hasks : a.asks = false)
    (hfiles : checkFiles env a = .ok ()) (stdin : Input) :
    (run env stdin args).IsRefused ∨ ∃ job, prepare env a = .ok job := by
  have hhelp : a.has .help = false := by
    simp only [Arguments.asks, Bool.or_eq_false_iff] at hasks
    exact hasks.1.1.1
  have hearly : early? env a = answer? a := by simp [early?, hhelp, hfiles]
  rw [run_of_parse hparse, respond, hearly]
  cases hanswer : answer? a with
  | some o => exact .inl (answer_isRefused hanswer hasks)
  | none =>
    simp only [Option.getD_none, attempt]
    cases hprepare : prepare env a with
    | error o => exact .inl (prepare_isRefused hprepare)
    | ok job => exact .inr ⟨job, rfl⟩

/-- The arguments name a backend, by its switch or by the option. -/
def Arguments.Names (a : Arguments) (b : Backend) : Prop :=
  a.has (.backend b) = true ∨ a.value? .backend = some b.name

theorem mem_backends {b : Backend} : b ∈ a.backends ↔ a.has (.backend b) = true := by
  cases b <;> simp [Arguments.backends, Backend.all]

theorem isPlain_backend : IsPlain "backend" := ⟨by cbv, by decide⟩

/-- The option goes into the settings, ahead of the files and the environment. -/
theorem backend_of_option {file : Option String} {s : Settings} {name : String}
    (hload : load env file a.settings = .ok s) (h : a.value? .backend = some name) :
    ∃ b : Backend, s.backend = some b ∧ b.name = name := by
  rw [← overrides_eq] at hload
  obtain ⟨-, sources, hsources, hof⟩ := load_eq_ok.mp hload
  have hlast : Entries.last? "backend" sources.flatten = some (.str name) := by
    rw [readSources_eq] at hsources
    obtain ⟨others, -, rfl⟩ := Except.map_ok_iff.mp hsources
    have hsettled := last?_overrides_backend h
    simp [Entries.last?_append, hsettled]
  have hvalue := get?_toEntries_of_ofEntries hof (by decide : "backend" ∈ keys)
  rw [get?_merge_of_isPlain isPlain_backend, hlast] at hvalue
  cases hb : s.backend with
  | none => simp [toEntries, Entries.get?, hb] at hvalue
  | some b => exact ⟨b, rfl, by simpa [toEntries, Entries.get?, hb] using hvalue⟩

/-- One switch decides, or else the settings, in which the option prevails. -/
structure Decides (a : Arguments) (s : Settings) (b : Backend) : Prop where
  picked : Picks a s b
  option : a.backends = [] → ∀ name, a.value? .backend = some name → b.name = name

theorem decides_of_success (hparse : parseArguments args = some a) (hasks : a.asks = false)
    (hexit : (run env stdin args).exit = 0) :
    ∃ s b, GeneratesFor env stdin a (run env stdin args).stdout s b ∧ Decides a s b := by
  obtain ⟨a', hparse', hgenerates⟩ := (run_isSound env stdin args).generates hexit
  obtain rfl := Option.some.inj (hparse.symm.trans hparse')
  obtain ⟨s, b, hgeneratesFor, hpicks⟩ := hgenerates hasks
  refine ⟨s, b, hgeneratesFor, hpicks, fun hnone name hname => ?_⟩
  obtain ⟨c, hc, rfl⟩ := backend_of_option hgeneratesFor.loaded hname
  rcases hpicks with hone | ⟨-, hset⟩
  · simp [hone] at hnone
  · exact congrArg Backend.name (Option.some.inj (hset.symm.trans hc))

theorem Decides.eq_of_names {s : Settings} {b c : Backend} (h : Decides a s b) (hname : a.Names c)
    (honly : ∀ d, a.Names d → d = c) : b = c := by
  rcases h.picked with hone | ⟨hnone, -⟩
  · exact honly b (.inl (mem_backends.mp (by simp [hone])))
  · rcases hname with hswitch | hoption
    · have hmem := mem_backends.mpr hswitch
      simp [hnone] at hmem
    · exact Backend.name_injective (h.option hnone _ hoption)

/-- The choice is clear: two backends are refused, one that is named is taken, and without a name
the settings decide. -/
structure Outcome.IsUnambiguous (o : Outcome) (env : Environment) (stdin : Input)
    (a : Arguments) : Prop where
  several : ∀ b c, a.Names b → a.Names c → b ≠ c → o.exit = 1 ∧ o.stdout = ""
  one : ∀ b, a.Names b → (∀ c, a.Names c → c = b) → o.exit = 0 →
    ∃ s, GeneratesFor env stdin a o.stdout s b
  none : (∀ b, ¬a.Names b) → o.exit = 0 →
    ∃ s b, s.backend = some b ∧ GeneratesFor env stdin a o.stdout s b

/-- The option names another backend than the one switch, and the run is not refused. -/
def Overlooks (o : Outcome) (a : Arguments) : Prop :=
  ∃ b c : Backend, a.backends = [b] ∧ a.value? .backend = some c.name ∧ b ≠ c ∧ o.exit ≠ 1

/-- Two backends are named by several switches, or by the one switch and the option. -/
theorem several_cases {b c : Backend} (hb : a.Names b) (hc : a.Names c) (hne : b ≠ c) :
    (a.backends ≠ [] ∧ ∀ d, a.backends ≠ [d]) ∨
      ∃ d e : Backend, a.backends = [d] ∧ a.value? .backend = some e.name ∧ d ≠ e := by
  have hswitch : a.has (.backend b) = true ∨ a.has (.backend c) = true := by
    rcases hb, hc with ⟨hb | hb, hc | hc⟩
    · exact .inl hb
    · exact .inl hb
    · exact .inr hc
    · exact absurd (Backend.name_injective (Option.some.inj (hb.symm.trans hc))) hne
  -- With more than one switch on, or with one and another name behind the option.
  by_cases hone : ∃ d, a.backends = [d]
  · right
    obtain ⟨d, hd⟩ := hone
    have honly (e : Backend) (he : a.has (.backend e) = true) : e = d := by
      simpa [hd] using mem_backends.mpr he
    rcases hb, hc with ⟨hb | hb, hc | hc⟩
    · exact absurd ((honly b hb).trans (honly c hc).symm) hne
    · exact ⟨d, c, hd, hc, honly b hb ▸ hne⟩
    · exact ⟨d, b, hd, hb, honly c hc ▸ hne.symm⟩
    · exact absurd (Backend.name_injective (Option.some.inj (hb.symm.trans hc))) hne
  · left
    refine ⟨fun hnone => ?_, fun d hd => hone ⟨d, hd⟩⟩
    rcases hswitch with hb | hc
    · have hmem := mem_backends.mpr hb
      simp [hnone] at hmem
    · have hmem := mem_backends.mpr hc
      simp [hnone] at hmem

theorem run_of_several (hparse : parseArguments args = some a) (hasks : a.asks = false)
    (hfiles : checkFiles env a = .ok ()) (hseveral : a.backends ≠ [])
    (hnot : ∀ b, a.backends ≠ [b]) (stdin : Input) : (run env stdin args).IsRefused := by
  rcases run_cases hparse hasks hfiles stdin with hrefused | ⟨job, hprepare⟩
  · exact hrefused
  · obtain ⟨s, -, hpicks, -⟩ := prepare_eq_ok hprepare
    rcases hpicks with hone | ⟨hnone, -⟩
    · exact absurd hone (hnot _)
    · exact absurd hnone hseveral

/-- A run that succeeds has its backend from the one switch, or else from the settings. Whether the
choice is clear depends on nothing but an option that is overlooked. -/
theorem run_unambiguous_iff (hparse : parseArguments args = some a) (hasks : a.asks = false)
    (hfiles : checkFiles env a = .ok ()) (stdin : Input) :
    ((run env stdin args).exit = 0 →
      ∃ s b, GeneratesFor env stdin a (run env stdin args).stdout s b ∧ Decides a s b) ∧
    ((run env stdin args).IsUnambiguous env stdin a ↔ ¬Overlooks (run env stdin args) a) := by
  refine ⟨decides_of_success hparse hasks, ?_, fun hnot => ⟨?_, ?_, ?_⟩⟩
  · rintro hclear ⟨b, c, hswitch, hoption, hne, hexit⟩
    have hb : a.Names b := .inl (mem_backends.mp (by simp [hswitch]))
    exact hexit (hclear.several b c hb (.inr hoption) hne).1
  · intro b c hb hc hne
    rcases several_cases hb hc hne with ⟨hsome, hseveral⟩ | ⟨d, e, hswitch, hoption, hother⟩
    · exact run_of_several hparse hasks hfiles hsome hseveral stdin
    · have hexit : (run env stdin args).exit = 1 := by
        by_contra hexit
        exact hnot ⟨d, e, hswitch, hoption, hother, hexit⟩
      exact ⟨hexit, (run_isSound env stdin args).stdout_of_ne (by simp [hexit])⟩
  · intro b hb honly hexit
    obtain ⟨s, c, hgenerates, hdecides⟩ := decides_of_success hparse hasks hexit
    exact ⟨s, hdecides.eq_of_names hb honly ▸ hgenerates⟩
  · intro hnone hexit
    obtain ⟨s, b, hgenerates, hdecides⟩ := decides_of_success hparse hasks hexit
    rcases hdecides.picked with hone | ⟨-, hset⟩
    · exact absurd (.inl (mem_backends.mp (by simp [hone]))) (hnone b)
    · exact ⟨s, b, hset, hgenerates⟩

/-- A switch for one backend and the option for another. -/
def twoNames : List String := ["--simple", "--backend", "ust", "-h"]

def twoNamed : Arguments where
  switches := [.backend .simple, .kind .header]
  values := [(.backend, "ust")]

theorem run_unambiguous_iff_twoNames :
    parseArguments twoNames = some twoNamed ∧ twoNamed.asks = false ∧
      checkFiles bare twoNamed = .ok () ∧
      ((run bare (.ofLines []) twoNames).exit = 0 →
        ∃ s b, GeneratesFor bare (.ofLines []) twoNamed (run bare (.ofLines []) twoNames).stdout
          s b ∧ Decides twoNamed s b) ∧
      ((run bare (.ofLines []) twoNames).IsUnambiguous bare (.ofLines []) twoNamed ↔
        ¬Overlooks (run bare (.ofLines []) twoNames) twoNamed) :=
  ⟨rfl, rfl, rfl, run_unambiguous_iff rfl rfl rfl (.ofLines [])⟩

theorem run_not_unambiguous :
    ¬∀ (env : Environment) (stdin : Input) (args : List String) (a : Arguments),
      parseArguments args = some a → a.asks = false → checkFiles env a = .ok () →
      (run env stdin args).IsUnambiguous env stdin a := by
  intro h
  have hclear := h bare (.ofLines []) twoNames twoNamed rfl rfl rfl
  have hexit : (run bare (.ofLines []) twoNames).exit = 0 := by decide +kernel
  have hrefused := hclear.several .simple .ust (.inl (by decide)) (.inr (by decide)) (by decide)
  simp [hexit] at hrefused

end Command

end Tracepoint
