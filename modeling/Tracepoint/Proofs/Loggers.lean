import Tracepoint.Log
import Mathlib.Data.List.Basic
import Mathlib.Tactic.Common

namespace Tracepoint

/-- The switches that one setup is given. -/
structure Switches where
  verbose : Bool
  quiet : Bool

/-- The level that the switches ask for. -/
def Switches.level : Switches → Level
  | ⟨_, true⟩ => .error
  | ⟨true, false⟩ => .debug
  | ⟨false, false⟩ => .warning

namespace Logging

theorem levelFor_eq (s : Switches) : levelFor s.verbose s.quiet = s.level := by
  obtain ⟨verbose, quiet⟩ := s
  cases quiet with
  | true => rfl
  | false => cases verbose <;> rfl

def setupAll (l : Logging) (calls : List Switches) : Logging :=
  calls.foldl (fun l s => l.setup s.verbose s.quiet) l

/-- The state that a setup is to bring about, whatever it finds. -/
structure IsSetUp (l : Logging) (s : Switches) : Prop where
  handlers : l.handlers = 1
  propagates : l.propagates = false
  level : l.level = s.level

theorem setup_isSetUp (l : Logging) (s : Switches) : (l.setup s.verbose s.quiet).IsSetUp s :=
  ⟨rfl, rfl, levelFor_eq s⟩

theorem setupAll_append (l : Logging) (calls calls' : List Switches) :
    l.setupAll (calls ++ calls') = (l.setupAll calls).setupAll calls' := List.foldl_append

/-- Nothing is left of the setups before the last. -/
theorem setupAll_isSetUp (l : Logging) (calls : List Switches) (last : Switches) :
    (l.setupAll (calls ++ [last])).IsSetUp last := by
  rw [setupAll_append]
  exact setup_isSetUp (l.setupAll calls) last

end Logging

/-- What stands in front of each dot, the shortest first. -/
def stems : List Char → List (List Char)
  | [] => []
  | c :: cs => (if c = '.' then [[]] else []) ++ (stems cs).map (c :: ·)

theorem mem_stems {stem name : List Char} :
    stem ∈ stems name ↔ ∃ rest, name = stem ++ '.' :: rest := by
  induction name generalizing stem with
  | nil => simp [stems]
  | cons c cs ih =>
    cases stem with
    | nil => simp [stems]
    | cons d stem =>
      have hempty : d :: stem ∉ (if c = '.' then [[]] else [] : List (List Char)) := by
        split <;> simp
      rw [stems, List.mem_append, or_iff_right hempty]
      simp [ih, and_comm, eq_comm]

/-- A logger and those above it, the nearest first. -/
def lineage (name : String) : List String :=
  name :: ((stems name.toList).map String.ofList).reverse

theorem toList_below (above rest : String) :
    (above ++ "." ++ rest).toList = above.toList ++ '.' :: rest.toList := by
  simp

theorem mem_lineage {name above : String} :
    above ∈ lineage name ↔ name = above ∨ ∃ rest, name = above ++ "." ++ rest := by
  rw [lineage, List.mem_cons, List.mem_reverse, List.mem_map]
  apply or_congr eq_comm
  constructor
  · rintro ⟨stem, hstem, rfl⟩
    obtain ⟨rest, hrest⟩ := mem_stems.mp hstem
    refine ⟨String.ofList rest, String.toList_inj.mp ?_⟩
    simpa [toList_below] using hrest
  · rintro ⟨rest, rfl⟩
    have hstem : above.toList ∈ stems (above ++ "." ++ rest).toList :=
      mem_stems.mpr ⟨rest.toList, toList_below above rest⟩
    exact ⟨above.toList, hstem, String.ofList_toList⟩

example : lineage "tracetool.convert.rows" =
    ["tracetool.convert.rows", "tracetool.convert", "tracetool"] := by
  decide

/-- The level that a logger goes by, where `own` are the levels that loggers have themselves and
`top` is the one that holds above all of them. -/
def levelInForce (own : String → Option Level) (top : Level) (name : String) : Level :=
  ((lineage name).findSome? own).getD top

/-- No logger of the program but the root logger is ever given a level. -/
def Logging.ownLevel (l : Logging) (name : String) : Option Level :=
  if name = rootLogger then some l.level else none

def Logging.levelAt (l : Logging) (top : Level) (name : String) : Level :=
  levelInForce l.ownLevel top name

def IsBelowRoot (name : String) : Prop :=
  name = rootLogger ∨ ∃ rest, name = rootLogger ++ "." ++ rest

theorem isBelowRoot_iff_mem_lineage {name : String} :
    IsBelowRoot name ↔ rootLogger ∈ lineage name := mem_lineage.symm

instance (name : String) : Decidable (IsBelowRoot name) :=
  decidable_of_iff _ isBelowRoot_iff_mem_lineage.symm

namespace Logging

variable {l : Logging} {top : Level} {name : String}

theorem levelAt_of_isBelowRoot (h : IsBelowRoot name) : l.levelAt top name = l.level := by
  have hroot : l.ownLevel rootLogger = some l.level := if_pos rfl
  have hsome : ((lineage name).findSome? l.ownLevel).isSome = true :=
    List.findSome?_isSome_iff.mpr ⟨rootLogger, isBelowRoot_iff_mem_lineage.mp h, by simp [hroot]⟩
  obtain ⟨level, hlevel⟩ := Option.isSome_iff_exists.mp hsome
  obtain ⟨found, -, hfound⟩ := List.exists_of_findSome?_eq_some hlevel
  -- Whichever logger has been found, only one of all has a level.
  have hone : level = l.level := by
    rw [ownLevel] at hfound
    split at hfound
    · exact (Option.some.inj hfound).symm
    · exact absurd hfound (by simp)
  rw [levelAt, levelInForce, hlevel, hone, Option.getD_some]

theorem levelAt_of_not_isBelowRoot (h : ¬IsBelowRoot name) : l.levelAt top name = top := by
  have hnone : (lineage name).findSome? l.ownLevel = none := by
    rw [List.findSome?_eq_none_iff]
    intro above habove
    rw [ownLevel, if_neg]
    rintro rfl
    exact h (isBelowRoot_iff_mem_lineage.mpr habove)
  rw [levelAt, levelInForce, hnone, Option.getD_none]

end Logging

/-- A name that begins with that of the root logger and goes on without a dot. -/
def IsLookalike (name? : Option String) : Prop :=
  ∃ c rest, c ≠ '.' ∧ name? = some (rootLogger ++ String.ofList (c :: rest))

theorem isPrefixOf_rootLogger_iff {name : String} :
    rootLogger.isPrefixOf name = true ↔ ∃ rest, name = rootLogger ++ String.ofList rest := by
  rw [String.isPrefixOf, String.startsWith_string_iff]
  constructor
  · rintro ⟨rest, hrest⟩
    refine ⟨rest, String.toList_inj.mp ?_⟩
    rw [← hrest, String.toList_append, String.toList_ofList]
  · rintro ⟨rest, rfl⟩
    rw [String.toList_append]
    exact List.prefix_append _ _

theorem loggerName_append (rest : List Char) :
    loggerName (some (rootLogger ++ String.ofList rest)) = rootLogger ++ String.ofList rest := by
  rw [loggerName, if_pos (isPrefixOf_rootLogger_iff.mpr ⟨rest, rfl⟩)]

theorem isBelowRoot_append_cons_iff {c : Char} {rest : List Char} :
    IsBelowRoot (rootLogger ++ String.ofList (c :: rest)) ↔ c = '.' := by
  constructor
  · rintro (h | ⟨rest', h⟩)
    · simpa using congrArg String.toList h
    · have hlist := congrArg String.toList h
      rw [toList_below, String.toList_append, String.toList_ofList] at hlist
      exact (List.cons.inj (List.append_cancel_left hlist)).1
  · rintro rfl
    refine .inr ⟨String.ofList rest, String.toList_inj.mp ?_⟩
    rw [toList_below, String.toList_append, String.toList_ofList, String.toList_ofList]

/-- Whatever name is asked for, the logger is below the root logger unless the name is one of the
lookalikes, which are taken as they stand. -/
theorem isBelowRoot_loggerName_iff {name? : Option String} :
    IsBelowRoot (loggerName name?) ↔ ¬IsLookalike name? := by
  constructor
  · rintro hbelow ⟨c, rest, hc, rfl⟩
    rw [loggerName_append, isBelowRoot_append_cons_iff] at hbelow
    exact hc hbelow
  · intro hnot
    cases name? with
    | none => exact .inl rfl
    | some name =>
      by_cases hbegins : rootLogger.isPrefixOf name = true
      · obtain ⟨rest, rfl⟩ := isPrefixOf_rootLogger_iff.mp hbegins
        rw [loggerName_append]
        cases rest with
        | nil => exact .inl String.append_empty
        | cons c rest =>
          rw [isBelowRoot_append_cons_iff]
          by_contra hc
          exact hnot ⟨c, rest, hc, rfl⟩
      · rw [loggerName, if_neg hbegins]
        exact .inr ⟨name, rfl⟩

/-- All that a setup is to bring about where a logger is asked for. -/
structure Logging.Governs (l : Logging) (s : Switches) (top : Level) (name? : Option String) :
    Prop where
  isSetUp : l.IsSetUp s
  below : IsBelowRoot (loggerName name?)
  level : l.levelAt top (loggerName name?) = s.level

/-- However often the logging has been set up before, the last setup is the one that holds for the
root logger and for all loggers but the lookalikes. Those go by the level above all loggers. -/
theorem setupAll_governs_iff (l : Logging) (calls : List Switches) (last : Switches) (top : Level) :
    (l.setupAll (calls ++ [last])).IsSetUp last ∧
      ∀ name?, ((l.setupAll (calls ++ [last])).Governs last top name? ↔ ¬IsLookalike name?) ∧
        (IsLookalike name? →
          (l.setupAll (calls ++ [last])).levelAt top (loggerName name?) = top) := by
  have hset := l.setupAll_isSetUp calls last
  refine ⟨hset, fun name? => ⟨⟨fun h => isBelowRoot_loggerName_iff.mp h.below, fun hnot => ?_⟩,
    fun hlook => ?_⟩⟩
  · have hbelow := isBelowRoot_loggerName_iff.mpr hnot
    have hlevel : (l.setupAll (calls ++ [last])).levelAt top (loggerName name?) =
        (l.setupAll (calls ++ [last])).level := Logging.levelAt_of_isBelowRoot hbelow
    exact ⟨hset, hbelow, hlevel.trans hset.level⟩
  · have hnot : ¬IsBelowRoot (loggerName name?) := fun hbelow =>
      isBelowRoot_loggerName_iff.mp hbelow hlook
    exact Logging.levelAt_of_not_isBelowRoot hnot

/-- The logger of a toolbox is none of the program's. -/
theorem setupAll_not_governs :
    ¬∀ (l : Logging) (calls : List Switches) (last : Switches) (top : Level)
      (name? : Option String), (l.setupAll (calls ++ [last])).Governs last top name? := by
  intro h
  have hgoverns := h Logging.initial [] ⟨false, true⟩ .warning (some "tracetoolbox")
  have hbelow := hgoverns.below
  have hname : loggerName (some "tracetoolbox") = "tracetoolbox" := loggerName_append "box".toList
  rw [hname] at hbelow
  exact absurd hbelow (by decide)

end Tracepoint
