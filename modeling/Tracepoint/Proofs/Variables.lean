import Tracepoint.Proofs.Probes

namespace Tracepoint

namespace Probe

open Text

/-- The line assigns the argument with the number to the variable with the name. -/
def Assigns (name : String) (n : Nat) (line : String) : Prop := line = s!"  {name} = $arg{n};"

/-- The two lines do not assign to one variable. -/
def Apart (line line' : String) : Prop :=
  ∀ name n n', Assigns name n line → ¬Assigns name n' line'

/-- Behind the lines the variable holds the argument with the number: a line assigns that one to it,
and no later line another. -/
inductive Holds (name : String) (n : Nat) : List String → Prop
  | here {line : String} {lines : List String} (h : Assigns name n line)
      (hlast : ∀ line' ∈ lines, ∀ n', ¬Assigns name n' line') : Holds name n (line :: lines)
  | later (line : String) {lines : List String} (h : Holds name n lines) :
      Holds name n (line :: lines)

variable {name name' line : String} {n n' : Nat} {lines : List String}

theorem Assigns.toList_eq (h : Assigns name n line) :
    line.toList = [' ', ' '] ++ (name.toList ++ [' ', '=', ' ']) ++
      '$' :: (['a', 'r', 'g'] ++ Nat.toDigits 10 n ++ [';']) := by
  subst h
  simp [ToString.toString]

theorem dollar_notMem_toDigits (n : Nat) : '$' ∉ Nat.toDigits 10 n := by
  intro h
  have hdigit : '$'.isDigit = true := Nat.isDigit_of_mem_toDigits (by decide) (by decide) h
  exact absurd hdigit (by decide)

/-- The variable stands in front of the last dollar of a line, and the number behind it. -/
theorem Assigns.unique (h : Assigns name n line) (h' : Assigns name' n' line) :
    name = name' ∧ n = n' := by
  have hdollar (m : Nat) : '$' ∉ ['a', 'r', 'g'] ++ Nat.toDigits 10 m ++ [';'] := by
    simp [dollar_notMem_toDigits m]
  have hlines := h.toList_eq.symm.trans h'.toList_eq
  have hfront := congrArg (beforeLast '$') hlines
  rw [beforeLast_append_cons _ (hdollar n), beforeLast_append_cons _ (hdollar n')] at hfront
  rw [hfront] at hlines
  have hname : name.toList = name'.toList := by simpa using hfront
  have hdigits : Nat.toDigits 10 n = Nat.toDigits 10 n' := by simpa using hlines
  exact ⟨String.toList_inj.mp hname, Nat.repr_inj.mp (congrArg String.ofList hdigits)⟩

/-- A line that does not begin with a blank assigns nothing. -/
theorem not_assigns_of_head (h : line.toList.head? ≠ some ' ') : ¬Assigns name n line := by
  intro hassigns
  rw [hassigns.toList_eq] at h
  exact h rfl

theorem bindings_cons (position : Nat) (arg : String) (args : List String) :
    ∃ line, Assigns (variableName arg) position line ∧
      bindings position (arg :: args) = line :: bindings (position + 1) args :=
  ⟨_, rfl, rfl⟩

theorem exists_mem_bindings_iff (position : Nat) (args : List String) :
    (∃ line ∈ bindings position args, ∃ n, Assigns name n line) ↔
      name ∈ args.map variableName := by
  induction args generalizing position with
  | nil => simp [bindings]
  | cons arg args ih =>
    obtain ⟨line, hline, hbindings⟩ := bindings_cons position arg args
    have hfirst : (∃ n, Assigns name n line) ↔ name = variableName arg := by
      constructor
      · rintro ⟨n, hassigns⟩
        exact (hassigns.unique hline).1
      · rintro rfl
        exact ⟨position, hline⟩
    rw [hbindings, List.exists_mem_cons_iff, ih, hfirst, List.map_cons, List.mem_cons]

theorem le_of_mem_bindings {position : Nat} {args : List String}
    (h : line ∈ bindings position args) (hline : Assigns name n line) : position ≤ n := by
  induction args generalizing position with
  | nil => cases h
  | cons arg args ih =>
    obtain ⟨first, hfirst, hbindings⟩ := bindings_cons position arg args
    rw [hbindings, List.mem_cons] at h
    rcases h with rfl | h
    · exact (hline.unique hfirst).2.ge
    · exact Nat.le_of_succ_le (ih h)

theorem Holds.exists_assigns (h : Holds name n lines) : ∃ line ∈ lines, Assigns name n line := by
  induction h with
  | here h hlast => exact ⟨_, List.mem_cons_self, h⟩
  | later line _ ih =>
    obtain ⟨line', hmem, hassigns⟩ := ih
    exact ⟨line', List.mem_cons_of_mem line hmem, hassigns⟩

/-- No two lines assign to one variable if no two arguments have one. -/
theorem pairwise_bindings_iff (position : Nat) (args : List String) :
    (bindings position args).Pairwise Apart ↔ (args.map variableName).Nodup := by
  induction args generalizing position with
  | nil => simp [bindings]
  | cons arg args ih =>
    obtain ⟨line, hline, hbindings⟩ := bindings_cons position arg args
    have hfirst : (∀ line' ∈ bindings (position + 1) args, Apart line line') ↔
        variableName arg ∉ args.map variableName := by
      rw [← exists_mem_bindings_iff (position + 1)]
      constructor
      · rintro h ⟨line', hmem, n, hassigns⟩
        exact h line' hmem _ _ n hline hassigns
      · intro h line' hmem name n n' hassigns hassigns'
        obtain ⟨rfl, -⟩ := hassigns.unique hline
        exact h ⟨line', hmem, n', hassigns'⟩
    rw [hbindings, List.pairwise_cons, hfirst, ih, List.map_cons, List.nodup_cons]

/-- Every argument can be read behind the lines if no two have one variable. -/
theorem holds_bindings_iff (position : Nat) (args : List String) :
    (∀ i arg, args[i]? = some arg →
      Holds (variableName arg) (position + i) (bindings position args)) ↔
      (args.map variableName).Nodup := by
  induction args generalizing position with
  | nil => simp
  | cons arg args ih =>
    obtain ⟨line, hline, hbindings⟩ := bindings_cons position arg args
    rw [hbindings, List.map_cons, List.nodup_cons, ← ih (position + 1),
      ← exists_mem_bindings_iff (position + 1)]
    constructor
    · intro h
      constructor
      · rintro ⟨line', hmem, n, hassigns⟩
        -- The first argument is read from the first line: later ones have later numbers.
        cases h 0 arg rfl with
        | here _ hlast => exact hlast line' hmem n hassigns
        | later _ hlater =>
          obtain ⟨line'', hmem', hassigns'⟩ := hlater.exists_assigns
          exact absurd (le_of_mem_bindings hmem' hassigns') (by omega)
      · intro i arg' hi
        have hnumber : position + (i + 1) = position + 1 + i := by omega
        have hargs := h (i + 1) arg' hi
        rw [hnumber] at hargs
        cases hargs with
        | here hassigns _ => exact absurd (hassigns.unique hline).2 (by omega)
        | later _ hlater => exact hlater
    · rintro ⟨hfirst, hlater⟩ i arg' hi
      cases i with
      | zero =>
        obtain rfl : arg = arg' := by simpa using hi
        exact .here hline fun line' hmem n' hassigns => hfirst ⟨line', hmem, n', hassigns⟩
      | succ i =>
        have hnumber : position + (i + 1) = position + 1 + i := by omega
        rw [hnumber]
        exact .later _ (hlater i arg' hi)

def AssignsNothing (line : String) : Prop := ∀ name n, ¬Assigns name n line

theorem pairwise_append_iff {front back : List String}
    (hfront : ∀ line ∈ front, AssignsNothing line) (hback : ∀ line ∈ back, AssignsNothing line) :
    (front ++ lines ++ back).Pairwise Apart ↔ lines.Pairwise Apart := by
  have hapart {line line' : String} (h : AssignsNothing line ∨ AssignsNothing line') :
      Apart line line' := by
    intro name n n' hassigns hassigns'
    rcases h with h | h
    · exact h name n hassigns
    · exact h name n' hassigns'
  rw [List.append_assoc, List.pairwise_append, List.pairwise_append]
  constructor
  · exact fun h => h.2.1.1
  · intro h
    refine ⟨?_, ⟨h, ?_, ?_⟩, ?_⟩
    · exact List.pairwise_of_forall_mem_list fun line hline _ _ => hapart (.inl (hfront line hline))
    · exact List.pairwise_of_forall_mem_list fun line hline _ _ => hapart (.inl (hback line hline))
    · exact fun _ _ line hline => hapart (.inr (hback line hline))
    · exact fun line hline _ _ => hapart (.inl (hfront line hline))

theorem holds_append_left_iff {front : List String} (hfront : ∀ line ∈ front, AssignsNothing line) :
    Holds name n (front ++ lines) ↔ Holds name n lines := by
  induction front with
  | nil => rfl
  | cons line front ih =>
    rw [List.forall_mem_cons] at hfront
    rw [List.cons_append, ← ih hfront.2]
    constructor
    · intro h
      cases h with
      | here hassigns _ => exact absurd hassigns (hfront.1 name n)
      | later _ h => exact h
    · exact .later line

theorem holds_append_right_iff {back : List String} (hback : ∀ line ∈ back, AssignsNothing line) :
    Holds name n (lines ++ back) ↔ Holds name n lines := by
  constructor
  · intro h
    induction lines with
    | nil =>
      obtain ⟨line, hline, hassigns⟩ := h.exists_assigns
      exact absurd hassigns (hback line hline name n)
    | cons line lines ih =>
      cases h with
      | here hassigns hlast =>
        exact .here hassigns fun line' hmem => hlast line' (List.mem_append_left _ hmem)
      | later _ h => exact .later line (ih h)
  · intro h
    induction h with
    | here hassigns hlast =>
      refine .here hassigns fun line' hmem n' => ?_
      rcases List.mem_append.mp hmem with hmem | hmem
      · exact hlast line' hmem n'
      · exact hback line' hmem name n'
    | later line _ ih => exact .later line ih

theorem variableName_ne_limit (arg : String) : variableName arg ≠ "limit" := by
  rw [variableName]
  split
  · decide
  · assumption

/-- The renaming brings two arguments to one variable if they are called so already. -/
theorem variableName_eq_iff {arg arg' : String} :
    variableName arg = variableName arg' ↔
      arg = arg' ∨ arg = "limit" ∧ arg' = "_limit" ∨ arg = "_limit" ∧ arg' = "limit" := by
  rw [variableName, variableName]
  split <;> split <;> simp_all [eq_comm]

theorem nodup_variableName_iff {args : List String} (h : args.Nodup) :
    (args.map variableName).Nodup ↔ ¬("limit" ∈ args ∧ "_limit" ∈ args) := by
  rw [List.nodup_map_iff_inj_on h]
  constructor
  · rintro hinj ⟨hlimit, hother⟩
    exact absurd (hinj _ hlimit _ hother (by decide)) (by decide)
  · intro hnot arg harg arg' harg' hname
    rcases variableName_eq_iff.mp hname with rfl | ⟨rfl, rfl⟩ | ⟨rfl, rfl⟩
    · rfl
    · exact absurd ⟨harg, harg'⟩ hnot
    · exact absurd ⟨harg', harg⟩ hnot

/-- Around the assignments there are lines that assign nothing. -/
theorem exists_fragment_eq (ctx : Context) (e : Event) :
    ∃ front back, tapset.fragment ctx e = front ++ bindings 1 e.argNames ++ back ∧
      (∀ line ∈ front, AssignsNothing line) ∧ ∀ line ∈ back, AssignsNothing line := by
  let place := ctx.probePrefix.text
  let binary := ctx.binary.text
  refine ⟨[s!"probe {place}.{e.name} = process(\"{binary}\").mark(\"{e.name}\")", "\x7b"], ["\x7d"],
    rfl, ?_, ?_⟩
  · intro line hline name n
    apply not_assigns_of_head
    rcases List.mem_pair.mp hline with rfl | rfl
    · simp [ToString.toString]
    · decide
  · intro line hline name n
    apply not_assigns_of_head
    rw [List.mem_singleton.mp hline]
    decide

/-- Behind a block of a probe whose arguments have different names, no variable has been assigned to
twice, and every argument can be read, if and only if the new name of `limit` is not the name of
another argument. The keyword itself is never assigned to. -/
theorem variables_apart_iff {e : Event} (h : e.argNames.Nodup) (ctx : Context) :
    let lines := tapset.fragment ctx e
    let clash := "limit" ∈ e.argNames ∧ "_limit" ∈ e.argNames
    (lines.Pairwise Apart ↔ ¬clash) ∧
      ((∀ i arg, e.argNames[i]? = some arg → Holds (variableName arg) (i + 1) lines) ↔ ¬clash) ∧
      ∀ line ∈ lines, ∀ n, ¬Assigns "limit" n line := by
  obtain ⟨front, back, hlines, hfront, hback⟩ := exists_fragment_eq ctx e
  have hnodup := nodup_variableName_iff h
  simp only [hlines]
  refine ⟨?_, ?_, ?_⟩
  · rw [pairwise_append_iff hfront hback, pairwise_bindings_iff, hnodup]
  · simp only [holds_append_right_iff hback, holds_append_left_iff hfront]
    rw [← hnodup, ← holds_bindings_iff 1]
    simp only [Nat.add_comm 1]
  · intro line hline n hassigns
    rcases List.mem_append.mp hline with hline | hline
    · rcases List.mem_append.mp hline with hline | hline
      · exact hfront line hline _ _ hassigns
      · obtain ⟨arg, -, harg⟩ := List.mem_map.mp
          ((exists_mem_bindings_iff 1 e.argNames).mp ⟨line, hline, n, hassigns⟩)
        exact variableName_ne_limit arg harg
    · exact hback line hline _ _ hassigns

/-- An argument named by the keyword next to another one. -/
def limitEvent : Event := Event.parse "set_limit(int limit, int soft_limit) \"%d %d\""

theorem variables_apart_iff_limitEvent :
    limitEvent.argNames.Nodup ∧
      let lines := tapset.fragment probeContext limitEvent
      let clash := "limit" ∈ limitEvent.argNames ∧ "_limit" ∈ limitEvent.argNames
      (lines.Pairwise Apart ↔ ¬clash) ∧
        ((∀ i arg, limitEvent.argNames[i]? = some arg → Holds (variableName arg) (i + 1) lines) ↔
          ¬clash) ∧
        ∀ line ∈ lines, ∀ n, ¬Assigns "limit" n line := by
  have hargs : limitEvent.argNames = ["limit", "soft_limit"] := by decide +kernel
  have hnodup : limitEvent.argNames.Nodup := by simp [hargs]
  exact ⟨hnodup, variables_apart_iff hnodup probeContext⟩

/-- Here the new name is taken, and both arguments are assigned to it. -/
def takenEvent : Event := Event.parse "f(int limit, int _limit) \"%d %d\""

theorem not_variables_apart :
    ¬∀ (ctx : Context) (e : Event), e.argNames.Nodup →
      (tapset.fragment ctx e).Pairwise Apart := by
  intro hapart
  have hargs : takenEvent.argNames = ["limit", "_limit"] := by decide +kernel
  have hnodup : takenEvent.argNames.Nodup := by simp [hargs]
  obtain ⟨front, back, hlines, hfront, hback⟩ := exists_fragment_eq probeContext takenEvent
  have hpairwise := hapart probeContext takenEvent hnodup
  rw [hlines, pairwise_append_iff hfront hback, pairwise_bindings_iff, hargs] at hpairwise
  exact absurd hpairwise (by decide)

end Probe

end Tracepoint
