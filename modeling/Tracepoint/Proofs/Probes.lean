import Mathlib
import Tracepoint.Proofs.Stepwise

namespace Tracepoint

namespace Probe

def declaration (e : Event) : String :=
  let parameters := if e.args = "void" then "" else e.args
  s!"        probe {e.name}({parameters});"

def assignment (arg : String) (n : Nat) : String :=
  let name := if arg = "limit" then "_limit" else arg
  s!"  {name} = $arg{n};"

/-- Arguments are numbered from one on. -/
def block (place binary : String) (e : Event) : List String :=
  [s!"probe {place}.{e.name} = process(\"{binary}\").mark(\"{e.name}\")", "\x7b"] ++
    (e.argNames.zipIdx 1).map (fun p => assignment p.1 p.2) ++ ["\x7d"]

theorem bindings_eq (n : Nat) (args : List String) :
    bindings n args = (args.zipIdx n).map fun p => assignment p.1 p.2 := by
  induction args generalizing n with
  | nil => rfl
  | cons arg args ih =>
    rw [bindings, ih, List.zipIdx_cons, List.map_cons]
    rfl

theorem length_block (place binary : String) (e : Event) :
    (block place binary e).length = e.argCount + 3 := by
  simp [block, Event.argCount]

theorem getElem?_block (place binary : String) {e : Event} {i : Nat} {arg : String}
    (h : e.argNames[i]? = some arg) :
    (block place binary e)[i + 2]? = some (assignment arg (i + 1)) := by
  obtain ⟨hi, harg⟩ := List.getElem?_eq_some_iff.mp h
  simp [block, List.getElem?_append, hi, harg, Nat.add_comm 1]

end Probe

namespace Header

/-- The macro that fires a probe has the names of provider and event in capitals. -/
def firingName (provider : String) (e : Event) : String :=
  let provider := upper provider
  let event := upper e.name
  s!"{provider}_{event}"

/-- The function fires the probe if it is switched on. -/
def guardedFunction (provider : String) (e : Event) : List String :=
  let fire := firingName provider e
  let args := ", ".intercalate e.argNames
  [functionHead e.name e.args ++ " \x7b", s!"    if ({fire}_ENABLED()) \x7b",
    s!"        {fire}({args});", "    \x7d", "\x7d"]

end Header

/-- Some line begins with the mark of a probe. -/
def marks (mark : String) (stretch : List String) : Bool :=
  stretch.any fun line => mark.toList.isPrefixOf line.toList

def stretch (off on : Event → List String) (e : Event) : List String :=
  if e.disabled then off e else on e

/-- A file that gives every event a stretch of lines between empty ones, `on` for the events that
are not switched off. These stretches are all that have a line with the mark of a probe. -/
structure ListsProbes (lines text : List String) (mark : String) (opening closing : List String)
    (off on : Event → List String) : Prop where
  stretches : text.splitOn "" =
    opening :: (readEvents lines).map (stretch off on) ++ [closing]
  probes : (text.splitOn "").filter (marks mark) = (enabledEvents lines).map on

/-- The stretches that a file is to be made of can be told from each other. -/
structure Distinguishes (mark : String) (opening closing : List String)
    (off on : Event → List String) : Prop where
  opening : "" ∉ opening ∧ marks mark opening = false
  closing : "" ∉ closing ∧ marks mark closing = false
  off : ∀ e, "" ∉ off e ∧ marks mark (off e) = false
  on : ∀ e, "" ∉ on e ∧ marks mark (on e) = true

/-- Empty lines show where a stretch ends if there are none within it. -/
theorem splitOn_stretches {opening closing : List String} {f : Event → List String}
    (hopening : "" ∉ opening) (hclosing : "" ∉ closing) (hf : ∀ e, "" ∉ f e) (es : List Event) :
    (opening ++ (es.flatMap fun e => "" :: f e) ++ "" :: closing).splitOn "" =
      opening :: es.map f ++ [closing] := by
  have htext : opening ++ (es.flatMap fun e => "" :: f e) ++ "" :: closing =
      [""].intercalate (opening :: es.map f ++ [closing]) := by
    rw [List.cons_append, intercalate_empty]
    simp [List.flatMap_map]
  rw [htext]
  apply List.splitOn_intercalate
  · intro lines hlines
    simp only [List.cons_append, List.mem_cons, List.mem_append, List.mem_map, List.not_mem_nil,
      or_false] at hlines
    rcases hlines with rfl | ⟨e, -, rfl⟩ | rfl
    · exact hopening
    · exact hf e
    · exact hclosing
  · simp

namespace Distinguishes

variable {mark : String} {opening closing : List String} {off on : Event → List String}

theorem empty_notMem_stretch (h : Distinguishes mark opening closing off on) (e : Event) :
    "" ∉ stretch off on e := by
  rw [stretch]
  split
  · exact (h.off e).1
  · exact (h.on e).1

theorem marks_stretch (h : Distinguishes mark opening closing off on) (e : Event) :
    marks mark (stretch off on e) = !e.disabled := by
  cases he : e.disabled with
  | true => simpa [stretch, he] using (h.off e).2
  | false => simpa [stretch, he] using (h.on e).2

theorem filter_stretches (h : Distinguishes mark opening closing off on) (lines : List String) :
    ((readEvents lines).map (stretch off on)).filter (marks mark) =
      (enabledEvents lines).map on := by
  have hmarks : (readEvents lines).filter (marks mark ∘ stretch off on) = enabledEvents lines :=
    List.filter_congr fun e _ => h.marks_stretch e
  rw [List.filter_map, hmarks]
  apply List.map_congr_left
  intro e he
  have hd : e.disabled = false := by simpa using (List.mem_filter.mp he).2
  simp [stretch, hd]

theorem listsProbes (h : Distinguishes mark opening closing off on) (lines : List String) :
    ListsProbes lines
      (opening ++ ((readEvents lines).flatMap fun e => "" :: stretch off on e) ++ "" :: closing)
      mark opening closing off on := by
  have hsplit := splitOn_stretches h.opening.1 h.closing.1 h.empty_notMem_stretch (readEvents lines)
  refine ⟨hsplit, ?_⟩
  rw [hsplit, List.filter_append, List.filter_cons_of_neg (by simp [h.opening.2]),
    h.filter_stretches, List.filter_cons_of_neg (by simp [h.closing.2]), List.filter_nil,
    List.append_nil]

end Distinguishes

/-- What the lines begin with. -/
def heads (stretch : List String) : List (Option Char) :=
  stretch.map fun line => line.toList.head?

theorem empty_notMem_of_heads {stretch : List String} (h : none ∉ heads stretch) :
    "" ∉ stretch :=
  fun hm => h (List.mem_map.mpr ⟨"", hm, rfl⟩)

theorem marks_of_heads {mark : String} {c : Char} (hmark : mark.toList.head? = some c)
    {stretch : List String} (h : some c ∉ heads stretch) : marks mark stretch = false := by
  rw [marks, List.any_eq_false]
  intro line hline hbegins
  apply h
  obtain ⟨rest, hrest⟩ := List.isPrefixOf_iff_prefix.mp hbegins
  refine List.mem_map.mpr ⟨line, hline, ?_⟩
  rw [← hrest, List.head?_append, hmark]
  rfl

theorem head?_append {a : String} {c : Char} (h : a.toList.head? = some c) (b : String) :
    (a ++ b).toList.head? = some c := by
  rw [String.toList_append, List.head?_append, h]
  rfl

theorem isPrefixOf_self (mark : String) : mark.toList.isPrefixOf mark.toList = true :=
  List.isPrefixOf_iff_prefix.mpr (List.prefix_refl _)

theorem isPrefixOf_append {mark a : String} (h : mark.toList.isPrefixOf a.toList = true)
    (b : String) : mark.toList.isPrefixOf (a ++ b).toList = true := by
  rw [String.toList_append]
  exact List.isPrefixOf_iff_prefix.mpr
    ((List.isPrefixOf_iff_prefix.mp h).trans (List.prefix_append _ _))

theorem Probe.heads_opening (provider : String) :
    heads [s!"provider {provider} \x7b"] = [some 'p'] := by
  simp [heads, ToString.toString]

theorem Probe.heads_declaration (e : Event) : heads [declaration e] = [some ' '] := by
  have hline : (declaration e).toList.head? = some ' ' :=
    head?_append (head?_append (head?_append (head?_append rfl _) _) _) _
  simp only [heads, List.map_cons, List.map_nil, hline]

theorem Probe.marks_declaration (e : Event) : marks "        probe " [declaration e] = true := by
  have hline : "        probe ".toList.isPrefixOf (declaration e).toList = true :=
    isPrefixOf_append (isPrefixOf_append (isPrefixOf_append
      (isPrefixOf_append (isPrefixOf_self _) _) _) _) _
  simp only [marks, List.any_cons, hline, Bool.true_or]

theorem Probe.heads_block (place binary : String) (e : Event) :
    heads (block place binary e) =
      [some 'p', some '\x7b'] ++ List.replicate e.argCount (some ' ') ++ [some '\x7d'] := by
  have hassignment (p : String × Nat) : (assignment p.1 p.2).toList.head? = some ' ' := by
    simp [assignment, ToString.toString]
  simp [heads, block, ToString.toString, Function.comp_def, hassignment, Event.argCount]

theorem Probe.marks_block (place binary : String) (e : Event) :
    marks "probe " (block place binary e) = true := by
  simp [marks, block, ToString.toString]

theorem Header.head?_functionHead (name args : String) :
    (functionHead name args).toList.head? = some 's' :=
  head?_append (head?_append (head?_append (head?_append rfl _) _) _) _

theorem Header.heads_idleFunction (e : Event) :
    heads (idleFunction e) = [some 's', some '\x7b', some '\x7d'] := by
  have hopen : "\x7b".toList.head? = some '\x7b' := rfl
  have hclose : "\x7d".toList.head? = some '\x7d' := rfl
  simp only [heads, idleFunction, List.map_cons, List.map_nil, head?_functionHead, hopen, hclose]

theorem Header.heads_guardedFunction (provider : String) (e : Event) :
    heads (guardedFunction provider e) =
      [some 's', some ' ', some ' ', some ' ', some '\x7d'] := by
  have hhead := head?_append (head?_functionHead e.name e.args) " \x7b"
  have hguard (fire : String) : s!"    if ({fire}_ENABLED()) \x7b".toList.head? = some ' ' :=
    head?_append (head?_append rfl _) _
  have hfire (fire args : String) : s!"        {fire}({args});".toList.head? = some ' ' :=
    head?_append (head?_append (head?_append (head?_append rfl _) _) _) _
  have hclose : "    \x7d".toList.head? = some ' ' := rfl
  have hend : "\x7d".toList.head? = some '\x7d' := rfl
  simp only [heads, guardedFunction, List.map_cons, List.map_nil, hhead, hguard, hfire, hclose,
    hend]

theorem Header.marks_guardedFunction (provider : String) (e : Event) :
    marks "    if (" (guardedFunction provider e) = true := by
  have hguard (fire : String) :
      "    if (".toList.isPrefixOf s!"    if ({fire}_ENABLED()) \x7b".toList = true :=
    isPrefixOf_append (isPrefixOf_append (isPrefixOf_self _) _) _
  simp only [marks, guardedFunction, List.any_cons, hguard, Bool.true_or, Bool.or_true]

theorem Probe.descriptor_distinguishes (provider : String) :
    Distinguishes "        probe " [s!"provider {provider} \x7b"] ["\x7d;"] (fun _ => [])
      (fun e => [declaration e]) where
  opening := by
    have h := heads_opening provider
    exact ⟨empty_notMem_of_heads (by simp [h]), marks_of_heads (c := ' ') rfl (by simp [h])⟩
  closing := ⟨by decide, by decide⟩
  off e := ⟨by simp, rfl⟩
  on e := ⟨empty_notMem_of_heads (by simp [heads_declaration]), marks_declaration e⟩

theorem Probe.tapset_distinguishes (place binary : String) :
    Distinguishes "probe " [] [] (fun _ => []) (block place binary) where
  opening := ⟨by simp, rfl⟩
  closing := ⟨by simp, rfl⟩
  off e := ⟨by simp, rfl⟩
  on e := ⟨empty_notMem_of_heads (by simp [heads_block]), marks_block place binary e⟩

theorem Header.dtrace_distinguishes (provider : String) :
    Distinguishes "    if (" ["#include \"trace-dtrace.h\""] [] idleFunction
      (guardedFunction provider) where
  opening := ⟨by decide, by decide⟩
  closing := ⟨by simp, rfl⟩
  off e := by
    have h := heads_idleFunction e
    exact ⟨empty_notMem_of_heads (by simp [h]), marks_of_heads (c := ' ') rfl (by simp [h])⟩
  on e :=
    ⟨empty_notMem_of_heads (by simp [heads_guardedFunction]), marks_guardedFunction provider e⟩

/-- A template of which every event has the same fragment in any context of a pass. -/
theorem exists_convert_listsProbes {k : Kind} {t : Template} {ctx : Context} {mark : String}
    {opening closing : List String} {off on : Event → List String}
    (ht : Backend.dtrace.template k = .ok t) (hstarts : t.Starts ctx)
    (hstill : t.IsStill) (ho : t.obstacle? (t.begun ctx) = none)
    (hopening : t.opening (t.begun ctx) = opening) (hclosing : ∀ c, t.closing c = closing)
    (hoff : (Template.off k).fragment (t.begun ctx) = off)
    (hon : t.fragment (t.begun ctx) = on) (h : Distinguishes mark opening closing off on)
    (lines : List String) :
    ∃ text, (convert .dtrace k ctx (.ofLines lines)).result = .ok text ∧
      ListsProbes lines text mark opening closing off on := by
  refine ⟨_, ?_, h.listsProbes lines⟩
  simp only [convert_ofLines ht hstarts lines (.inl ho), hopening, hclosing, Template.body,
    Template.fragments_of_isStill hstill (Template.off_isStill k), hoff, hon, List.flatMap_map,
    stretch]

/-- What the three files for DTrace have in common. -/
structure ProbesAgree (ctx : Context) (provider binary place : String) (lines : List String) :
    Prop where
  descriptor : ∃ text, (convert .dtrace .descriptor ctx (.ofLines lines)).result = .ok text ∧
    ListsProbes lines text "        probe " [s!"provider {provider} \x7b"] ["\x7d;"] (fun _ => [])
      (fun e => [Probe.declaration e])
  tapset : ∃ text, (convert .dtrace .tapset ctx (.ofLines lines)).result = .ok text ∧
    ListsProbes lines text "probe " [] [] (fun _ => []) (Probe.block place binary)
  header : ∃ text, (convert .dtrace .header ctx (.ofLines lines)).result = .ok text ∧
    ListsProbes lines text "    if (" ["#include \"trace-dtrace.h\""] [] Header.idleFunction
      (Header.guardedFunction provider)
  length_block : ∀ e, (Probe.block place binary e).length = e.argCount + 3
  assigned : ∀ (e : Event) (i : Nat) (arg : String), e.argNames[i]? = some arg →
    (Probe.block place binary e)[i + 2]? = some (Probe.assignment arg (i + 1))

theorem Header.fragment_dtrace {ctx : Context} {provider : String}
    (h : ctx.provider = .str provider) :
    dtrace.fragment ctx = guardedFunction provider := by
  funext e
  have hname : probeMacro ctx e = firingName provider e := by
    simp only [probeMacro, firingName, h, Value.text]
  simp only [dtrace, guardedFunction, hname, signature_eq, Event.callArgs]

theorem Probe.fragment_tapset {ctx : Context} {place binary : String}
    (hbinary : ctx.binary = .str binary) (hplace : ctx.probePrefix = .str place) :
    tapset.fragment ctx = block place binary := by
  funext e
  simp only [tapset, block, hbinary, hplace, Value.text, bindings_eq, List.cons_append,
    List.nil_append]

theorem probesAgree {ctx : Context} {provider binary place : String}
    (hprovider : ctx.provider = .str provider) (hbinary : ctx.binary = .str binary)
    (hplace : ctx.probePrefix = .str place) (hbinary_ne : binary ≠ "") (hplace_ne : place ≠ "")
    (lines : List String) : ProbesAgree ctx provider binary place lines := by
  have hpresent {s : String} (hs : s ≠ "") : (Value.str s).isPresent = true := by
    simp [Value.isPresent, hs]
  have hready : Probe.tapset.ready ctx = .ok () := by
    simp [Probe.tapset, hbinary, hplace, hpresent hbinary_ne, hpresent hplace_ne]
  have hdescriptor : Probe.descriptor.openingObstacle? ctx.reset = none := by
    simp [Probe.descriptor, Context.reset, hprovider, Value.obstacle?_str]
  have htapset : Probe.tapset.obstacle? ctx.reset = none := by
    simp [Probe.tapset, Context.reset, hbinary, hplace, Value.obstacle?_str]
  have hheader : Header.dtrace.obstacle? ctx.reset = none := by
    simp [Header.dtrace, Context.reset, hprovider]
  have hopening : Probe.descriptor.opening ctx.reset = [s!"provider {provider} \x7b"] := by
    simp only [Probe.descriptor, Context.reset, hprovider, Value.text]
  refine ⟨?_, ?_, ?_, Probe.length_block place binary,
    fun e i arg h => Probe.getElem?_block place binary h⟩
  · exact exists_convert_listsProbes (t := Probe.descriptor) rfl ⟨rfl, hdescriptor⟩ ⟨rfl, rfl⟩ rfl
      hopening (fun _ => rfl) rfl rfl (Probe.descriptor_distinguishes provider) lines
  · exact exists_convert_listsProbes (t := Probe.tapset) rfl ⟨hready, rfl⟩ ⟨rfl, rfl⟩ htapset rfl
      (fun _ => rfl) rfl (Probe.fragment_tapset hbinary hplace)
      (Probe.tapset_distinguishes place binary) lines
  · exact exists_convert_listsProbes (t := Header.dtrace) rfl ⟨rfl, rfl⟩ ⟨rfl, rfl⟩ hheader rfl
      (fun _ => rfl) rfl (Header.fragment_dtrace hprovider)
      (Header.dtrace_distinguishes provider) lines

theorem probesAgree_probeContext :
    ProbesAgree probeContext "qemu" "/bin/qemu" "qemu.user.arm"
      ["disable drop(int a) \"a\"", "keep(char *p, int limit) \"p\"", "# none", "halt(void) \"\""] :=
  probesAgree rfl rfl rfl (by decide) (by decide) _

end Tracepoint
