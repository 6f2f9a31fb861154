import Tracepoint.Proofs.Confinement
import Tracepoint.Proofs.Identifiers
import Tracepoint.Proofs.Signatures
import Tracepoint.Proofs.Validation

namespace Tracepoint

open Text

/-- A text without a newline. -/
def IsLine (s : String) : Prop := '\n' ∉ s.toList

instance (s : String) : Decidable (IsLine s) := inferInstanceAs (Decidable ('\n' ∉ s.toList))

theorem isLine_append {a b : String} : IsLine (a ++ b) ↔ IsLine a ∧ IsLine b := by
  rw [IsLine, String.toList_append, List.mem_append, not_or]
  exact Iff.rfl

theorem isLine_toString {s : String} : IsLine (toString s) ↔ IsLine s := Iff.rfl

theorem isLine_ofList {cs : List Char} (h : '\n' ∉ cs) : IsLine (String.ofList cs) := by
  rwa [IsLine, String.toList_ofList]

theorem isLine_nat (n : Nat) : IsLine (toString n) := by
  rw [IsLine, Nat.toString_eq_repr, Nat.repr, String.toList_ofList]
  intro h
  have hdigit := Nat.isDigit_of_mem_toDigits (by decide) (by decide) h
  exact absurd hdigit (by decide)

theorem isLine_int (i : Int) : IsLine (toString i) := by
  cases i with
  | ofNat n => exact isLine_nat n
  | negSucc n =>
    have hsign : IsLine "-" := by decide
    exact isLine_append.mpr ⟨hsign, isLine_nat (n + 1)⟩

theorem isLine_join {parts : List String} (h : ∀ p ∈ parts, IsLine p) :
    IsLine (String.join parts) := by
  induction parts with
  | nil => exact (by decide : IsLine "")
  | cons p parts ih =>
    rw [List.forall_mem_cons] at h
    rw [String.join_cons]
    exact isLine_append.mpr ⟨h.1, ih h.2⟩

theorem isLine_intercalate {mark : String} (hmark : IsLine mark) {parts : List String}
    (h : ∀ p ∈ parts, IsLine p) : IsLine (mark.intercalate parts) := by
  induction parts with
  | nil => exact (by decide : IsLine "")
  | cons p parts ih =>
    rw [List.forall_mem_cons] at h
    cases parts with
    | nil => exact h.1
    | cons q parts =>
      rw [String.intercalate_cons_cons]
      exact isLine_append.mpr ⟨isLine_append.mpr ⟨h.1, hmark⟩, ih h.2⟩

theorem isLine_upper {s : String} (h : IsLine s) : IsLine (Header.upper s) :=
  isLine_ofList (newline_notMem_upper h)

theorem isLine_of_isIdentifier {s : String} (h : isIdentifier s.toList = true) : IsLine s := by
  intro hnewline
  have hcontinues := continuesIdentifier_of_mem h '\n' hnewline
  rw [newline_not_continuesIdentifier] at hcontinues
  cases hcontinues

theorem trim_isInfix (cs : List Char) : trim cs <:+: cs := by
  have hstart : trimStart cs <:+ cs := List.dropWhile_suffix _
  have hend : trimEnd (trimStart cs) <+: trimStart cs := by
    have hsuffix := List.dropWhile_suffix (l := (trimStart cs).reverse) isBlank
    rwa [← List.reverse_prefix, List.reverse_reverse] at hsuffix
  exact hend.isInfix.trans hstart.isInfix

/-- Trimming takes away a newline at the end. -/
theorem newline_notMem_trim {cs : List Char} (h : '\n' ∉ cs.dropLast) : '\n' ∉ trim cs := by
  rcases trim_eq_nil_or_isTrimmed cs with hnil | ⟨-, init, c, hinit, hc⟩
  · rw [hnil]
    exact List.not_mem_nil
  · obtain ⟨front, back, hcs⟩ := trim_isInfix cs
    have hdrop : cs.dropLast = front ++ init ++ (c :: back).dropLast := by
      rw [← hcs, hinit, ← List.dropLast_append_of_ne_nil (List.cons_ne_nil c back)]
      simp
    rw [hdrop, List.mem_append, List.mem_append, not_or, not_or] at h
    rw [hinit, List.mem_append, List.mem_singleton]
    rintro (hmem | rfl)
    · exact h.1.2 hmem
    · exact absurd hc (by decide)

theorem newline_notMem_of_not_blank {cs : List Char} (h : ∀ c ∈ cs, isBlank c = false) :
    '\n' ∉ cs := by
  intro hnewline
  have hblank : isBlank '\n' = true := by decide
  rw [h '\n' hnewline] at hblank
  cases hblank

theorem mem_of_mem_before {mark c : Char} {cs : List Char} (h : c ∈ before mark cs) : c ∈ cs :=
  (List.takeWhile_prefix _).subset h

theorem mem_line_of_mem_after {mark c : Char} {cs : List Char} (h : c ∈ after mark cs) : c ∈ cs :=
  (List.dropWhile_suffix _).subset (List.mem_of_mem_drop h)

theorem mem_of_mem_between {mark c : Char} {cs : List Char} (h : c ∈ between mark cs) : c ∈ cs := by
  rw [between, beforeLast, List.mem_reverse] at h
  exact mem_line_of_mem_after (List.mem_reverse.mp (mem_line_of_mem_after h))

theorem Field.mem_of_mem_name {word : List Char} {c : Char} (h : c ∈ (Field.ofWord word).name) :
    c ∈ word := by
  have hname {text : List Char}
      (h : c ∈ (if text.getLast? = some ',' then ⟨text.dropLast, true⟩ else
        (⟨text, false⟩ : Field)).name) : c ∈ text := by
    split at h
    · exact List.mem_of_mem_dropLast h
    · exact h
  unfold Field.ofWord at h
  dsimp only at h
  split at h
  · exact List.mem_cons_of_mem _ (hname h)
  · exact hname h

theorem exists_word_of_mem_argNames {args name : List Char} (h : name ∈ argNames args) :
    ∃ word ∈ words args, name = (Field.ofWord word).name := by
  have hfield : ∃ field ∈ (words args).map Field.ofWord, name = field.name := by
    rw [argNames, fieldNames, List.mem_append] at h
    rcases h with h | h
    · obtain ⟨field, hfield, hname⟩ := List.mem_map.mp h
      exact ⟨field, List.mem_of_mem_filter hfield, hname.symm⟩
    · split at h
      · rw [Option.mem_toList, Option.map_eq_some_iff] at h
        obtain ⟨field, hfield, hname⟩ := h
        exact ⟨field, List.mem_of_getLast? hfield, hname.symm⟩
      · cases h
  obtain ⟨field, hfield, rfl⟩ := hfield
  obtain ⟨word, hword, rfl⟩ := List.mem_map.mp hfield
  exact ⟨word, hword, rfl⟩

/-- No part of the event has a newline in it. -/
structure Event.IsFlat (e : Event) : Prop where
  name : IsLine e.name
  args : IsLine e.args
  format : IsLine e.format
  argNames : ∀ name ∈ e.argNames, IsLine name

/-- Names are free of blanks in any case; the rest is text of the line. -/
theorem Event.isFlat_parse {line : String} (h : '\n' ∉ line.toList.dropLast) :
    (parse line).IsFlat := by
  have hread := isRead_parse line
  have hline := newline_notMem_trim h
  refine ⟨?_, ?_, ?_, ?_⟩
  · exact newline_notMem_of_not_blank hread.blanks
  · apply isLine_ofList
    intro hnewline
    exact hline (mem_line_of_mem_after (mem_of_mem_before (mem_of_mem_trim hnewline)))
  · apply isLine_ofList
    intro hnewline
    exact hline (mem_of_mem_between hnewline)
  · intro name hname
    rw [hread.argNames] at hname
    obtain ⟨chars, hchars, rfl⟩ := List.mem_map.mp hname
    obtain ⟨word, hword, rfl⟩ := exists_word_of_mem_argNames hchars
    have hword := newline_notMem_of_not_blank (isWord_of_mem_words hword).2
    exact isLine_ofList fun hnewline => hword (Field.mem_of_mem_name hnewline)

namespace Event.IsFlat

variable {e : Event}

theorem callArgs (h : e.IsFlat) : IsLine e.callArgs :=
  isLine_intercalate (by decide) h.argNames

/-- The argument names one after the other, each behind the same text. -/
theorem joined (h : e.IsFlat) {mark : String} (hmark : IsLine mark) :
    IsLine (String.join (e.argNames.map fun name => mark ++ name)) := by
  apply isLine_join
  intro part hpart
  obtain ⟨name, hname, rfl⟩ := List.mem_map.mp hpart
  exact isLine_append.mpr ⟨hmark, h.argNames name hname⟩

theorem furtherArgs (h : e.IsFlat) : IsLine e.furtherArgs := by
  have hmark : IsLine ", " := by decide
  exact h.joined hmark

theorem casts (h : e.IsFlat) :
    IsLine (String.join (e.argNames.map fun name => s!", (uint64_t)(uintptr_t){name}")) := by
  have hmark : IsLine ", (uint64_t)(uintptr_t)" := by decide
  exact h.joined hmark

theorem signature (h : e.IsFlat) : IsLine (Header.signature e) := by
  unfold Header.signature
  simp only [isLine_append, isLine_toString, h.name, h.args, and_true]
  decide

theorem parameterText (h : e.IsFlat) : IsLine (Probe.parameterText e) := by
  rw [Probe.parameterText]
  split
  · decide
  · exact h.args

end Event.IsFlat

/-- What files other than tapsets tell of the context is text without a newline. -/
structure Context.IsFlat (ctx : Context) : Prop where
  provider : ∃ provider, ctx.provider = .str provider ∧ IsLine provider
  names : ∀ name ∈ ctx.names, IsLine name

theorem Context.IsFlat.isLine_provider {ctx : Context} (h : ctx.IsFlat) :
    IsLine ctx.provider.text := by
  obtain ⟨provider, hprovider, hline⟩ := h.provider
  rwa [hprovider]

/-- Every line that the template writes is one line. -/
structure Template.WritesLines (t : Template) : Prop where
  opening : ∀ ctx : Context, ctx.IsFlat → ∀ line ∈ t.opening ctx, IsLine line
  fragment : ∀ (ctx : Context) (e : Event), ctx.IsFlat → e.IsFlat →
    ∀ line ∈ t.fragment ctx e, IsLine line
  closing : ∀ ctx : Context, ctx.IsFlat → ∀ line ∈ t.closing ctx, IsLine line

theorem Header.isLine_probeMacro {ctx : Context} {e : Event} (hctx : ctx.IsFlat) (he : e.IsFlat) :
    IsLine (probeMacro ctx e) := by
  unfold probeMacro
  simp only [isLine_append, isLine_toString, isLine_upper hctx.isLine_provider,
    isLine_upper he.name, and_true, true_and]
  decide

/-- A template that writes nothing. -/
theorem Template.writesLines_of_silent {t : Template} (hopening : ∀ ctx, t.opening ctx = [])
    (hfragment : ∀ ctx e, t.fragment ctx e = []) (hclosing : ∀ ctx, t.closing ctx = []) :
    t.WritesLines where
  opening ctx _ := by simp [hopening ctx]
  fragment ctx e _ _ := by simp [hfragment ctx e]
  closing ctx _ := by simp [hclosing ctx]

theorem Header.nop_writesLines : nop.WritesLines where
  opening _ _ := List.forall_mem_nil _
  fragment _ e _ he := by
    have hsignature := he.signature
    unfold nop emptyFunction
    simp only [List.forall_mem_cons, hsignature, true_and]
    decide
  closing _ _ := List.forall_mem_nil _

theorem Header.simple_writesLines : simple.WritesLines where
  opening _ _ := by
    have hfixed : ∀ line ∈ simple.opening {}, IsLine line := by decide
    exact hfixed
  fragment ctx e _ he := by
    have hsignature := he.signature
    have hcasts := he.casts
    unfold simple
    simp only [List.forall_mem_cons, isLine_append, isLine_toString, hsignature, hcasts, isLine_nat,
      isLine_int, true_and, and_true]
    decide
  closing ctx _ := by
    unfold simple
    simp only [List.forall_mem_cons, isLine_append, isLine_toString, isLine_int, and_true]
    decide

theorem Header.stderr_writesLines : stderr.WritesLines where
  opening _ _ := by
    have hfixed : ∀ line ∈ stderr.opening {}, IsLine line := by decide
    exact hfixed
  fragment ctx e _ he := by
    have hsignature := he.signature
    unfold stderr
    simp only [List.forall_mem_cons, isLine_append, isLine_toString, hsignature, he.name, he.format,
      he.furtherArgs, isLine_int, true_and, and_true]
    decide
  closing ctx _ := by
    unfold stderr
    simp only [List.forall_mem_cons, isLine_append, isLine_toString, isLine_int, and_true]
    decide

theorem Header.ust_writesLines : ust.WritesLines where
  opening _ _ := by
    have hfixed : ∀ line ∈ ust.opening {}, IsLine line := by decide
    exact hfixed
  fragment ctx e _ he := by
    unfold ust
    simp only [List.forall_mem_cons, isLine_append, isLine_toString, he.name, he.args,
      he.callArgs, and_true]
    decide
  closing _ _ := List.forall_mem_nil _

theorem Header.dtrace_writesLines : dtrace.WritesLines where
  opening _ _ := by
    have hfixed : ∀ line ∈ dtrace.opening {}, IsLine line := by decide
    exact hfixed
  fragment ctx e hctx he := by
    have hsignature := he.signature
    have hmacro := isLine_probeMacro hctx he
    unfold dtrace
    simp only [List.forall_mem_cons, isLine_append, isLine_toString, hsignature, hmacro,
      he.callArgs, true_and, and_true]
    decide
  closing _ _ := List.forall_mem_nil _

theorem Header.template_writesLines (b : Backend) : (template b).WritesLines := by
  cases b with
  | nop => exact nop_writesLines
  | simple => exact simple_writesLines
  | stderr => exact stderr_writesLines
  | ust => exact ust_writesLines
  | dtrace => exact dtrace_writesLines

theorem Source.eventTable_writesLines : eventTable.WritesLines where
  opening _ _ := by
    have hfixed : ∀ line ∈ eventTable.opening {}, IsLine line := by decide
    exact hfixed
  fragment ctx e _ he := by
    unfold eventTable
    simp only [List.forall_mem_cons, isLine_append, isLine_toString, he.name, and_true]
    decide
  closing _ _ := by
    have hfixed : ∀ line ∈ eventTable.closing {}, IsLine line := by decide
    exact hfixed

theorem Source.isLine_register {name : String} (h : IsLine name) : IsLine (register name) := by
  unfold register
  simp only [isLine_append, isLine_toString, h, and_true]
  decide

theorem Source.ust_writesLines : ust.WritesLines where
  opening _ _ := by
    have hfixed : ∀ line ∈ ust.opening {}, IsLine line := by decide
    exact hfixed
  fragment ctx e _ he := by
    unfold ust
    simp only [List.forall_mem_cons, isLine_append, isLine_toString, he.name, he.args, he.format,
      he.furtherArgs, and_true]
    decide
  closing ctx hctx := by
    have hregister : ∀ line ∈ ctx.names.map register, IsLine line := by
      intro line hline
      obtain ⟨name, hname, rfl⟩ := List.mem_map.mp hline
      exact isLine_register (hctx.names name hname)
    have hfront : ∀ line ∈
        ["static void __attribute__((constructor)) trace_init(void)", "\x7b"], IsLine line := by
      decide
    have hback : ∀ line ∈ ["\x7d"], IsLine line := by decide
    exact List.forall_mem_append.mpr ⟨List.forall_mem_append.mpr ⟨hfront, hregister⟩, hback⟩

theorem Source.template_writesLines (b : Backend) : (template b).WritesLines := by
  cases b with
  | nop | dtrace =>
    exact Template.writesLines_of_silent (fun _ => rfl) (fun _ _ => rfl) (fun _ => rfl)
  | simple | stderr => exact eventTable_writesLines
  | ust => exact ust_writesLines

theorem Probe.descriptor_writesLines : descriptor.WritesLines where
  opening ctx hctx := by
    unfold descriptor
    simp only [List.forall_mem_cons, isLine_append, isLine_toString, hctx.isLine_provider,
      and_true]
    decide
  fragment ctx e _ he := by
    unfold descriptor
    simp only [List.forall_mem_cons, isLine_append, isLine_toString, he.name, he.parameterText,
      and_true]
    decide
  closing _ _ := by
    have hfixed : ∀ line ∈ descriptor.closing {}, IsLine line := by decide
    exact hfixed

/-- Tapsets tell the binary and the prefix as well, so they are left out. -/
theorem Backend.template_writesLines {b : Backend} {k : Kind} (hk : k ≠ .tapset) {t : Template}
    (ht : b.template k = .ok t) : t.WritesLines := by
  rcases Backend.template_cases ht with
    ⟨-, rfl⟩ | ⟨-, rfl⟩ | ⟨-, -, rfl⟩ | ⟨-, htapset, -⟩ | ⟨-, -, -, rfl⟩
  · exact Header.template_writesLines b
  · exact Source.template_writesLines b
  · exact Probe.descriptor_writesLines
  · exact absurd htapset hk
  · exact Template.writesLines_of_silent (fun _ => rfl) (fun _ _ => rfl) (fun _ => rfl)

theorem Context.IsFlat.begun {ctx : Context} (h : ctx.IsFlat) (t : Template) :
    (t.begun ctx).IsFlat := by
  rw [Template.begun]
  split
  · exact ⟨h.provider, List.forall_mem_nil _⟩
  · exact h

namespace Template

variable {t off : Template} {ctx : Context} {e : Event} {es : List Event}

theorem advance_isFlat (hctx : ctx.IsFlat) (he : e.IsFlat) (t : Template) :
    (t.advance e ctx).IsFlat := by
  refine ⟨hctx.provider, fun name hname => ?_⟩
  simp only [advance] at hname
  split at hname
  · rcases List.mem_append.mp hname with hname | hname
    · exact hctx.names name hname
    · rw [List.mem_singleton.mp hname]
      exact he.name
  · exact hctx.names name hname

theorem passed_isFlat (hctx : ctx.IsFlat) (hes : ∀ e ∈ es, e.IsFlat) (t : Template) :
    (t.passed es ctx).IsFlat := by
  induction es generalizing ctx with
  | nil => rwa [passed_nil]
  | cons e es ih =>
    rw [List.forall_mem_cons] at hes
    rw [passed_cons]
    exact ih (advance_isFlat hctx hes.1 t) hes.2

/-- The walk over the events: at every step the context is such that no name can break a line. -/
theorem WritesLines.body_isLine (ht : t.WritesLines) (hoff : off.WritesLines) (hctx : ctx.IsFlat)
    (hes : ∀ e ∈ es, e.IsFlat) : ∀ line ∈ t.body off ctx es, IsLine line := by
  induction es generalizing ctx with
  | nil => exact List.forall_mem_nil _
  | cons e es ih =>
    rw [List.forall_mem_cons] at hes
    have hempty : IsLine "" := by decide
    cases hd : e.disabled with
    | true =>
      rw [body_cons_disabled _ _ _ hd, List.cons_append, List.forall_mem_cons,
        List.forall_mem_append]
      exact ⟨hempty, hoff.fragment ctx e hctx hes.1, ih (advance_isFlat hctx hes.1 off) hes.2⟩
    | false =>
      rw [body_cons_enabled _ _ _ hd, List.cons_append, List.forall_mem_cons,
        List.forall_mem_append]
      exact ⟨hempty, ht.fragment ctx e hctx hes.1, ih (advance_isFlat hctx hes.1 t) hes.2⟩

end Template

/-- Lines as they are read from a text, with a newline at the end or without. -/
def AreRead (lines : List String) : Prop := ∀ line ∈ lines, '\n' ∉ line.toList.dropLast

theorem AreRead.isFlat {lines : List String} (h : AreRead lines) :
    ∀ e ∈ readEvents lines, e.IsFlat := by
  intro e he
  obtain ⟨line, hline, rfl⟩ := List.mem_map.mp he
  exact Event.isFlat_parse (h line (List.mem_of_mem_filter hline))

theorem Context.IsFlat.starts {b : Backend} {k : Kind} (hk : k ≠ .tapset) {t : Template}
    (ht : b.template k = .ok t) {ctx : Context} (h : ctx.IsFlat) :
    t.Starts ctx ∧ t.obstacle? ctx = none := by
  obtain ⟨provider, hprovider, -⟩ := h.provider
  rcases Backend.template_cases ht with
    ⟨-, rfl⟩ | ⟨-, rfl⟩ | ⟨-, -, rfl⟩ | ⟨-, htapset, -⟩ | ⟨-, -, -, rfl⟩
  · cases b with
    | dtrace => exact ⟨⟨rfl, rfl⟩, by simp [Header.template, Header.dtrace, hprovider]⟩
    | _ => exact ⟨⟨rfl, rfl⟩, rfl⟩
  · cases b <;> exact ⟨⟨rfl, rfl⟩, rfl⟩
  · have hopening : Probe.descriptor.openingObstacle? (Probe.descriptor.begun ctx) = none := by
      simp [Probe.descriptor, Template.begun, Context.reset, hprovider, Value.obstacle?_str]
    exact ⟨⟨rfl, hopening⟩, rfl⟩
  · exact absurd htapset hk
  · exact ⟨⟨rfl, rfl⟩, rfl⟩

theorem exists_convert_isLine {b : Backend} {k : Kind} (hk : k ≠ .tapset) {t : Template}
    (ht : b.template k = .ok t) {ctx : Context} (hctx : ctx.IsFlat) {lines : List String}
    (hlines : AreRead lines) :
    ∃ body, (convert b k ctx (.ofLines lines)).result = .ok body ∧ ∀ line ∈ body, IsLine line := by
  have hbegun := hctx.begun t
  have hstarts := (hctx.starts hk ht).1
  have hobstacle := (hbegun.starts hk ht).2
  have hwrites := Backend.template_writesLines hk ht
  have hoff := Backend.template_writesLines hk (Template.nop_template k)
  have hes := hlines.isFlat
  have henabled : ∀ e ∈ enabledEvents lines, e.IsFlat :=
    fun e he => hes e (List.mem_of_mem_filter he)
  have hempty : IsLine "" := by decide
  have hresult := convert_ofLines ht hstarts lines (.inl hobstacle)
  refine ⟨_, congrArg Conversion.result hresult, ?_⟩
  rw [List.forall_mem_append, List.forall_mem_append, List.forall_mem_cons]
  exact ⟨⟨hwrites.opening _ hbegun, hwrites.body_isLine hoff hbegun hes⟩, hempty,
    hwrites.closing _ (Template.passed_isFlat hbegun henabled t)⟩

/-- What stands between the newlines of a text. -/
def splitLines (text : String) : List String := (text.toList.splitOn '\n').map String.ofList

/-- The last of the newlines has nothing behind it. -/
theorem splitLines_unlines {lines : List String} (hne : lines ≠ [])
    (h : ∀ line ∈ lines, IsLine line) : splitLines (unlines lines) = lines ++ [""] := by
  have htext : (unlines lines).toList = ['\n'].intercalate (lines.map String.toList ++ [[]]) := by
    have hmark : "\n".toList = ['\n'] := rfl
    rw [unlines, String.toList_append, String.toList_intercalate, hmark,
      intercalate_concat _ (by simpa using hne), List.append_nil]
  have hparts : ∀ part ∈ lines.map String.toList ++ [[]], '\n' ∉ part := by
    rw [List.forall_mem_append, List.forall_mem_map]
    exact ⟨h, by simp⟩
  rw [splitLines, htext, List.splitOn_intercalate _ hparts (by simp)]
  simp

theorem wrap_isLine {body : List String} (h : ∀ line ∈ body, IsLine line) (k : Kind) :
    ∀ line ∈ wrap k body, IsLine line := by
  have hnotice : IsLine notice := by decide
  cases k with
  | header =>
    have hfront : ∀ line ∈ ["#ifndef TRACE_H", "#define TRACE_H", "", notice, "",
        "#include \"qemu-common.h\""], IsLine line := by
      decide
    have hback : ∀ line ∈ ["#endif /* TRACE_H */"], IsLine line := by decide
    exact List.forall_mem_append.mpr ⟨List.forall_mem_append.mpr ⟨hfront, h⟩, hback⟩
  | _ => exact List.forall_mem_cons.mpr ⟨hnotice, h⟩

/-- The text of a file with this body has its lines and an end behind the last of them. Those of a
header have the guard around them, which tells where the body is. -/
structure KeepsLines (k : Kind) (body : List String) (text : String) : Prop where
  lines : splitLines text = wrap k body ++ [""]
  opening : k = .header → (splitLines text).take 2 = ["#ifndef TRACE_H", "#define TRACE_H"]
  closing : k = .header → (splitLines text).dropLast.getLast? = some "#endif /* TRACE_H */"
  body : k = .header → ((splitLines text).dropLast.drop 6).dropLast = body

theorem KeepsLines.of_lines {k : Kind} {body : List String} {text : String}
    (h : splitLines text = wrap k body ++ [""]) : KeepsLines k body text := by
  have hheader (hk : k = .header) : splitLines text = ["#ifndef TRACE_H", "#define TRACE_H", "",
      notice, "", "#include \"qemu-common.h\""] ++ body ++ ["#endif /* TRACE_H */"] ++ [""] := by
    subst hk
    exact h
  refine ⟨h, fun hk => ?_, fun hk => ?_, fun hk => ?_⟩
  · rw [hheader hk]
    rfl
  · rw [hheader hk, List.dropLast_concat, List.getLast?_concat]
  · rw [hheader hk, List.dropLast_concat]
    exact List.dropLast_concat

/-- No name, argument, format or provider can add a line to a file or break one. -/
theorem generate_keepsLines {given : Entries Value} {s : Settings}
    (h : Settings.ofEntries given = .ok s) {o : Options} (ho : o.provider = .str s.provider)
    {b : Backend} {k : Kind} (hk : k ≠ .tapset) (hvalid : validate b k o = .ok ())
    {lines : List String} (hlines : AreRead lines) :
    ∃ ctx body text, o.context k = .ok ctx ∧
      (convert b k ctx (.ofLines lines)).result = .ok body ∧
      (generate b.name k.flag o lines).result = .ok text ∧ KeepsLines k body text := by
  have hctx := context_of_ne_tapset hk o
  have hprovider := isLine_of_isIdentifier (Settings.isIdentifier_provider h)
  have hflat : Context.IsFlat { provider := o.provider, binary := o.binary } :=
    ⟨⟨s.provider, ho, hprovider⟩, List.forall_mem_nil _⟩
  have htemplate : ∃ t, b.template k = .ok t := by
    rcases validate_cases hvalid with rfl | rfl | ⟨rfl, rfl⟩ | ⟨-, htapset, -⟩
    · exact ⟨_, rfl⟩
    · exact ⟨_, rfl⟩
    · exact ⟨_, rfl⟩
    · exact absurd htapset hk
  obtain ⟨t, ht⟩ := htemplate
  obtain ⟨body, hbody, hbodyLines⟩ := exists_convert_isLine hk ht hflat hlines
  have htext := result_generate_of_convert hvalid hctx hbody
  have hne : wrap k body ≠ [] := by cases k <;> simp [wrap]
  have hsplit := splitLines_unlines hne (wrap_isLine hbodyLines k)
  exact ⟨_, body, _, hctx, hbody, htext, KeepsLines.of_lines hsplit⟩

/-- Parts that are missing, out of place or not closed, and lines with and without an end. -/
def brokenLines : List String :=
  ["disable a(int b\n", "c)(\"%d \\n\"\"", "x(char *p,\tint q\n", "\n", "# y(", "z(void) \"\"\n"]

def streetOptions : Options := { provider := "straße" }

theorem generate_keepsLines_brokenLines :
    Settings.ofEntries [("provider", .str "straße")] = .ok { provider := "straße" } ∧
      validate .dtrace .header streetOptions = .ok () ∧ AreRead brokenLines ∧
      ∃ ctx body text, streetOptions.context .header = .ok ctx ∧
        (convert .dtrace .header ctx (.ofLines brokenLines)).result = .ok body ∧
        (generate Backend.dtrace.name Kind.header.flag streetOptions brokenLines).result =
          .ok text ∧ KeepsLines .header body text := by
  have hid : isIdentifier "straße".toList = true := by decide +kernel
  have hgiven := ofEntries_provider hid
  have hlines : AreRead brokenLines := by
    unfold AreRead
    decide
  exact ⟨hgiven, rfl, hlines, generate_keepsLines hgiven rfl (by decide) rfl hlines⟩

theorem newline_notMem_of_mem_cutLines {front cs : List Char} (h : '\n' ∉ front) :
    ∀ line ∈ cutLines front cs, '\n' ∉ line.dropLast := by
  have hreverse {front : List Char} (h : '\n' ∉ front) : '\n' ∉ front.reverse.dropLast :=
    fun hmem => h (List.mem_reverse.mp (List.mem_of_mem_dropLast hmem))
  induction cs generalizing front with
  | nil =>
    rw [cutLines]
    split
    · exact List.forall_mem_nil _
    · exact List.forall_mem_singleton.mpr (hreverse h)
  | cons c cs ih =>
    rw [cutLines]
    split
    · have hline : '\n' ∉ (c :: front).reverse.dropLast := by
        rw [List.reverse_cons, List.dropLast_concat, List.mem_reverse]
        exact h
      exact List.forall_mem_cons.mpr ⟨hline, ih List.not_mem_nil⟩
    · next hc => exact ih (List.not_mem_cons_of_ne_of_not_mem (Ne.symm hc) h)

theorem areRead_lines (text : List Char) : AreRead (Text.lines text) := by
  intro line hline
  obtain ⟨cs, hcs, rfl⟩ := List.mem_map.mp hline
  rw [String.toList_ofList]
  exact newline_notMem_of_mem_cutLines List.not_mem_nil cs hcs

theorem areRead_completeLines (text : List Char) : AreRead (Text.completeLines text) := by
  intro line hline
  obtain ⟨cs, hcs, rfl⟩ := List.mem_map.mp hline
  rw [String.toList_ofList]
  exact newline_notMem_of_mem_cutLines List.not_mem_nil cs (List.mem_of_mem_filter hcs)

/-- All lines that an input comes to are such lines, whatever its bytes. -/
theorem areRead_ofBlocks (text : List Char) (left bytes : List UInt8) :
    AreRead (Input.ofBlocks text left bytes).lines := by
  fun_induction Input.ofBlocks text left bytes with
  | case1 text left _ _ => exact areRead_lines text
  | case2 => exact areRead_completeLines _
  | case3 => assumption
  | case4 => assumption
  | case5 => exact areRead_completeLines _

theorem areRead_ofBytes (bytes : List UInt8) : AreRead (Input.ofBytes bytes).lines :=
  areRead_ofBlocks [] [] bytes

end Tracepoint
