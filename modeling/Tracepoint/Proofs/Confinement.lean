import Tracepoint.Proofs.Names
import Tracepoint.Proofs.Pass

namespace Tracepoint

variable {b : Backend} {k : Kind}

/-- A context in which nothing is left of what a file of this kind does not tell. -/
def Context.visible (b : Backend) (k : Kind) (ctx : Context) : Context :=
  match b, k with
  | .dtrace, .header | .dtrace, .descriptor => { ctx with binary := .null, probePrefix := .null }
  | .dtrace, .tapset => { ctx with provider := .null }
  | _, _ => { ctx with provider := .null, binary := .null, probePrefix := .null }

/-- All that a template reads of a context is still there in a view of it. -/
structure Template.Sees (t : Template) (view : Context → Context) : Prop where
  ready : ∀ ctx, t.ready (view ctx) = t.ready ctx
  opening : ∀ ctx, t.opening (view ctx) = t.opening ctx
  openingObstacle : ∀ ctx, t.openingObstacle? (view ctx) = t.openingObstacle? ctx
  fragment : ∀ ctx, t.fragment (view ctx) = t.fragment ctx
  obstacle : ∀ ctx, t.obstacle? (view ctx) = t.obstacle? ctx
  closing : ∀ ctx, t.closing (view ctx) = t.closing ctx

theorem Header.template_sees (b : Backend) : (template b).Sees (Context.visible b .header) := by
  cases b <;>
    exact ⟨fun _ => rfl, fun _ => rfl, fun _ => rfl, fun _ => rfl, fun _ => rfl, fun _ => rfl⟩

theorem Source.template_sees (b : Backend) : (template b).Sees (Context.visible b .source) := by
  cases b <;>
    exact ⟨fun _ => rfl, fun _ => rfl, fun _ => rfl, fun _ => rfl, fun _ => rfl, fun _ => rfl⟩

theorem Backend.template_sees {t : Template} (ht : b.template k = .ok t) :
    t.Sees (Context.visible b k) := by
  rcases Backend.template_cases ht with
    ⟨rfl, rfl⟩ | ⟨rfl, rfl⟩ | ⟨rfl, rfl, rfl⟩ | ⟨rfl, rfl, rfl⟩ | ⟨-, -, -, rfl⟩
  · exact Header.template_sees b
  · exact Source.template_sees b
  · exact ⟨fun _ => rfl, fun _ => rfl, fun _ => rfl, fun _ => rfl, fun _ => rfl, fun _ => rfl⟩
  · exact ⟨fun _ => rfl, fun _ => rfl, fun _ => rfl, fun _ => rfl, fun _ => rfl, fun _ => rfl⟩
  · exact ⟨fun _ => rfl, fun _ => rfl, fun _ => rfl, fun _ => rfl, fun _ => rfl, fun _ => rfl⟩

namespace Template

/-- What an event does to a context it does to the view as well. -/
theorem advance_visible (t : Template) (e : Event) (b : Backend) (k : Kind) (ctx : Context) :
    t.advance e (ctx.visible b k) = (t.advance e ctx).visible b k := by
  cases b <;> cases k <;> rfl

theorem begun_visible (t : Template) (b : Backend) (k : Kind) (ctx : Context) :
    t.begun (ctx.visible b k) = (t.begun ctx).visible b k := by
  rw [begun, begun]
  split
  · cases b <;> cases k <;> rfl
  · rfl

theorem off_fragment_congr (k : Kind) (ctx ctx' : Context) :
    (off k).fragment ctx = (off k).fragment ctx' := by
  cases k <;> rfl

theorem Sees.halt?_eq {t : Template} (h : t.Sees (Context.visible b k)) (ctx : Context)
    (lines : List String) : t.halt? (ctx.visible b k) lines = t.halt? ctx lines := by
  rw [halt?, halt?, h.obstacle]

theorem Sees.start_eq {t : Template} (h : t.Sees (Context.visible b k)) (ctx : Context) :
    t.start (ctx.visible b k) = ((t.start ctx).1, (t.start ctx).2.visible b k) := by
  rw [start, start, h.ready]
  cases t.ready ctx with
  | error f => rfl
  | ok ready =>
    simp only [begun_visible, h.openingObstacle, h.opening]
    split <;> rfl

/-- The walk over the lines, seen step by step: both walks read the same of their contexts. -/
theorem Sees.render_eq {t : Template} (h : t.Sees (Context.visible b k)) (ctx : Context)
    (lines : List String) :
    t.render (off k) (ctx.visible b k) lines =
      { t.render (off k) ctx lines with
        context := (t.render (off k) ctx lines).context.visible b k } := by
  induction lines generalizing ctx with
  | nil => rfl
  | cons line lines ih =>
    cases hd : isDeclaration line with
    | false => simp [render, hd, ih]
    | true =>
      cases he : (Event.parse line).disabled with
      | true =>
        have hfragment := off_fragment_congr k (ctx.visible b k) ctx
        have hadvance := (off k).advance_visible (Event.parse line) b k ctx
        simp [render, hd, he, event, hfragment, hadvance, ih]
      | false =>
        have hfragment := h.fragment ctx
        have hadvance := t.advance_visible (Event.parse line) b k ctx
        simp [render, hd, he, event, hfragment, hadvance, ih]

end Template

/-- A conversion in a view of a context is the view of the conversion. -/
theorem convert_visible (b : Backend) (k : Kind) (ctx : Context) (input : Input) :
    convert b k (ctx.visible b k) input =
      { convert b k ctx input with
        context := (convert b k ctx input).context.visible b k } := by
  cases ht : b.template k with
  | error f => rw [convert_of_template_error ht, convert_of_template_error ht]
  | ok t =>
    have hsees := Backend.template_sees ht
    have hstart' := hsees.start_eq ctx
    rcases t.starts_or_fails ctx with hstarts | ⟨fault, hstart⟩
    · have hstarts' : t.Starts (ctx.visible b k) := by
        refine ⟨(hsees.ready ctx).trans hstarts.ready, ?_⟩
        rw [t.begun_visible, hsees.openingObstacle, hstarts.opening]
      have hbegun := t.begun_visible b k ctx
      have hhalt := hsees.halt?_eq (t.begun ctx) input.lines
      have hrender := hsees.render_eq (t.begun ctx)
      rw [convert_of_starts ht hstarts, convert_of_starts ht hstarts', hbegun, hhalt]
      cases t.halt? (t.begun ctx) input.lines with
      | some halt => simp only [hrender]
      | none =>
        cases input.ending.fault? with
        | some fault => simp only [hrender]
        | none => simp only [hrender, hsees.opening, hsees.closing]
    · rw [convert_of_start_error ht hstart, convert_of_start_error ht (by rw [hstart', hstart]),
        hstart']

/-- Of two contexts with the same view no conversion can tell which one it has. -/
theorem convert_eq_of_visible {ctx ctx' : Context} (h : ctx.visible b k = ctx'.visible b k)
    (input : Input) :
    (convert b k ctx input).result = (convert b k ctx' input).result ∧
      (convert b k ctx input).consumed = (convert b k ctx' input).consumed ∧
      (convert b k ctx input).log = (convert b k ctx' input).log := by
  have hview := convert_visible b k ctx input
  have hview' := convert_visible b k ctx' input
  rw [h] at hview
  have hsame := hview.symm.trans hview'
  rw [Conversion.mk.injEq] at hsame
  obtain ⟨hresult, -, hconsumed, hlog⟩ := hsame
  exact ⟨hresult, hconsumed, hlog⟩

variable {o o' : Options}

/-- Requests with the same outcome of the checks and the same view of the context. -/
theorem generateFile_congr {ctx ctx' : Context} (hvalid : validate b k o = validate b k o')
    (hctx : o.context k = .ok ctx) (hctx' : o'.context k = .ok ctx')
    (h : ctx.visible b k = ctx'.visible b k) (input : Input) :
    generateFile b k o input = generateFile b k o' input := by
  obtain ⟨hresult, hconsumed, hlog⟩ := convert_eq_of_visible h input
  cases hcheck : validate b k o' with
  | error fault => simp [generateFile, hvalid, hcheck, bind, Except.bind]
  | ok checked =>
    simp [generateFile, hvalid, hcheck, hctx, hctx', hresult, hconsumed, hlog, bind, Except.bind]

theorem generate_congr {backend kind : Value} {lines : List String}
    (h : ∀ b k, resolve backend kind = .ok (b, k) →
      generateFile b k o (.ofLines lines) = generateFile b k o' (.ofLines lines)) :
    generate backend kind o lines = generate backend kind o' lines := by
  rw [generate, generate]
  cases hresolve : resolve backend kind with
  | error fault => rfl
  | ok request => exact h request.1 request.2 hresolve

theorem context_of_ne_tapset (hk : k ≠ .tapset) (o : Options) :
    o.context k = .ok { provider := o.provider, binary := o.binary } := by
  rw [Options.context, if_neg hk]

/-- Only the checks of a tapset look at the options. -/
theorem validate_congr (hk : k ≠ .tapset) (o o' : Options) :
    validate b k o = validate b k o' := by
  cases k with
  | tapset => exact absurd rfl hk
  | _ => rfl

theorem Context.visible_congr_of_provider (hk : k ≠ .tapset) {ctx ctx' : Context}
    (hindex : ctx.index = ctx'.index) (hnames : ctx.names = ctx'.names)
    (h : b = .dtrace → ctx.provider = ctx'.provider) : ctx.visible b k = ctx'.visible b k := by
  cases b with
  | dtrace =>
    have hprovider := h rfl
    cases k <;> simp_all [visible]
  | _ => simp [visible, hindex, hnames]

/-- Files other than tapsets tell the provider, and only those for DTrace do. -/
theorem generateFile_of_provider (hk : k ≠ .tapset) (h : b = .dtrace → o.provider = o'.provider)
    (input : Input) : generateFile b k o input = generateFile b k o' input := by
  have hctx := context_of_ne_tapset hk o
  have hctx' := context_of_ne_tapset hk o'
  apply generateFile_congr (validate_congr hk o o') hctx hctx'
  exact Context.visible_congr_of_provider hk rfl rfl h

/-- A tapset tells the binary and the prefix, whatever the prefix has been made from. -/
theorem generateFile_of_prefix (hvalid : validate .dtrace .tapset o = .ok ())
    (hvalid' : validate .dtrace .tapset o' = .ok ()) (hbinary : o.binary = o'.binary)
    (hplace : o.resolveProbePrefix = o'.resolveProbePrefix) (input : Input) :
    generateFile .dtrace .tapset o input = generateFile .dtrace .tapset o' input := by
  cases hfound : o'.resolveProbePrefix with
  | error fault =>
    have hcontext := hplace.trans hfound
    simp [generateFile, hvalid, hvalid', Options.context, hcontext, hfound, bind, Except.bind]
  | ok place =>
    have hctx : o.context .tapset =
        .ok { provider := o.provider, binary := o.binary, probePrefix := place } := by
      simp [Options.context, hplace, hfound, bind, Except.bind, pure, Except.pure]
    have hctx' : o'.context .tapset =
        .ok { provider := o'.provider, binary := o'.binary, probePrefix := place } := by
      simp [Options.context, hfound, bind, Except.bind, pure, Except.pure]
    apply generateFile_congr (hvalid.trans hvalid'.symm) hctx hctx'
    simp [Context.visible, hbinary]

/-- What the options have an influence on: the provider on the files for DTrace only, and all others
on tapsets only, there by way of the binary and of the prefix. What is the same is the text or the
error, and also how much of the input is read and what is logged. -/
structure OptionsConfined (o o' : Options) (lines : List String) : Prop where
  plain : ∀ backend kind : Value, kind ≠ .str Kind.tapset.flag → o.provider = o'.provider →
    generate backend kind o lines = generate backend kind o' lines
  others : ∀ backend kind : Value, kind ≠ .str Kind.tapset.flag →
    backend ≠ .str Backend.dtrace.name →
    generate backend kind o lines = generate backend kind o' lines
  tapset : validate .dtrace .tapset o = .ok () → validate .dtrace .tapset o' = .ok () →
    o.binary = o'.binary → o.resolveProbePrefix = o'.resolveProbePrefix →
    generate Backend.dtrace.name Kind.tapset.flag o lines =
      generate Backend.dtrace.name Kind.tapset.flag o' lines

theorem optionsConfined (o o' : Options) (lines : List String) : OptionsConfined o o' lines := by
  have hnot {backend kind : Value} (hkind : kind ≠ .str Kind.tapset.flag) {b : Backend} {k : Kind}
      (h : resolve backend kind = .ok (b, k)) : k ≠ .tapset := by
    rintro rfl
    exact hkind (resolve_eq_ok h).2.symm
  refine ⟨fun backend kind hkind hprovider => ?_, fun backend kind hkind hbackend => ?_,
    fun hvalid hvalid' hbinary hplace => ?_⟩
  · apply generate_congr
    intro b k h
    exact generateFile_of_provider (hnot hkind h) (fun _ => hprovider) _
  · apply generate_congr
    intro b k h
    apply generateFile_of_provider (hnot hkind h)
    rintro rfl
    exact absurd (resolve_eq_ok h).1.symm hbackend
  · apply generate_congr
    intro b k h
    rw [resolve_name_flag] at h
    obtain ⟨rfl, rfl⟩ := Prod.mk.inj (Except.ok.inj h)
    exact generateFile_of_prefix hvalid hvalid' hbinary hplace _

end Tracepoint
