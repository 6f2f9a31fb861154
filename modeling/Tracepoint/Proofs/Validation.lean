import Mathlib
import Tracepoint.Proofs.Steps
import Tracepoint.Proofs.Stepwise

namespace Tracepoint

variable {b : Backend} {k : Kind} {o : Options}

theorem Value.IsTextOrNull.exists_of_isPresent {v : Value} (h : v.IsTextOrNull)
    (hpresent : v.isPresent = true) : ∃ s : String, v = .str s ∧ s ≠ "" := by
  rcases h with rfl | ⟨s, rfl⟩
  · simp [Value.isPresent] at hpresent
  · exact ⟨s, rfl, by simpa [Value.isPresent] using hpresent⟩

/-- All that is given is a string, and a provider is given. -/
structure Options.IsTextual (o : Options) : Prop where
  binary : o.binary.IsTextOrNull
  targetType : o.targetType.IsTextOrNull
  targetArch : o.targetArch.IsTextOrNull
  probePrefix : o.probePrefix.IsTextOrNull
  provider : ∃ s : String, o.provider = .str s

/-- A prefix that is found is not empty: that of three parts has dots between them. -/
theorem Options.IsTextual.exists_prefix (h : o.IsTextual) {place : Value}
    (hplace : o.resolveProbePrefix = .ok place) : ∃ s : String, place = .str s ∧ s ≠ "" := by
  simp only [Options.resolveProbePrefix] at hplace
  split at hplace
  · next hpresent =>
    obtain rfl := Except.ok.inj hplace
    exact h.probePrefix.exists_of_isPresent hpresent
  · split at hplace
    · cases hplace
    · split at hplace
      · cases hplace
      · obtain ⟨-, -, hparts⟩ := Except.bind_ok_iff.mp hplace
        obtain rfl := Except.pure_ok_iff.mp hparts
        exact ⟨_, rfl, by simp [String.intercalate_cons_cons]⟩

theorem validate_cases (h : validate b k o = .ok ()) :
    k = .header ∨ k = .source ∨ (b = .dtrace ∧ k = .descriptor) ∨
      (b = .dtrace ∧ k = .tapset ∧ o.binary.isPresent = true ∧
        ∃ place, o.resolveProbePrefix = .ok place) := by
  cases k with
  | header => exact .inl rfl
  | source => exact .inr (.inl rfl)
  | descriptor =>
    by_cases hb : b = .dtrace
    · exact .inr (.inr (.inl ⟨hb, rfl⟩))
    · rw [validate, if_pos hb] at h
      cases h
  | tapset =>
    by_cases hb : b = .dtrace
    · cases hbinary : o.binary.isPresent with
      | false =>
        simp only [validate, hb, hbinary] at h
        cases h
      | true =>
        cases hplace : o.resolveProbePrefix with
        | error fault =>
          simp only [validate, hb, hbinary, hplace] at h
          cases h
        | ok place => exact .inr (.inr (.inr ⟨hb, rfl, rfl, place, rfl⟩))
    · rw [validate, if_pos hb] at h
      cases h

/-- The context of a request that passes is one in which its pass begins. -/
theorem exists_context_of_validate (ho : o.IsTextual) (h : validate b k o = .ok ()) :
    ∃ ctx, o.context k = .ok ctx ∧ ctx.IsTextual ∧ Begins b k ctx := by
  have hplain : ({ provider := o.provider, binary := o.binary } : Context).IsTextual :=
    ⟨ho.provider, ho.binary, .inl rfl⟩
  rcases validate_cases h with rfl | rfl | ⟨rfl, rfl⟩ | ⟨rfl, rfl, hbinary, place, hplace⟩
  · have hstarts : ∀ ctx, (Header.template b).Starts ctx := by
      cases b <;> exact fun _ => ⟨rfl, rfl⟩
    exact ⟨_, rfl, hplain, begins_iff.mpr ⟨_, rfl, hstarts _⟩⟩
  · have hstarts : ∀ ctx, (Source.template b).Starts ctx := by
      cases b <;> exact fun _ => ⟨rfl, rfl⟩
    exact ⟨_, rfl, hplain, begins_iff.mpr ⟨_, rfl, hstarts _⟩⟩
  · have ht : Backend.dtrace.template .descriptor = .ok Probe.descriptor := rfl
    exact ⟨_, rfl, hplain, begins_iff.mpr ⟨_, ht, rfl, hplain.openingObstacle ht⟩⟩
  · obtain ⟨s, rfl, hs⟩ := ho.exists_prefix hplace
    let ctx : Context := { provider := o.provider, binary := o.binary, probePrefix := .str s }
    have hctx : o.context .tapset = .ok ctx := by
      simp [Options.context, hplace, ctx, bind, Except.bind, pure, Except.pure]
    have hpresent : (Value.str s).isPresent = true := by simp [Value.isPresent, hs]
    have hready : Probe.tapset.ready ctx = .ok () := by
      simp [Probe.tapset, ctx, hbinary, hpresent]
    exact ⟨ctx, hctx, ⟨ho.provider, ho.binary, .inr ⟨s, rfl⟩⟩, begins_iff.mpr ⟨_, rfl, hready, rfl⟩⟩

/-- The checks of a request, in their order. -/
def checkRequest (backend kind : Value) (o : Options) : Except Fault (Backend × Kind) := do
  let b ← (Backend.resolve backend).mapError .failure
  let k ← Kind.resolve kind
  validate b k o
  return (b, k)

theorem generateFile_of_validate_error {fault : Fault} (h : validate b k o = .error fault)
    (input : Input) : generateFile b k o input = ⟨.error fault, 0, []⟩ := by
  simp [generateFile, h, bind, Except.bind]

theorem exists_generateFile_eq_ok (ho : o.IsTextual) (h : validate b k o = .ok ())
    (lines : List String) :
    ∃ text, (generateFile b k o (.ofLines lines)).result = .ok text ∧
      (generateFile b k o (.ofLines lines)).consumed = lines.length := by
  obtain ⟨ctx, hctx, htext, hbegins⟩ := exists_context_of_validate ho h
  obtain ⟨body, hbody, hconsumed⟩ := exists_convert_eq_ok hbegins htext lines
  refine ⟨unlines (wrap k body), ?_, ?_⟩
  · simp [generateFile, h, hctx, hbody, bind, Except.bind, Except.map]
  · simp [generateFile, h, hctx, hconsumed, bind, Except.bind]

theorem generate_of_checkRequest_error {backend kind : Value} {fault : Fault}
    (h : checkRequest backend kind o = .error fault) (lines : List String) :
    generate backend kind o lines = ⟨.error fault, 0, []⟩ := by
  rcases Except.bind_error_iff.mp h with hb | ⟨b, hb, h⟩
  · simp [generate, resolve, hb, bind, Except.bind]
  rcases Except.bind_error_iff.mp h with hk | ⟨k, hk, h⟩
  · simp [generate, resolve, hb, hk, bind, Except.bind]
  rcases Except.bind_error_iff.mp h with hv | ⟨-, -, h⟩
  · have hfile := generateFile_of_validate_error hv (.ofLines lines)
    simp [generate, resolve, hb, hk, hfile, bind, Except.bind, pure, Except.pure]
  · exact absurd h Except.pure_ne_error

theorem generate_of_checkRequest_ok {backend kind : Value}
    (h : checkRequest backend kind o = .ok (b, k)) (lines : List String) :
    validate b k o = .ok () ∧
      generate backend kind o lines = generateFile b k o (.ofLines lines) := by
  obtain ⟨b', hb, h⟩ := Except.bind_ok_iff.mp h
  obtain ⟨k', hk, h⟩ := Except.bind_ok_iff.mp h
  obtain ⟨⟨⟩, hv, h⟩ := Except.bind_ok_iff.mp h
  obtain ⟨rfl, rfl⟩ := Prod.mk.inj (Except.pure_ok_iff.mp h)
  exact ⟨hv, by simp [generate, resolve, hb, hk, bind, Except.bind, pure, Except.pure]⟩

/-- A request fails in its checks or not at all. -/
structure ChecksFirst (backend kind : Value) (o : Options) (lines : List String) : Prop where
  fails_iff : ∀ fault, (generate backend kind o lines).result = .error fault ↔
    checkRequest backend kind o = .error fault
  untouched : ∀ fault, checkRequest backend kind o = .error fault →
    generate backend kind o lines = ⟨.error fault, 0, []⟩
  complete : ∀ b k, checkRequest backend kind o = .ok (b, k) →
    (generate backend kind o lines).consumed = lines.length ∧
      ∃ text, (generate backend kind o lines).result = .ok text
  /-- Behind the checks no step of a pass can fail. -/
  steps : ∀ b k, validate b k o = .ok () → ∃ ctx, o.context k = .ok ctx ∧ Begins b k ctx ∧
    ∃ text, passLines b k ctx (readEvents lines) = .ok text

theorem generate_checksFirst (ho : o.IsTextual) (backend kind : Value) (lines : List String) :
    ChecksFirst backend kind o lines := by
  have hcomplete : ∀ b k, checkRequest backend kind o = .ok (b, k) →
      (generate backend kind o lines).consumed = lines.length ∧
        ∃ text, (generate backend kind o lines).result = .ok text := by
    intro b k h
    obtain ⟨hvalid, hgenerate⟩ := generate_of_checkRequest_ok h lines
    obtain ⟨text, htext, hconsumed⟩ := exists_generateFile_eq_ok ho hvalid lines
    rw [hgenerate]
    exact ⟨hconsumed, text, htext⟩
  refine ⟨fun fault => ⟨fun h => ?_, fun h => ?_⟩,
    fun fault h => generate_of_checkRequest_error h lines, hcomplete, fun b k h => ?_⟩
  · cases hchecked : checkRequest backend kind o with
    | error other =>
      rw [generate_of_checkRequest_error hchecked] at h
      obtain rfl := Except.error.inj h
      rfl
    | ok request =>
      obtain ⟨b, k⟩ := request
      obtain ⟨-, text, htext⟩ := hcomplete b k hchecked
      rw [htext] at h
      cases h
  · rw [generate_of_checkRequest_error h]
  · obtain ⟨ctx, hctx, htext, hbegins⟩ := exists_context_of_validate ho h
    obtain ⟨text, hok, -⟩ := exists_convert_eq_ok hbegins htext lines
    obtain ⟨hresult, -⟩ := convert_eq_steps hbegins lines
    exact ⟨ctx, hctx, hbegins, text, hresult ▸ hok⟩

/-- An empty provider and an empty prefix. -/
def bareOptions : Options :=
  { binary := "/bin/qemu", targetType := "user", targetArch := "arm", probePrefix := "",
    provider := "" }

theorem generate_checksFirst_bareOptions :
    bareOptions.IsTextual ∧
      ChecksFirst "dtrace" "stap" bareOptions ["disable a(int b", "c)(\"", "# limit", "\t"] := by
  have h : bareOptions.IsTextual :=
    ⟨.inr ⟨_, rfl⟩, .inr ⟨_, rfl⟩, .inr ⟨_, rfl⟩, .inr ⟨_, rfl⟩, ⟨_, rfl⟩⟩
  exact ⟨h, generate_checksFirst h _ _ _⟩

end Tracepoint
