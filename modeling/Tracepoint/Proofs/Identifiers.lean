import Tracepoint.Proofs.Priority
import Tracepoint.Proofs.Probes
import Tracepoint.Proofs.Text.Uppercase

namespace Tracepoint.Text

def startsCIdentifier (c : Char) : Bool := c.isAlpha || c == '_'

def continuesCIdentifier (c : Char) : Bool := c.isAlphanum || c == '_'

def isCIdentifier : List Char → Bool
  | [] => false
  | c :: cs => startsCIdentifier c && cs.all continuesCIdentifier

variable {c : Char} {cs : List Char}

theorem continuesCIdentifier_of_isAlpha (h : c.isAlpha = true) : continuesCIdentifier c = true := by
  rw [continuesCIdentifier, Char.isAlphanum, h, Bool.true_or, Bool.true_or]

theorem continuesCIdentifier_of_starts (h : startsCIdentifier c = true) :
    continuesCIdentifier c = true := by
  rcases Bool.or_eq_true_iff.mp h with halpha | hunderscore
  · exact continuesCIdentifier_of_isAlpha halpha
  · rw [continuesCIdentifier, hunderscore, Bool.or_true]

theorem isCIdentifier_cons_iff : isCIdentifier (c :: cs) = true ↔
    startsCIdentifier c = true ∧ ∀ d ∈ c :: cs, continuesCIdentifier d = true := by
  rw [isCIdentifier, Bool.and_eq_true, List.all_eq_true, List.forall_mem_cons]
  constructor
  · intro h
    exact ⟨h.1, continuesCIdentifier_of_starts h.1, h.2⟩
  · intro h
    exact ⟨h.1, h.2.2⟩

theorem isAscii_of_continuesCIdentifier (h : continuesCIdentifier c = true) : IsAscii c := by
  simp only [continuesCIdentifier, Char.isAlphanum, Char.isAlpha, Char.isUpper, Char.isLower,
    Char.isDigit, Bool.or_eq_true, Bool.and_eq_true, decide_eq_true_eq, beq_iff_eq,
    UInt32.le_iff_toNat_le, ge_iff_le] at h
  rw [IsAscii]
  rcases h with ((⟨-, hu⟩ | ⟨-, hu⟩) | ⟨-, hu⟩) | rfl
  · exact Nat.lt_of_le_of_lt hu (by decide)
  · exact Nat.lt_of_le_of_lt hu (by decide)
  · exact Nat.lt_of_le_of_lt hu (by decide)
  · decide

theorem continuesCIdentifier_of_mem (h : isCIdentifier cs = true) :
    ∀ c ∈ cs, continuesCIdentifier c = true := by
  cases cs with
  | nil => cases h
  | cons c cs => exact (isCIdentifier_cons_iff.mp h).2

theorem isAscii_of_isCIdentifier (h : isCIdentifier cs = true) : ∀ c ∈ cs, IsAscii c :=
  fun c hc => isAscii_of_continuesCIdentifier (continuesCIdentifier_of_mem h c hc)

/-- Of a table only the rows within ASCII matter there. -/
theorem CodeRanges.contains_of_isAscii {ranges : CodeRanges} {n : Nat}
    (hback : ∀ r ∈ ranges.drop n, 128 ≤ r.1) (h : IsAscii c) :
    ranges.contains c = CodeRanges.contains (ranges.take n) c := by
  have hnone : CodeRanges.contains (ranges.drop n) c = false := by
    rw [CodeRanges.contains, List.any_eq_false]
    intro r hr
    have hfar := hback r hr
    rw [IsAscii] at h
    simp only [Bool.and_eq_true, decide_eq_true_eq]
    omega
  have hsplit : ranges.contains c =
      (CodeRanges.contains (ranges.take n) c || CodeRanges.contains (ranges.drop n) c) := by
    simp only [CodeRanges.contains]
    rw [← List.any_append, List.take_append_drop]
  rw [hsplit, hnone, Bool.or_false]

theorem contains_identifierStarts (h : IsAscii c) :
    identifierStarts.contains c = CodeRanges.contains (identifierStarts.take 3) c :=
  CodeRanges.contains_of_isAscii (by decide +kernel) h

theorem contains_identifierTails (h : IsAscii c) :
    identifierTails.contains c = CodeRanges.contains (identifierTails.take 1) c :=
  CodeRanges.contains_of_isAscii (by decide +kernel) h

theorem startsIdentifier_of_isAscii (h : IsAscii c) : startsIdentifier c = startsCIdentifier c := by
  have hall : ∀ n < 128, CodeRanges.contains (identifierStarts.take 3) (Char.ofNat n) =
      startsCIdentifier (Char.ofNat n) := by
    decide +kernel
  rw [startsIdentifier, contains_identifierStarts h]
  exact h.of_forall hall

theorem continuesIdentifier_of_isAscii (h : IsAscii c) :
    continuesIdentifier c = continuesCIdentifier c := by
  have hall : ∀ n < 128, (CodeRanges.contains (identifierStarts.take 3) (Char.ofNat n) ||
      CodeRanges.contains (identifierTails.take 1) (Char.ofNat n)) =
        continuesCIdentifier (Char.ofNat n) := by
    decide +kernel
  rw [continuesIdentifier, contains_identifierStarts h, contains_identifierTails h]
  exact h.of_forall hall

theorem continuesIdentifier_of_starts (h : startsIdentifier c = true) :
    continuesIdentifier c = true := by
  rw [startsIdentifier] at h
  rw [continuesIdentifier, h, Bool.true_or]

theorem isIdentifier_cons_iff : isIdentifier (c :: cs) = true ↔
    startsIdentifier c = true ∧ ∀ d ∈ c :: cs, continuesIdentifier d = true := by
  rw [isIdentifier, Bool.and_eq_true, List.all_eq_true, List.forall_mem_cons]
  constructor
  · intro h
    exact ⟨h.1, continuesIdentifier_of_starts h.1, h.2⟩
  · intro h
    exact ⟨h.1, h.2.2⟩

theorem continuesIdentifier_of_mem (h : isIdentifier cs = true) :
    ∀ c ∈ cs, continuesIdentifier c = true := by
  cases cs with
  | nil => cases h
  | cons c cs => exact (isIdentifier_cons_iff.mp h).2

theorem isCIdentifier_iff_of_isIdentifier (h : isIdentifier cs = true) :
    isCIdentifier cs = true ↔ ∀ c ∈ cs, IsAscii c := by
  refine ⟨isAscii_of_isCIdentifier, fun hascii => ?_⟩
  cases cs with
  | nil => cases h
  | cons c cs =>
    obtain ⟨hstart, hall⟩ := isIdentifier_cons_iff.mp h
    rw [isCIdentifier_cons_iff, ← startsIdentifier_of_isAscii (hascii c List.mem_cons_self)]
    refine ⟨hstart, fun d hd => ?_⟩
    rw [← continuesIdentifier_of_isAscii (hascii d hd)]
    exact hall d hd

theorem continuesCIdentifier_of_mem_upperChar (h : continuesIdentifier c = true)
    (hascii : IsAscii c ∨ c ∈ asciiCapitals) :
    ∀ d ∈ upperChar c, continuesCIdentifier d = true := by
  rcases hascii with hascii | hletter
  · have hall : ∀ n < 128, continuesCIdentifier (Char.ofNat n) = true →
        continuesCIdentifier (Char.ofNat n).toUpper = true := by
      decide +kernel
    rw [continuesIdentifier_of_isAscii hascii] at h
    rw [upperChar_of_isAscii hascii, List.forall_mem_singleton]
    exact IsAscii.of_forall hascii hall h
  · obtain ⟨d, ds, hds, hletters⟩ := exists_upperChar_of_asciiCapital hletter
    intro e he
    exact continuesCIdentifier_of_isAlpha (hletters e (hds ▸ he)).1

theorem exists_upperChar_eq_cons (h : startsIdentifier c = true)
    (hascii : IsAscii c ∨ c ∈ asciiCapitals) :
    ∃ d ds, upperChar c = d :: ds ∧ startsCIdentifier d = true := by
  rcases hascii with hascii | hletter
  · have hall : ∀ n < 128, startsCIdentifier (Char.ofNat n) = true →
        startsCIdentifier (Char.ofNat n).toUpper = true := by
      decide +kernel
    rw [startsIdentifier_of_isAscii hascii] at h
    exact ⟨c.toUpper, [], upperChar_of_isAscii hascii, IsAscii.of_forall hascii hall h⟩
  · obtain ⟨d, ds, hds, hletters⟩ := exists_upperChar_of_asciiCapital hletter
    have hd := (hletters d List.mem_cons_self).1
    exact ⟨d, ds, hds, by rw [startsCIdentifier, hd, Bool.true_or]⟩

/-- A name that begins with an identifier in capitals. -/
theorem isCIdentifier_upper_append_iff (h : isIdentifier cs = true) {rest : List Char}
    (hrest : ∀ c ∈ rest, continuesCIdentifier c = true) :
    isCIdentifier (upper cs ++ rest) = true ↔ ∀ c ∈ cs, IsAscii c ∨ c ∈ asciiCapitals := by
  constructor
  · intro hname c hc
    rw [← isAscii_upperChar_iff]
    intro d hd
    apply isAscii_of_isCIdentifier hname
    exact List.mem_append_left _ (List.mem_flatMap.mpr ⟨c, hc, hd⟩)
  · intro hascii
    cases cs with
    | nil => cases h
    | cons c cs =>
      obtain ⟨hstart, hall⟩ := isIdentifier_cons_iff.mp h
      have hupper : ∀ d ∈ upper (c :: cs) ++ rest, continuesCIdentifier d = true := by
        intro d hd
        rcases List.mem_append.mp hd with hd | hd
        · obtain ⟨e, he, hde⟩ := List.mem_flatMap.mp hd
          exact continuesCIdentifier_of_mem_upperChar (hall e he) (hascii e he) d hde
        · exact hrest d hd
      obtain ⟨d, ds, hfirst, hd⟩ := exists_upperChar_eq_cons hstart (hascii c List.mem_cons_self)
      have hcons : upper (c :: cs) ++ rest = d :: (ds ++ upper cs ++ rest) := by
        simp [upper, hfirst]
      rw [hcons] at hupper ⊢
      exact isCIdentifier_cons_iff.mpr ⟨hd, hupper⟩

end Tracepoint.Text

namespace Tracepoint

def IsCName (name : String) : Prop := Text.isCIdentifier name.toList = true

instance (name : String) : Decidable (IsCName name) := instDecidableEqBool _ _

theorem Settings.isIdentifier_of_checkProvider {value : Value} {provider : String}
    (h : checkProvider value = .ok provider) : Text.isIdentifier provider.toList = true := by
  obtain rfl := value_of_checkProvider h
  rw [checkProvider] at h
  by_contra hnot
  rw [if_neg hnot] at h
  cases h

/-- The provider of settings is an identifier, but it may be one beyond ASCII. -/
theorem Settings.isIdentifier_provider {given : Entries Value} {s : Settings}
    (h : ofEntries given = .ok s) : Text.isIdentifier s.provider.toList = true := by
  obtain ⟨⟨own, other⟩, -, h⟩ := Except.bind_ok_iff.mp h
  obtain ⟨backend, -, h⟩ := Except.bind_ok_iff.mp h
  obtain ⟨provider, hprovider, h⟩ := Except.bind_ok_iff.mp h
  obtain ⟨verbosity, -, h⟩ := Except.bind_ok_iff.mp h
  obtain rfl := Except.pure_ok_iff.mp h
  exact isIdentifier_of_checkProvider hprovider

namespace Header

theorem toList_firingName (provider : String) (e : Event) :
    (firingName provider e).toList =
      Text.upper provider.toList ++ '_' :: Text.upper e.name.toList := by
  simp [firingName, upper, ToString.toString]

/-- The name of a macro that begins like that of a probe. -/
theorem isCName_firingName_append_iff {provider : String}
    (h : Text.isIdentifier provider.toList = true) {e : Event} (he : IsCName e.name)
    (suffix : String) (hsuffix : suffix.toList.all Text.continuesCIdentifier = true) :
    IsCName (firingName provider e ++ suffix) ↔
      ∀ c ∈ provider.toList, Text.IsAscii c ∨ c ∈ Text.asciiCapitals := by
  have hname : ∀ c ∈ '_' :: Text.upper e.name.toList ++ suffix.toList,
      Text.continuesCIdentifier c = true := by
    have hunderscore : Text.continuesCIdentifier '_' = true := by decide
    rw [List.forall_mem_append, List.forall_mem_cons]
    refine ⟨⟨hunderscore, fun d hd => ?_⟩, List.all_eq_true.mp hsuffix⟩
    obtain ⟨c, hc, hd⟩ := List.mem_flatMap.mp hd
    have hascii := Text.isAscii_of_isCIdentifier he c hc
    have hcontinues : Text.continuesIdentifier c = true := by
      rw [Text.continuesIdentifier_of_isAscii hascii]
      exact Text.continuesCIdentifier_of_mem he c hc
    exact Text.continuesCIdentifier_of_mem_upperChar hcontinues (.inl hascii) d hd
  rw [IsCName, String.toList_append, toList_firingName, List.append_assoc]
  exact Text.isCIdentifier_upper_append_iff h hname

end Header

/-- The files for DTrace with the names that they take from the provider: the header fires every
probe through a macro behind a second one, and the descriptor says whose probes it lists. -/
structure WritesNames (o : Options) (provider : String) (lines : List String) : Prop where
  header : ∃ body, (generate Backend.dtrace.name Kind.header.flag o lines).result =
      .ok (unlines (wrap .header body)) ∧
    ListsProbes lines body "    if (" ["#include \"trace-dtrace.h\""] [] Header.idleFunction
      (Header.guardedFunction provider)
  descriptor : ∃ body, (generate Backend.dtrace.name Kind.descriptor.flag o lines).result =
      .ok (unlines (wrap .descriptor body)) ∧
    ListsProbes lines body "        probe " [s!"provider {provider} \x7b"] ["\x7d;"] (fun _ => [])
      (fun e => [Probe.declaration e])

/-- All names that come from a provider are such as C takes. -/
structure HasCNames (provider : String) (e : Event) : Prop where
  fires : IsCName (Header.firingName provider e)
  enabled : IsCName (Header.firingName provider e ++ "_ENABLED")
  described : IsCName provider

theorem result_generate_of_convert {b : Backend} {k : Kind} {o : Options} {ctx : Context}
    {lines body : List String} (hvalid : validate b k o = .ok ()) (hctx : o.context k = .ok ctx)
    (hbody : (convert b k ctx (.ofLines lines)).result = .ok body) :
    (generate b.name k.flag o lines).result = .ok (unlines (wrap k body)) := by
  rw [generate, resolve_name_flag]
  simp [generateFile, hvalid, hctx, hbody, bind, Except.bind, Except.map]

theorem writesNames {o : Options} {provider : String} (h : o.provider = .str provider)
    (lines : List String) : WritesNames o provider lines := by
  let ctx : Context := { provider := o.provider, binary := o.binary }
  have hprovider : ctx.provider = .str provider := h
  have hready : Header.dtrace.obstacle? ctx.reset = none := by
    simp [Header.dtrace, Context.reset, hprovider]
  have hwritable : Probe.descriptor.openingObstacle? ctx.reset = none := by
    simp [Probe.descriptor, Context.reset, hprovider, Value.obstacle?_str]
  have hopening : Probe.descriptor.opening ctx.reset = [s!"provider {provider} \x7b"] := by
    simp only [Probe.descriptor, Context.reset, hprovider, Value.text]
  have hheader : ∃ body, (convert .dtrace .header ctx (.ofLines lines)).result = .ok body ∧
      ListsProbes lines body "    if (" ["#include \"trace-dtrace.h\""] [] Header.idleFunction
        (Header.guardedFunction provider) :=
    exists_convert_listsProbes (t := Header.dtrace) rfl ⟨rfl, rfl⟩ ⟨rfl, rfl⟩ hready rfl
      (fun _ => rfl) rfl (Header.fragment_dtrace hprovider) (Header.dtrace_distinguishes provider)
      lines
  have hdescriptor : ∃ body,
      (convert .dtrace .descriptor ctx (.ofLines lines)).result = .ok body ∧
        ListsProbes lines body "        probe " [s!"provider {provider} \x7b"] ["\x7d;"]
          (fun _ => []) (fun e => [Probe.declaration e]) :=
    exists_convert_listsProbes (t := Probe.descriptor) rfl ⟨rfl, hwritable⟩ ⟨rfl, rfl⟩ rfl hopening
      (fun _ => rfl) rfl rfl (Probe.descriptor_distinguishes provider) lines
  constructor
  · obtain ⟨body, hbody, hlists⟩ := hheader
    exact ⟨body, result_generate_of_convert rfl rfl hbody, hlists⟩
  · obtain ⟨body, hbody, hlists⟩ := hdescriptor
    exact ⟨body, result_generate_of_convert rfl rfl hbody, hlists⟩

/-- The names stand in the files, whatever the lines. All of them are such as C takes if and only if
the provider is in ASCII; for the two in capitals a letter that gets there by its upper case is as
good. -/
theorem hasCNames_iff {given : Entries Value} {s : Settings}
    (h : Settings.ofEntries given = .ok s) :
    (∀ lines, WritesNames s.options s.provider lines) ∧
      ∀ e : Event, IsCName e.name →
        (HasCNames s.provider e ↔ ∀ c ∈ s.provider.toList, Text.IsAscii c) ∧
        (IsCName (Header.firingName s.provider e) ↔
          ∀ c ∈ s.provider.toList, Text.IsAscii c ∨ c ∈ Text.asciiCapitals) ∧
        (IsCName (Header.firingName s.provider e ++ "_ENABLED") ↔
          ∀ c ∈ s.provider.toList, Text.IsAscii c ∨ c ∈ Text.asciiCapitals) := by
  have hprovider := Settings.isIdentifier_provider h
  refine ⟨writesNames rfl, fun e he => ?_⟩
  have hdescribed : IsCName s.provider ↔ ∀ c ∈ s.provider.toList, Text.IsAscii c :=
    Text.isCIdentifier_iff_of_isIdentifier hprovider
  have hfires : IsCName (Header.firingName s.provider e) ↔
      ∀ c ∈ s.provider.toList, Text.IsAscii c ∨ c ∈ Text.asciiCapitals := by
    have hbare := Header.isCName_firingName_append_iff hprovider he "" rfl
    rwa [String.append_empty] at hbare
  have henabled := Header.isCName_firingName_append_iff hprovider he "_ENABLED" rfl
  refine ⟨⟨fun hnames => hdescribed.mp hnames.described, fun hascii => ?_⟩, hfires, henabled⟩
  have hcapitals : ∀ c ∈ s.provider.toList, Text.IsAscii c ∨ c ∈ Text.asciiCapitals :=
    fun c hc => .inl (hascii c hc)
  exact ⟨hfires.mpr hcapitals, henabled.mpr hcapitals, hdescribed.mpr hascii⟩

/-- Settings with a provider and nothing else. -/
theorem ofEntries_provider {provider : String} (h : Text.isIdentifier provider.toList = true) :
    Settings.ofEntries [("provider", .str provider)] = .ok { provider } := by
  have hbind : Settings.signature.bind [] [("provider", .str provider)] =
      .ok ([("provider", .str provider)], []) := by
    cbv
  have hprovider : Settings.checkProvider (.str provider) = .ok provider := if_pos h
  refine Except.bind_ok_iff.mpr ⟨_, Except.mapError_ok_iff.mpr hbind, ?_⟩
  refine Except.bind_ok_iff.mpr ⟨none, rfl, ?_⟩
  refine Except.bind_ok_iff.mpr ⟨provider, hprovider, ?_⟩
  exact Except.bind_ok_iff.mpr ⟨.normal, rfl, rfl⟩

def runEvent : Event := Event.parse "run() \"\""

/-- A provider of which no more than the capitals are in ASCII. -/
theorem hasCNames_iff_strasse :
    Settings.ofEntries [("provider", .str "straße")] = .ok { provider := "straße" } ∧
      IsCName runEvent.name ∧ IsCName (Header.firingName "straße" runEvent) ∧
      ¬HasCNames "straße" runEvent := by
  have hid : Text.isIdentifier "straße".toList = true := by decide +kernel
  have hgiven := ofEntries_provider hid
  have hname : IsCName runEvent.name := by decide
  obtain ⟨hnames, hfires, -⟩ := (hasCNames_iff hgiven).2 runEvent hname
  have hcapitals : "straße".toList.all
      (fun c => decide (Text.IsAscii c ∨ c ∈ Text.asciiCapitals)) = true := by decide
  refine ⟨hgiven, hname, hfires.mpr (by simpa using hcapitals), fun h => ?_⟩
  have hascii := hnames.mp h 'ß' (by decide)
  exact absurd hascii (by decide)

theorem not_hasCNames : ¬∀ (given : Entries Value) (s : Settings) (e : Event),
    Settings.ofEntries given = .ok s → IsCName e.name → HasCNames s.provider e := by
  intro h
  have hid : Text.isIdentifier "é".toList = true := by decide +kernel
  have hnames := h _ _ runEvent (ofEntries_provider hid) (by decide)
  exact absurd hnames.described (by decide)

end Tracepoint
