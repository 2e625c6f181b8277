import Farcall.Proofs.Alphabets
import Farcall.Proofs.ReadingLimits
import Farcall.Proofs.ToldFailures

/-!
# What the command that writes proxies reports

A call of the command prints a proxy, or it tells what is wrong with the service, or it stops with a
fault. Faults come from descriptions only: from a scalar that does not fit its tag, from nesting that is
too deep, from a flawed part, from an enumeration whose name is not a text, and from half of a surrogate
pair in what is to be printed.
-/

namespace Farcall.CommandLine

-- ---------------------------------------------------------------------------
-- Proxies
-- ---------------------------------------------------------------------------

def NamesNoText (s : Service) : Prop :=
  ∃ e ∈ s.enums, ∀ name, e.1 ≠ .str name

theorem told_each {f : β → Lines} (h : ∀ b ∈ bs, ToldUnless flaw (f b)) :
    ToldUnless flaw (Target.each f bs) := by
  induction bs with
  | nil => exact toldUnless_ok _
  | cons b bs ih =>
    obtain ⟨hb, hbs⟩ := List.forall_mem_cons.mp h
    exact hb.bind fun _ _ => (ih hbs).bind fun _ _ => toldUnless_ok _

theorem told_checkLabels : ToldUnless flaw (Python.checkLabels enum labels) := by
  induction labels with
  | nil => exact toldUnless_ok ()
  | cons label labels ih =>
    unfold Python.checkLabels
    split
    · exact toldUnless_error rfl
    · exact ih

theorem told_checkMembers : ToldUnless flaw (Python.checkMembers members) := by
  induction members with
  | nil => exact toldUnless_ok ()
  | cons member members ih =>
    unfold Python.checkMembers
    split
    · exact toldUnless_error rfl
    · exact ih

theorem told_checkEnums (h : ∀ e ∈ es, (∀ name, e.1 ≠ .str name) → flaw) :
    ToldUnless flaw (Python.checkEnums members es) := by
  induction es with
  | nil => exact toldUnless_ok ()
  | cons e es ih =>
    obtain ⟨hfirst, hrest⟩ := List.forall_mem_cons.mp h
    obtain ⟨v, labels⟩ := e
    cases v with
    | str name =>
      rw [Python.checkEnums]
      split
      · exact toldUnless_error (by rfl)
      · exact told_checkLabels.bind fun _ _ => ih hrest
    | _ => exact toldUnless_fault (hfirst nofun) _

theorem told_literalValues : ToldUnless flaw (Literal.checkValues ms) := by
  induction ms with
  | nil => exact toldUnless_ok ()
  | cons m ms ih =>
    have hvalue : ToldUnless flaw ((Json.writeInt m.2).mapError fun u => .fault u.fault) := by
      unfold Json.writeInt
      split
      · exact toldUnless_ok _
      · exact toldUnless_error rfl
    exact hvalue.bind fun _ _ => ih

theorem told_python [Alphabet] (e : Emission) :
    ToldUnless (NamesNoText e.service) (Python.target.compile e) := by
  have hnames : ToldUnless (NamesNoText e.service) (Python.checkNames e) := by
    by_cases hname : Python.isName e.className = true
    · rw [Python.checkNames, if_pos hname]
      exact told_checkMembers.bind fun _ _ => told_checkEnums fun x hx h => ⟨x, hx, h⟩
    · rw [Python.checkNames, if_neg hname]
      exact toldUnless_error (by rfl)
  have hsections : ToldUnless (NamesNoText e.service) (Python.target.sections e) :=
    (hnames.bind fun _ _ => toldUnless_ok _).bind fun _ _ =>
      (told_each fun _ _ => told_literalValues.bind fun _ _ => toldUnless_ok _).bind fun _ _ =>
        (toldUnless_ok _).bind fun _ _ => (told_each fun _ _ => toldUnless_ok _).bind fun _ _ =>
          (told_each fun _ _ => toldUnless_ok _).bind fun _ _ => toldUnless_ok _
  exact (hsections.bind fun _ _ => toldUnless_ok _).bind fun _ _ => toldUnless_ok _

theorem told_javaScript [Alphabet] (e : Emission) :
    ToldUnless (NamesNoText e.service) (JavaScript.target.compile e) := by
  have henum : ∀ x ∈ e.service.enums,
      ToldUnless (NamesNoText e.service) (JavaScript.target.enum e x.1 x.2) := by
    intro x hx
    refine told_literalValues.bind fun _ _ => ToldUnless.bind ?_ fun _ _ => toldUnless_ok _
    by_cases htext : ∃ name, x.1 = .str name
    · obtain ⟨name, hname⟩ := htext
      have hvalue : Literal.value x.1 = .ok (Literal.text name) := by
        rw [hname]
        rfl
      rw [hvalue]
      exact toldUnless_ok _
    · unfold Literal.value
      cases Json.write Json.spaced x.1 with
      | ok text => exact toldUnless_ok _
      | error u => exact toldUnless_fault ⟨x, hx, not_exists.mp htext⟩ _
  have hsections : ToldUnless (NamesNoText e.service) (JavaScript.target.sections e) :=
    (toldUnless_ok _).bind fun _ _ => (told_each henum).bind fun _ _ =>
      (toldUnless_ok _).bind fun _ _ => (told_each fun _ _ => toldUnless_ok _).bind fun _ _ =>
        (told_each fun _ _ => toldUnless_ok _).bind fun _ _ => toldUnless_ok _
  exact (hsections.bind fun _ _ => toldUnless_ok _).bind fun _ _ => toldUnless_ok _

theorem find_cases [Alphabet] (h : Catalog.standard.find (.str language) = .ok t) :
    t = JavaScript.target ∨ t = Python.target := by
  unfold Catalog.find at h
  dsimp only at h
  split at h
  · rename_i hlookup
    cases h
    simp only [Catalog.standard, List.lookup_cons, List.lookup_nil] at hlookup
    split at hlookup
    · exact .inl (Option.some.inj hlookup).symm
    · split at hlookup
      · exact .inr (Option.some.inj hlookup).symm
      · cases hlookup
  · cases h

theorem find_name [Alphabet] (h : Catalog.standard.find (.str language) = .ok t) :
    Catalog.standard.find (.str t.name) = .ok t := by
  have hother : (Text.lower Python.target.name == Text.lower JavaScript.target.name) = false := by
    have hlower : (Text.lower "Python" == Text.lower "JavaScript") = false := by decide +kernel
    exact hlower
  obtain rfl | rfl := find_cases h
  · simp only [Catalog.find, Catalog.standard, List.lookup_cons, beq_self_eq_true]
  · simp only [Catalog.find, Catalog.standard, List.lookup_cons, beq_self_eq_true, hother]

theorem told_proxy [Alphabet] : ToldUnless (NamesNoText s)
    (Catalog.standard.proxy settings s (.str language) className) := by
  have hfind : ∀ language, ToldUnless (NamesNoText s) (Catalog.standard.find (.str language)) := by
    intro language
    unfold Catalog.find
    dsimp only
    split
    · exact toldUnless_ok _
    · exact toldUnless_error rfl
  refine (hfind language).bind fun t ht => (hfind t.name).bind fun t' ht' => ?_
  obtain rfl | rfl := find_cases ht'
  · exact told_javaScript ⟨s, _⟩
  · exact told_python ⟨s, _⟩

-- ---------------------------------------------------------------------------
-- Sources
-- ---------------------------------------------------------------------------

/-- A description file that is not read as a service or a proxy, for a reason that need not be
told. -/
inductive Misread [Alphabet] (h : Host) (source : String) : Prop
  | scalar (hentry : h.entry? source = some (.file content))
    (hread : Description.document (Description.fileName source) content = .error (.fault f))
  | part (hentry : h.entry? source = some (.file content))
    (hread : Description.document (Description.fileName source) content = .ok (.map r))
    (hflawed : Flawed r)
  | name (hservice : sourceService h source = .ok s) (hname : NamesNoText s)

theorem written_document [Alphabet] (h : Description.document file content = .ok v) :
    v = .null ∨ Yaml.Written v := by
  unfold Description.document at h
  split at h
  · cases h
  · exact Yaml.written_read (mapError_ok.mp h)

theorem document_error [Alphabet] (h : Description.document file content = .error e) :
    isTold e = true ∨ ∃ f, e = .fault f := by
  unfold Description.document at h
  split at h
  · cases h
    exact .inr ⟨_, rfl⟩
  · rename_i text _
    cases hread : Yaml.read (String.ofList (Description.unifyLineEnds text.toList)) with
    | ok v =>
      rw [hread] at h
      cases h
    | error p =>
      rw [hread] at h
      cases h
      cases p with
      | malformed line reason => exact .inl rfl
      | fault f => exact .inr ⟨f, rfl⟩

theorem told_sourceService [Alphabet] (hfile : Description.isDescription source = true) :
    ToldUnless (Misread h source) (sourceService h source) := by
  rw [sourceService, if_pos hfile, fileService]
  split
  · exact toldUnless_error rfl
  · rename_i content hentry
    rw [Description.load, hfile]
    have hdocument : ToldUnless (Misread h source)
        (Description.document (Description.fileName source) content) := by
      intro e he
      rcases document_error he with htold | ⟨f, rfl⟩
      · exact .inl htold
      · exact .inr ⟨.scalar hentry he, f, rfl⟩
    refine hdocument.bind fun v hv => ?_
    cases v with
    | map r =>
      have hr : Yaml.Written (.map r) := (written_document hv).resolve_left nofun
      intro e he
      exact (told_service hr e he).imp_right fun h => ⟨.part hentry hv h.1, h.2⟩
    | _ => exact toldUnless_error rfl
  · rw [Description.load, hfile]
    exact toldUnless_error rfl

-- ---------------------------------------------------------------------------
-- Settings
-- ---------------------------------------------------------------------------

theorem told_readTimeout (x : Double) : ToldUnless flaw (Settings.readTimeout (.float x)) := by
  unfold Settings.readTimeout Value.numeric?
  dsimp only
  split
  · exact toldUnless_error rfl
  · exact toldUnless_ok _

theorem told_configure {settings : Settings} (hknown : ∀ c ∈ changes, c.1 ∈ Settings.known)
    (htimeout : ∃ o : Option Double, changes.lookup "timeout" = some ((o.map .float).getD .null)) :
    ToldUnless flaw (settings.configure changes).2 := by
  obtain ⟨o, htimeout⟩ := htimeout
  have hknown : ¬ (changes.any fun c => decide (c.1 ∉ Settings.known)) = true := by
    simpa using hknown
  rw [Settings.configure, if_neg hknown]
  dsimp only
  rw [htimeout]
  cases o with
  | none => exact toldUnless_ok ()
  | some x =>
    dsimp only [Option.map_some, Option.getD_some]
    split
    · exact toldUnless_ok ()
    · rename_i e he
      intro _ h
      cases h
      exact told_readTimeout x e he

theorem told_configureFrom (environment : List (String × String)) :
    ToldUnless flaw (Settings.initial.configureFrom environment).2 := by
  unfold Settings.configureFrom
  split
  · rename_i e he
    refine toldUnless_error ?_
    unfold Settings.timeoutOfText? at he
    split at he
    · cases he
    · cases he
    · split at he <;> cases he
      rfl
  · rename_i timeout _
    exact told_configure (by simp [Settings.known]) ⟨timeout, rfl⟩

-- ---------------------------------------------------------------------------
-- Reports
-- ---------------------------------------------------------------------------

def compiled [Alphabet] (h : Host) (settings : Settings) (c : GenerateCall) :
    Except Failure String := do
  let s ← sourceService h c.source
  Catalog.standard.proxy settings s (.str (orDefault c.language settings.languageName)) c.className

theorem compileLogged_snd [Alphabet] (settings : Settings) (s : Service) (language : String)
    (className : Option String) : (compileLogged settings s language className).2 =
      Catalog.standard.proxy settings s (.str language) className := by
  unfold compileLogged
  split
  · rename_i e he
    rw [Catalog.proxy, he, error_bind]
  · rename_i t ht
    dsimp only
    split
    · rename_i e he
      rw [orDefault] at he
      rw [Catalog.proxy, ht, ok_bind, Catalog.compile, find_name ht, ok_bind, Target.compile, he,
        error_bind]
    · rfl

theorem proxyText_snd [Alphabet] (h : Host) (settings : Settings) (c : GenerateCall) :
    (proxyText h settings c).2 = compiled h settings c := by
  unfold proxyText compiled
  split
  · rename_i e he
    rw [he, error_bind]
  · rename_i s hs
    rw [hs, ok_bind, ← compileLogged_snd]

def reported [Alphabet] (source : String) : Except Failure String → Report
  | .error e => failed s!"Cannot generate proxy for {source}" e
  | .ok text =>
    if Text.isEncodable text then .printed text
    else ⟨1, "", "", none, some (.fault .notEncodable)⟩

theorem generate_eq [Alphabet] (hcall : generateCall h words = .ok c) (hout : c.output = none) :
    generate h settings false words = reported c.source (compiled h settings c) := by
  rw [generate, hcall, ← proxyText_snd]
  simp only [hout, Bool.false_eq_true, if_false]
  cases (proxyText h settings c).2 <;> rfl

theorem run_generate [Alphabet] (h : Host) (words : List String) : run h ("generate" :: words) =
    command h fun settings => generate h settings false words := by
  have hparse : parse mainOptions false ("generate" :: words) = .ok ⟨[], "generate" :: words⟩ := by
    simp [parse, parseWords]
  rw [run, if_neg (by simp), hparse]
  simp only [Parsed.has, Parsed.value?, List.reverse_nil, List.lookup_nil, Option.isSome_none,
    Bool.false_eq_true, if_false]

theorem failed_told [Alphabet] (h : isTold e = true) : ∃ errors, errors ≠ "" ∧
    failed what e = ⟨1, "", errors, none, none⟩ := by
  refine ⟨errorText what e, ?_, by rw [failed, if_pos h]⟩
  simp [errorText, toString]

theorem failed_cases [Alphabet] (h : isTold e = true ∨ flaw ∧ ∃ f, e = .fault f) :
    (∃ errors, errors ≠ "" ∧ failed what e = ⟨1, "", errors, none, none⟩) ∨
      flaw ∧ ∃ f, failed what e = ⟨1, "", "", none, some (.fault f)⟩ := by
  by_cases htold : isTold e = true
  · exact .inl (failed_told htold)
  · obtain ⟨hflaw, f, rfl⟩ := h.resolve_left htold
    exact .inr ⟨hflaw, f, by rw [failed, if_neg htold]⟩

theorem told_compiled [Alphabet] (hfile : Description.isDescription c.source = true) :
    ToldUnless (Misread h c.source) (compiled h settings c) := by
  refine (told_sourceService hfile).bind fun s hs => fun e he => ?_
  exact (told_proxy e he).imp_right fun h => ⟨.name hs h.1, h.2⟩

-- ---------------------------------------------------------------------------
-- Runs on a described file
-- ---------------------------------------------------------------------------

theorem generateCall_words (h : Host) (file language name : String) :
    generateCall h ["-l", language, "-n", name, "--", file] =
      .ok ⟨file, some language, some name, none⟩ := by
  with_unfolding_all rfl

theorem generateCall_file (h : Host) :
    generateCall h ["api.yaml"] = .ok ⟨"api.yaml", none, none, none⟩ := by
  have hparse : parse generateOptions true ["api.yaml"] = .ok ⟨[], ["api.yaml"]⟩ := by
    simp [parse, parseWords]
  rw [generateCall, hparse]
  rfl

def describedBy (content : List UInt8) : Host :=
  ⟨"cli", [], [("api.yaml", .file content)], []⟩

theorem sourceService_describedBy [Alphabet] (content : List UInt8) :
    sourceService (describedBy content) "api.yaml" =
      Description.document "api.yaml" content >>= Document.service := by
  have hfile : Description.isDescription "api.yaml" = true := by decide +kernel
  have hname : Description.fileName "api.yaml" = "api.yaml" := by decide +kernel
  have hpath : Description.normalPath "api.yaml" = "api.yaml" := by decide +kernel
  have hentry : Host.entry? (describedBy content) "api.yaml" = some (.file content) := by
    rw [Host.entry?, hpath]
    rfl
  rw [sourceService, if_pos hfile, fileService, hentry]
  dsimp only
  rw [Description.load, hfile, hname]
  rfl

theorem document_of [Alphabet] (htext : Text.utf8? content = some text)
    (hlines : String.ofList (Description.unifyLineEnds text.toList) = text)
    (hallowed : text.toList.all Yaml.isAllowed = true)
    (hnode : Yaml.Node.ofText text = .ok (some node)) (hvalue : Yaml.valueAt 0 node = .ok v) :
    Description.document "api.yaml" content = .ok v := by
  rw [Description.document, htext]
  dsimp only
  rw [hlines, Yaml.read, if_pos hallowed, hnode, ok_bind]
  dsimp only
  rw [hvalue]
  rfl

theorem run_describedBy [Alphabet] (hcall : generateCall (describedBy content) words =
      .ok ⟨"api.yaml", language, className, none⟩)
    (hdocument : Description.document "api.yaml" content = .ok v) :
    run (describedBy content) ("generate" :: words) =
      reported "api.yaml" (Document.service v >>= fun s => Catalog.standard.proxy Settings.initial s
        (.str (orDefault language Settings.initial.languageName)) className) := by
  have hsettings : Settings.initial.configureFrom (describedBy content).environment =
      (Settings.initial, .ok ()) := rfl
  rw [run_generate, command, hsettings]
  dsimp only
  rw [generate_eq hcall rfl, compiled, sourceService_describedBy, hdocument, ok_bind]

-- ---------------------------------------------------------------------------
-- The whole command
-- ---------------------------------------------------------------------------

/-- A name that is half of a surrogate pair is compiled, but the text of the proxy has no encoding. -/
theorem half_stops_generate :
    @run .withHalves (describedBy (Text.ascii "name: \"\\ud83d\"\n")) ["generate", "api.yaml"] =
      ⟨1, "", "", none, some (.fault .notEncodable)⟩ := by
  let half := String.singleton (@Alphabet.half .withHalves 0xD83D)
  have hdocument : @Description.document .withHalves "api.yaml"
      (Text.ascii "name: \"\\ud83d\"\n") = .ok (.map [(.str "name", .str half)]) := by
    have hnode : @Yaml.Node.ofText .withHalves "name: \"\\ud83d\"\n" =
        .ok (some (.mapping .map [(.scalar .str "name", .scalar .str half)])) := by
      with_unfolding_all rfl
    refine @document_of _ _ _ _ .withHalves (by decide +kernel) (by decide +kernel)
      (by decide +kernel) hnode ?_
    simp only [Yaml.valueAt, Yaml.recordAt, Yaml.mergedAt, Yaml.ownAt, Yaml.keyAt, Yaml.Node.tag]
    with_unfolding_all rfl
  have hcompiled : ((@Document.service .withHalves (.map [(.str "name", .str half)]) >>= fun s =>
      (@Catalog.standard .withHalves).proxy Settings.initial s
        (.str (orDefault none Settings.initial.languageName)) none).toOption.any
          fun text => !@Text.isEncodable .withHalves text) = true := by
    decide +kernel
  obtain ⟨text, htext, hhalf⟩ := (Option.any_eq_true _ _).mp hcompiled
  rw [@run_describedBy _ _ _ _ _ .withHalves (generateCall_file _) hdocument,
    toOption_eq_some.mp htext]
  exact if_neg (by simpa using hhalf)

end Farcall.CommandLine
