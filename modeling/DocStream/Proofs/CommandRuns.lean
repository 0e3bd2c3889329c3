import DocStream.Proofs.Denotation
import DocStream.Proofs.FirstFailure
import DocStream.Proofs.Precedence

/-! What a command line prints that asks for a translation: the whole stream of its source, or
nothing but the first thing that went wrong on the way to it. -/

namespace DocStream.CommandLine

def Sources.bytes (s : Sources) (path : String) : Except ReadFault ByteArray :=
  if path = "-" then s.input else s.file path

def translatorFor (c : Config) : Translator :=
  { inline := Fragment.Html.reader c.strict
    plain := Fragment.Plain.reader
    dialect := c.dialect
    maxDepth := c.maxDepth }

/-- What a command line asks for, over its configuration file and the defaults. -/
structure Effective (s : Sources) (a : Arguments) (c : Config) : Prop where
  dialect : c.dialect = a.dialect.getD ((Config.configValue? s a .dialect).getD Dialect.asciiDoc)
  format : c.format = a.format.getD ((Config.configValue? s a .format).getD OutputFormat.text)
  wikiMode : c.wikiMode = (a.wiki || (Config.configValue? s a .wikiMode).getD false)
  strict : c.strict = (a.strict || (Config.configValue? s a .strict).getD false)
  maxDepth : c.maxDepth = (Config.configValue? s a .maxDepth).getD (256 : Nat)

inductive Refusal where
  | config (fault : Config.Fault)
  | source (fault : ReadFault)
  | document (error : Source.Error)
  | block (failure : Failure)

def Refusal.message (path : String) : Refusal → String
  | config f => "Configuration error: " ++ f.message
  | source f => "Error reading " ++ path ++ ": " ++ f.message
  | document e => "Translation error: " ++ e.message
  | block f => "Translation error: " ++ f.message

/-- A refusal stands for the first thing that goes wrong: all that comes before it succeeded. -/
inductive Refuses (s : Sources) (a : Arguments) (path : String) : Refusal → Prop where
  | config {f : Config.Fault} (hconfig : loadConfig s a = .error f) : Refuses s a path (.config f)
  | unreadable {c : Config} {f : ReadFault} (hconfig : loadConfig s a = .ok c)
      (hbytes : s.bytes path = .error f) : Refuses s a path (.source f)
  | notText {c : Config} {bytes : ByteArray} (hconfig : loadConfig s a = .ok c)
      (hbytes : s.bytes path = .ok bytes) (htext : ∀ text : String, bytes ≠ text.toUTF8) :
      Refuses s a path (.source .notUtf8)
  | document {c : Config} {text : String} {e : Source.Error} (hconfig : loadConfig s a = .ok c)
      (hbytes : s.bytes path = .ok text.toUTF8) (hdocument : Source.read text = .error e) :
      Refuses s a path (.document e)
  | block {c : Config} {text : String} {d : Document} {v : Visit} {f : Failure}
      (hconfig : loadConfig s a = .ok c) (hbytes : s.bytes path = .ok text.toUTF8)
      (hdocument : Source.read text = .ok d)
      (hblock : ((translatorFor c).walker c.wikiMode).FailsFirst d.visits v f) :
      Refuses s a path (.block f)

/-- A source that is translated: its events are the image of a document of which every block is
accepted. -/
structure Completes (s : Sources) (a : Arguments) (path : String) (c : Config)
    (es : List Event) : Prop where
  config : loadConfig s a = .ok c
  document : ∃ text d, s.bytes path = .ok text.toUTF8 ∧ Source.read text = .ok d ∧
    (∀ v ∈ d.visits, ((translatorFor c).walker c.wikiMode).failureAt v = none) ∧
    (translatorFor c).parse Source.read c.wikiMode text = .ok es ∧
    es = (Tree.container (.document c.dialect)
      (((translatorFor c).walker c.wikiMode).blocksTrees false d.blocks)).flatten

theorem decode_toUTF8 (text : String) : decode text.toUTF8 = .ok text := by
  have hvalid : text.toUTF8.IsValidUTF8 := text.isValidUTF8
  rw [decode, String.fromUTF8?, dif_pos hvalid]
  rfl

theorem decode_eq_error {bytes : ByteArray} (h : ∀ text : String, bytes ≠ text.toUTF8) :
    decode bytes = .error .notUtf8 := by
  have hinvalid : ¬bytes.IsValidUTF8 := fun hvalid => h ⟨bytes, hvalid⟩ rfl
  rw [decode, String.fromUTF8?, dif_neg hinvalid]

def verdict (s : Sources) (a : Arguments) (path : String) :
    Except Refusal (Config × List Event) := do
  let c ← (loadConfig s a).mapError .config
  let bytes ← (s.bytes path).mapError .source
  let text ← (decode bytes).mapError .source
  let d ← (Source.read text).mapError .document
  let es ← ((translatorFor c).translate c.wikiMode d.blocks).mapError .block
  return (c, es)

section
variable {ε ε' α β : Type} {stage : Except ε α} (report : ε → ε') (next : α → Except ε' β)

theorem stage_ok {x : α} (h : stage = .ok x) : (stage.mapError report >>= next) = next x := by
  rw [h]
  rfl

theorem stage_error {e : ε} (h : stage = .error e) :
    (stage.mapError report >>= next) = .error (report e) := by
  rw [h]
  rfl

end

variable {s : Sources} {a : Arguments} {path : String}

theorem Refuses.verdict_eq {r : Refusal} (h : Refuses s a path r) :
    verdict s a path = .error r := by
  unfold verdict
  cases h with
  | config hconfig => rw [stage_error _ _ hconfig]
  | unreadable hconfig hbytes => rw [stage_ok _ _ hconfig, stage_error _ _ hbytes]
  | notText hconfig hbytes htext =>
    rw [stage_ok _ _ hconfig, stage_ok _ _ hbytes, stage_error _ _ (decode_eq_error htext)]
  | document hconfig hbytes hdocument =>
    rw [stage_ok _ _ hconfig, stage_ok _ _ hbytes, stage_ok _ _ (decode_toUTF8 _),
      stage_error _ _ hdocument]
  | block hconfig hbytes hdocument hblock =>
    have htranslate := Translator.translate_eq_error_iff.2 ⟨_, hblock⟩
    rw [stage_ok _ _ hconfig, stage_ok _ _ hbytes, stage_ok _ _ (decode_toUTF8 _),
      stage_ok _ _ hdocument, stage_error _ _ htranslate]

theorem Completes.verdict_eq {c : Config} {es : List Event} (h : Completes s a path c es) :
    verdict s a path = .ok (c, es) := by
  obtain ⟨hconfig, text, d, hbytes, hdocument, -, hparse, -⟩ := h
  rw [Translator.parse, hdocument] at hparse
  have htranslate := (Translator.mapError_walk_eq_ok_iff _).1 hparse
  unfold verdict
  rw [stage_ok _ _ hconfig, stage_ok _ _ hbytes, stage_ok _ _ (decode_toUTF8 _),
    stage_ok _ _ hdocument, stage_ok _ _ htranslate]
  rfl

theorem readSource_eq (s : Sources) (path : String) :
    readSource s path = s.bytes path >>= decode := by
  unfold readSource Sources.bytes
  split <;> rfl

theorem translate_eq_verdict (s : Sources) (a : Arguments) (path : String) :
    translate s a path = ((verdict s a path).mapError (·.message path)).map
      fun outcome => render outcome.1.format outcome.2 := by
  unfold translate verdict
  cases loadConfig s a with
  | error f => rfl
  | ok c =>
    -- Reading and decoding fail alike, so the program takes them for one stage.
    rw [stage_ok _ _ rfl, stage_ok _ _ rfl, readSource_eq]
    cases s.bytes path with
    | error f => rfl
    | ok bytes =>
      rw [stage_ok _ _ rfl]
      show ((decode bytes).mapError _ >>= _) = _
      cases decode bytes with
      | error f => rfl
      | ok text =>
        rw [stage_ok _ _ rfl, stage_ok _ _ rfl]
        show (((translatorFor c).parse Source.read c.wikiMode text).mapError _ >>= _) = _
        unfold Translator.parse
        cases Source.read text with
        | error e => rfl
        | ok d =>
          rw [stage_ok _ _ rfl]
          show ((((translatorFor c).translate c.wikiMode d.blocks).mapError _).mapError _ >>= _) = _
          cases (translatorFor c).translate c.wikiMode d.blocks <;> rfl

theorem completes_or_refuses (s : Sources) (a : Arguments) (path : String) :
    (∃ c es, Completes s a path c es) ∨ ∃ r, Refuses s a path r := by
  cases hconfig : loadConfig s a with
  | error f => exact .inr ⟨_, .config hconfig⟩
  | ok c =>
    cases hbytes : s.bytes path with
    | error f => exact .inr ⟨_, .unreadable hconfig hbytes⟩
    | ok bytes =>
      by_cases htext : ∃ text : String, bytes = text.toUTF8
      · obtain ⟨text, rfl⟩ := htext
        cases hdocument : Source.read text with
        | error e => exact .inr ⟨_, .document hconfig hbytes hdocument⟩
        | ok d =>
          obtain ⟨hall, hrun⟩ | ⟨v, f, hblock, -, -⟩ :=
            (translatorFor c).run_cases c.wikiMode d
          · have htranslate := Translator.translate_of_run_done hrun
            refine .inl ⟨c, _, hconfig, text, d, hbytes, hdocument, hall, ?_, rfl⟩
            simp only [Translator.parse, hdocument, htranslate]
            rfl
          · exact .inr ⟨_, .block hconfig hbytes hdocument hblock⟩
      · exact .inr ⟨_, .notText hconfig hbytes (not_exists.1 htext)⟩

theorem exists_path_of_read {args : List String} (hread : read args = .ok a)
    (hlist : a.listDialects = false) : ∃ path, a.path = some path := by
  unfold read at hread
  cases hfrom : readFrom (.complete {}) args with
  | error stop =>
    rw [hfrom] at hread
    cases hread
  | ok b =>
    simp only [hfrom, bind, Except.bind] at hread
    split at hread
    next => cases hread
    next hpath =>
      obtain rfl : b = a := Except.ok.inj hread
      rw [hlist] at hpath
      simpa [← Option.ne_none_iff_exists'] using hpath

section
variable {args : List String} (hread : read args = .ok a) (hlist : a.listDialects = false)
  (hpath : a.path = some path)
include hread hlist hpath

theorem run_of_translate_ok {output : String} (h : translate s a path = .ok output) :
    run s args = { code := 0, output } := by
  simp only [run, hread, hlist, hpath, Option.getD_some, h, Bool.false_eq_true, if_false]

theorem run_of_translate_error {message : String} (h : translate s a path = .error message) :
    run s args = { code := 1, errors := message ++ "\n" } := by
  simp only [run, hread, hlist, hpath, Option.getD_some, h, Bool.false_eq_true, if_false]

end

theorem effective_of_wellTyped
    (h : ∀ name ∈ a.config, (Config.Layer.file name true).WellTyped s.settings) :
    ∃ c, loadConfig s a = .ok c ∧ Effective s a c := by
  obtain ⟨c, hload, hdialect, hformat, hwiki, hstrict, hdepth⟩ := Config.loadConfig_fields h
  exact ⟨c, hload, hdialect, hformat, hwiki, hstrict, hdepth⟩

/-- A command line that asks for a translation prints the whole stream, or the one thing that goes
wrong first. -/
theorem run_prints_all_or_nothing (s : Sources) {args : List String} {a : Arguments}
    (hread : read args = .ok a) (hlist : a.listDialects = false) :
    ∃ path, a.path = some path ∧
      ((∃ c es, Completes s a path c es ∧ (∀ r, ¬Refuses s a path r) ∧
          run s args = { code := 0, output := render c.format es, errors := "" }) ∨
        ∃ r, Refuses s a path r ∧ (∀ r', Refuses s a path r' → r' = r) ∧
          run s args = { code := 1, output := "", errors := r.message path ++ "\n" }) ∧
      ((∀ name ∈ a.config, (Config.Layer.file name true).WellTyped s.settings) →
        ∃ c, loadConfig s a = .ok c ∧ Effective s a c) := by
  obtain ⟨path, hpath⟩ := exists_path_of_read hread hlist
  refine ⟨path, hpath, ?_, effective_of_wellTyped⟩
  obtain ⟨c, es, h⟩ | ⟨r, h⟩ := completes_or_refuses s a path
  · refine .inl ⟨c, es, h, fun r hr => ?_, ?_⟩
    · have hboth := h.verdict_eq.symm.trans hr.verdict_eq
      cases hboth
    · refine run_of_translate_ok hread hlist hpath ?_
      rw [translate_eq_verdict, h.verdict_eq]
      rfl
  · refine .inr ⟨r, h, fun r' hr' => ?_, ?_⟩
    · exact Except.error.inj (hr'.verdict_eq.symm.trans h.verdict_eq)
    · refine run_of_translate_error hread hlist hpath ?_
      rw [translate_eq_verdict, h.verdict_eq]
      rfl

theorem run_prints_all_or_nothing_paragraph :
    let s : Sources :=
      { file := fun _ => .error .missing
        input := .ok <| String.toUTF8 <|
          "\x7b\"blocks\":[\x7b\"context\":\"paragraph\",\"content\":\"a\"\x7d]\x7d" }
    let text := "BeginDocument [syntax=asciidoc/1.0]\nBeginParagraph\nRawText \"a\"\n" ++
      "EndParagraph\nEndDocument [syntax=asciidoc/1.0]\n"
    let gone : Arguments := { path := some "gone.json", config := some "gone.toml" }
    (run s ["-", "-w"] = { code := 0, output := text } ∧
      ∃ c es, Completes s { path := some "-", wiki := true } "-" c es ∧
        render c.format es = text ∧ c.wikiMode = true) ∧
      (∀ r, Refuses s gone "gone.json" r ↔ r = .config (.missingFile "gone.toml")) ∧
      run s ["gone.json", "-c", "gone.toml"] =
        { code := 1
          errors := "Configuration error: configuration file \"gone.toml\" not found\n" } := by
  intro s text gone
  have hread : read ["-", "-w"] = .ok { path := some "-", wiki := true } := rfl
  have hread' : read ["gone.json", "-c", "gone.toml"] = .ok gone := rfl
  have hgone : Refuses s gone "gone.json" (.config (.missingFile "gone.toml")) :=
    .config (Config.load_missing rfl [])
  refine ⟨?_, ?_⟩
  · obtain ⟨path, hpath, h, hsettings⟩ := run_prints_all_or_nothing s hread rfl
    obtain rfl : "-" = path := Option.some.inj hpath
    obtain ⟨c, hload, hc⟩ := hsettings nofun
    obtain rfl : c = ⟨true, .asciiDoc, 256, false, .text⟩ := by
      rw [Config.mk.injEq]
      exact ⟨hc.wikiMode, hc.dialect, hc.maxDepth, hc.strict, hc.format⟩
    have htranslate :
        (translate s { path := some "-", wiki := true } "-").toOption = some text := by
      rw [translate, hload]
      decide +kernel
    have houtput : run s ["-", "-w"] = { code := 0, output := text } := by
      cases hresult : translate s { path := some "-", wiki := true } "-" with
      | error message =>
        rw [hresult] at htranslate
        cases htranslate
      | ok output =>
        rw [hresult] at htranslate
        obtain rfl : output = text := Option.some.inj htranslate
        exact run_of_translate_ok hread rfl rfl hresult
    refine ⟨houtput, ?_⟩
    obtain ⟨c, es, hes, -, hrun⟩ | ⟨r, -, -, hrun⟩ := h
    · obtain rfl : _ = c := Except.ok.inj (hload.symm.trans hes.config)
      exact ⟨_, es, hes, congrArg Outcome.output (hrun.symm.trans houtput), rfl⟩
    · have hcode : 1 = 0 := congrArg Outcome.code (hrun.symm.trans houtput)
      cases hcode
  · obtain ⟨path, hpath, h, -⟩ := run_prints_all_or_nothing s hread' rfl
    obtain rfl : "gone.json" = path := Option.some.inj hpath
    obtain ⟨-, -, -, hnone, -⟩ | ⟨r, hr, hunique, hrun⟩ := h
    · exact absurd hgone (hnone _)
    · obtain rfl := hunique _ hgone
      refine ⟨fun r' => ⟨hunique r', ?_⟩, hrun⟩
      rintro rfl
      exact hgone

end DocStream.CommandLine
