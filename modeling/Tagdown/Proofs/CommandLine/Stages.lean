import Tagdown.CommandLine.Run

/-!
# All or nothing

Six things can go wrong before a text is there to be written (`Stage`). What each of them is, is
said on its own (`Fails`), so that several can be wrong at once: a file of rules that cannot be read
and an input that is not there. The command line tells the first one, and leaves no trace
(`fulfil_all_or_nothing`). If none of them is wrong, its one effect is to write what the converter
that was asked for makes of the input.

This holds in any system of files. That the files named are one and the same file makes no
difference, since all that is read is read before anything is written.
-/

namespace Tagdown.CommandLine

/-- What is done before anything is written, in this order. -/
inductive Stage where
  | readRules
  | parseRules
  | buildFilters
  | readInput
  | decodeInput
  | convert
deriving DecidableEq

namespace Stage

/-- The number of stages before this one. -/
def position : Stage → Nat
  | readRules => 0
  | parseRules => 1
  | buildFilters => 2
  | readInput => 3
  | decodeInput => 4
  | convert => 5

instance : LT Stage :=
  ⟨fun a b => a.position < b.position⟩

instance (a b : Stage) : Decidable (a < b) :=
  inferInstanceAs (Decidable (a.position < b.position))

end Stage

section Spec

variable (r : Request) (read : Reader) (stdin : Except FileFault (List UInt8))

/-! ## What is asked for

Relations between a request and what it comes to, one rule for each way to ask. -/

/-- The converter that the rules of a request come to: the bundled one, or the one that is described
in the file. -/
inductive IsRuleSet : Converter → Prop where
  | bundled : r.rules = none → IsRuleSet .standard
  | described {path : String} {document : String} {config : RuleSetConfig} {rules : RuleSet} :
    r.rules = some path → readText read path = .ok document →
      RuleSetConfig.ofJson document = .ok config → config.buildRules = .ok rules →
      IsRuleSet { rules, options := config.buildOptions }

/-- The converter that a request asks for. The flag has the last word on unmatched elements. -/
def IsConfigured (c : Converter) : Prop :=
  ∃ base : Converter, IsRuleSet r read base ∧ c.rules = base.rules ∧
    c.options =
      { base.options with
        unmatched := if r.keepUnmatched then .keep else base.options.unmatched }

/-- What reading the input comes to. A hyphen stands for standard input. -/
inductive IsInput : Except FileFault (List UInt8) → Prop where
  | stdin : r.input = none ∨ r.input = some "-" → IsInput stdin
  | file {path : String} : r.input = some path → path ≠ "-" → IsInput (read path)

/-! ## What can go wrong

Each failure is described by the data that the stage works on, not by what the stages before it
did. What is wrong with the rules does not keep the input from being wrong as well. -/

/-- A stage is bound to fail, with this failure, once it is reached. -/
inductive Fails : Stage → Failure → Prop where
  | readRules {path : String} {fault : FileFault} :
    r.rules = some path → readText read path = .error fault →
      Fails .readRules (.readRules path fault)
  | parseRules {path document : String} {error : Error} :
    r.rules = some path → readText read path = .ok document →
      RuleSetConfig.ofJson document = .error error → Fails .parseRules (.loadRules path error)
  | buildFilters {path document : String} {config : RuleSetConfig} {error : Error} :
    r.rules = some path → readText read path = .ok document →
      RuleSetConfig.ofJson document = .ok config → config.buildRules = .error error →
      Fails .buildFilters (.loadRules path error)
  | readFile {path : String} {fault : FileFault} :
    r.input = some path → path ≠ "-" → read path = .error fault →
      Fails .readInput (.readInput path fault)
  | readStdin {fault : FileFault} :
    r.input = none ∨ r.input = some "-" → stdin = .error fault →
      Fails .readInput (.readStdin fault)
  | decodeInput {bytes : List UInt8} {fault : Utf8.Fault} :
    IsInput r read stdin (.ok bytes) → Utf8.decode bytes = .error fault →
      Fails .decodeInput (.conversion (.invalidInput fault))
  | convert {c : Converter} {bytes : List UInt8} {html : String} {error : Error} :
    IsConfigured r read c → IsInput r read stdin (.ok bytes) → Utf8.decode bytes = .ok html →
      c.convert html = .error error → Fails .convert (.conversion error)

/-- A stage does not fail. -/
def Passes (stage : Stage) : Prop :=
  ∀ reason, ¬ Fails r read stdin stage reason

/-- The stage fails, and none before it does. -/
def FailsFirst (stage : Stage) (reason : Failure) : Prop :=
  Fails r read stdin stage reason ∧ ∀ earlier < stage, Passes r read stdin earlier

end Spec

variable {r : Request} {read : Reader} {stdin : Except FileFault (List UInt8)}

/-! ## The rules

The first three stages. Each lemma assumes what the stages before have brought, and says that
this stage passes with its own result or is the first to fail. -/

/-- Stages are ordered by position, and no two share one. -/
theorem Stage.position_injective {a b : Stage} (h : a.position = b.position) : a = b := by
  cases a <;> cases b <;> first | rfl | cases h

/-- What holds of a stage and of all before it holds of all before the next one. -/
theorem Stage.forall_lt_next {P : Stage → Prop} {stage next : Stage}
    (hnext : next.position = stage.position + 1) (before : ∀ e < stage, P e) (hstage : P stage) :
    ∀ e < next, P e := by
  intro e he
  rcases Nat.lt_succ_iff_lt_or_eq.1 (hnext ▸ he : e.position < stage.position + 1) with hlt | heq
  · exact before e hlt
  · rwa [Stage.position_injective heq]

/-- Without a rule file nothing can be wrong with one. -/
theorem passes_of_rules_eq_none (h : r.rules = none) :
    ∀ stage < Stage.readInput, Passes r read stdin stage := by
  intro stage hstage reason hfails
  cases hfails with
  | readRules hpath | parseRules hpath | buildFilters hpath => cases h.symm.trans hpath
  | _ => exact absurd hstage (by decide)

section Rules

variable {path document : String} {config : RuleSetConfig} {rules : RuleSet}
variable (hpath : r.rules = some path) (hread : readText read path = .ok document)
include hpath hread

/-- A stage whose answer is known cannot have failed, since the file gives one answer only. -/
theorem passes_readRules : Passes r read stdin .readRules := by
  intro reason hfails
  cases hfails with
  | readRules hpath' hread' =>
    cases hpath.symm.trans hpath'
    cases hread.symm.trans hread'

/-- A document that was parsed is the one that the stage would have to fail on. -/
theorem passes_parseRules (hparse : RuleSetConfig.ofJson document = .ok config) :
    Passes r read stdin .parseRules := by
  intro reason hfails
  cases hfails with
  | parseRules hpath' hread' hparse' =>
    cases hpath.symm.trans hpath'
    cases hread.symm.trans hread'
    cases hparse.symm.trans hparse'

/-- Rules that were built leave no failure for the stage. -/
theorem passes_buildFilters (hparse : RuleSetConfig.ofJson document = .ok config)
    (hbuild : config.buildRules = .ok rules) : Passes r read stdin .buildFilters := by
  intro reason hfails
  cases hfails with
  | buildFilters hpath' hread' hparse' hbuild' =>
    cases hpath.symm.trans hpath'
    cases hread.symm.trans hread'
    cases hparse.symm.trans hparse'
    cases hbuild.symm.trans hbuild'

end Rules

/-- After the reading it is the decoder, and then the building of the rules. -/
theorem loadRules_of_read {path document : String} (hread : readText read path = .ok document) :
    loadRules read path =
      ((RuleSetConfig.ofJson document).mapError (.loadRules path)).bind fun config =>
        (Converter.ofConfig config).mapError (.loadRules path) := by
  rw [loadRules, hread]
  rfl

/-- After the decoding it is the building alone. -/
theorem loadRules_of_parse {path document : String} {config : RuleSetConfig}
    (hread : readText read path = .ok document)
    (hparse : RuleSetConfig.ofJson document = .ok config) :
    loadRules read path = (Converter.ofConfig config).mapError (.loadRules path) := by
  rw [loadRules_of_read hread, hparse]
  rfl

/-- The three stages of a rule set: all of them pass and it is there, or the first that does not is
told. -/
theorem cases_ruleSet (r : Request) (read : Reader) (stdin : Except FileFault (List UInt8)) :
    (∃ base, IsRuleSet r read base ∧ ruleSet r read = .ok base ∧
      ∀ stage < Stage.readInput, Passes r read stdin stage) ∨
    ∃ stage reason, FailsFirst r read stdin stage reason ∧ ruleSet r read = .error reason := by
  -- what has passed grows by one stage after the other, until one fails
  have passed0 : ∀ e < Stage.readRules, Passes r read stdin e :=
    fun e he => absurd he (Nat.not_lt_zero _)
  rw [ruleSet]
  cases hpath : r.rules with
  | none => exact Or.inl ⟨.standard, .bundled hpath, rfl, passes_of_rules_eq_none hpath⟩
  | some path =>
    dsimp only
    cases hread : readText read path with
    | error fault =>
      refine Or.inr ⟨.readRules, _, ⟨.readRules hpath hread, passed0⟩, ?_⟩
      rw [loadRules, hread]
      rfl
    | ok document =>
      have passed1 : ∀ e < Stage.parseRules, Passes r read stdin e :=
        Stage.forall_lt_next rfl passed0 (passes_readRules hpath hread)
      cases hparse : RuleSetConfig.ofJson document with
      | error error =>
        refine Or.inr ⟨.parseRules, _, ⟨.parseRules hpath hread hparse, passed1⟩, ?_⟩
        rw [loadRules_of_read hread, hparse]
        rfl
      | ok config =>
        have passed2 : ∀ e < Stage.buildFilters, Passes r read stdin e :=
          Stage.forall_lt_next rfl passed1 (passes_parseRules hpath hread hparse)
        cases hbuild : config.buildRules with
        | error error =>
          refine Or.inr ⟨.buildFilters, _, ⟨.buildFilters hpath hread hparse hbuild, passed2⟩, ?_⟩
          rw [loadRules_of_parse hread hparse, Converter.ofConfig, hbuild]
          rfl
        | ok rules =>
          refine Or.inl ⟨_, .described hpath hread hparse hbuild, ?_,
            Stage.forall_lt_next rfl passed2 (passes_buildFilters hpath hread hparse hbuild)⟩
          rw [loadRules_of_parse hread hparse, Converter.ofConfig, hbuild]
          rfl

/-- What the rules come to is what they are said to be. -/
theorem ruleSet_eq_of_isRuleSet {base : Converter} (h : IsRuleSet r read base) :
    ruleSet r read = .ok base := by
  cases h with
  | bundled hpath => rw [ruleSet, hpath]
  | described hpath hread hparse hbuild =>
    rw [ruleSet, hpath]
    dsimp only
    rw [loadRules_of_parse hread hparse, Converter.ofConfig, hbuild]
    rfl

/-- The options with the flag on top. -/
theorem converter_eq_of_isConfigured {c : Converter} (h : IsConfigured r read c) :
    converter r read = .ok c := by
  obtain ⟨base, hbase, hrules, hoptions⟩ := h
  rw [converter, ruleSet_eq_of_isRuleSet hbase]
  refine congrArg Except.ok ?_
  obtain ⟨rules, options⟩ := c
  cases hkeep : r.keepUnmatched <;>
  · rw [hkeep] at hoptions
    dsimp only at hrules hoptions
    rw [hrules, hoptions]
    rfl

/-- Once there are rules nothing more can fail on the way to a converter: the flag sets an
option. -/
theorem isConfigured_of_ruleSet {base : Converter} (hbase : IsRuleSet r read base) :
    ∃ c, IsConfigured r read c ∧ converter r read = .ok c := by
  have h : IsConfigured r read ⟨base.rules, { base.options with
      unmatched := if r.keepUnmatched then .keep else base.options.unmatched }⟩ :=
    ⟨base, hbase, rfl, rfl⟩
  exact ⟨_, h, converter_eq_of_isConfigured h⟩

/-! ## The input

The input is read after the rules. That it cannot be read is therefore told only if nothing was
wrong with these. -/

/-- A path other than the dash is read as a file, and its failures are told with the path. -/
theorem inputBytes_of_file {path : String} (hpath : r.input = some path) (hne : path ≠ "-") :
    inputBytes r read stdin = (read path).mapError (.readInput path) := by
  have hfile : r.inputFile? = some path := by
    rw [Request.inputFile?, hpath, Option.filter_some, if_pos (by simpa using hne)]
  rw [inputBytes, hfile]

/-- A dash stands for standard input, and so does no path at all. -/
theorem inputBytes_of_stdin (h : r.input = none ∨ r.input = some "-") :
    inputBytes r read stdin = stdin.mapError .readStdin := by
  have hfile : r.inputFile? = none := by
    rcases h with h | h <;> rw [Request.inputFile?, h] <;> rfl
  rw [inputBytes, hfile]

/-- The input of the specification is what the program reads. -/
theorem inputBytes_of_isInput {bytes : List UInt8} (h : IsInput r read stdin (.ok bytes)) :
    inputBytes r read stdin = .ok bytes := by
  generalize hresult : Except.ok bytes = result at h
  cases h with
  | stdin h => rw [inputBytes_of_stdin h, ← hresult]; rfl
  | file hpath hne => rw [inputBytes_of_file hpath hne, ← hresult]; rfl

/-- Input that has been read cannot have failed to be, from a file or from standard input. -/
theorem passes_readInput {bytes : List UInt8} (h : inputBytes r read stdin = .ok bytes) :
    Passes r read stdin .readInput := by
  intro reason hfails
  cases hfails with
  | readFile hpath hne hread => rw [inputBytes_of_file hpath hne, hread] at h; cases h
  | readStdin hpath hread => rw [inputBytes_of_stdin hpath, hread] at h; cases h

/-- The input is read and there are its bytes, or it is told that it cannot be read. -/
theorem cases_inputBytes (r : Request) (read : Reader) (stdin : Except FileFault (List UInt8)) :
    (∃ bytes, IsInput r read stdin (.ok bytes) ∧ inputBytes r read stdin = .ok bytes) ∨
    ∃ reason, Fails r read stdin .readInput reason ∧ inputBytes r read stdin = .error reason := by
  by_cases hpath : r.input = none ∨ r.input = some "-"
  · have hinput : inputBytes r read stdin = stdin.mapError .readStdin := inputBytes_of_stdin hpath
    cases stdin with
    | error fault => exact Or.inr ⟨_, .readStdin hpath rfl, hinput⟩
    | ok bytes => exact Or.inl ⟨bytes, .stdin hpath, hinput⟩
  · rw [not_or] at hpath
    obtain ⟨path, hpath, hne⟩ : ∃ path, r.input = some path ∧ path ≠ "-" := by
      cases hinput : r.input with
      | none => exact absurd hinput hpath.1
      | some path => exact ⟨path, rfl, fun h => hpath.2 (h ▸ hinput)⟩
    rw [inputBytes_of_file hpath hne]
    cases hread : read path with
    | error fault => exact Or.inr ⟨_, .readFile hpath hne hread, rfl⟩
    | ok bytes => exact Or.inl ⟨bytes, hread ▸ .file hpath hne, rfl⟩

/-! ## All stages

The parts are put together in the order in which the stages come. -/

/-- Bytes that are text pass the stage that tells so. -/
theorem passes_decodeInput {bytes : List UInt8} {html : String}
    (hinput : inputBytes r read stdin = .ok bytes) (hdecode : Utf8.decode bytes = .ok html) :
    Passes r read stdin .decodeInput := by
  intro reason hfails
  cases hfails with
  | decodeInput hinput' hdecode' =>
    cases hinput.symm.trans (inputBytes_of_isInput hinput')
    cases hdecode.symm.trans hdecode'

/-- There is one converter for a request, so its success on the text leaves no other to fail. -/
theorem passes_convert {c : Converter} {bytes : List UInt8} {html markdown : String}
    (hconverter : converter r read = .ok c) (hinput : inputBytes r read stdin = .ok bytes)
    (hdecode : Utf8.decode bytes = .ok html) (hconvert : c.convert html = .ok markdown) :
    Passes r read stdin .convert := by
  intro reason hfails
  cases hfails with
  | convert hconverter' hinput' hdecode' hconvert' =>
    cases hconverter.symm.trans (converter_eq_of_isConfigured hconverter')
    cases hinput.symm.trans (inputBytes_of_isInput hinput')
    cases hdecode.symm.trans hdecode'
    cases hconvert.symm.trans hconvert'

/-- With a converter and an input, all that is left to do is to convert, and to end the last
line. -/
theorem produce_eq {c : Converter} {bytes : List UInt8} (hconverter : converter r read = .ok c)
    (hinput : inputBytes r read stdin = .ok bytes) :
    produce r read stdin = ((c.convertBytes bytes).mapError .conversion).map asLines := by
  rw [produce, hconverter, hinput]
  generalize hresult : c.convertBytes bytes = result
  show Except.bind (Except.mapError _ (c.convertBytes bytes)) _ = _
  rw [hresult]
  cases result <;> rfl

/-- Bytes that are text are converted as that text. -/
theorem convertBytes_of_text {c : Converter} {bytes : List UInt8} {html : String}
    (hdecode : Utf8.decode bytes = .ok html) : c.convertBytes bytes = c.convert html := by
  rw [Converter.convertBytes, hdecode]
  -- what the conversion itself does is not to be opened
  generalize c.convert = convert
  rfl

/-- The last two stages, once there are a converter and an input. -/
theorem cases_convertBytes {c : Converter} {bytes : List UInt8} (hc : IsConfigured r read c)
    (hbytes : IsInput r read stdin (.ok bytes))
    (passed : ∀ stage < Stage.decodeInput, Passes r read stdin stage) :
    (∃ markdown, c.convertBytes bytes = .ok markdown ∧ ∀ stage, Passes r read stdin stage) ∨
    ∃ stage error, FailsFirst r read stdin stage (.conversion error) ∧
      c.convertBytes bytes = .error error := by
  cases hdecode : Utf8.decode bytes with
  | error fault =>
    refine Or.inr ⟨.decodeInput, .invalidInput fault, ⟨.decodeInput hbytes hdecode, passed⟩, ?_⟩
    rw [Converter.convertBytes, hdecode]
    rfl
  | ok html =>
    have passed' : ∀ e < Stage.convert, Passes r read stdin e :=
      Stage.forall_lt_next rfl passed (passes_decodeInput (inputBytes_of_isInput hbytes) hdecode)
    rw [convertBytes_of_text hdecode]
    cases hconvert : c.convert html with
    | error error =>
      exact Or.inr ⟨.convert, error, ⟨.convert hc hbytes hdecode hconvert, passed'⟩, rfl⟩
    | ok markdown =>
      refine Or.inl ⟨markdown, rfl, fun stage => ?_⟩
      cases stage with
      | convert =>
        exact passes_convert (converter_eq_of_isConfigured hc) (inputBytes_of_isInput hbytes)
          hdecode hconvert
      -- the stages before the last one were passed on the way
      | _ => exact passed' _ (by decide)

/-- **The text of a request**: the first stage that fails is told, or no stage fails and the text is
what the converter makes of the input, as lines. Each stage in turn is put together with those
before it. -/
theorem cases_produce (r : Request) (read : Reader) (stdin : Except FileFault (List UInt8)) :
    (∃ c bytes markdown, IsConfigured r read c ∧ IsInput r read stdin (.ok bytes) ∧
      c.convertBytes bytes = .ok markdown ∧ produce r read stdin = .ok (asLines markdown) ∧
      ∀ stage, Passes r read stdin stage) ∨
    ∃ stage reason, FailsFirst r read stdin stage reason ∧
      produce r read stdin = .error reason := by
  rcases cases_ruleSet r read stdin with ⟨base, hbase, -, passed⟩ | ⟨stage, reason, hfirst, hrules⟩
  · obtain ⟨c, hc, hconverter⟩ := isConfigured_of_ruleSet hbase
    rcases cases_inputBytes r read stdin with ⟨bytes, hbytes, hinput⟩ | ⟨reason, hfails, hinput⟩
    · rw [produce_eq hconverter hinput]
      -- the rules and the input have been read, so the later stages are left
      have passed' : ∀ e < Stage.decodeInput, Passes r read stdin e :=
        Stage.forall_lt_next rfl passed (passes_readInput hinput)
      rcases cases_convertBytes hc hbytes passed' with
        ⟨markdown, hmarkdown, passes⟩ | ⟨stage, error, hfirst, herror⟩
      · refine Or.inl ⟨c, bytes, markdown, hc, hbytes, hmarkdown, ?_, passes⟩
        rw [hmarkdown]
        rfl
      · refine Or.inr ⟨stage, .conversion error, hfirst, ?_⟩
        rw [herror]
        rfl
    · refine Or.inr ⟨.readInput, reason, ⟨hfails, passed⟩, ?_⟩
      rw [produce, hconverter, hinput]
      rfl
  · refine Or.inr ⟨stage, reason, hfirst, ?_⟩
    rw [produce, converter, hrules]
    rfl

/-! ## The whole run

Up to here no file was written. What is left is the one effect of a run that succeeds. -/

/-- The newline at the end is left out for the empty text, so that nothing at all is printed. -/
theorem asLines_eq (text : String) : asLines text = text ++ if text = "" then "" else "\n" := by
  rw [asLines]
  split
  · rename_i hempty
    rw [hempty]
    rfl
  · rfl

variable {σ : Type} [FileSystem σ]

/-- A run that produces nothing has not come to the files: they are as they were. -/
theorem fulfil_of_produce_error {s : σ} {reason : Failure}
    (h : produce r (FileSystem.read s) stdin = .error reason) :
    fulfil r s stdin = { ending := .failure reason, stdout := "", directory := s } := by
  rw [fulfil, h]

/-- A text that is produced is delivered, and this is where the files can change. -/
theorem fulfil_of_produce_ok {s : σ} {text : String}
    (h : produce r (FileSystem.read s) stdin = .ok text) : fulfil r s stdin = deliver r s text := by
  rw [fulfil, h]

/-- The flag wins over what the rules ask for unmatched elements. -/
theorem IsConfigured.unmatched_eq {c : Converter} (h : IsConfigured r read c)
    (hkeep : r.keepUnmatched = true) : c.options.unmatched = .keep := by
  obtain ⟨base, -, -, hoptions⟩ := h
  rw [hoptions]
  exact if_pos hkeep

/-- **All or nothing.** If something is wrong with the rules, with the input or with its conversion,
the run ends with the first failure, has printed nothing and leaves the files as they are. Otherwise
the text is what the converter that is asked for makes of the input, with a newline after it unless
it is empty. It is printed if no output is named, and the files stay as they are; or else nothing is
printed, and the files are what writing the text to the output makes of them. -/
theorem fulfil_all_or_nothing (r : Request) (s : σ) (stdin : Except FileFault (List UInt8)) :
    ((∃ stage reason, Fails r (FileSystem.read s) stdin stage reason) →
      ∃ stage reason, FailsFirst r (FileSystem.read s) stdin stage reason ∧
        fulfil r s stdin = { ending := .failure reason, stdout := "", directory := s }) ∧
    ((∀ stage reason, ¬ Fails r (FileSystem.read s) stdin stage reason) →
      ∃ c bytes markdown text,
        IsConfigured r (FileSystem.read s) c ∧
        (r.keepUnmatched = true → c.options.unmatched = .keep) ∧
        IsInput r (FileSystem.read s) stdin (.ok bytes) ∧
        c.convertBytes bytes = .ok markdown ∧
        text = markdown ++ (if markdown = "" then "" else "\n") ∧
        (r.output = none →
          fulfil r s stdin = { ending := .success, stdout := text, directory := s }) ∧
        ∀ path s', r.output = some path →
          FileSystem.write s path text.toUTF8.data.toList = (s', none) →
          fulfil r s stdin = { ending := .success, stdout := "", directory := s' }) := by
  rcases cases_produce r (FileSystem.read s) stdin with
    ⟨c, bytes, markdown, hc, hbytes, hmarkdown, htext, passes⟩ | ⟨stage, reason, hfirst, herror⟩
  · refine ⟨fun ⟨stage, reason, hfails⟩ => absurd hfails (passes stage reason), fun _ => ?_⟩
    refine ⟨c, bytes, markdown, asLines markdown, hc, hc.unmatched_eq, hbytes, hmarkdown,
      asLines_eq markdown, fun hout => ?_, fun path s' hout hwrite => ?_⟩
    · rw [fulfil_of_produce_ok htext, deliver, hout]
    · rw [fulfil_of_produce_ok htext, deliver, hout]
      dsimp only
      rw [hwrite]
  · exact ⟨fun _ => ⟨stage, reason, hfirst, fulfil_of_produce_error herror⟩,
      fun none => absurd hfirst.1 (none stage reason)⟩

/-- Where there is a text, nothing is wrong. -/
theorem not_fails_of_isOk (h : (produce r read stdin).isOk = true) (stage : Stage)
    (reason : Failure) : ¬ Fails r read stdin stage reason := by
  rcases cases_produce r read stdin with ⟨_, _, _, -, -, -, -, passes⟩ | ⟨_, _, -, herror⟩
  · exact passes stage reason
  · rw [herror] at h
    cases h

/-- A directory with one file, which is a rule set and is HTML with nothing but a text. -/
def page : Directory :=
  .ofFiles [("page", "\x7b\"unmatched\":\"unwrap\"\x7d".toUTF8.data.toList)]

/-- The file is to be read as the rules and as the input, and to be written. -/
def rewritePage : Request :=
  { input := some "page", output := some "page", rules := some "page", keepUnmatched := true }

/-- Neither the rules nor the input are there. -/
def missing : Request :=
  { input := some "gone", rules := some "lost" }

theorem fulfil_all_or_nothing_page :
    (∀ stage reason, ¬ Fails rewritePage page.read (.ok []) stage reason) ∧
    (∃ c bytes markdown, IsConfigured rewritePage page.read c ∧ c.options.unmatched = .keep ∧
      c.convertBytes bytes = .ok markdown ∧
      fulfil rewritePage page (.ok []) =
        { ending := .success
          stdout := ""
          directory := .ofFiles [("page",
            (markdown ++ if markdown = "" then "" else "\n").toUTF8.data.toList)] }) ∧
    Fails missing page.read (.ok []) .readInput (.readInput "gone" .notFound) ∧
    ∃ stage reason, FailsFirst missing page.read (.ok []) stage reason ∧
      fulfil missing page (.ok []) =
        { ending := .failure reason, stdout := "", directory := page } := by
  have nothing : ∀ stage reason, ¬ Fails rewritePage page.read (.ok []) stage reason :=
    not_fails_of_isOk (by decide +kernel)
  have gone : Fails missing page.read (.ok []) .readInput (.readInput "gone" .notFound) :=
    .readFile rfl (by decide) (by rfl)
  refine ⟨nothing, ?_, gone, (fulfil_all_or_nothing missing page (.ok [])).1 ⟨_, _, gone⟩⟩
  obtain ⟨c, bytes, markdown, text, hc, hkeep, -, hmarkdown, rfl, -, written⟩ :=
    (fulfil_all_or_nothing rewritePage page (.ok [])).2 nothing
  exact ⟨c, bytes, markdown, hc, hkeep rfl, hmarkdown, written "page" _ rfl rfl⟩

end Tagdown.CommandLine
