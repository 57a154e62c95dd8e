import Diagnostics.CommandLine.Run
import Diagnostics.Proofs.Aggregator.Grouping
import Diagnostics.Proofs.Aggregator.RunFiles
import Diagnostics.Proofs.Outcome
import Diagnostics.Proofs.Text.Utf8

/-!
# Aggregating run files is recording

The command that merges run files prints what an aggregator reports that was given the same records, one
by one and in the same order. It does so for all labels, files, numbers and messages and however the
records are written, as long as no text holds a break as it is. With a break in any file the command
fails and prints nothing.
-/

set_option autoImplicit false

namespace Diagnostics

/-! ## Texts as JSON values -/

namespace Aggregator

variable {α β : Type}

/-- An entry with file and message in another form. -/
def mapEntry (f : α → β) (entry : Aggregated α) : Aggregated β :=
  ⟨f entry.file, entry.line, entry.column, f entry.message, entry.labels⟩

/-- Recording does not depend on the form of files and messages, as long as messages are the same in
one form if they are in the other. -/
theorem recordIn_map [BEq α] [BEq β] {f : α → β} (hf : ∀ a b, (f a == f b) = (a == b))
    (label : String) (file : α) (line column : Int) (message : α) (entries : List (Aggregated α)) :
    recordIn label (f file) line column (f message) (entries.map (mapEntry f)) =
      (recordIn label file line column message entries).map (mapEntry f) := by
  induction entries with
  | nil => rfl
  | cons entry entries ih =>
    rw [List.map_cons, recordIn, recordIn, ih]
    unfold mapEntry
    dsimp only
    rw [hf]
    split <;> rfl

end Aggregator

/-- Texts are compared as such within values. -/
theorem Json.string_beq (a b : String) : (Json.string a == Json.string b) = (a == b) := by
  show decide (Scalar.Key.text a = Scalar.Key.text b) = (a == b)
  rw [Bool.eq_iff_iff, decide_eq_true_iff, beq_iff_eq, Scalar.Key.text.injEq]

namespace PlainRecord

/-- A record of a run, as it is recorded. -/
def reported (label : String) (record : PlainRecord) : Reported String :=
  ⟨label, record.file, record.line, record.column, record.message⟩

/-- A record of a run, as it is read. -/
def labelled (label : String) (record : PlainRecord) : String × RunRecord :=
  (label, record.asRead)

end PlainRecord

namespace Aggregator

open PlainRecord

/-- What is read makes the same entries as what is recorded. -/
theorem entries_ofRecords (records : List (String × PlainRecord)) :
    (ofRecords (records.map fun r => labelled r.1 r.2)).entries =
      (ofReports (records.map fun r => reported r.1 r.2)).entries.map
        (mapEntry .string) := by
  suffices h : ∀ (read : Aggregator Json) (direct : Aggregator String),
      read.entries = direct.entries.map (mapEntry .string) →
      ((records.map fun r => labelled r.1 r.2).foldl
        (fun aggregator r => aggregator.recordRun r.1 r.2) read).entries =
      ((records.map fun r => reported r.1 r.2).foldl
        (fun aggregator r => aggregator.record r.label r.file r.line r.column r.message)
        direct).entries.map (mapEntry .string) from h {} {} rfl
  induction records with
  | nil => exact fun _ _ h => h
  | cons first records ih =>
    intro read direct h
    refine ih _ _ ?_
    show recordIn first.1 (.string first.2.file) _ _ (.string first.2.message) read.entries = _
    rw [h, recordIn_map Json.string_beq]
    rfl

/-- A report shows texts as they are. -/
theorem render_map (entries : List (Aggregated String)) :
    render Json.display ⟨entries.map (mapEntry .string)⟩ = render id ⟨entries⟩ := by
  unfold render
  rw [List.isEmpty_map, List.map_map]
  rfl

/-- Records that are read and labelled render as the reports that they stand for. -/
theorem render_ofRecords (records : List (String × PlainRecord)) :
    (ofRecords (records.map fun r => labelled r.1 r.2)).render Json.display =
      (ofReports (records.map fun r => reported r.1 r.2)).render id := by
  show render Json.display ⟨(ofRecords _).entries⟩ = _
  rw [entries_ofRecords]
  exact render_map _

/-- A report on texts can be encoded. -/
theorem isEncodable_ofRecords (records : List (String × PlainRecord)) :
    (ofRecords (records.map fun r => labelled r.1 r.2)).isEncodable = true := by
  unfold isEncodable
  rw [entries_ofRecords, List.all_map, List.all_eq_true]
  exact fun _ _ => rfl

end Aggregator

/-! ## Runs -/

/-- A run: its label, the path of its file, its records, and the text that they are written in. -/
structure StoredRun where
  label : String
  path : String
  records : List PlainRecord
  text : List Char

namespace StoredRun

/-- The file of a run holds its records. A path with a null character names no file. -/
structure Holds (files : Files) (run : StoredRun) : Prop where
  named : (Path.ofString run.path).hasNull = false
  file : files (.ofString run.path) = .ok (Text.encodeUtf8 run.text)
  written : PlainRecord.Written run.records run.text

/-- No break stands in the text of a run. -/
def Unbroken (run : StoredRun) : Prop :=
  ∀ c ∈ run.text, ¬IsBreak c

instance (run : StoredRun) : Decidable run.Unbroken :=
  List.decidableBAll _ run.text

/-- The records of several runs with the labels of their runs, in order. -/
def recordsOf (runs : List StoredRun) : List (String × PlainRecord) :=
  runs.flatMap fun run => run.records.map fun record => (run.label, record)

/-- The reports of several runs, in order. -/
def reportsOf (runs : List StoredRun) : List (Reported String) :=
  runs.flatMap fun run => run.records.map fun record => record.reported run.label

end StoredRun

namespace CommandLine

open Diagnostics.Action StoredRun

variable {files : Files} {context : Context} {runs : List StoredRun}

/-- Logging a message adds its text, if the level asks for it, and nothing else. -/
theorem perform_log (level : LogLevel) (message : String) (t : Terminal) :
    (log context level message).perform t =
      (.ok (), { t with log := t.log ++ Log.text context level message }) := rfl

/-- All records are read, with the labels of their runs, unless there is a break in some file. -/
theorem perform_readRuns (context : Context) (hruns : ∀ run ∈ runs, run.Holds files)
    (t : Terminal) :
    ∃ log, (readRuns files context (runs.map fun run => some run.label)
      (runs.map fun run => run.path)).perform t =
        (.ok (if ∀ run ∈ runs, run.Unbroken then
            .ok ((recordsOf runs).map fun r => (some r.1, r.2.asRead))
          else .error failureCode), { t with log }) := by
  induction runs generalizing t with
  | nil => exact ⟨t.log, rfl⟩
  | cons run runs ih =>
    rw [List.forall_mem_cons] at hruns
    obtain ⟨hrun, hruns⟩ := hruns
    simp only [List.map_cons, List.forall_mem_cons]
    unfold readRuns
    dsimp only
    rw [perform_bind_of_ok (perform_log _ _ t), hrun.named, hrun.file]
    dsimp only
    have hdecoded : (Text.decodeUtf8 (Text.encodeUtf8 run.text)).mapError Fault.undecodable =
        .ok run.text := by
      rw [Text.decodeUtf8_encodeUtf8]
      rfl
    -- The first run is read now; its file decides whether the others are read at all.
    rw [if_neg Bool.false_ne_true, hdecoded, perform_bind_of_ok (perform_ofExcept _ _)]
    by_cases hunbroken : run.Unbroken
    · rw [RunRecord.ofText_written hrun.written hunbroken]
      dsimp only
      obtain ⟨log, hothers⟩ := ih hruns { t with log := _ }
      refine ⟨log, ?_⟩
      rw [List.tail_cons, perform_bind_of_ok hothers, perform_pure]
      by_cases hall : ∀ other ∈ runs, other.Unbroken
      · rw [if_pos hall, if_pos ⟨hunbroken, hall⟩]
        show (Except.ok (Except.ok (_ ++ _)), _) = _
        unfold recordsOf
        rw [List.flatMap_cons, List.map_append, List.map_map, List.map_map]
        rfl
      · rw [if_neg hall, if_neg fun hboth => hall hboth.2]
        rfl
    · have hbroken : ∃ c ∈ run.text, IsBreak c := by
        by_contra hnone
        exact hunbroken fun c hc hbreak => hnone ⟨c, hc, hbreak⟩
      obtain ⟨place, fault, hfault, hescape⟩ := RunRecord.ofText_broken hrun.written hbroken
      rw [hfault, if_neg fun hall => hunbroken hall.1]
      dsimp only
      rw [hescape]
      exact ⟨_, rfl⟩

/-- Records with labels are not refused for want of one. -/
theorem mapM_requireLabel (records : List (String × PlainRecord)) :
    (records.map fun r => (some r.1, r.2.asRead)).mapM requireLabel =
      .ok (records.map fun r => r.2.labelled r.1) := by
  induction records with
  | nil => rfl
  | cons first records ih =>
    rw [List.map_cons, List.mapM_cons, ih]
    rfl

/-- The reports of runs are those of their records, one by one. -/
theorem reportsOf_eq (runs : List StoredRun) :
    reportsOf runs = (recordsOf runs).map fun r => r.2.reported r.1 := by
  unfold reportsOf recordsOf
  rw [List.map_flatMap]
  simp only [List.map_map]
  rfl

/-- Runs whose files hold their records are aggregated, unless a break stands in the text of one: then the
command fails. -/
theorem perform_runAggregate (hruns : ∀ run ∈ runs, run.Holds files) (options : CommonOptions) :
    ∃ log, (runAggregate files options (runs.map fun run => some run.label)
      (runs.map fun run => run.path)).perform {} =
        if ∀ run ∈ runs, run.Unbroken then
          (.ok 0, ⟨(Aggregator.ofReports (reportsOf runs)).render id, log⟩)
        else (.ok failureCode, ⟨"", log⟩) := by
  obtain ⟨log, hread⟩ := perform_readRuns options.context hruns {}
  refine ⟨log, ?_⟩
  unfold runAggregate
  rw [perform_bind_of_ok hread]
  by_cases hall : ∀ run ∈ runs, run.Unbroken
  · rw [if_pos hall, if_pos hall]
    dsimp only
    rw [mapM_requireLabel, perform_bind_of_ok (perform_ofExcept _ _)]
    rw [if_pos (Aggregator.isEncodable_ofRecords _), perform_modify_bind,
      Aggregator.render_ofRecords, ← reportsOf_eq, String.empty_append]
    rfl
  · rw [if_neg hall, if_neg hall]
    rfl

/-! ## Command lines -/

section Words

variable {κ : Type} {options : List (OptionSpec κ)} {word : String}

/-- A word that does not start with a hyphen is no option. -/
def IsPlainWord (word : String) : Prop :=
  word.toList.head? ≠ some '-'

instance (word : String) : Decidable (IsPlainWord word) :=
  inferInstanceAs (Decidable (word.toList.head? ≠ some '-'))

/-- A word without a hyphen in front is an operand. -/
theorem classify_plain (h : IsPlainWord word) : classify options word = .operand := by
  unfold IsPlainWord at h
  unfold classify
  have hseparator : word ≠ separator := by
    rintro rfl
    exact h rfl
  rw [if_neg hseparator]
  split
  · rename_i hword
    rw [hword] at h
    exact absurd rfl h
  · rename_i hword
    rw [hword] at h
    exact absurd rfl h
  · rfl

/-- Words without a hyphen in front are operands, all of them. -/
theorem itemsOf_operands {paths : List String} (h : ∀ path ∈ paths, IsPlainWord path) :
    itemsOf options paths = some (paths.map .operand) := by
  induction paths with
  | nil => rfl
  | cons path paths ih =>
    rw [List.forall_mem_cons] at h
    rw [itemsOf, classify_plain h.1]
    dsimp only
    rw [ih h.2]
    rfl

/-- A word without a hyphen in front abbreviates no option. -/
theorem isAmbiguous_plain (h : IsPlainWord word) : isAmbiguous options word = false := by
  unfold isAmbiguous
  rw [classify_plain h]

/-- A word without a hyphen in front may be the value of an option. -/
theorem isOperand_plain (h : IsPlainWord word) : isOperand options word = true := by
  unfold isOperand
  rw [classify_plain h]

end Words

/-- The words behind the command: each label behind its option, then the paths. -/
def aggregateWords (labels paths : List String) : List String :=
  (labels.flatMap fun label => ["--label", label]) ++ paths

/-- A label as it is set on the command line. -/
def labelSetting (label : String) : Setting CommandKey :=
  ⟨.label, some label⟩

section Labels

variable {labels paths : List String}

/-- The words behind the command are its labels and its paths. -/
theorem itemsOf_aggregateWords (hlabels : ∀ label ∈ labels, IsPlainWord label)
    (hpaths : ∀ path ∈ paths, IsPlainWord path) :
    itemsOf aggregateOptions (aggregateWords labels paths) =
      some ((labels.map labelSetting).map .setting ++ paths.map .operand) := by
  have hoption : classify aggregateOptions "--label" =
      .option { name := "--label", key := .label, takesValue := true } none := rfl
  induction labels with
  | nil => exact itemsOf_operands hpaths
  | cons label labels ih =>
    rw [List.forall_mem_cons] at hlabels
    show itemsOf aggregateOptions ("--label" :: label :: aggregateWords labels paths) = _
    rw [itemsOf, hoption]
    show (if isOperand aggregateOptions label then
      (itemsOf aggregateOptions (aggregateWords labels paths)).map _ else _) = _
    rw [if_pos (isOperand_plain hlabels.1), ih hlabels.2]
    rfl

/-- Settings in front of operands are split from them. -/
theorem splitOperands_append (settings : List (Setting CommandKey)) (paths : List String) :
    splitOperands (settings.map .setting ++ paths.map .operand) =
      some (settings, paths.map .operand) := by
  have hbehind : (settings.map Item.setting ++ paths.map Item.operand).dropWhile Item.isSetting =
      paths.map .operand := by
    rw [List.dropWhile_append_of_pos]
    · cases paths <;> rfl
    · intro item hitem
      obtain ⟨setting, -, rfl⟩ := List.mem_map.mp hitem
      rfl
  have hoperands : (paths.map Item.operand).takeWhile (fun item => !(item.isSetting)) =
      paths.map (Item.operand (κ := CommandKey)) := by
    rw [← List.append_nil (paths.map _), List.takeWhile_append_of_pos]
    · rfl
    · intro item hitem
      obtain ⟨path, -, rfl⟩ := List.mem_map.mp hitem
      rfl
  have hsettings : (settings.map Item.setting ++ paths.map Item.operand).filterMap Item.setting? =
      settings := by
    rw [List.filterMap_append, List.filterMap_map, List.filterMap_map]
    show settings.filterMap some ++ paths.filterMap (fun _ => none) = settings
    rw [List.filterMap_some, List.filterMap_none, List.append_nil]
  unfold splitOperands
  dsimp only
  rw [hbehind, hoperands, hsettings, List.drop_length]
  rfl

/-- The paths are read back from the operands. -/
theorem operandTexts_paths (hpaths : ∀ path ∈ paths, IsPlainWord path) :
    operandTexts (paths.map (Item.operand (κ := CommandKey))) = paths := by
  unfold operandTexts
  rw [List.map_map]
  show (paths.map fun path => path).erase separator = paths
  rw [List.map_id', List.erase_of_not_mem]
  intro hmem
  exact hpaths separator hmem rfl

/-- Labels ask for no help. -/
theorem isSet_help (labels : List String) : isSet .help (labels.map labelSetting) = false := by
  unfold isSet
  rw [List.any_map, List.any_eq_false]
  exact fun _ _ => Bool.false_ne_true

/-- The labels are read back in order. -/
theorem valuesOf_label (labels : List String) :
    valuesOf .label (labels.map labelSetting) = labels.map some := by
  unfold valuesOf
  rw [List.filter_eq_self.mpr, List.map_map]
  · rfl
  · intro setting hsetting
    obtain ⟨label, -, rfl⟩ := List.mem_map.mp hsetting
    rfl

/-- The words behind the command ask for an aggregation of the paths with the labels. -/
theorem readAggregate_words (hlabels : ∀ label ∈ labels, IsPlainWord label)
    (hpaths : ∀ path ∈ paths, IsPlainWord path) (hne : paths ≠ []) :
    readAggregate (aggregateWords labels paths) =
      some (some (.aggregate (labels.map some) paths)) := by
  have hread : readWords aggregateOptions (aggregateWords labels paths) =
      some (labels.map labelSetting, paths.map .operand) := by
    unfold readWords
    rw [itemsOf_aggregateWords hlabels hpaths]
    exact splitOperands_append _ paths
  obtain ⟨path, others, rfl⟩ := List.exists_cons_of_ne_nil hne
  unfold readAggregate
  rw [hread]
  show orHelp _ ((firstOperand _).bind fun _ => some _) = _
  rw [operandTexts_paths hpaths, valuesOf_label]
  unfold orHelp
  rw [isSet_help]
  rfl

/-- Labels and paths on a command line are read as such. -/
theorem ofWords_labels (hlabels : ∀ label ∈ labels, IsPlainWord label)
    (hpaths : ∀ path ∈ paths, IsPlainWord path) (hne : paths ≠ []) :
    Invocation.ofWords ("aggregate" :: aggregateWords labels paths) =
      some (.run {} (.aggregate (labels.map some) paths)) := by
  have hword : ∀ word ∈ "aggregate" :: aggregateWords labels paths,
      isAmbiguous commonOptions word = false := by
    intro word hword
    rcases List.mem_cons.mp hword with rfl | hword
    · rfl
    rcases List.mem_append.mp hword with hword | hword
    · obtain ⟨label, hlabel, hword⟩ := List.mem_flatMap.mp hword
      rcases List.mem_pair.mp hword with rfl | rfl
      · rfl
      · exact isAmbiguous_plain (hlabels word hlabel)
    · exact isAmbiguous_plain (hpaths word hword)
  have hclear : (beforeSeparator ("aggregate" :: aggregateWords labels paths)).any
      (isAmbiguous commonOptions) = false := by
    rw [List.any_eq_false]
    intro word hmem
    rw [hword word ((List.takeWhile_prefix _).mem hmem)]
    exact Bool.false_ne_true
  have hleading : splitLeading commonOptions ("aggregate" :: aggregateWords labels paths) =
      some ([], "aggregate" :: aggregateWords labels paths) := rfl
  have hcommand : readCommand ("aggregate" :: aggregateWords labels paths) =
      some (some (.aggregate (labels.map some) paths)) :=
    readAggregate_words hlabels hpaths hne
  unfold Invocation.ofWords
  rw [hclear, if_neg Bool.false_ne_true, hleading]
  show (readCommand ("aggregate" :: aggregateWords labels paths)).bind _ = _
  rw [hcommand]
  rfl

end Labels

/-! ## Commands -/

variable {environment : Option String} {words : List String} {options : CommonOptions}

/-- The command line names all runs in order, each with its label. -/
def Names (words : List String) (options : CommonOptions) (runs : List StoredRun) : Prop :=
  Invocation.ofWords words =
    some (.run options (.aggregate (runs.map fun run => some run.label) (runs.map (·.path))))

/-- A label in front of each path. -/
theorem names_aggregateWords (hne : runs ≠ []) (hlabels : ∀ run ∈ runs, IsPlainWord run.label)
    (hpaths : ∀ run ∈ runs, IsPlainWord run.path) :
    Names ("aggregate" :: aggregateWords (runs.map (·.label)) (runs.map (·.path))) {} runs := by
  unfold Names
  rw [ofWords_labels (List.forall_mem_map.mpr hlabels) (List.forall_mem_map.mpr hpaths)
    (mt List.map_eq_nil_iff.mp hne), List.map_map]
  rfl

/-- A command line that names the runs aggregates them. -/
theorem perform_run (hwords : Names words options runs) :
    run files environment words = runAggregate files options
      (runs.map fun run => some run.label) (runs.map (·.path)) := by
  unfold run
  rw [hwords]
  rfl

/-- Aggregating files that hold the records of runs succeeds iff there is no break in any of them, and
then prints the report on the same records. Otherwise it prints nothing. -/
theorem aggregate_eq_recording (environment : Option String) (hwords : Names words options runs)
    (hruns : ∀ run ∈ runs, run.Holds files) :
    ∃ log, (run files environment words).perform {} =
      if ∀ run ∈ runs, run.Unbroken then
        (.ok 0, ⟨(Aggregator.ofReports (reportsOf runs)).render id, log⟩)
      else (.ok failureCode, ⟨"", log⟩) := by
  rw [perform_run hwords]
  exact perform_runAggregate hruns options

/-- A record of a run, and the text of a file that holds only this record. -/
def singleRun (label path message : String) : StoredRun where
  label
  path
  records := [⟨"main.c", 5, 1, message⟩]
  text := PlainRecord.compact ⟨"main.c", 5, 1, message⟩ ++ ['\n']

/-- All files hold this record only. -/
def singleFile (message : String) : Files :=
  fun _ => .ok (Text.encodeUtf8 (singleRun "" "" message).text)

/-- A file with one record without escapes holds that record. -/
theorem holds_singleRun {label path message : String} (hpath : (Path.ofString path).hasNull = false)
    (hmessage : Json.IsVerbatim message) :
    (singleRun label path message).Holds (singleFile message) where
  named := hpath
  file := rfl
  written :=
    have hfile : Json.IsVerbatim "main.c" := by decide
    .cons (List.Perm.refl _) (PlainRecord.spelled_compact hfile hmessage) .nil

/-- Two runs with the same record. -/
def twoRuns : List StoredRun :=
  [singleRun "first" "a" "größer", singleRun "second" "b" "größer"]

/-- Two runs with the same message, which is reported once. -/
theorem aggregate_eq_recording_twoRuns :
    Names ["aggregate", "--label", "first", "--label", "second", "a", "b"] {} twoRuns ∧
      (∀ run ∈ twoRuns, run.Holds (singleFile "größer")) ∧
      ∃ log, (run (singleFile "größer") none
        ["aggregate", "--label", "first", "--label", "second", "a", "b"]).perform {} =
          (.ok 0, ⟨"first, second:\nmain.c:5:1: error: größer\n", log⟩) := by
  have hnames : Names ["aggregate", "--label", "first", "--label", "second", "a", "b"] {}
      twoRuns :=
    show Names ("aggregate" :: aggregateWords (twoRuns.map (·.label)) (twoRuns.map (·.path))) {}
      twoRuns from names_aggregateWords (List.cons_ne_nil _ _) (by decide) (by decide)
  have hholds : ∀ run ∈ twoRuns, run.Holds (singleFile "größer") := by
    unfold twoRuns
    simp only [List.forall_mem_cons]
    exact ⟨holds_singleRun (by cbv) (by decide), holds_singleRun (by cbv) (by decide),
      List.forall_mem_nil _⟩
  obtain ⟨log, hrun⟩ := aggregate_eq_recording none hnames hholds
  refine ⟨hnames, hholds, log, ?_⟩
  rw [hrun, if_pos (by decide)]
  rfl

/-- A run with a line separator in a message. -/
def separatedRuns : List StoredRun :=
  [singleRun "first" "a" "one\u2028two"]

/-- The line separator is a break, so nothing is printed. -/
theorem aggregate_loses_separator :
    Names ["aggregate", "--label", "first", "a"] {} separatedRuns ∧
      (∀ run ∈ separatedRuns, run.Holds (singleFile "one\u2028two")) ∧
      ∃ log, (run (singleFile "one\u2028two") none
        ["aggregate", "--label", "first", "a"]).perform {} = (.ok 1, ⟨"", log⟩) := by
  have hnames : Names ["aggregate", "--label", "first", "a"] {} separatedRuns :=
    show Names ("aggregate" :: aggregateWords (separatedRuns.map (·.label))
      (separatedRuns.map (·.path))) {} separatedRuns
      from names_aggregateWords (List.cons_ne_nil _ _) (by decide) (by decide)
  have hholds : ∀ run ∈ separatedRuns, run.Holds (singleFile "one\u2028two") :=
    List.forall_mem_singleton.mpr (holds_singleRun (by cbv) (by decide))
  obtain ⟨log, hrun⟩ := perform_runAggregate hholds {}
  refine ⟨hnames, hholds, log, ?_⟩
  rw [perform_run hnames, hrun, if_neg (by decide)]
  rfl

end CommandLine

end Diagnostics
