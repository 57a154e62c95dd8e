import Diagnostics.Proofs.PolicyMap.Complete

/-!
# Runs on a map

`Run` is any use of a map over a growing file table: appends and look-ups at any locations and in any
order, whether they fail or not, replacements of the current policy, and files that are added with
include points at offsets that are not negative. The initial policy is set after the map was made and
after each time that it was cleared.

`WellFormed` says what holds after every run, also about the next call: discovery goes from a file to
what it inherits from, which ends in every table, and it does not fail in known files.
-/

set_option autoImplicit false

namespace Diagnostics.PolicyMap

open Diagnostics.Action

/-! ## Discovery ends -/

section Chains

variable {file : SourceFile} {older sources : List SourceFile} {table : FileTable} {map : PolicyMap}
  {id : Int} {source : SourceFile}

/-- What the files of a table inherit from: the first entry is the parent of the second one. -/
def InheritsFrom (table : FileTable) (parent child : FileKey) : Prop :=
  ∃ id source, child = some id ∧ FileTable.lookup table.newestFirst id = some source ∧
    source.parentKey = parent

/-- Going from files to what they inherit from ends, because includers have smaller numbers. -/
theorem wellFounded_inheritsFrom (hw : FileTable.WellPlaced table.newestFirst) :
    WellFounded (InheritsFrom table) := by
  refine Subrelation.wf ?_ (measure fun key : FileKey => (key.getD 0).toNat).wf
  rintro parent _ ⟨id, source, rfl, hs, rfl⟩
  have := FileTable.lookup_bounds hs
  show (source.parentKey.getD 0).toNat < id.toNat
  cases hkey : source.parentKey with
  | none =>
    rw [Option.getD_none]
    omega
  | some parent =>
    have := (hw.parent_lookup hs hkey).1
    rw [Option.getD_some]
    omega

/-- A newer file does not matter to entering an older one. -/
theorem enterFile_cons_of_lookup (hs : FileTable.lookup older id = some source) :
    enterFile (file :: older) id = enterFile older id := by
  have := FileTable.lookup_bounds hs
  rw [enterFile, if_neg (by omega)]

/-- Newer files do not matter to what an older one inherits from. -/
theorem enterParent_cons (hl : FileTable.Linked (file :: older))
    (hs : FileTable.lookup (file :: older) id = some source) :
    enterParent (file :: older) source = enterParent older source := by
  unfold enterParent
  cases hat : source.includedAt with
  | none => rfl
  | some loc =>
    obtain ⟨hlt, includer, hi⟩ := hl.parent_lookup hs (SourceFile.parentKey_included hat)
    have := FileTable.lookup_bounds hs
    rw [List.length_cons] at this
    rw [FileTable.lookup_cons_of_ne (by omega)] at hi
    exact enterFile_cons_of_lookup hi

/-- A file that was not entered yet is entered after what it inherits from, which is discovered in the
same table. -/
theorem perform_enterFile (hl : FileTable.Linked sources)
    (hs : FileTable.lookup sources id = some source) (hnone : map.file? (some id) = none) :
    (enterFile sources id).perform map =
      (enterParent sources source >>= fun _ =>
        inherit id source.parentKey source.parentOffset).perform (map.insertFile (some id)) := by
  induction sources with
  | nil => cases hs
  | cons file older ih =>
    rw [enterParent_cons hl hs]
    rcases FileTable.lookup_cons_cases hs with ⟨rfl, rfl⟩ | hs'
    · exact enterFile_latest hnone
    · rw [enterFile_cons_of_lookup hs', ih hl.2 hs']

end Chains

/-! ## Runs -/

/-- The runs on a map over a file table, to the given table and map. Policies are made, changed and
dropped at any time; a file that the table refuses changes nothing. -/
inductive Run : FileTable → PolicyMap → Prop
  | start (store : PolicyStore) (ref : PolicyRef) : Run {} ((appendFirst ref).perform { store }).2
  | restart {table : FileTable} {map : PolicyMap} (run : Run table map) (ref : PolicyRef) :
      Run table ((appendFirst ref).perform map.clear).2
  | addFile {table table' : FileTable} {map : PolicyMap} {name text : String}
      {includedAt : Option Location} {id : Int} (run : Run table map)
      (placed : ∀ loc, includedAt = some loc → 0 ≤ loc.offset)
      (call : table.add name text includedAt = .ok (id, table')) : Run table' map
  | makePolicies {table : FileTable} {map : PolicyMap} (run : Run table map) (store : PolicyStore) :
      Run table { map with store }
  | replaceCurrent {table : FileTable} {map : PolicyMap} (run : Run table map) (ref : PolicyRef) :
      Run table (map.replaceCurrent ref)
  | lookup {table : FileTable} {map : PolicyMap} (run : Run table map) (loc : Location) :
      Run table ((lookup .files table loc).perform map).2
  | append {table : FileTable} {map : PolicyMap} (run : Run table map) (loc : Location)
      (ref : PolicyRef) : Run table ((append .files table loc ref).perform map).2

variable {table : FileTable} {map : PolicyMap}

/-- A map is complete once its first policy is recorded. -/
theorem complete_first {sources : List SourceFile} (store : PolicyStore) (ref : PolicyRef) :
    Complete sources ((appendFirst ref).perform { store }).2 :=
  .of_nil rfl rfl

/-- Every run has well placed include points, and no file that is half entered. -/
theorem Run.complete (h : Run table map) :
    FileTable.WellPlaced table.newestFirst ∧ Complete table.newestFirst map := by
  induction h with
  | start store ref => exact ⟨trivial, complete_first store ref⟩
  | @restart table map run ref ih => exact ⟨ih.1, complete_first map.store ref⟩
  | addFile run placed call ih =>
    refine ⟨ih.1.add placed call, ?_⟩
    rw [(FileTable.add_eq_ok call).1]
    exact ih.2.addFile
  | makePolicies run store ih => exact ⟨ih.1, ih.2.withStore store⟩
  | replaceCurrent run ref ih => exact ⟨ih.1, ih.2.replaceCurrent ref⟩
  | lookup run loc ih => exact ⟨ih.1, (ih.2.lookup ih.1 loc).of_total⟩
  | append run loc ref ih => exact ⟨ih.1, (ih.2.append ih.1 loc ref).of_total⟩

/-! ## What holds after every run -/

/-- All entries ascend from offset zero, the root has the initial policy only, and every other entry is
that of a known file and hangs off the entry of its include point. Discovery ends, and neither it nor
a look-up at an offset that is not negative fails in a known file. -/
structure WellFormed (table : FileTable) (map : PolicyMap) : Prop where
  rising : ∀ key points, map.file? key = some points → points.Rising
  root : ∀ points, map.file? none = some points →
    ∃ first, map.first = some first ∧ points.points = [⟨first, 0⟩]
  parent : ∀ id points, map.file? (some id) = some points →
    ∃ source, FileTable.lookup table.newestFirst id = some source ∧
      points.parent = some source.parentKey ∧ points.parentOffset = source.parentOffset ∧
        ∃ includer, map.file? source.parentKey = some includer
  ends : WellFounded (InheritsFrom table)
  enters : ∀ id source, FileTable.lookup table.newestFirst id = some source →
    ∃ points map', (enter table (some id)).perform map = (.ok points, map')
  answers : ∀ loc source, FileTable.lookup table.newestFirst loc.file = some source →
    0 ≤ loc.offset → ∃ ref map', (lookup .files table loc).perform map = (.ok (some ref), map')

/-- After every run, whatever failed on the way, the map is well formed. -/
theorem wellFormed_of_run (h : Run table map) : WellFormed table map := by
  obtain ⟨hw, hc⟩ := h.complete
  obtain ⟨first, hf⟩ := hc.initial
  constructor
  case rising =>
    rintro (_ | id) points hp
    · exact hc.formed.root_rising hp
    · obtain ⟨source, hs⟩ := hc.known id points hp
      exact (hc.formed.entered id source points hs hp).1
  case root => exact hc.formed.root
  case parent =>
    intro id points hp
    obtain ⟨source, hs⟩ := hc.known id points hp
    exact ⟨source, hs, (hc.formed.entered id source points hs hp).2⟩
  case ends => exact wellFounded_inheritsFrom hw
  case enters =>
    intro id source hs
    obtain ⟨map', points, hperf, -⟩ := hc.exists_enter hw hs
    exact ⟨points, map', hperf⟩
  case answers =>
    intro loc source hs ho
    by_cases hnil : map.files = []
    · exact ⟨first, map, by rw [perform_lookup_of_nil hnil, hf]⟩
    · obtain ⟨map', _, ref, hperf, -⟩ := exists_lookup hw hc.formed hf hnil hs ho
      exact ⟨ref, map', hperf⟩

/-- A file and a header that it includes. -/
def headerTable : FileTable :=
  ⟨[⟨"defs.h", "", some ⟨1, 10⟩⟩, ⟨"main.c", "", none⟩]⟩

/-- An append behind the include point, one in the header, and one that is refused because it comes
too late. -/
theorem wellFormed_refused : ∃ map map', Run headerTable map ∧
    (append .files headerTable ⟨1, 5⟩ 9).perform map =
      (.error (.ofDefect (.transitionOutOfOrder 5 20 1)), map') ∧
    Run headerTable map' ∧ WellFormed headerTable map' := by
  have hmain : Run ⟨[⟨"main.c", "", none⟩]⟩ _ :=
    @Run.addFile {} _ _ "main.c" "" none _ (Run.start {} 0) (by rintro _ ⟨⟩) rfl
  have hheader : Run headerTable _ :=
    @Run.addFile _ headerTable _ "defs.h" "" (some ⟨1, 10⟩) _ hmain (by rintro _ ⟨⟩; decide) rfl
  have happends := (hheader.append ⟨1, 20⟩ 7).append ⟨2, 3⟩ 8
  have hrefused := happends.append ⟨1, 5⟩ 9
  exact ⟨_, _, happends, rfl, hrefused, wellFormed_of_run hrefused⟩

end Diagnostics.PolicyMap
