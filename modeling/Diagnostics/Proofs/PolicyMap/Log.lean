import Diagnostics.Proofs.PolicyMap.Complete
import Mathlib.Data.List.Basic

/-!
# The append log

What a map answers can be said without points, parents and the moment at which a file was entered: the
appends alone decide. In a file, the latest append among those with the greatest offset at or before
the location counts; if there is none, the include point decides in the same way, and behind a
top-level file the initial policy.

`Logged` is a run on a map whose appends come in source order: none is in front of an include point of
a file that was entered already. The invariant `Refines` says that every point of an entered file, also
the inherited ones, agrees with the log; discovery keeps it because a file that was not entered has no
appends, and an append keeps it because the includers of an entered file are entered as well.
-/

set_option autoImplicit false

namespace Diagnostics.PolicyMap

open Diagnostics.Action

/-- A policy that takes effect at a location. -/
structure LogEntry where
  loc : Location
  policy : PolicyRef
  deriving DecidableEq

/-! ## What the log says -/

/-- The appends in a file at or before an offset. -/
def upTo (log : List LogEntry) (file offset : Int) : List LogEntry :=
  log.filter fun e => e.loc.file = file ∧ e.loc.offset ≤ offset

/-- The policy of the latest append in a file among those with the greatest offset at or before the
given one. -/
def latest? (log : List LogEntry) (file offset : Int) : Option PolicyRef :=
  let greatest := ((upTo log file offset).map fun e => e.loc.offset).max?
  ((upTo log file offset).filter fun e => some e.loc.offset = greatest).getLast?.map LogEntry.policy

/-- The policy at an offset of a file according to a log: that of the file itself, or of its include
point, and the initial one behind a top-level file. -/
def logged? (log : List LogEntry) (initial : PolicyRef) :
    List SourceFile → Int → Int → Option PolicyRef
  | [], _, _ => none
  | file :: older, id, offset =>
    if id = older.length + 1 then
      (latest? log id offset).or (match file.includedAt with
        | none => some initial
        | some loc => logged? log initial older loc.file loc.offset)
    else logged? log initial older id offset

/-! ## Runs -/

/-- Appending at a location is in source order as long as no file was entered whose include point is
at the location or behind it in the same file. -/
def InOrder (table : FileTable) (map : PolicyMap) (loc : Location) : Prop :=
  ∀ id source offset, (map.file? (some id)).isSome →
    FileTable.lookup table.newestFirst id = some source →
      source.includedAt = some ⟨loc.file, offset⟩ → offset < loc.offset

/-- The runs on a map over a file table: `Logged table initial log map` is a run to the given table
and map, with the given appends, the earliest first. Files are added and policies are made and changed
at any time; the initial policy is replaced only before a file is entered. -/
inductive Logged : FileTable → PolicyRef → List LogEntry → PolicyMap → Prop
  | start {table : FileTable} {map map' : PolicyMap} {ref : PolicyRef}
      (placed : FileTable.WellPlaced table.newestFirst)
      (call : (appendFirst ref).perform map = (.ok (), map')) : Logged table ref [] map'
  | addFile {table table' : FileTable} {initial : PolicyRef} {log : List LogEntry} {map : PolicyMap}
      {name text : String} {includedAt : Option Location} {id : Int}
      (run : Logged table initial log map)
      (placed : ∀ loc, includedAt = some loc → 0 ≤ loc.offset)
      (call : table.add name text includedAt = .ok (id, table')) : Logged table' initial log map
  | makePolicies {table : FileTable} {initial : PolicyRef} {log : List LogEntry} {map : PolicyMap}
      (run : Logged table initial log map) (store : PolicyStore) :
      Logged table initial log { map with store }
  | replaceCurrent {table : FileTable} {initial : PolicyRef} {log : List LogEntry} {map : PolicyMap}
      (run : Logged table initial log map) (none : map.files = []) (ref : PolicyRef) :
      Logged table ref log (map.replaceCurrent ref)
  | lookup {table : FileTable} {initial : PolicyRef} {log : List LogEntry} {map map' : PolicyMap}
      {loc : Location} {found : Option PolicyRef} (run : Logged table initial log map)
      (nonneg : 0 ≤ loc.offset)
      (call : (lookup .files table loc).perform map = (.ok found, map')) :
      Logged table initial log map'
  | append {table : FileTable} {initial : PolicyRef} {log : List LogEntry} {map map' : PolicyMap}
      {loc : Location} {ref : PolicyRef} (run : Logged table initial log map)
      (nonneg : 0 ≤ loc.offset) (order : InOrder table map loc)
      (call : (append .files table loc ref).perform map = (.ok (), map')) :
      Logged table initial (log ++ [⟨loc, ref⟩]) map'

/-! ## The latest append -/

section Latest

variable {log : List LogEntry} {e : LogEntry} {file offset : Int}

/-- An append at or before the offset is one of those up to it. -/
theorem upTo_append_of_pos (hf : e.loc.file = file) (ho : e.loc.offset ≤ offset) :
    upTo (log ++ [e]) file offset = upTo log file offset ++ [e] := by
  unfold upTo
  rw [List.filter_append]
  simp [hf, ho]

/-- Any other append is none of them. -/
theorem upTo_append_of_neg (h : ¬(e.loc.file = file ∧ e.loc.offset ≤ offset)) :
    upTo (log ++ [e]) file offset = upTo log file offset := by
  unfold upTo
  rw [List.filter_append]
  simp [h]

/-- An append that is not before another one in its file is the latest one from its offset on. -/
theorem latest?_append_of_pos (hf : e.loc.file = file) (ho : e.loc.offset ≤ offset)
    (hle : ∀ e' ∈ log, e'.loc.file = file → e'.loc.offset ≤ e.loc.offset) :
    latest? (log ++ [e]) file offset = some e.policy := by
  have hmax : ((upTo log file offset ++ [e]).map fun e => e.loc.offset).max? =
      some e.loc.offset := by
    rw [List.max?_eq_some_iff]
    constructor
    · simp
    · intro x hx
      rw [List.mem_map] at hx
      obtain ⟨e', he', rfl⟩ := hx
      rw [List.mem_append, List.mem_singleton] at he'
      rcases he' with he' | rfl
      · have hmem := List.mem_filter.mp he'
        rw [decide_eq_true_eq] at hmem
        exact hle e' hmem.1 hmem.2.1
      · exact Int.le_refl _
  unfold latest?
  rw [upTo_append_of_pos hf ho, hmax]
  simp [List.filter_append]

/-- An append behind the offset, or in another file, is not the latest one. -/
theorem latest?_append_of_neg (h : ¬(e.loc.file = file ∧ e.loc.offset ≤ offset)) :
    latest? (log ++ [e]) file offset = latest? log file offset := by
  unfold latest?
  rw [upTo_append_of_neg h]

/-- Without appends in a file none is the latest. -/
theorem latest?_eq_none (h : ∀ e ∈ log, e.loc.file ≠ file) : latest? log file offset = none := by
  have hnil : upTo log file offset = [] := by
    unfold upTo
    rw [List.filter_eq_nil_iff]
    intro e he
    simp [h e he]
  unfold latest?
  simp [hnil]

end Latest

/-! ## The log along include chains -/

section Chains

variable {log : List LogEntry} {initial : PolicyRef} {sources older : List SourceFile}
  {file source : SourceFile} {id x : Int}

/-- What a log says where a file is included. -/
def inherited? (log : List LogEntry) (initial : PolicyRef) (sources : List SourceFile)
    (source : SourceFile) : Option PolicyRef :=
  match source.parentKey with
  | none => some initial
  | some parent => logged? log initial sources parent source.parentOffset

/-- A newer file does not change what a log says about an older one. -/
theorem logged?_cons_of_lookup (h : FileTable.lookup older id = some source) :
    logged? log initial (file :: older) id x = logged? log initial older id x := by
  have := FileTable.lookup_bounds h
  rw [logged?, if_neg (by omega)]

/-- A newer file does not change what a log says where an older file is included. -/
theorem inherited?_cons (hw : FileTable.WellPlaced (file :: older))
    (h : FileTable.lookup (file :: older) id = some source) :
    inherited? log initial (file :: older) source = inherited? log initial older source := by
  unfold inherited?
  cases hkey : source.parentKey with
  | none => rfl
  | some parent =>
    obtain ⟨hlt, includer, hi⟩ := hw.parent_lookup h hkey
    have := FileTable.lookup_bounds h
    rw [List.length_cons] at this
    rw [FileTable.lookup_cons_of_ne (by omega)] at hi
    exact logged?_cons_of_lookup hi

/-- In a file its own latest append decides, and without one what it inherits. -/
theorem logged?_of_lookup (hw : FileTable.WellPlaced sources)
    (hs : FileTable.lookup sources id = some source) :
    logged? log initial sources id x =
      (latest? log id x).or (inherited? log initial sources source) := by
  induction sources with
  | nil => cases hs
  | cons file older ih =>
    rw [inherited?_cons hw hs]
    rcases FileTable.lookup_cons_cases hs with ⟨rfl, rfl⟩ | hs'
    · rw [logged?, if_pos rfl]
      unfold inherited? SourceFile.parentKey SourceFile.parentOffset
      cases source.includedAt <;> rfl
    · rw [logged?_cons_of_lookup hs', ih hw.2 hs']

/-- Without appends every file has the initial policy. -/
theorem logged?_nil (hw : FileTable.WellPlaced sources)
    (hs : FileTable.lookup sources id = some source) :
    logged? [] initial sources id x = some initial := by
  refine hw.induction (P := fun id => ∀ x, logged? [] initial sources id x = some initial)
    ?_ id source hs x
  intro id source hs ih x
  rw [logged?_of_lookup hw hs, latest?_eq_none (by simp), Option.none_or]
  unfold inherited?
  cases hkey : source.parentKey with
  | none => rfl
  | some parent => exact ih parent hkey _

/-- An append leaves a file and its includers alone if it is behind every point of them that counts:
behind the offset in its own file, and behind the include points in it. -/
theorem logged?_append_of_order {e : LogEntry} (entered : Int → Prop)
    (hw : FileTable.WellPlaced sources)
    (hparent : ∀ id source parent, entered id → FileTable.lookup sources id = some source →
      source.parentKey = some parent → entered parent)
    (horder : ∀ id source, entered id → FileTable.lookup sources id = some source →
      source.parentKey = some e.loc.file → source.parentOffset < e.loc.offset)
    (hs : FileTable.lookup sources id = some source) (hid : entered id)
    (hx : id = e.loc.file → x < e.loc.offset) :
    logged? (log ++ [e]) initial sources id x = logged? log initial sources id x := by
  refine hw.induction (P := fun id => entered id → ∀ x, (id = e.loc.file → x < e.loc.offset) →
    logged? (log ++ [e]) initial sources id x = logged? log initial sources id x)
    ?_ id source hs hid x hx
  intro id source hs ih hid x hx
  have hown : latest? (log ++ [e]) id x = latest? log id x := by
    apply latest?_append_of_neg
    rintro ⟨hfile, ho⟩
    have := hx hfile.symm
    omega
  have hincl : inherited? (log ++ [e]) initial sources source =
      inherited? log initial sources source := by
    unfold inherited?
    cases hkey : source.parentKey with
    | none => rfl
    | some parent =>
      apply ih parent hkey (hparent id source parent hid hs hkey)
      rintro rfl
      exact horder id source hid hs hkey
  rw [logged?_of_lookup hw hs, logged?_of_lookup hw hs, hown, hincl]

end Chains

/-! ## The invariant -/

/-- A map in form whose entries say what the log says, and whose log has appends only in entered files
and not behind their last points. -/
structure Refines (sources : List SourceFile) (initial : PolicyRef) (log : List LogEntry)
    (map : PolicyMap) : Prop where
  placed : FileTable.WellPlaced sources
  formed : Formed sources map
  first : map.first = some initial
  known : ∀ id file, map.file? (some id) = some file →
    ∃ source, FileTable.lookup sources id = some source
  agrees : ∀ id file, map.file? (some id) = some file → ∀ x ref, 0 ≤ x → file.lookup x = .ok ref →
    logged? log initial sources id x = some ref
  covered : ∀ e ∈ log, ∃ file last, map.file? (some e.loc.file) = some file ∧
    file.points.getLast? = some last ∧ e.loc.offset ≤ last.offset

section Steps

variable {log : List LogEntry} {initial ref : PolicyRef} {sources : List SourceFile}
  {map map' : PolicyMap}

/-- A map that refines a log is complete. -/
theorem Refines.complete (h : Refines sources initial log map) : Complete sources map :=
  ⟨h.formed, ⟨initial, h.first⟩, h.known⟩

/-- Nothing was logged for a file without points. -/
theorem Refines.latest?_of_unknown (h : Refines sources initial log map) {id : Int}
    (hnone : map.file? (some id) = none) (x : Int) : latest? log id x = none := by
  apply latest?_eq_none
  intro e he heq
  obtain ⟨points, -, hpoints, -⟩ := h.covered e he
  rw [heq, hnone] at hpoints
  cases hpoints

/-- Nothing was logged behind the last point of a file. -/
theorem Refines.offset_le_last (h : Refines sources initial log map) {e : LogEntry}
    (he : e ∈ log) {id : Int} (heq : e.loc.file = id) {points : FilePoints} {last : PolicyPoint}
    (hp : map.file? (some id) = some points) (hlast : points.points.getLast? = some last) :
    e.loc.offset ≤ last.offset := by
  obtain ⟨file, last', hfile, hlast', hle⟩ := h.covered e he
  rw [heq, hp, Option.some.injEq] at hfile
  subst hfile
  rw [hlast, Option.some.injEq] at hlast'
  rw [hlast']
  exact hle

/-- Entries that are new inherit what the log says. -/
theorem Refines.discovers {target : Int} (h : Refines sources initial log map)
    (hm' : Formed sources map') (hd : Discovers sources target map map') :
    Refines sources initial log map' where
  placed := h.placed
  formed := hm'
  first := hd.first.trans h.first
  known := hd.known h.known
  agrees := by
    -- The induction is along the include chain: a new file says what its parent does, new or old.
    have hall := h.placed.induction (P := fun id => ∀ file, map'.file? (some id) = some file →
      ∀ x ref, 0 ≤ x → file.lookup x = .ok ref → logged? log initial sources id x = some ref) ?_
    · intro id file hfile
      cases hold : map.file? (some id) with
      | some old =>
        obtain ⟨source, hs⟩ := h.known id old hold
        exact hall id source hs file hfile
      | none =>
        obtain ⟨-, source, -, -, hs, -⟩ := hd.fresh id file hold hfile
        exact hall id source hs file hfile
    · intro id source hs ih file hfile x ref hx hl
      cases hold : map.file? (some id) with
      | some old =>
        have hkept := hd.kept _ old hold
        rw [hfile, Option.some.injEq] at hkept
        subst hkept
        exact h.agrees id file hold x ref hx hl
      | none =>
        obtain ⟨-, source', parent, r, hs', hparent, hpl, hpts⟩ := hd.fresh id file hold hfile
        rw [hs, Option.some.injEq] at hs'
        subst hs'
        have hr : ref = r := by
          rw [FilePoints.lookup_singleton hpts hx] at hl
          exact (Except.ok.inj hl).symm
        have hoff := h.placed.parentOffset_nonneg hs
        -- Nothing was appended in a file that was not entered, so the log speaks of its include point.
        rw [logged?_of_lookup h.placed hs, h.latest?_of_unknown hold x, Option.none_or, hr]
        unfold inherited?
        cases hkey : source.parentKey with
        | none =>
          rw [hkey] at hparent
          obtain ⟨root, hroot, hrpts⟩ := hm'.root parent hparent
          rw [FilePoints.lookup_singleton hrpts hoff] at hpl
          rw [hd.first, h.first] at hroot
          exact hroot.trans (congrArg some (Except.ok.inj hpl))
        | some key =>
          rw [hkey] at hparent
          exact ih key hkey parent hparent _ r hoff hpl
  covered e he := by
    obtain ⟨file, last, hfile, hrest⟩ := h.covered e he
    exact ⟨file, last, hd.kept _ file hfile, hrest⟩

/-- A policy recorded in source order takes effect in its own file only. -/
theorem Refines.places {id offset : Int} {points : FilePoints} {last : PolicyPoint}
    (h : Refines sources initial log map) (hplaces : Places (some id) ref offset map map')
    (hp : map.file? (some id) = some points) (hlast : points.points.getLast? = some last)
    (ho : last.offset ≤ offset)
    (horder : ∀ i source, (map.file? (some i)).isSome → FileTable.lookup sources i = some source →
      source.parentKey = some id → source.parentOffset < offset) :
    Refines sources initial (log ++ [⟨⟨id, offset⟩, ref⟩]) map' where
  placed := h.placed
  formed := h.formed.places hplaces hp hlast ho
  first := hplaces.first.trans h.first
  known := (h.complete.places hplaces hp hlast ho).known
  agrees i file hfile x r hx hl := by
    -- In front of the append, and in other files, the log says what it said before.
    have hbefore : ∀ points, map.file? (some i) = some points → (i = id → x < offset) →
        points.lookup x = .ok r →
          logged? (log ++ [⟨⟨id, offset⟩, ref⟩]) initial sources i x = some r := by
      intro points hpoints hlt hl
      obtain ⟨source, hs⟩ := h.known i points hpoints
      rw [logged?_append_of_order (fun i => (map.file? (some i)).isSome) h.placed ?_ horder hs
        (by rw [hpoints]; rfl) hlt]
      · exact h.agrees i points hpoints x r hx hl
      · intro j src parent hj hsrc hkey
        obtain ⟨file, hfile⟩ := Option.isSome_iff_exists.mp hj
        obtain ⟨-, -, -, entry, hentry⟩ := h.formed.entered j src file hsrc hfile
        rw [hkey] at hentry
        rw [hentry]
        rfl
    rw [hplaces.file?] at hfile
    by_cases hi : i = id
    · subst hi
      obtain ⟨source, hs⟩ := h.known i points hp
      have hrise := (h.formed.entered i source points hs hp).1
      rw [if_pos rfl, hp, Option.map_some, Option.some.injEq] at hfile
      subst hfile
      rw [hrise.lookup_place hlast ref ho] at hl
      by_cases hox : offset ≤ x
      · rw [if_pos hox] at hl
        cases hl
        -- No earlier append of the file lies behind this one, so this one is the latest.
        have hle : ∀ e ∈ log, e.loc.file = i → e.loc.offset ≤ offset :=
          fun e he heq => Int.le_trans (h.offset_le_last he heq hp hlast) ho
        rw [logged?_of_lookup h.placed hs, latest?_append_of_pos rfl hox hle, Option.some_or]
      · rw [if_neg hox] at hl
        exact hbefore points hp (fun _ => by omega) hl
    · rw [if_neg (by simpa using hi)] at hfile
      exact hbefore file hfile (fun heq => absurd heq hi) hl
  covered e he := by
    rw [List.mem_append, List.mem_singleton] at he
    rcases he with he | rfl
    · by_cases heq : e.loc.file = id
      · refine ⟨points.place ref offset, ⟨ref, offset⟩, ?_, FilePoints.getLast?_place .., ?_⟩
        · rw [hplaces.file?, if_pos (by rw [heq]), heq, hp, Option.map_some]
        · exact Int.le_trans (h.offset_le_last he heq hp hlast) ho
      · obtain ⟨file, last', hfile, hlast', hle⟩ := h.covered e he
        refine ⟨file, last', ?_, hlast', hle⟩
        rw [hplaces.file?, if_neg (by simpa using heq), hfile]
    · refine ⟨points.place ref offset, ⟨ref, offset⟩, ?_, FilePoints.getLast?_place .., ?_⟩
      · rw [hplaces.file?, if_pos rfl, hp, Option.map_some]
      · exact Int.le_refl _

/-- A map without entries agrees with the empty log. -/
theorem Refines.of_nil (hw : FileTable.WellPlaced sources) (hfiles : map.files = [])
    (hfirst : map.first = some initial) : Refines sources initial [] map := by
  refine ⟨hw, Formed.of_nil hfiles, hfirst, ?_, ?_, by simp⟩
  · intro id file hfile
    rw [file?_of_nil hfiles] at hfile
    cases hfile
  · intro id file hfile
    rw [file?_of_nil hfiles] at hfile
    cases hfile

/-- As long as no file was entered, nothing was appended. -/
theorem Refines.log_eq_nil (h : Refines sources initial log map) (hfiles : map.files = []) :
    log = [] := by
  cases hlog : log with
  | nil => rfl
  | cons e rest =>
    obtain ⟨file, -, hfile, -⟩ := h.covered e (by rw [hlog]; exact List.mem_cons_self)
    rw [file?_of_nil hfiles] at hfile
    cases hfile

/-- A file that was just added has neither an entry nor an append. -/
theorem Refines.addFile {file : SourceFile} (h : Refines sources initial log map)
    (hw : FileTable.WellPlaced (file :: sources)) : Refines (file :: sources) initial log map where
  placed := hw
  formed := h.complete.addFile.formed
  first := h.first
  known := h.complete.addFile.known
  agrees id points hp x ref hx hl := by
    obtain ⟨source, hs⟩ := h.known id points hp
    rw [logged?_cons_of_lookup hs]
    exact h.agrees id points hp x ref hx hl
  covered := h.covered

end Steps

/-! ## Runs agree with their log -/

variable {table : FileTable} {initial : PolicyRef} {log : List LogEntry} {map map' : PolicyMap}

/-- Every run keeps its map in agreement with its log. -/
theorem Logged.refines (h : Logged table initial log map) :
    Refines table.newestFirst initial log map := by
  induction h with
  | start placed call =>
    obtain ⟨hfiles, hfirst⟩ := appendFirst_ok call
    exact Refines.of_nil placed hfiles hfirst
  | addFile run placed call ih =>
    have hw := ih.placed.add placed call
    rw [(FileTable.add_eq_ok call).1] at hw ⊢
    exact ih.addFile hw
  | makePolicies run store ih =>
    exact ⟨ih.placed, ⟨ih.formed.root, ih.formed.entered⟩, ih.first, ih.known, ih.agrees, ih.covered⟩
  | replaceCurrent run none ref ih =>
    obtain ⟨hfiles, hfirst⟩ := replaceCurrent_of_nil none ref
    rw [ih.log_eq_nil none]
    exact Refines.of_nil ih.placed hfiles hfirst
  | @lookup table initial log map map' loc found run nonneg call ih =>
    by_cases hfiles : map.files = []
    · rw [perform_lookup_of_nil hfiles] at call
      cases call
      exact ih
    · have hknown := lookup_known hfiles call
      obtain ⟨source, hs⟩ := hknown
      obtain ⟨m, points, ref, hperf, hm, hd, -⟩ :=
        exists_lookup ih.placed ih.formed ih.first hfiles hs nonneg
      rw [hperf] at call
      cases call
      exact ih.discovers hm hd
  | @append table initial log map map' loc ref run nonneg order call ih =>
    obtain ⟨m, points, last, source, hs, hm, hd, hp, hlast, ho, hplaces⟩ :=
      append_ok ih.placed ih.formed ih.first call
    have hmarked : Refines table.newestFirst initial log
        ({ map with current := some ref, location := some loc } : PolicyMap) :=
      ⟨ih.placed, ⟨ih.formed.root, ih.formed.entered⟩, ih.first, ih.known, ih.agrees, ih.covered⟩
    refine (hmarked.discovers hm hd).places hplaces hp hlast ho ?_
    intro id src hsome hsrc hkey
    cases hold : map.file? (some id) with
    | some old =>
      exact order id src _ (by rw [hold]; rfl) hsrc (SourceFile.includedAt_of_parentKey hkey)
    | none =>
      -- A file that the append itself enters includes the file of the append, or is that file.
      obtain ⟨file, hfile⟩ := Option.isSome_iff_exists.mp hsome
      have := (hd.fresh id file hold hfile).1
      have := (ih.placed.parent_lookup hsrc hkey).1
      omega

/-- After every run, a look-up at a known location succeeds and finds the policy that the log says,
and so does entering the file of the location and reading its points: the answer without entries is
the one that discovery would give. -/
theorem lookup_eq_logged (h : Logged table initial log map) {loc : Location} {source : SourceFile}
    (hs : FileTable.lookup table.newestFirst loc.file = some source) (ho : 0 ≤ loc.offset) :
    ∃ ref, logged? log initial table.newestFirst loc.file loc.offset = some ref ∧
      (∃ map', (lookup .files table loc).perform map = (.ok (some ref), map')) ∧
      ∃ map' points, (enter table (some loc.file)).perform map = (.ok points, map') ∧
        points.lookup loc.offset = .ok ref := by
  have hr := h.refines
  obtain ⟨m, hperf, hm, hd, points, hpts⟩ := exists_enterFile hr.placed hs hr.formed hr.first
  obtain ⟨ref, hl⟩ := (hm.entered _ _ _ hs hpts).1.exists_lookup ho
  have hlog := (hr.discovers hm hd).agrees _ points hpts _ ref ho hl
  refine ⟨ref, hlog, ?_, m, points, perform_enter hperf hpts, hl⟩
  by_cases hfiles : map.files = []
  · rw [hr.log_eq_nil hfiles, logged?_nil hr.placed hs, Option.some.injEq] at hlog
    subst hlog
    exact ⟨map, by rw [perform_lookup_of_nil hfiles, hr.first]⟩
  · obtain ⟨m', points', ref', hlookup, hm', hd', hpts', hl'⟩ :=
      exists_lookup hr.placed hr.formed hr.first hfiles hs ho
    have hlog' := (hr.discovers hm' hd').agrees _ points' hpts' _ ref' ho hl'
    rw [hlog, Option.some.injEq] at hlog'
    subst hlog'
    exact ⟨m', hlookup⟩

/-- A file that is included behind an append has the appended policy from its start. -/
theorem lookup_in_included_file : ∃ map,
    Logged ⟨[⟨"defs.h", "", some ⟨1, 5⟩⟩, ⟨"main.c", "", none⟩]⟩ 0 [⟨⟨1, 2⟩, 7⟩] map ∧
    ∃ ref, logged? [⟨⟨1, 2⟩, 7⟩] 0
        [⟨"defs.h", "", some ⟨1, 5⟩⟩, ⟨"main.c", "", none⟩] 2 0 = some ref ∧
      (∃ map', (lookup .files ⟨[⟨"defs.h", "", some ⟨1, 5⟩⟩, ⟨"main.c", "", none⟩]⟩ ⟨2, 0⟩).perform
        map = (.ok (some ref), map')) ∧
      ∃ map' points, (enter ⟨[⟨"defs.h", "", some ⟨1, 5⟩⟩, ⟨"main.c", "", none⟩]⟩ (some 2)).perform
        map = (.ok points, map') ∧ points.lookup 0 = .ok ref := by
  have hplaced : FileTable.WellPlaced
      [⟨"defs.h", "", some ⟨1, 5⟩⟩, ⟨"main.c", "", none⟩] := by
    refine ⟨?_, by simp, trivial⟩
    rintro _ ⟨⟩
    exact ⟨by decide, _, rfl⟩
  have hstart : Logged ⟨[⟨"defs.h", "", some ⟨1, 5⟩⟩, ⟨"main.c", "", none⟩]⟩ 0 []
      { first := some 0, current := some 0 } :=
    @Logged.start _ {} _ _ hplaced rfl
  have hrun := @Logged.append _ _ _ _ _ ⟨1, 2⟩ 7 hstart (by decide) (by rintro _ _ _ ⟨⟩) rfl
  exact ⟨_, hrun, @lookup_eq_logged _ _ _ _ hrun ⟨2, 0⟩ _ rfl (by decide)⟩

end Diagnostics.PolicyMap
