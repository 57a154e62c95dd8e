import Diagnostics.Location.FileTable

/-!
# Files and their includers

A file is looked up among files of which the latest comes first, so its number is its distance from
the end of the list. The includer of a file stands behind it, which `Linked` says and every table keeps.
`WellPlaced` says that the include points are at offsets that are not negative as well: tables keep this
as long as files are added with such include points. Others can be made too, and `Misplaced` says of a
file that its own include point or one above it is such a one.
-/

set_option autoImplicit false

namespace Diagnostics

namespace SourceFile

/-- The entry that a file inherits from. -/
def parentKey (source : SourceFile) : Option Int :=
  source.includedAt.map Location.file

/-- The offset that a file inherits from. -/
def parentOffset (source : SourceFile) : Int :=
  (source.includedAt.map Location.offset).getD 0

/-- A file that is included nowhere inherits from no file. -/
theorem parentKey_topLevel {source : SourceFile} (h : source.includedAt = none) :
    source.parentKey = none := by
  unfold parentKey
  rw [h, Option.map_none]

/-- A file inherits from the file that includes it. -/
theorem parentKey_included {source : SourceFile} {loc : Location}
    (h : source.includedAt = some loc) : source.parentKey = some loc.file := by
  unfold parentKey
  rw [h, Option.map_some]

/-- A file inherits from the place where it is included. -/
theorem parentOffset_included {source : SourceFile} {loc : Location}
    (h : source.includedAt = some loc) : source.parentOffset = loc.offset := by
  unfold parentOffset
  rw [h, Option.map_some, Option.getD_some]

/-- A file that inherits from a file is included there. -/
theorem includedAt_of_parentKey {source : SourceFile} {parent : Int}
    (h : source.parentKey = some parent) :
    source.includedAt = some ⟨parent, source.parentOffset⟩ := by
  unfold parentKey at h
  unfold parentOffset
  cases hat : source.includedAt with
  | none =>
    rw [hat] at h
    cases h
  | some loc =>
    rw [hat] at h
    cases h
    rfl

end SourceFile

namespace FileTable

variable {file : SourceFile} {older : List SourceFile} {id : Int} {source : SourceFile}

/-! ## Numbers of files -/

/-- The newest file has the greatest number. -/
theorem lookup_cons_self (file : SourceFile) (older : List SourceFile) :
    lookup (file :: older) (older.length + 1) = some file := by
  unfold lookup
  rw [if_pos rfl]

/-- The other numbers are those of the older files. -/
theorem lookup_cons_of_ne (h : id ≠ older.length + 1) :
    lookup (file :: older) id = lookup older id := by
  rw [lookup, if_neg h]

/-- Files are numbered from one. -/
theorem lookup_bounds {sources : List SourceFile} (h : lookup sources id = some source) :
    1 ≤ id ∧ id ≤ sources.length := by
  induction sources with
  | nil => cases h
  | cons file older ih =>
    by_cases hid : id = older.length + 1
    · rw [List.length_cons]
      omega
    · rw [lookup_cons_of_ne hid] at h
      have := ih h
      rw [List.length_cons]
      omega

/-- A newer file does not hide an older one. -/
theorem lookup_cons_of_lookup (h : lookup older id = some source) :
    lookup (file :: older) id = some source := by
  have := lookup_bounds h
  rw [lookup_cons_of_ne (by omega), h]

/-- A file of a table that a file was added to is that file, or it was there before. -/
theorem lookup_cons_cases (h : lookup (file :: older) id = some source) :
    id = older.length + 1 ∧ source = file ∨ lookup older id = some source := by
  by_cases hid : id = older.length + 1
  · subst hid
    rw [lookup_cons_self, Option.some.injEq] at h
    exact .inl ⟨rfl, h.symm⟩
  · rw [lookup_cons_of_ne hid] at h
    exact .inr h

/-- A file that is in the table is found. -/
theorem file_eq_ok {table : FileTable} (h : lookup table.newestFirst id = some source) :
    table.file id = .ok source := by
  unfold FileTable.file
  rw [h]

/-- A location in a known file is its file and its offset. -/
theorem decompose_eq_ok {table : FileTable} {loc : Location}
    (h : lookup table.newestFirst loc.file = some source) :
    table.decompose loc = .ok (loc.file, loc.offset) := by
  unfold decompose
  rw [file_eq_ok h]
  rfl

/-- A location in an unknown file is refused. -/
theorem decompose_eq_error {table : FileTable} {loc : Location}
    (h : lookup table.newestFirst loc.file = none) :
    table.decompose loc = .error (.ofDefect (.fileUnknown loc.file)) := by
  unfold decompose FileTable.file
  rw [h]
  rfl

/-- A location can be decomposed only if its file is known. -/
theorem exists_lookup_of_decompose {table : FileTable} {loc : Location} {found : Int × Int}
    (h : table.decompose loc = .ok found) :
    ∃ source, lookup table.newestFirst loc.file = some source := by
  unfold decompose FileTable.file at h
  cases hl : lookup table.newestFirst loc.file with
  | none =>
    rw [hl] at h
    cases h
  | some source => exact ⟨source, rfl⟩

/-- A file is added in front of the other ones, one of which has its include point. -/
theorem add_eq_ok {table table' : FileTable} {name text : String} {includedAt : Option Location}
    (hadd : table.add name text includedAt = .ok (id, table')) :
    table'.newestFirst = ⟨name, text, includedAt⟩ :: table.newestFirst ∧
      ∀ loc, includedAt = some loc →
        ∃ includer, lookup table.newestFirst loc.file = some includer := by
  cases includedAt with
  | none =>
    cases hadd
    exact ⟨rfl, by rintro _ ⟨⟩⟩
  | some loc =>
    have hbind : table.add name text (some loc) = (do
        let _ ← table.file loc.file
        .ok (table.size + 1, ⟨⟨name, text, some loc⟩ :: table.newestFirst⟩)) := rfl
    rw [hbind, FileTable.file] at hadd
    cases hl : lookup table.newestFirst loc.file with
    | none =>
      rw [hl] at hadd
      cases hadd
    | some includer =>
      rw [hl] at hadd
      cases hadd
      refine ⟨rfl, ?_⟩
      rintro _ ⟨⟩
      exact ⟨includer, hl⟩

/-! ## Include points -/

/-- The location is one that the service makes of an offset, or of a line and a column. -/
def Makes (table : FileTable) (loc : Location) : Prop :=
  ∃ id, (∃ offset, table.location id offset = .ok loc) ∨
    ∃ line column, table.locationAt id line column = .ok loc

/-- All offsets of known files can be made, also negative ones: they are columns of the first line. -/
theorem makes_iff {table : FileTable} {loc : Location} :
    table.Makes loc ↔ ∃ source, lookup table.newestFirst loc.file = some source := by
  constructor
  · rintro ⟨id, ⟨offset, h⟩ | ⟨line, column, h⟩⟩
    · cases hs : lookup table.newestFirst id with
      | none => simp [location, FileTable.file, hs, bind, Except.bind] at h
      | some source =>
        simp only [location, file_eq_ok hs, bind, Except.bind] at h
        split at h
        · cases h
        · cases h
          exact ⟨source, hs⟩
    · cases hs : lookup table.newestFirst id with
      | none => simp [locationAt, FileTable.file, hs, bind, Except.bind] at h
      | some source =>
        simp only [locationAt, file_eq_ok hs, bind, Except.bind] at h
        split at h
        · cases h
          exact ⟨source, hs⟩
        · cases h
  · rintro ⟨source, hs⟩
    have hlines : (1 : Int) ≤ source.starts.length := by
      rw [SourceFile.starts, lineStarts, List.length_cons]
      omega
    have hat : source.offsetAt? 1 (loc.offset + 1) = some loc.offset := by
      rw [SourceFile.offsetAt?, if_pos ⟨Int.le_refl 1, hlines⟩]
      simp [SourceFile.starts, lineStarts]
    refine ⟨loc.file, .inr ⟨1, loc.offset + 1, ?_⟩⟩
    simp [locationAt, file_eq_ok hs, hat, bind, Except.bind]

/-- Every file that is included is included from an older one. -/
def Linked : List SourceFile → Prop
  | [] => True
  | file :: older =>
    (∀ loc, file.includedAt = some loc → ∃ includer, lookup older loc.file = some includer) ∧
      Linked older

/-- Adding a file keeps the links, wherever it is included from. -/
theorem Linked.add {table table' : FileTable} {name text : String} {includedAt : Option Location}
    (h : Linked table.newestFirst) (hadd : table.add name text includedAt = .ok (id, table')) :
    Linked table'.newestFirst := by
  obtain ⟨hcons, hincluder⟩ := add_eq_ok hadd
  rw [hcons]
  exact ⟨hincluder, h⟩

/-- The includer of a file is older than the file. -/
theorem Linked.parent_lookup {sources : List SourceFile} (h : Linked sources)
    (hs : lookup sources id = some source) {parent : Int}
    (hp : source.parentKey = some parent) :
    parent < id ∧ ∃ includer, lookup sources parent = some includer := by
  induction sources with
  | nil => cases hs
  | cons file older ih =>
    rcases lookup_cons_cases hs with ⟨rfl, rfl⟩ | hs
    · obtain ⟨includer, hi⟩ : ∃ includer, lookup older parent = some includer :=
        h.1 _ (SourceFile.includedAt_of_parentKey hp)
      have := lookup_bounds hi
      exact ⟨by omega, includer, lookup_cons_of_lookup hi⟩
    · obtain ⟨hlt, includer, hi⟩ := ih h.2 hs
      exact ⟨hlt, includer, lookup_cons_of_lookup hi⟩

/-- What holds of a file if it holds of its includer holds of all files. -/
theorem Linked.induction {sources : List SourceFile} (h : Linked sources) {P : Int → Prop}
    (step : ∀ id source, lookup sources id = some source →
      (∀ parent, source.parentKey = some parent → P parent) → P id) :
    ∀ id source, lookup sources id = some source → P id := by
  intro id
  induction hn : id.toNat using Nat.strongRecOn generalizing id with
  | ind n ih =>
    intro source hs
    apply step id source hs
    intro parent hp
    obtain ⟨hlt, includer, hi⟩ := h.parent_lookup hs hp
    have := lookup_bounds hs
    have := lookup_bounds hi
    exact ih parent.toNat (by omega) parent rfl includer hi

/-- Every file is included from an older one, at an offset that is not negative. -/
def WellPlaced : List SourceFile → Prop
  | [] => True
  | file :: older =>
    (∀ loc, file.includedAt = some loc →
      0 ≤ loc.offset ∧ ∃ includer, lookup older loc.file = some includer) ∧ WellPlaced older

/-- Adding a file keeps the include points in place. -/
theorem WellPlaced.add {table table' : FileTable} {name text : String}
    {includedAt : Option Location} (h : WellPlaced table.newestFirst)
    (hat : ∀ loc, includedAt = some loc → 0 ≤ loc.offset)
    (hadd : table.add name text includedAt = .ok (id, table')) :
    WellPlaced table'.newestFirst := by
  obtain ⟨hcons, hincluder⟩ := add_eq_ok hadd
  rw [hcons]
  exact ⟨fun loc hloc => ⟨hat loc hloc, hincluder loc hloc⟩, h⟩

/-- Well placed files are included from older ones. -/
theorem WellPlaced.linked {sources : List SourceFile} (h : WellPlaced sources) :
    Linked sources := by
  induction sources with
  | nil => trivial
  | cons file older ih => exact ⟨fun loc hat => (h.1 loc hat).2, ih h.2⟩

/-- The file that includes another one is known, and older. -/
theorem WellPlaced.parent_lookup {sources : List SourceFile} (h : WellPlaced sources)
    (hs : lookup sources id = some source) {parent : Int}
    (hp : source.parentKey = some parent) :
    parent < id ∧ ∃ includer, lookup sources parent = some includer :=
  h.linked.parent_lookup hs hp

/-- Induction along the files that include one another, from the outermost one inwards. -/
theorem WellPlaced.induction {sources : List SourceFile} (h : WellPlaced sources) {P : Int → Prop}
    (step : ∀ id source, lookup sources id = some source →
      (∀ parent, source.parentKey = some parent → P parent) → P id) :
    ∀ id source, lookup sources id = some source → P id :=
  h.linked.induction step

/-- Nothing is inherited from in front of a file. -/
theorem WellPlaced.parentOffset_nonneg {sources : List SourceFile} (h : WellPlaced sources)
    (hs : lookup sources id = some source) : 0 ≤ source.parentOffset := by
  induction sources with
  | nil => cases hs
  | cons file older ih =>
    rcases lookup_cons_cases hs with ⟨rfl, rfl⟩ | hs
    · unfold SourceFile.parentOffset
      cases hat : source.includedAt with
      | none => exact Int.le_refl 0
      | some loc => exact (h.1 loc hat).1
    · exact ih h.2 hs

/-- A file cannot inherit: its include point, or that of a file it is included from, is in front of the
file that it points to. -/
inductive Misplaced (sources : List SourceFile) : Int → Prop
  | here {id : Int} {source : SourceFile} (hs : lookup sources id = some source)
      (hneg : source.parentOffset < 0) : Misplaced sources id
  | above {id parent : Int} {source : SourceFile} (hs : lookup sources id = some source)
      (hp : source.parentKey = some parent) (h : Misplaced sources parent) : Misplaced sources id

/-- A file is misplaced at its own include point, or because the file that includes it is. -/
theorem misplaced_iff {sources : List SourceFile} (hs : lookup sources id = some source) :
    Misplaced sources id ↔ source.parentOffset < 0 ∨
      ∃ parent, source.parentKey = some parent ∧ Misplaced sources parent := by
  constructor
  · intro h
    cases h with
    | here hs' hneg =>
      cases hs.symm.trans hs'
      exact .inl hneg
    | above hs' hp h =>
      cases hs.symm.trans hs'
      exact .inr ⟨_, hp, h⟩
  · rintro (hneg | ⟨parent, hp, h⟩)
    · exact .here hs hneg
    · exact .above hs hp h

/-- Adding a file does not misplace another one. -/
theorem misplaced_cons_iff (hl : Linked older) (hs : lookup older id = some source) :
    Misplaced (file :: older) id ↔ Misplaced older id := by
  refine hl.induction (P := fun id => Misplaced (file :: older) id ↔ Misplaced older id)
    (fun id source hs ih => ?_) id source hs
  rw [misplaced_iff (lookup_cons_of_lookup hs), misplaced_iff hs]
  refine or_congr_right (exists_congr fun parent => and_congr_right fun hp => ih parent hp)

end FileTable

end Diagnostics
