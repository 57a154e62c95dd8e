import Diagnostics.Proofs.PolicyMap.Marks

/-!
# The policy in effect

A look-up enters the file that it is about and then reads its points. What it finds can be said without
entering anything: an entered file has points, and any other file has what its include point has, down
to the initial policy behind a top-level file. `inEffect?` says this, and it does not see discovery:
whatever files are entered in between, the same policies stay in effect.

An append at the end of a file puts its policy in effect there from its offset on. It is not seen in
front of that, nor in any other file that was entered.
-/

set_option autoImplicit false

namespace Diagnostics.PolicyMap

open Diagnostics.Action

/-- The policy in effect at an offset of a file of a table, whose latest file comes first. -/
def inEffect? (map : PolicyMap) : List SourceFile → Int → Int → Option PolicyRef
  | [], _, _ => none
  | file :: older, id, x =>
    if id = older.length + 1 then
      match map.file? (some id) with
      | some points => (points.lookup x).toOption
      | none =>
        match file.includedAt with
        | none => map.first
        | some loc => map.inEffect? older loc.file loc.offset
    else map.inEffect? older id x

variable {file : SourceFile} {older sources : List SourceFile} {table : FileTable}
  {map map' : PolicyMap} {id x : Int} {source : SourceFile} {points : FilePoints} {loc : Location}
  {first ref : PolicyRef}

/-! ## File by file -/

/-- A newer file does not change what is in effect in an older one. -/
theorem inEffect?_cons_of_lookup (hs : FileTable.lookup older id = some source) :
    map.inEffect? (file :: older) id x = map.inEffect? older id x := by
  have := FileTable.lookup_bounds hs
  rw [inEffect?, if_neg (by omega)]

/-- In an entered file the points decide. -/
theorem inEffect?_entered (hs : FileTable.lookup sources id = some source)
    (hf : map.file? (some id) = some points) :
    map.inEffect? sources id x = (points.lookup x).toOption := by
  induction sources with
  | nil => cases hs
  | cons file older ih =>
    rcases FileTable.lookup_cons_cases hs with ⟨rfl, rfl⟩ | hs'
    · rw [inEffect?, if_pos rfl, hf]
    · rw [inEffect?_cons_of_lookup hs', ih hs']

/-- What is in effect in a file that was entered is found by its points. -/
theorem lookup_of_inEffect? (hs : FileTable.lookup sources id = some source)
    (hf : map.file? (some id) = some points) (h : map.inEffect? sources id x = some ref) :
    points.lookup x = .ok ref := by
  rw [inEffect?_entered hs hf] at h
  cases hl : points.lookup x with
  | error fault =>
    rw [hl] at h
    cases h
  | ok found =>
    rw [hl] at h
    exact congrArg Except.ok (Option.some.inj h)

/-- A top-level file that was not entered has the initial policy. -/
theorem inEffect?_topLevel (hs : FileTable.lookup sources id = some source)
    (hnone : map.file? (some id) = none) (htop : source.includedAt = none) :
    map.inEffect? sources id x = map.first := by
  induction sources with
  | nil => cases hs
  | cons file older ih =>
    rcases FileTable.lookup_cons_cases hs with ⟨rfl, rfl⟩ | hs'
    · rw [inEffect?, if_pos rfl, hnone, htop]
    · rw [inEffect?_cons_of_lookup hs', ih hs']

/-- An included file that was not entered has what its include point has. -/
theorem inEffect?_included (hw : FileTable.WellPlaced sources)
    (hs : FileTable.lookup sources id = some source) (hnone : map.file? (some id) = none)
    (hat : source.includedAt = some loc) :
    map.inEffect? sources id x = map.inEffect? sources loc.file loc.offset := by
  induction sources with
  | nil => cases hs
  | cons file older ih =>
    rcases FileTable.lookup_cons_cases hs with ⟨rfl, rfl⟩ | hs'
    · obtain ⟨-, includer, hi⟩ := hw.1 loc hat
      rw [inEffect?, if_pos rfl, hnone, hat, inEffect?_cons_of_lookup hi]
    · obtain ⟨-, includer, hi⟩ := hw.2.parent_lookup hs' (SourceFile.parentKey_included hat)
      rw [inEffect?_cons_of_lookup hs', ih hw.2 hs', inEffect?_cons_of_lookup hi]

/-- What is in effect in all files depends on the points of the entered ones and on the initial
policy. -/
theorem inEffect?_congr (hfile : ∀ key, map'.file? key = map.file? key)
    (hfirst : map'.first = map.first) : map'.inEffect? sources id x = map.inEffect? sources id x := by
  induction sources generalizing id x with
  | nil => rfl
  | cons file older ih =>
    rw [inEffect?, inEffect?, hfile, hfirst]
    cases map.file? (some id) <;> cases file.includedAt <;> simp only [ih]

/-- As long as no file was entered, the initial policy is in effect everywhere. -/
theorem inEffect?_of_nil (hw : FileTable.WellPlaced sources) (hnil : map.files = [])
    (hs : FileTable.lookup sources id = some source) : map.inEffect? sources id x = map.first := by
  have hnone := file?_of_nil hnil
  suffices ∀ x, map.inEffect? sources id x = map.first from this x
  refine hw.induction (P := fun id => ∀ x, map.inEffect? sources id x = map.first)
    (fun id source hs ih x => ?_) id source hs
  cases hat : source.includedAt with
  | none => exact inEffect?_topLevel hs (hnone _) hat
  | some loc =>
    rw [inEffect?_included hw hs (hnone _) hat]
    exact ih loc.file (SourceFile.parentKey_included hat) _

/-! ## Discovery -/

/-- Entering files does not change what is in effect. -/
theorem inEffect?_of_discovers {target : Int} (hw : FileTable.WellPlaced sources)
    (hm : Formed sources map') (hd : Discovers sources target map map')
    (hs : FileTable.lookup sources id = some source) (hx : 0 ≤ x) :
    map'.inEffect? sources id x = map.inEffect? sources id x := by
  suffices ∀ x, 0 ≤ x → map'.inEffect? sources id x = map.inEffect? sources id x from this x hx
  clear hx
  refine hw.induction (P := fun id => ∀ x, 0 ≤ x →
    map'.inEffect? sources id x = map.inEffect? sources id x) (fun id source hs ih x hx => ?_)
    id source hs
  cases hold : map.file? (some id) with
  | some points => rw [inEffect?_entered hs hold, inEffect?_entered hs (hd.kept _ points hold)]
  | none =>
    -- Either way the include point decides: now, or when the file was entered.
    cases hnew : map'.file? (some id) with
    | none =>
      cases hat : source.includedAt with
      | none =>
        rw [inEffect?_topLevel hs hnew hat, inEffect?_topLevel hs hold hat]
        exact hd.first
      | some loc =>
        rw [inEffect?_included hw hs hnew hat, inEffect?_included hw hs hold hat]
        have hnonneg := hw.parentOffset_nonneg hs
        rw [SourceFile.parentOffset_included hat] at hnonneg
        exact ih loc.file (SourceFile.parentKey_included hat) _ hnonneg
    | some points =>
      obtain ⟨-, source', parent, ref, hs', hparent, hinherited, hpoints⟩ :=
        hd.fresh id points hold hnew
      rw [hs, Option.some.injEq] at hs'
      subst hs'
      have hnonneg := hw.parentOffset_nonneg hs
      rw [inEffect?_entered hs hnew, FilePoints.lookup_singleton hpoints hx]
      cases hat : source.includedAt with
      | none =>
        rw [SourceFile.parentKey_topLevel hat] at hparent
        obtain ⟨first, hfirst, hpts⟩ := hm.root parent hparent
        rw [FilePoints.lookup_singleton hpts hnonneg, Except.ok.injEq] at hinherited
        rw [inEffect?_topLevel hs hold hat, ← show map'.first = map.first from hd.first, hfirst,
          ← hinherited]
        rfl
      | some loc =>
        have hkey := SourceFile.parentKey_included hat
        rw [hkey] at hparent
        rw [SourceFile.parentOffset_included hat] at hinherited hnonneg
        obtain ⟨-, includer, hi⟩ := hw.parent_lookup hs hkey
        rw [inEffect?_included hw hs hold hat, ← ih loc.file hkey _ hnonneg,
          inEffect?_entered hi hparent, hinherited]

/-- A look-up in a known file finds the policy in effect. -/
theorem exists_find (hw : FileTable.WellPlaced table.newestFirst)
    (hm : Formed table.newestFirst map) (hf : map.first = some first)
    (hs : FileTable.lookup table.newestFirst loc.file = some source) (hx : 0 ≤ loc.offset) :
    ∃ map' ref, (lookup .files table loc).perform map = (.ok (some ref), map') ∧
      Formed table.newestFirst map' ∧ Discovers table.newestFirst loc.file map map' ∧
        map.inEffect? table.newestFirst loc.file loc.offset = some ref := by
  by_cases hnil : map.files = []
  · refine ⟨map, first, ?_, hm, Discovers.refl _ _ _, ?_⟩
    · rw [perform_lookup_of_nil hnil, hf]
    · rw [inEffect?_of_nil hw hnil hs, hf]
  · obtain ⟨map', points, ref, hperf, hm', hd, hpts, hl⟩ := exists_lookup hw hm hf hnil hs hx
    refine ⟨map', ref, hperf, hm', hd, ?_⟩
    rw [← inEffect?_of_discovers hw hm' hd hs hx, inEffect?_entered hs hpts, hl]
    rfl

/-! ## Appends -/

/-- An append is not seen in the other files that were entered. -/
theorem Places.inEffect?_of_ne {file : Int} {offset : Int}
    (hp : Places (some file) ref offset map map') (hs : FileTable.lookup sources id = some source)
    (hf : map.file? (some id) = some points) (hne : id ≠ file) :
    map'.inEffect? sources id x = map.inEffect? sources id x := by
  have hf' : map'.file? (some id) = some points := by
    rw [hp.file?, if_neg (by simpa using hne), hf]
  rw [inEffect?_entered hs hf, inEffect?_entered hs hf']

/-- In its own file an append is in effect from its offset on. -/
theorem Places.inEffect?_self {last : PolicyPoint} {offset : Int}
    (hp : Places (some id) ref offset map map') (hs : FileTable.lookup sources id = some source)
    (hf : map.file? (some id) = some points) (hrise : points.Rising)
    (hlast : points.points.getLast? = some last) (hle : last.offset ≤ offset) :
    map'.inEffect? sources id x =
      if offset ≤ x then some ref else map.inEffect? sources id x := by
  have hf' : map'.file? (some id) = some (points.place ref offset) := by
    rw [hp.file?, if_pos rfl, hf, Option.map_some]
  rw [inEffect?_entered hs hf', inEffect?_entered hs hf, hrise.lookup_place hlast ref hle]
  split <;> rfl

end Diagnostics.PolicyMap
