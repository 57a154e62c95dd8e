import Diagnostics.Proofs.Engine.Histories
import Diagnostics.Proofs.Engine.Orderly

/-!
# Getting a policy to change

A change at a location first looks at it, which may enter files, and then gets a policy that it may
change: the one in effect there, if it was recorded right there and nothing else holds it, or a copy that
is appended there. Either way that policy is in effect from the location on and nowhere else, neither in
front of the location nor in other files nor in a scope. `Owned` is the list of all this.
-/

set_option autoImplicit false

namespace Diagnostics

open Diagnostics.Action

namespace PolicyMap

/-- The offsets of the points of a file. One that was not entered will have what it inherits. -/
def offsets (map : PolicyMap) (file : Int) : List Int :=
  ((map.file? (some file)).map fun points => points.points.map PolicyPoint.offset).getD [0]

/-- An entry that has only the point that it inherited. -/
def Inherited (sources : List SourceFile) (map : PolicyMap) (key : FileKey) (points : FilePoints) :
    Prop :=
  ∃ ref, points.points = [⟨ref, 0⟩] ∧
    match key with
    | none => map.first = some ref
    | some id => ∃ source parent, FileTable.lookup sources id = some source ∧
        map.file? source.parentKey = some parent ∧ parent.lookup source.parentOffset = .ok ref

variable {sources : List SourceFile} {map map' : PolicyMap} {file : Int} {key : FileKey}
  {points : FilePoints} {ref : PolicyRef}

/-- The entries that discovery adds have what they inherit, and they are no newer than the file that is
entered. -/
theorem Discovers.inherited (hd : Discovers sources file map map') (hm : Formed sources map')
    (hnone : map.file? key = none) (hp : map'.file? key = some points) :
    Inherited sources map' key points ∧ ∀ id, key = some id → id ≤ file := by
  cases key with
  | none =>
    obtain ⟨ref, hfirst, hpts⟩ := hm.root points hp
    exact ⟨⟨ref, hpts, hfirst⟩, by rintro _ ⟨⟩⟩
  | some id =>
    obtain ⟨hle, source, parent, ref, hs, hparent, hl, hpts⟩ := hd.fresh id points hnone hp
    refine ⟨⟨ref, hpts, source, parent, hs, hparent, hl⟩, ?_⟩
    rintro _ ⟨⟩
    exact hle

/-- What an entry inherited stays what it inherits as long as the older entries stay. -/
theorem Inherited.mono (h : Inherited sources map key points)
    (hw : FileTable.WellPlaced sources) (hid : ∀ id, key = some id → id ≤ file)
    (hfirst : map'.first = map.first)
    (hkept : ∀ key points, key ≠ some file → map.file? key = some points →
      map'.file? key = some points) : Inherited sources map' key points := by
  obtain ⟨ref, hpts, hrest⟩ := h
  refine ⟨ref, hpts, ?_⟩
  cases key with
  | none => exact hfirst.trans hrest
  | some id =>
    obtain ⟨source, parent, hs, hparent, hl⟩ := hrest
    exact ⟨source, parent, hs, hkept _ _ (parentKey_ne hw hs (hid id rfl)) hparent, hl⟩

/-- After two steps, a file that neither was there before inherits what it has: it was entered by the first
step and kept by the second, or entered by the second. -/
theorem inherited_of_steps (hw : FileTable.WellPlaced sources) (hfirst : map'.first = map.first)
    (hkept : ∀ key points, key ≠ some file → map.file? key = some points →
      map'.file? key = some points) (hne : key ≠ some file)
    (hentered : ∀ points, map.file? key = some points →
      Inherited sources map key points ∧ ∀ id, key = some id → id ≤ file)
    (hfresh : map.file? key = none →
      Inherited sources map' key points ∧ ∀ id, key = some id → id ≤ file)
    (hnew : map'.file? key = some points) :
    Inherited sources map' key points ∧ ∀ id, key = some id → id ≤ file := by
  cases h : map.file? key with
  | none => exact hfresh h
  | some entered =>
    obtain ⟨hin, hid⟩ := hentered entered h
    obtain rfl : points = entered := Option.some.inj (hnew.symm.trans (hkept key entered hne h))
    exact ⟨hin.mono hw hid hfirst hkept, hid⟩

/-- The offsets of a file that was entered are those of its points. -/
theorem offsets_of_file (hp : map.file? (some file) = some points) :
    map.offsets file = points.points.map PolicyPoint.offset := by
  unfold offsets
  rw [hp]
  rfl

/-- Discovery leaves the offsets of all files as they are or will be. -/
theorem Discovers.offsets {target id : Int} (hd : Discovers sources target map map') :
    map'.offsets id = map.offsets id := by
  cases hold : map.file? (some id) with
  | some points => rw [offsets_of_file hold, offsets_of_file (hd.kept _ points hold)]
  | none =>
    cases hnew : map'.file? (some id) with
    | none =>
      unfold PolicyMap.offsets
      rw [hold, hnew]
    | some points =>
      obtain ⟨-, _, _, ref, -, -, -, hpts⟩ := hd.fresh id points hold hnew
      rw [offsets_of_file hnew, hpts]
      unfold PolicyMap.offsets
      rw [hold]
      rfl

/-- A policy that is put at the end of a file adds at most one offset. -/
theorem Places.offsets {offset : Int} (hp : Places (some file) ref offset map map')
    (hf : map.file? (some file) = some points) :
    map'.offsets file = map.offsets file ∨
      map'.offsets file = map.offsets file ++ [offset] ∧
        (map.offsets file).getLast? ≠ some offset := by
  have hf' : map'.file? (some file) = some (points.place ref offset) := by
    rw [hp.file?, if_pos rfl, hf, Option.map_some]
  rw [offsets_of_file hf, offsets_of_file hf']
  cases hlast : points.points.getLast? with
  | none =>
    have hnil : points.points = [] := List.getLast?_eq_none_iff.mp hlast
    right
    unfold FilePoints.place
    rw [hlast, hnil]
    simp
  | some last =>
    by_cases heq : last.offset = offset
    · left
      subst heq
      rw [FilePoints.place_same hlast]
      conv_rhs => rw [FilePoints.points_eq_concat hlast]
      simp
    · right
      rw [FilePoints.place_later hlast ref heq]
      refine ⟨by simp, ?_⟩
      rw [List.getLast?_map, hlast]
      simpa using heq

/-! ## Policies that a single point holds -/

/-- A policy that the last point of a file alone holds is not in effect in front of that point. -/
theorem Alone.ne_of_lt {scopes : List PolicyRef} {last : PolicyPoint} {source : SourceFile} {x : Int}
    (h : Alone file last.policy scopes map) (hs : FileTable.lookup sources file = some source)
    (hfile : map.file? (some file) = some points) (hrise : points.Rising)
    (hlast : points.points.getLast? = some last) (hlt : x < last.offset)
    (hr : map.inEffect? sources file x = some ref) : ref ≠ last.policy := by
  have hl := lookup_of_inEffect? hs hfile hr
  rw [FilePoints.lookup_concat (FilePoints.points_eq_concat hlast) (hrise.lt_last hlast),
    if_neg (by omega)] at hl
  obtain ⟨p, hp, rfl⟩ := FilePoints.exists_mem_of_lookup hl
  exact h.earlier points hfile p hp

/-- A policy that the last point of a file alone holds is not in effect in other files. -/
theorem Alone.ne_of_other {scopes : List PolicyRef} {source : SourceFile} {held : PolicyRef}
    {id x : Int} (h : Alone file held scopes map) (hne : id ≠ file)
    (hs : FileTable.lookup sources id = some source)
    (hplace : (∃ points, map.file? (some id) = some points) ∨ source.includedAt = none)
    (hr : map.inEffect? sources id x = some ref) : ref ≠ held := by
  cases hp : map.file? (some id) with
  | some points =>
    obtain ⟨p, hmem, rfl⟩ := FilePoints.exists_mem_of_lookup (lookup_of_inEffect? hs hp hr)
    exact h.others _ points (by simpa using hne) hp p hmem
  | none =>
    have htop : source.includedAt = none := hplace.resolve_left (by simp [hp])
    rw [inEffect?_topLevel hs hp htop] at hr
    rintro rfl
    exact h.first hr

/-! ## Appends -/

/-- An append to a file: its policy is in effect there from the offset on, and nothing else is different,
but files may be entered on the way. -/
structure Appended (sources : List SourceFile) (file offset : Int) (ref : PolicyRef)
    (map map' : PolicyMap) : Prop where
  nonneg : 0 ≤ offset
  policy : ∀ r, map'.policyOf r = map.policyOf r
  first : map'.first = map.first
  current : map'.current = some ref
  inEffect? : ∀ x, 0 ≤ x → map'.inEffect? sources file x =
    if offset ≤ x then some ref else map.inEffect? sources file x
  others : ∀ id source, id ≠ file → FileTable.lookup sources id = some source →
    ((∃ points, map.file? (some id) = some points) ∨ source.includedAt = none) →
      ∀ x, 0 ≤ x → map'.inEffect? sources id x = map.inEffect? sources id x
  kept : ∀ key points, key ≠ some file → map.file? key = some points →
    map'.file? key = some points
  fresh : ∀ key points, key ≠ some file → map.file? key = none → map'.file? key = some points →
    Inherited sources map' key points ∧ ∀ id, key = some id → id ≤ file
  offsets : map'.offsets file = map.offsets file ∨
    map'.offsets file = map.offsets file ++ [offset] ∧
      (map.offsets file).getLast? ≠ some offset

/-- An append that succeeds takes effect from its offset on. -/
theorem appended_of_ok {table : FileTable} {offset : Int} {first : PolicyRef}
    (hw : FileTable.WellPlaced table.newestFirst) (hm : Formed table.newestFirst map)
    (hf : map.first = some first)
    (happend : (append .files table ⟨file, offset⟩ ref).perform map = (.ok (), map')) :
    Appended table.newestFirst file offset ref map map' := by
  obtain ⟨m, points, last, source, hs, hm', hd, hpts, hlast, hle, hp⟩ := append_ok hw hm hf happend
  dsimp only at hs hd hpts hle hp
  have hrise := (hm'.entered file source points hs hpts).1
  -- Up to the append, files are entered at most.
  have hsame : ∀ {id x source}, FileTable.lookup table.newestFirst id = some source → 0 ≤ x →
      m.inEffect? table.newestFirst id x = map.inEffect? table.newestFirst id x := by
    intro id x source hs hx
    rw [inEffect?_of_discovers hw hm' hd hs hx]
    exact inEffect?_congr (fun _ => rfl) rfl
  refine
    { nonneg := ?_
      policy := fun r => (hp.policy r).trans (hd.policy r)
      first := hp.first.trans hd.first
      current := hp.current.trans hd.current
      inEffect? := fun x hx => ?_
      others := fun id src hne hsrc hplace x hx => ?_
      kept := fun key pts hne hold => ?_
      fresh := fun key pts hne hnone hnew => ?_
      offsets := ?_ }
  · obtain ⟨p, hhead, hzero⟩ := hrise.starts
    have := hrise.le_last hlast p (List.mem_of_mem_head? hhead)
    omega
  · rw [hp.inEffect?_self hs hpts hrise hlast hle, hsame hs hx]
  · rw [← hsame hsrc hx]
    cases hid : m.file? (some id) with
    | some pts => exact hp.inEffect?_of_ne hsrc hid hne
    | none =>
      have hnone : map'.file? (some id) = none := by
        rw [hp.file?, if_neg (by simpa using hne), hid]
      rcases hplace with ⟨pts, hpts'⟩ | htop
      · have := hd.kept _ pts hpts'
        rw [hid] at this
        cases this
      · rw [inEffect?_topLevel hsrc hnone htop, inEffect?_topLevel hsrc hid htop]
        exact hp.first
  · rw [hp.file?, if_neg hne]
    exact hd.kept key pts hold
  · rw [hp.file?, if_neg hne] at hnew
    obtain ⟨hinherited, hid⟩ := hd.inherited hm' hnone hnew
    refine ⟨hinherited.mono hw hid hp.first fun key pts hne hk => ?_, hid⟩
    rw [hp.file?, if_neg hne]
    exact hk
  · have hoffsets : m.offsets file = map.offsets file := hd.offsets
    rw [← hoffsets]
    exact hp.offsets hpts

end PolicyMap

namespace Engine

/-- The policy in effect at an offset of a file. -/
def inEffect? (e : Engine) (file offset : Int) : Option PolicyRef :=
  e.policies.inEffect? e.files.newestFirst file offset

/-- What the policy in effect at an offset of a file says. -/
def valueAt? (e : Engine) (file offset : Int) : Option Policy :=
  (e.inEffect? file offset).map e.policies.policyOf

variable {e e' : Engine} {file offset x : Int} {ref : PolicyRef} {source : SourceFile}

/-! ## Looking -/

/-- What is known about the files and about reading locations stays known. -/
theorem Unmoved.site (h : Unmoved e e') (hw : FileTable.WellPlaced e.files.newestFirst)
    (hservice : e.locations = some .files)
    (hs : FileTable.lookup e.files.newestFirst file = some source) :
    FileTable.WellPlaced e'.files.newestFirst ∧ e'.locations = some .files ∧
      FileTable.lookup e'.files.newestFirst file = some source := by
  rw [h.files, h.locations]
  exact ⟨hw, hservice, hs⟩

/-- The effect of looking at a location of a file: files may be entered. -/
structure Entering (file : Int) (e e' : Engine) : Prop where
  unmoved : Unmoved e e'
  scopes : e'.scopes = e.scopes
  orderly : e'.Orderly
  discovers : PolicyMap.Discovers e.files.newestFirst file e.policies e'.policies

/-- Entering files changes nothing that is in effect. -/
theorem Entering.inEffect? {target : Int} (h : Entering target e e')
    (hw : FileTable.WellPlaced e.files.newestFirst)
    (hs : FileTable.lookup e.files.newestFirst file = some source) (hx : 0 ≤ x) :
    e'.inEffect? file x = e.inEffect? file x := by
  obtain ⟨base, horderly⟩ := h.orderly
  rw [h.unmoved.files] at horderly
  unfold Engine.inEffect?
  rw [h.unmoved.files]
  exact PolicyMap.inEffect?_of_discovers hw horderly.formed h.discovers hs hx

/-- Looking at a location finds the policy in effect there. -/
theorem Orderly.exists_look (h : e.Orderly) (hw : FileTable.WellPlaced e.files.newestFirst)
    (hservice : e.locations = some .files)
    (hs : FileTable.lookup e.files.newestFirst file = some source) (hx : 0 ≤ x) :
    ∃ ref e', (policyAt (some ⟨file, x⟩)).perform e = (.ok ref, e') ∧ Entering file e e' ∧
      e.inEffect? file x = some ref := by
  obtain ⟨base, horderly⟩ := h
  obtain ⟨first, hf⟩ := horderly.initial
  have hfind : ∃ map ref, (PolicyMap.lookup .files e.files ⟨file, x⟩).perform e.policies =
      (.ok (some ref), map) ∧ PolicyMap.Formed e.files.newestFirst map ∧
        PolicyMap.Discovers e.files.newestFirst file e.policies map ∧
          e.inEffect? file x = some ref := PolicyMap.exists_find hw horderly.formed hf hs hx
  obtain ⟨map, ref, hperf, hm, hd, hfound⟩ := hfind
  obtain ⟨result, hlook, hsome⟩ := perform_policyAt_some hservice hperf
  obtain rfl := hsome ref rfl
  exact ⟨ref, _, hlook, ⟨⟨rfl, rfl, rfl, rfl⟩, rfl, ⟨base, (horderly.lookup_ok hw hperf).1⟩, hd⟩,
    hfound⟩

/-- Looking a policy up finds the one in effect, and enters files at most. -/
theorem Orderly.look (h : e.Orderly) (hw : FileTable.WellPlaced e.files.newestFirst)
    (hservice : e.locations = some .files)
    (hs : FileTable.lookup e.files.newestFirst file = some source) (hx : 0 ≤ x)
    (hperf : (policyAt (some ⟨file, x⟩)).perform e = (.ok ref, e')) :
    Entering file e e' ∧ e.inEffect? file x = some ref := by
  obtain ⟨ref', e₁, hlook, hentering, hfound⟩ := h.exists_look hw hservice hs hx
  rw [hlook, Prod.mk.injEq, Except.ok.injEq] at hperf
  obtain ⟨rfl, rfl⟩ := hperf
  exact ⟨hentering, hfound⟩

/-! ## Owning -/

/-- A policy that a change at a location got: it is in effect from there on and nowhere else. -/
structure Owned (file offset : Int) (ref : PolicyRef) (e e' : Engine) : Prop where
  unmoved : Unmoved e e'
  orderly : e'.Orderly
  scopes : e'.scopes = e.scopes
  first : e'.policies.first = e.policies.first
  current : e'.policies.current = some ref
  value : e.valueAt? file offset = some (e'.policies.policyOf ref)
  inEffect? : ∀ x, 0 ≤ x →
    e'.inEffect? file x = if offset ≤ x then some ref else e.inEffect? file x
  others : ∀ id source, id ≠ file → FileTable.lookup e.files.newestFirst id = some source →
    ((∃ points, e.policies.file? (some id) = some points) ∨ source.includedAt = none) →
      ∀ x, 0 ≤ x → e'.inEffect? id x = e.inEffect? id x
  apart : ∀ r, (∃ x, 0 ≤ x ∧ x < offset ∧ e.inEffect? file x = some r) ∨
    (∃ id source x, id ≠ file ∧ FileTable.lookup e.files.newestFirst id = some source ∧ 0 ≤ x ∧
      ((∃ points, e.policies.file? (some id) = some points) ∨ source.includedAt = none) ∧
        e.inEffect? id x = some r) ∨ r ∈ e.scopes →
          r ≠ ref ∧ e'.policies.policyOf r = e.policies.policyOf r
  kept : ∀ key points, key ≠ some file → e.policies.file? key = some points →
    e'.policies.file? key = some points
  fresh : ∀ key points, key ≠ some file → e.policies.file? key = none →
    e'.policies.file? key = some points →
      PolicyMap.Inherited e.files.newestFirst e'.policies key points ∧
        ∀ id, key = some id → id ≤ file
  offsets : e'.policies.offsets file = e.policies.offsets file ∨
    e'.policies.offsets file = e.policies.offsets file ++ [offset] ∧
      (e.policies.offsets file).getLast? ≠ some offset

/-- A policy that was recorded at the location and that nothing else holds. -/
theorem Entering.owned_in_place {e₁ : Engine} (he : Entering file e e₁)
    (hw : FileTable.WellPlaced e.files.newestFirst)
    (hs : FileTable.lookup e.files.newestFirst file = some source) (hx : 0 ≤ offset)
    (hfound : e.inEffect? file offset = some ref)
    (hloc : e₁.policies.location = some ⟨file, offset⟩) (hcur : e₁.policies.current = some ref)
    (hshared : ¬(e₁.policies.store.get ref).isShared = true) : Owned file offset ref e e₁ := by
  obtain ⟨base, h₁⟩ := he.orderly
  rw [he.unmoved.files] at h₁
  obtain ⟨points, last, hfile, hlast, hoff⟩ := h₁.marked _ hloc
  dsimp only at hfile hoff
  subst hoff
  have hrise := (h₁.formed.entered file source points hs hfile).1
  have hsame : ∀ {id x source}, FileTable.lookup e.files.newestFirst id = some source → 0 ≤ x →
      e₁.policies.inEffect? e.files.newestFirst id x = e.inEffect? id x := fun hs hx =>
    PolicyMap.inEffect?_of_discovers hw h₁.formed he.discovers hs hx
  -- The policy that was found is that of the last point.
  have hend : ∀ x, last.offset ≤ x → e.inEffect? file x = some last.policy := by
    intro x hle
    rw [← hsame hs (Int.le_trans hx hle), PolicyMap.inEffect?_entered hs hfile,
      hrise.lookup_last hlast hle]
    rfl
  obtain rfl : last.policy = ref := by
    rw [hend _ (Int.le_refl _), Option.some.injEq] at hfound
    exact hfound
  have halone := h₁.alone hfile hlast hshared
  refine
    { unmoved := he.unmoved
      orderly := he.orderly
      scopes := he.scopes
      first := he.discovers.first
      current := hcur
      value := ?_
      inEffect? := fun x hx => ?_
      others := fun id src _ hsrc _ x hx => he.inEffect? hw hsrc hx
      apart := fun r hr => ⟨?_, he.discovers.policy r⟩
      kept := fun key pts _ hp => he.discovers.kept key pts hp
      fresh := fun key pts _ hnone hp => he.discovers.inherited h₁.formed hnone hp
      offsets := .inl he.discovers.offsets }
  · unfold valueAt?
    rw [hfound, Option.map_some]
    exact congrArg some (he.discovers.policy _).symm
  · rw [he.inEffect? hw hs hx]
    split
    · rename_i hle
      exact hend x hle
    · rfl
  · rcases hr with ⟨x, hx, hlt, hr⟩ | ⟨id, src, x, hne, hsrc, hx, hplace, hr⟩ | hr
    · rw [← hsame hs hx] at hr
      exact halone.ne_of_lt hs hfile hrise hlast hlt hr
    · rw [← hsame hsrc hx] at hr
      have hplace₁ : (∃ pts, e₁.policies.file? (some id) = some pts) ∨ src.includedAt = none :=
        hplace.imp_left fun ⟨pts, hp⟩ => ⟨pts, he.discovers.kept _ pts hp⟩
      exact halone.ne_of_other hne hsrc hplace₁ hr
    · rintro rfl
      rw [← he.scopes] at hr
      exact halone.scopes hr

/-- Policies that are in effect are in the store. -/
theorem Orderly.lt_of_inEffect? (h : e.Orderly) (hr : e.inEffect? file x = some ref) :
    ref < e.policies.store.size := by
  obtain ⟨base, h⟩ := h
  have hheld := PolicyMap.inEffect?_held hr
  exact (h.counts.held ref (by omega)).2

/-- Policies that scopes will restore are in the store. -/
theorem Orderly.lt_of_scope (h : e.Orderly) (hr : ref ∈ e.scopes) : ref < e.policies.store.size := by
  obtain ⟨base, h⟩ := h
  exact (h.counts.scope_bounds hr).2

section Copying

variable {e₁ : Engine} {found : PolicyRef} {map : PolicyMap} {key : FileKey} {points : FilePoints}
  (he : Entering file e e₁)

include he

/-- A copy is in no file before it is appended. -/
theorem Entering.inEffect?_copied {id : Int} (hw : FileTable.WellPlaced e.files.newestFirst)
    (hs : FileTable.lookup e.files.newestFirst id = some source) (hx : 0 ≤ x) :
    (e₁.policies.copied found).inEffect? e.files.newestFirst id x = e.inEffect? id x := by
  rw [← he.inEffect? hw hs hx]
  unfold Engine.inEffect?
  rw [he.unmoved.files]
  exact PolicyMap.inEffect?_congr (fun _ => rfl) rfl

variable (ha : PolicyMap.Appended e.files.newestFirst file offset e₁.policies.store.size
  (e₁.policies.copied found) map)

include ha

/-- The copy is a policy of its own, and the others stay as they are. -/
theorem Entering.policyOf_appended (hlt : ref < e.policies.store.size) :
    ref ≠ e₁.policies.store.size ∧ map.policyOf ref = e.policies.policyOf ref := by
  have hsize : e₁.policies.store.size = e.policies.store.size := he.discovers.size
  rw [← hsize] at hlt
  refine ⟨Nat.ne_of_lt hlt, ?_⟩
  calc map.policyOf ref = (e₁.policies.copied found).policyOf ref := ha.policy ref
    _ = e₁.policies.policyOf ref := PolicyMap.policyOf_add e₁.policies _ hlt
    _ = e.policies.policyOf ref := he.discovers.policy ref

/-- Files that are new, other than the one of the location, inherit what they have. -/
theorem Entering.inherited_appended (hw : FileTable.WellPlaced e.files.newestFirst)
    (hformed : PolicyMap.Formed e.files.newestFirst e₁.policies) (hne : key ≠ some file)
    (hnone : e.policies.file? key = none) (hnew : map.file? key = some points) :
    PolicyMap.Inherited e.files.newestFirst map key points ∧ ∀ id, key = some id → id ≤ file := by
  -- The file was entered on the way to the location, or else by the append.
  exact PolicyMap.inherited_of_steps hw ha.first ha.kept hne
    (fun _ => he.discovers.inherited hformed hnone) (fun h => ha.fresh key points hne h hnew) hnew

end Copying

/-- A copy that is appended at the location. -/
theorem Entering.owned_copy {e₁ : Engine} {found : PolicyRef} {map : PolicyMap} {outlet : Outlet}
    (he : Entering file e e₁) (hw : FileTable.WellPlaced e.files.newestFirst)
    (hs : FileTable.lookup e.files.newestFirst file = some source)
    (hfound : e.inEffect? file offset = some found)
    (happend : (PolicyMap.append .files e.files ⟨file, offset⟩ e₁.policies.store.size).perform
      (e₁.policies.copied found) = (.ok (), map))
    (h : e.Orderly) :
    Owned file offset e₁.policies.store.size e { e₁ with policies := map, outlet } := by
  obtain ⟨base₁, h₁⟩ := he.orderly
  rw [he.unmoved.files] at h₁
  have horderly := (h₁.copied found).append hw (h₁.copy_bounds found) happend
  obtain ⟨first, hf⟩ := h₁.initial
  have ha := PolicyMap.appended_of_ok hw (h₁.copied found).formed hf happend
  refine
    { unmoved := he.unmoved.trans ⟨rfl, rfl, rfl, rfl⟩
      orderly := ⟨base₁, ?_⟩
      scopes := he.scopes
      first := ha.first.trans he.discovers.first
      current := ha.current
      value := ?_
      inEffect? := fun x hx => ?_
      others := fun id src hne hsrc hplace x hx => ?_
      apart := fun r hr => he.policyOf_appended ha ?_
      kept := fun key pts hne hp => ha.kept key pts hne (he.discovers.kept key pts hp)
      fresh := fun key pts hne hnone hnew => he.inherited_appended ha hw h₁.formed hne hnone hnew
      offsets := ?_ }
  · show PolicyMap.Orderly e₁.files.newestFirst base₁ e₁.scopes map
    rw [he.unmoved.files]
    exact horderly
  · unfold valueAt?
    rw [hfound, Option.map_some]
    have hnew : map.policyOf e₁.policies.store.size = e₁.policies.policyOf found :=
      (ha.policy _).trans (policyOf_copied_self e₁.policies found)
    rw [show ({ e₁ with policies := map, outlet } : Engine).policies = map from rfl, hnew]
    exact congrArg some (he.discovers.policy _).symm
  · show map.inEffect? e₁.files.newestFirst file x = _
    rw [he.unmoved.files, ha.inEffect? x hx, he.inEffect?_copied hw hs hx]
  · show map.inEffect? e₁.files.newestFirst id x = _
    have hplace₁ : (∃ points, (e₁.policies.copied found).file? (some id) = some points) ∨
        src.includedAt = none :=
      hplace.imp_left fun ⟨points, hp⟩ => ⟨points, he.discovers.kept _ points hp⟩
    rw [he.unmoved.files, ha.others id src hne hsrc hplace₁ x hx, he.inEffect?_copied hw hsrc hx]
  · rcases hr with ⟨x, -, -, hr⟩ | ⟨_, _, x, -, -, -, -, hr⟩ | hr
    · exact h.lt_of_inEffect? hr
    · exact h.lt_of_inEffect? hr
    · exact h.lt_of_scope hr
  · have hoffsets : (e₁.policies.copied found).offsets file = e.policies.offsets file :=
      he.discovers.offsets
    rw [← hoffsets]
    exact ha.offsets

/-- What a change at a location gets. -/
theorem Orderly.owned (h : e.Orderly) (hw : FileTable.WellPlaced e.files.newestFirst)
    (hservice : e.locations = some .files)
    (hs : FileTable.lookup e.files.newestFirst file = some source) (hx : 0 ≤ offset)
    (hperf : (ownAt ⟨file, offset⟩).perform e = (.ok ref, e')) : Owned file offset ref e e' := by
  obtain ⟨service, found, e₁, hservice', hlook, hcase⟩ := ownAt_ok hperf
  obtain rfl : service = .files := by
    rw [hservice, Option.some.injEq] at hservice'
    exact hservice'.symm
  obtain ⟨he, hfound⟩ := h.look hw hservice hs hx hlook
  rcases hcase with ⟨hloc, hcur, hshared, rfl, rfl⟩ | ⟨rfl, map, outlet, happend, rfl⟩
  · exact he.owned_in_place hw hs hx hfound hloc hcur hshared
  · rw [he.unmoved.files] at happend
    exact he.owned_copy hw hs hfound happend h

end Engine

end Diagnostics
