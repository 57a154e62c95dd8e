import Diagnostics.Catalog.Loading
import Diagnostics.Proofs.Catalog.Groups
import Diagnostics.Proofs.Ends
import Mathlib

/-!
# Members of the groups of a built catalog

A catalog is built step by step, in code or from a file: groups and subgroups are added, and entries. What
the steps say about groups is told here without a look at any catalog: which groups they mention, which
groups they make subgroups of which, and which groups they list for the entry of a number. A catalog that
was built by these steps, in whatever order, answers accordingly: the members of a group are the entries
that list it or a group below it, by any number of subgroup steps, circles or not.
-/

set_option autoImplicit false

namespace Diagnostics.Catalog

open Diagnostics.Action

/-! ## Steps -/

/-- The names in a list; a text stands for its characters. -/
def namesIn (value : Json) : List Scalar :=
  match itemsOf value with
  | .ok items => items.filterMap Scalar.ofJson?
  | .error _ => []

/-- A step by which a catalog is built: a group with subgroups is added, or an entry. -/
inductive BuildStep where
  | group (name subgroups : Json)
  | entry (name template : Json) (diagClass : DiagnosticClass) (severity : Option Severity)
      (groups : Json)

namespace BuildStep

/-- What a step does to a catalog. -/
def action : BuildStep → Action Catalog Unit
  | group name subgroups => loadGroup name subgroups
  | entry name template diagClass severity groups => do
    let _ ← loadEntry name template diagClass severity groups

/-- The groups that a step mentions: as a group, as a subgroup, or as the group of an entry. -/
def mentioned : BuildStep → List Scalar.Key
  | group name subgroups => ((Scalar.ofJson? name).toList ++ namesIn subgroups).map Scalar.key
  | entry _ _ _ _ groups => (namesIn groups).map Scalar.key

/-- The class and the groups of the entry that a step adds. -/
def entry? : BuildStep → Option (DiagnosticClass × List Scalar.Key)
  | group _ _ => none
  | entry _ _ diagClass _ groups => some (diagClass, (namesIn groups).map Scalar.key)

/-- A step makes one group a subgroup of another. -/
def Includes (step : BuildStep) (group sub : Scalar.Key) : Prop :=
  ∃ name subgroups scalar, step = .group name subgroups ∧ Scalar.ofJson? name = some scalar ∧
    group = scalar.key ∧ sub ∈ (namesIn subgroups).map Scalar.key

/-- A step with a group mentions it and its subgroups. -/
theorem mentioned_group {name : Json} {scalar : Scalar} (h : Scalar.ofJson? name = some scalar)
    (subgroups : Json) :
    (group name subgroups).mentioned = (scalar :: namesIn subgroups).map Scalar.key := by
  rw [mentioned, h]
  rfl

end BuildStep

/-- The step that a group of a catalog file describes. -/
def groupStep (group : String × Json) : BuildStep :=
  .group (.string group.1) group.2

/-- The step that a record of a catalog file describes. -/
def stepOf (item : Json) : Except Fault BuildStep := do
  let fields ← fieldsOf item
  let name ← requiredField "name" fields
  let template ← requiredField "template" fields
  let diagClass ← classOf fields
  let severity ← severityOf fields
  .ok (.entry name template diagClass severity ((Json.field? "groups" fields).getD (.array [])))

/-- The steps that a catalog file describes: its groups, and then its records. -/
def stepsOf (json : Json) : Except Fault (List BuildStep) := do
  let fields ← fieldsOf json
  let groups ← fieldsOf ((Json.field? "groups" fields).getD (.object []))
  let records ← itemsOf ((Json.field? "diagnostics" fields).getD (.array []))
  let entries ← records.mapM stepOf
  .ok (groups.map groupStep ++ entries)

/-- A catalog was built, and these are the steps that succeeded, in order. An entry that is refused, for
a name that is taken or for any other reason, is no such step, and a file counts for the steps that it
describes. -/
inductive Built : List BuildStep → Catalog → Prop where
  | initial : Built [] initial
  | step {steps : List BuildStep} {step : BuildStep} {catalog catalog' : Catalog}
      (built : Built steps catalog) (done : step.action.perform catalog = (.ok (), catalog')) :
      Built (steps ++ [step]) catalog'
  | refused {steps : List BuildStep} {name template groups : Json} {diagClass : DiagnosticClass}
      {severity : Option Severity} {fault : Fault} {catalog catalog' : Catalog}
      (built : Built steps catalog)
      (refused : (BuildStep.entry name template diagClass severity groups).action.perform catalog =
        (.error fault, catalog')) :
      Built steps catalog'
  | file {json : Json} {steps : List BuildStep} {catalog : Catalog}
      (loaded : ofJson json = .ok catalog) (described : stepsOf json = .ok steps) :
      Built steps catalog

section Steps

variable (steps : List BuildStep)

/-- Some step mentions a group. -/
def Mentioned (key : Scalar.Key) : Prop :=
  ∃ step ∈ steps, key ∈ step.mentioned

/-- Some step makes one group a subgroup of another. -/
def IsSubgroup (group sub : Scalar.Key) : Prop :=
  ∃ step ∈ steps, step.Includes group sub

/-- The entry of a number is of a flavor and lists a group. Numbers count on from the builtin entry, which
lists no group. -/
def Lists (flavor : Flavor) (id : Int) (key : Scalar.Key) : Prop :=
  ∃ (i : Nat) (diagClass : DiagnosticClass) (groups : List Scalar.Key),
    (steps.filterMap BuildStep.entry?)[i]? = some (diagClass, groups) ∧ id = i + 2 ∧
      (flavor = .remark ↔ diagClass = .remark) ∧ key ∈ groups

/-- The entry of a number is of a flavor and lists a group or one below it. -/
def ListsBelow (flavor : Flavor) (group : Scalar) (id : Int) : Prop :=
  ∃ key, Lists steps flavor id key ∧ Relation.ReflTransGen (IsSubgroup steps) group.key key

/-- What a catalog keeps of the steps that it was built by. -/
structure Reflects (catalog : Catalog) : Prop where
  hasGroup_iff : ∀ key, catalog.hasGroup key = true ↔ Mentioned steps key
  subgroup_iff : ∀ group key, key ∈ catalog.subgroupKeys group ↔ IsSubgroup steps group key
  named : ∀ group, catalog.isNamed group = true
  size : catalog.entries.length = (steps.filterMap BuildStep.entry?).length + 1
  lists_iff : ∀ flavor id key, (∃ entry ∈ catalog.entries, entry.hasFlavor flavor = true ∧
    entry.id = id ∧ key ∈ entry.groups.map Scalar.key) ↔ Lists steps flavor id key

end Steps

variable {steps : List BuildStep} {step : BuildStep} {catalog catalog' : Catalog}
  {name template subgroups groups : Json} {diagClass : DiagnosticClass} {severity : Option Severity}
  {flavor : Flavor}

/-! ## What a step does -/

/-- A value is accepted as a name exactly if it is a scalar. -/
theorem nameOf_eq_ok_iff {value : Json} {scalar : Scalar} :
    nameOf value = .ok scalar ↔ Scalar.ofJson? value = some scalar := by
  unfold nameOf
  cases Scalar.ofJson? value <;> simp

/-- The names in a list are those of its items that are scalars. -/
theorem namesIn_of_ok {items : List Json} (h : itemsOf groups = .ok items) :
    namesIn groups = items.filterMap Scalar.ofJson? := by
  unfold namesIn
  rw [h]

/-- Items that all have names are added as subgroups one by one. -/
theorem perform_addItems {name : Scalar} {items : List Json}
    (h : (items.forM fun item => (do
      modify fun catalog => catalog.extendGroup name item
      let sub ← ofExcept (nameOf item)
      modify fun catalog => catalog.mention sub : Action Catalog PUnit)).perform catalog =
        (.ok (), catalog')) :
    catalog' = (items.filterMap Scalar.ofJson?).foldl (addSubgroup name) catalog := by
  induction items generalizing catalog with
  | nil =>
    cases h
    rfl
  | cons item items ih =>
    obtain ⟨_, middle, hitem, hrest⟩ := perform_bind_eq_ok.mp h
    rw [perform_modify_bind] at hitem
    obtain ⟨sub, hname, hmention⟩ := perform_ofExcept_bind_eq_ok.mp hitem
    have hscalar := nameOf_eq_ok_iff.mp hname
    cases hmention
    rw [ih hrest, List.filterMap_cons, hscalar, List.foldl_cons]
    unfold addSubgroup
    rw [Scalar.toJson_of_ofJson? hscalar]

/-- A group that is loaded has a scalar as its name, and is added with the names of its subgroups. -/
theorem perform_loadGroup_eq_ok
    (h : (loadGroup name subgroups).perform catalog = (.ok (), catalog')) :
    ∃ scalar, Scalar.ofJson? name = some scalar ∧
      catalog' = catalog.addGroup scalar (namesIn subgroups) := by
  unfold loadGroup at h
  obtain ⟨scalar, hname, h⟩ := perform_ofExcept_bind_eq_ok.mp h
  rw [perform_modify_bind] at h
  obtain ⟨items, hitems, h⟩ := perform_ofExcept_bind_eq_ok.mp h
  refine ⟨scalar, nameOf_eq_ok_iff.mp hname, ?_⟩
  rw [perform_addItems h, namesIn_of_ok hitems]
  rfl

/-- If all items are accepted as names, these are the scalars among them. -/
theorem mapM_nameOf_eq_ok {items : List Json} {names : List Scalar}
    (h : items.mapM nameOf = .ok names) : names = items.filterMap Scalar.ofJson? := by
  induction items generalizing names with
  | nil =>
    cases h
    rfl
  | cons item items ih =>
    rw [List.mapM_cons] at h
    cases hname : nameOf item with
    | error fault =>
      rw [hname] at h
      cases h
    | ok scalar =>
      cases hnames : items.mapM nameOf with
      | error fault =>
        rw [hname, hnames] at h
        cases h
      | ok others =>
        rw [hname, hnames] at h
        cases h
        rw [List.filterMap_cons, nameOf_eq_ok_iff.mp hname, ih hnames]

/-- An entry that is loaded is added to the catalog. -/
theorem perform_loadEntry_eq_ok {id : Int}
    (h : (loadEntry name template diagClass severity groups).perform catalog = (.ok id, catalog')) :
    catalog.Adds diagClass (namesIn groups) id catalog' := by
  unfold loadEntry at h
  obtain ⟨scalar, -, h⟩ := perform_ofExcept_bind_eq_ok.mp h
  rw [perform_get_bind] at h
  obtain ⟨_, -, h⟩ := perform_ofExcept_bind_eq_ok.mp h
  obtain ⟨items, hitems, h⟩ := perform_ofExcept_bind_eq_ok.mp h
  obtain ⟨names, hnames, h⟩ := perform_ofExcept_bind_eq_ok.mp h
  rw [perform_get_bind] at h
  obtain ⟨⟨_, _⟩, hadd, h⟩ := perform_ofExcept_bind_eq_ok.mp h
  cases h
  rw [namesIn_of_ok hitems, ← mapM_nameOf_eq_ok hnames]
  exact adds_of_add hadd

/-- An entry that is refused leaves the catalog as it is. -/
theorem ends_loadEntry (name template : Json) (diagClass : DiagnosticClass)
    (severity : Option Severity) (groups : Json) (catalog : Catalog) :
    Ends (loadEntry name template diagClass severity groups) catalog (fun _ _ => True)
      fun _ catalog' => catalog' = catalog := by
  unfold loadEntry
  refine ends_bind (ends_ofExcept (fun scalar _ => ?_) fun _ _ => rfl)
  refine ends_get_bind (ends_bind (ends_ofExcept (fun _ _ => ?_) fun _ _ => rfl))
  refine ends_bind (ends_ofExcept (fun items _ => ?_) fun _ _ => rfl)
  refine ends_bind (ends_ofExcept (fun names _ => ?_) fun _ _ => rfl)
  refine ends_get_bind (ends_bind (ends_ofExcept ?_ fun _ _ => rfl))
  rintro ⟨_, _⟩ _
  trivial

/-- An entry that is refused leaves the catalog as it was. -/
theorem eq_of_refused {fault : Fault}
    (h : (BuildStep.entry name template diagClass severity groups).action.perform catalog =
      (.error fault, catalog')) : catalog' = catalog := by
  have hends : Ends (do let _ ← loadEntry name template diagClass severity groups : Action Catalog Unit)
      catalog (fun _ _ => True) fun _ catalog' => catalog' = catalog :=
    ends_bind ((ends_loadEntry ..).imp (fun _ _ _ => ends_pure trivial) fun _ _ h => h)
  exact hends.of_error h

/-! ## What steps leave -/

/-- Another step adds what it mentions. -/
theorem mentioned_concat {key : Scalar.Key} :
    Mentioned (steps ++ [step]) key ↔ Mentioned steps key ∨ key ∈ step.mentioned := by
  unfold Mentioned
  simp only [List.mem_append, List.mem_singleton, or_and_right, exists_or, exists_eq_left]

/-- Another step adds the subgroups that it makes. -/
theorem isSubgroup_concat {group sub : Scalar.Key} :
    IsSubgroup (steps ++ [step]) group sub ↔ IsSubgroup steps group sub ∨ step.Includes group sub := by
  unfold IsSubgroup
  simp only [List.mem_append, List.mem_singleton, or_and_right, exists_or, exists_eq_left]

/-- An entry is of the flavor of remarks exactly if it is one. -/
theorem hasFlavor_iff {entry : CatalogEntry} :
    entry.hasFlavor flavor = true ↔ (flavor = .remark ↔ entry.diagClass = .remark) := by
  unfold CatalogEntry.hasFlavor
  cases flavor <;> simp

/-- A step that adds an entry adds what that entry lists. -/
theorem lists_concat {listed : List Scalar.Key} {id : Int} {key : Scalar.Key}
    (hstep : step.entry? = some (diagClass, listed)) :
    Lists (steps ++ [step]) flavor id key ↔ Lists steps flavor id key ∨
      id = (steps.filterMap BuildStep.entry?).length + 2 ∧
        (flavor = .remark ↔ diagClass = .remark) ∧ key ∈ listed := by
  have hadded : (steps ++ [step]).filterMap BuildStep.entry? =
      steps.filterMap BuildStep.entry? ++ [(diagClass, listed)] := by
    rw [List.filterMap_append, List.filterMap_cons, hstep, List.filterMap_nil]
  unfold Lists
  rw [hadded]
  constructor
  · rintro ⟨i, listedClass, keys, hi, hid, hflavor, hkey⟩
    rw [List.getElem?_append] at hi
    split at hi
    · exact .inl ⟨i, listedClass, keys, hi, hid, hflavor, hkey⟩
    · rename_i hlt
      obtain ⟨hzero, hlast⟩ := List.getElem?_eq_some_iff.mp hi
      rw [List.getElem_singleton] at hlast
      cases hlast
      rw [List.length_singleton] at hzero
      exact .inr ⟨by omega, hflavor, hkey⟩
  · rintro (⟨i, listedClass, keys, hi, hid, hflavor, hkey⟩ | ⟨hid, hflavor, hkey⟩)
    · refine ⟨i, listedClass, keys, ?_, hid, hflavor, hkey⟩
      rwa [List.getElem?_append_left (List.getElem?_eq_some_iff.mp hi).1]
    · exact ⟨_, diagClass, listed, List.getElem?_concat_length, hid, hflavor, hkey⟩

/-- The initial catalog reflects no step at all. -/
theorem reflects_initial : Reflects [] initial where
  hasGroup_iff key := by simp [initial, hasGroup, Mentioned]
  subgroup_iff group key := by simp [initial, subgroupKeys, subgroupsOf, IsSubgroup]
  named group := rfl
  size := rfl
  lists_iff flavor id key := by simp [initial, builtin, Lists]

/-- A group that is loaded is reflected. -/
theorem Reflects.group (h : Reflects steps catalog)
    (hdone : (loadGroup name subgroups).perform catalog = (.ok (), catalog')) :
    Reflects (steps ++ [.group name subgroups]) catalog' := by
  obtain ⟨scalar, hname, rfl⟩ := perform_loadGroup_eq_ok hdone
  have hsame : (steps ++ [BuildStep.group name subgroups]).filterMap BuildStep.entry? =
      steps.filterMap BuildStep.entry? := by
    rw [List.filterMap_append]
    exact List.append_nil _
  constructor
  case hasGroup_iff =>
    intro key
    rw [hasGroup_addGroup, h.hasGroup_iff, mentioned_concat, BuildStep.mentioned_group hname]
  case subgroup_iff =>
    intro group key
    rw [mem_subgroupKeys_addGroup, h.subgroup_iff, isSubgroup_concat]
    refine or_congr_right ⟨fun hsub => ⟨name, subgroups, scalar, rfl, hname, hsub⟩, ?_⟩
    rintro ⟨_, _, other, ⟨⟩, hother, hsub⟩
    obtain rfl : scalar = other := Option.some.inj (hname.symm.trans hother)
    exact hsub
  case named => exact isNamed_addGroup h.named
  case size => rw [entries_addGroup, h.size, hsame]
  case lists_iff =>
    intro flavor id key
    rw [entries_addGroup, h.lists_iff]
    unfold Lists
    rw [hsame]

/-- An entry that is loaded is reflected. -/
theorem Reflects.entry (h : Reflects steps catalog) {id : Int}
    (hdone : (loadEntry name template diagClass severity groups).perform catalog =
      (.ok id, catalog')) :
    Reflects (steps ++ [.entry name template diagClass severity groups]) catalog' := by
  have hadds := perform_loadEntry_eq_ok hdone
  obtain ⟨added, hentries, hid, hclass, hgroups⟩ := hadds.entries
  have hkeys : ∀ group, catalog'.subgroupKeys group = catalog.subgroupKeys group := by
    intro group
    unfold subgroupKeys
    rw [hadds.subgroupsOf_eq]
  constructor
  case hasGroup_iff =>
    intro key
    rw [hadds.hasGroup_iff, h.hasGroup_iff, mentioned_concat]
    rfl
  case subgroup_iff =>
    intro group key
    rw [hkeys, h.subgroup_iff, isSubgroup_concat]
    refine ⟨.inl, ?_⟩
    rintro (hsub | ⟨_, _, _, ⟨⟩, _⟩)
    exact hsub
  case named =>
    intro group
    unfold isNamed
    rw [hadds.subgroupsOf_eq]
    exact h.named group
  case size =>
    rw [hentries, List.filterMap_append, List.length_append, List.length_append, h.size]
    rfl
  case lists_iff =>
    intro flavor id' key
    rw [lists_concat rfl, ← h.lists_iff, hentries]
    simp only [List.mem_append, List.mem_singleton, or_and_right, exists_or, exists_eq_left]
    -- The new entry has the next number, so the entries before it keep theirs.
    refine or_congr_right ?_
    rw [hasFlavor_iff, hclass, hgroups, hid, hadds.id_eq, h.size]
    constructor
    · rintro ⟨hflavor, rfl, hkey⟩
      exact ⟨by push_cast; omega, hflavor, hkey⟩
    · rintro ⟨rfl, hflavor, hkey⟩
      exact ⟨hflavor, by push_cast; omega, hkey⟩

/-- Any step that succeeds is reflected. -/
theorem Reflects.perform (h : Reflects steps catalog)
    (hdone : step.action.perform catalog = (.ok (), catalog')) :
    Reflects (steps ++ [step]) catalog' := by
  cases step with
  | group name subgroups => exact h.group hdone
  | entry name template diagClass severity groups =>
    obtain ⟨id, _, hentry, hdone⟩ := perform_bind_eq_ok.mp hdone
    cases hdone
    exact h.entry hentry

/-! ## Files -/

/-- Steps succeed one after the other. -/
inductive Performs : List BuildStep → Catalog → Catalog → Prop where
  | nil (catalog : Catalog) : Performs [] catalog catalog
  | cons {step : BuildStep} {steps : List BuildStep} {catalog middle catalog' : Catalog}
      (first : step.action.perform catalog = (.ok (), middle)) (others : Performs steps middle catalog') :
      Performs (step :: steps) catalog catalog'

/-- Steps that succeed one after the other, and then some more. -/
theorem Performs.append {front back : List BuildStep} {middle : Catalog}
    (hfront : Performs front catalog middle) (hback : Performs back middle catalog') :
    Performs (front ++ back) catalog catalog' := by
  induction hfront with
  | nil => exact hback
  | cons first _ ih => exact .cons first (ih hback)

/-- Steps that succeed are reflected, one after the other. -/
theorem Reflects.performs {others : List BuildStep} (h : Reflects steps catalog)
    (hothers : Performs others catalog catalog') : Reflects (steps ++ others) catalog' := by
  induction hothers generalizing steps with
  | nil => rwa [List.append_nil]
  | cons first _ ih =>
    rw [List.append_cons]
    exact ih (h.perform first)

/-- The groups of a file are loaded by the steps that they describe. -/
theorem performs_groups {fields : List (String × Json)}
    (h : (fields.forM fun (name, subgroups) => loadGroup (.string name) subgroups).perform catalog =
      (.ok (), catalog')) :
    Performs (fields.map groupStep) catalog catalog' := by
  induction fields generalizing catalog with
  | nil =>
    cases h
    exact .nil _
  | cons field fields ih =>
    obtain ⟨_, _, hfirst, hrest⟩ := perform_bind_eq_ok.mp h
    exact .cons hfirst (ih hrest)

/-- A record that is loaded describes a step, and the step does the same. -/
theorem stepOf_of_loadDiagnostic {item : Json}
    (h : (loadDiagnostic item).perform catalog = (.ok (), catalog')) :
    ∃ step, stepOf item = .ok step ∧ step.action.perform catalog = (.ok (), catalog') := by
  unfold loadDiagnostic at h
  obtain ⟨fields, hfields, h⟩ := perform_ofExcept_bind_eq_ok.mp h
  obtain ⟨name, hname, h⟩ := perform_ofExcept_bind_eq_ok.mp h
  obtain ⟨template, htemplate, h⟩ := perform_ofExcept_bind_eq_ok.mp h
  obtain ⟨diagClass, hclass, h⟩ := perform_ofExcept_bind_eq_ok.mp h
  obtain ⟨severity, hseverity, h⟩ := perform_ofExcept_bind_eq_ok.mp h
  refine ⟨.entry name template diagClass severity ((Json.field? "groups" fields).getD (.array [])),
    ?_, h⟩
  unfold stepOf
  simp only [hfields, hname, htemplate, hclass, hseverity, bind, Except.bind]

/-- The records of a file are loaded by the steps that they describe. -/
theorem performs_records {records : List Json}
    (h : (records.forM loadDiagnostic).perform catalog = (.ok (), catalog')) :
    ∃ entries, records.mapM stepOf = .ok entries ∧ Performs entries catalog catalog' := by
  induction records generalizing catalog with
  | nil =>
    cases h
    exact ⟨[], rfl, .nil _⟩
  | cons record records ih =>
    obtain ⟨_, _, hfirst, hrest⟩ := perform_bind_eq_ok.mp h
    obtain ⟨step, hstep, hdone⟩ := stepOf_of_loadDiagnostic hfirst
    obtain ⟨entries, hentries, hothers⟩ := ih hrest
    refine ⟨step :: entries, ?_, .cons hdone hothers⟩
    rw [List.mapM_cons, hstep, hentries]
    rfl

/-- A file that can be loaded describes steps, and loading it takes them. -/
theorem performs_file {json : Json} (h : ofJson json = .ok catalog) :
    ∃ steps, stepsOf json = .ok steps ∧ Performs steps initial catalog := by
  have hload : (loadFile json).perform initial = (.ok (), catalog) := by
    unfold ofJson at h
    rcases hperf : (loadFile json).perform initial with ⟨fault | _, found⟩
    · rw [hperf] at h
      cases h
    · rw [hperf] at h
      cases h
      rfl
  unfold loadFile at hload
  obtain ⟨fields, hfields, hload⟩ := perform_ofExcept_bind_eq_ok.mp hload
  obtain ⟨groups, hgroups, hload⟩ := perform_ofExcept_bind_eq_ok.mp hload
  obtain ⟨_, middle, hadded, hload⟩ := perform_bind_eq_ok.mp hload
  obtain ⟨records, hrecords, hload⟩ := perform_ofExcept_bind_eq_ok.mp hload
  obtain ⟨entries, hentries, hothers⟩ := performs_records hload
  refine ⟨_, ?_, (performs_groups hadded).append hothers⟩
  unfold stepsOf
  simp only [hfields, hgroups, hrecords, hentries, bind, Except.bind]

/-- A catalog that was built reflects its steps. -/
theorem Built.reflects (h : Built steps catalog) : Reflects steps catalog := by
  induction h with
  | initial => exact reflects_initial
  | step _ done ih => exact ih.perform done
  | refused _ refused ih => rwa [eq_of_refused refused]
  | file loaded described =>
    obtain ⟨steps', hsteps', hperforms⟩ := performs_file loaded
    rw [described, Except.ok.injEq] at hsteps'
    rw [hsteps', ← List.nil_append steps']
    exact reflects_initial.performs hperforms

/-! ## Members -/

/-- Whatever is below a group is mentioned, if the group is. -/
theorem mentioned_of_below {group sub : Scalar.Key} (hgroup : Mentioned steps group)
    (h : Relation.ReflTransGen (IsSubgroup steps) group sub) : Mentioned steps sub := by
  induction h with
  | refl => exact hgroup
  | tail _ hstep _ =>
    obtain ⟨_, hmem, name, subgroups, scalar, rfl, hname, _, hsub⟩ := hstep
    refine ⟨_, hmem, ?_⟩
    rw [BuildStep.mentioned_group hname]
    exact List.mem_cons_of_mem _ hsub

/-- The groups that a catalog reaches from one are those below it in the steps; the search cannot miss
any, for it has as much fuel as there are groups. -/
theorem Reflects.mem_reachable_iff (h : Reflects steps catalog) {group : Scalar} {key : Scalar.Key}
    (hgroup : Mentioned steps group.key) :
    key ∈ catalog.reachable (catalog.groups.map (·.1.key)) [group.key] ↔
      Relation.ReflTransGen (IsSubgroup steps) group.key key := by
  constructor
  · intro hmem
    obtain ⟨start, hstart, hbelow⟩ := below_of_mem_reachable hmem
    rw [List.mem_singleton] at hstart
    subst hstart
    exact hbelow.lift id fun _ _ hsub => (h.subgroup_iff ..).mp hsub
  · intro hbelow
    refine mem_reachable ((h.hasGroup_iff _).mpr hgroup) ?_
    induction hbelow with
    | refl => exact .refl
    | tail hfront hstep ih =>
      refine ih.tail ⟨(h.subgroup_iff ..).mpr hstep, (h.hasGroup_iff _).mpr ?_⟩
      exact mentioned_of_below hgroup (hfront.tail hstep)

/-- Asking a built catalog for the members of a group always gives an answer. If the group is mentioned by
a step and some entry of the flavor lists it or a group below it, these are the numbers of exactly these
entries; else the group is unknown, or it is known and holds no diagnostic of the flavor. -/
theorem members_of_built (h : Built steps catalog) (flavor : Flavor) (group : Scalar) :
    match catalog.members flavor group with
    | .ok ids => Mentioned steps group.key ∧ ids ≠ [] ∧
        ∀ id, id ∈ ids ↔ ListsBelow steps flavor group id
    | .error fault =>
      (fault = .groupUnknown group.display ∧ ¬Mentioned steps group.key) ∨
        (fault = .groupEmpty group.display flavor ∧ Mentioned steps group.key ∧
          ∀ id, ¬ListsBelow steps flavor group id) := by
  have hreflects := h.reflects
  by_cases hgroup : Mentioned steps group.key
  -- The entries that are looked for are those that list a group which is reached, and what is reached is
  -- what the steps put below the group.
  · have hfound : ∀ id, (∃ entry ∈ catalog.entries.filter (fun entry =>
        entry.hasFlavor flavor && entry.groups.any fun name =>
          (catalog.reachable (catalog.groups.map (·.1.key)) [group.key]).contains name.key),
          entry.id = id) ↔ ListsBelow steps flavor group id := by
      intro id
      unfold ListsBelow
      simp only [← hreflects.lists_iff, ← hreflects.mem_reachable_iff hgroup, List.mem_filter,
        Bool.and_eq_true, List.any_eq_true, List.contains_iff_mem, List.mem_map]
      constructor
      · rintro ⟨entry, ⟨hentry, hflavor, name, hname, hbelow⟩, hid⟩
        exact ⟨name.key, ⟨entry, hentry, hflavor, hid, name, hname, rfl⟩, hbelow⟩
      · rintro ⟨_, ⟨entry, hentry, hflavor, hid, name, hname, rfl⟩, hbelow⟩
        exact ⟨entry, ⟨hentry, hflavor, name, hname, hbelow⟩, hid⟩
    have hnamed : ((catalog.reachable (catalog.groups.map (·.1.key)) [group.key]).all
        catalog.isNamed) = true :=
      List.all_eq_true.mpr fun key _ => hreflects.named key
    unfold members
    rw [if_pos ((hreflects.hasGroup_iff _).mpr hgroup)]
    dsimp only
    rw [hnamed, if_neg (by decide)]
    by_cases hempty : (catalog.entries.filter fun entry =>
        entry.hasFlavor flavor && entry.groups.any fun name =>
          (catalog.reachable (catalog.groups.map (·.1.key)) [group.key]).contains
            name.key).isEmpty = true
    · rw [if_pos hempty]
      rw [List.isEmpty_iff] at hempty
      refine .inr ⟨rfl, hgroup, fun id hid => ?_⟩
      rw [← hfound, hempty] at hid
      obtain ⟨entry, hmem, -⟩ := hid
      cases hmem
    · rw [if_neg hempty]
      refine ⟨hgroup, ?_, fun id => ?_⟩
      · rw [List.isEmpty_iff] at hempty
        simpa using hempty
      · rw [← hfound, List.mem_map]
  · unfold members
    rw [if_neg fun hhas => hgroup ((hreflects.hasGroup_iff _).mp hhas)]
    exact .inl ⟨rfl, hgroup⟩

/-- A file with a circle of groups, one of which is not defined, and an entry in that group. -/
def circleFile : Json :=
  .object [("groups", .object [("all", .array [.string "unused"]),
      ("unused", .array [.string "all", .string "values"])]),
    ("diagnostics", .array [.object [("name", .string "warn_value"),
      ("template", .string "unused value"), ("class", .string "warning"),
      ("groups", .array [.string "values"])]])]

/-- The steps that the file describes, and one that makes the group in question its own subgroup. -/
def circleSteps : List BuildStep :=
  [.group (.string "all") (.array [.string "unused"]),
    .group (.string "unused") (.array [.string "all", .string "values"]),
    .entry (.string "warn_value") (.string "unused value") .warning none (.array [.string "values"]),
    .group (.string "values") (.array [.string "values"])]

/-- The catalog in which the group in question has the given subgroups. -/
def circleCatalog (subgroups : List Json) : Catalog :=
  ⟨[builtin, ⟨2, .text "warn_value", .string "unused value", .warning, .warning, [.text "values"]⟩],
    [(.text "all", [.string "unused"]), (.text "unused", [.string "all", .string "values"]),
      (.text "values", subgroups)]⟩

/-- Behind the file a second entry of the same name is refused. -/
theorem members_of_circle : Built circleSteps (circleCatalog [.string "values"]) ∧
    (circleCatalog [.string "values"]).members .warningOrError (.text "all") = .ok [2] ∧
    Mentioned circleSteps (.text "all") ∧
    ListsBelow circleSteps .warningOrError (.text "all") 2 := by
  have hfile : ofJson circleFile = .ok (circleCatalog []) := rfl
  have hdescribed : stepsOf circleFile = .ok (circleSteps.take 3) := rfl
  have hrefused : (BuildStep.entry (.string "warn_value") (.string "again") .error none
      (.array [.string "other"])).action.perform (circleCatalog []) =
        (.error (.ofDefect (.nameDuplicate "warn_value")), circleCatalog []) := rfl
  have hdone : (BuildStep.group (.string "values") (.array [.string "values"])).action.perform
      (circleCatalog []) = (.ok (), circleCatalog [.string "values"]) := rfl
  have hbuilt : Built circleSteps (circleCatalog [.string "values"]) :=
    ((Built.file hfile hdescribed).refused hrefused).step hdone
  have hmembers : (circleCatalog [.string "values"]).members .warningOrError (.text "all") =
      .ok [2] := by cbv
  have hanswer := members_of_built hbuilt .warningOrError (.text "all")
  rw [hmembers] at hanswer
  exact ⟨hbuilt, hmembers, hanswer.1, (hanswer.2.2 2).mp List.mem_cons_self⟩

end Diagnostics.Catalog
