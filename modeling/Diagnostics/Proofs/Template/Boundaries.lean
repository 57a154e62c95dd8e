import Diagnostics.Proofs.Template.Passing
import Diagnostics.Proofs.Template.Unbounded
import Mathlib

/-!
# Where rendering and scanning see directives

A scan finds the ends of directives by a rule of its own: it passes over anything up to a digit or an
opening brace, and counts braces. Rendering reads a modifier, looks for the end of the payload by another
scan, and needs a digit there; for a comparison it reads a second one. What the one takes for text should
be text for the other, because all payloads are cut where scans stop.

`renderStretches` is rendering that also gives the stretches of the window that its items took, one after
the other. Wherever it does not fail, a scan of the same window stops at the first character of its kind
in a literal stretch: it passes over every other stretch as a whole.
-/

set_option autoImplicit false

namespace Diagnostics

/-! ## Stretches -/

/-- An item at the top level of a window, and the part of the window that it takes. -/
structure Stretch where
  item : TemplateItem
  window : Window

/-- The part of a window in front of what follows in it. -/
def Window.upTo (w rest : Window) : Window :=
  w.take (rest.start - w.start)

namespace Stretch

/-- The item is a run of literal text. -/
def IsLiteral (s : Stretch) : Prop :=
  ∃ run, s.item = .literal run

/-- The stretch is what a window begins with; a run is the text that stands there. -/
structure Begins (s : Stretch) (w : Window) : Prop where
  window : s.window = w.take s.window.size
  pos : 0 < s.window.size
  run : ∀ run, s.item = .literal run → run = s.window.chars

/-- The stretches follow each other from the beginning of a window to its end. -/
def Tile : List Stretch → Window → Prop
  | [], w => w.size = 0
  | s :: more, w => s.Begins w ∧ Tile more (w.drop s.window.size)

/-- At an offset there is a given character in a run of literal text. -/
def OnLiteral (stretches : List Stretch) (c : Char) (offset : Nat) : Prop :=
  ∃ s ∈ stretches, ∃ run i, s.item = .literal run ∧ run[i]? = some c ∧ offset = s.window.start + i

end Stretch

namespace Formatter

open Rendering

variable {σ : Type}

/-- Renders the first item of a window, if it has one, and gives its stretch and what follows it. -/
def renderStretch (f : Formatter σ) (types : List RichValue) (w : Window) :
    Rendering σ (Option (Stretch × Window)) := do
  match ← ofExcept w.next? with
  | none => pure none
  | some (.literal run, rest) =>
    emit (String.ofList run)
    pure (some (⟨.literal run, w.upTo rest⟩, rest))
  | some (.escaped c, rest) =>
    emit (String.singleton c)
    pure (some (⟨.escaped c, w.upTo rest⟩, rest))
  | some (.directive d, rest) =>
    let behind ← f.renderDirective types (f.render types) d rest
    pure (some (⟨.directive d, w.upTo behind⟩, behind))

/-- Renders a window whose size is within a bound, and gives its stretches. -/
def renderStretchesWithin (f : Formatter σ) (types : List RichValue) :
    Nat → Window → Rendering σ (List Stretch)
  | 0, _ => pure []
  | bound + 1, w => do
    match ← f.renderStretch types w with
    | none => pure []
    | some (stretch, rest) =>
      let more ← renderStretchesWithin f types bound rest
      pure (stretch :: more)

/-- Renders a window and gives its stretches. -/
def renderStretches (f : Formatter σ) (types : List RichValue) (w : Window) :
    Rendering σ (List Stretch) :=
  f.renderStretchesWithin types w.size w

end Formatter

namespace Window

variable {w rest : Window} {front : List Char}

/-- The part of a window in front of what a scan passes to. -/
theorem Passes.upTo (h : w.Passes rest front) :
    (w.upTo rest).chars = front ∧ (w.upTo rest).size = front.length := by
  have hchars : (w.upTo rest).chars = front := by
    unfold Window.upTo
    rw [h.rest]
    unfold drop take
    dsimp only
    rw [Nat.add_sub_cancel_left, h.chars, List.take_left]
  exact ⟨hchars, congrArg List.length hchars⟩

end Window

/-! ## What stretches are -/

namespace Stretch

open Grammar

/-- A literal run has no percent signs, and a scan passes over any other stretch. -/
structure Passed (s : Stretch) : Prop where
  plain : ∀ run, s.item = .literal run → ∀ c ∈ run, c ≠ '%'
  skips : ¬s.IsLiteral → ∀ {target : Char} {depth : Nat}, IsSeparator target →
    Skips target depth s.window.chars

variable {s : Stretch} {stretches : List Stretch} {w rest : Window} {target : Char} {offset : Nat}

/-- The first stretch of a window that is left at another one. -/
structure Leads (s : Stretch) (w rest : Window) : Prop where
  begins : s.Begins w
  rest : rest = w.drop s.window.size
  passed : s.Passed

/-- Any item but literal text leads on to what a scan passes it for. -/
theorem leads_of_passes {item : TemplateItem} {front : List Char}
    (hitem : ∀ run, item ≠ .literal run) (h : w.Passes rest front) (hne : front ≠ []) :
    Leads ⟨item, w.upTo rest⟩ w rest := by
  obtain ⟨hchars, hsize⟩ := h.upTo
  have hpos : 0 < front.length := List.length_pos_iff.mpr hne
  refine ⟨⟨?_, hsize ▸ hpos, fun run hrun => absurd hrun (hitem run)⟩, ?_, ?_, ?_⟩
  · have hstart : rest.start - w.start = front.length := by
      rw [h.rest]
      exact Nat.add_sub_cancel_left _ _
    rw [hsize]
    unfold Window.upTo
    rw [hstart]
  · rw [hsize]
    exact h.rest
  · exact fun run hrun => absurd hrun (hitem run)
  · intro _ target depth hsep
    rw [hchars]
    exact h.skips hsep

/-- A run of literal text leads on to the next percent sign. -/
theorem leads_of_run (hne : w.chars.takeWhile (· ≠ '%') ≠ []) :
    Leads ⟨.literal (w.chars.takeWhile (· ≠ '%')),
      w.upTo (w.drop (w.chars.takeWhile (· ≠ '%')).length)⟩ w
        (w.drop (w.chars.takeWhile (· ≠ '%')).length) := by
  have hwhole := List.takeWhile_append_dropWhile (p := (· ≠ '%')) (l := w.chars)
  have hplain : ∀ c ∈ w.chars.takeWhile (· ≠ '%'), c ≠ '%' := fun c hc => by
    simpa using List.mem_takeWhile_imp hc
  generalize w.chars.takeWhile (· ≠ '%') = run at *
  have hupTo : w.upTo (w.drop run.length) = w.take run.length := by
    unfold Window.upTo Window.drop
    dsimp only
    rw [Nat.add_sub_cancel_left]
  have hchars : (w.take run.length).chars = run := by
    unfold Window.take
    rw [← hwhole, List.take_left]
  have hsize : (w.take run.length).size = run.length := congrArg List.length hchars
  rw [hupTo]
  refine ⟨⟨?_, ?_, ?_⟩, ?_, ?_, fun h => absurd ⟨run, rfl⟩ h⟩
  · rw [hsize]
  · rw [hsize]
    exact List.length_pos_iff.mpr hne
  · rintro _ ⟨⟩
    exact hchars.symm
  · rw [hsize]
  · rintro _ ⟨⟩
    exact hplain

/-! ## Scanning stretches -/

/-- In a run of literal text a scan stops at the first target. -/
theorem scanFrom_run {run tail : List Char} (hrun : ∀ c ∈ run, c ≠ '%') :
    scanFrom target .text 0 (run ++ tail) =
      if target ∈ run then run.idxOf target else scanFrom target .text 0 tail + run.length := by
  induction run with
  | nil => rw [if_neg List.not_mem_nil]; rfl
  | cons c more ih =>
    rw [List.cons_append, scanFrom]
    by_cases hc : c = target
    · rw [if_pos ⟨rfl, rfl, hc⟩, if_pos (by rw [hc]; exact List.mem_cons_self), List.idxOf_cons,
        beq_iff_eq.mpr hc]
      rfl
    · have hnext : ScanMode.next .text 0 c = (.text, 0) := by
        unfold ScanMode.next
        dsimp only
        rw [if_neg (hrun c List.mem_cons_self)]
        split <;> rfl
      rw [if_neg fun hstop => hc hstop.2.2, hnext, ih fun d hd => hrun d (List.mem_cons_of_mem _ hd)]
      have hmem : target ∈ c :: more ↔ target ∈ more := by
        simp [Ne.symm hc]
      by_cases ht : target ∈ more
      · rw [if_pos ht, if_pos (hmem.mpr ht), List.idxOf_cons_ne _ hc]
      · rw [if_neg ht, if_neg (mt hmem.mp ht), List.length_cons, Nat.add_assoc]

/-- A window is a stretch that it begins with, and what is behind that. -/
theorem Begins.chars (h : s.Begins w) : w.chars = s.window.chars ++ (w.drop s.window.size).chars := by
  have hfront : s.window.chars = w.chars.take s.window.size := congrArg Window.chars h.window
  conv_lhs => rw [← List.take_append_drop s.window.size w.chars, ← hfront]
  rfl

/-- The size of a window is that of a stretch that it begins with, and of what is behind that. -/
theorem Begins.size (h : s.Begins w) :
    w.size = s.window.size + (w.drop s.window.size).size := by
  have hlength := congrArg List.length h.chars
  rwa [List.length_append] at hlength

/-- A stretch starts where the window does that it begins. -/
theorem Begins.start (h : s.Begins w) : s.window.start = w.start := by
  rw [h.window]
  rfl

/-- A scan stops in the first stretch, if that is a run with the target, and else passes over it. -/
theorem Begins.scan_cases (h : s.Begins w) (hp : s.Passed) (hsep : IsSeparator target) :
    (∃ run, s.item = .literal run ∧ target ∈ run ∧ run.length = s.window.size ∧
        w.scan target = run.idxOf target) ∨
      (∀ run, s.item = .literal run → target ∉ run) ∧
        w.scan target = (w.drop s.window.size).scan target + s.window.size := by
  unfold Window.scan
  rw [h.chars]
  by_cases hliteral : s.IsLiteral
  · obtain ⟨run, hitem⟩ := hliteral
    have hrun := h.run run hitem
    rw [← hrun, scanFrom_run (hp.plain run hitem)]
    by_cases ht : target ∈ run
    · exact .inl ⟨run, hitem, ht, congrArg List.length hrun, if_pos ht⟩
    · refine .inr ⟨fun run' hitem' => ?_, ?_⟩
      · rw [hitem] at hitem'
        cases hitem'
        exact ht
      · rw [if_neg ht, hrun]
        rfl
  · exact .inr ⟨fun run hitem => absurd ⟨run, hitem⟩ hliteral, hp.skips hliteral hsep _⟩

/-- No stretch starts in front of the window. -/
theorem Tile.start_le (h : Tile stretches w) : ∀ s ∈ stretches, w.start ≤ s.window.start := by
  induction stretches generalizing w with
  | nil => rintro _ ⟨⟩
  | cons s more ih =>
    rw [List.forall_mem_cons]
    refine ⟨Nat.le_of_eq h.1.start.symm, fun s' hs' => ?_⟩
    exact Nat.le_trans (Nat.le_add_right _ _) (ih h.2 s' hs')

/-- Of the first stretch and the others, either is on a literal. -/
theorem onLiteral_cons {more : List Stretch} : OnLiteral (s :: more) target offset ↔
    (∃ run i, s.item = .literal run ∧ run[i]? = some target ∧ offset = s.window.start + i) ∨
      OnLiteral more target offset := by
  unfold OnLiteral
  rw [List.exists_mem_cons_iff]

/-- A scan stops at the first literal of its kind, or at the end if there is none. -/
theorem Tile.scan (htile : Tile stretches w) (hpassed : ∀ s ∈ stretches, s.Passed)
    (hsep : IsSeparator target) :
    (w.scan target = w.size ∧ ∀ offset, ¬OnLiteral stretches target offset) ∨
      IsLeast {offset | OnLiteral stretches target offset} (w.start + w.scan target) := by
  induction stretches generalizing w with
  | nil =>
    have hend : w.size = 0 := htile
    have hle := Window.scan_le_size w target
    refine .inl ⟨by omega, ?_⟩
    rintro _ ⟨_, ⟨⟩, -⟩
  | cons s more ih =>
    obtain ⟨hbegins, htile⟩ := htile
    rw [List.forall_mem_cons] at hpassed
    have hstart := hbegins.start
    -- Either the scan ends in the first stretch, which is a run with the mark, or it passes over it.
    obtain ⟨run, hitem, ht, hlength, hscan⟩ | ⟨hnone, hscan⟩ := hbegins.scan_cases hpassed.1 hsep
    · refine .inr ⟨?_, fun offset hoffset => ?_⟩
      · refine ⟨s, List.mem_cons_self, run, run.idxOf target, hitem, ?_, by rw [hscan, hstart]⟩
        exact List.getElem?_idxOf ht
      · obtain ⟨run', i, hitem', hi, rfl⟩ | ⟨s', hs', _, i, -, -, rfl⟩ := onLiteral_cons.mp hoffset
        · rw [hitem] at hitem'
          cases hitem'
          have hmem : target ∈ run.take (i + 1) := by
            apply List.mem_of_getElem? (i := i)
            rw [List.getElem?_take_of_lt (Nat.lt_succ_self i), hi]
          have hle := (List.mem_take_iff_idxOf_lt ht).mp hmem
          omega
        · have hlater : w.start + s.window.size ≤ s'.window.start := htile.start_le s' hs'
          have hidx := List.idxOf_lt_length_of_mem ht
          omega
    · have hiff : ∀ offset, OnLiteral (s :: more) target offset ↔ OnLiteral more target offset := by
        intro offset
        rw [onLiteral_cons, or_iff_right]
        rintro ⟨run, i, hitem, hi, -⟩
        exact hnone run hitem (List.mem_of_getElem? hi)
      have hshift : (w.drop s.window.size).start + (w.drop s.window.size).scan target =
          w.start + w.scan target := by
        rw [hscan]
        show w.start + s.window.size + _ = _
        omega
      simp only [hiff]
      rw [← hshift]
      refine (ih htile hpassed.2).imp_left fun ⟨hend, hnot⟩ => ⟨?_, hnot⟩
      rw [hscan, hend, hbegins.size, Nat.add_comm]

/-- A scan does not stop inside a stretch that is no literal. -/
theorem Tile.not_within (htile : Tile stretches w) (hpassed : ∀ s ∈ stretches, s.Passed)
    (hsep : IsSeparator target) :
    ∀ s ∈ stretches, ¬s.IsLiteral →
      w.start + w.scan target < s.window.start ∨ s.window.stop ≤ w.start + w.scan target := by
  induction stretches generalizing w with
  | nil => rintro _ ⟨⟩
  | cons s more ih =>
    obtain ⟨hbegins, htile⟩ := htile
    rw [List.forall_mem_cons] at hpassed ⊢
    have hstop : s.window.stop = w.start + s.window.size := by
      unfold Window.stop
      rw [hbegins.start]
    have hcases := hbegins.scan_cases hpassed.1 hsep
    constructor
    · intro hnot
      obtain ⟨run, hitem, -⟩ | ⟨-, hscan⟩ := hcases
      · exact absurd ⟨run, hitem⟩ hnot
      · right
        omega
    · intro s' hs' hnot
      obtain ⟨run, -, ht, hlength, hscan⟩ | ⟨-, hscan⟩ := hcases
      · have hlater : w.start + s.window.size ≤ s'.window.start := htile.start_le s' hs'
        have hidx := List.idxOf_lt_length_of_mem ht
        left
        omega
      · have hshift : (w.drop s.window.size).start = w.start + s.window.size := rfl
        have hmore := ih htile hpassed.2 s' hs' hnot
        omega

end Stretch

namespace Formatter

open Diagnostics.Action Rendering Grammar

variable {σ : Type} {f : Formatter σ} {types : List RichValue} {w rest : Window}
  {p p' : Progress σ}

/-! ## Rendering stretch by stretch -/

/-- A scan passes over the comma and the digit of a second argument. -/
theorem passes_of_partner {second : Argument} (h : f.partner w = .ok (second, rest)) :
    ∃ front, w.Passes rest front := by
  unfold partner at h
  split at h
  · rename_i more number hchars hdigit
    cases hargument : f.argument (.string w.template) number (w.start + 1) with
    | error fault =>
      rw [hargument] at h
      cases h
    | ok argument =>
      rw [hargument] at h
      cases h
      obtain ⟨c, hc, hisDigit⟩ := Window.digit?_eq_some hdigit
      have hmore : (w.drop 1).chars = more := drop_one_left hchars
      rw [Window.drop_drop] at hc
      refine ⟨[',', c], ?_, rfl, @fun target depth hsep => ?_⟩
      · rw [hchars, ← hmore, hc]
        rfl
      · have hcomma : Skips target depth [','] := skips_mark hsep (.inl rfl)
        exact hcomma.append (skips_digit hsep hisDigit)
  · cases h

/-- One step of rendering leaves the window behind a stretch. -/
theorem leads_of_renderStretch {s : Stretch}
    (h : (f.renderStretch types w).perform p = (.ok (some (s, rest)), p')) : s.Leads w rest := by
  unfold renderStretch at h
  obtain ⟨item, p₁, hitem, h⟩ := perform_bind_eq_ok.mp h
  replace hitem := (perform_ofExcept_eq_ok.mp hitem).1
  split at h
  · cases h
  · obtain ⟨_, p₂, -, h⟩ := perform_bind_eq_ok.mp h
    cases h
    obtain ⟨⟨⟩, hne, rfl⟩ | ⟨hnot, -⟩ := Window.next?_eq_some hitem
    · exact Stretch.leads_of_run hne
    · exact absurd rfl (hnot _)
  · obtain ⟨_, p₂, -, h⟩ := perform_bind_eq_ok.mp h
    cases h
    obtain ⟨⟨⟩, -⟩ | ⟨hnot, front, hne, hpasses⟩ := Window.next?_eq_some hitem
    exact Stretch.leads_of_passes hnot hpasses hne
  · rename_i d behind
    obtain ⟨left, p₂, hperf, h⟩ := perform_bind_eq_ok.mp h
    cases h
    obtain ⟨⟨⟩, -⟩ | ⟨hnot, front, hne, hpasses⟩ := Window.next?_eq_some hitem
    obtain rfl | ⟨second, hpartner⟩ := rest_of_renderDirective hperf
    · exact Stretch.leads_of_passes hnot hpasses hne
    · obtain ⟨back, hpasses'⟩ := passes_of_partner hpartner
      exact Stretch.leads_of_passes hnot (hpasses.trans hpasses') (by simp [hne])

/-- Rendering ends where the window does. -/
theorem size_of_renderStretch (h : (f.renderStretch types w).perform p = (.ok none, p')) :
    w.size = 0 := by
  unfold renderStretch at h
  obtain ⟨item, p₁, hitem, h⟩ := perform_bind_eq_ok.mp h
  replace hitem := (perform_ofExcept_eq_ok.mp hitem).1
  split at h
  · exact Window.next?_eq_none hitem
  all_goals
    obtain ⟨_, _, -, h⟩ := perform_bind_eq_ok.mp h
    cases h

/-- All of them tile the window. -/
theorem tile_of_renderStretchesWithin {bound : Nat} {stretches : List Stretch} (hbound : w.size ≤ bound)
    (h : (f.renderStretchesWithin types bound w).perform p = (.ok stretches, p')) :
    Stretch.Tile stretches w ∧ ∀ s ∈ stretches, s.Passed := by
  induction bound generalizing w p stretches with
  | zero =>
    cases h
    exact ⟨Nat.le_zero.mp hbound, by rintro _ ⟨⟩⟩
  | succ bound ih =>
    unfold renderStretchesWithin at h
    obtain ⟨found, p₁, hstretch, h⟩ := perform_bind_eq_ok.mp h
    split at h
    · cases h
      exact ⟨size_of_renderStretch hstretch, by rintro _ ⟨⟩⟩
    · rename_i s rest
      obtain ⟨more, p₂, hmore, h⟩ := perform_bind_eq_ok.mp h
      cases h
      obtain ⟨hbegins, rfl, hpassed⟩ := leads_of_renderStretch hstretch
      have hsize := w.size_drop s.window.size
      have hpos := hbegins.pos
      obtain ⟨htile, hall⟩ := ih (by omega) hmore
      exact ⟨⟨hbegins, htile⟩, List.forall_mem_cons.mpr ⟨hpassed, hall⟩⟩

/-- Rendering is rendering stretch by stretch. -/
theorem render_eq_renderStretchesWithin {bound : Nat} (hbound : w.size ≤ bound) :
    f.render types w = (do let _ ← f.renderStretchesWithin types bound w; pure ()) := by
  induction bound generalizing w with
  | zero =>
    unfold render
    rw [renderWithin_empty (Nat.le_zero.mp hbound)]
    rfl
  | succ bound ih =>
    rw [render_eq]
    unfold renderNext renderStretchesWithin renderStretch
    simp only [bind_assoc]
    refine bind_congr fun q item q' hitem => ?_
    rw [perform_ofExcept_eq_ok] at hitem
    split
    · simp only [pure_bind]
    · rename_i run rest
      have hless := (Window.next?_sizes hitem.1).1
      simp only [bind_assoc, pure_bind]
      rw [ih (by omega)]
    · rename_i c rest
      have hless := (Window.next?_sizes hitem.1).1
      simp only [bind_assoc, pure_bind]
      rw [ih (by omega)]
    · rename_i d rest
      have hless := (Window.next?_sizes hitem.1).1
      simp only [bind_assoc, pure_bind]
      refine bind_congr fun q₁ behind q₂ hperf => ?_
      have hle := (isPart_of_renderDirective hperf).size_le
      rw [ih (by omega)]

/-- Where rendering a window does not fail, a scan for a separator stops where rendering came to it first in
a literal run at the top level of the window, and runs to the end if it never did. So it stops in no
directive and in no escape. -/
theorem scan_of_rendering {target : Char} (hsep : IsSeparator target)
    (h : (f.render types w).perform p = (.ok (), p')) :
    ∃ stretches, (f.renderStretches types w).perform p = (.ok stretches, p') ∧
      Stretch.Tile stretches w ∧
      ((w.scan target = w.size ∧ ∀ offset, ¬Stretch.OnLiteral stretches target offset) ∨
        IsLeast {offset | Stretch.OnLiteral stretches target offset} (w.start + w.scan target)) ∧
      ∀ s ∈ stretches, ¬s.IsLiteral →
        w.start + w.scan target < s.window.start ∨ s.window.stop ≤ w.start + w.scan target := by
  rw [render_eq_renderStretchesWithin (Nat.le_refl _)] at h
  obtain ⟨stretches, p₁, hstretches, hend⟩ := perform_bind_eq_ok.mp h
  cases hend
  obtain ⟨htile, hpassed⟩ := tile_of_renderStretchesWithin (Nat.le_refl _) hstretches
  exact ⟨stretches, hstretches, htile, htile.scan hpassed hsep, htile.not_within hpassed hsep⟩

/-- A front end with an integer and a text. -/
def choosingFormatter : Formatter Unit where
  arguments := ⟨[.unsigned 1, .text "x"], by decide⟩
  stringify := Stringifier.quoting

/-- A part of a template with bars in a payload, in a payload inside it, in an escape and in a comparison
in front of the one in its text. -/
def barredWindow : Window :=
  .between "(%select\x7ba|%plural\x7b1:b|:c\x7d0\x7d0%|%diff\x7b$ or $|-\x7d0,1 d|e)" 1 53

/-- Only one of the many bars of the window stands in literal text. -/
theorem scan_of_rendering_barred :
    ∃ stretches p', (choosingFormatter.renderStretches [] barredWindow).perform { world := () } =
        (.ok stretches, p') ∧ p'.pieces = ["b", "|", "1", " or ", "x", " d|e"] ∧
      IsLeast {offset | Stretch.OnLiteral stretches '|' offset} 51 := by
  have hrender : (choosingFormatter.render [] barredWindow).perform { world := () } =
      (.ok (), { pieces := ["b", "|", "1", " or ", "x", " d|e"],
                 siblings := [.unsigned 1, .unsigned 1, .unsigned 1, .borrowedText "x"],
                 world := () }) := by
    cbv
  obtain ⟨stretches, hstretches, -, hfirst, -⟩ := scan_of_rendering (.inl rfl) hrender
  refine ⟨stretches, _, hstretches, rfl, ?_⟩
  have hscan : barredWindow.scan '|' = 50 := by decide +kernel
  rw [hscan] at hfirst
  exact hfirst.resolve_left fun hend => absurd hend.1 (by decide +kernel)

end Formatter

end Diagnostics
