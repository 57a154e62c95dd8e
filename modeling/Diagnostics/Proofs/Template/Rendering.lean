import Diagnostics.Proofs.Outcome
import Diagnostics.Proofs.Template.Cutting

/-!
# What a rendering writes

A rendering adds pieces of text, remembers arguments for the stringifier, or fails. `Writes` says which
text the pieces make up, whatever was rendered before; its rules follow the way renderings are put
together. The second part takes the items of a template off the text of a tree: a run of characters, an
escape, or a directive with its payload and its digit.
-/

set_option autoImplicit false

namespace Diagnostics.Grammar

open Diagnostics.Action Formatter Rendering

variable {σ α β : Type}

/-! ## What a rendering writes -/

/-- A rendering returns a value and adds pieces that make up a text, or it fails if there is no text.
Either way the state that a stringifier acts on stays as it is. -/
def Writes (x : Rendering σ α) (a : α) : Option String → Prop
  | some text => ∀ p, ∃ pieces siblings, x.perform p =
      (.ok a, { p with pieces := p.pieces ++ pieces, siblings }) ∧ String.join pieces = text
  | none => ∀ p, ∃ fault p', x.perform p = (.error fault, p') ∧ p'.world = p.world

/-- One text behind another one, if both are there. -/
def joined (front back : Option String) : Option String := do
  return (← front) ++ (← back)

/-- Nothing behind a text. -/
theorem joined_empty (text : Option String) : joined (some "") text = text := by
  cases text with
  | none => rfl
  | some text => simp [joined]

/-- Nothing in front of a text. -/
theorem empty_joined (text : Option String) : joined text (some "") = text := by
  cases text with
  | none => rfl
  | some text => simp [joined]

/-- Three texts, one behind the other. -/
theorem joined_assoc (front middle back : Option String) :
    joined (joined front middle) back = joined front (joined middle back) := by
  cases front with
  | none => rfl
  | some front =>
    cases middle with
    | none => rfl
    | some middle =>
      cases back with
      | none => rfl
      | some back => simp [joined, String.append_assoc]

/-- Giving a value writes nothing. -/
theorem writes_pure (a : α) : Writes (pure a : Rendering σ α) a (some "") := by
  intro p
  exact ⟨[], p.siblings, by simp, rfl⟩

/-- A fault writes no text. -/
theorem writes_throw (fault : Fault) (a : α) : Writes (throw fault : Rendering σ α) a none := by
  intro p
  exact ⟨fault, p, perform_throw fault p, rfl⟩

/-- A piece is written. -/
theorem writes_emit (piece : String) : Writes (emit piece : Rendering σ Unit) () (some piece) := by
  intro p
  exact ⟨[piece], p.siblings, rfl, by simp⟩

/-- An argument that is recorded is not written. -/
theorem writes_record (argument : Argument) :
    Writes (record argument : Rendering σ Unit) () (some "") := by
  intro p
  unfold record
  rw [perform_modify]
  exact ⟨[], _, by rw [List.append_nil], rfl⟩

/-- A sequence writes one text behind the other. -/
theorem Writes.bind {x : Rendering σ α} {k : α → Rendering σ β} {a : α} {b : β}
    {front back : Option String} (hx : Writes x a front) (hk : Writes (k a) b back) :
    Writes (x >>= k) b (joined front back) := by
  cases front with
  | none =>
    intro p
    obtain ⟨fault, p', hperf, hworld⟩ := hx p
    exact ⟨fault, p', perform_bind_of_error hperf, hworld⟩
  | some front =>
    cases back with
    | none =>
      intro p
      obtain ⟨pieces, siblings, hperf, -⟩ := hx p
      obtain ⟨fault, p', hperf', hworld⟩ := hk { p with pieces := p.pieces ++ pieces, siblings }
      exact ⟨fault, p', by rw [perform_bind_of_ok hperf, hperf'], hworld⟩
    | some back =>
      intro p
      obtain ⟨pieces, siblings, hperf, hfront⟩ := hx p
      obtain ⟨pieces', siblings', hperf', hback⟩ :=
        hk { p with pieces := p.pieces ++ pieces, siblings }
      refine ⟨pieces ++ pieces', siblings', ?_, ?_⟩
      · rw [perform_bind_of_ok hperf, hperf', List.append_assoc]
      · rw [String.join_append, hfront, hback]

/-- One text is written behind another one, or none if one of them fails. -/
theorem Writes.andThen {x : Rendering σ α} {y : Rendering σ β} {a : α} {b : β}
    {front back : Option String} (hx : Writes x a front) (hy : Writes y b back) :
    Writes (x >>= fun _ => y) b (joined front back) :=
  hx.bind hy

/-- A value that is there is passed on, and writes nothing itself. -/
theorem Writes.ofExcept_bind {x : Except Fault α} {k : α → Rendering σ β} {a : α} {b : β}
    {text : Option String} (hx : x = .ok a) (hk : Writes (k a) b text) :
    Writes (ofExcept x >>= k) b text := by
  have hpure : Writes (ofExcept x : Rendering σ α) a (some "") := by
    rw [hx]
    exact writes_pure a
  have hall := hpure.bind hk
  rw [joined_empty] at hall
  exact hall

/-- Without a value no text is written. -/
theorem writes_ofExcept_error {x : Except Fault α} {k : α → Rendering σ β} {fault : Fault} (b : β)
    (hx : x = .error fault) : Writes (ofExcept x >>= k) b none := by
  intro p
  exact ⟨fault, p, perform_bind_of_error (by rw [perform_ofExcept, hx]), rfl⟩

/-! ## Items -/

variable {w : Window} {chars tail : List Char}

/-- A run of characters that are no percent signs is one item. -/
theorem next?_run {run : List Char} (hne : run ≠ []) (hrun : ∀ c ∈ run, c ≠ '%')
    (htail : tail = [] ∨ ∃ more, tail = '%' :: more) (hw : w.chars = run ++ tail) :
    w.next? = .ok (some (.literal run, w.drop run.length)) := by
  have htake : w.chars.takeWhile (· ≠ '%') = run := by
    rw [hw, List.takeWhile_append_of_pos fun c hc => by simpa using hrun c hc]
    rcases htail with rfl | ⟨more, rfl⟩ <;> simp
  obtain ⟨c, rest, rfl⟩ := List.exists_cons_of_ne_nil hne
  unfold Window.next?
  split
  · rename_i hnil
    rw [hw] at hnil
    cases hnil
  · rename_i hpercent
    rw [hw] at hpercent
    cases hpercent
    exact absurd rfl (hrun '%' List.mem_cons_self)
  · simp only [htake]

/-- Behind a percent sign, the next character tells an escape from a directive. -/
theorem next?_percent {c : Char} (hw : w.chars = '%' :: c :: tail) :
    w.next? = if Text.isPunctuation c then .ok (some (.escaped c, w.drop 2))
      else (w.drop 1).directive.map fun (d, rest) => some (.directive d, rest) := by
  unfold Window.next?
  rw [hw]
  rfl

/-- Behind a percent sign, punctuation stands for itself. -/
theorem next?_escaped {c : Char} (hc : Text.isPunctuation c = true)
    (hw : w.chars = '%' :: c :: tail) : w.next? = .ok (some (.escaped c, w.drop 2)) := by
  rw [next?_percent hw, if_pos hc]

/-- Behind a percent sign, anything else begins a directive. -/
theorem next?_directive {c : Char} {d : Directive} {rest : Window}
    (hc : Text.isPunctuation c = false) (hw : w.chars = '%' :: c :: tail)
    (hd : (w.drop 1).directive = .ok (d, rest)) :
    w.next? = .ok (some (.directive d, rest)) := by
  rw [next?_percent hw, if_neg (by rw [hc]; exact Bool.false_ne_true), hd]
  rfl

/-- No digit belongs to a modifier. -/
theorem isModifierLetter_of_digit (number : Fin 10) :
    Text.isModifierLetter (digit number) = false := by
  revert number
  decide

/-- No digit is punctuation. -/
theorem isPunctuation_digit (number : Fin 10) : Text.isPunctuation (digit number) = false := by
  revert number
  decide

/-- A digit is read as its number. -/
theorem digit?_digit {number : Fin 10} (hw : w.chars = digit number :: tail) :
    w.digit? = some (number : Nat) := by
  unfold Window.digit?
  rw [hw]
  dsimp only
  rw [if_pos (isDigit_digit number), digitValue_digit]

/-- A directive is read off its modifier, its payload and its digit. -/
theorem directive_eq {name : List Char} {payload : Option Window} {rest : Window}
    {number : Fin 10} (hname : ∀ c ∈ name, Text.isModifierLetter c = true)
    (hw : w.chars = name ++ chars)
    (hchars : ∀ c more, chars = c :: more → Text.isModifierLetter c = false)
    (hpayload : (w.drop name.length).payload? = .ok (payload, rest))
    (hrest : rest.chars = digit number :: tail) :
    w.directive = .ok (⟨String.ofList name, payload, number, rest.start⟩, rest.drop 1) := by
  have htake : w.chars.takeWhile Text.isModifierLetter = name := by
    rw [hw, List.takeWhile_append_of_pos hname]
    cases chars with
    | nil => simp
    | cons c more => simp [hchars c more rfl]
  unfold Window.directive
  simp only [htake, hpayload, bind, Except.bind, digit?_digit hrest]

/-- A digit begins no payload. -/
theorem payload?_digit {number : Fin 10} (hw : w.chars = digit number :: tail) :
    w.payload? = .ok (none, w) := by
  unfold Window.payload?
  split
  · rename_i hbrace
    rw [hw, List.cons.injEq] at hbrace
    exact absurd hbrace.1 (ne_of_isDigit (isDigit_digit number) (by decide))
  · rfl

/-- A payload ends at its own brace. -/
theorem payload?_brace (hp : Skips '\x7d' 0 chars)
    (hw : w.chars = '\x7b' :: (chars ++ '\x7d' :: tail)) :
    ∃ inner rest, w.payload? = .ok (some inner, rest) ∧ inner.chars = chars ∧
      rest.chars = tail := by
  have hdrop : (w.drop 1).chars = chars ++ '\x7d' :: tail := drop_one_left hw
  obtain ⟨inner, rest, hsplit, hinner, hrest⟩ := split?_eq_some hdrop hp
  refine ⟨inner, rest, ?_, hinner, hrest⟩
  unfold Window.payload?
  rw [hw, hsplit]
  rfl

/-- The item that an argument in a style is. -/
theorem next?_style (style : Style) (number : Fin 10)
    (hw : w.chars = '%' :: style.modifier.toList ++ [digit number] ++ tail) :
    ∃ digitAt rest, w.next? = .ok (some (.directive
      ⟨style.modifier, none, number, digitAt⟩, rest)) ∧ rest.chars = tail := by
  have hdrop : (w.drop 1).chars = style.modifier.toList ++ digit number :: tail := by
    unfold Window.drop
    rw [hw]
    simp
  have hat : ((w.drop 1).drop style.modifier.toList.length).chars = digit number :: tail :=
    drop_left' hdrop
  have hletters : style.modifier.toList.all Text.isModifierLetter = true := by
    cases style <;> decide
  have hd := directive_eq (List.all_eq_true.mp hletters) hdrop
    (by rintro _ _ ⟨⟩; exact isModifierLetter_of_digit number) (payload?_digit hat) hat
  rw [String.ofList_toList] at hd
  have hfirst : ∃ c more, w.chars = '%' :: c :: more ∧ Text.isPunctuation c = false := by
    rw [hw]
    cases style with
    | plain => exact ⟨digit number, tail, rfl, isPunctuation_digit number⟩
    | suffix => exact ⟨'s', _, rfl, by decide⟩
    | ordinal => exact ⟨'o', _, rfl, by decide⟩
  obtain ⟨c, more, hchars, hc⟩ := hfirst
  exact ⟨_, _, next?_directive hc hchars hd, drop_one_left hat⟩

/-- The item that a directive with a payload is. -/
theorem next?_withPayload {modifier : String} (hname : IsName modifier.toList)
    (hp : Skips '\x7d' 0 chars) (number : Fin 10)
    (hw : w.chars = withPayload modifier chars number ++ tail) :
    ∃ inner digitAt rest, w.next? = .ok (some (.directive
      ⟨modifier, some inner, number, digitAt⟩, rest)) ∧ inner.chars = chars ∧
        inner.size < w.size ∧ rest.chars = tail := by
  have hdrop : (w.drop 1).chars =
      modifier.toList ++ '\x7b' :: (chars ++ '\x7d' :: digit number :: tail) := by
    unfold Window.drop
    rw [hw]
    simp [withPayload]
  have hat : ((w.drop 1).drop modifier.toList.length).chars =
      '\x7b' :: (chars ++ '\x7d' :: digit number :: tail) := drop_left' hdrop
  obtain ⟨inner, rest, hpayload, hinner, hrest⟩ := payload?_brace hp hat
  have hd := directive_eq (fun c hc => (hname.2 c hc).2.2) hdrop (by rintro _ _ ⟨⟩; decide)
    hpayload hrest
  rw [String.ofList_toList] at hd
  obtain ⟨c, more, hmodifier⟩ := List.exists_cons_of_ne_nil hname.1
  have hc : Text.isPunctuation c = false := by
    refine (hname.2 c ?_).2.1
    rw [hmodifier]
    exact List.mem_cons_self
  have hchars : w.chars =
      '%' :: c :: (more ++ '\x7b' :: (chars ++ '\x7d' :: digit number :: tail)) := by
    rw [hw]
    simp [withPayload, hmodifier]
  have hsize : inner.size < w.size := by
    unfold Window.size
    rw [hinner, hw]
    simp [withPayload]
    omega
  exact ⟨inner, _, _, next?_directive hc hchars hd, hinner, hsize, drop_one_left hrest⟩

end Diagnostics.Grammar
