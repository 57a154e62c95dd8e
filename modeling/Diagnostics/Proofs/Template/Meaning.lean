import Diagnostics.Proofs.Template.Rendering

/-!
# Templates are rendered to what they mean

Rendering the text of a tree gives what the tree means, and fails exactly if it means nothing. The
induction is on trees. It is about all windows on their text and about all bounds that are large
enough, since a payload is rendered under the bound of its directive. And it is about any run of
literal characters in front, because the renderer takes such a run as one piece: a tree that begins
with a literal does not begin with a piece.
-/

set_option autoImplicit false

namespace Diagnostics.Grammar

open Diagnostics.Action Formatter Rendering

variable {σ : Type} {f : Formatter σ} {types : List RichValue} {sub : Window → Rendering σ Unit}

/-! ## Arguments -/

/-- None of the arguments is a rich value. -/
def Plain (store : ArgumentStore) : Prop :=
  ∀ argument ∈ store.toList, ∀ kind value, argument ≠ .rich kind value

/-- None of the arguments of a plain store is a rich value. -/
theorem Plain.get? {store : ArgumentStore} (h : Plain store) {index : Nat} {argument : Argument}
    (hget : store.get? index = some argument) (kind : RichKind) (value : RichValue) :
    argument ≠ .rich kind value :=
  h argument (List.mem_of_getElem? hget) kind value

/-- Without a modifier nothing is refused, and the piece is written. -/
theorem writes_unmodified (what piece : String) {x : Rendering σ Unit} (hx : Writes x () (some "")) :
    Writes (do refuseModifier "" what; emit piece; x) () (some piece) := by
  have hmodifier : Writes (refuseModifier "" what : Rendering σ Unit) () (some "") :=
    writes_pure ()
  have hall := hmodifier.andThen ((writes_emit piece).andThen hx)
  rw [empty_joined, joined_empty] at hall
  exact hall

/-- With a modifier where none makes sense nothing is written. -/
theorem writes_refused {modifier : String} (hne : modifier ≠ "") (what : String)
    (x : Rendering σ Unit) : Writes (do refuseModifier modifier what; x) () none := by
  intro p
  refine ⟨.ofDefect (.modifierRefused what modifier), p, perform_bind_of_error ?_, rfl⟩
  unfold refuseModifier
  rw [if_neg hne]
  rfl

/-- An argument without a modifier. -/
theorem writes_spelled {argument : Argument}
    (hplain : ∀ kind value, argument ≠ .rich kind value) :
    Writes (f.renderArgument types sub argument "" none) () (spelled? f.tokens argument) := by
  have hinteger : ∀ n, Writes (do renderInteger sub n "" none; record argument) ()
      (some (toString n)) := by
    intro n
    have hall := (writes_emit (σ := σ) (toString n)).andThen (writes_record argument)
    rw [empty_joined] at hall
    exact hall
  unfold renderArgument
  cases argument with
  | text s => exact writes_unmodified _ s (writes_record _)
  | borrowedText s => exact writes_unmodified _ _ (writes_record _)
  | signed n => exact hinteger n
  | unsigned n => exact hinteger n
  | token kind => exact writes_unmodified _ _ (writes_record _)
  | identifier name =>
    cases name with
    | none => exact writes_unmodified _ _ (writes_pure ())
    | some name => exact writes_unmodified _ _ (writes_record _)
  | rich kind value => exact absurd rfl (hplain kind value)

/-- A modifier suits integers only, and there it decides the text. -/
theorem writes_modified {argument : Argument} (hplain : ∀ kind value, argument ≠ .rich kind value)
    {modifier : String} (hne : modifier ≠ "") {payload : Option Window}
    {text : Int → Option String}
    (h : ∀ n, Writes (renderInteger sub n modifier payload) () (text n)) :
    Writes (f.renderArgument types sub argument modifier payload) ()
      (integer? argument >>= text) := by
  have hinteger : ∀ n, Writes (do renderInteger sub n modifier payload; record argument) ()
      (text n) := by
    intro n
    have hall := (h n).andThen (writes_record argument)
    rw [empty_joined] at hall
    exact hall
  unfold renderArgument
  cases argument with
  | text s => exact writes_refused hne _ _
  | borrowedText s => exact writes_refused hne _ _
  | signed n => exact hinteger n
  | unsigned n => exact hinteger n
  | token kind => exact writes_refused hne _ _
  | identifier name =>
    cases name with
    | none => exact writes_refused hne _ _
    | some name => exact writes_refused hne _ _
  | rich kind value => exact absurd rfl (hplain kind value)

/-- The letter of a plural is written for every integer but one. -/
theorem writes_suffix (value : Int) : Writes (renderInteger sub value "s" none) ()
    (some (if value = 1 then "" else "s")) := by
  by_cases hone : value = 1
  · have hrender : renderInteger sub value "s" none = pure () := by
      simp [renderInteger, hone]
    rw [hrender, if_pos hone]
    exact writes_pure ()
  · have hrender : renderInteger sub value "s" none = emit "s" := by
      simp [renderInteger, hone]
    rw [hrender, if_neg hone]
    exact writes_emit "s"

/-- An ordinal is written for positive integers. -/
theorem writes_ordinal (value : Int) : Writes (renderInteger sub value "ordinal" none) ()
    (if value < 1 then none else some (toString value ++ ordinalSuffix value)) := by
  by_cases hless : value < 1
  · have hrender : renderInteger sub value "ordinal" none =
        throw (.ofDefect (.ordinalNotPositive value)) := by
      simp [renderInteger, hless]
    rw [hrender, if_pos hless]
    exact writes_throw _ ()
  · have hrender : renderInteger sub value "ordinal" none =
        emit (toString value ++ ordinalSuffix value) := by
      simp [renderInteger, hless]
    rw [hrender, if_neg hless]
    exact writes_emit _

/-- An argument is written in a style as the style says. -/
theorem writes_style (style : Style) {argument : Argument}
    (hplain : ∀ kind value, argument ≠ .rich kind value) :
    Writes (f.renderArgument types sub argument style.modifier none) ()
      (style.text? f.tokens argument) := by
  cases style with
  | plain => exact writes_spelled hplain
  | suffix =>
    have htext : Style.suffix.text? f.tokens argument =
        integer? argument >>= fun n => some (if n = 1 then "" else "s") := by
      cases hinteger : integer? argument <;> simp [Style.text?, hinteger]
    rw [htext]
    exact writes_modified hplain (by decide) writes_suffix
  | ordinal => exact writes_modified hplain (by decide) writes_ordinal

/-! ## Directives -/

/-- An argument that is attached is given. -/
theorem argument_of_some {template : Json} {number offset : Nat} {argument : Argument}
    (h : f.arguments.get? number = some argument) :
    f.argument template number offset = .ok argument := by
  unfold Formatter.argument
  rw [h]

/-- An argument that is not attached is missed. -/
theorem argument_of_none {number : Nat} (h : f.arguments.get? number = none) (template : Json)
    (offset : Nat) : ∃ fault, f.argument template number offset = .error fault := by
  unfold Formatter.argument
  rw [h]
  exact ⟨_, rfl⟩

/-- A directive that is no comparison is rendered as its argument is. -/
theorem writes_directive {d : Directive} (hne : d.modifier ≠ "diff") (rest : Window)
    {text : Argument → Option String}
    (h : ∀ argument, f.arguments.get? d.argument = some argument →
      Writes (f.renderArgument types sub argument d.modifier d.payload) () (text argument)) :
    Writes (f.renderDirective types sub d rest) rest (f.arguments.get? d.argument >>= text) := by
  unfold renderDirective
  cases hget : f.arguments.get? d.argument with
  | none =>
    obtain ⟨fault, hfault⟩ := argument_of_none hget (.string rest.template) d.digitAt
    exact writes_ofExcept_error rest hfault
  | some argument =>
    refine Writes.ofExcept_bind (argument_of_some hget) ?_
    have hall := (h argument hget).andThen (writes_pure rest)
    rw [empty_joined] at hall
    rw [if_neg hne]
    exact hall

section Comparison

variable {number : Fin 10} {rest : Window} {tail : List Char}

/-- The second argument of a comparison is read behind the comma. -/
theorem partner_of_some {argument : Argument} (hrest : rest.chars = ',' :: digit number :: tail)
    (hget : f.arguments.get? number = some argument) :
    f.partner rest = .ok (argument, rest.drop 2) := by
  have hdigit : (rest.drop 1).digit? = some (number : Nat) := digit?_digit (drop_one_left hrest)
  unfold partner
  rw [hrest, hdigit]
  show (do
    let argument ← f.argument (.string rest.template) number (rest.start + 1)
    .ok (argument, rest.drop 2)) = _
  rw [argument_of_some hget]
  rfl

/-- The second argument of a comparison is missed if it is not attached. -/
theorem partner_of_none (hrest : rest.chars = ',' :: digit number :: tail)
    (hget : f.arguments.get? number = none) : ∃ fault, f.partner rest = .error fault := by
  have hdigit : (rest.drop 1).digit? = some (number : Nat) := digit?_digit (drop_one_left hrest)
  obtain ⟨fault, hfault⟩ := argument_of_none hget (.string rest.template) (rest.start + 1)
  refine ⟨fault, ?_⟩
  unfold partner
  rw [hrest, hdigit]
  show (do
    let argument ← f.argument (.string rest.template) number (rest.start + 1)
    .ok (argument, rest.drop 2)) = _
  rw [hfault]
  rfl

/-- A comparison of arguments that are no rich values is rendered from the left to the right. -/
theorem writes_diff {payload : Window} {parts : DiffParts} {before middle behind : Option String}
    (first digitAt : Nat) (hplain : Plain f.arguments)
    (hparts : payload.plainParts = .ok parts) (hbefore : Writes (sub parts.before) () before)
    (hmiddle : Writes (sub parts.middle) () middle) (hbehind : Writes (sub parts.behind) () behind)
    (hrest : rest.chars = ',' :: digit number :: tail) :
    Writes (f.renderDirective types sub ⟨"diff", some payload, first, digitAt⟩ rest) (rest.drop 2)
      (do
        let source ← f.arguments.get? first
        let target ← f.arguments.get? number
        joined before (joined (spelled? f.tokens source)
          (joined middle (joined (spelled? f.tokens target) behind)))) := by
  unfold renderDirective
  cases hsource : f.arguments.get? first with
  | none =>
    obtain ⟨fault, hfault⟩ := argument_of_none hsource (.string rest.template) digitAt
    exact writes_ofExcept_error _ hfault
  | some source =>
    refine Writes.ofExcept_bind (argument_of_some hsource) ?_
    rw [if_pos rfl]
    cases htarget : f.arguments.get? number with
    | none =>
      obtain ⟨fault, hfault⟩ := partner_of_none hrest htarget
      exact writes_ofExcept_error _ hfault
    | some target =>
      refine Writes.ofExcept_bind (partner_of_some hrest htarget) ?_
      have htype : source.type? = none := by
        cases source with
        | rich kind value => exact absurd rfl (hplain.get? hsource kind value)
        | _ => rfl
      have hall : Writes (f.renderPlainDiff types sub source target payload) ()
          (joined before (joined (spelled? f.tokens source)
            (joined middle (joined (spelled? f.tokens target) behind)))) :=
        Writes.ofExcept_bind hparts (hbefore.andThen ((writes_spelled (hplain.get? hsource)).andThen
          (hmiddle.andThen ((writes_spelled (hplain.get? htarget)).andThen hbehind))))
      have hdone := hall.andThen (writes_pure (rest.drop 2))
      rw [empty_joined] at hdone
      dsimp only
      rw [htype]
      exact hdone

end Comparison

/-! ## Texts -/

/-- Behind any literal run, and under any bound that is large enough, characters are rendered to a
text. -/
def Renders (f : Formatter σ) (types : List RichValue) (chars : List Char) (text : Option String) :
    Prop :=
  ∀ (run : List Char) (w : Window) (bound : Nat), (∀ c ∈ run, c ≠ '%') → w.chars = run ++ chars →
    w.size ≤ bound →
      Writes (f.renderWithin types bound w) () (joined (some (String.ofList run)) text)

section Texts

variable {chars tail : List Char} {text front : Option String} {w : Window} {bound : Nat}

/-- Characters that are rendered to a text write it, in every window and under every bound that is large
enough. -/
theorem Renders.writes (h : Renders f types chars text) (hw : w.chars = chars)
    (hb : w.size ≤ bound) : Writes (f.renderWithin types bound w) () text := by
  have hall := h [] w bound (fun _ hc => absurd hc List.not_mem_nil) hw hb
  rw [String.ofList_nil, joined_empty] at hall
  exact hall

/-- A bound for a window that is not empty is not zero. -/
theorem exists_bound {c : Char} (hw : w.chars = c :: tail) (hb : w.size ≤ bound) :
    ∃ less, bound = less + 1 := by
  refine Nat.exists_eq_succ_of_ne_zero ?_
  rintro rfl
  unfold Window.size at hb
  rw [hw, List.length_cons] at hb
  omega

/-- At the end of a window nothing is written. -/
theorem writes_end (hw : w.chars = []) (bound : Nat) :
    Writes (f.renderWithin types bound w) () (some "") := by
  cases bound with
  | zero => exact writes_pure ()
  | succ bound =>
    have hnext : w.next? = .ok none := by
      unfold Window.next?
      rw [hw]
    unfold renderWithin
    exact Writes.ofExcept_bind hnext (writes_pure ())

/-- A run is one piece; what is behind it is rendered under a smaller bound. -/
theorem writes_run {run : List Char} (hrun : ∀ c ∈ run, c ≠ '%')
    (htail : tail = [] ∨ ∃ more, tail = '%' :: more) (hw : w.chars = run ++ tail)
    (hb : w.size ≤ bound)
    (h : ∀ (w : Window) (bound : Nat), w.chars = tail → w.size ≤ bound →
      Writes (f.renderWithin types bound w) () text) :
    Writes (f.renderWithin types bound w) () (joined (some (String.ofList run)) text) := by
  cases run with
  | nil =>
    rw [String.ofList_nil, joined_empty]
    exact h w bound hw hb
  | cons c run =>
    obtain ⟨less, rfl⟩ := exists_bound hw hb
    have hrest : (w.drop (c :: run).length).chars = tail := drop_left' hw
    have hless : (w.drop (c :: run).length).size ≤ less := by
      rw [Window.size_drop, List.length_cons]
      omega
    unfold renderWithin
    refine Writes.ofExcept_bind (next?_run (List.cons_ne_nil c run) hrun htail hw) ?_
    exact (writes_emit _).andThen (h _ less hrest hless)

/-- No characters are rendered to no text. -/
theorem renders_nil : Renders f types [] (some "") := by
  intro run w bound hrun hw hb
  exact writes_run hrun (.inl rfl) hw hb fun _ bound hchars _ => writes_end hchars bound

/-- Text that begins with a percent sign does not go on with the run in front of it. -/
theorem renders_percent {c : Char} (hc : c = '%')
    (h : ∀ (w : Window) (bound : Nat), w.chars = c :: tail → w.size ≤ bound + 1 →
      Writes (f.renderWithin types (bound + 1) w) () text) :
    Renders f types (c :: tail) text := by
  subst hc
  intro run w bound hrun hw hb
  refine writes_run hrun (.inr ⟨tail, rfl⟩) hw hb ?_
  intro w bound hw hb
  obtain ⟨less, rfl⟩ := exists_bound hw hb
  exact h w less hw hb

/-- A character that stands for itself is rendered to itself. -/
theorem Renders.literal (h : Renders f types tail text) {c : Char} (hc : c ≠ '%') :
    Renders f types (c :: tail) (joined (some (String.singleton c)) text) := by
  intro run w bound hrun hw hb
  have hrun' : ∀ d ∈ run ++ [c], d ≠ '%' := by
    intro d hd
    rcases List.mem_append.mp hd with hd | hd
    · exact hrun d hd
    · rw [List.mem_singleton] at hd
      rw [hd]
      exact hc
  have hall := h (run ++ [c]) w bound hrun' (by rw [hw]; simp) hb
  have hfront : some (String.ofList (run ++ [c])) =
      joined (some (String.ofList run)) (some (String.singleton c)) := by
    simp [joined, String.ofList_append]
  rw [hfront, joined_assoc] at hall
  exact hall

/-- An escaped character is rendered to itself. -/
theorem Renders.escaped (h : Renders f types tail text) {c : Char}
    (hc : Text.isPunctuation c = true) :
    Renders f types ('%' :: c :: tail) (joined (some (String.singleton c)) text) := by
  refine renders_percent rfl ?_
  intro w bound hw hb
  have hrest : (w.drop 2).chars = tail := by
    unfold Window.drop
    rw [hw]
    rfl
  have hless : (w.drop 2).size ≤ bound := by
    rw [Window.size_drop]
    omega
  unfold renderWithin
  refine Writes.ofExcept_bind (next?_escaped hc hw) ?_
  exact (writes_emit _).andThen (h.writes hrest hless)

/-- A directive is rendered under the bound of what follows it, which suffices for its payload. -/
theorem Renders.directive (h : Renders f types tail text) (hchars : ∃ more, chars = '%' :: more)
    (hd : ∀ (w : Window) (bound : Nat), w.chars = chars ++ tail → w.size ≤ bound + 1 →
      ∃ d rest rest', w.next? = .ok (some (.directive d, rest)) ∧
        Writes (f.renderDirective types (f.renderWithin types bound) d rest) rest' front ∧
          rest'.chars = tail) :
    Renders f types (chars ++ tail) (joined front text) := by
  obtain ⟨more, rfl⟩ := hchars
  refine renders_percent rfl ?_
  intro w bound hw hb
  obtain ⟨d, rest, rest', hnext, hdirective, htail⟩ := hd w bound hw hb
  have hless : rest'.size ≤ bound := by
    unfold Window.size at hb ⊢
    rw [hw, List.length_cons] at hb
    rw [htail]
    have hlength : tail.length ≤ (more ++ tail).length := by
      rw [List.length_append]
      exact Nat.le_add_left _ _
    exact Nat.le_trans hlength (Nat.le_of_succ_le_succ hb)
  unfold renderWithin
  refine Writes.ofExcept_bind hnext ?_
  exact hdirective.bind (h.writes htail hless)

end Texts

/-! ## Choices -/

/-- A negative integer selects nothing. -/
theorem Options.meaning_negSucc (store : ArgumentStore) (tokens : TokenTable) :
    ∀ (options : Options) (n : Nat), options.meaning store tokens (.negSucc n) = none
  | .last option, n => by
    unfold Options.meaning
    exact if_neg (by simp)
  | .more option rest, n => by
    unfold Options.meaning
    rw [if_neg (by simp)]
    exact rest.meaning_negSucc store tokens (n + 1)

/-- Behind clauses, the rest begins with a bar unless nothing is left. -/
theorem Clauses.printBehind_eq (clauses : Clauses) :
    clauses.printBehind = [] ∨
      ∃ next, clauses.printBehind = '|' :: next ∧ next ≠ [] := by
  cases clauses with
  | nil => exact .inl rfl
  | cons condition form rest => exact .inr ⟨_, rfl, by simp⟩

/-- Clauses behind other ones are written with a bar in front. -/
theorem Clauses.tail_printBehind (clauses : Clauses) :
    clauses.printBehind.tail = clauses.print := by
  cases clauses with
  | nil => rfl
  | cons condition form rest => rfl

/-- A percent sign never stands for itself. -/
theorem Place.ne_percent {place : Place} {c : Char} (h : place.allows c = true) : c ≠ '%' := by
  cases place with
  | top => exact of_decide_eq_true h
  | option => exact (Place.ne_of_allows h (by decide)).1
  | side => exact (Place.ne_of_allows h (by decide)).1

section Trees

variable {place : Place} {tail : List Char} {text : Option String} (hplain : Plain f.arguments)

include hplain in
/-- An argument is rendered as its style says, or there is no text if it is not attached. -/
theorem renders_argument (style : Style) (number : Fin 10) (h : Renders f types tail text) :
    Renders f types ('%' :: style.modifier.toList ++ [digit number] ++ tail)
      (joined (do style.text? f.tokens (← f.arguments.get? number)) text) := by
  have hne : style.modifier ≠ "diff" := by cases style <;> decide
  refine h.directive ⟨_, rfl⟩ ?_
  intro w bound hw hb
  obtain ⟨digitAt, rest, hnext, hrest⟩ := next?_style style number hw
  have hdirective : Writes (f.renderDirective types (f.renderWithin types bound)
      ⟨style.modifier, none, number, digitAt⟩ rest) rest
      (do style.text? f.tokens (← f.arguments.get? number)) :=
    writes_directive hne rest fun argument hget => writes_style style (hplain.get? hget)
  exact ⟨_, rest, rest, hnext, hdirective, hrest⟩

include hplain in
/-- A choice by the value of an integer: the payload is cut first, and then the window is rendered. -/
theorem renders_choice {modifier : String} (hname : IsName modifier.toList)
    (hne : modifier ≠ "diff") {chars : List Char} (hskips : Skips '\x7d' 0 chars)
    (number : Fin 10) {choice : Int → Option String}
    (hchoice : ∀ (payload : Window) (bound : Nat) (value : Int), payload.chars = chars →
      payload.size ≤ bound →
        Writes (renderInteger (f.renderWithin types bound) value modifier (some payload)) ()
          (choice value))
    (h : Renders f types tail text) :
    Renders f types (withPayload modifier chars number ++ tail)
      (joined (do choice (← integer? (← f.arguments.get? number))) text) := by
  refine h.directive ⟨_, rfl⟩ ?_
  intro w bound hw hb
  obtain ⟨inner, digitAt, rest, hnext, hinner, hless, hrest⟩ :=
    next?_withPayload hname hskips number hw
  have hmodifier : modifier ≠ "" := by
    rintro rfl
    exact hname.1 rfl
  have hargument : ∀ argument, f.arguments.get? number = some argument →
      Writes (f.renderArgument types (f.renderWithin types bound) argument modifier (some inner)) ()
        (do choice (← integer? argument)) :=
    fun argument hget => writes_modified (hplain.get? hget) hmodifier
      fun value => hchoice inner bound value hinner (by omega)
  have hdirective := writes_directive (d := ⟨modifier, some inner, number, digitAt⟩) hne rest
    hargument
  exact ⟨_, rest, rest, hnext, hdirective, hrest⟩

include hplain in
/-- A comparison is rendered as its three texts around the two arguments; what stands behind the bar is
not. -/
theorem renders_diff {before middle behind alternative : List Char}
    {beforeText middleText behindText : Option String} (first second : Fin 10)
    (hbefore : Renders f types before beforeText) (hmiddle : Renders f types middle middleText)
    (hbehind : Renders f types behind behindText) (hfirst : Skips '$' 0 before)
    (hsecond : Skips '$' 0 middle) (hinline : Skips '|' 0 (before ++ '$' :: middle ++ '$' :: behind))
    (halternative : Skips '|' 0 alternative)
    (hpayload : Skips '\x7d' 0
      (before ++ '$' :: middle ++ '$' :: behind ++ '|' :: alternative))
    (h : Renders f types tail text) :
    Renders f types (withPayload "diff" (before ++ '$' :: middle ++ '$' :: behind ++
      '|' :: alternative) first ++ [',', digit second] ++ tail)
      (joined (do
        let source ← f.arguments.get? first
        let target ← f.arguments.get? second
        joined beforeText (joined (spelled? f.tokens source)
          (joined middleText (joined (spelled? f.tokens target) behindText)))) text) := by
  refine h.directive ⟨_, rfl⟩ ?_
  intro w bound hw hb
  obtain ⟨inner, digitAt, rest, hnext, hinner, hless, hrest⟩ :=
    next?_withPayload isName_diff hpayload first (by rw [hw, List.append_assoc])
  obtain ⟨parts, hparts, hpartBefore, hpartMiddle, hpartBehind⟩ :=
    plainParts_print hinner hfirst hsecond hinline halternative
  have hsize := size_eq_of_chars hinner
  simp only [List.length_append, List.length_cons] at hsize
  have hsizeBefore := size_eq_of_chars hpartBefore
  have hsizeMiddle := size_eq_of_chars hpartMiddle
  have hsizeBehind := size_eq_of_chars hpartBehind
  have hwBefore : Writes (f.renderWithin types bound parts.before) () beforeText :=
    hbefore.writes hpartBefore (by omega)
  have hwMiddle : Writes (f.renderWithin types bound parts.middle) () middleText :=
    hmiddle.writes hpartMiddle (by omega)
  have hwBehind : Writes (f.renderWithin types bound parts.behind) () behindText :=
    hbehind.writes hpartBehind (by omega)
  have htail : (rest.drop 2).chars = tail := by
    unfold Window.drop
    rw [hrest]
    rfl
  exact ⟨_, rest, rest.drop 2, hnext,
    writes_diff first digitAt hplain hparts hwBefore hwMiddle hwBehind hrest, htail⟩

/-- A selection renders the option that the integer selects. -/
theorem renderInteger_select (value : Int) (payload : Window) :
    renderInteger sub value "select" (some payload) =
      (do sub (← ofExcept (payload.selected value))) := by
  simp [renderInteger, requirePayload]

/-- A plural renders the form that the integer has. -/
theorem renderInteger_plural (value : Int) (payload : Window) :
    renderInteger sub value "plural" (some payload) =
      (do sub (← ofExcept (payload.pluralForm value))) := by
  simp [renderInteger, requirePayload]

/-- The meaning of a comparison, put together in the order in which it is rendered. -/
theorem diff_meaning {place : Place} (store : ArgumentStore) (tokens : TokenTable)
    (before middle behind : Template .side) (alternative : Template .option)
    (first second : Fin 10) :
    (Part.diff before middle behind alternative first second : Part place).meaning store tokens =
      (do
        let source ← store.get? first
        let target ← store.get? second
        joined (before.meaning store tokens) (joined (spelled? tokens source)
          (joined (middle.meaning store tokens) (joined (spelled? tokens target)
            (behind.meaning store tokens))))) := by
  rw [Part.meaning]
  simp only [joined, bind_assoc, pure_bind, String.append_assoc]

-- The bound belongs to the directive around an option or a form, so the windows that are chosen are
-- compared with it by their sizes; the search for a form has a limit of its own.
mutual

/-- The text of a template is rendered to what the template means. -/
theorem Template.renders (hplain : Plain f.arguments) {place : Place} :
    ∀ t : Template place, Renders f types t.print (t.meaning f.arguments f.tokens)
  | .nil => by
    rw [Template.print, Template.meaning]
    exact renders_nil
  | .cons part rest => by
    rw [Template.print, Template.meaning]
    exact part.renders hplain (rest.renders hplain)

/-- A part in front of any other text is rendered to what it means. -/
theorem Part.renders (hplain : Plain f.arguments) {place : Place} :
    ∀ (part : Part place) {tail : List Char} {text : Option String}, Renders f types tail text →
      Renders f types (part.print ++ tail)
        (joined (part.meaning f.arguments f.tokens) text)
  | .literal c allowed, tail, text, h => by
    rw [Part.print, Part.meaning]
    exact h.literal (Place.ne_percent allowed)
  | .escaped c mark, tail, text, h => by
    rw [Part.print, Part.meaning]
    exact h.escaped mark
  | .argument style number, tail, text, h => by
    rw [Part.print, Part.meaning]
    exact renders_argument hplain style number h
  | .select options number, tail, text, h => by
    rw [Part.print, Part.meaning]
    have hskips : Skips '\x7d' 0 options.print := options.skips (.inr (.inl rfl)) fun _ => rfl
    refine renders_choice hplain isName_select (by decide) hskips number ?_ h
    intro payload bound value hchars hb
    rw [renderInteger_select]
    cases value with
    | negSucc n =>
      rw [options.meaning_negSucc]
      exact writes_ofExcept_error () rfl
    | ofNat n => exact options.renders hplain n _ hchars hb
  | .plural clauses number, tail, text, h => by
    rw [Part.print, Part.meaning]
    have hskips : Skips '\x7d' 0 clauses.print := clauses.skips (.inr (.inl rfl)) fun _ => rfl
    refine renders_choice hplain isName_plural (by decide) hskips number ?_ h
    intro payload bound value hchars hb
    rw [renderInteger_plural]
    unfold Window.pluralForm
    by_cases hneg : value < 0
    · rw [if_pos hneg, if_pos hneg]
      exact writes_ofExcept_error () rfl
    · rw [if_neg hneg, if_neg hneg]
      exact clauses.renders hplain payload value hchars hb (Nat.lt_succ_self _)
  | .diff before middle behind alternative first second, tail, text, h => by
    rw [Part.print, diff_meaning]
    have hbar : IsSeparator '|' := .inl rfl
    have hbrace : IsSeparator '\x7d' := .inr (.inl rfl)
    have hdollar : IsSeparator '$' := .inr (.inr rfl)
    have hinline : ∀ target, IsSeparator target → Place.side.allows target = false →
        '$' ≠ target →
          Skips target 0 (before.print ++ '$' :: middle.print ++ '$' :: behind.print) :=
      fun target hsep hd hne => skips_inline (before.skips (by decide) hsep fun _ => hd)
        (middle.skips (by decide) hsep fun _ => hd) (behind.skips (by decide) hsep fun _ => hd)
        fun _ => hne
    exact renders_diff hplain first second (before.renders hplain) (middle.renders hplain)
      (behind.renders hplain) (before.skips (by decide) hdollar fun _ => rfl)
      (middle.skips (by decide) hdollar fun _ => rfl) (hinline _ hbar rfl (by decide))
      (alternative.skips (by decide) hbar fun _ => rfl)
      (skips_comparison (hinline _ hbrace rfl (by decide))
        (alternative.skips (by decide) hbrace fun _ => rfl) (by decide)) h

/-- The option that an integer selects is rendered to its meaning. -/
theorem Options.renders (hplain : Plain f.arguments) :
    ∀ (options : Options) (n : Nat) {w : Window} {bound : Nat} (fault : Fault),
      w.chars = options.print → w.size ≤ bound →
        Writes (do f.renderWithin types bound (← ofExcept (match Window.option? n w with
          | some w' => .ok w'
          | none => .error fault))) () (options.meaning f.arguments f.tokens n)
  | .last option, n, w, bound, fault, hw, hb => by
    rw [Options.print] at hw
    have hskips : Skips '|' 0 option.print := option.skips (by decide) (.inl rfl) fun _ => rfl
    cases n with
    | zero =>
      obtain ⟨w', hoption, hchars⟩ := option?_zero hw hskips
      have hless : w'.size ≤ bound := by
        rw [size_eq_of_chars hchars, ← size_eq_of_chars hw]
        exact hb
      rw [hoption]
      refine Writes.ofExcept_bind rfl ?_
      exact (option.renders hplain).writes hchars hless
    | succ n =>
      rw [option?_succ n hw hskips]
      have hmeaning : (Options.last option).meaning f.arguments f.tokens (n + 1 : Nat) = none := by
        rw [Options.meaning]
        exact if_neg (by omega)
      rw [hmeaning]
      exact writes_ofExcept_error () rfl
  | .more option rest, n, w, bound, fault, hw, hb => by
    rw [Options.print] at hw
    -- The first bar behind an option is its own one, since a scan passes over what is nested in it.
    have hskips : Skips '|' 0 option.print := option.skips (by decide) (.inl rfl) fun _ => rfl
    have hsize := size_eq_of_chars hw
    rw [List.length_append, List.length_cons] at hsize
    cases n with
    | zero =>
      obtain ⟨w', hoption, hchars⟩ := option?_zero_of_bar hw hskips
      have hless : w'.size ≤ bound := by
        rw [size_eq_of_chars hchars]
        omega
      rw [hoption]
      refine Writes.ofExcept_bind rfl ?_
      exact (option.renders hplain).writes hchars hless
    | succ n =>
      obtain ⟨w', hoption, hchars⟩ := option?_succ_of_bar n hw hskips
      have hless : w'.size ≤ bound := by
        rw [size_eq_of_chars hchars]
        omega
      have hmeaning : (Options.more option rest).meaning f.arguments f.tokens (n + 1 : Nat) =
          rest.meaning f.arguments f.tokens n := by
        rw [Options.meaning, if_neg (by omega), Int.natCast_succ, Int.add_sub_cancel]
      rw [hoption, hmeaning]
      exact rest.renders hplain n fault hchars hless

/-- The form of the first clause whose condition holds is rendered to its meaning. -/
theorem Clauses.renders (hplain : Plain f.arguments) (payload : Window) (value : Int) :
    ∀ (clauses : Clauses) {w : Window} {bound limit : Nat}, w.chars = clauses.print →
      w.size ≤ bound → w.size < limit →
        Writes (do f.renderWithin types bound (← ofExcept (Window.firstForm value payload limit w)))
          () (clauses.meaning f.arguments f.tokens value)
  | .nil, w, bound, limit, hw, hb, hl => by
    obtain ⟨fault, hfault⟩ := firstForm_nil value payload limit hw
    exact writes_ofExcept_error () hfault
  | .cons condition form rest, w, bound, limit, hw, hb, hl => by
    -- The limit is used up by one clause at a time, and the window gets shorter each time.
    obtain ⟨limit, rfl⟩ := Nat.exists_eq_succ_of_ne_zero (Nat.ne_of_gt (Nat.zero_lt_of_lt hl))
    rw [Clauses.print] at hw
    have hskips : Skips '|' 0 form.print := form.skips (by decide) (.inl rfl) fun _ => rfl
    have hsize := size_eq_of_chars hw
    rw [List.length_append, List.length_append, List.length_cons] at hsize
    have hfirst := firstForm_print value payload limit condition hskips hw rest.printBehind_eq
    rw [Clauses.meaning]
    cases hholds : condition.holds? value with
    | none =>
      rw [hholds] at hfirst
      obtain ⟨fault, hfault⟩ := hfirst
      exact writes_ofExcept_error () hfault
    | some holds =>
      rw [hholds] at hfirst
      cases holds with
      | true =>
        obtain ⟨w', hform, hchars⟩ := hfirst
        have hless : w'.size ≤ bound := by
          rw [size_eq_of_chars hchars]
          omega
        exact Writes.ofExcept_bind hform ((form.renders hplain).writes hchars hless)
      | false =>
        obtain ⟨w', hform, hchars⟩ := hfirst
        have hless := size_eq_of_chars hchars
        rw [List.length_tail] at hless
        rw [rest.tail_printBehind] at hchars
        rw [hform]
        exact rest.renders hplain payload value hchars (by omega) (by omega)

end

end Trees

/-! ## Windows on the text of a tree -/

/-- A template in a window is rendered to its meaning. -/
theorem Template.writes (types : List RichValue) (hplain : Plain f.arguments) {place : Place}
    (t : Template place) {w : Window} (hw : w.chars = t.print) :
    Writes (f.render types w) () (t.meaning f.arguments f.tokens) :=
  (t.renders hplain).writes hw (Nat.le_refl w.size)

/-- Whatever was rendered before, rendering the text of a tree adds pieces that make up its meaning;
it fails if the tree has none. Either way the state around it stays as it is. -/
theorem render_print (types : List RichValue) (hplain : Plain f.arguments) {place : Place}
    (t : Template place) {w : Window} (hw : w.chars = t.print) (p : Progress σ) :
    match t.meaning f.arguments f.tokens with
    | some text => ∃ pieces siblings, (f.render types w).perform p =
        (.ok (), { p with pieces := p.pieces ++ pieces, siblings }) ∧ String.join pieces = text
    | none => ∃ fault p', (f.render types w).perform p = (.error fault, p') ∧ p'.world = p.world := by
  have hall := t.writes types hplain hw
  cases hmeaning : t.meaning f.arguments f.tokens with
  | none =>
    rw [hmeaning] at hall
    exact hall p
  | some text =>
    rw [hmeaning] at hall
    exact hall p

/-- The pieces of a window that is rendered for itself make up what the tree means; there are none if it
has no meaning. -/
theorem pieces_print (hplain : Plain f.arguments) {place : Place} (t : Template place) {w : Window}
    (hw : w.chars = t.print) (world : σ) :
    match t.meaning f.arguments f.tokens with
    | some text => ∃ pieces, (f.pieces w).perform world = (.ok pieces, world) ∧
        String.join pieces = text
    | none => ∃ fault, (f.pieces w).perform world = (.error fault, world) := by
  have hall := t.writes [] hplain hw
  unfold Formatter.pieces
  rw [perform_ofPerform]
  cases hmeaning : t.meaning f.arguments f.tokens with
  | none =>
    rw [hmeaning] at hall
    obtain ⟨fault, p', hperform, hworld⟩ := hall { world }
    rw [hperform]
    refine ⟨fault, ?_⟩
    show (Except.error fault, p'.world) = (Except.error fault, world)
    rw [hworld]
  | some text =>
    rw [hmeaning] at hall
    obtain ⟨pieces, siblings, hperform, hjoin⟩ := hall { world }
    rw [hperform]
    exact ⟨pieces, rfl, hjoin⟩

/-- A comparison in a plural form in an option, and a literal run on either side. -/
def nestedTemplate : Template .top :=
  .cons (.literal '|' rfl)
    (.cons (.select (.more (.cons (.literal '-' rfl) .nil) (.last
      (.cons (.plural (.cons [⟨some 10, .exactly 1⟩, ⟨none, .between 20 30⟩]
        (.cons (.diff (.cons (.escaped '$' rfl) .nil) (.cons (.literal '=' rfl) .nil)
          (.cons (.argument .suffix 1) .nil) .nil 1 2) .nil)
        (.cons [] .nil .nil)) 1) .nil))) 0)
    (.cons (.argument .ordinal 1) .nil))

/-- A front end with two integers and an identifier. -/
def nestedFormatter : Formatter Unit where
  arguments := ⟨[.unsigned 1, .signed 21, .identifier (some "x")], by decide⟩
  stringify := Stringifier.placeholder

/-- The text of the nested template, and what it is rendered to. -/
theorem render_nestedTemplate :
    nestedTemplate.print =
      "|%select\x7b-|%plural\x7b%10=1,[20,30]:%diff\x7b%$$=$%s1|\x7d1,2|:\x7d1\x7d0%ordinal1".toList ∧
    ∃ pieces siblings,
      (nestedFormatter.render [] ⟨"", 0, nestedTemplate.print⟩).perform { world := () } =
        (.ok (), { world := (), pieces := pieces, siblings }) ∧
      String.join pieces = "|$21='x's21st" := by
  have hplain : Plain nestedFormatter.arguments := by
    intro argument hmem kind value
    rcases hmem with _ | ⟨_, _ | ⟨_, _ | ⟨_, hmem⟩⟩⟩
    · simp
    · simp
    · simp
    · cases hmem
  refine ⟨by decide, ?_⟩
  exact render_print [] hplain nestedTemplate rfl { world := () }

end Diagnostics.Grammar
