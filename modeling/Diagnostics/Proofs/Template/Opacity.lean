import Diagnostics.Proofs.Template.SideBySide

/-!
# The texts of arguments are opaque

A template is rendered with two stores of arguments whose values differ in texts only: those of texts,
borrowed texts and identifiers. Both renderings take the same way, and the pieces that they make differ
only where one of these arguments is rendered. There each piece is the text of the argument itself. No
text is ever read as a part of the template, whatever signs stand in it.

The arguments that were rendered so far are left out of the comparison of two renderings. A stringifier
gets to see them, texts included, so it has to be one that answers without looking at them.
-/

set_option autoImplicit false

namespace Diagnostics

namespace ArgumentStore

/-- As many arguments, which are the same one by one up to their texts. -/
def Alike (store other : ArgumentStore) : Prop :=
  List.Forall₂ Argument.Alike store.toList other.toList

/-- The pieces of two renderings at one position: they are the same, or each is the text of an argument
that differs in the two stores. -/
inductive SamePiece (store other : ArgumentStore) : String → String → Prop
  | refl (piece : String) : SamePiece store other piece piece
  | ownText {index : Nat} {argument argument' : Argument} {piece piece' : String}
      (hget : store.get? index = some argument) (hget' : other.get? index = some argument')
      (hdiffer : argument ≠ argument') (hpiece : argument.ownText? = some piece)
      (hpiece' : argument'.ownText? = some piece') : SamePiece store other piece piece'

end ArgumentStore

namespace Formatter

open Diagnostics.Action Rendering

variable {σ : Type}

/-- The answers of the stringifier do not depend on the arguments rendered before. -/
def IgnoresSiblings (stringify : Stringifier σ) : Prop :=
  ∀ request siblings, stringify { request with siblings } = stringify request

/-- How far two renderings have come that differ in texts of arguments only. -/
structure Parallel (store other : ArgumentStore) (p q : Progress σ) : Prop where
  pieces : List.Forall₂ (store.SamePiece other) p.pieces q.pieces
  tree : p.tree = q.tree
  world : p.world = q.world

/-- The same formatter with other arguments. -/
def withArguments (f : Formatter σ) (other : ArgumentStore) : Formatter σ :=
  { f with arguments := other }

/-- The pieces are the same but for texts of arguments, and nothing is said of the arguments rendered so
far. -/
def parallel (store other : ArgumentStore) : Likeness σ σ where
  piece := store.SamePiece other
  refl := .refl
  history := False
  world := (· = ·)

/-- If nobody looks at what was rendered before, texts of arguments are seen nowhere but in their own
pieces. -/
theorem twins_withArguments {f : Formatter σ} {other : ArgumentStore}
    (hf : IgnoresSiblings f.stringify) (halike : f.arguments.Alike other) :
    Twins (parallel f.arguments other) f (f.withArguments other) where
  arguments := by
    obtain ⟨hlength, hboth⟩ := List.forall₂_iff_get.mp halike
    refine List.forall₂_iff_get.mpr ⟨hlength, fun index hindex hindex' => ?_⟩
    refine ⟨hboth index hindex hindex', fun piece piece' hpiece hpiece' => ?_, False.elim⟩
    by_cases hsame : f.arguments.toList.get ⟨index, hindex⟩ = other.toList.get ⟨index, hindex'⟩
    · rw [hsame] at hpiece
      rw [← Option.some.inj (hpiece.symm.trans hpiece')]
      exact .refl piece
    · exact .ownText (List.getElem?_eq_getElem hindex) (List.getElem?_eq_getElem hindex') hsame
        hpiece hpiece'
  tokens := rfl
  printTree := rfl
  elideType := rfl
  showColors := rfl
  answer := fun request siblings _ => by
    have hsame : f.stringify { request with siblings } = f.stringify request := hf request siblings
    show Lockstep _ (f.stringify request) (f.stringify { request with siblings })
    rw [hsame]
    rintro s _ rfl
    exact ⟨rfl, rfl⟩

/-- No text of an argument is interpreted. If a template is read, and the stringifier does not look at
what was rendered before, the texts have no part in whether and how the rendering fails, nor in the
number of its pieces, nor in any piece but those that are the texts themselves. -/
theorem rendering_of_alike {f : Formatter σ} {other : ArgumentStore}
    (hf : IgnoresSiblings f.stringify) (halike : f.arguments.Alike other) {template : Json}
    (hread : ∀ text, template = .string text → f.finished? text = none) (world : σ) :
    ((f.formatValue template).perform world).1.map (fun _ => ()) =
        (((f.withArguments other).formatValue template).perform world).1.map (fun _ => ()) ∧
      Parallel f.arguments other ((f.rendering template).perform { world }).2
        (((f.withArguments other).rendering template).perform { world }).2 := by
  have htwins := twins_withArguments hf halike
  have hread' : ∀ text, template = .string text → (f.withArguments other).finished? text = none :=
    fun text htemplate => htwins.finished?_eq_none (hread text htemplate)
  obtain ⟨hout, hafter⟩ :=
    htwins.lockstep_rendering template { world } { world } ⟨.nil, False.elim, rfl, rfl⟩
  refine ⟨?_, hafter.pieces, hafter.tree, hafter.world⟩
  rw [formatValue_eq hread, formatValue_eq hread', message_outcome, message_outcome, hout]

/-- A choice, a comparison and a plural form, and arguments with the marks of templates in them. -/
def markedTemplate : Json :=
  .string "%select\x7b%1|%diff\x7b[$] [$]|\x7d1,2\x7d0%plural\x7b2:|:%3 of %4\x7d0"

/-- Arguments with the marks of templates in their texts. -/
def markedArguments : ArgumentStore :=
  ⟨[.unsigned 1, .text "%9|\x7d", .borrowedText (some "$%select\x7b"), .identifier (some "%0|"),
    .rich .type (.string "int")], by decide⟩

/-- The same arguments with other texts. -/
def plainArguments : ArgumentStore :=
  ⟨[.unsigned 1, .text "", .borrowedText (some "b"), .identifier (some "c"),
    .rich .type (.string "int")], by decide⟩

/-- A front end that quotes, with the marked arguments. -/
def markedFormatter : Formatter Unit where
  arguments := markedArguments
  stringify := Stringifier.quoting

/-- The marks of templates in the arguments are not read as such. -/
theorem rendering_of_marked :
    ((markedFormatter.formatValue markedTemplate).perform ()).1.map (fun _ => ()) =
        (((markedFormatter.withArguments plainArguments).formatValue markedTemplate).perform
          ()).1.map (fun _ => ()) ∧
      Parallel markedArguments plainArguments
        ((markedFormatter.rendering markedTemplate).perform { world := () }).2
        (((markedFormatter.withArguments plainArguments).rendering markedTemplate).perform
          { world := () }).2 := by
  have halike : markedFormatter.arguments.Alike plainArguments :=
    .cons (.same _) (.cons (.text _ _) (.cons (.borrowedText _ _) (.cons (.identifier _ _)
      (.cons (.same _) .nil))))
  have hread : ∀ text, markedTemplate = .string text → markedFormatter.finished? text = none := by
    rintro _ ⟨⟩
    decide
  exact rendering_of_alike (fun _ _ => rfl) halike hread ()

end Formatter

end Diagnostics
