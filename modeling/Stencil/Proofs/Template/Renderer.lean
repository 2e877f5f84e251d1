import Stencil.Proofs.Helper.Table
import Stencil.Template.Renderer

namespace Stencil

open Act (Mirrors)

/-- The surroundings of two templates are the same but for the names of cells. -/
structure Surroundings.Mirrored (ρ : Nat → Nat) (x x' : Surroundings) : Prop where
  call : ∀ h ∈ Helper.all, ∀ a a' : Helper.Arguments, a.Mirrored ρ a' → ∀ data,
    Mirrors ρ (Value.rename ρ) (x.call data h a) (x'.call (data.rename ρ) h a')
  autoescape : x'.autoescape = x.autoescape
  partials : x'.partials = x.partials

theorem Engine.mirrored_surroundings {ρ : Nat → Nat} (inj : Function.Injective ρ) {e : Engine}
    (blind : ∀ p ∈ e.parser, SourceParser.IsBlindTo ρ p) :
    e.surroundings.Mirrored ρ (e.rename ρ).surroundings where
  call _ hmem _ _ ha data := Helper.mirrors_call inj blind hmem ha data
  autoescape := rfl
  partials := rfl

/-- A source, among some partials, in a template language that does not tell cells by their names there.
The language may have a value in which it keeps what it needs from one rendering to the next. The
rendering reads and changes what it reaches from this value, from the names it is given and through
helpers, and shows or does nothing that depends on where this is stored. -/
def Renderer.IsBlindOn (language : Value → Renderer) (partials : List (Text × Text)) (source : Text) :
    Prop :=
  ∀ {ρ : Nat → Nat}, Function.Injective ρ → ∀ {x x' : Surroundings}, x.Mirrored ρ x' →
    x.partials = partials → ∀ kept given, Mirrors ρ id (language kept x source given)
      (language (kept.rename ρ) x' source (given.map (Value.renameAt ρ)))

end Stencil
