import Stencil.Text.Basic

namespace Stencil.Text

/-- Texts in the order of their code points. Each goes behind those that are smaller. -/
def sorted (ts : List Text) : List Text :=
  ts.foldr (fun t others => others.takeWhile (· < t) ++ t :: others.dropWhile (· < t)) []

end Stencil.Text
