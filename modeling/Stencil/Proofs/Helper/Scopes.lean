import Stencil.Proofs.Engine.Switches
import Stencil.Proofs.Helper.Switches
import Stencil.Proofs.Helper.Table

namespace Stencil

theorem Engine.rename_id (e : Engine) : e.rename id = e := by
  rw [Engine.rename, Value.rename_id]

namespace Helper

open Around Passage

end Helper

end Stencil
