import Stencil.Proofs.Engine.Mirror

namespace Stencil

theorem Cell.rename_id (c : Cell) : c.rename id = c := by
  cases c with
  | list vs => rw [Cell.rename, ← Value.renameItems_eq_map, Value.renameItems_id]
  | dict es => rw [Cell.rename, Value.renameAt_id, List.map_id]

namespace Act

variable {α β : Type} {a : Act α} {b : Act β}

end Act

end Stencil
