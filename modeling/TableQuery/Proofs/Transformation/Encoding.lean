import TableQuery.Agent.Encoding
import TableQuery.Proofs.Plan.Encoding
import TableQuery.Transformation.Encoding

/-! # Agents, transformations and changes that are read back

Agents and transformations have no numbers and are restored exactly from what they are encoded as.
A change is restored if the numbers in its cells are whole and without gaps.
-/

namespace TableQuery

open Json

variable {depth : Nat}

/-! ## Agents -/

namespace Agent

theorem toJson_eq (a : Agent) : a.toJson = .obj (membersOf [("id", some (.str a.id)),
    ("label", some (.str a.label)), ("icon", a.icon.map .str),
    ("promptTemplate", some (.str a.template)), ("scope", some (.str a.scope.name))]) := by
  simp [toJson, membersOf, memberIf]

theorem writesCompact_toJson (a : Agent) : WritesCompact (depth + 1) a.toJson := by
  rw [toJson_eq]
  refine .membersOf ?_
  simp [WritesCompact.str]

theorem decode?_toJson (a : Agent) : decode? a.toJson = some a := by
  have isScope : [("single", AgentScope.single), ("multi", .multi)].lookup a.scope.name =
      some a.scope := by
    cases a.scope <;> decide
  simp [decode?, toJson_eq, fields?_membersOf, str?, choice?, isScope]

end Agent

/-! ## Transformations -/

namespace Transformation

theorem toJson_eq (t : Transformation) : t.toJson = .obj (membersOf [("id", some (.str t.id)),
    ("label", some (.str t.label)), ("scope", some (.str t.scope.name)),
    ("targetColumn", t.targetColumn.map .str), ("promptTemplate", some (.str t.template)),
    ("preview", some (.bool t.preview))]) := by
  simp [toJson, membersOf, memberIf]

theorem writesCompact_toJson (t : Transformation) : WritesCompact (depth + 1) t.toJson := by
  rw [toJson_eq]
  refine .membersOf ?_
  simp [WritesCompact.str, WritesCompact.bool]

theorem decode?_toJson (t : Transformation) : decode? t.toJson = some t := by
  have isScope : scopes.lookup t.scope.name = some t.scope := by
    cases t.scope <;> decide
  simp [decode?, toJson_eq, fields?_membersOf, str?, bool?, choice?, isScope]

end Transformation

/-! ## Changes -/

namespace Change

variable {c : Change}

/-- The cells of a change. -/
def cells (c : Change) : List Cell := [c.oldValue, c.newValue]

theorem toJson_eq (c : Change) : c.toJson = .obj (membersOf [("rowIndex", some (.int c.rowIndex)),
    ("column", some (.str c.column)), ("oldValue", some c.oldValue.toJson),
    ("newValue", some c.newValue.toJson)]) := rfl

theorem writesCompact_toJson (areIntegers : ∀ cell ∈ c.cells, cell.IsInteger)
    (small : c.rowIndex < UInt64.size) : WritesCompact (depth + 1) c.toJson := by
  have old : WritesCompact depth c.oldValue.toJson :=
    Cell.writesCompact_toJson (areIntegers _ (by simp [cells]))
  have new : WritesCompact depth c.newValue.toJson :=
    Cell.writesCompact_toJson (areIntegers _ (by simp [cells]))
  rw [toJson_eq]
  refine .membersOf ?_
  simp [WritesCompact.str, WritesCompact.count small, old, new]

theorem restores_toJson (areIntegers : ∀ cell ∈ c.cells, cell.IsInteger)
    (small : c.rowIndex < UInt64.size) : Restores decode? c.toJson c := by
  obtain ⟨old, isOld, sameOld⟩ := Cell.restores_toJson (areIntegers c.oldValue (by simp [cells]))
  obtain ⟨new, isNew, sameNew⟩ := Cell.restores_toJson (areIntegers c.newValue (by simp [cells]))
  refine ⟨⟨c.rowIndex, c.column, old, new⟩, ?_, ?_⟩
  · simp [decode?, toJson_eq, fields?_membersOf, str?, word?_count small, isOld, isNew]
  · show (c.rowIndex == c.rowIndex && (c.column == c.column && (old == c.oldValue &&
      new == c.newValue))) = true
    simp [sameOld, sameNew]

end Change

end TableQuery
