import SchemaCrosswalk.Checker

/-!
# Checkers — overrides as a change of the declared type

Overrides take part in a check by the source type in effect and in no other way.

* `Checker.plain`: a checker without its overrides
* `Checker.isCompatible_plain`: it decides by the type in effect as the checker itself does by the
  declared one
-/

namespace SchemaCrosswalk

namespace Checker

/-- A checker without its overrides. -/
def plain (c : Checker) : Checker := { c with overrides := none }

theorem effectiveType_plain (c : Checker) (declared : String) (place : Option ColumnContext) :
    c.plain.effectiveType declared place = declared := by
  cases place <;> rfl

/-- Checking a declared type is checking the type in effect without overrides. -/
theorem isCompatible_plain (c : Checker) (declared sinkType : String)
    (place place' : Option ColumnContext) :
    c.plain.isCompatible (c.effectiveType declared place) sinkType place' =
      c.isCompatible declared sinkType place := by
  unfold isCompatible check
  rw [effectiveType_plain]
  rfl

end Checker

end SchemaCrosswalk
