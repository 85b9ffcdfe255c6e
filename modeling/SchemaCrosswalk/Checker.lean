import SchemaCrosswalk.CompatibilityMap
import SchemaCrosswalk.Overrides.Registry

/-!
# Checkers — whether a source type may populate a sink type

A checker decides casts by a compatibility map. Where the place of the source column is known, an
override of it replaces its declared type. Where the map does not distinguish parameters, a cast
that would lose length, precision or scale is refused.

- `Verdict`: the possible answers
- `Checker.check`: the answer for two types
- `Checker.sinkCandidates`: all sink types that a source type may populate
-/

namespace SchemaCrosswalk

/-- Why a source type may or may not populate a sink type. -/
inductive Verdict
  | directCast
  | widening
  | wildcard
  | narrowing
  | incompatible
  deriving DecidableEq, Repr

namespace Verdict

/-- Whether the cast is allowed. -/
def isCompatible : Verdict → Bool
  | .directCast | .widening | .wildcard => true
  | .narrowing | .incompatible => false

/-- The verdict in words. -/
def describe : Verdict → String
  | .directCast => "direct cast"
  | .widening => "widening cast"
  | .wildcard => "accepted from any type"
  | .narrowing => "narrows length or precision"
  | .incompatible => "incompatible"

end Verdict

/-- A compatibility map with the overrides in effect. -/
structure Checker where
  map : CompatibilityMap
  overrides : Option OverrideRegistry := none

namespace Checker

/-- The engine that types are read from. -/
def sourceEngine (c : Checker) : String := c.map.sourceEngine

/-- The engine that types are written to. -/
def sinkEngine (c : Checker) : String := c.map.sinkEngine

/-- The source type in effect at a place: overridden or declared. -/
def effectiveType (c : Checker) (declared : String) (place : Option ColumnContext) : String :=
  match place, c.overrides with
  | some p, some registry => registry.effectiveType p.table p.column declared
  | _, _ => declared

/-- The verdict on two canonical types. -/
def classify (m : CompatibilityMap) (source sink : CanonicalType) : Verdict :=
  if m.isDirectCast source sink then .directCast
  else if (m.widenings source).contains sink then .widening
  else if m.isWildcard sink then .wildcard
  else .incompatible

/-- The verdict on a source type at a place and a sink type. -/
def check (c : Checker) (sourceType sinkType : String) (place : Option ColumnContext) : Verdict :=
  let effective := c.effectiveType sourceType place
  let verdict := classify c.map (c.map.normalize effective .source) (c.map.normalize sinkType .sink)
  if verdict.isCompatible && c.map.stripsParameters && Spelling.narrows effective sinkType then
    .narrowing
  else verdict

/-- Whether a source type at a place may populate a sink type. -/
def isCompatible (c : Checker) (sourceType sinkType : String) (place : Option ColumnContext) :
    Bool :=
  (c.check sourceType sinkType place).isCompatible

/-- The sink types that a source type may populate: its direct cast, its widenings and the types
that accept any, each once. -/
def sinkCandidates (c : Checker) (sourceType : String) (place : Option ColumnContext) :
    List CanonicalType :=
  let source := c.map.normalize (c.effectiveType sourceType place) .source
  let all := (c.map.directTarget? source).toList ++ c.map.widenings source ++ c.map.wildcard.keys
  all.foldl (fun seen t => if seen.contains t then seen else seen ++ [t]) []

end Checker

end SchemaCrosswalk
