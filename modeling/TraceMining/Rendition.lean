import TraceMining.Failure
import TraceMining.Value.Finite

/-
  This file defines renditions: documents that are about to
  leave the library, together with the open values in them.
  Numbers that are not finite leave as null, and an open value
  may only have so many levels.

  Key definitions include:
    * `Value.levels`
    * `Rendition`
    * `Rendition.ofList`
    * `Rendition.render`
-/

------------------------------------------------------------
-- Levels
------------------------------------------------------------

namespace TraceMining

namespace Value

mutual

/- How deep a value is; a scalar is one level. -/
def levels :
    Value → Nat
  | .list vs => 1 + itemLevels vs
  | .object fs => 1 + entryLevels fs
  | _ => 1

/- How deep the deepest item is. -/
def itemLevels :
    List Value → Nat
  | [] => 0
  | v :: vs => max (levels v) (itemLevels vs)

/- How deep the deepest entry is. -/
def entryLevels :
    List (String × Value) → Nat
  | [] => 0
  | (_, v) :: fs => max (levels v) (entryLevels fs)

end

end Value

end TraceMining

------------------------------------------------------------
-- Renditions
------------------------------------------------------------

namespace TraceMining

/- A document and the open values in it. -/
structure Rendition where
  document : Value
  parts : List Value

namespace Rendition

/- A document without open values. -/
def closed
    (v : Value) : Rendition :=
  { document := v
    parts := [] }

/- A document whose open values are those of some fields. -/
def ofFields
    (v : Value)
    (fs : Fields) : Rendition :=
  { document := v
    parts := fs.map Prod.snd }

/- Null for none. -/
def ofOption :
    Option Rendition → Rendition
  | some r => r
  | none => closed .null

/- A list of documents. -/
def ofList
    (rs : List Rendition) : Rendition :=
  { document := .list (rs.map document)
    parts := rs.flatMap parts }

/- An object with documents under its keys. -/
def ofEntries
    (rs : List (String × Rendition)) : Rendition :=
  { document := .object (rs.map fun r => (r.1, r.2.document))
    parts := rs.flatMap fun r => r.2.parts }

/- The most levels of an open value. -/
def mostLevels : Nat := 255

/- The document as it leaves. -/
def render
    (r : Rendition) : Except Failure Value :=
  if r.parts.all fun v => v.levels ≤ mostLevels then
    .ok r.document.finite
  else .error .tooDeep

end Rendition

end TraceMining
