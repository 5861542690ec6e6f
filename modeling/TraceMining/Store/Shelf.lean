import TraceMining.Model.Application
import TraceMining.Table

/-
  This file defines the shelf of models, each with the
  identities of the patterns that it was assembled from.

  Key definitions include:
    * `Shelf`
    * `Shelf.save`
    * `Shelf.patternIds`
-/

------------------------------------------------------------
-- Shelf
------------------------------------------------------------

namespace TraceMining

/- Models and the patterns behind them. -/
structure Shelf where
  models : Table Application
  sources : Table (List String)

namespace Shelf

/- The shelf before the first model. -/
def empty : Shelf :=
  { models := Table.empty
    sources := Table.empty }

/- Save a model with the patterns behind it. -/
def save
    (s : Shelf)
    (a : Application)
    (patternIds : List String) : Shelf :=
  { models := s.models.put a.id a
    sources := s.sources.put a.id patternIds }

/- The patterns behind a model; none if it is not known. -/
def patternIds
    (s : Shelf)
    (id : String) : List String :=
  (s.sources.get? id).getD []

end Shelf

end TraceMining
