import TraceMining.Decimal.Rounded
import TraceMining.Distinct
import TraceMining.Failure
import TraceMining.Model.Application
import TraceMining.Pattern
import TraceMining.Table

/-
  This file defines the archive of patterns, in the order in
  which their identities first came, and how it is browsed:
  by session, by filters and pages, and in figures.

  Key definitions include:
    * `Archive`
    * `Archive.WriteFault`
    * `Archive.saveAll`
    * `Archive.bySession`
    * `Archive.Query`
    * `Archive.query`
    * `Archive.statistics`
-/

------------------------------------------------------------
-- Archive
------------------------------------------------------------

namespace TraceMining

/- Patterns under their identities. -/
abbrev Archive :=
  Table Pattern

namespace Archive

/-
  For which sessions the archive refuses patterns, and
  whether it writes the first of a batch before it does.
-/
structure WriteFault where
  sessions : List String
  afterFirst : Bool
  deriving DecidableEq, Repr

/- An archive that refuses nothing. -/
def WriteFault.none : WriteFault :=
  { sessions := []
    afterFirst := false }

/- The cause that a refusal gives. -/
def diskFull : Failure :=
  .storage "disk full"

/- Write patterns, each in place of the one it replaces. -/
def write
    (a : Archive)
    (ps : List Pattern) : Archive :=
  Table.putAll Pattern.id a ps

/- The batch holds a pattern of a session that is refused. -/
def WriteFault.refuses
    (fault : WriteFault)
    (ps : List Pattern) : Bool :=
  ps.any fun p => fault.sessions.contains p.sessionId

/- Save a batch, unless the archive refuses it. -/
def saveAll
    (a : Archive)
    (fault : WriteFault)
    (ps : List Pattern) : Except Failure Unit × Archive :=
  if fault.refuses ps then
    (.error diskFull,
      a.write (if fault.afterFirst then ps.take 1 else []))
  else (.ok (), a.write ps)

end Archive

end TraceMining

------------------------------------------------------------
-- Browsing
------------------------------------------------------------

namespace TraceMining

namespace Archive

/- Patterns by start; simultaneous ones keep their order. -/
def byStart
    (ps : List Pattern) : List Pattern :=
  ps.mergeSort fun p q => decide (p.startTime ≤ q.startTime)

/- Patterns by start, the latest first. -/
def byStartDown
    (ps : List Pattern) : List Pattern :=
  ps.mergeSort fun p q => decide (q.startTime ≤ p.startTime)

/- The patterns of a session by start. -/
def bySession
    (a : Archive)
    (sessionId : String) : List Pattern :=
  byStart (a.values.filter fun p => p.sessionId == sessionId)

/- The sessions that have patterns. -/
def sessionIds
    (a : Archive) : List String :=
  Distinct.texts (a.values.map Pattern.sessionId)

/- What is asked of the archive. -/
structure Query where
  sessionId : Option String
  type : Option String
  minConfidence : Float
  limit : Int
  offset : Int

/- What is asked where nothing is said. -/
def Query.default : Query :=
  { sessionId := none
    type := none
    minConfidence := 0
    limit := 100
    offset := 0 }

/- A pattern passes the filters of a query. -/
def Query.admits
    (q : Query)
    (p : Pattern) : Bool :=
  (match q.sessionId with
    | some s => p.sessionId == s
    | none => true) &&
  (match q.type with
    | some t => p.type == t
    | none => true) &&
  decide (q.minConfidence ≤ p.confidence)

/- A place in a list; a negative one counts from the end. -/
def place
    (n : Nat)
    (i : Int) : Nat :=
  if i < 0 then (i + n).toNat else i.toNat

/- The part of a list between two places. -/
def window
    {α : Type}
    (as : List α)
    (start : Int)
    (stop : Int) : List α :=
  (as.take (place as.length stop)).drop
    (place as.length start)

/- The patterns that a query asks for, the latest first. -/
def query
    (a : Archive)
    (q : Query) : List Pattern :=
  window (byStartDown (a.values.filter q.admits))
    q.offset (q.offset + q.limit)

end Archive

end TraceMining

------------------------------------------------------------
-- Figures
------------------------------------------------------------

namespace TraceMining

namespace Archive

/- How many patterns a type has, and their mean confidence. -/
structure TypeFigures where
  type : String
  count : Nat
  meanConfidence : Float

/- The figures of an archive. -/
structure Statistics where
  total : Nat
  types : List TypeFigures
  meanConfidence : Float

/- A mean to four places; that of nothing is zero. -/
def roundedMean
    (ps : List Pattern) : Float :=
  match Pattern.meanConfidence ps with
  | .ok x => Decimal.rounded 4 x
  | .error _ => 0

/- The patterns of each type, in order of appearance. -/
def byType
    (a : Archive) : Table (List Pattern) :=
  a.values.foldl
    (fun t p => t.adjust p.type [] fun ps => ps ++ [p])
    Table.empty

/- The figures of a type. -/
def TypeFigures.ofGroup
    (group : String × List Pattern) : TypeFigures :=
  { type := group.1
    count := group.2.length
    meanConfidence := roundedMean group.2 }

/- The figures, the most frequent types first. -/
def statistics
    (a : Archive) : Statistics :=
  { total := a.values.length
    types :=
      ((byType a).entries.map TypeFigures.ofGroup).mergeSort
        fun r s => decide (s.count ≤ r.count)
    meanConfidence := roundedMean a.values }

/- The figures of a type as a document. -/
def TypeFigures.toValue
    (f : TypeFigures) : Value :=
  .object
    [ ("type", .text f.type)
    , ("count", .int f.count)
    , ("avg_confidence", .float f.meanConfidence) ]

/- The figures of an archive as a document. -/
def Statistics.toValue
    (s : Statistics) : Value :=
  .object
    [ ("total_patterns", .int s.total)
    , ("patterns_by_type", .list (s.types.map TypeFigures.toValue))
    , ("avg_confidence", .float s.meanConfidence) ]

end Archive

end TraceMining
