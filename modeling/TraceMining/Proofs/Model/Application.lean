import TraceMining.Model.Application
import TraceMining.Proofs.Distinct

/-
  This file shows what becomes of the patterns of a session
  when they are assembled: nothing if there are none, and
  otherwise a model that tells how many patterns there are and
  of what types.  The number of a model and the time only show
  in its identity, in its date, and in the name that it has if
  none is given.

  Key definitions include:
    * `Application.stamped`

  Key theorems include:
    * `Application.assemble_nil`
    * `Application.exists_assemble_eq`
    * `Application.assemble_fields`
    * `Application.assemble_stamped`
-/

------------------------------------------------------------
-- Assembly
------------------------------------------------------------

namespace TraceMining

namespace Application

/-
  The model as it would be with another number and at another
  time, under a name that is given or not.
-/
def stamped
    (a : Application)
    (serial : Nat)
    (now : Int)
    (name : Option String) : Application :=
  { a with
    id := Identity.model serial
    name := chosen name ("App_" ++ Calendar.day now)
    generatedAt := now * 1000 }

variable {serial : Nat}
variable {now : Int}
variable {labels : Labels}
variable {sessionId : String}
variable {ps : List Pattern}

/- There is no model of no patterns. -/
@[simp] theorem assemble_nil :
    assemble serial now labels sessionId [] =
      .error (.noPatterns sessionId) :=
  rfl

/- There is one of any others. -/
theorem exists_assemble_eq
    (hSome : ps ≠ []) :
    ∃ a, assemble serial now labels sessionId ps = .ok a := by
  cases ps with
  | nil => exact absurd rfl hSome
  | cons p ps => exact ⟨_, rfl⟩

/- It tells what it was assembled from. -/
theorem assemble_fields
    {a : Application}
    (hModel :
      assemble serial now labels sessionId ps = .ok a) :
    a.id = Identity.model serial ∧
      a.sessionId = sessionId ∧
      a.patternCount = ps.length ∧
      a.patternTypes = (ps.map Pattern.type).eraseDups := by
  cases ps with
  | nil => cases hModel
  | cons p ps =>
      rw [← Distinct.texts_eq_eraseDups,
        ← Except.ok.inj hModel]
      exact ⟨rfl, rfl, rfl, rfl⟩

/- Number and time make no other difference. -/
theorem assemble_stamped
    (next : Nat)
    (later : Int) :
    assemble next later labels sessionId ps =
      (assemble serial now labels sessionId ps).map fun a =>
        a.stamped next later labels.name := by
  cases ps with
  | nil => rfl
  | cons p ps => rfl

end Application

end TraceMining
