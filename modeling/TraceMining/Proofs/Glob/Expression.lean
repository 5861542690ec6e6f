import Mathlib.Data.List.Basic

/-
  This file defines expressions, a notation for texts.  A dot
  stands for any character, line feeds included, and a star
  for any number of what stands before it; a caret asks for
  the front of the text, and a dollar for its end or the place
  before a line feed at its end.  A backslash makes the
  character behind it stand for itself.

  Key definitions include:
    * `Expression.Part`
    * `Expression.read?`
    * `Expression.escaped`
    * `Expression.matchesAt`

  Key theorems include:
    * `Expression.symbols?_escaped`
    * `Expression.runs_any_iff`
    * `Expression.matchesAt_literal_iff`
-/

------------------------------------------------------------
-- Notation
------------------------------------------------------------

namespace TraceMining

namespace Expression

/- What one character may be. -/
inductive Atom where
  | same (c : Char)
  | any
  deriving DecidableEq, Repr

/- What one sign of an expression says. -/
inductive Symbol where
  | one (a : Atom)
  | star
  | front
  | back
  deriving DecidableEq, Repr

/- What an expression asks for, part by part. -/
inductive Part where
  | once (a : Atom)
  | many (a : Atom)
  | front
  | back
  deriving DecidableEq, Repr

/- Signs of groups, choices and counts, which are not read. -/
def unread : List Char :=
  ['(', ')', '[', '\x7b', '?', '+', '|', '\\']

/- What a sign says that has no backslash before it. -/
def Symbol.ofChar?
    (c : Char) : Option Symbol :=
  if c = '.' then some (.one .any)
  else if c = '*' then some .star
  else if c = '^' then some .front
  else if c = '$' then some .back
  else if c ∈ unread then none
  else some (.one (.same c))

/- The signs of an expression. -/
def symbols? :
    List Char → Option (List Symbol)
  | [] => some []
  | '\\' :: c :: cs =>
      if c.isAlphanum then none
      else (symbols? cs).map (.one (.same c) :: ·)
  | c :: cs =>
      match Symbol.ofChar? c with
      | none => none
      | some s => (symbols? cs).map (s :: ·)

/-
  The parts that signs make up.  A star has to stand behind
  what one character may be.
-/
def parts? :
    List Symbol → Option (List Part)
  | [] => some []
  | .one a :: .star :: ss => (parts? ss).map (.many a :: ·)
  | .one a :: ss => (parts? ss).map (.once a :: ·)
  | .front :: ss => (parts? ss).map (.front :: ·)
  | .back :: ss => (parts? ss).map (.back :: ·)
  | .star :: _ => none

/- The parts of an expression, if it is one. -/
def read?
    (cs : List Char) : Option (List Part) :=
  (symbols? cs).bind parts?

end Expression

end TraceMining

------------------------------------------------------------
-- Escapes
------------------------------------------------------------

namespace TraceMining

namespace Expression

/- The characters that are written with a backslash. -/
def special : List Char :=
  [ '(', ')', '[', ']', '\x7b', '\x7d', '?', '*', '+', '-'
  , '|', '^', '$', '\\', '.', '&', '~', '#', ' ', '\t', '\n'
  , '\r', '\x0b', '\x0c' ]

/- A character as it is written to stand for itself. -/
def escaped
    (c : Char) : List Char :=
  if c ∈ special then ['\\', c] else [c]

/- No letter and no digit needs a backslash. -/
theorem isAlphanum_of_mem_special
    {c : Char}
    (hSpecial : c ∈ special) :
    c.isAlphanum = false := by
  have hAll :
      (special.all fun d => !d.isAlphanum) = true := by
    decide
  have hHere := List.all_eq_true.mp hAll c hSpecial
  simpa using hHere

/- A character that needs none says what it is. -/
theorem ofChar?_of_not_mem_special
    {c : Char}
    (hPlain : c ∉ special) :
    Symbol.ofChar? c = some (.one (.same c)) := by
  have hSigns :
      ['.', '*', '^', '$'] ++ unread ⊆ special := by
    unfold unread special
    simp
  have hOther :
      ∀ d ∈ ['.', '*', '^', '$'] ++ unread, c ≠ d := by
    intro d hSign hSame
    exact hPlain (hSame ▸ hSigns hSign)
  have hUnread : c ∉ unread := by
    intro hMember
    exact hOther c (List.mem_append_right _ hMember) rfl
  unfold Symbol.ofChar?
  rw [if_neg (hOther '.' (by simp)),
    if_neg (hOther '*' (by simp)),
    if_neg (hOther '^' (by simp)),
    if_neg (hOther '$' (by simp)), if_neg hUnread]

/- What is escaped is read as standing for itself. -/
theorem symbols?_escaped
    (c : Char)
    (cs : List Char) :
    symbols? (escaped c ++ cs) =
      (symbols? cs).map (.one (.same c) :: ·) := by
  unfold escaped
  by_cases hSpecial : c ∈ special
  · have hSign := isAlphanum_of_mem_special hSpecial
    rw [if_pos hSpecial]
    simp [symbols?, hSign]
  · have hNoEscape : c ≠ '\\' := by
      intro hSame
      exact hSpecial (hSame ▸ by decide)
    rw [if_neg hSpecial]
    simp [symbols?, hNoEscape,
      ofChar?_of_not_mem_special hSpecial]

end Expression

end TraceMining

------------------------------------------------------------
-- Matching
------------------------------------------------------------

namespace TraceMining

namespace Expression

/- The character may be this one. -/
def Atom.accepts :
    Atom → Char → Bool
  | .same b, c => b == c
  | .any, _ => true

/-
  A run of characters, each accepted, can be taken so that the
  rest of the text passes a test.  Longer runs are tried
  before shorter ones.
-/
def runs
    (a : Atom)
    (test : Nat → List Char → Bool) :
    Nat → List Char → Bool
  | i, [] => test i []
  | i, c :: cs =>
      (a.accepts c && runs a test (i + 1) cs) ||
        test i (c :: cs)

/- The parts are found, one after another, from a place on. -/
def matchesAt :
    List Part → Nat → List Char → Bool
  | [], _, _ => true
  | .once _ :: _, _, [] => false
  | .once a :: ps, i, c :: cs =>
      a.accepts c && matchesAt ps (i + 1) cs
  | .many a :: ps, i, cs => runs a (matchesAt ps) i cs
  | .front :: ps, i, cs => i == 0 && matchesAt ps i cs
  | .back :: ps, i, cs =>
      (cs == [] || cs == ['\n']) && matchesAt ps i cs

/- A run of any characters is some front of the text. -/
theorem runs_any_iff
    (test : Nat → List Char → Bool)
    (i : Nat)
    (cs : List Char) :
    runs .any test i cs = true ↔
      ∃ run rest, cs = run ++ rest ∧
        test (i + run.length) rest = true := by
  induction cs generalizing i with
  | nil =>
      constructor
      · intro hTest
        exact ⟨[], [], rfl, hTest⟩
      · intro hSplit
        rcases hSplit with ⟨run, rest, hNil, hTest⟩
        rcases List.append_eq_nil_iff.mp hNil.symm with
          ⟨hRun, hRest⟩
        rw [hRun, hRest] at hTest
        exact hTest
  | cons c cs ih =>
      simp only [runs, Atom.accepts, Bool.true_and,
        Bool.or_eq_true, ih]
      constructor
      · intro hTest
        rcases hTest with ⟨run, rest, hSplit, hTest⟩ | hTest
        · refine ⟨c :: run, rest, by simp [hSplit], ?_⟩
          rw [List.length_cons, Nat.add_comm run.length,
            ← Nat.add_assoc]
          exact hTest
        · exact ⟨[], c :: cs, rfl, hTest⟩
      · intro hSplit
        rcases hSplit with ⟨run, rest, hSplit, hTest⟩
        cases run with
        | nil =>
            rw [List.nil_append] at hSplit
            rw [← hSplit] at hTest
            exact Or.inr hTest
        | cons b run =>
            rw [List.cons_append, List.cons.injEq] at hSplit
            rw [List.length_cons, Nat.add_comm run.length,
              ← Nat.add_assoc] at hTest
            exact Or.inl ⟨run, rest, hSplit.2, hTest⟩

/- Characters that stand for themselves have to come first. -/
theorem matchesAt_literal_iff
    (l : List Char)
    (ps : List Part)
    (i : Nat)
    (cs : List Char) :
    matchesAt (l.map (fun c => .once (.same c)) ++ ps) i cs =
        true ↔
      ∃ rest, cs = l ++ rest ∧
        matchesAt ps (i + l.length) rest = true := by
  induction l generalizing i cs with
  | nil => simp
  | cons b l ih =>
      cases cs with
      | nil => simp [matchesAt]
      | cons c cs =>
          simp only [List.map_cons, List.cons_append,
            matchesAt, Atom.accepts, Bool.and_eq_true,
            beq_iff_eq, ih, List.cons.injEq,
            List.length_cons, Nat.add_comm l.length,
            ← Nat.add_assoc]
          constructor
          · intro hSplit
            rcases hSplit with ⟨hSame, rest, hSplit, hRest⟩
            exact ⟨rest, ⟨hSame.symm, hSplit⟩, hRest⟩
          · intro hSplit
            rcases hSplit with ⟨rest, ⟨hSame, hSplit⟩, hRest⟩
            exact ⟨hSame.symm, rest, hSplit, hRest⟩

end Expression

end TraceMining
