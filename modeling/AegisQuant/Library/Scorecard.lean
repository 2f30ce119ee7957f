import Mathlib.Algebra.Order.Group.Int
import Mathlib.Tactic.Common

/-! Scorecards. A score is what a list of entries leaves of its starting
points: each entry takes points off and may then cap what is left. -/
namespace Scorecard

structure Entry where
  lost : Int
  cap : Option Int
  deriving DecidableEq, Repr

def Entry.keep : Entry := ⟨0, none⟩

def Entry.lose (points : Int) : Entry := ⟨points, none⟩

def Entry.loseIf (failed : Prop) [Decidable failed] (points : Int) : Entry :=
  if failed then .lose points else .keep

def Entry.loseToCap (points cap : Int) : Entry := ⟨points, some cap⟩

def Entry.apply (entry : Entry) (score : Int) : Int :=
  match entry.cap with
  | none => score - entry.lost
  | some cap => min (score - entry.lost) cap

def total (entries : List Entry) (start : Int) : Int :=
  entries.foldl (fun score entry => entry.apply score) start

@[simp] theorem Entry.apply_keep (score : Int) : Entry.keep.apply score = score := sub_zero score

@[simp] theorem Entry.apply_lose (points score : Int) :
    (Entry.lose points).apply score = score - points := rfl

@[simp] theorem Entry.apply_loseIf (failed : Prop) [Decidable failed] (points score : Int) :
    (Entry.loseIf failed points).apply score = score - if failed then points else 0 := by
  unfold Entry.loseIf
  split <;> simp

@[simp] theorem Entry.apply_loseToCap (points cap score : Int) :
    (Entry.loseToCap points cap).apply score = min (score - points) cap := rfl

@[simp] theorem total_nil (start : Int) : total [] start = start := rfl

@[simp] theorem total_cons (entry : Entry) (entries : List Entry) (start : Int) :
    total (entry :: entries) start = total entries (entry.apply start) := rfl

@[simp] theorem total_append (first second : List Entry) (start : Int) :
    total (first ++ second) start = total second (total first start) := List.foldl_append

end Scorecard
