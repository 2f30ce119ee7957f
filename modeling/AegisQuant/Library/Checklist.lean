import Mathlib.Tactic.Common

/-! Checklists. Entries are recorded in order, and the first gate that is not
passed ends the list with its reason. -/
namespace Checklist
universe u v
variable {Check : Type u} {Reason : Type v}

inductive Entry (Check : Type u) (Reason : Type v) where
  | record (check : Check)
  | gate (passed : Bool) (reason : Reason)

def Entry.passed : Entry Check Reason → Bool
  | .record _ => true
  | .gate passed _ => passed

/-- Everything recorded until the list ends, and the reason a gate ended it
with. -/
def run : List (Entry Check Reason) → List Check → List Check × Option Reason
  | [], recorded => (recorded, none)
  | .record check :: rest, recorded => run rest (recorded ++ [check])
  | .gate passed reason :: rest, recorded =>
    if passed then run rest recorded else (recorded, some reason)

def allPassed (entries : List (Entry Check Reason)) : Bool := entries.all Entry.passed

@[simp] theorem allPassed_nil : allPassed ([] : List (Entry Check Reason)) = true := rfl

@[simp] theorem allPassed_cons (entry : Entry Check Reason) (rest : List (Entry Check Reason)) :
    allPassed (entry :: rest) = (entry.passed && allPassed rest) := rfl

@[simp] theorem allPassed_append (first second : List (Entry Check Reason)) :
    allPassed (first ++ second) = (allPassed first && allPassed second) := List.all_append

@[simp] theorem passed_record (check : Check) :
    (Entry.record check : Entry Check Reason).passed = true := rfl

@[simp] theorem passed_gate (passed : Bool) (reason : Reason) :
    (Entry.gate passed reason : Entry Check Reason).passed = passed := rfl

/-- A list ends without a reason when all its gates are passed. -/
theorem run_snd_eq_none_iff (entries : List (Entry Check Reason)) (recorded : List Check) :
    (run entries recorded).2 = none ↔ allPassed entries = true := by
  induction entries generalizing recorded with
  | nil => exact iff_of_true rfl rfl
  | cons entry rest ih =>
    cases entry with
    | record check => simpa only [run, allPassed_cons, passed_record, Bool.true_and] using ih _
    | gate passed reason =>
      cases passed with
      | true => simpa only [run, allPassed_cons, passed_gate, Bool.true_and, if_true] using ih _
      | false => simp [run]

end Checklist
