import Mathlib.Data.List.Forall2
import PropertyMacros.CommandLine.Scan

/-!
Assignments on a command line. An argument is an assignment unless it has no equals sign or starts
with one, and of several arguments the first that is none decides the error.
-/

namespace PropertyMacros

/-- Up to its first equals sign the argument is the attribute, behind it the value. -/
structure IsAssignment (arg attr value : String) : Prop where
  eq_append : arg = attr ++ "=" ++ value
  no_equals : '=' ∉ attr.toList
  attr_ne : attr ≠ ""

/-- The argument has no equals sign, or starts with one. -/
def IsMalformed (arg : String) : Prop := '=' ∉ arg.toList ∨ arg.toList.head? = some '='

instance : DecidablePred IsMalformed := fun _ => inferInstanceAs (Decidable (_ ∨ _))

theorem readAssignment_of_isAssignment {arg attr value : String}
    (h : IsAssignment arg attr value) : readAssignment arg = .ok (attr, value) := by
  obtain ⟨rfl, hequals, hne⟩ := h
  have hsplit : Text.splitFirst? '=' (attr ++ "=" ++ value).toList =
      some (attr.toList, value.toList) := by
    rw [String.toList_append, String.toList_append, List.append_assoc]
    exact Text.splitFirst?_append hequals value.toList
  rw [readAssignment, hsplit]
  cases hattr : attr.toList with
  | nil => exact absurd (String.toList_inj.mp hattr) hne
  | cons c rest => simp only [← hattr, String.ofList_toList]

theorem readAssignment_of_isMalformed {arg : String} (h : IsMalformed arg) :
    readAssignment arg = .error (.invalidAssignment arg) := by
  unfold readAssignment
  rcases h with hnone | hhead
  · rw [Text.splitFirst?_eq_none_iff.mpr hnone]
  · obtain ⟨rest, hrest⟩ := List.head?_eq_some_iff.mp hhead
    rw [hrest]
    rfl

theorem exists_isAssignment {arg : String} (h : ¬IsMalformed arg) :
    ∃ attr value, IsAssignment arg attr value := by
  unfold IsMalformed at h
  push Not at h
  obtain ⟨hmem, hhead⟩ := h
  cases hsplit : Text.splitFirst? '=' arg.toList with
  | none => exact absurd hmem (Text.splitFirst?_eq_none_iff.mp hsplit)
  | some parts =>
      obtain ⟨before, after⟩ := parts
      obtain ⟨heq, hequals⟩ := Text.splitFirst?_eq_some_iff.mp hsplit
      refine ⟨String.ofList before, String.ofList after, ?_, ?_, ?_⟩
      · rw [← String.toList_inj]
        simpa using heq
      · simpa using hequals
      · intro hbefore
        have hnil : before = [] := by simpa [← String.toList_inj] using hbefore
        exact hhead (by rw [heq, hnil]; rfl)

theorem exists_forall₂_isAssignment {args : List String} (h : ∀ arg ∈ args, ¬IsMalformed arg) :
    ∃ pairs : List (String × String),
      List.Forall₂ (fun arg pair => IsAssignment arg pair.1 pair.2) args pairs := by
  induction args with
  | nil => exact ⟨[], .nil⟩
  | cons arg args ih =>
      obtain ⟨harg, hargs⟩ := List.forall_mem_cons.mp h
      obtain ⟨attr, value, hassignment⟩ := exists_isAssignment harg
      obtain ⟨pairs, hpairs⟩ := ih hargs
      exact ⟨(attr, value) :: pairs, .cons hassignment hpairs⟩

namespace CommandLine.Scan

theorem readAssignments_append (args args' : List String) :
    readAssignments (args ++ args') =
      (readAssignments args).bind fun pairs => (readAssignments args').map (pairs ++ ·) := by
  unfold readAssignments
  rw [List.mapM_append]
  cases args.mapM readAssignment with
  | error error => rfl
  | ok pairs => cases args'.mapM readAssignment <;> rfl

theorem readAssignments_cons (arg : String) (args : List String) :
    readAssignments (arg :: args) =
      (readAssignments [arg]).bind fun pairs => (readAssignments args).map (pairs ++ ·) :=
  readAssignments_append [arg] args

theorem readAssignments_eq_ok {args : List String} {pairs : List (String × String)}
    (h : List.Forall₂ (fun arg pair => IsAssignment arg pair.1 pair.2) args pairs) :
    readAssignments args = .ok pairs := by
  induction h with
  | nil => rfl
  | cons harg _ ih =>
      rw [readAssignments_cons, ih, readAssignments, List.mapM_cons,
        readAssignment_of_isAssignment harg]
      rfl

theorem readAssignments_eq_error {args : List String} {arg : String}
    (h : args.find? (IsMalformed ·) = some arg) :
    readAssignments args = .error (.invalidAssignment (.invalidAssignment arg)) := by
  induction args with
  | nil => cases h
  | cons arg' args ih =>
      rw [readAssignments_cons]
      rw [List.find?_cons] at h
      by_cases hmalformed : IsMalformed arg'
      · rw [decide_eq_true hmalformed] at h
        cases h
        rw [readAssignments, List.mapM_cons, readAssignment_of_isMalformed hmalformed]
        rfl
      · rw [decide_eq_false hmalformed] at h
        obtain ⟨attr, value, hassignment⟩ := exists_isAssignment hmalformed
        have hhead : readAssignments [arg'] = .ok [(attr, value)] :=
          readAssignments_eq_ok (.cons hassignment .nil)
        rw [hhead, ih h]
        rfl

end CommandLine.Scan

end PropertyMacros
