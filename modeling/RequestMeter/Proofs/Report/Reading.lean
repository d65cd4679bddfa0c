/-
Reading the count of requests back from a report.

The count is the first member of the report, and its digits end at the first comma, so the text
tells it without the members behind it having to be understood (`totalRequests?_json`).
-/
import RequestMeter.Report.Json
import Mathlib.Data.List.Basic
import Std.Data.String.ToNat

namespace RequestMeter.Report

/-- The text of the first of several members, if it has that name: it ends at the first comma. -/
def firstMember? (name text : String) : Option String :=
  let lead := ("\x7b\"" ++ name ++ "\":").toList
  if lead.isPrefixOf text.toList then
    some (.ofList ((text.toList.drop lead.length).takeWhile (· != ',')))
  else none

/-- The number of requests that a report tells. -/
def totalRequests? (report : String) : Option Nat :=
  (firstMember? "total_requests" report).bind String.toNat?

private theorem object_cons_toList (name value : String) {rest : List (String × String)}
    (h : rest ≠ []) :
    ∃ tail, (object ((name, value) :: rest)).toList =
      ("\x7b\"" ++ name ++ "\":").toList ++ (value.toList ++ ',' :: tail) := by
  obtain ⟨next, later, rfl⟩ := List.exists_cons_of_ne_nil h
  unfold object
  rw [List.map_cons, List.map_cons, String.intercalate_cons_cons]
  exact ⟨_, by simp only [String.toList_append, List.append_assoc]; rfl⟩

/-- The first member of an object is read back if its text has no comma. -/
theorem firstMember?_object (name : String) {value : String} (hvalue : ',' ∉ value.toList)
    {rest : List (String × String)} (h : rest ≠ []) :
    firstMember? name (object ((name, value) :: rest)) = some value := by
  obtain ⟨tail, htext⟩ := object_cons_toList name value h
  have hnone : ∀ c ∈ value.toList, (c != ',') = true := by
    intro c hc
    rw [bne_iff_ne]
    rintro rfl
    exact hvalue hc
  have hends : (value.toList ++ ',' :: tail).takeWhile (· != ',') = value.toList := by
    rw [List.takeWhile_append_of_pos hnone]
    simp
  unfold firstMember?
  rw [htext, if_pos (List.isPrefixOf_iff_prefix.mpr (List.prefix_append ..)), List.drop_left,
    hends, String.ofList_toList]

private theorem comma_notMem_repr (n : Nat) : ',' ∉ n.repr.toList := by
  intro h
  rw [Nat.repr, String.toList_ofList] at h
  exact absurd (Nat.isDigit_of_mem_toDigits (by decide : 0 < 10) (by decide) h) (by decide)

/-- A report tells the number of requests of its snapshot. -/
theorem totalRequests?_json (s : Snapshot) : totalRequests? s.json = some s.requests := by
  have hfirst : firstMember? "total_requests" s.json = some (toString s.requests) :=
    firstMember?_object "total_requests" (comma_notMem_repr s.requests) (by simp)
  rw [totalRequests?, hfirst]
  exact Nat.toNat?_repr s.requests

end RequestMeter.Report
