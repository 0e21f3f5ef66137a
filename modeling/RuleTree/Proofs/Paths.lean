import RuleTree.Field

/-!
Paths into a record. Splitting a text at dots turns a dot between two texts into the end of one list of
steps and the start of the next, whatever the texts are: empty, or with dots of their own. So a path
that is joined from two is followed by following one after the other. A field is looked up along its
path, except in a record that is no object: there a field without a dot is not found, even where its text
is an index (`paths_compose`).
-/

namespace RuleTree

namespace Json

variable {record : Json} {name : String}

theorem atPath?_join (p q : String) (record : Json) :
    record.atPath? (p ++ "." ++ q) = (record.atPath? p).bind fun v => v.atPath? q := by
  have hjoined : (p ++ "." ++ q).toList = p.toList ++ '.' :: q.toList := by simp
  rw [atPath?, hjoined, splitAt_append, along?_append]
  rfl

/-- A name without a dot is a path of one step. -/
theorem atPath?_of_no_dot (h : '.' ∉ name.toList) :
    record.atPath? name = record.step? name.toList := by
  rw [atPath?, splitAt_of_not_mem h]
  exact Option.bind_fun_some _

theorem step?_of_isObject (h : record.isObject = true) (name : String) :
    record.step? name.toList = record.get? name := by
  cases record with
  | object members => rw [step?, get?, String.ofList_toList]
  | _ => cases h

theorem field?_of_dot (h : '.' ∈ name.toList) : record.field? name = record.atPath? name :=
  if_pos (List.contains_iff_mem.mpr h)

theorem field?_of_no_dot (h : '.' ∉ name.toList) : record.field? name = record.get? name :=
  if_neg (mt List.contains_iff_mem.mp h)

theorem field?_of_isObject (h : record.isObject = true) (name : String) :
    record.field? name = record.atPath? name := by
  by_cases hdot : '.' ∈ name.toList
  · exact field?_of_dot hdot
  · rw [field?_of_no_dot hdot, atPath?_of_no_dot hdot, step?_of_isObject h]

theorem get?_of_isObject_eq_false (h : record.isObject = false) (name : String) :
    record.get? name = none := by
  cases record with
  | object members => cases h
  | _ => rfl

/-- **Paths compose.** What is found at two paths joined by a dot is what is found at the second in what is
found at the first. In an object a field is what is found at its path; in any other record a field without
a dot is not found. -/
theorem paths_compose (record : Json) :
    (∀ p q, record.atPath? (p ++ "." ++ q) = (record.atPath? p).bind fun v => v.atPath? q) ∧
    (record.isObject = true → ∀ name, record.field? name = record.atPath? name) ∧
    (record.isObject = false → ∀ name, '.' ∉ name.toList → record.field? name = none) := by
  refine ⟨fun p q => atPath?_join p q record, field?_of_isObject, fun h name hdot => ?_⟩
  rw [field?_of_no_dot hdot, get?_of_isObject_eq_false h]

/-- An object with an empty key, a key with a dot and an array below them. -/
def nestedRecord : Json :=
  .object [("", .object [("", .array [.null, .object [("x", .bool true)]])]), (".", .null)]

/-- The key with a dot is not found, since its name is a path of two empty steps. An array has an item at
the path `1`, but no field of that name. -/
theorem nestedRecord_paths :
    let items := Json.array [.null, .object [("x", .bool true)]]
    nestedRecord.isObject = true ∧ items.isObject = false ∧
      nestedRecord.field? "." = some items ∧ nestedRecord.atPath? "..+01.x" = some (.bool true) ∧
      nestedRecord.atPath? "..18446744073709551616.x" = none ∧
      items.atPath? "1" = some (.object [("x", .bool true)]) ∧ items.field? "1" = none := by
  intro items
  have hobject : nestedRecord.isObject = true := rfl
  have harray : items.isObject = false := rfl
  obtain ⟨hcompose, hfield, _⟩ := paths_compose nestedRecord
  obtain ⟨_, _, hmissing⟩ := paths_compose items
  have hitems : nestedRecord.atPath? "." = some items := rfl
  refine ⟨hobject, harray, (hfield hobject ".").trans hitems, ?_, ?_, rfl,
    hmissing harray "1" (by decide)⟩
  · rw [show "..+01.x" = "." ++ "." ++ "+01.x" from rfl, hcompose, hitems]
    rfl
  · rw [show "..18446744073709551616.x" = "." ++ "." ++ "18446744073709551616.x" from rfl, hcompose, hitems]
    rfl

end Json

end RuleTree
