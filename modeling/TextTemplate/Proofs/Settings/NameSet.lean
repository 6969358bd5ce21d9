/-
Sets of names keep the first of each name. After any additions a set holds the names it was given
that are not empty, each where it first came (`firsts`), and its index holds the same names:
`NameSet.Holds` is kept by every addition.
-/
import TextTemplate.Proofs.Settings.Resolution

namespace TextTemplate

/-- The names that are not empty, each where it first comes. -/
def firsts (names : List Text) : List Text := (names.filter (· ≠ [])).eraseDups

theorem nodup_firsts (names : List Text) : (firsts names).Nodup := nodup_eraseDups _

theorem mem_firsts {names : List Text} {name : Text} :
    name ∈ firsts names ↔ name ∈ names ∧ name ≠ [] := by
  simp [firsts]

/-- A name that comes later is added if it is not empty and new. -/
theorem firsts_concat (names : List Text) (name : Text) :
    firsts (names ++ [name]) =
      if name = [] ∨ name ∈ firsts names then firsts names else firsts names ++ [name] := by
  by_cases hempty : name = []
  · simp [firsts, hempty]
  · rw [firsts, List.filter_append, List.eraseDups_append, ← firsts]
    by_cases hmem : name ∈ firsts names
    · have hbefore : name ∈ names := (mem_firsts.1 hmem).1
      simp [hempty, hmem, hbefore, List.removeAll]
    · have hbefore : name ∉ names := fun h => hmem (mem_firsts.2 ⟨h, hempty⟩)
      simp [hempty, hmem, hbefore, List.removeAll, List.eraseDups_cons]

namespace NameSet

variable {s : NameSet} {given names : List Text} {name : Text}

/-- Whether a set is what the names given make of the empty one: it lists the first of each, and the
index has the same names. -/
structure Holds (s : NameSet) (given : List Text) : Prop where
  values : s.values = firsts given
  index : s.index.names = s.values

theorem Holds.empty : Holds .empty [] := ⟨rfl, rfl⟩

/-- A name is found exactly when it is listed. -/
theorem Holds.contains (h : Holds s given) (name : Text) :
    s.contains name = true ↔ name ∈ s.values := by
  rw [NameSet.contains, Option.isSome_iff_ne_none, ne_eq, NameMap.find?_eq_none_iff, h.index,
    not_not]

/-- **One addition.** -/
theorem Holds.insert (h : Holds s given) (name : Text) :
    Holds (s.insert name) (given ++ [name]) := by
  have hskip : (name.isEmpty || s.contains name) = true ↔ name = [] ∨ name ∈ firsts given := by
    rw [Bool.or_eq_true, List.isEmpty_iff, h.contains, h.values]
  unfold NameSet.insert
  by_cases hknown : name = [] ∨ name ∈ firsts given
  · rw [if_pos (hskip.2 hknown)]
    exact ⟨by rw [firsts_concat, if_pos hknown, h.values], h.index⟩
  · rw [if_neg (mt hskip.1 hknown)]
    refine ⟨by rw [firsts_concat, if_neg hknown, h.values], ?_⟩
    have hnew : name ∉ s.index.names := by
      rw [h.index, h.values]
      exact fun hmem => hknown (.inr hmem)
    rw [NameMap.names_insert_of_not_mem hnew, h.index]

/-- **Any additions.** -/
theorem Holds.add (h : Holds s given) (names : List Text) :
    Holds (s.add names) (given ++ names) := by
  induction names generalizing s given with
  | nil => rwa [List.append_nil]
  | cons name names ih =>
    rw [List.append_cons]
    exact ih (h.insert name)

theorem holds_batches (batches : List (List Text)) :
    Holds (batches.foldl NameSet.add .empty) batches.flatten := by
  induction batches using List.reverseRecOn with
  | nil => exact .empty
  | append_singleton batches names ih =>
    rw [List.foldl_append, List.flatten_append, List.flatten_singleton]
    exact ih.add names

end NameSet
end TextTemplate
