/-
Edit scripts: the script that is found leads from the old lines to the new.

A point that is reached with a number of removals and of additions lies on the diagonal of their
difference, as far along it as lines were kept (`Point.Reached`). The search holds one point for
each way to divide its edits (`Front`). Which of two points on a diagonal is kept does not matter
here. As many removals and additions as there are lines leave nothing ahead on either side, so the
search is at the end before its fuel is (`search_reached`).
-/
import TextTemplate.Diff.Script

namespace TextTemplate.Diff

/-! ## Scripts -/

namespace Edit

/-- The old line that a step passes. -/
def old? : Edit → Option Text
  | keep line => some line
  | add _ => none
  | remove line => some line

/-- The new line that a step passes. -/
def new? : Edit → Option Text
  | keep line => some line
  | add line => some line
  | remove _ => none

end Edit

/-- The old lines that a script passes. -/
def oldLines (script : List Edit) : List Text := script.filterMap Edit.old?

/-- The new lines that a script passes. -/
def newLines (script : List Edit) : List Text := script.filterMap Edit.new?

theorem oldLines_push (e : Edit) (script : List Edit) :
    oldLines (e :: script).reverse = oldLines script.reverse ++ e.old?.toList := by
  cases e <;> simp [oldLines, Edit.old?]

theorem newLines_push (e : Edit) (script : List Edit) :
    newLines (e :: script).reverse = newLines script.reverse ++ e.new?.toList := by
  cases e <;> simp [newLines, Edit.new?]

/-- A script that keeps every line passes the same lines on both sides. -/
theorem oldLines_eq_newLines {script : List Edit}
    (h : (script.all fun e => e matches .keep _) = true) : oldLines script = newLines script := by
  induction script with
  | nil => rfl
  | cons e script ih =>
    obtain ⟨he, hscript⟩ := Bool.and_eq_true_iff.1 h
    cases e with
    | keep line => exact congrArg (line :: ·) (ih hscript)
    | add line | remove line => cases he

/-! ## Points -/

variable {old new : List Text} {removed added : Nat} {p left right : Point} {points : List Point}

namespace Point

/-- A point that numbers of removals and additions lead to: its script passes the lines behind it,
and as many lines as were kept lie between it and those numbers. A removal or an addition counts
even where no line is left for it. -/
structure Reached (old new : List Text) (removed added : Nat) (p : Point) : Prop where
  oldSide : oldLines p.script.reverse ++ p.old = old
  newSide : newLines p.script.reverse ++ p.new = new
  place : ∃ kept, p.old = old.drop (removed + kept) ∧ p.new = new.drop (added + kept)

namespace Reached

theorem slide {passed : Nat} {os ns : List Text} {script : List Edit}
    (h : Reached old new removed added ⟨passed, os, ns, script⟩) :
    Reached old new removed added (Point.slide passed os ns script) := by
  induction os generalizing passed ns script with
  | nil =>
    rw [Point.slide]
    · exact h
    · rintro a os b ns ⟨⟩
  | cons a os ih =>
    cases ns with
    | nil =>
      rw [Point.slide]
      · exact h
      · rintro a os b ns - ⟨⟩
    | cons b ns =>
      rw [Point.slide]
      split
      · next hab =>
        subst hab
        obtain ⟨kept, hold, hnew⟩ := h.place
        refine ih ⟨?_, ?_, kept + 1, ?_, ?_⟩
        · rw [oldLines_push, List.append_assoc]
          exact h.oldSide
        · rw [newLines_push, List.append_assoc]
          exact h.newSide
        · simpa [Nat.add_assoc] using congrArg List.tail hold
        · simpa [Nat.add_assoc] using congrArg List.tail hnew
      · exact h

theorem down (h : Reached old new removed added p) :
    Reached old new removed (added + 1) p.down := by
  obtain ⟨passed, os, ns, script⟩ := p
  obtain ⟨hold, hnew, kept, hos, hns⟩ := h
  dsimp only at hold hnew hos hns
  have hplace : ns.tail = new.drop (added + 1 + kept) := by
    rw [hns, List.tail_drop, Nat.add_right_comm]
  cases ns with
  | nil => exact slide ⟨hold, hnew, kept, hos, hplace⟩
  | cons b ns =>
    refine slide ⟨?_, ?_, kept, hos, hplace⟩
    · change oldLines (.add b :: script).reverse ++ os = old
      rw [oldLines_push, ← hold]
      simp [Edit.old?]
    · change newLines (.add b :: script).reverse ++ ns = new
      rw [newLines_push, ← hnew]
      simp [Edit.new?]

theorem across (h : Reached old new removed added p) :
    Reached old new (removed + 1) added p.across := by
  obtain ⟨passed, os, ns, script⟩ := p
  obtain ⟨hold, hnew, kept, hos, hns⟩ := h
  dsimp only at hold hnew hos hns
  have hplace : os.tail = old.drop (removed + 1 + kept) := by
    rw [hos, List.tail_drop, Nat.add_right_comm]
  cases os with
  | nil => exact slide ⟨hold, hnew, kept, hplace, hns⟩
  | cons a os =>
    refine slide ⟨?_, ?_, kept, hplace, hns⟩
    · change oldLines (.remove a :: script).reverse ++ os = old
      rw [oldLines_push, ← hold]
      simp [Edit.old?]
    · change newLines (.remove a :: script).reverse ++ ns = new
      rw [newLines_push, ← hnew]
      simp [Edit.new?]

/-- Both neighbours lead to the diagonal between them. -/
theorem between (hl : Reached old new removed (added + 1) left)
    (hr : Reached old new (removed + 1) added right) :
    Reached old new (removed + 1) (added + 1) (Point.between left right) := by
  unfold Point.between
  split
  · exact hr.down
  · exact hl.across

/-- As many edits on both sides as there are lines lead to the end. -/
theorem isEnd (h : Reached old new old.length new.length p) : p.isEnd = true := by
  obtain ⟨kept, hold, hnew⟩ := h.place
  rw [List.drop_eq_nil_of_le (by omega)] at hold hnew
  simp [Point.isEnd, hold, hnew]

/-- A point at the end has a script from the old lines to the new. -/
theorem script (h : Reached old new removed added p) (hend : p.isEnd = true) :
    oldLines p.script.reverse = old ∧ newLines p.script.reverse = new := by
  obtain ⟨hold, hnew⟩ : p.old = [] ∧ p.new = [] := by simpa [Point.isEnd] using hend
  have hleft := h.oldSide
  have hright := h.newSide
  rw [hold, List.append_nil] at hleft
  rw [hnew, List.append_nil] at hright
  exact ⟨hleft, hright⟩

end Reached
end Point

open Point (Reached)

/-! ## The search -/

/-- The points that a number of edits leads to, one for each way to divide the edits into removals
and additions, the one with the fewest removals first. -/
inductive Front (old new : List Text) : (removed added : Nat) → List Point → Prop where
  | last {removed : Nat} {p : Point} (h : Reached old new removed 0 p) : Front old new removed 0 [p]
  | cons {removed added : Nat} {p : Point} {points : List Point}
      (h : Reached old new removed (added + 1) p)
      (hrest : Front old new (removed + 1) added points) :
      Front old new removed (added + 1) (p :: points)

theorem Front.stepFrom (h : Front old new (removed + 1) added points)
    (hleft : Reached old new removed (added + 1) left) :
    Front old new (removed + 1) (added + 1) (Diff.stepFrom left points) := by
  generalize hr : removed + 1 = r at h
  induction h generalizing removed left with
  | last h =>
    subst hr
    exact .cons (hleft.between h) (.last h.across)
  | cons h _ ih =>
    subst hr
    exact .cons (hleft.between h) (ih h rfl)

/-- **One more edit** leads from front to front. -/
theorem Front.step (h : Front old new 0 added points) :
    Front old new 0 (added + 1) (Diff.step points) := by
  cases h with
  | last h => exact .cons h.down (.last h.across)
  | cons h hrest => exact .cons h.down (hrest.stepFrom h)

theorem Front.reached (h : Front old new removed added points) (hp : p ∈ points) :
    ∃ r a, Reached old new r a p := by
  induction h with
  | last h =>
    obtain rfl := List.mem_singleton.1 hp
    exact ⟨_, _, h⟩
  | cons h _ ih =>
    rcases List.mem_cons.1 hp with rfl | hp
    · exact ⟨_, _, h⟩
    · exact ih hp

theorem Front.exists_point (h : Front old new removed added points) (r a : Nat)
    (hr : removed ≤ r) (hsum : r + a = removed + added) : ∃ p ∈ points, Reached old new r a p := by
  induction h with
  | @last removed p h =>
    obtain ⟨rfl, rfl⟩ : r = removed ∧ a = 0 := ⟨by omega, by omega⟩
    exact ⟨p, List.mem_singleton_self p, h⟩
  | @cons removed added p points h _ ih =>
    by_cases hfirst : r = removed
    · obtain ⟨rfl, rfl⟩ : r = removed ∧ a = added + 1 := ⟨hfirst, by omega⟩
      exact ⟨p, List.mem_cons_self, h⟩
    · obtain ⟨q, hq, hreached⟩ := ih (by omega) (by omega)
      exact ⟨q, List.mem_cons_of_mem p hq, hreached⟩

/-- **The search ends at a point of the end**, if its edits and its fuel are as many as the lines
are. -/
theorem search_reached {fuel : Nat} (h : Front old new 0 added points)
    (hfuel : added + fuel = old.length + new.length) :
    ∃ p r a, Reached old new r a p ∧ p.isEnd = true ∧ search fuel points = p.script.reverse := by
  induction fuel generalizing added points with
  | zero =>
    obtain ⟨q, hq, hreached⟩ := h.exists_point old.length new.length (Nat.zero_le _) (by omega)
    have hsome : (points.find? Point.isEnd).isSome := List.find?_isSome.2 ⟨q, hq, hreached.isEnd⟩
    obtain ⟨p, hp⟩ := Option.isSome_iff_exists.1 hsome
    obtain ⟨r, a, hpoint⟩ := h.reached (List.mem_of_find?_eq_some hp)
    exact ⟨p, r, a, hpoint, List.find?_some hp, by simp [search, hp]⟩
  | succ fuel ih =>
    cases hp : points.find? Point.isEnd with
    | some p =>
      obtain ⟨r, a, hpoint⟩ := h.reached (List.mem_of_find?_eq_some hp)
      exact ⟨p, r, a, hpoint, List.find?_some hp, by simp [search, hp]⟩
    | none =>
      obtain ⟨p, r, a, hpoint, hend, hsearch⟩ := ih h.step (by omega)
      exact ⟨p, r, a, hpoint, hend, by rw [← hsearch, search, hp]⟩

theorem reached_start (old new : List Text) :
    Reached old new 0 0 (Point.slide 0 old new []) :=
  .slide ⟨rfl, rfl, 0, rfl, rfl⟩

/-- **The script that is found** passes the old lines on one side and the new lines on the other. -/
theorem shortest_lines (old new : List Text) :
    oldLines (shortest old new) = old ∧ newLines (shortest old new) = new := by
  obtain ⟨p, r, a, hpoint, hend, hsearch⟩ :=
    search_reached (.last (reached_start old new)) (Nat.zero_add _)
  rw [shortest, hsearch]
  exact hpoint.script hend

theorem slide_self (passed : Nat) (lines : List Text) (script : List Edit) :
    Point.slide passed lines lines script =
      ⟨passed + lines.length, [], [], (lines.map Edit.keep).reverse ++ script⟩ := by
  induction lines generalizing passed script with
  | nil =>
    rw [Point.slide]
    · rfl
    · rintro a os b ns ⟨⟩
  | cons a lines ih => simp [Point.slide, ih, Nat.add_assoc, Nat.add_comm 1]

/-- Between lines and themselves every line is kept. -/
theorem shortest_self (lines : List Text) : shortest lines lines = lines.map Edit.keep := by
  rw [shortest, slide_self, List.append_nil, search.eq_def]
  exact List.reverse_reverse _

end TextTemplate.Diff
