/-
What the tag of a directive says. The first name in it is that of the directive, and the settings
behind it are its attributes; what else is in the tag is complained about and leaves no attribute.

`saidIn_parse?`: every directive of a parsed template says what a tag in one of its files does.
-/
import Mathlib.Data.List.TakeWhile
import TextTemplate.Proofs.Include.Draining
import TextTemplate.Proofs.Include.Origin

namespace TextTemplate

/-- Whether a directive says what the events behind the opening of a tag do, where `pairs` are the
attributes. -/
inductive Directive.SaidIn (es : List Event) : (pairs : List (Text × Text)) → Directive → Prop
  | intro {strays rest : List Event} {first : Event} {d : Directive}
      (hinside : insideTag es = strays ++ first :: rest) (hstrays : ∀ e ∈ strays, e.isValue)
      (hfirst : first.isName) (hname : d.name = first.value) (hstart : d.span.start = first.location)
      (hattributes : d.attributes = .ofList (settingsIn rest)) : SaidIn es (settingsIn rest) d

namespace Draft

variable {root : Text} {opened : Location} {draft draft' : Draft} {es behind : List Event}

/-- A tag that is read to its end is its names and values, and the event that closes it. -/
theorem exists_closing (h : Draft.read root opened draft es = (draft', some behind)) :
    ∃ closing, es = insideTag es ++ closing :: behind ∧ ¬(closing.isName ∨ closing.isValue) := by
  induction es generalizing draft with
  | nil => cases h
  | cons e es ih =>
    by_cases he : e.isName ∨ e.isValue
    · have hinside : insideTag (e :: es) = e :: insideTag es :=
        List.takeWhile_cons_of_pos (by simpa using he)
      obtain ⟨draft₁, h⟩ : ∃ draft₁, Draft.read root opened draft₁ es = (draft', some behind) := by
        rw [Draft.read] at h
        rcases he with he | he
        · simp only [Event.kind_of_isName he] at h
          exact ⟨_, h⟩
        · simp only [Event.kind_of_isValue he] at h
          exact ⟨_, h⟩
      obtain ⟨closing, hes, hclosing⟩ := ih h
      exact ⟨closing, by rw [hinside, List.cons_append, ← hes], hclosing⟩
    · have hinside : insideTag (e :: es) = [] := List.takeWhile_cons_of_neg (by simpa using he)
      rw [read_closing he] at h
      cases h
      exact ⟨e, by rw [hinside, List.nil_append], he⟩

/-- The directive of a tag says what its events do. -/
theorem read_saidIn {opening : Event} {d : Directive}
    (h : Draft.read root opening.tagStart .empty es = (draft', some behind))
    (hd : draft'.directive = some d) : ∃ pairs, d.SaidIn es pairs := by
  obtain ⟨closing, hes, hclosing⟩ := exists_closing h
  have hparts : ∀ e ∈ insideTag es, e.isName ∨ e.isValue := fun e he => by
    simpa using List.mem_takeWhile_imp he
  generalize hinside : insideTag es = inside at hes hparts
  rw [hes] at h
  rcases exists_strays hparts with hstrays | ⟨strays, first, rest, rfl, hstrays, hfirst, hrest⟩
  · rw [read_nameless hclosing hstrays] at h
    cases h
    cases hd
  · rw [List.append_assoc, List.cons_append, read_tag hclosing hstrays hfirst hrest] at h
    cases h
    cases hd
    exact ⟨_, .intro hinside hstrays hfirst rfl rfl rfl⟩

end Draft

theorem Directive.SaidIn.attributes {d : Directive} {es : List Event} {pairs : List (Text × Text)}
    (h : d.SaidIn es pairs) : d.attributes = .ofList pairs := by
  cases h with
  | intro _ _ _ _ _ hattributes => exact hattributes

namespace Expansion

/-- Whether a directive says what a tag in one of the files of a parse does, with the attributes
`pairs` in the order they are written there. -/
def WrittenAs (load : Option Loader) (root source : Text) (pairs : List (Text × Text))
    (d : Directive) : Prop :=
  ∃ name content opening inside, FileOf load root source name content ∧
    opening :: inside <:+ (scan name content).1 ∧ opening.kind = .directive ∧
    d.SaidIn inside pairs

theorem WrittenAs.attributes {load : Option Loader} {root source : Text}
    {pairs : List (Text × Text)} {d : Directive} (h : WrittenAs load root source pairs d) :
    d.attributes = .ofList pairs := by
  obtain ⟨_, _, _, _, -, -, -, hsaid⟩ := h
  exact hsaid.attributes

/-- **What a directive says is written somewhere**: its name, its start and its attributes are those
of a tag in one of the files of the parse. -/
theorem saidIn_parse? {load : Option Loader} {root source : Text} {t : Template}
    (h : Template.parse? root source load = some t) {d : Directive} (hd : d ∈ t.directives) :
    ∃ pairs, WrittenAs load root source pairs d := by
  obtain ⟨name, content, inside, hfile, htag⟩ := tags_parse? h hd
  obtain ⟨opening, hsuffix, hkind, hdirective⟩ := htag.tag
  unfold directiveOf? at hdirective
  split at hdirective
  · next hread =>
    obtain ⟨pairs, hsaid⟩ := Draft.read_saidIn hread hdirective
    exact ⟨pairs, name, content, opening, inside, hfile, hsuffix, hkind, hsaid⟩
  · cases hdirective

end Expansion
end TextTemplate
