/-
What becomes of a closed directive tag. The first name in it makes the directive; what stands behind
it are settings, a name right in front of its value (`settingsIn`), and all that is no part of one
is complained about where it stands (`complaintsIn`). Values in front of the first name, or in a
tag without any, are strays.

A complaint stands where its name or value does, unless the file has no name: `Diagnostic.atLocation`
then puts it at the root file as a whole.

`read_behindName` is the loop over the names and values behind the first name, and carries the name
that still waits for a value as the event right before. The main statement is `nextMove_tag`.
-/
import TextTemplate.Proofs.Template.Attributes
import TextTemplate.Template.Parsed

namespace TextTemplate

/-! ## Names and values in a row -/

namespace Event

def isName (e : Event) : Bool := e.kind = .directiveName

def isValue (e : Event) : Bool := e.kind = .directiveValue

/-- What two neighbours set. -/
def setting? (e next : Event) : Option (Text × Text) :=
  if e.isName && next.isValue then some (e.value, next.value) else none

/-- The complaint about a value that no name of an attribute stands right before. -/
def withoutName (root : Text) (e : Event) : Diagnostic :=
  .atLocation e.location root (utf8 "Directive value without name") false

/-- The complaint about the name of an attribute that no value stands right behind. -/
def withoutValue (root : Text) (e : Event) : Diagnostic :=
  .atLocation e.location root (utf8 "Attribute '" ++ e.value ++ utf8 "' has no value") false

/-- The complaint about the tag an event opens, when there is no name in it. -/
def withoutAnyName (root : Text) (e : Event) : Diagnostic :=
  .atLocation e.tagStart root (utf8 "Directive has no name") false

/-- What is wrong with a name or a value, given the events right before it and right behind. -/
def complaint? (root : Text) (before : Option Event) (e : Event) (next : Option Event) :
    Option Diagnostic :=
  if e.isName then
    if next.any isValue then none else some (e.withoutValue root)
  else if before.any isName then none else some (e.withoutName root)

end Event

/-- The names and values of a tag, from those behind its opening up to its end. -/
def insideTag (es : List Event) : List Event := es.takeWhile fun e => e.isName || e.isValue

/-- The settings in a row of names and values, in their order. -/
def settingsIn (es : List Event) : List (Text × Text) :=
  (es.zip es.tail).filterMap fun (e, next) => e.setting? next

/-- What is wrong in a row of names and values, in their order; `before` stands right before it. -/
def complaintsIn (root : Text) : (before : Option Event) → List Event → Diagnostics
  | _, [] => []
  | before, e :: es =>
    (e.complaint? root before es.head?).toList ++ complaintsIn root (some e) es

/-- Whether attributes are what settings leave behind: for each key its last spelling and value. -/
structure Attributes.LeftBy (pairs : List (Text × Text)) (as : Attributes) : Prop where
  mem (a : Attribute) : a ∈ as.entries ↔ lastSetting pairs a.key = some (a.name, a.value)
  once : as.entries.Pairwise fun a b => a.key ≠ b.key
  get? (name : Text) : as.get? name = (lastSetting pairs name.lower).map Prod.snd

theorem Attributes.leftBy_ofList (pairs : List (Text × Text)) : LeftBy pairs (ofList pairs) where
  mem := mem_ofList pairs
  once := (increasing_ofList pairs).imp fun {a b} hlt heq => by
    rw [heq] at hlt
    exact List.lt_irrefl _ hlt
  get? := get?_ofList pairs

/-- The directive that the names and values of a tag make, if any, and the complaints about them. -/
inductive Tag (root : Text) (opening closing : Event) :
    List Event → Option Directive → Diagnostics → Prop where
  | nameless {strays : List Event} (hstrays : ∀ e ∈ strays, e.isValue) :
    Tag root opening closing strays none
      (strays.map (·.withoutName root) ++ [opening.withoutAnyName root])
  | named {strays rest : List Event} {first : Event} {d : Directive}
      (hstrays : ∀ e ∈ strays, e.isValue) (hfirst : first.isName) (hname : d.name = first.value)
      (hspan : d.span = ⟨first.location, closing.tagEnd, first.tagStart⟩)
      (hattributes : d.attributes.LeftBy (settingsIn rest)) :
    Tag root opening closing (strays ++ first :: rest) (some d)
      (strays.map (·.withoutName root) ++ complaintsIn root none rest)

/-- How reading goes on behind the tag of a directive, if it is one. -/
def Move.behindTag (putOff : Bool) (behind : List Event) (g : Gathered) : Option Directive → Move
  | none => .advance putOff behind g
  | some d =>
    if d.is (utf8 "include") then .include d behind g
    else .advance putOff behind (g.add false (.directive d))

/-! ## Reading a tag -/

theorem Event.kind_of_isName {e : Event} (h : e.isName) : e.kind = .directiveName := by
  simpa [isName] using h

theorem Event.kind_of_isValue {e : Event} (h : e.isValue) : e.kind = .directiveValue := by
  simpa [isValue] using h

theorem Event.not_isName {e : Event} (h : e.isValue) : e.isName = false := by
  simp [isName, kind_of_isValue h]

theorem Event.not_isValue {e : Event} (h : e.isName) : e.isValue = false := by
  simp [isValue, kind_of_isName h]

/-- The first name in a tag, and the strays in front of it. -/
theorem exists_strays {inside : List Event} (hinside : ∀ e ∈ inside, e.isName ∨ e.isValue) :
    (∀ e ∈ inside, e.isValue) ∨ ∃ strays first rest, inside = strays ++ first :: rest ∧
      (∀ e ∈ strays, e.isValue) ∧ first.isName ∧ ∀ e ∈ rest, e.isName ∨ e.isValue := by
  have hvalue (e : Event) (he : e ∈ inside) (hname : e.isName = false) : e.isValue :=
    (hinside e he).resolve_left (by simp [hname])
  cases hfind : inside.find? Event.isName with
  | none => exact .inl fun e he => hvalue e he (by simpa using List.find?_eq_none.1 hfind e he)
  | some first =>
    obtain ⟨hfirst, strays, rest, rfl, hnone⟩ := List.find?_eq_some_iff_append.1 hfind
    refine .inr ⟨strays, first, rest, rfl, fun e he => ?_, hfirst, fun e he => ?_⟩
    · exact hvalue e (List.mem_append_left _ he) (by simpa using hnone e he)
    · exact hinside e (List.mem_append_right _ (List.mem_cons_of_mem _ he))

theorem settingsIn_behind (before : Option Event) (e : Event) (es : List Event) :
    settingsIn (before.toList ++ e :: es) =
      (before.bind (·.setting? e)).toList ++ settingsIn (e :: es) := by
  cases before with
  | none => rfl
  | some b =>
    cases hsetting : b.setting? e <;> simp [settingsIn, hsetting]

/-- The attributes after some more settings. -/
def Attributes.setAll (as : Attributes) (pairs : List (Text × Text)) : Attributes :=
  pairs.foldl (fun as (name, value) => as.set name value) as

@[simp] theorem Attributes.setAll_nil (as : Attributes) : as.setAll [] = as := rfl

@[simp] theorem Attributes.setAll_singleton (as : Attributes) (name value : Text) :
    as.setAll [(name, value)] = as.set name value := rfl

theorem Attributes.setAll_append (as : Attributes) (pairs more : List (Text × Text)) :
    as.setAll (pairs ++ more) = (as.setAll pairs).setAll more :=
  List.foldl_append

namespace Draft

variable {root : Text} {opened : Location} {draft : Draft} {d : Directive} {before : Option Event}
variable {e closing : Event} {behind : List Event}

/-- The name that waits for a value behind an event. -/
def waiting? (before : Option Event) : Option (Text × Location) :=
  (before.filter Event.isName).map fun e => (e.value, e.location)

/-- The complaint that is due when the name right before is not followed by a value. -/
def due (root : Text) (before next : Option Event) : Diagnostics :=
  if before.any Event.isName && !next.any Event.isValue then
    (before.map (·.withoutValue root)).toList
  else []

theorem flush_waiting (root : Text) {next : Option Event} (hd : draft.directive = some d)
    (hwaiting : draft.pending = waiting? before) (hnext : next.any Event.isValue = false) :
    draft.flush root = ⟨some d, none, draft.diagnostics ++ due root before next⟩ := by
  obtain ⟨directive, pending, diagnostics⟩ := draft
  obtain rfl : directive = some d := hd
  obtain rfl : pending = waiting? before := hwaiting
  cases before with
  | none => simp [flush, waiting?, due]
  | some b =>
    cases hname : b.isName <;>
      simp [flush, waiting?, due, hname, hnext, Option.filter, Draft.error, Event.withoutValue]

theorem name_behindName (hd : draft.directive = some d) (hwaiting : draft.pending = waiting? before)
    (he : e.isName) :
    draft.name root e =
      ⟨some d, waiting? (some e), draft.diagnostics ++ due root before (some e)⟩ := by
  have hnext : (some e).any Event.isValue = false := by simp [Event.not_isValue he]
  have hflush := flush_waiting root hd hwaiting hnext
  simp [name, hd, hflush, waiting?, Option.filter, he]

theorem value_behindName (hd : draft.directive = some d) (hwaiting : draft.pending = waiting? before)
    (he : e.isValue) (next : Option Event) :
    draft.value root e =
      ⟨some { d with attributes := d.attributes.setAll (before.bind (·.setting? e)).toList },
        waiting? (some e), draft.diagnostics ++ (e.complaint? root before next).toList⟩ := by
  obtain ⟨directive, pending, diagnostics⟩ := draft
  obtain rfl : directive = some d := hd
  obtain rfl : pending = waiting? before := hwaiting
  have hname := Event.not_isName he
  cases before with
  | none =>
    simp [value, waiting?, Event.complaint?, hname, Option.filter, Draft.error, Event.withoutName]
  | some b =>
    cases hb : b.isName <;>
      simp [value, waiting?, Event.complaint?, Event.setting?, hname, hb, he, Option.filter,
        Draft.error, Event.withoutName]

/-- Any other event closes the tag. -/
theorem read_closing (hclosing : ¬(closing.isName ∨ closing.isValue)) (draft : Draft) :
    Draft.read root opened draft (closing :: behind) =
      (draft.close root opened closing, some behind) := by
  rw [Draft.read]
  split
  · next hkind => exact absurd (.inl (by simp [Event.isName, hkind])) hclosing
  · next hkind => exact absurd (.inr (by simp [Event.isValue, hkind])) hclosing
  · rfl

/-- **Behind its name** a directive takes up the settings, and nothing that is wrong is passed over
or complained about twice. -/
theorem read_behindName {es : List Event} (hclosing : ¬(closing.isName ∨ closing.isValue))
    (hes : ∀ e ∈ es, e.isName ∨ e.isValue) (hd : draft.directive = some d)
    (hwaiting : draft.pending = waiting? before) :
    Draft.read root opened draft (es ++ closing :: behind) =
      (⟨some { d with
          attributes := d.attributes.setAll (settingsIn (before.toList ++ es))
          span := { d.span with stop := closing.tagEnd } }, none,
        draft.diagnostics ++ (due root before es.head? ++ complaintsIn root before es)⟩,
        some behind) := by
  induction es generalizing draft d before with
  | nil =>
    have hflush : draft.flush root = ⟨some d, none, draft.diagnostics ++ due root before none⟩ :=
      flush_waiting root hd hwaiting rfl
    have hnone : settingsIn before.toList = [] := by cases before <;> rfl
    rw [List.nil_append, read_closing hclosing]
    simp [close, hflush, hnone, complaintsIn]
  | cons e es ih =>
    have hlater := fun e' he' => hes e' (List.mem_cons_of_mem e he')
    rw [settingsIn_behind, Attributes.setAll_append]
    rcases hes e List.mem_cons_self with he | he
    · have hkind : e.kind = .directiveName := Event.kind_of_isName he
      have hnone : before.bind (·.setting? e) = none := by
        cases before <;> simp [Event.setting?, Event.not_isValue he]
      have hcomplaints : complaintsIn root before (e :: es) =
          due root (some e) es.head? ++ complaintsIn root (some e) es := by
        rw [complaintsIn, Event.complaint?, if_pos he, due]
        cases es.head?.any Event.isValue <;> simp [he]
      rw [List.cons_append, Draft.read]
      simp only [hkind]
      rw [name_behindName hd hwaiting he, ih hlater rfl rfl, hcomplaints, hnone]
      simp
    · have hkind : e.kind = .directiveValue := Event.kind_of_isValue he
      have hbefore : due root before (some e) = [] := by simp [due, he]
      have hbehind : due root (some e) es.head? = [] := by simp [due, Event.not_isName he]
      rw [List.cons_append, Draft.read]
      simp only [hkind]
      rw [value_behindName hd hwaiting he es.head?, ih hlater rfl rfl, hbehind, complaintsIn,
        List.head?_cons, hbefore]
      simp

/-- In front of its name a directive has strays only. -/
theorem read_strays {strays : List Event} (hstrays : ∀ e ∈ strays, e.isValue) (ds : Diagnostics)
    (es : List Event) :
    Draft.read root opened ⟨none, none, ds⟩ (strays ++ es) =
      Draft.read root opened ⟨none, none, ds ++ strays.map (·.withoutName root)⟩ es := by
  induction strays generalizing ds with
  | nil => simp
  | cons e strays ih =>
    obtain ⟨he, hstrays⟩ := List.forall_mem_cons.1 hstrays
    have hkind : e.kind = .directiveValue := Event.kind_of_isValue he
    have hvalue : Draft.value ⟨none, none, ds⟩ root e = ⟨none, none, ds ++ [e.withoutName root]⟩ :=
      rfl
    rw [List.cons_append, Draft.read]
    simp only [hkind]
    rw [hvalue, ih hstrays]
    simp

theorem read_nameless {strays : List Event} (hclosing : ¬(closing.isName ∨ closing.isValue))
    (hstrays : ∀ e ∈ strays, e.isValue) :
    Draft.read root e.tagStart .empty (strays ++ closing :: behind) =
      (⟨none, none, strays.map (·.withoutName root) ++ [e.withoutAnyName root]⟩, some behind) := by
  rw [empty, read_strays hstrays, read_closing hclosing]
  rfl

theorem read_tag {first : Event} {strays rest : List Event}
    (hclosing : ¬(closing.isName ∨ closing.isValue)) (hstrays : ∀ e ∈ strays, e.isValue)
    (hfirst : first.isName) (hrest : ∀ e ∈ rest, e.isName ∨ e.isValue) :
    Draft.read root opened .empty (strays ++ first :: (rest ++ closing :: behind)) =
      (⟨some ⟨first.value, .ofList (settingsIn rest),
          ⟨first.location, closing.tagEnd, first.tagStart⟩⟩, none,
        strays.map (·.withoutName root) ++ complaintsIn root none rest⟩, some behind) := by
  have hkind : first.kind = .directiveName := Event.kind_of_isName hfirst
  rw [empty, read_strays hstrays, Draft.read]
  simp only [hkind]
  have hnone : waiting? none = none := rfl
  rw [read_behindName hclosing hrest rfl hnone.symm]
  rfl

end Draft

/-- **What becomes of a closed tag.** Its names and values make at most one directive, and each that
is out of place is complained about once and nothing else. -/
theorem nextMove_tag {root : Text} {imported putOff : Bool} {g : Gathered} {opening closing : Event}
    {inside behind : List Event} (hopening : opening.kind = .directive)
    (hclosing : closing.kind = .directive) (hinside : ∀ e ∈ inside, e.isName ∨ e.isValue) :
    ∃ d ds, Tag root opening closing inside d ds ∧
      nextMove root imported putOff (opening :: (inside ++ closing :: behind)) g =
        .behindTag putOff behind { g with diagnostics := g.diagnostics ++ ds } d := by
  have hclosing : ¬(closing.isName ∨ closing.isValue) := by
    simp [Event.isName, Event.isValue, hclosing]
  unfold nextMove
  simp only [hopening]
  rcases exists_strays hinside with hstrays | ⟨strays, first, rest, rfl, hstrays, hfirst, hrest⟩
  · refine ⟨none, _, .nameless hstrays, ?_⟩
    rw [Draft.read_nameless hclosing hstrays]
    rfl
  · let d : Directive := ⟨first.value, .ofList (settingsIn rest),
      ⟨first.location, closing.tagEnd, first.tagStart⟩⟩
    have hattributes : d.attributes.LeftBy (settingsIn rest) := Attributes.leftBy_ofList _
    refine ⟨some d, _, .named hstrays hfirst rfl rfl hattributes, ?_⟩
    rw [List.append_assoc, List.cons_append, Draft.read_tag hclosing hstrays hfirst hrest]
    rfl

/-! ## Names and values out of place -/

/-- A name or a value at a column of the first line, in a tag that starts the file. -/
def eventAt (file : Text) (kind : EventKind) (value : String) (column : Int64) : Event :=
  ⟨kind, utf8 value, ⟨file, 1, column⟩, .start file, .start file⟩

/-- The closing of such a tag. -/
def closingAt (file : Text) (column : Int64) : Event :=
  ⟨.directive, [], ⟨file, 1, column⟩, .start file, ⟨file, 1, column + 2⟩⟩

/-- The end of the file behind such a tag. -/
def endAt (file : Text) (column : Int64) : Event :=
  ⟨.eof, [], ⟨file, 1, column⟩, ⟨file, 1, column⟩, ⟨file, 1, column⟩⟩

/-- Values in front of the directive's name and right behind it, a name without a value, one set in
two spellings, a value too many, and a name at the end. -/
def crookedInside (file : Text) : List Event :=
  [eventAt file .directiveValue "s" 7, eventAt file .directiveName "x" 10,
    eventAt file .directiveValue "t" 14, eventAt file .directiveName "a" 17,
    eventAt file .directiveName "b" 19, eventAt file .directiveValue "1" 22,
    eventAt file .directiveName "B" 25, eventAt file .directiveValue "2" 28,
    eventAt file .directiveValue "u" 33, eventAt file .directiveName "c" 36]

theorem scan_crooked :
    scan (utf8 "t.tt") (utf8 "<#@ =\"s\" x =\"t\" a b=\"1\" B=\"2\" =\"u\" c #>") =
      (eventAt (utf8 "t.tt") .directive "" 4 ::
        (crookedInside (utf8 "t.tt") ++ [closingAt (utf8 "t.tt") 38, endAt (utf8 "t.tt") 40]),
        none) := by
  decide +kernel

/-- The tag of such a file, with four complaints behind its name. -/
theorem nextMove_tag_crooked :
    scan (utf8 "t.tt") (utf8 "<#@ =\"s\" x =\"t\" a b=\"1\" B=\"2\" =\"u\" c #>") =
        (eventAt (utf8 "t.tt") .directive "" 4 ::
          (crookedInside (utf8 "t.tt") ++ [closingAt (utf8 "t.tt") 38, endAt (utf8 "t.tt") 40]),
          none) ∧
      (∀ e ∈ crookedInside (utf8 "t.tt"), e.isName ∨ e.isValue) ∧
      ∃ d ds, Tag (utf8 "t.tt") (eventAt (utf8 "t.tt") .directive "" 4) (closingAt (utf8 "t.tt") 38)
          (crookedInside (utf8 "t.tt")) d ds ∧
        nextMove (utf8 "t.tt") false false (eventAt (utf8 "t.tt") .directive "" 4 ::
            (crookedInside (utf8 "t.tt") ++ [closingAt (utf8 "t.tt") 38, endAt (utf8 "t.tt") 40]))
            (.ofRoot (utf8 "t.tt")) =
          .behindTag false [endAt (utf8 "t.tt") 40]
            { Gathered.ofRoot (utf8 "t.tt") with diagnostics := [] ++ ds } d ∧
        (complaintsIn (utf8 "t.tt") none ((crookedInside (utf8 "t.tt")).drop 2)).map
          Diagnostic.render =
            [utf8 "t.tt(1,14) : error: Directive value without name",
              utf8 "t.tt(1,17) : error: Attribute 'a' has no value",
              utf8 "t.tt(1,33) : error: Directive value without name",
              utf8 "t.tt(1,36) : error: Attribute 'c' has no value"] := by
  have hinside : ∀ e ∈ crookedInside (utf8 "t.tt"), e.isName ∨ e.isValue := by decide +kernel
  have hopening : (eventAt (utf8 "t.tt") .directive "" 4).kind = .directive := rfl
  have hclosing : (closingAt (utf8 "t.tt") 38).kind = .directive := rfl
  obtain ⟨d, ds, htag, hmove⟩ := nextMove_tag hopening hclosing hinside
  exact ⟨scan_crooked, hinside, d, ds, htag, hmove, by decide +kernel⟩

/-- In an included file without a name, a complaint does not stand where the name does. -/
theorem complaint_of_nameless_file :
    ∃ w : Diagnostic,
      scan [] (utf8 "<#@ x a #>") =
        ([eventAt [] .directive "" 4, eventAt [] .directiveName "x" 5,
          eventAt [] .directiveName "a" 7, closingAt [] 9, endAt [] 11], none) ∧
      nextMove (utf8 "r") true false (scan [] (utf8 "<#@ x a #>")).1 (.ofRoot (utf8 "r")) =
        .behindTag false [endAt [] 11] { Gathered.ofRoot (utf8 "r") with diagnostics := [w] }
          (some ⟨utf8 "x", .empty, ⟨⟨[], 1, 5⟩, ⟨[], 1, 11⟩, .start []⟩⟩) ∧
      w.text = utf8 "Attribute 'a' has no value" ∧
      w.location = ⟨utf8 "r", 0, 0⟩ ∧ w.location ≠ (eventAt [] .directiveName "a" 7).location := by
  have hscan : scan [] (utf8 "<#@ x a #>") =
      ([eventAt [] .directive "" 4, eventAt [] .directiveName "x" 5,
        eventAt [] .directiveName "a" 7, closingAt [] 9, endAt [] 11], none) := by
    decide +kernel
  refine ⟨(eventAt [] .directiveName "a" 7).withoutValue (utf8 "r"), hscan, ?_, by decide +kernel,
    by decide +kernel, by decide +kernel⟩
  rw [hscan]
  rfl

end TextTemplate
