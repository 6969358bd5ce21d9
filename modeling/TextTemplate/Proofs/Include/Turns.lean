/-
The loop over a file as it calls the reader. A turn takes one report, and of a directive tag all of
them up to its closing (`Draft.drain`); it gives up on a report it has no use for, and the reading
of a tag gives up on a report that neither belongs to the tag nor closes it. A report that ended a
tag without closing it would be taken again by the next turn.

None of that happens. A turn starts outside of directive tags (`Head.outside`), so what the loop does
is what `nextMove` does with the reports that are left (`turn_outside`). The main statement is
`wellReported_and_wellTurned`.
-/
import TextTemplate.Proofs.Template.Reports
import TextTemplate.Template.Parsed

namespace TextTemplate

/-! ## Turns -/

/-- How the reading of a directive tag ends. -/
inductive TagEnd where
  | fault (e : ScanError)
  /-- At the closing of the tag. -/
  | closed
  /-- At a report that neither belongs to the tag nor closes it. -/
  | unclosed
  deriving DecidableEq, Repr

namespace Draft

/-- Ends the directive where its tag was left without a closing. -/
def abandon (d : Draft) (root : Text) (opened : Location) : Draft :=
  let d := d.flush root
  match d.directive with
  | none => d.error root (utf8 "Directive has no name") opened
  | some _ => d

/-- Reads a directive tag opened at `opened`, one call of the reader after the other. -/
def drain (root : Text) (opened : Location) (d : Draft) (r : Reader) : Draft × TagEnd × Reader :=
  match _h : r.advance with
  | .error e => (d, .fault e, r)
  | .ok r' =>
    match _hkind : r'.last.kind with
    | .directiveName => drain root opened (d.name root r'.last) r'
    | .directiveValue => drain root opened (d.value root r'.last) r'
    | .directive => (d.close root opened r'.last, .closed, r')
    | _ => (d.abandon root opened, .unclosed, r')
termination_by r.size
decreasing_by
  all_goals
    refine Reader.advance_size_lt (fun heof => ?_) _h
    have hsame : r.advance = .ok r := by
      unfold Reader.advance
      rw [if_pos heof]
    rw [hsame] at _h
    cases _h
    rw [heof] at _hkind
    cases _hkind

end Draft

/-- What a turn of the loop over a file comes to. -/
inductive Turn where
  | fault (e : ScanError) (gathered : Gathered)
  /-- The file is at its end. -/
  | finished (gathered : Gathered)
  /-- There is no use for a report of this kind. -/
  | unexpected (kind : EventKind) (gathered : Gathered)
  /-- The loop goes on, with the last report once more or with the next. -/
  | next (again putOff : Bool) (reader : Reader) (gathered : Gathered)
  /-- An include directive; its file is read before the loop goes on. -/
  | include (d : Directive) (again : Bool) (reader : Reader) (gathered : Gathered)

namespace Turn

/-- The turn that reads a directive tag. -/
def ofTag (putOff : Bool) (g : Gathered) : Draft × TagEnd × Reader → Turn
  | (draft, .fault e, _) => fault e (g.note draft)
  | (draft, _, r) =>
    let again := r.last.kind != .directive && r.last.kind != .eof
    match draft.directive with
    | none => next again putOff r (g.note draft)
    | some d =>
      if d.is (utf8 "include") then .include d again r (g.note draft)
      else next again putOff r ((g.note draft).add false (.directive d))

/-- The turn that takes up the last report of a reader. -/
def ofReport (root : Text) (imported putOff : Bool) (r : Reader) (g : Gathered) : Turn :=
  match r.last.kind with
  | .eof => finished g
  | .content => next false putOff r (g.addPiece putOff .content r.last)
  | .expression => next false putOff r (g.addPiece putOff .expression r.last)
  | .block => next false putOff r (g.addPiece putOff .block r.last)
  | .helper => next false imported r (g.addPiece imported .helper r.last)
  | .directive => ofTag putOff g (Draft.drain root r.last.tagStart .empty r)
  | kind => unexpected kind g

end Turn

/-- One turn of the loop over a file. It takes up the last report again or calls for the next. -/
def turn (root : Text) (imported putOff again : Bool) (r : Reader) (g : Gathered) : Turn :=
  match if again then .ok r else r.advance with
  | .error e => .fault e g
  | .ok r => .ofReport root imported putOff r g

/-- The readers the loop over a file meets at the start of its turns, and whether the last report is
taken up again. -/
inductive Head (root file content : Text) (imported : Bool) : (again : Bool) → Reader → Prop where
  | start : Head root file content imported false (.ofFile file content)
  | goOn {again again' putOff putOff' : Bool} {r r' : Reader} {g g' : Gathered}
      (h : Head root file content imported again r)
      (hturn : turn root imported putOff again r g = .next again' putOff' r' g') :
    Head root file content imported again' r'
  | behindInclude {again again' putOff : Bool} {r r' : Reader} {g g' : Gathered} {d : Directive}
      (h : Head root file content imported again r)
      (hturn : turn root imported putOff again r g = .include d again' r' g') :
    Head root file content imported again' r'

/-! ## Directive tags -/

namespace Draft

variable {root : Text} {opened : Location} {d : Draft} {r r' : Reader}

variable (root opened d) in
theorem drain_of_error {e : ScanError} (h : r.advance = .error e) :
    drain root opened d r = (d, .fault e, r) := by
  rw [drain]
  split
  · next he =>
    rw [h] at he
    cases he
    rfl
  · next he =>
    rw [h] at he
    cases he

variable (root opened d) in
theorem drain_of_ok (h : r.advance = .ok r') :
    drain root opened d r = match r'.last.kind with
      | .directiveName => drain root opened (d.name root r'.last) r'
      | .directiveValue => drain root opened (d.value root r'.last) r'
      | .directive => (d.close root opened r'.last, .closed, r')
      | _ => (d.abandon root opened, .unclosed, r') := by
  rw [drain]
  split
  · next he =>
    rw [h] at he
    cases he
  · next he =>
    rw [h] at he
    cases he
    split <;> simp_all

/-- What reading a tag comes to, and what the reports that are left say of it: a fault cuts them
short, or the tag is closed and the reader is outside. -/
inductive Drained (root : Text) (opened : Location) (d : Draft) (r : Reader) : Prop where
  | fault {d' : Draft} {e : ScanError} {r' : Reader}
      (hdrain : drain root opened d r = (d', .fault e, r'))
      (hread : Draft.read root opened d r.run.1 = (d', none)) (hfault : r.run.2 = some e) :
    Drained root opened d r
  | closed {d' : Draft} {r' : Reader} (hdrain : drain root opened d r = (d', .closed, r'))
      (hread : Draft.read root opened d r.run.1 = (d', some r'.run.1)) (hfault : r'.run.2 = r.run.2)
      (hkind : r'.last.kind = .directive) (hout : r'.inDirective = false) : Drained root opened d r

/-- What is read behind a part of the tag is what is read of the tag. -/
theorem Drained.behindPart {d' : Draft} (h : Drained root opened d' r')
    (hdrain : drain root opened d r = drain root opened d' r')
    (hread : Draft.read root opened d r.run.1 = Draft.read root opened d' r'.run.1)
    (hfault : r.run.2 = r'.run.2) : Drained root opened d r := by
  cases h with
  | fault hdrain' hread' hfault' =>
    exact .fault (hdrain.trans hdrain') (hread.trans hread') (hfault.trans hfault')
  | closed hdrain' hread' hfault' hkind hout =>
    exact .closed (hdrain.trans hdrain') (hread.trans hread') (hfault'.trans hfault.symm) hkind hout

/-- Inside a tag a call that is no fault reports a part of the tag or its closing. -/
theorem drained_inside (hin : r.inDirective = true) (hlive : r.last.kind ≠ .eof) :
    Drained root opened d r := by
  induction hsize : r.size using Nat.strongRecOn generalizing r d with
  | ind n ih =>
    cases h : r.advance with
    | error e =>
      have hrun := Grammar.run_of_error hlive h
      exact .fault (drain_of_error root opened d h) (by rw [hrun]; rfl) (by rw [hrun])
    | ok r' =>
      have hrun := Grammar.run_of_ok hlive h
      have hlt : r'.size < n := hsize ▸ Reader.advance_size_lt hlive h
      have hdrain := drain_of_ok root opened d h
      have hshift := Reader.shift_advance hlive h
      rw [hin] at hshift
      generalize hkind : r'.last.kind = kind at hshift hdrain
      generalize hinside : r'.inDirective = inside at hshift
      cases hshift with
      | part hpart =>
        have hlive' : r'.last.kind ≠ .eof := by
          rw [hkind]
          rcases hpart with rfl | rfl <;> decide
        rcases hpart with rfl | rfl
        · refine (ih _ hlt hinside hlive' rfl).behindPart hdrain ?_ (by rw [hrun])
          rw [hrun, Draft.read]
          simp only [hkind]
        · refine (ih _ hlt hinside hlive' rfl).behindPart hdrain ?_ (by rw [hrun])
          rw [hrun, Draft.read]
          simp only [hkind]
      | closing =>
        refine .closed hdrain ?_ (by rw [hrun]) hkind hinside
        rw [hrun, Draft.read]
        simp only [hkind]

end Draft

/-! ## The loop over a file -/

/-- Whether a reader is outside of directive tags and not at its end. -/
def Reader.Outside (r : Reader) : Prop := r.inDirective = false ∧ r.last.kind ≠ .eof

namespace Turn

/-- The move a turn makes, as told by the reports that are left. -/
def move (putOff : Bool) : Turn → Move
  | fault _ g => .stop g
  | finished g => .advance putOff [] g
  | unexpected _ g => .stop g
  | next _ putOff r g => .advance putOff r.run.1 g
  | .include d _ r g => .include d r.run.1 g

/-- The fault that cuts the file short. -/
def fault? : Turn → Option ScanError
  | fault e _ => some e
  | finished _ => none
  | unexpected _ _ => none
  | next _ _ r _ => r.run.2
  | .include _ _ r _ => r.run.2

/-- Whether the loop has a use for all reports and goes on, if it does, with the next one. -/
def Regular : Turn → Prop
  | fault _ _ => True
  | finished _ => True
  | unexpected _ _ => False
  | next again _ r _ => again = false ∧ r.Outside
  | .include _ again r _ => again = false ∧ r.Outside

/-- Whether a turn makes a move of a file with the reports `es`, cut short by `fault`. -/
structure Makes (root : Text) (imported putOff : Bool) (g : Gathered) (es : List Event)
    (fault : Option ScanError) (t : Turn) : Prop where
  regular : t.Regular
  move : t.move putOff = nextMove root imported putOff es g
  fault : t.fault? = fault

variable {root : Text} {imported putOff : Bool} {g : Gathered} {r : Reader}

theorem makes_ofTag (hkind : r.last.kind = .directive)
    (h : Draft.Drained root r.last.tagStart .empty r) :
    Makes root imported putOff g (r.last :: r.run.1) r.run.2
      (ofTag putOff g (Draft.drain root r.last.tagStart .empty r)) := by
  cases h with
  | fault hdrain hread hfault =>
    rw [hdrain]
    refine ⟨trivial, ?_, hfault.symm⟩
    simp only [nextMove, hkind, hread]
    rfl
  | @closed draft r' hdrain hread hfault hkind' hout =>
    have hnext : (r'.last.kind != .directive && r'.last.kind != .eof) = false := by simp [hkind']
    have houtside : r'.Outside := ⟨hout, by rw [hkind']; decide⟩
    rw [hdrain]
    simp only [ofTag, hnext]
    cases hdirective : draft.directive with
    | none =>
      refine ⟨⟨rfl, houtside⟩, ?_, hfault⟩
      simp only [nextMove, hkind, hread, hdirective]
      rfl
    | some d =>
      dsimp only
      split
      · next hinclude =>
        refine ⟨⟨rfl, houtside⟩, ?_, hfault⟩
        simp only [nextMove, hkind, hread, hdirective, if_pos hinclude]
        rfl
      · next hother =>
        refine ⟨⟨rfl, houtside⟩, ?_, hfault⟩
        simp only [nextMove, hkind, hread, hdirective, if_neg hother]
        rfl

theorem makes_ofPiece (hout : r.inDirective = false) (hpiece : r.last.kind.IsPiece) :
    Makes root imported putOff g (r.last :: r.run.1) r.run.2
      (ofReport root imported putOff r g) := by
  have houtside : r.Outside := by
    refine ⟨hout, ?_⟩
    rcases hpiece with hkind | hkind | hkind | hkind <;> rw [hkind] <;> decide
  unfold ofReport
  rcases hpiece with hkind | hkind | hkind | hkind
  all_goals
    simp only [hkind]
    refine ⟨⟨rfl, houtside⟩, ?_, rfl⟩
    simp only [nextMove, hkind]
    rfl

end Turn

/-- **One turn** that starts outside of directive tags makes the move of the reports that are left,
and the next one starts outside again. -/
theorem turn_outside {r : Reader} (h : r.Outside) (root : Text) (imported putOff : Bool)
    (g : Gathered) :
    Turn.Makes root imported putOff g r.run.1 r.run.2 (turn root imported putOff false r g) := by
  unfold turn
  rw [if_neg Bool.false_ne_true]
  cases hadvance : r.advance with
  | error e =>
    rw [Grammar.run_of_error h.2 hadvance]
    exact ⟨trivial, rfl, rfl⟩
  | ok r' =>
    rw [Grammar.run_of_ok h.2 hadvance]
    have hshift := Reader.shift_advance h.2 hadvance
    rw [h.1] at hshift
    generalize hkind : r'.last.kind = kind at hshift
    generalize hinside : r'.inDirective = inside at hshift
    cases hshift with
    | eof =>
      rw [Grammar.run_of_eof hkind]
      simp only [Turn.ofReport, hkind]
      refine ⟨trivial, ?_, rfl⟩
      simp only [nextMove, hkind]
      rfl
    | piece hpiece => exact Turn.makes_ofPiece hinside (hkind ▸ hpiece)
    | opening =>
      have hdrained : Draft.Drained root r'.last.tagStart .empty r' :=
        Draft.drained_inside hinside (by rw [hkind]; decide)
      simp only [Turn.ofReport, hkind]
      exact Turn.makes_ofTag hkind hdrained

theorem Head.outside {root file content : Text} {imported again : Bool} {r : Reader}
    (h : Head root file content imported again r) : again = false ∧ r.Outside := by
  induction h with
  | start => exact ⟨rfl, rfl, nofun⟩
  | @goOn _ _ putOff _ _ _ g _ _ hturn ih =>
    obtain ⟨rfl, houtside⟩ := ih
    have hregular := (turn_outside houtside root imported putOff g).regular
    rw [hturn] at hregular
    exact hregular
  | @behindInclude _ _ putOff _ _ g _ _ _ hturn ih =>
    obtain ⟨rfl, houtside⟩ := ih
    have hregular := (turn_outside houtside root imported putOff g).regular
    rw [hturn] at hregular
    exact hregular

/-- Whether the turn that starts at a reader takes a report of its own, has a use for it, finds the
end of each tag that it opens, and makes the move of the reports that are left. -/
structure WellTurned (root : Text) (imported again : Bool) (r : Reader) : Prop where
  fresh : again = false
  expected (putOff : Bool) (g : Gathered) (kind : EventKind) (g' : Gathered) :
    turn root imported putOff again r g ≠ .unexpected kind g'
  closes {r' : Reader} (hadvance : r.advance = .ok r') (hkind : r'.last.kind = .directive)
    (opened : Location) (d : Draft) : (Draft.drain root opened d r').2.1 ≠ .unclosed
  move (putOff : Bool) (g : Gathered) :
    (turn root imported putOff again r g).move putOff = nextMove root imported putOff r.run.1 g
  fault (putOff : Bool) (g : Gathered) : (turn root imported putOff again r g).fault? = r.run.2

theorem Reader.Outside.wellTurned {r : Reader} (h : r.Outside) (root : Text) (imported : Bool) :
    WellTurned root imported false r where
  fresh := rfl
  expected putOff g kind g' hturn := by
    have hregular := (turn_outside h root imported putOff g).regular
    rw [hturn] at hregular
    exact hregular
  closes {r'} hadvance hkind opened d hunclosed := by
    have hshift := Reader.shift_advance h.2 hadvance
    rw [h.1, hkind] at hshift
    have hdrained : Draft.Drained root opened d r' :=
      Draft.drained_inside hshift.inside_of_directive (by rw [hkind]; decide)
    cases hdrained with
    | fault hdrain =>
      rw [hdrain] at hunclosed
      cases hunclosed
    | closed hdrain =>
      rw [hdrain] at hunclosed
      cases hunclosed
  move putOff g := (turn_outside h root imported putOff g).move
  fault putOff g := (turn_outside h root imported putOff g).fault

/-- **Reports are well formed, and so is what the loop over a file does with them**: the calls for a
text of `n` bytes end after at most `n + 1`, and no turn gives up on a report or leaves a tag without
its closing. -/
theorem wellReported_and_wellTurned (root file content : Text) (imported : Bool) :
    (∃ n ≤ content.length + 1, (Reader.ofFile file content).WellReported n) ∧
      ∀ again r, Head root file content imported again r → WellTurned root imported again r := by
  have hsize : (Reader.ofFile file content).size = content.length + 1 := rfl
  refine ⟨hsize ▸ Reader.exists_wellReported rfl (by simp [Reader.ofFile]), fun again r h => ?_⟩
  obtain ⟨rfl, houtside⟩ := h.outside
  exact houtside.wellTurned root imported

/-- The turn that reads the tag of such a text is the second one. -/
theorem wellReported_and_wellTurned_tag :
    let r := Reader.ofFile (utf8 "t.tt") (utf8 "A<#@ x #>")
    Head (utf8 "t.tt") (utf8 "t.tt") (utf8 "A<#@ x #>") false false r.readContent ∧
      (∃ n ≤ 10, r.WellReported n) ∧ WellTurned (utf8 "t.tt") false false r.readContent := by
  intro r
  have hturn : turn (utf8 "t.tt") false false false r (.ofRoot (utf8 "t.tt")) =
      .next false false r.readContent
        ((Gathered.ofRoot (utf8 "t.tt")).addPiece false .content r.readContent.last) := by rfl
  have hhead : Head (utf8 "t.tt") (utf8 "t.tt") (utf8 "A<#@ x #>") false false r.readContent :=
    .goOn .start hturn
  obtain ⟨hreported, hturned⟩ :=
    wellReported_and_wellTurned (utf8 "t.tt") (utf8 "t.tt") (utf8 "A<#@ x #>") false
  exact ⟨hhead, hreported, hturned false _ hhead⟩

end TextTemplate
