/-
What a parse asks its loader. Every request is kept with the template, so a loader that answers those
requests alike gives the same template, whatever it answers otherwise.
-/
import TextTemplate.Template.Parsed

namespace TextTemplate

/-! ## Requests are only added -/

namespace Gathered

@[simp] theorem requests_error (g : Gathered) (root text : Text) (l : Location) :
    (g.error root text l).requests = g.requests := rfl

@[simp] theorem requests_note (g : Gathered) (draft : Draft) :
    (g.note draft).requests = g.requests := rfl

@[simp] theorem requests_request (g : Gathered) (file from_ : Text) :
    (g.request file from_).requests = g.requests ++ [(file, from_)] := rfl

@[simp] theorem requests_push (g : Gathered) (name : Text) :
    (g.push name).requests = g.requests := rfl

@[simp] theorem requests_pop (g : Gathered) (name : Text) :
    (g.pop name).requests = g.requests := rfl

@[simp] theorem requests_add (g : Gathered) (putOff : Bool) (s : Segment) :
    (g.add putOff s).requests = g.requests := by
  unfold add
  split <;> rfl

@[simp] theorem requests_addPiece (g : Gathered) (putOff : Bool) (kind : PieceKind) (e : Event) :
    (g.addPiece putOff kind e).requests = g.requests := by
  unfold addPiece
  split
  · rfl
  · exact requests_add g putOff _

@[simp] theorem requests_visit (g : Gathered) (key : Text) :
    (g.visit key).requests = g.requests := by
  unfold visit
  split <;> rfl

@[simp] theorem requests_complainOnce (g : Gathered) (root : Text) (d : Directive) :
    (g.complainOnce root d).requests = g.requests := by
  unfold complainOnce
  split <;> rfl

end Gathered

/-- A move asks for nothing. -/
theorem requests_nextMove (root : Text) (imported putOff : Bool) (events : List Event)
    (g : Gathered) : (nextMove root imported putOff events g).gathered.requests = g.requests := by
  cases events with
  | nil => rfl
  | cons e rest =>
    rw [nextMove]
    cases e.kind with
    | directive =>
      obtain ⟨draft, _ | behind⟩ := Draft.read root e.tagStart .empty rest
      · rfl
      · cases hd : draft.directive with
        | none => simp [hd, Move.gathered]
        | some d => by_cases hi : d.is (utf8 "include") <;> simp [hd, hi, Move.gathered]
    | _ => simp [Move.gathered]

theorem requests_includeFound (root : Text) (d : Directive) (raw content resolved : Text)
    (g : Gathered) : (includeFound root d raw content resolved g).gathered.requests = g.requests := by
  unfold includeFound
  split
  · rfl
  · split <;> simp [IncludeStep.gathered]

/-! ## Loaders that answer alike -/

/-- Two loaders answer these requests alike. -/
def Loader.Agree (load load' : Loader) (requests : List (Text × Text)) : Prop :=
  ∀ q ∈ requests, load' q.1 q.2 = load q.1 q.2

/-- Deciding on an include directive asks for at most one file, and keeps the request. -/
theorem includeStep_agree (load load' : Loader) (root : Text) (d : Directive) (g : Gathered) :
    g.requests <+: (includeStep (some load) root d g).gathered.requests ∧
      (Loader.Agree load load' (includeStep (some load) root d g).gathered.requests →
        includeStep (some load') root d g = includeStep (some load) root d g) := by
  unfold includeStep
  cases d.attributes.get? (utf8 "file") with
  | none => exact ⟨List.prefix_rfl, fun _ => rfl⟩
  | some raw =>
    unfold includeNamed
    dsimp only
    cases hload : load (Text.replace [0x5C] [0x2F] raw) d.span.start.file with
    | none =>
      simp only [IncludeStep.gathered, Gathered.requests_error, Gathered.requests_request,
        Gathered.requests_complainOnce]
      refine ⟨List.prefix_append _ _, fun hagree => ?_⟩
      rw [show load' _ _ = none from (hagree _ (List.mem_append_right _ (.head _))).trans hload]
    | some found =>
      simp only [requests_includeFound, Gathered.requests_request, Gathered.requests_complainOnce]
      refine ⟨List.prefix_append _ _, fun hagree => ?_⟩
      rw [show load' _ _ = some found from
        (hagree _ (List.mem_append_right _ (.head _))).trans hload]

/-- What an expansion returns it returns with every loader that answers its requests alike. -/
theorem expand?_agree (load load' : Loader) (root : Text) :
    (∀ file g r, expand? (some load) root file g = some r →
      g.requests <+: r.1.requests ∧
        (Loader.Agree load load' r.1.requests → expand? (some load') root file g = some r)) ∧
    (∀ d g r, include? (some load) root d g = some r →
      g.requests <+: r.1.requests ∧
        (Loader.Agree load load' r.1.requests → include? (some load') root d g = some r)) := by
  refine expand?.mutual_partial_correctness (some load) root
    (fun file g r => g.requests <+: r.1.requests ∧
      (Loader.Agree load load' r.1.requests → expand? (some load') root file g = some r))
    (fun d g r => g.requests <+: r.1.requests ∧
      (Loader.Agree load load' r.1.requests → include? (some load') root d g = some r)) ?_ ?_
  · intro expand include_ ihe ihi file g r h
    have hmove := requests_nextMove root file.imported file.putOff file.events g
    rw [expand?]
    split at h
    · next g' hnext =>
      rw [hnext] at hmove
      cases h
      exact ⟨hmove ▸ List.prefix_rfl, fun _ => rfl⟩
    · next putOff rest g' hnext =>
      rw [hnext] at hmove
      obtain ⟨hgrows, hrest⟩ := ihe _ _ _ h
      exact ⟨hmove ▸ hgrows, hrest⟩
    · next d rest g' hnext =>
      rw [hnext] at hmove
      simp only [Option.bind_eq_bind, Option.bind_eq_some_iff] at h
      obtain ⟨⟨g'', fault⟩, hi, h⟩ := h
      obtain ⟨hgrows, hinclude⟩ := ihi _ _ _ hi
      rw [show g'.requests = g.requests from hmove] at hgrows
      cases fault with
      | some e =>
        cases h
        exact ⟨hgrows, fun hagree => by simp [hinclude hagree]⟩
      | none =>
        obtain ⟨hlater, hrest⟩ := ihe _ _ _ h
        refine ⟨hgrows.trans hlater, fun hagree => ?_⟩
        have hearlier : Loader.Agree load load' g''.requests :=
          fun q hq => hagree q (hlater.subset hq)
        simp [hinclude hearlier, hrest hagree]
  · intro expand ihe d g r h
    obtain ⟨hgrows, hsame⟩ := includeStep_agree load load' root d g
    split at h
    · next g' hstep =>
      rw [hstep] at hgrows hsame
      cases h
      refine ⟨hgrows, fun hagree => ?_⟩
      rw [include?, hsame hagree]
    · next content resolved g' hstep =>
      rw [hstep] at hgrows hsame
      simp only [Option.bind_eq_bind, Option.bind_eq_some_iff, Option.some.injEq] at h
      obtain ⟨⟨g'', fault⟩, he, rfl⟩ := h
      obtain ⟨hlater, hrest⟩ := ihe _ _ _ he
      refine ⟨hgrows.trans hlater, fun hagree => ?_⟩
      rw [include?, hsame fun q hq => hagree q (hlater.subset hq)]
      simp [hrest hagree]

/-- **A parse asks for what it keeps as requests, and for nothing else.** -/
theorem Template.parse?_agree {load load' : Loader} {root source : Text} {t : Template}
    (h : parse? root source (some load) = some t) (hagree : Loader.Agree load load' t.requests) :
    parse? root source (some load') = some t := by
  simp only [parse?, Option.map_eq_some_iff] at h ⊢
  obtain ⟨⟨g, fault⟩, hexpand, rfl⟩ := h
  refine ⟨(g, fault), ((expand?_agree load load' root).1 _ _ _ hexpand).2 ?_, rfl⟩
  cases fault <;> exact hagree

theorem Template.parse?_includes (root source : Text) (includes : Includes) :
    parse? root source (some includes.load) = some (parse root source (some includes)) :=
  (Option.some_get (parse?_includes_isSome root source (some includes))).symm

end TextTemplate
