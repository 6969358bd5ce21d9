/-
Attributes as a map with one listing. Whatever sequence of settings made them, the entries increase
by key (`increasing_ofList`), and there is one entry for each key that was set, in the spelling it
was set with last (`mem_names_ofList`). Taking attributes out leaves the others as they are.
-/
import Mathlib.Data.List.Induction
import TextTemplate.Template.Attributes

namespace TextTemplate

/-- The order of texts is the lexicographic order of their bytes. -/
theorem Text.blt_iff_lt {s t : Text} : s.blt t = true ↔ s < t := by
  induction s generalizing t with
  | nil => cases t <;> simp [blt]
  | cons a s ih =>
    cases t with
    | nil => simp [blt]
    | cons b t => simp [blt, List.cons_lt_cons_iff, ih]

namespace Attributes

variable {as : Attributes} {name other : Text}

/-! ## Taking attributes out -/

/-- An attribute that was taken out is not there. -/
theorem get?_erase (as : Attributes) (name : Text) : (as.erase name).get? name = none := by
  simp [get?, erase, List.find?_filter]

theorem get?_erase_other (as : Attributes) (h : other.lower ≠ name.lower) :
    (as.erase name).get? other = as.get? other := by
  simp only [get?, erase, List.find?_filter]
  congr 2
  funext a
  by_cases ha : a.key = other.lower
  · simp [ha, h]
  · simp [ha]

theorem erase_of_get?_none (h : as.get? name = none) : as.erase name = as := by
  simp only [get?, Option.map_eq_none_iff, List.find?_eq_none, beq_iff_eq] at h
  rw [erase, List.filter_eq_self.2 fun a ha => by simpa using h a ha]

theorem extract?_eq (as : Attributes) (name : Text) :
    as.extract? name = (as.get? name, as.erase name) := by
  unfold extract?
  split
  · next value hvalue => rw [hvalue]
  · next hnone => rw [hnone, erase_of_get?_none hnone]

/-- What is left when several attributes were taken out. -/
theorem names_foldl_erase (as : Attributes) (keys : List Text) :
    (keys.foldl erase as).names = as.names.filter fun n => n.lower ∉ keys.map Text.lower := by
  induction keys generalizing as with
  | nil => exact (List.filter_eq_self.2 fun _ _ => by simp).symm
  | cons key keys ih =>
    rw [List.foldl_cons, ih, names, names, erase, List.filter_map, List.filter_map,
      List.filter_filter]
    congr 1
    apply List.filter_congr
    intro a _
    rw [Bool.eq_iff_iff]
    simp [Attribute.key, and_comm]

/-! ## Setting attributes -/

/-- The entries increase by key, so no key comes twice. -/
def Increasing (entries : List Attribute) : Prop := entries.Pairwise fun a b => a.key < b.key

theorem mem_insert {a b : Attribute} {entries : List Attribute} (hb : b ∈ insert a entries) :
    b = a ∨ b ∈ entries := by
  induction entries with
  | nil => simpa [insert] using hb
  | cons c entries ih =>
    simp only [insert] at hb
    split at hb
    · exact (List.mem_cons.1 hb).imp_right (List.mem_cons_of_mem _)
    · split at hb
      · exact List.mem_cons.1 hb
      · rcases List.mem_cons.1 hb with rfl | hb
        · exact .inr List.mem_cons_self
        · exact (ih hb).imp_right (List.mem_cons_of_mem _)

theorem increasing_insert {a : Attribute} {entries : List Attribute} (h : Increasing entries) :
    Increasing (insert a entries) := by
  induction entries with
  | nil => exact List.pairwise_singleton _ _
  | cons b entries ih =>
    obtain ⟨hb, hentries⟩ := List.pairwise_cons.1 h
    rw [insert]
    split
    · next hkey => exact List.pairwise_cons.2 ⟨fun c hc => hkey ▸ hb c hc, hentries⟩
    · next hkey =>
      split
      · next hlt =>
        have hab : a.key < b.key := Text.blt_iff_lt.1 hlt
        refine List.pairwise_cons.2 ⟨fun c hc => ?_, h⟩
        rcases List.mem_cons.1 hc with rfl | hc
        · exact hab
        · exact List.lt_trans hab (hb c hc)
      · next hlt =>
        have hba : b.key < a.key := by
          rw [Text.blt_iff_lt] at hlt
          grind
        refine List.pairwise_cons.2 ⟨fun c hc => ?_, ih hentries⟩
        rcases mem_insert hc with rfl | hc
        · exact hba
        · exact hb c hc

/-- Setting an attribute replaces the one of its key and keeps the others. -/
theorem mem_insert_iff {a b : Attribute} {entries : List Attribute} (h : Increasing entries) :
    b ∈ insert a entries ↔ b = a ∨ (b ∈ entries ∧ b.key ≠ a.key) := by
  induction entries with
  | nil => simp [insert]
  | cons c entries ih =>
    obtain ⟨hc, hentries⟩ := List.pairwise_cons.1 h
    -- what stands behind `c` has another key than anything up to `c`
    have hbehind : ∀ d ∈ entries, c.key < d.key := hc
    have hne {s t : Text} (hlt : s < t) : t ≠ s := fun heq => List.lt_irrefl s (heq ▸ hlt)
    rw [insert]
    split
    · next hkey =>
      simp only [List.mem_cons]
      constructor
      · rintro (rfl | hb)
        · exact .inl rfl
        · exact .inr ⟨.inr hb, hkey ▸ hne (hbehind b hb)⟩
      · rintro (rfl | ⟨rfl | hb, hother⟩)
        · exact .inl rfl
        · exact absurd hkey.symm hother
        · exact .inr hb
    · next hkey =>
      split
      · next hlt =>
        have hac : a.key < c.key := Text.blt_iff_lt.1 hlt
        rw [List.mem_cons]
        refine or_congr_right ⟨fun hb => ⟨hb, ?_⟩, And.left⟩
        rcases List.mem_cons.1 hb with rfl | hb
        · exact hne hac
        · exact hne (List.lt_trans hac (hbehind b hb))
      · rw [List.mem_cons, ih hentries, List.mem_cons]
        constructor
        · rintro (rfl | rfl | ⟨hb, hother⟩)
          · exact .inr ⟨.inl rfl, Ne.symm hkey⟩
          · exact .inl rfl
          · exact .inr ⟨.inr hb, hother⟩
        · rintro (rfl | ⟨rfl | hb, hother⟩)
          · exact .inr (.inl rfl)
          · exact .inl rfl
          · exact .inr (.inr ⟨hb, hother⟩)

theorem ofList_concat (pairs : List (Text × Text)) (p : Text × Text) :
    ofList (pairs ++ [p]) = (ofList pairs).set p.1 p.2 := by
  simp [ofList]

theorem increasing_ofList (pairs : List (Text × Text)) : Increasing (ofList pairs).entries := by
  induction pairs using List.reverseRecOn with
  | nil => exact .nil
  | append_singleton pairs p ih =>
    rw [ofList_concat]
    exact increasing_insert ih

/-! ## The listing -/

/-- The name and the value a key was set with last. -/
def lastSetting (pairs : List (Text × Text)) (key : Text) : Option (Text × Text) :=
  pairs.reverse.find? (·.1.lower == key)

theorem lastSetting_concat (pairs : List (Text × Text)) (p : Text × Text) (key : Text) :
    lastSetting (pairs ++ [p]) key = if p.1.lower = key then some p else lastSetting pairs key := by
  by_cases hkey : p.1.lower = key <;> simp [lastSetting, hkey]

theorem lower_of_lastSetting {pairs : List (Text × Text)} {key : Text} {p : Text × Text}
    (h : lastSetting pairs key = some p) : p.1.lower = key := by
  simpa using List.find?_some h

theorem lastSetting_eq_none {pairs : List (Text × Text)} {key : Text} :
    lastSetting pairs key = none ↔ ∀ p ∈ pairs, p.1.lower ≠ key := by
  simp [lastSetting]

theorem mem_names {as : Attributes} {n : Text} : n ∈ as.names ↔ ∃ a ∈ as.entries, a.name = n :=
  List.mem_map

/-- An attribute is there exactly when it is the last setting of its key. -/
theorem mem_ofList (pairs : List (Text × Text)) (a : Attribute) :
    a ∈ (ofList pairs).entries ↔ lastSetting pairs a.key = some (a.name, a.value) := by
  induction pairs using List.reverseRecOn with
  | nil => simp [ofList, empty, lastSetting]
  | append_singleton pairs p ih =>
    rw [ofList_concat, lastSetting_concat, set, mem_insert_iff (increasing_ofList pairs), ih,
      Attribute.key]
    split
    · next hkey =>
      rw [Option.some.injEq]
      constructor
      · rintro (rfl | ⟨-, hother⟩)
        · rfl
        · exact absurd hkey.symm hother
      · rintro rfl
        exact .inl rfl
    · next hkey =>
      constructor
      · rintro (rfl | ⟨hlast, -⟩)
        · exact absurd rfl hkey
        · exact hlast
      · exact fun hlast => .inr ⟨hlast, Ne.symm hkey⟩

theorem get?_ofList (pairs : List (Text × Text)) (name : Text) :
    (ofList pairs).get? name = (lastSetting pairs name.lower).map Prod.snd := by
  unfold get?
  cases hfind : (ofList pairs).entries.find? (·.key == name.lower) with
  | none =>
    cases hlast : lastSetting pairs name.lower with
    | none => rfl
    | some p =>
      have hkey : p.1.lower = name.lower := lower_of_lastSetting hlast
      have hmem : ⟨p.1, p.2⟩ ∈ (ofList pairs).entries :=
        (mem_ofList pairs _).2 (by rw [Attribute.key, hkey, hlast])
      simpa [Attribute.key, hkey] using List.find?_eq_none.1 hfind _ hmem
  | some a =>
    have hkey : a.key = name.lower := by simpa using List.find?_some hfind
    have hlast := (mem_ofList pairs a).1 (List.mem_of_find?_eq_some hfind)
    rw [← hkey, hlast]
    rfl

/-- A name is listed exactly when it is the last spelling of its key. -/
theorem mem_names_ofList (pairs : List (Text × Text)) (n : Text) :
    n ∈ (ofList pairs).names ↔ (lastSetting pairs n.lower).map Prod.fst = some n := by
  rw [mem_names, Option.map_eq_some_iff]
  constructor
  · rintro ⟨a, ha, rfl⟩
    exact ⟨_, (mem_ofList pairs a).1 ha, rfl⟩
  · rintro ⟨p, hp, rfl⟩
    exact ⟨⟨p.1, p.2⟩, (mem_ofList pairs _).2 hp, rfl⟩

/-- The listing increases by lower-cased name. -/
theorem names_increasing (pairs : List (Text × Text)) :
    (ofList pairs).names.Pairwise fun n m => n.lower < m.lower :=
  List.pairwise_map.2 (increasing_ofList pairs)

/-! ## What is left when known attributes are out -/

/-- Whether a list gives the attributes among `pairs` whose names are none of `keys`, without regard
to letter case: each once, in the spelling that comes last, increasing by lower-cased name. -/
structure Lists (keys : List Text) (pairs : List (Text × Text)) (names : List Text) : Prop where
  increasing : names.Pairwise fun n m => n.lower < m.lower
  mem : ∀ n, n ∈ names ↔
    (lastSetting pairs n.lower).map Prod.fst = some n ∧ n.lower ∉ keys.map Text.lower

namespace Lists

variable {keys names names' : List Text} {pairs pairs' : List (Text × Text)}

/-- Nothing is listed exactly when every name is known. -/
theorem eq_nil_iff (h : Lists keys pairs names) :
    names = [] ↔ ∀ p ∈ pairs, p.1.lower ∈ keys.map Text.lower := by
  rw [List.eq_nil_iff_forall_not_mem]
  constructor
  · intro hnone p hp
    by_contra hunknown
    cases hlast : lastSetting pairs p.1.lower with
    | none => exact lastSetting_eq_none.1 hlast p hp rfl
    | some last =>
      have hkey : last.1.lower = p.1.lower := lower_of_lastSetting hlast
      refine hnone last.1 ((h.mem last.1).2 ⟨?_, hkey ▸ hunknown⟩)
      rw [hkey, hlast, Option.map_some]
  · intro hknown n hn
    obtain ⟨hlast, hunknown⟩ := (h.mem n).1 hn
    obtain ⟨p, hp, rfl⟩ := Option.map_eq_some_iff.1 hlast
    exact hunknown (hknown p (List.mem_reverse.1 (List.mem_of_find?_eq_some hp)))

/-- The list depends on the last spellings of the unknown names alone. -/
theorem congr (h : Lists keys pairs names) (h' : Lists keys pairs' names')
    (hsame : ∀ key ∉ keys.map Text.lower,
      (lastSetting pairs key).map Prod.fst = (lastSetting pairs' key).map Prod.fst) :
    names = names' := by
  have hmem : ∀ n, n ∈ names ↔ n ∈ names' := fun n => by
    rw [h.mem, h'.mem]
    exact and_congr_left fun hunknown => by rw [hsame _ hunknown]
  have hnodup {names : List Text} (hi : names.Pairwise fun n m => n.lower < m.lower) :
      names.Nodup := by
    refine hi.imp fun {n m} hlt heq => ?_
    rw [heq] at hlt
    exact List.lt_irrefl _ hlt
  refine ((List.perm_ext_iff_of_nodup (hnodup h.increasing) (hnodup h'.increasing)).2
    hmem).eq_of_pairwise (fun n m _ _ hlt hgt => ?_) h.increasing h'.increasing
  exact absurd (List.lt_trans hlt hgt) (List.lt_irrefl _)

end Lists

theorem lists_foldl_erase (pairs : List (Text × Text)) (keys : List Text) :
    Lists keys pairs (keys.foldl erase (ofList pairs)).names := by
  rw [names_foldl_erase]
  refine ⟨(names_increasing pairs).filter _, fun n => ?_⟩
  rw [List.mem_filter, mem_names_ofList, decide_eq_true_iff]

end Attributes
end TextTemplate
