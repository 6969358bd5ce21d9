/-
Attributes over a run of calls: a map that answers for a name in any letter case, with one listing.

A call is told entry by entry (`AttributeCall.mem_run`): a setting stands in the place of the entry
of its key, every other call takes that entry out. So the entries behind a run are the settings that
no later call for their key follows (`mem_foldl_run`), and they increase by key throughout.

A table holds the same entries and has no order. They may be passed in any, and a sort by the
lower-cased names may leave names of one key as it likes: what comes out is the listing
(`eq_names_of_sortsTo`), because no two entries have one key.
-/
import Mathlib.Data.List.Nodup
import Mathlib.Logic.Function.Basic
import TextTemplate.Proofs.Settings.Effect

namespace TextTemplate

/-! ## The entries and what they answer -/

namespace Attributes

variable {as : Attributes} {name value : Text}

theorem nodup_keys {entries : List Attribute} (h : Increasing entries) :
    (entries.map Attribute.key).Nodup := by
  refine List.pairwise_map.2 (h.imp fun {a b} hlt heq => ?_)
  rw [heq] at hlt
  exact List.lt_irrefl _ hlt

theorem get?_eq_some_iff (h : Increasing as.entries) :
    as.get? name = some value ↔ ∃ a ∈ as.entries, a.key = name.lower ∧ a.value = value := by
  rw [get?, Option.map_eq_some_iff]
  constructor
  · rintro ⟨a, hfind, hvalue⟩
    exact ⟨a, List.mem_of_find?_eq_some hfind, by simpa using List.find?_some hfind, hvalue⟩
  · rintro ⟨a, ha, hkey, hvalue⟩
    cases hfind : as.entries.find? (·.key == name.lower) with
    | none => exact absurd (by simpa using hkey) (List.find?_eq_none.1 hfind a ha)
    | some b =>
      have hsame : b.key = a.key := by
        rw [hkey]
        simpa using List.find?_some hfind
      have hb := List.inj_on_of_nodup_map (nodup_keys h) (List.mem_of_find?_eq_some hfind) ha hsame
      exact ⟨b, rfl, hb ▸ hvalue⟩

end Attributes

/-! ## Calls -/

/-- A call on the attributes of a directive. -/
inductive AttributeCall where
  | set (name value : Text)
  | delete (name : Text)
  | extract (name : Text)
  | extractOr (name default : Text)
  | extractBool (name : Text) (default : Bool)
  deriving DecidableEq, Repr

namespace AttributeCall

open Attributes (Increasing)

/-- The name a call is for. -/
def name : AttributeCall → Text
  | set name _ => name
  | delete name => name
  | extract name => name
  | extractOr name _ => name
  | extractBool name _ => name

/-- What the attribute a call is for is found by. -/
def key (c : AttributeCall) : Text := c.name.lower

/-- The attribute a call sets, if it sets one. -/
def setting? : AttributeCall → Option Attribute
  | set name value => some ⟨name, value⟩
  | _ => none

/-- Whether a call takes an attribute out to answer with its value. -/
def isExtraction : AttributeCall → Bool
  | extract _ => true
  | extractOr _ _ => true
  | extractBool _ _ => true
  | _ => false

/-- The directive after a call. -/
def run (d : Directive) : AttributeCall → Directive
  | set name value => { d with attributes := d.attributes.set name value }
  | delete name => { d with attributes := d.attributes.erase name }
  | extract name => { d with attributes := (d.attributes.extract? name).2 }
  | extractOr name default => { d with attributes := (d.attributes.extractOr name default).2 }
  | extractBool name default => (d.extractBool name default).2

/-- Whether calls leave an attribute: one of them sets it, and none behind that is for its key. -/
def Leaves (calls : List AttributeCall) (a : Attribute) : Prop :=
  ∃ before after, calls = before ++ set a.name a.value :: after ∧ ∀ c ∈ after, c.key ≠ a.key

variable {c : AttributeCall} {calls : List AttributeCall} {d : Directive} {a : Attribute}

theorem setting?_eq_some_iff : c.setting? = some a ↔ c = set a.name a.value := by
  cases c with
  | set name value =>
    simp only [setting?, Option.some.injEq, set.injEq]
    constructor
    · rintro rfl
      exact ⟨rfl, rfl⟩
    · rintro ⟨rfl, rfl⟩
      rfl
  | _ => simp [setting?]

theorem setting?_of_isExtraction (h : c.isExtraction = true) : c.setting? = none := by
  cases c with
  | set name value => cases h
  | _ => rfl

/-- All calls but settings take an attribute out, and leave the rest of the directive. -/
theorem run_of_setting?_none (h : c.setting? = none) (d : Directive) :
    c.run d = { d with attributes := d.attributes.erase c.name } := by
  cases c with
  | set name value => cases h
  | delete name => rfl
  | extract name => rw [run, Attributes.extract?_eq, AttributeCall.name]
  | extractOr name default =>
    rw [run, Attributes.extractOr, Attributes.extract?_eq, AttributeCall.name]
  | extractBool name default => exact congrArg Prod.snd (d.extractBool_eq name default)

theorem increasing_run (h : Increasing d.attributes.entries) :
    Increasing (c.run d).attributes.entries := by
  cases hset : c.setting? with
  | none =>
    rw [run_of_setting?_none hset]
    exact h.filter _
  | some a =>
    rw [setting?_eq_some_iff.1 hset]
    exact Attributes.increasing_insert h

/-- **One call**: the attribute it sets stands for its key; those that have another key stay. -/
theorem mem_run (h : Increasing d.attributes.entries) :
    a ∈ (c.run d).attributes.entries ↔
      c = set a.name a.value ∨ (a ∈ d.attributes.entries ∧ c.key ≠ a.key) := by
  cases hset : c.setting? with
  | none =>
    have hother : ¬c = set a.name a.value := by
      rw [← setting?_eq_some_iff, hset]
      exact Option.some_ne_none a ∘ Eq.symm
    rw [run_of_setting?_none hset, or_iff_right hother, Attributes.erase, List.mem_filter,
      bne_iff_ne]
    exact and_congr_right fun _ => ne_comm
  | some b =>
    obtain rfl := setting?_eq_some_iff.1 hset
    rw [← setting?_eq_some_iff, hset, Option.some.injEq, run, Attributes.set,
      Attributes.mem_insert_iff h]
    exact or_congr eq_comm (and_congr_right fun _ => ne_comm)

theorem leaves_concat :
    Leaves (calls ++ [c]) a ↔ c = set a.name a.value ∨ (Leaves calls a ∧ c.key ≠ a.key) := by
  constructor
  · rintro ⟨before, after, heq, hafter⟩
    rcases List.eq_nil_or_concat' after with rfl | ⟨after, last, rfl⟩
    · exact .inl (List.concat_inj.1 (by simpa using heq)).2
    · have hsplit : calls = before ++ set a.name a.value :: after ∧ c = last := by
        rw [← List.cons_append, ← List.append_assoc] at heq
        simpa using List.append_inj' heq rfl
      obtain ⟨rfl, rfl⟩ := hsplit
      exact .inr ⟨⟨before, after, rfl, fun c hc => hafter c (by simp [hc])⟩, hafter c (by simp)⟩
  · rintro (rfl | ⟨⟨before, after, rfl, hafter⟩, hc⟩)
    · exact ⟨calls, [], rfl, by simp⟩
    · refine ⟨before, after ++ [c], by simp, fun c' hc' => ?_⟩
      rcases List.mem_append.1 hc' with hc' | hc'
      · exact hafter c' hc'
      · rwa [List.mem_singleton.1 hc']

/-- **A run**: the entries are what the calls leave, and they increase by key. -/
theorem mem_foldl_run (hempty : d.attributes = .empty) (calls : List AttributeCall) :
    Increasing (calls.foldl run d).attributes.entries ∧
      ∀ a, a ∈ (calls.foldl run d).attributes.entries ↔ Leaves calls a := by
  induction calls using List.reverseRecOn with
  | nil =>
    rw [List.foldl_nil, hempty]
    exact ⟨.nil, fun a => by simp [Attributes.empty, Leaves]⟩
  | append_singleton calls c ih =>
    obtain ⟨hincreasing, hmem⟩ := ih
    rw [List.foldl_concat]
    exact ⟨increasing_run hincreasing, fun a => by rw [mem_run hincreasing, hmem, leaves_concat]⟩

/-! ## Tables -/

/-- A table after a call. Under each key it has one attribute or none; its keys have no order. -/
def update (table : Text → Option Attribute) (c : AttributeCall) : Text → Option Attribute :=
  Function.update table c.key c.setting?

/-- Whether a list passes the entries of a table, each once, in whatever order. -/
structure Passes (table : Text → Option Attribute) (order : List (Text × Attribute)) : Prop where
  once : (order.map Prod.fst).Nodup
  mem (key : Text) (a : Attribute) : (key, a) ∈ order ↔ table key = some a

/-- Whether a list is what names are sorted to by their lower-cased forms. Names of one form may
come in any order. -/
structure SortsTo (names listing : List Text) : Prop where
  perm : listing.Perm names
  sorted : listing.Pairwise fun n m => ¬m.lower < n.lower

theorem foldl_update_eq_some_iff {key : Text} :
    calls.foldl update (fun _ => none) key = some a ↔ a.key = key ∧ Leaves calls a := by
  induction calls using List.reverseRecOn generalizing key with
  | nil => simp [Leaves]
  | append_singleton calls c ih =>
    rw [List.foldl_concat, update, leaves_concat]
    have hown : c = set a.name a.value → c.key = a.key := by
      rintro rfl
      rfl
    by_cases hkey : key = c.key
    · rw [hkey, Function.update_self, setting?_eq_some_iff]
      constructor
      · exact fun hset => ⟨(hown hset).symm, .inl hset⟩
      · rintro ⟨hsame, hset | ⟨-, hother⟩⟩
        · exact hset
        · exact absurd hsame.symm hother
    · rw [Function.update_of_ne hkey, ih]
      refine and_congr_right fun hsame => ?_
      rw [← hsame] at hkey
      constructor
      · exact fun hleft => .inr ⟨hleft, Ne.symm hkey⟩
      · rintro (hset | ⟨hleft, -⟩)
        · exact absurd (hown hset).symm hkey
        · exact hleft

/-- **One listing**: from entries of which no two have one key, every order and every sort gives the
same. -/
theorem eq_names_of_sortsTo {as : Attributes} {order : List (Text × Attribute)}
    {listing : List Text} (hincreasing : Increasing as.entries) (honce : (order.map Prod.fst).Nodup)
    (hmem : ∀ key a, (key, a) ∈ order ↔ a.key = key ∧ a ∈ as.entries)
    (hsorts : SortsTo (order.map (·.2.name)) listing) : listing = as.names := by
  have hkeys : order.map Prod.fst = (order.map Prod.snd).map Attribute.key := by
    rw [List.map_map]
    exact List.map_congr_left fun e he => ((hmem e.1 e.2).1 he).1.symm
  have hentries : (order.map Prod.snd).Perm as.entries := by
    rw [hkeys] at honce
    refine (List.perm_ext_iff_of_nodup honce.of_map (Attributes.nodup_keys hincreasing).of_map).2
      fun a => ?_
    rw [List.mem_map]
    constructor
    · rintro ⟨e, he, rfl⟩
      exact ((hmem e.1 e.2).1 he).2
    · exact fun ha => ⟨(a.key, a), (hmem a.key a).2 ⟨rfl, ha⟩, rfl⟩
  have hnames : listing.Perm as.names := by
    refine hsorts.perm.trans ?_
    have hmap := hentries.map Attribute.name
    rwa [List.map_map] at hmap
  have hstrict : as.names.Pairwise fun n m => n.lower < m.lower := List.pairwise_map.2 hincreasing
  refine hnames.eq_of_pairwise (fun n m hn hm hnm hmn => ?_) hsorts.sorted
    (hstrict.imp fun hlt hgt => List.lt_irrefl _ (List.lt_trans hlt hgt))
  -- neither form is below the other, so the two names are of one entry
  obtain ⟨b, hb, rfl⟩ := Attributes.mem_names.1 (hnames.subset hn)
  obtain ⟨b', hb', rfl⟩ := Attributes.mem_names.1 hm
  have hsame : b.key = b'.key := List.le_antisymm (List.not_lt.1 hnm) (List.not_lt.1 hmn)
  rw [List.inj_on_of_nodup_map (Attributes.nodup_keys hincreasing) hb hb' hsame]

/-! ## The map and its listing -/

theorem get?_of_leaves (hincreasing : Increasing d.attributes.entries)
    (hmem : ∀ a, a ∈ d.attributes.entries ↔ Leaves calls a) (n v : Text) :
    d.attributes.get? n = some v ↔ ∃ m, m.lower = n.lower ∧ Leaves calls ⟨m, v⟩ := by
  rw [Attributes.get?_eq_some_iff hincreasing]
  constructor
  · rintro ⟨a, ha, hkey, rfl⟩
    exact ⟨a.name, hkey, (hmem a).1 ha⟩
  · rintro ⟨m, hkey, hleft⟩
    exact ⟨⟨m, v⟩, (hmem _).2 hleft, hkey, rfl⟩

theorem mem_names_of_leaves (hmem : ∀ a, a ∈ d.attributes.entries ↔ Leaves calls a) (n : Text) :
    n ∈ d.attributes.names ↔ ∃ v, Leaves calls ⟨n, v⟩ := by
  rw [Attributes.mem_names]
  constructor
  · rintro ⟨a, ha, rfl⟩
    exact ⟨a.value, (hmem a).1 ha⟩
  · rintro ⟨v, hleft⟩
    exact ⟨⟨n, v⟩, (hmem _).2 hleft, rfl⟩

/-- An extraction changes nothing under another key. -/
theorem extraction_other (hc : c.isExtraction = true) {n : Text} (hn : n.lower ≠ c.key) :
    (c.run d).attributes.get? n = d.attributes.get? n ∧
      (n ∈ (c.run d).attributes.names ↔ n ∈ d.attributes.names) := by
  rw [run_of_setting?_none (setting?_of_isExtraction hc)]
  have hnames := d.attributes.names_foldl_erase [c.name]
  rw [List.foldl_cons, List.foldl_nil] at hnames
  refine ⟨Attributes.get?_erase_other _ hn, ?_⟩
  rw [hnames, List.mem_filter, and_iff_left (by simpa [key] using hn)]

/-- A directive answers as the table that the same calls made. -/
theorem get?_eq_table (hincreasing : Increasing d.attributes.entries)
    (hmem : ∀ a, a ∈ d.attributes.entries ↔ Leaves calls a) (n : Text) :
    d.attributes.get? n = (calls.foldl update (fun _ => none) n.lower).map Attribute.value := by
  ext v
  rw [Attributes.get?_eq_some_iff hincreasing, Option.map_eq_some_iff]
  refine exists_congr fun a => ?_
  rw [hmem, foldl_update_eq_some_iff, and_left_comm, and_assoc]

/-- **The attributes are a map with one listing**, whatever calls made them. No two have one key. A
name has the value of the last setting of its key, unless the attribute was taken out behind it. An
extraction changes no other attribute. The listing holds the present attributes in the spelling of
that setting and increases by lower-cased name, so each comes once; and it is what the names of a
table that the same calls made are sorted to, in whatever order the entries of the table come. -/
theorem attributes_canonical (name : Text) (start : Location) (calls : List AttributeCall) :
    let d := calls.foldl run (.named name start)
    let table := calls.foldl update fun _ => none
    (d.attributes.entries.map Attribute.key).Nodup ∧
      (∀ n v, d.attributes.get? n = some v ↔ ∃ m, m.lower = n.lower ∧ Leaves calls ⟨m, v⟩) ∧
      (∀ c : AttributeCall, c.isExtraction = true → ∀ n, n.lower ≠ c.key →
        (c.run d).attributes.get? n = d.attributes.get? n ∧
          (n ∈ (c.run d).attributes.names ↔ n ∈ d.attributes.names)) ∧
      (∀ n, n ∈ d.attributes.names ↔ ∃ v, Leaves calls ⟨n, v⟩) ∧
      d.attributes.names.Pairwise (fun n m => n.lower < m.lower) ∧
      (∀ n, d.attributes.get? n = (table n.lower).map Attribute.value) ∧
      ∀ order listing, Passes table order → SortsTo (order.map (·.2.name)) listing →
        listing = d.attributes.names := by
  intro d table
  obtain ⟨hincreasing, hmem⟩ := mem_foldl_run (d := .named name start) rfl calls
  have hlisting : ∀ order listing, Passes table order → SortsTo (order.map (·.2.name)) listing →
      listing = d.attributes.names := by
    intro order listing horder hsorts
    refine eq_names_of_sortsTo hincreasing horder.once (fun key a => ?_) hsorts
    rw [horder.mem, foldl_update_eq_some_iff, hmem]
  exact ⟨Attributes.nodup_keys hincreasing, get?_of_leaves hincreasing hmem,
    fun c hc n hn => extraction_other hc hn, mem_names_of_leaves hmem,
    List.pairwise_map.2 hincreasing, get?_eq_table hincreasing hmem, hlisting⟩

/-- A name that is set again in another case, and an attribute whose value is no truth value. -/
theorem attributes_canonical_sample :
    let calls := [set (utf8 "B") (utf8 "1"), set (utf8 "a") (utf8 "2"), set (utf8 "C") (utf8 "x"),
      set (utf8 "b") (utf8 "3"), extractBool (utf8 "c") false]
    let d := calls.foldl run (.named (utf8 "widget") .empty)
    let order := [(utf8 "b", ⟨utf8 "b", utf8 "3"⟩), (utf8 "a", ⟨utf8 "a", utf8 "2"⟩)]
    Passes (calls.foldl update fun _ => none) order ∧
      SortsTo (order.map (·.2.name)) [utf8 "a", utf8 "b"] ∧
      [utf8 "a", utf8 "b"] = d.attributes.names ∧
      (run d (extract (utf8 "A"))).attributes.get? (utf8 "B") = d.attributes.get? (utf8 "B") := by
  intro calls d order
  have hpasses : Passes (calls.foldl update fun _ => none) order := by
    refine ⟨by decide, fun key a => ?_⟩
    have htable : calls.foldl update (fun _ => none) key =
        if key = utf8 "c" then none
        else if key = utf8 "b" then some ⟨utf8 "b", utf8 "3"⟩
        else if key = utf8 "a" then some ⟨utf8 "a", utf8 "2"⟩ else none := by
      have hkeys : calls.map AttributeCall.key =
          [utf8 "b", utf8 "a", utf8 "c", utf8 "b", utf8 "c"] := by decide +kernel
      simp only [calls, List.map_cons, List.map_nil, List.cons.injEq] at hkeys
      simp only [calls, List.foldl_cons, List.foldl_nil, update, hkeys, Function.update_apply]
      grind [setting?]
    rw [htable]
    constructor
    · intro h
      rcases List.mem_pair.1 h with h | h
      all_goals
        cases h
        decide
    · intro h
      split_ifs at h with hc hb ha
      · cases h
        rw [hb]
        exact List.mem_cons_self
      · cases h
        rw [ha]
        exact List.mem_cons_of_mem _ List.mem_cons_self
  have hsorts : SortsTo (order.map (·.2.name)) [utf8 "a", utf8 "b"] :=
    ⟨List.Perm.swap _ _ _, by decide +kernel⟩
  obtain ⟨-, -, hother, -, -, -, hlisting⟩ := attributes_canonical (utf8 "widget") .empty calls
  exact ⟨hpasses, hsorts, hlisting order _ hpasses hsorts,
    (hother (extract (utf8 "A")) rfl (utf8 "B") (by decide +kernel)).1⟩

end AttributeCall
end TextTemplate
