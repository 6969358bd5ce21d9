/-
What an operation on a disk looks at, and what it changes. A name passes through the paths of the
directories on its way (`passed`); where two trees have the same at those, it leads to the same in
both. Making directories adds directories where nothing is (`makeDirectories_adds`), and it does the
same in a tree where some of them are there already (`makeDirectories_twin`); so does storing a file
(`store_twin`).
-/
import TextTemplate.Files

namespace TextTemplate.Files

/-! ## Names -/

/-- The paths elements pass through from the directory `here`, with the one they lead to. -/
def trail (here : List Text) : List Text → List Text
  | [] => [Path.ofElements true here.reverse]
  | e :: es => Path.ofElements true here.reverse :: trail (enter here e) es

/-- The paths a name on disk passes through, with the one it leads to. -/
def passed (workDir name : Text) : List Text := trail (startOf workDir name) (Text.pieces 0x2F name)

/-- Trees of one working directory that have the same at some paths. -/
structure SameAt (paths : List Text) (fs gs : Files) : Prop where
  workDir : gs.workDir = fs.workDir
  at? : ∀ p ∈ paths, gs.at? p = fs.at? p

theorem SameAt.mono {paths paths' : List Text} {fs gs : Files} (h : SameAt paths fs gs)
    (hsub : paths' ⊆ paths) : SameAt paths' fs gs :=
  ⟨h.workDir, fun p hp => h.at? p (hsub hp)⟩

variable {fs gs : Files} {workDir name path : Text}

theorem follow_congr {here es : List Text} (h : ∀ p ∈ trail here es, gs.at? p = fs.at? p) :
    gs.follow here es = fs.follow here es := by
  induction es generalizing here with
  | nil => rfl
  | cons e es ih =>
    have hrest := ih fun p hp => h p (List.mem_cons_of_mem _ hp)
    rw [follow, follow, h _ List.mem_cons_self, hrest]

theorem mem_trail_of_follow {here here' es : List Text} (h : fs.follow here es = .ok here') :
    Path.ofElements true here'.reverse ∈ trail here es := by
  induction es generalizing here with
  | nil =>
    cases h
    exact List.mem_cons_self
  | cons e es ih =>
    rw [follow] at h
    split at h
    · cases h
    · cases h
    · split at h
      · cases h
      · exact List.mem_cons_of_mem _ (ih h)

/-- Where all directories are kept, elements lead where they led. -/
theorem follow_of_directories {here here' es : List Text}
    (hkept : ∀ p, fs.at? p = some .directory → gs.at? p = some .directory)
    (h : fs.follow here es = .ok here') : gs.follow here es = .ok here' := by
  induction es generalizing here with
  | nil => exact h
  | cons e es ih =>
    rw [follow] at h ⊢
    cases hat : fs.at? (Path.ofElements true here.reverse) with
    | none =>
      rw [hat] at h
      cases h
    | some entry =>
      rw [hat] at h
      cases entry with
      | file content => cases h
      | directory =>
        rw [hkept _ hat]
        dsimp only at h ⊢
        split at h
        · cases h
        · next hshort =>
          rw [if_neg hshort]
          exact ih h

theorem diskPath_of_directories
    (hkept : ∀ p, fs.at? p = some .directory → gs.at? p = some .directory)
    (h : fs.diskPath workDir name = .ok path) : gs.diskPath workDir name = .ok path := by
  unfold diskPath at h ⊢
  split at h
  · cases h
  next hname =>
  rw [if_neg hname]
  split at h
  · cases h
  next hshort =>
  rw [if_neg hshort]
  cases hfollow : fs.follow (startOf workDir name) (Text.pieces 0x2F name) with
  | error fault =>
    rw [hfollow] at h
    cases h
  | ok here =>
    rw [follow_of_directories hkept hfollow]
    rw [hfollow] at h
    exact h

theorem diskPath_congr (h : SameAt (passed workDir name) fs gs) :
    gs.diskPath workDir name = fs.diskPath workDir name := by
  rw [diskPath, diskPath, follow_congr h.at?]

theorem mem_passed_of_diskPath (h : fs.diskPath workDir name = .ok path) :
    path ∈ passed workDir name := by
  unfold diskPath at h
  split at h
  · cases h
  · split at h
    · cases h
    · cases hfollow : fs.follow (startOf workDir name) (Text.pieces 0x2F name) with
      | error fault =>
        rw [hfollow] at h
        cases h
      | ok here =>
        rw [hfollow] at h
        cases h
        exact mem_trail_of_follow hfollow

section Disk

variable (hdisk : fs.workDir = some workDir)
include hdisk

theorem find_congr (h : SameAt (passed workDir name) fs gs) : gs.find name = fs.find name := by
  simp only [find, h.workDir, hdisk, diskPath_congr h]
  split
  · rfl
  · next hpath => rw [h.at? _ (mem_passed_of_diskPath hpath)]

theorem read_congr (h : SameAt (passed workDir name) fs gs) : gs.read name = fs.read name := by
  simp only [read, h.workDir, find_congr hdisk h]

/-- What is read on a disk is the file its name leads to. -/
theorem read_eq_ok_iff {content : Text} :
    fs.read name = .ok content ↔
      ∃ path, fs.diskPath workDir name = .ok path ∧ fs.at? path = some (.file content) := by
  simp only [read, find, hdisk]
  cases fs.diskPath workDir name with
  | error fault => simp
  | ok path =>
    simp only [Except.ok.injEq, exists_eq_left']
    cases fs.at? path with
    | none => simp
    | some e => cases e <;> simp

theorem locate?_congr (h : SameAt (passed workDir (Path.clean name)) fs gs) :
    gs.locate? name = fs.locate? name := by
  simp only [locate?, h.workDir, hdisk, diskPath_congr h]
  split
  · rfl
  · next hpath => rw [h.at? _ (mem_passed_of_diskPath hpath)]

end Disk

/-- The paths that are looked at to find the first of some names that leads to something. -/
def passedAmong (fs : Files) (workDir : Text) : List Text → List Text
  | [] => []
  | name :: names => passed workDir (Path.clean name) ++
      if (fs.locate? name).isSome then [] else fs.passedAmong workDir names

theorem locate?_eq_clean {found : Text} {e : Entry} (h : fs.locate? name = some (found, e)) :
    found = Path.clean name := by
  unfold locate? at h
  dsimp only at h
  split at h
  · obtain ⟨_, -, hfound⟩ := Option.map_eq_some_iff.1 h
    exact (Prod.mk.inj hfound).1.symm
  · split at h
    · cases h
    · obtain ⟨_, -, hfound⟩ := Option.map_eq_some_iff.1 h
      exact (Prod.mk.inj hfound).1.symm

theorem findSome?_congr (hdisk : fs.workDir = some workDir) {names : List Text}
    (h : SameAt (fs.passedAmong workDir names) fs gs) :
    names.findSome? gs.locate? = names.findSome? fs.locate? ∧
      ∀ found e, names.findSome? fs.locate? = some (found, e) →
        passed workDir found ⊆ fs.passedAmong workDir names := by
  induction names with
  | nil => exact ⟨rfl, by simp⟩
  | cons name names ih =>
    rw [passedAmong] at h ⊢
    have hname := locate?_congr hdisk (h.mono (List.subset_append_left _ _))
    simp only [List.findSome?_cons, hname]
    cases hfound : fs.locate? name with
    | some x =>
      refine ⟨rfl, fun found e hx => ?_⟩
      cases hx
      rw [locate?_eq_clean hfound]
      exact List.subset_append_left _ _
    | none =>
      rw [hfound] at h
      obtain ⟨hrest, hsub⟩ := ih (h.mono (List.subset_append_right _ _))
      exact ⟨hrest, fun found e hx =>
        List.Subset.trans (hsub found e hx) (List.subset_append_right _ _)⟩

/-! ## Making directories -/

theorem at?_set (fs : Files) {p : Text} (e : Entry) (hroot : p ≠ utf8 "/") (q : Text) :
    (fs.set p e).at? q = if q = p then some e else fs.at? q := by
  unfold Files.at? Files.set
  by_cases hq : q = p
  · subst hq
    simp [hroot]
  · simp only [if_neg hq, NameMap.find?_insert_other hq]

theorem ne_root_of_at? (h : fs.at? path ≠ some .directory) : path ≠ utf8 "/" := by
  rintro rfl
  exact h (if_pos rfl)

/-- A directory that was made where nothing was. -/
def Made (fs fs' : Files) (p : Text) : Prop := fs.at? p = none ∧ fs'.at? p = some .directory

/-- The tree `fs'` is `fs` with directories made. -/
structure Adds (fs fs' : Files) : Prop where
  workDir : fs'.workDir = fs.workDir
  kept : ∀ p, ¬Made fs fs' p → fs'.at? p = fs.at? p

theorem Adds.refl (fs : Files) : Adds fs fs := ⟨rfl, fun _ _ => rfl⟩

theorem Adds.set (h : fs.at? path = none) : Adds fs (fs.set path .directory) where
  workDir := rfl
  kept p hp := by
    have hset := at?_set fs .directory (ne_root_of_at? (by rw [h]; nofun))
    by_cases hpath : p = path
    · subst hpath
      exact absurd ⟨h, (hset p).trans (if_pos rfl)⟩ hp
    · rw [hset p, if_neg hpath]

theorem Adds.keeps {e : Entry} {fs' : Files} (h : Adds fs fs') (he : fs.at? path = some e) :
    fs'.at? path = some e := by
  refine (h.kept path fun hmade => ?_).trans he
  rw [hmade.1] at he
  cases he

theorem Adds.file_iff {fs' : Files} {content : Text} (h : Adds fs fs') :
    fs'.at? path = some (.file content) ↔ fs.at? path = some (.file content) := by
  by_cases hmade : Made fs fs' path
  · simp [hmade.1, hmade.2]
  · rw [h.kept path hmade]

theorem Adds.trans {fs' fs'' : Files} (h : Adds fs fs') (h' : Adds fs' fs'') : Adds fs fs'' where
  workDir := h'.workDir.trans h.workDir
  kept p hp := by
    by_cases hmade : Made fs fs' p
    · exact absurd ⟨hmade.1, h'.keeps hmade.2⟩ hp
    · rw [← h.kept p hmade]
      refine h'.kept p fun hmade' => hp ⟨?_, hmade'.2⟩
      rw [← h.kept p hmade, hmade'.1]

theorem makeDirectories_adds (fs : Files) (rooted : Bool) (name here es : List Text) :
    Adds fs (fs.makeDirectories rooted name here es).1 := by
  induction es generalizing fs name here with
  | nil => exact .refl fs
  | cons e es ih =>
    rw [makeDirectories]
    split
    · exact .refl fs
    · split
      · exact ih fs _ _
      · exact .refl fs
      · next hnone => exact (Adds.set hnone).trans (ih _ _ _)

/-- The paths of the directories that are made. -/
def landings (fs : Files) (rooted : Bool) (name here : List Text) : List Text → List Text
  | [] => []
  | e :: es => fs.landing rooted (e :: name) (enter here e) ::
      fs.landings rooted (e :: name) (enter here e) es

theorem landing_congr (h : gs.workDir = fs.workDir) (rooted : Bool) (name here : List Text) :
    gs.landing rooted name here = fs.landing rooted name here := by
  simp only [landing, h]

theorem landings_congr (h : gs.workDir = fs.workDir) (rooted : Bool) (name here es : List Text) :
    gs.landings rooted name here es = fs.landings rooted name here es := by
  induction es generalizing name here with
  | nil => rfl
  | cons e es ih => rw [landings, landings, ih, landing_congr h]

theorem landings_set (fs : Files) (p : Text) (entry : Entry) (rooted : Bool)
    (name here es : List Text) :
    (fs.set p entry).landings rooted name here es = fs.landings rooted name here es := by
  have hwork : (fs.set p entry).workDir = fs.workDir := rfl
  exact landings_congr hwork rooted name here es

/-- Directories are made at landings, and nowhere else. -/
theorem makeDirectories_other (fs : Files) (rooted : Bool) (name here es : List Text) {p : Text}
    (hp : p ∉ fs.landings rooted name here es) :
    (fs.makeDirectories rooted name here es).1.at? p = fs.at? p := by
  induction es generalizing fs name here with
  | nil => rfl
  | cons e es ih =>
    rw [landings, List.mem_cons, not_or] at hp
    rw [makeDirectories]
    split
    · rfl
    · split
      · exact ih fs _ _ hp.2
      · rfl
      · next hnone =>
        rw [ih _ _ _ (by rw [landings_set]; exact hp.2),
          at?_set fs _ (ne_root_of_at? (by rw [hnone]; nofun)), if_neg hp.1]

/-- At some paths the tree `gs` has what `fs` has, but for directories that `fs` lacks. -/
structure Ahead (paths : List Text) (fs gs : Files) : Prop where
  workDir : gs.workDir = fs.workDir
  at? : ∀ p ∈ paths, gs.at? p = fs.at? p ∨ Made fs gs p

/-- The tree `gs'` has come from `gs` as `fs'` has from `fs`: by the same directories. -/
structure Twin (fs fs' gs gs' : Files) : Prop where
  workDir : gs'.workDir = gs.workDir
  made : ∀ p, Made fs fs' p → gs'.at? p = some .directory
  kept : ∀ p, ¬Made fs fs' p → gs'.at? p = gs.at? p

theorem Twin.refl (fs gs : Files) : Twin fs fs gs gs where
  workDir := rfl
  made p hp := by
    obtain ⟨hnone, hsome⟩ := hp
    rw [hnone] at hsome
    cases hsome
  kept _ _ := rfl

/-- A directory is made in both trees, or it is there already in the second. -/
theorem Twin.set {fs' gs₁ gs' : Files} (hnone : fs.at? path = none)
    (hgs : ∀ p, gs₁.at? p = if p = path then some .directory else gs.at? p)
    (hwork : gs₁.workDir = gs.workDir) (hadds : Adds (fs.set path .directory) fs')
    (h : Twin (fs.set path .directory) fs' gs₁ gs') : Twin fs fs' gs gs' := by
  have hset := at?_set fs .directory (ne_root_of_at? (by rw [hnone]; nofun))
  have hmade (p : Text) (hp : p ≠ path) :
      Made (fs.set path .directory) fs' p ↔ Made fs fs' p := by
    rw [Made, Made, hset, if_neg hp]
  have hthere : (fs.set path .directory).at? path = some .directory := by rw [hset, if_pos rfl]
  have hnew : ¬Made (fs.set path .directory) fs' path := by
    intro hpath
    rw [hpath.1] at hthere
    cases hthere
  refine ⟨h.workDir.trans hwork, fun p hp => ?_, fun p hp => ?_⟩
  · by_cases hpath : p = path
    · rw [hpath, h.kept path hnew, hgs, if_pos rfl]
    · exact h.made p ((hmade p hpath).2 hp)
  · have hpath : p ≠ path := by
      rintro rfl
      exact hp ⟨hnone, hadds.keeps hthere⟩
    rw [h.kept p (mt (hmade p hpath).1 hp), hgs, if_neg hpath]

/-- The second tree stays ahead of the first when a directory is made in both. -/
theorem Ahead.set {paths : List Text} {gs₁ : Files} (h : Ahead paths fs gs)
    (hnone : fs.at? path = none)
    (hgs : ∀ p, gs₁.at? p = if p = path then some .directory else gs.at? p)
    (hwork : gs₁.workDir = gs.workDir) : Ahead paths (fs.set path .directory) gs₁ := by
  have hset := at?_set fs .directory (ne_root_of_at? (by rw [hnone]; nofun))
  refine ⟨hwork.trans h.workDir, fun p hp => ?_⟩
  rw [Made, hset, hgs]
  split
  · exact .inl rfl
  · exact h.at? p hp

/-- **Making directories where some are made already** fails in the same way, and makes the rest. -/
theorem makeDirectories_twin (rooted : Bool) (name here es : List Text)
    (h : Ahead (fs.landings rooted name here es) fs gs) :
    (gs.makeDirectories rooted name here es).2 = (fs.makeDirectories rooted name here es).2 ∧
      Twin fs (fs.makeDirectories rooted name here es).1 gs
        (gs.makeDirectories rooted name here es).1 := by
  induction es generalizing fs gs name here with
  | nil => exact ⟨rfl, .refl fs gs⟩
  | cons e es ih =>
    have hlong (written : Text) : gs.isTooLong written e = fs.isTooLong written e := by
      simp only [isTooLong, h.workDir]
    have hlater : Ahead (fs.landings rooted (e :: name) (enter here e) es) fs gs :=
      ⟨h.workDir, fun p hp => h.at? p (List.mem_cons_of_mem _ hp)⟩
    rw [makeDirectories, makeDirectories, hlong, landing_congr h.workDir]
    split
    · exact ⟨rfl, .refl fs gs⟩
    generalize hpath : fs.landing rooted (e :: name) (enter here e) = path
    have hfirst := h.at? path (by rw [landings, hpath]; exact List.mem_cons_self)
    cases hentry : fs.at? path with
    | some entry =>
      have hsame : gs.at? path = some entry := by
        rcases hfirst with hsame | hmade
        · rw [hsame, hentry]
        · rw [hmade.1] at hentry
          cases hentry
      rw [hsame]
      cases entry with
      | directory => exact ih _ _ hlater
      | file content => exact ⟨rfl, .refl fs gs⟩
    | none =>
      have hadds := makeDirectories_adds (fs.set path .directory) rooted (e :: name)
        (enter here e) es
      -- the second tree gets the directory now, or it has it
      rcases hfirst with hsame | hmade
      · rw [hentry] at hsame
        rw [hsame]
        have hgs := at?_set gs .directory (ne_root_of_at? (by rw [hsame]; nofun))
        have hahead := hlater.set hentry hgs rfl
        rw [← landings_set fs path .directory] at hahead
        obtain ⟨herror, htwin⟩ := ih _ _ hahead
        exact ⟨herror, htwin.set hentry hgs rfl hadds⟩
      · rw [hmade.2]
        have hgs (p : Text) : gs.at? p = if p = path then some .directory else gs.at? p := by
          split
          · next hp => rw [hp, hmade.2]
          · rfl
        have hahead := hlater.set hentry hgs rfl
        rw [← landings_set fs path .directory] at hahead
        obtain ⟨herror, htwin⟩ := ih _ _ hahead
        exact ⟨herror, htwin.set hentry hgs rfl hadds⟩

/-! ## Storing a file -/

/-- The tree with the directory of a file made. -/
def prepared (fs : Files) (name : Text) : Files × Option FileError :=
  fs.makeDirectory (Path.dir name)

/-- Makes the directory of a file and writes the file. -/
def store (fs : Files) (name content : Text) : Files × Option FileError :=
  match fs.prepared name with
  | (fs, some e) => (fs, some e)
  | (fs, none) =>
    match fs.write name content with
    | .error e => (fs, some e)
    | .ok fs => (fs, none)

/-- Storing under a name succeeds, and puts the file at a path. -/
structure Stores (fs : Files) (workDir name path : Text) : Prop where
  prepared : (fs.prepared name).2 = none
  leads : (fs.prepared name).1.diskPath workDir name = .ok path
  free : (fs.prepared name).1.at? path ≠ some .directory

/-- The paths of the directories that are made for a file. -/
def wayTo (fs : Files) (name : Text) : List Text :=
  fs.landings (Path.isAbs (Path.dir name)) [] (startOf (fs.workDir.getD []) (Path.dir name))
    (Path.elements (Path.dir name))

theorem prepared_adds (fs : Files) (name : Text) : Adds fs (fs.prepared name).1 :=
  makeDirectories_adds fs _ _ _ _

theorem prepared_twin (h : Ahead (fs.wayTo name) fs gs) :
    (gs.prepared name).2 = (fs.prepared name).2 ∧
      Twin fs (fs.prepared name).1 gs (gs.prepared name).1 := by
  have hstart : startOf (gs.workDir.getD []) (Path.dir name) =
      startOf (fs.workDir.getD []) (Path.dir name) := by rw [h.workDir]
  rw [prepared, makeDirectory, hstart]
  exact makeDirectories_twin _ _ _ _ h

theorem store_of_error {e : FileError} (content : Text) (he : (fs.prepared name).2 = some e) :
    fs.store name content = ((fs.prepared name).1, some e) := by
  rw [store]
  rcases hprepared : fs.prepared name with ⟨fs', error⟩
  rw [hprepared] at he
  cases he
  rfl

theorem store_of_prepared (hdisk : fs.workDir = some workDir) (content : Text)
    (hprepared : (fs.prepared name).2 = none) :
    fs.store name content =
      match (fs.prepared name).1.diskPath workDir name with
      | .error fault => ((fs.prepared name).1, some ⟨utf8 "open", name, fault⟩)
      | .ok path =>
        if (fs.prepared name).1.at? path = some .directory then
          ((fs.prepared name).1, some ⟨utf8 "open", name, .isDirectory⟩)
        else ((fs.prepared name).1.set path (.file content), none) := by
  have hwork := (fs.prepared_adds name).workDir
  rw [store]
  rcases hfs : fs.prepared name with ⟨fs', error⟩
  rw [hfs] at hprepared hwork
  cases hprepared
  replace hwork : fs'.workDir = some workDir := hwork.trans hdisk
  simp only [write, hwork]
  cases fs'.diskPath workDir name with
  | error fault => rfl
  | ok path =>
    dsimp only
    cases fs'.at? path with
    | none => rfl
    | some e => cases e <;> rfl

/-- Writing the file neither makes nor removes a directory. -/
theorem store_directory_iff (hdisk : fs.workDir = some workDir) {content p : Text} :
    (fs.store name content).1.at? p = some .directory ↔
      (fs.prepared name).1.at? p = some .directory := by
  cases hprepared : (fs.prepared name).2 with
  | some e => rw [store_of_error content hprepared]
  | none =>
    rw [store_of_prepared hdisk content hprepared]
    split
    · rfl
    · split
      · rfl
      · next hfree =>
        rw [at?_set _ _ (ne_root_of_at? hfree)]
        split
        · next hp => simp [hp, hfree]
        · rfl

/-- When storing fails, nothing has come of it but directories. -/
theorem store_of_ne_none (hdisk : fs.workDir = some workDir) {content : Text}
    (h : (fs.store name content).2 ≠ none) :
    (fs.store name content).1 = (fs.prepared name).1 := by
  cases hprepared : (fs.prepared name).2 with
  | some e => rw [store_of_error content hprepared]
  | none =>
    rw [store_of_prepared hdisk content hprepared] at h ⊢
    split at h
    · rfl
    · split at h
      · next hdirectory => rw [if_pos hdirectory]
      · exact absurd rfl h

/-- A file is stored unless storing it fails. -/
theorem exists_stores_iff (hdisk : fs.workDir = some workDir) (content : Text) :
    (∃ p, fs.Stores workDir name p) ↔ (fs.store name content).2 = none := by
  constructor
  · rintro ⟨p, hp⟩
    rw [store_of_prepared hdisk content hp.prepared, hp.leads]
    simp [hp.free]
  · intro hnone
    cases hprepared : (fs.prepared name).2 with
    | some e =>
      rw [store_of_error content hprepared] at hnone
      cases hnone
    | none =>
      rw [store_of_prepared hdisk content hprepared] at hnone
      split at hnone
      · cases hnone
      · next path hleads =>
        split at hnone
        · cases hnone
        · next hfree => exact ⟨path, hprepared, hleads, hfree⟩

/-- A directory that is made for a file is on the way to it. -/
theorem mem_wayTo_of_made (hdisk : fs.workDir = some workDir) {content p : Text}
    (h : Made fs (fs.store name content).1 p) : p ∈ fs.wayTo name := by
  refine Decidable.byContradiction fun hp => ?_
  have hprepared := (store_directory_iff hdisk).1 h.2
  rw [prepared, makeDirectory, makeDirectories_other fs _ _ _ _ hp, h.1] at hprepared
  cases hprepared

/-- The tree `gs'` has come from `gs` as storing a file changes `fs`. -/
structure StoreTwin (fs : Files) (dir name content : Text) (gs gs' : Files) : Prop where
  workDir : gs'.workDir = gs.workDir
  stored : ∀ p, fs.Stores dir name p → gs'.at? p = some (.file content)
  made : ∀ p, Made fs (fs.store name content).1 p → gs'.at? p = some .directory
  kept : ∀ p, ¬fs.Stores dir name p → ¬Made fs (fs.store name content).1 p →
    gs'.at? p = gs.at? p

/-- When the file is not written, only directories are made. -/
theorem Twin.storeTwin {content : Text} {gs' : Files}
    (h : Twin fs (fs.store name content).1 gs gs') (hnone : ∀ p, ¬fs.Stores workDir name p) :
    StoreTwin fs workDir name content gs gs' :=
  ⟨h.workDir, fun p hp => absurd hp (hnone p), h.made, fun p _ => h.kept p⟩

/-- When the file is written, it is put at its path in both trees. -/
theorem Twin.storeTwin_set {content : Text} {gs' : Files} (h : Twin fs (fs.prepared name).1 gs gs')
    (hstores : fs.Stores workDir name path)
    (hstore : (fs.store name content).1 = (fs.prepared name).1.set path (.file content)) :
    StoreTwin fs workDir name content gs (gs'.set path (.file content)) := by
  have hroot := ne_root_of_at? hstores.free
  have honly {p : Text} (hp : fs.Stores workDir name p) : p = path :=
    Except.ok.inj (hp.leads.symm.trans hstores.leads)
  have hmade (p : Text) (hp : p ≠ path) :
      Made fs (fs.store name content).1 p ↔ Made fs (fs.prepared name).1 p := by
    rw [hstore, Made, Made, at?_set _ _ hroot, if_neg hp]
  refine ⟨h.workDir, fun p hp => ?_, fun p hp => ?_, fun p hp hnone => ?_⟩
  · rw [at?_set _ _ hroot, if_pos (honly hp)]
  · have hne : p ≠ path := by
      rintro rfl
      have hfile := hp.2
      rw [hstore, at?_set _ _ hroot, if_pos rfl] at hfile
      cases hfile
    rw [at?_set _ _ hroot, if_neg hne]
    exact h.made p ((hmade p hne).1 hp)
  · have hne : p ≠ path := by
      rintro rfl
      exact hp hstores
    rw [at?_set _ _ hroot, if_neg hne]
    exact h.kept p (mt (hmade p hne).2 hnone)

/-- **Storing a file in a tree that is ahead** succeeds or fails in the same way, and changes the same.
Where the name of the file passes, the trees may differ by directories that are made for it. -/
theorem store_twin (hdisk : fs.workDir = some workDir) (content : Text)
    (hway : Ahead (fs.wayTo name) fs gs)
    (hname : ∀ p ∈ passed workDir name, gs.at? p = fs.at? p ∨ Made fs (fs.prepared name).1 p) :
    (gs.store name content).2 = (fs.store name content).2 ∧
      StoreTwin fs workDir name content gs (gs.store name content).1 := by
  obtain ⟨herror, htwin⟩ := prepared_twin hway
  cases hprepared : (fs.prepared name).2 with
  | some e =>
    rw [hprepared] at herror
    have hstore := store_of_error content hprepared
    rw [store_of_error content herror, hstore]
    rw [← congrArg Prod.fst hstore] at htwin
    exact ⟨rfl, htwin.storeTwin fun p hp => by simp [hp.prepared] at hprepared⟩
  | none =>
    rw [hprepared] at herror
    have hsame : SameAt (passed workDir name) (fs.prepared name).1 (gs.prepared name).1 := by
      refine ⟨?_, fun p hp => ?_⟩
      · rw [htwin.workDir, hway.workDir, (fs.prepared_adds name).workDir]
      · by_cases hmade : Made fs (fs.prepared name).1 p
        · rw [htwin.made p hmade, hmade.2]
        · rw [htwin.kept p hmade, (fs.prepared_adds name).kept p hmade]
          exact (hname p hp).resolve_right hmade
    have hfs := store_of_prepared hdisk content hprepared
    have hgs := store_of_prepared (hway.workDir.trans hdisk) content herror
    rw [diskPath_congr hsame] at hgs
    cases hpath : (fs.prepared name).1.diskPath workDir name with
    | error fault =>
      rw [hpath] at hfs hgs
      rw [hfs, hgs]
      rw [← congrArg Prod.fst hfs] at htwin
      refine ⟨rfl, htwin.storeTwin fun p hp => ?_⟩
      rw [hp.leads] at hpath
      cases hpath
    | ok path =>
      have hat := hsame.at? path (mem_passed_of_diskPath hpath)
      simp only [hpath, hat] at hfs hgs
      by_cases hdirectory : (fs.prepared name).1.at? path = some .directory
      · rw [if_pos hdirectory] at hfs hgs
        rw [hfs, hgs]
        rw [← congrArg Prod.fst hfs] at htwin
        refine ⟨rfl, htwin.storeTwin fun p hp => ?_⟩
        rw [hp.leads] at hpath
        cases hpath
        exact hp.free hdirectory
      · rw [if_neg hdirectory] at hfs hgs
        rw [hfs, hgs]
        exact ⟨rfl, htwin.storeTwin_set ⟨hprepared, hpath, hdirectory⟩ (congrArg Prod.fst hfs)⟩

end TextTemplate.Files
