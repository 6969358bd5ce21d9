/-
The order of the templates of a build. A template disturbs another when it changes the files at a path
that is looked at for the other (`Spares`). Templates that do not disturb each other each do to the
files what they do alone; so after any of them the files are told by which of them have run (`After`).

`order_irrelevant`: in every order such templates leave the same files.
-/
import TextTemplate.Proofs.Project.Step

namespace TextTemplate.BuildOptions

variable {o : BuildOptions} {c : Config} {owner : Host Unit} {files gs gs' : Files}
  {workDir : Text} {ts ts' : List TemplateFile} {t u : TemplateFile} {p content : Text}

/-! ## What templates do alone -/

section

variable (o : BuildOptions) (owner : Host Unit) (files : Files) (workDir : Text)

/-- A template writes a file at a path when it runs alone. -/
def Writes (t : TemplateFile) (p content : Text) : Prop :=
  ∃ output, o.generated? owner files t = some (output, content) ∧ files.Stores workDir output p

/-- A template makes a directory when it runs alone. -/
def Makes (t : TemplateFile) (p : Text) : Prop := Files.Made files (o.effect owner files t).1 p

/-- What `t` does is not seen by `u`: nothing is written at a path that is looked at for `u`, nor a
directory made there; only on the way of its output `u` may find a directory it makes itself. -/
structure Spares (t u : TemplateFile) : Prop where
  written : ∀ p content, o.Writes owner files workDir t p content →
    p ∉ o.reads owner files workDir u ∧
      ∀ output bytes, o.generated? owner files u = some (output, bytes) →
        p ∉ files.wayTo output ∧ p ∉ Files.passed workDir output
  made : ∀ p, o.Makes owner files t p →
    p ∉ o.reads owner files workDir u ∧
      ∀ output bytes, o.generated? owner files u = some (output, bytes) →
        p ∈ Files.passed workDir output → Files.Made files (files.prepared output).1 p

/-- Two templates that do not disturb each other. -/
def Apart (t u : TemplateFile) : Prop :=
  o.Spares owner files workDir t u ∧ o.Spares owner files workDir u t

/-- The tree `gs'` has come from `gs` as the template changes the tree it runs on alone. -/
structure Does (t : TemplateFile) (gs gs' : Files) : Prop where
  disk : gs'.workDir = gs.workDir
  written : ∀ p content, o.Writes owner files workDir t p content → gs'.at? p = some (.file content)
  made : ∀ p, o.Makes owner files t p → gs'.at? p = some .directory
  kept : ∀ p, (∀ content, ¬o.Writes owner files workDir t p content) → ¬o.Makes owner files t p →
    gs'.at? p = gs.at? p

/-- The tree after templates have run, each doing what it does alone. -/
structure After (ts : List TemplateFile) (gs : Files) : Prop where
  disk : gs.workDir = files.workDir
  written : ∀ t ∈ ts, ∀ p content, o.Writes owner files workDir t p content →
    gs.at? p = some (.file content)
  made : ∀ t ∈ ts, ∀ p, o.Makes owner files t p → gs.at? p = some .directory
  kept : ∀ p, (∀ t ∈ ts, ∀ content, ¬o.Writes owner files workDir t p content) →
    (∀ t ∈ ts, ¬o.Makes owner files t p) → gs.at? p = files.at? p

end

theorem Writes.mem_passed (h : o.Writes owner files workDir t p content) :
    ∃ output, o.generated? owner files t = some (output, content) ∧
      p ∈ Files.passed workDir output := by
  obtain ⟨output, hgenerated, hstores⟩ := h
  exact ⟨output, hgenerated, Files.mem_passed_of_diskPath hstores.leads⟩

theorem Writes.not_directory (h : o.Writes owner files workDir t p content) :
    files.at? p ≠ some .directory := by
  obtain ⟨output, -, hstores⟩ := h
  exact fun hdirectory => hstores.free ((files.prepared_adds output).keeps hdirectory)

theorem Makes.exists_generated (h : o.Makes owner files t p) :
    ∃ output bytes, o.generated? owner files t = some (output, bytes) ∧
      Files.Made files (files.store output bytes).1 p := by
  unfold Makes effect at h
  cases hgenerated : o.generated? owner files t with
  | none =>
    rw [hgenerated] at h
    obtain ⟨hnone, hdirectory⟩ := h
    rw [hnone] at hdirectory
    cases hdirectory
  | some x =>
    rw [hgenerated] at h
    exact ⟨x.1, x.2, rfl, h⟩

theorem Makes.mem_wayTo (hdisk : files.workDir = some workDir) (h : o.Makes owner files t p) :
    ∃ output bytes, o.generated? owner files t = some (output, bytes) ∧ p ∈ files.wayTo output := by
  obtain ⟨output, bytes, hgenerated, hmade⟩ := h.exists_generated
  exact ⟨output, bytes, hgenerated, Files.mem_wayTo_of_made hdisk hmade⟩

/-- Nothing is written where a template that is spared makes a directory. -/
theorem Spares.not_makes (h : o.Spares owner files workDir t u)
    (hdisk : files.workDir = some workDir) (hwrites : o.Writes owner files workDir t p content) :
    ¬o.Makes owner files u p := by
  intro hmakes
  obtain ⟨output, bytes, hgenerated, hway⟩ := hmakes.mem_wayTo hdisk
  exact ((h.written p content hwrites).2 output bytes hgenerated).1 hway

theorem Spares.not_writes (h : o.Spares owner files workDir t u)
    (hwrites : o.Writes owner files workDir t p content) (content' : Text) :
    ¬o.Writes owner files workDir u p content' := by
  intro hwrites'
  obtain ⟨output, hgenerated, hpassed⟩ := hwrites'.mem_passed
  exact ((h.written p content hwrites).2 output content' hgenerated).2 hpassed

/-- Where the directories on the way of its output are there, a template is seen only by those that
look where its output goes. -/
theorem spares_of_path {output output' content' : Text}
    (hdisk : files.workDir = some workDir)
    (ht : o.generated? owner files t = some (output, content))
    (hu : o.generated? owner files u = some (output', content'))
    (hthere : ∀ q ∈ files.wayTo output, files.at? q ≠ none)
    (hleads : (files.prepared output).1.diskPath workDir output = .ok p)
    (hpath : p ∉ o.reads owner files workDir u ++ files.wayTo output' ++
      Files.passed workDir output') : o.Spares owner files workDir t u where
  written q written hwrites := by
    obtain ⟨output₁, hgenerated, hstores⟩ := hwrites
    cases ht.symm.trans hgenerated
    cases hleads.symm.trans hstores.leads
    simp only [List.mem_append, not_or] at hpath
    refine ⟨hpath.1.1, fun output₂ bytes hgenerated' => ?_⟩
    cases hu.symm.trans hgenerated'
    exact ⟨hpath.1.2, hpath.2⟩
  made q hmakes := by
    obtain ⟨output₁, bytes, hgenerated, hway⟩ := hmakes.mem_wayTo hdisk
    cases ht.symm.trans hgenerated
    exact absurd hmakes.1 (hthere q hway)

/-! ## The files after some of the templates -/

theorem After.start : o.After owner files workDir [] files where
  disk := rfl
  written := by simp
  made := by simp
  kept _ _ _ := rfl

/-- What is at a path is told by which templates have run. -/
theorem After.at?_eq (h : o.After owner files workDir ts gs)
    (h' : o.After owner files workDir ts' gs') (horder : ts'.Perm ts) (p : Text) :
    gs'.at? p = gs.at? p := by
  by_cases hwritten : ∃ t ∈ ts, ∃ content, o.Writes owner files workDir t p content
  · obtain ⟨t, ht, content, hwrites⟩ := hwritten
    rw [h.written t ht p content hwrites, h'.written t (horder.mem_iff.2 ht) p content hwrites]
  by_cases hmade : ∃ t ∈ ts, o.Makes owner files t p
  · obtain ⟨t, ht, hmakes⟩ := hmade
    rw [h.made t ht p hmakes, h'.made t (horder.mem_iff.2 ht) p hmakes]
  · simp only [not_exists, not_and] at hwritten hmade
    rw [h.kept p hwritten hmade,
      h'.kept p (fun t ht => hwritten t (horder.mem_iff.1 ht)) fun t ht =>
        hmade t (horder.mem_iff.1 ht)]

/-- All directories are kept. -/
theorem After.directory (h : o.After owner files workDir ts gs)
    (hdirectory : files.at? p = some .directory) : gs.at? p = some .directory := by
  rw [h.kept p (fun t _ content hwrites => hwrites.not_directory hdirectory) fun t _ hmakes => ?_]
  · exact hdirectory
  · rw [hmakes.1] at hdirectory
    cases hdirectory

/-- What is at no path of an output stays readable. -/
theorem After.read_kept (h : o.After owner files workDir ts gs)
    (hdisk : files.workDir = some workDir) {name : Text} (hread : files.read name = .ok content)
    (hother : ∀ t ∈ ts, ∀ p written, o.Writes owner files workDir t p written →
      files.diskPath workDir name ≠ .ok p) : gs.read name = .ok content := by
  obtain ⟨path, hleads, hfile⟩ := (Files.read_eq_ok_iff hdisk).1 hread
  refine (Files.read_eq_ok_iff (h.disk.trans hdisk)).2
    ⟨path, Files.diskPath_of_directories (fun _ => h.directory) hleads, ?_⟩
  rw [h.kept path (fun t ht written hwrites => hother t ht path written hwrites hleads)
    fun t _ hmakes => ?_]
  · exact hfile
  · rw [hmakes.1] at hfile
    cases hfile

/-- An output is read as it was written. -/
theorem After.read_output (h : o.After owner files workDir ts gs)
    (hdisk : files.workDir = some workDir) (ht : t ∈ ts) {output : Text}
    (hgenerated : o.generated? owner files t = some (output, content))
    (hstores : files.Stores workDir output p) : gs.read output = .ok content := by
  have hdirectory : ∀ q, (files.prepared output).1.at? q = some .directory →
      gs.at? q = some .directory := by
    intro q hq
    by_cases hmade : Files.Made files (files.prepared output).1 q
    · refine h.made t ht q ⟨hmade.1, ?_⟩
      rw [effect, hgenerated]
      exact (Files.store_directory_iff hdisk).2 hq
    · rw [(files.prepared_adds output).kept q hmade] at hq
      exact h.directory hq
  exact (Files.read_eq_ok_iff (h.disk.trans hdisk)).2
    ⟨p, Files.diskPath_of_directories hdirectory hstores.leads,
      h.written t ht p content ⟨output, hgenerated, hstores⟩⟩

/-- After templates that spare it, a template generates what it generates alone. -/
theorem After.generated? (h : o.After owner files workDir ts gs) (howns : o.Owns c owner)
    (hdisk : files.workDir = some workDir)
    (hspares : ∀ t ∈ ts, o.Spares owner files workDir t u) :
    o.generated? owner gs u = o.generated? owner files u := by
  refine howns.generated?_congr hdisk ⟨h.disk, fun p hp => h.kept p ?_ ?_⟩
  · exact fun t ht content hwrites => ((hspares t ht).written p content hwrites).1 hp
  · exact fun t ht hmakes => ((hspares t ht).made p hmakes).1 hp

/-- A template that generates nothing changes nothing. -/
theorem does_of_generated?_eq_none (hnone : o.generated? owner files u = none) (gs : Files) :
    o.Does owner files workDir u gs gs where
  disk := rfl
  written p content hwrites := by
    obtain ⟨output, hgenerated, -⟩ := hwrites
    rw [hnone] at hgenerated
    cases hgenerated
  made p hmakes := by
    obtain ⟨output, bytes, hgenerated, -⟩ := hmakes.exists_generated
    rw [hnone] at hgenerated
    cases hgenerated
  kept _ _ _ := rfl

/-- A template does what storing its output does. -/
theorem does_of_storeTwin {output : Text}
    (hgenerated : o.generated? owner files u = some (output, content))
    (h : Files.StoreTwin files workDir output content gs gs') :
    o.Does owner files workDir u gs gs' := by
  have hwrites (p written : Text) : o.Writes owner files workDir u p written ↔
      written = content ∧ files.Stores workDir output p := by
    simp only [Writes, hgenerated, Option.some.injEq, Prod.mk.injEq]
    constructor
    · rintro ⟨_, ⟨rfl, rfl⟩, hstores⟩
      exact ⟨rfl, hstores⟩
    · rintro ⟨rfl, hstores⟩
      exact ⟨output, ⟨rfl, rfl⟩, hstores⟩
  have hmakes (p : Text) : o.Makes owner files u p ↔
      Files.Made files (files.store output content).1 p := by
    rw [Makes, effect, hgenerated]
  refine ⟨h.workDir, fun p written hp => ?_, fun p hp => h.made p ((hmakes p).1 hp),
    fun p hnone hmade => h.kept p (fun hstores => ?_) (mt (hmakes p).2 hmade)⟩
  · obtain ⟨rfl, hstores⟩ := (hwrites p written).1 hp
    exact h.stored p hstores
  · exact hnone content ((hwrites p content).2 ⟨rfl, hstores⟩)

/-- **After templates that spare it, a template does what it does alone.** -/
theorem After.effect (h : o.After owner files workDir ts gs) (howns : o.Owns c owner)
    (hdisk : files.workDir = some workDir)
    (hspares : ∀ t ∈ ts, o.Spares owner files workDir t u) :
    (o.effect owner gs u).2 = (o.effect owner files u).2 ∧
      o.Does owner files workDir u gs (o.effect owner gs u).1 := by
  unfold BuildOptions.effect
  rw [h.generated? howns hdisk hspares]
  cases hgenerated : o.generated? owner files u with
  | none => exact ⟨rfl, does_of_generated?_eq_none hgenerated gs⟩
  | some x =>
    obtain ⟨output, bytes⟩ := x
    -- the tree is ahead of the first one by what the others made
    have hahead (p : Text) (hp : ∀ t ∈ ts, ∀ content, ¬o.Writes owner files workDir t p content) :
        gs.at? p = files.at? p ∨ ∃ t ∈ ts, o.Makes owner files t p := by
      by_cases hmade : ∃ t ∈ ts, o.Makes owner files t p
      · exact .inr hmade
      · simp only [not_exists, not_and] at hmade
        exact .inl (h.kept p hp hmade)
    have hway : Files.Ahead (files.wayTo output) files gs := by
      refine ⟨h.disk, fun p hp => ?_⟩
      refine (hahead p fun t ht content hwrites => ?_).imp_right fun ⟨t, ht, hmakes⟩ => ?_
      · exact (((hspares t ht).written p content hwrites).2 output bytes hgenerated).1 hp
      · exact ⟨hmakes.1, h.made t ht p hmakes⟩
    have hname : ∀ p ∈ Files.passed workDir output,
        gs.at? p = files.at? p ∨ Files.Made files (files.prepared output).1 p := by
      intro p hp
      refine (hahead p fun t ht content hwrites => ?_).imp_right fun ⟨t, ht, hmakes⟩ => ?_
      · exact (((hspares t ht).written p content hwrites).2 output bytes hgenerated).2 hp
      · exact ((hspares t ht).made p hmakes).2 output bytes hgenerated hp
    obtain ⟨hend, htwin⟩ := Files.store_twin hdisk bytes hway hname
    exact ⟨congrArg Option.isNone hend, does_of_storeTwin hgenerated htwin⟩

/-- A template that does to the files what it does alone has run after the others. -/
theorem After.concat (h : o.After owner files workDir ts gs) (hdisk : files.workDir = some workDir)
    (hapart : ∀ t ∈ ts, o.Apart owner files workDir t u)
    (hdoes : o.Does owner files workDir u gs gs') :
    o.After owner files workDir (ts ++ [u]) gs' where
  disk := hdoes.disk.trans h.disk
  written t ht p content hwrites := by
    rcases List.mem_append.1 ht with ht | ht
    · have hspares := (hapart t ht).1
      rw [hdoes.kept p (hspares.not_writes hwrites) (hspares.not_makes hdisk hwrites)]
      exact h.written t ht p content hwrites
    · obtain rfl := List.mem_singleton.1 ht
      exact hdoes.written p content hwrites
  made t ht p hmakes := by
    rcases List.mem_append.1 ht with ht | ht
    · by_cases hagain : o.Makes owner files u p
      · exact hdoes.made p hagain
      · rw [hdoes.kept p (fun content hwrites => ?_) hagain]
        · exact h.made t ht p hmakes
        · exact (hapart t ht).2.not_makes hdisk hwrites hmakes
    · obtain rfl := List.mem_singleton.1 ht
      exact hdoes.made p hmakes
  kept p hwritten hmade := by
    rw [hdoes.kept p (hwritten u (by simp)) (hmade u (by simp))]
    exact h.kept p (fun t ht => hwritten t (List.mem_append_left _ ht)) fun t ht =>
      hmade t (List.mem_append_left _ ht)

/-! ## Builds -/

/-- What templates do to the files they do one after the other. -/
theorem Owns.files_buildAll (h : o.Owns c owner) {b : Build} (hb : b.registry.Plain)
    (ts : List TemplateFile) :
    (o.buildAll c owner b ts).1.files =
      ts.foldl (fun gs t => (o.effect owner gs t).1) b.files := by
  induction ts generalizing b with
  | nil => rfl
  | cons t ts ih =>
    obtain ⟨hone, hplain⟩ := h.buildOne_effect hb t
    rw [List.foldl_cons, ← congrArg Prod.fst hone]
    exact ih hplain

/-- Templates that are apart, built one after the other, each do what they do alone. -/
theorem Owns.buildAll_after (h : o.Owns c owner) (hdisk : files.workDir = some workDir) {b : Build}
    (hb : b.registry.Plain) (hafter : o.After owner files workDir ts b.files)
    (hapart : (ts ++ ts').Pairwise (o.Apart owner files workDir)) :
    o.After owner files workDir (ts ++ ts') (o.buildAll c owner b ts').1.files ∧
      (o.buildAll c owner b ts').1.registry.Plain := by
  induction ts' generalizing ts b with
  | nil =>
    rw [List.append_nil]
    exact ⟨hafter, hb⟩
  | cons t ts' ih =>
    have hother : ∀ u ∈ ts, o.Apart owner files workDir u t := fun u hu =>
      (List.pairwise_append.1 hapart).2.2 u hu t List.mem_cons_self
    obtain ⟨hone, hplain⟩ := h.buildOne_effect hb t
    obtain ⟨-, hdoes⟩ := hafter.effect h hdisk fun u hu => (hother u hu).1
    rw [← congrArg Prod.fst hone] at hdoes
    rw [List.append_cons] at hapart ⊢
    exact ih hplain (hafter.concat hdisk hother hdoes) hapart

/-- A template succeeds when it writes a file. -/
theorem effect_succeeds_iff (hdisk : files.workDir = some workDir) :
    (o.effect owner files t).2 = true ↔ ∃ p content, o.Writes owner files workDir t p content := by
  unfold effect Writes
  cases o.generated? owner files t with
  | none => simp
  | some x =>
    obtain ⟨output, bytes⟩ := x
    simp only [Option.isNone_iff_eq_none, ← Files.exists_stores_iff hdisk bytes, Option.some.injEq,
      Prod.mk.injEq]
    constructor
    · rintro ⟨p, hp⟩
      exact ⟨p, bytes, output, ⟨rfl, rfl⟩, hp⟩
    · rintro ⟨p, _, _, ⟨rfl, rfl⟩, hp⟩
      exact ⟨p, hp⟩

/-- A template that fails leaves the files as they are; it may have made directories. -/
theorem effect_fails (hdisk : gs.workDir = some workDir) (hfails : (o.effect owner gs t).2 = false)
    (p content : Text) :
    (o.effect owner gs t).1.at? p = some (.file content) ↔ gs.at? p = some (.file content) := by
  unfold effect at hfails ⊢
  generalize o.generated? owner gs t = generated at hfails ⊢
  rcases generated with _ | ⟨output, bytes⟩
  · rfl
  · have hstore : (gs.store output bytes).2 ≠ none := by
      rintro hnone
      simp [hnone] at hfails
    dsimp only
    rw [Files.store_of_ne_none hdisk hstore]
    exact (gs.prepared_adds output).file_iff

/-- A file is one of the start, or written by one of the templates that have run. -/
theorem After.file (h : o.After owner files workDir ts gs)
    (hfile : gs.at? p = some (.file content)) :
    files.at? p = some (.file content) ∨ ∃ t ∈ ts, o.Writes owner files workDir t p content := by
  by_cases hwritten : ∃ t ∈ ts, ∃ content, o.Writes owner files workDir t p content
  · obtain ⟨t, ht, content', hwrites⟩ := hwritten
    have hsame := (h.written t ht p content' hwrites).symm.trans hfile
    cases hsame
    exact .inr ⟨t, ht, hwrites⟩
  · simp only [not_exists, not_and] at hwritten
    rw [h.kept p hwritten fun t ht hmakes => ?_] at hfile
    · exact .inl hfile
    · rw [h.made t ht p hmakes] at hfile
      cases hfile

/-- A template that others spare succeeds if it writes a file alone; if it fails, the files stay as
they are. -/
theorem Owns.buildOne_after (h : o.Owns c owner) (hdisk : files.workDir = some workDir) {b : Build}
    (hb : b.registry.Plain) (hafter : o.After owner files workDir ts b.files)
    (hspares : ∀ u ∈ ts, o.Spares owner files workDir u t) :
    ((o.buildOne c owner b t).2 = none ↔
        ∃ p content, o.Writes owner files workDir t p content) ∧
      ((o.buildOne c owner b t).2 ≠ none → ∀ p content,
        (o.buildOne c owner b t).1.files.at? p = some (.file content) ↔
          b.files.at? p = some (.file content)) := by
  obtain ⟨hrun, -⟩ := h.buildOne_effect hb t
  have hfiles : (o.buildOne c owner b t).1.files = (o.effect owner b.files t).1 :=
    congrArg Prod.fst hrun
  have hsucceeds : (o.buildOne c owner b t).2.isNone = (o.effect owner b.files t).2 :=
    congrArg Prod.snd hrun
  obtain ⟨halone, -⟩ := hafter.effect h hdisk hspares
  constructor
  · rw [← effect_succeeds_iff hdisk, ← halone, ← hsucceeds, Option.isNone_iff_eq_none]
  · intro hfails
    rw [hfiles]
    refine effect_fails (hafter.disk.trans hdisk) ?_
    rw [← hsucceeds, ← Bool.not_eq_true, Option.isNone_iff_eq_none]
    exact hfails

/-- **The order of templates does not matter**, as long as they do not disturb each other on the files
a build starts with. In every order they leave the same files. Each succeeds where it would succeed
alone, generates what it would generate alone, and its output is there at the end; one that fails
leaves all files as they are. At the end there are only files of the start and outputs of templates
that succeed, and what is at no path of an output, such as a source, is as it was. -/
theorem order_irrelevant (h : o.Owns c owner) (hdisk : files.workDir = some workDir)
    (hapart : ts.Pairwise (o.Apart owner files workDir)) {order : List TemplateFile}
    (horder : order.Perm ts) :
    let start : Build := ⟨files, owner.registry, []⟩
    let after := (o.buildAll c owner start order).1.files
    (∀ p, after.at? p = (o.buildAll c owner start ts).1.files.at? p) ∧
    (∀ before t rest, order = before ++ t :: rest →
      let place := (o.buildAll c owner start before).1
      let run := o.buildOne c owner place t
      (run.2 = none ↔ (o.buildOne c owner start t).2 = none) ∧
      o.generated? owner place.files t = o.generated? owner files t ∧
      (run.2 = none → ∃ host p content,
        o.setUp c (.standard place.registry (.shared (owner.loading place.files))
          (o.layout place.files t.path)) = .ok host ∧
        (host.process place.files t.path t.content ()).product = some p ∧
        p.settings.encoding.encode? p.text = some content ∧
        after.read (o.outputPath t.rel p.outputFile) = .ok content) ∧
      (run.2 ≠ none → ∀ p content,
        run.1.files.at? p = some (.file content) ↔ place.files.at? p = some (.file content))) ∧
    (∀ p content, after.at? p = some (.file content) →
      files.at? p = some (.file content) ∨
        ∃ t ∈ ts, (o.buildOne c owner start t).2 = none ∧
          o.Writes owner files workDir t p content) ∧
    ∀ name content, files.read name = .ok content →
      (∀ t ∈ ts, ∀ p written, o.Writes owner files workDir t p written →
        files.diskPath workDir name ≠ .ok p) →
      after.read name = .ok content := by
  intro start after
  have hplain : start.registry.Plain := h.plain
  have hapart' : order.Pairwise (o.Apart owner files workDir) :=
    (horder.pairwise_iff And.symm).2 hapart
  have hafter : o.After owner files workDir order after :=
    (h.buildAll_after hdisk hplain .start hapart').1
  have hin : o.After owner files workDir ts (o.buildAll c owner start ts).1.files :=
    (h.buildAll_after hdisk hplain .start hapart).1
  refine ⟨fun p => hin.at?_eq hafter horder p, ?_, ?_, ?_⟩
  · rintro before t rest rfl place run
    obtain ⟨hbefore, -, hlater⟩ := List.pairwise_append.1 hapart'
    have hspares : ∀ u ∈ before, o.Spares owner files workDir u t := fun u hu =>
      (hlater u hu t List.mem_cons_self).1
    obtain ⟨hplace, hplace'⟩ := h.buildAll_after hdisk hplain .start hbefore
    obtain ⟨hsucceeds, hfails⟩ := h.buildOne_after hdisk hplace' hplace hspares
    have halone := (h.buildOne_after hdisk hplain .start (t := t) (by simp)).1
    have hsame := hplace.generated? h hdisk hspares
    refine ⟨hsucceeds.trans halone.symm, hsame, fun hnone => ?_, hfails⟩
    obtain ⟨q, content, output, hgenerated, hstores⟩ := hsucceeds.1 hnone
    obtain ⟨host, p, hhost, hproduct, hencoded, rfl⟩ :=
      h.exists_product hplace' (hsame.trans hgenerated)
    exact ⟨host, p, content, hhost, hproduct, hencoded,
      hafter.read_output hdisk (by simp) hgenerated hstores⟩
  · intro p content hfile
    obtain hstart | ⟨t, ht, hwrites⟩ := hafter.file hfile
    · exact .inl hstart
    · have halone := (h.buildOne_after hdisk hplain .start (t := t) (by simp)).1
      exact .inr ⟨t, horder.mem_iff.1 ht, halone.2 ⟨p, content, hwrites⟩, hwrites⟩
  · intro name content hread hother
    exact hafter.read_kept hdisk hread fun t ht => hother t (horder.mem_iff.1 ht)

/-! ## Empty templates -/

/-- An empty text has no segments. -/
theorem parse?_nothing (root : Text) (load : Option Loader) :
    Template.parse? root [] load = some (.ofSegments root [] []) := by
  have hscan : scan root [] = ([⟨.eof, [], ⟨root, 1, 1⟩, ⟨root, 1, 1⟩, ⟨root, 1, 1⟩⟩], none) := by
    cbv
  simp only [Template.parse?, hscan]
  rw [expand?]
  simp only [nextMove]
  rw [expand?]
  rfl

theorem parse_nothing (h : Host Unit) (gs : Files) (file : Text) :
    h.parse gs file [] = .ofSegments file [] [] :=
  Option.get_of_eq_some _ (parse?_nothing _ _)

theorem process_nothing (h : Host Unit) (gs : Files) (file : Text) (s : Unit) :
    h.process gs file [] s = h.conclusion file (.ofSegments file [] [])
      (Settings.resolve (.ofSegments file [] []) (h.start file).resolveOptions
        ((h.start file).loading gs) (h.start file).registry s) := by
  rw [← parse_nothing (h.start file) gs file]
  rfl

/-- An empty template of the directory `/w`. -/
def emptyTemplate (rel : Text) : TemplateFile := ⟨rel, utf8 "/w/" ++ rel, []⟩

/-- The options of a build that asks for nothing. -/
def plainOptions : BuildOptions where
  root := []
  configFile := []
  outDir := []
  includePaths := []
  referencePaths := []
  parameters := []
  relative := false
  extension := []
  encoding := []
  editorLayout := false
  globs := []

def plainOwner : Host Unit := .standard .standard (.own []) .standard

/-- An empty template reads no file. -/
theorem reads_emptyTemplate (heditor : o.editorLayout = false) (rel : Text) :
    o.reads owner files workDir (emptyTemplate rel) = [] := by
  rw [reads, heditor, emptyTemplate, parse_nothing]
  rfl

/-- Two empty templates in one directory. -/
def pairFiles : Files := .onDisk (utf8 "/w") [(utf8 "a.tt", []), (utf8 "b.tt", [])]

theorem order_irrelevant_pair :
    let pair := [emptyTemplate (utf8 "a.tt"), emptyTemplate (utf8 "b.tt")]
    let after := fun order =>
      (plainOptions.buildAll (.empty (utf8 "/w")) plainOwner ⟨pairFiles, .standard, []⟩ order).1.files
    pair.Pairwise (plainOptions.Apart plainOwner pairFiles (utf8 "/w")) ∧
      (∀ p, (after pair.reverse).at? p = (after pair).at? p) ∧
      ∃ (p : Product Unit) (content : Text), p.settings.encoding.encode? p.text = some content ∧
        (after pair.reverse).read (plainOptions.outputPath (utf8 "b.tt") p.outputFile) =
          .ok content := by
  intro pair after
  have howns : plainOptions.Owns (.empty (utf8 "/w")) plainOwner := rfl
  have hdisk : pairFiles.workDir = some (utf8 "/w") := rfl
  obtain ⟨first, -, ha⟩ : ∃ bytes, bytes ≠ [] ∧
      plainOptions.generated? plainOwner pairFiles (emptyTemplate (utf8 "a.tt")) =
        some (utf8 "/w/a.cs", bytes) :=
    exists_generated (utf8 "/w/a.cs") rfl (by rw [emptyTemplate, process_nothing]; decide +kernel)
  obtain ⟨second, -, hb⟩ : ∃ bytes, bytes ≠ [] ∧
      plainOptions.generated? plainOwner pairFiles (emptyTemplate (utf8 "b.tt")) =
        some (utf8 "/w/b.cs", bytes) :=
    exists_generated (utf8 "/w/b.cs") rfl (by rw [emptyTemplate, process_nothing]; decide +kernel)
  have hapart : pair.Pairwise (plainOptions.Apart plainOwner pairFiles (utf8 "/w")) := by
    refine List.pairwise_pair.2 ⟨?_, ?_⟩
    · exact spares_of_path (p := utf8 "/w/a.cs") hdisk ha hb (by decide +kernel)
        (by decide +kernel) (by rw [reads_emptyTemplate rfl]; decide +kernel)
    · exact spares_of_path (p := utf8 "/w/b.cs") hdisk hb ha (by decide +kernel)
        (by decide +kernel) (by rw [reads_emptyTemplate rfl]; decide +kernel)
  obtain ⟨hsame, hplaces, -, -⟩ := order_irrelevant howns hdisk hapart (List.reverse_perm pair)
  have hwrites : plainOptions.Writes plainOwner pairFiles (utf8 "/w") (emptyTemplate (utf8 "b.tt"))
      (utf8 "/w/b.cs") second :=
    ⟨_, hb, by decide +kernel, by decide +kernel, by decide +kernel⟩
  have hsucceeds := (howns.buildOne_after hdisk (b := ⟨pairFiles, .standard, []⟩)
    Registry.plain_standard .start (t := emptyTemplate (utf8 "b.tt")) (by simp)).1.2
    ⟨_, _, hwrites⟩
  obtain ⟨-, p, content, -, -, hencoded, hread⟩ := (hplaces [] _ _ rfl).2.2.1 hsucceeds
  exact ⟨hapart, hsame, p, content, hencoded, hread⟩

/-- Two empty templates, one in a directory that is called like the output of the other. -/
def crossedFiles : Files := .onDisk (utf8 "/w") [(utf8 "a.tt", []), (utf8 "a.cs/b.tt", [])]

def outOptions : BuildOptions := { plainOptions with outDir := utf8 "out" }

def sameOptions : BuildOptions := { plainOptions with extension := utf8 "tt" }

def sameOwner : Host Unit := { plainOwner with defaultExtension := utf8 "tt" }

/-- In general the order matters. Under `out` the output of `a.tt` and the directory of the other output
have one name, and the template that comes second fails. And when outputs end in `.tt` a template
writes over its own source. -/
theorem order_matters :
    let a := emptyTemplate (utf8 "a.tt")
    let b := emptyTemplate (utf8 "a.cs/b.tt")
    let after := fun (o : BuildOptions) owner order =>
      (o.buildAll (.empty (utf8 "/w")) owner ⟨crossedFiles, .standard, []⟩ order).1.files
    (∃ content,
      (after outOptions plainOwner [a, b]).at? (utf8 "/w/out/a.cs") = some (.file content)) ∧
      (after outOptions plainOwner [b, a]).at? (utf8 "/w/out/a.cs") = some .directory ∧
      crossedFiles.read (utf8 "/w/a.tt") = .ok [] ∧
      ∃ content, content ≠ [] ∧
        (after sameOptions sameOwner [a]).read (utf8 "/w/a.tt") = .ok content := by
  intro a b after
  have hout : outOptions.Owns (.empty (utf8 "/w")) plainOwner := rfl
  have hsame : sameOptions.Owns (.empty (utf8 "/w")) sameOwner := rfl
  have hdisk : crossedFiles.workDir = some (utf8 "/w") := rfl
  obtain ⟨first, -, ha⟩ : ∃ bytes, bytes ≠ [] ∧
      outOptions.generated? plainOwner crossedFiles a = some (utf8 "out/a.cs", bytes) :=
    exists_generated (utf8 "/w/a.cs") (by decide +kernel)
      (by simp only [a]; rw [emptyTemplate, process_nothing]; decide +kernel)
  obtain ⟨second, -, hb⟩ : ∃ bytes, bytes ≠ [] ∧
      outOptions.generated? plainOwner crossedFiles b = some (utf8 "out/a.cs/b.cs", bytes) :=
    exists_generated (utf8 "/w/a.cs/b.cs") (by decide +kernel)
      (by simp only [b]; rw [emptyTemplate, process_nothing]; decide +kernel)
  obtain ⟨third, hthird, hown⟩ : ∃ bytes, bytes ≠ [] ∧
      sameOptions.generated? sameOwner crossedFiles a = some (utf8 "/w/a.tt", bytes) :=
    exists_generated (utf8 "/w/a.tt") (by decide +kernel)
      (by simp only [a]; rw [emptyTemplate, process_nothing]; decide +kernel)
  -- the templates read nothing, so they generate the same on any disk of that directory
  have hlater (rel : Text) (gs : Files) (hgs : gs.workDir = some (utf8 "/w")) :
      outOptions.generated? plainOwner gs (emptyTemplate rel) =
        outOptions.generated? plainOwner crossedFiles (emptyTemplate rel) :=
    hout.generated?_congr hdisk ⟨hgs, by rw [reads_emptyTemplate rfl]; simp⟩
  have hstored {o : BuildOptions} {owner : Host Unit} {gs : Files} {t : TemplateFile}
      {output bytes : Text} (h : o.generated? owner gs t = some (output, bytes)) :
      (o.effect owner gs t).1 = (gs.store output bytes).1 := by rw [effect, h]
  have hfiles (order : List TemplateFile) : after outOptions plainOwner order =
      order.foldl (fun gs t => (outOptions.effect plainOwner gs t).1) crossedFiles :=
    hout.files_buildAll Registry.plain_standard order
  refine ⟨⟨first, ?_⟩, ?_, rfl, third, hthird, ?_⟩
  · rw [hfiles, List.foldl_cons, List.foldl_cons, List.foldl_nil, hstored ha,
      hstored ((hlater _ _ rfl).trans hb)]
    rfl
  · rw [hfiles, List.foldl_cons, List.foldl_cons, List.foldl_nil, hstored hb,
      hstored ((hlater _ _ rfl).trans ha)]
    rfl
  · have hone : after sameOptions sameOwner [a] = (sameOptions.effect sameOwner crossedFiles a).1 :=
      hsame.files_buildAll Registry.plain_standard [a]
    rw [hone, hstored hown]
    rfl

end TextTemplate.BuildOptions
