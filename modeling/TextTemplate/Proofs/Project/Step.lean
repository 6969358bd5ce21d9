/-
One template of a build. What a run generates is told by the files it sees, and not by what the build
did before: the host is set up anew, and the registry it is handed can load nothing
(`generated?`). What the run does to the files is to store what it generated (`buildOne_effect`).
-/
import TextTemplate.Project.Build
import TextTemplate.Proofs.Files.Footprint
import TextTemplate.Proofs.Host.Bare
import TextTemplate.Proofs.Host.Lookups
import TextTemplate.Proofs.Text.Utf8

namespace TextTemplate

/-! ## Hosts set up alike -/

namespace Registry

variable {σ : Type}

/-- A registry of the standard processors that has nothing loaded. -/
structure Plain (r : Registry σ) : Prop where
  builtins : r.builtins = (standard : Registry σ).builtins
  loaded : r.loaded = []

theorem plain_standard : (standard : Registry σ).Plain := ⟨rfl, rfl⟩

theorem Plain.addExternal {r : Registry σ} (h : r.Plain) (name type assembly : Text) :
    (r.addExternal name type assembly).Plain := by
  unfold Registry.addExternal
  split
  · exact h
  · exact ⟨h.builtins, by simp [h.loaded, NameMap.erase]⟩

end Registry

namespace Config

variable {σ : Type}

/-- A registry with the processors of the configuration declared. -/
def declared (c : Config) (r : Registry σ) : Registry σ :=
  c.processors.foldl (fun r p => r.addExternal p.name p.type p.assembly) r

theorem plain_declared (c : Config) {r : Registry σ} (h : r.Plain) : (c.declared r).Plain := by
  unfold declared
  induction c.processors generalizing r with
  | nil => exact h
  | cons p ps ih => exact ih (h.addExternal p.name p.type p.assembly)

end Config

section Equip

variable {σ : Type} (h : Host σ) (registry : Registry σ) (supply : Supply σ) (layout : Layout)

theorem Host.addParameters_equip (written : List Text) :
    (h.equip registry supply layout).addParameters written =
      ((h.addParameters written).1.equip registry supply layout, (h.addParameters written).2) := by
  induction written generalizing h with
  | nil => rfl
  | cons w ws ih =>
    rw [addParameters, addParameters, addParameter?, addParameter?]
    cases ParameterKey.read? w with
    | none => rfl
    | some x => exact ih (h.addParameter x.1 x.2)

theorem Host.applyLinePragmas_equip (c : Config) :
    c.applyLinePragmas (h.equip registry supply layout) =
      ((c.applyLinePragmas h).1.equip registry supply layout, (c.applyLinePragmas h).2) := by
  unfold Config.applyLinePragmas
  cases c.linePragmas with
  | none => rfl
  | some p =>
    dsimp only
    cases LineBase.ofName? p.fallback <;> rfl

/-- A configuration is applied alike, and the registry gets its processors if all goes well. -/
theorem Config.apply_equip (c : Config) :
    c.apply (h.equip registry supply layout) =
      match c.apply h with
      | (h, some e) => (h.equip registry supply layout, some e)
      | (h, none) => (h.equip (c.declared registry) supply layout, none) := by
  unfold apply
  let placed : Host σ := { h with
    includePaths := h.includePaths ++ c.includePaths.map c.place
    referencePaths := h.referencePaths ++ c.referencePaths.map c.place }
  have hpragmas := placed.applyLinePragmas_equip registry supply layout c
  simp only [placed, Host.equip] at hpragmas
  simp only [Host.equip]
  rw [hpragmas]
  rcases c.applyLinePragmas placed with ⟨h, _ | e⟩
  · let defaults : Host σ := { h with
      defaultExtension := if c.outputExtension.isEmpty then h.defaultExtension else c.outputExtension
      defaultEncoding := if c.outputEncoding.isEmpty then h.defaultEncoding else c.outputEncoding }
    have hparameters := defaults.addParameters_equip registry supply layout c.parameters
    simp only [defaults, Host.equip] at hparameters
    simp only [hparameters]
    rcases defaults.addParameters c.parameters with ⟨h, _ | e⟩ <;> rfl
  · rfl

end Equip

/-- UTF-8 has all characters, and of a text that is not empty some bytes. -/
theorem Encoding.exists_encode?_utf8 {s : Text} (hs : s ≠ []) :
    ∃ bytes, bytes ≠ [] ∧ Encoding.utf8.encode? s = some bytes := by
  have hrunes (rs : List Rune) :
      rs.mapM (runeBytes? .utf8) = some (rs.map fun r => Rune.encode r.code) := by
    induction rs with
    | nil => rfl
    | cons r rs ih => simp [runeBytes?, ih]
  have hencode (code : Nat) : Rune.encode code ≠ [] := by
    unfold Rune.encode
    repeat' split
    all_goals simp
  obtain ⟨b, s, rfl⟩ := List.exists_cons_of_ne_nil hs
  refine ⟨((Text.runes (b :: s)).map fun r => Rune.encode r.code).flatten, ?_, ?_⟩
  · simp [Text.runes_cons, hencode]
  · simp only [encode?, hrunes, Option.map_some]

namespace BuildOptions

variable {o : BuildOptions} {c : Config} {owner : Host Unit}

/-- How a host is set up does not hang on its registry, its supply of processors and its layout. -/
theorem setUp_equip (o : BuildOptions) (c : Config) (h : Host Unit) (registry : Registry Unit)
    (supply : Supply Unit) (layout : Layout) :
    o.setUp c (h.equip registry supply layout) =
      (o.setUp c h).map (·.equip (c.declared registry) supply layout) := by
  unfold setUp
  rw [Config.apply_equip]
  rcases c.apply h with ⟨h, _ | e⟩
  · let given : Host Unit := { h with
      includePaths := h.includePaths ++ o.includePaths
      referencePaths := h.referencePaths ++ o.referencePaths
      relative := h.relative || o.relative
      defaultExtension := if o.extension.isEmpty then h.defaultExtension else o.extension
      defaultEncoding := if o.encoding.isEmpty then h.defaultEncoding else o.encoding }
    have hparameters := given.addParameters_equip (c.declared registry) supply layout o.parameters
    simp only [given, Host.equip] at hparameters
    simp only [Host.equip, hparameters]
    rcases given.addParameters o.parameters with ⟨h, _ | e⟩
    · rfl
    · cases e <;> rfl
  · rfl

/-- The host that owns the registry of a build. -/
def Owns (o : BuildOptions) (c : Config) (owner : Host Unit) : Prop :=
  o.setUp c (.standard .standard (.own []) .standard) = .ok owner

/-- The hosts of a build are its owner, with what they are handed. -/
theorem Owns.setUp (h : o.Owns c owner) (registry : Registry Unit) (supply : Supply Unit)
    (layout : Layout) :
    o.setUp c (.standard registry supply layout) =
      .ok (owner.equip (c.declared registry) supply layout) := by
  calc o.setUp c (.standard registry supply layout)
      = o.setUp c ((Host.standard .standard (.own []) .standard).equip registry supply layout) := rfl
    _ = _ := o.setUp_equip c _ registry supply layout
    _ = _ := by rw [show o.setUp c _ = .ok owner from h]; rfl

theorem Owns.eq_equip (h : o.Owns c owner) :
    owner = owner.equip (c.declared .standard) (.own []) .standard := by
  have hself := h.symm.trans (h.setUp .standard (.own []) .standard)
  exact Except.ok.inj hself

theorem Owns.plain (h : o.Owns c owner) : owner.registry.Plain := by
  rw [h.eq_equip]
  exact c.plain_declared Registry.plain_standard

theorem Owns.supply (h : o.Owns c owner) : owner.supply = .own [] := by
  rw [h.eq_equip]
  rfl

/-- The owner finds no types, wherever it looks for them. -/
theorem Owns.bare (h : o.Owns c owner) {r : Registry Unit} (hr : r.Plain) (files : Files) :
    r.Bare (owner.loading files) := by
  refine ⟨hr.loaded, fun name e s => ?_⟩
  rw [Host.loading, h.supply, Registry.load]
  dsimp only
  cases Registry.locate _ name e with
  | error error => exact ⟨error, rfl⟩
  | ok location => exact ⟨_, rfl⟩

/-! ## What a template generates -/

/-- The name of the output of a template and its bytes, if a run of its own succeeds. -/
def generated? (o : BuildOptions) (owner : Host Unit) (files : Files) (t : TemplateFile) :
    Option (Text × Text) :=
  let h := owner.equip owner.registry owner.supply (o.layout files t.path)
  (h.process files t.path t.content ()).made?.bind fun p =>
    (p.settings.encoding.encode? p.text).map fun bytes => (o.outputPath t.rel p.outputFile, bytes)

/-- In UTF-8 all that is made is generated. -/
theorem exists_generated {files : Files} {t : TemplateFile} {name : Text} (output : Text)
    (hname : o.outputPath t.rel output = name)
    (hmade : ((owner.equip owner.registry owner.supply (o.layout files t.path)).process files t.path
        t.content ()).made?.map (fun p => (p.outputFile, p.settings.encoding)) =
      some (output, .utf8)) :
    ∃ bytes, bytes ≠ [] ∧ o.generated? owner files t = some (name, bytes) := by
  subst hname
  obtain ⟨p, hp, hpair⟩ := Option.map_eq_some_iff.1 hmade
  obtain ⟨rfl, hutf8⟩ := Prod.mk.inj hpair
  obtain ⟨bytes, hbytes, hencode⟩ := Encoding.exists_encode?_utf8 (Host.text_ne_nil hp)
  refine ⟨bytes, hbytes, ?_⟩
  rw [generated?, hp, Option.bind_some, hutf8, hencode, Option.map_some]

/-- What a template of a build does to the files, and whether it succeeds. -/
def effect (o : BuildOptions) (owner : Host Unit) (files : Files) (t : TemplateFile) :
    Files × Bool :=
  match o.generated? owner files t with
  | none => (files, false)
  | some (output, bytes) => ((files.store output bytes).1, (files.store output bytes).2.isNone)

/-- The paths that are looked at for what a template generates. -/
def reads (o : BuildOptions) (owner : Host Unit) (files : Files) (workDir : Text)
    (t : TemplateFile) : List Text :=
  (if o.editorLayout then
    EditorConfig.lookups workDir (EditorConfig.directoriesOf workDir (Host.defaultOutput t.path))
  else []) ++
  Host.lookups { owner with templateFile := t.path } files workDir
    (owner.parse files t.path t.content).requests

variable {files gs : Files} {workDir : Text} {t : TemplateFile}

theorem layout_congr (hdisk : files.workDir = some workDir)
    (hsame : Files.SameAt (o.reads owner files workDir t) files gs) :
    o.layout gs t.path = o.layout files t.path := by
  have hstart : files.startDir = workDir := by rw [Files.startDir, hdisk]; rfl
  have hstart' : gs.startDir = files.startDir := by rw [Files.startDir, hsame.workDir]; rfl
  unfold layout
  rw [hstart', hstart]
  dsimp only
  split
  · next heditor =>
    rw [EditorConfig.layout?_congr hdisk (hsame.mono fun p hp => ?_)]
    rw [reads, if_pos heditor]
    exact List.mem_append_left _ hp
  · rfl

/-- What a template generates is the same where nothing differs that is looked at for it. -/
theorem Owns.generated?_congr (h : o.Owns c owner) (hdisk : files.workDir = some workDir)
    (hsame : Files.SameAt (o.reads owner files workDir t) files gs) :
    o.generated? owner gs t = o.generated? owner files t := by
  let alone := owner.equip owner.registry owner.supply (o.layout files t.path)
  have hlayout := layout_congr hdisk hsame
  have hparse : owner.parse gs t.path t.content = owner.parse files t.path t.content :=
    owner.parse_congr hdisk (hsame.mono (List.subset_append_right _ _))
  have htemplate : alone.runTemplate gs t.path t.content =
      alone.runTemplate files t.path t.content := hparse
  have hbare : alone.registry.Bare (alone.loading files) := h.bare h.plain files
  have hbare' : alone.registry.Bare (alone.loading gs) := h.bare h.plain gs
  obtain ⟨-, hmade⟩ := Host.made?_process (show alone = alone.equip _ _ _ from rfl) hbare hbare' rfl
    htemplate ()
  rw [generated?, generated?, hlayout]
  exact congrArg (Option.bind · _) hmade.symm

theorem writeOutput_eq (o : BuildOptions) (files : Files) (rel : Text) (p : Product Unit) :
    ((o.writeOutput files rel p).1, (o.writeOutput files rel p).2.isNone) =
      match p.settings.encoding.encode? p.text with
      | none => (files, false)
      | some bytes =>
        let output := o.outputPath rel p.outputFile
        ((files.store output bytes).1, (files.store output bytes).2.isNone) := by
  unfold writeOutput
  dsimp only
  cases p.settings.encoding.encode? p.text with
  | none => rfl
  | some bytes =>
    dsimp only
    rw [Files.store, Files.prepared]
    rcases files.makeDirectory (Path.dir (o.outputPath rel p.outputFile)) with ⟨files, _ | e⟩
    · dsimp only
      cases files.write (o.outputPath rel p.outputFile) bytes <;> rfl
    · rfl

/-- The host a build runs a template on. -/
def hostOf (o : BuildOptions) (c : Config) (owner : Host Unit) (b : Build) (t : TemplateFile) :
    Host Unit :=
  owner.equip (c.declared b.registry) (.shared (owner.loading b.files)) (o.layout b.files t.path)

theorem Owns.buildOne_eq (h : o.Owns c owner) (b : Build) (t : TemplateFile) :
    let run := (o.hostOf c owner b t).process b.files t.path t.content ()
    let x := o.buildOne c owner b t
    x.1.registry = run.host.registry ∧
      (x.1.files, x.2.isNone) = match run.made? with
        | none => (b.files, false)
        | some p => ((o.writeOutput b.files t.rel p).1, (o.writeOutput b.files t.rel p).2.isNone) := by
  dsimp only
  have hproduct := (o.hostOf c owner b t).product_of_error_eq_none b.files t.path t.content ()
  unfold buildOne
  dsimp only
  rw [h.setUp]
  dsimp only
  rw [← hostOf]
  unfold Run.made?
  generalize (o.hostOf c owner b t).process b.files t.path t.content () = run at hproduct ⊢
  cases herror : run.error with
  | some e => exact ⟨rfl, rfl⟩
  | none =>
    obtain ⟨p, hp⟩ := hproduct herror
    rw [hp]
    exact ⟨rfl, rfl⟩

/-- On the host of a build a template makes what it makes alone. The registry stays plain. -/
theorem Owns.process_hostOf (h : o.Owns c owner) {b : Build} (hb : b.registry.Plain)
    (t : TemplateFile) :
    let run := (o.hostOf c owner b t).process b.files t.path t.content ()
    run.host.registry.Plain ∧ o.generated? owner b.files t = run.made?.bind fun p =>
      (p.settings.encoding.encode? p.text).map fun bytes => (o.outputPath t.rel p.outputFile, bytes) := by
  intro run
  let alone := owner.equip owner.registry owner.supply (o.layout b.files t.path)
  have hdeclared : (c.declared b.registry).Plain := c.plain_declared hb
  have hrest : alone = (o.hostOf c owner b t).equip alone.registry alone.supply
      (o.hostOf c owner b t).layout := rfl
  have hbare : (o.hostOf c owner b t).registry.Bare ((o.hostOf c owner b t).loading b.files) :=
    h.bare hdeclared b.files
  have hbare' : alone.registry.Bare (alone.loading b.files) := h.bare h.plain b.files
  have htemplate : (o.hostOf c owner b t).runTemplate b.files t.path t.content = _ := rfl
  obtain ⟨hstays, hmade⟩ := Host.made?_process hrest hbare hbare'
    (h.plain.builtins.trans hdeclared.builtins.symm) htemplate ()
  exact ⟨hstays ▸ hdeclared, congrArg (Option.bind · _) hmade.symm⟩

/-- **What one template of a build does**: it stores what it generates. The registry stays plain. -/
theorem Owns.buildOne_effect (h : o.Owns c owner) {b : Build} (hb : b.registry.Plain)
    (t : TemplateFile) :
    let x := o.buildOne c owner b t
    (x.1.files, x.2.isNone) = o.effect owner b.files t ∧ x.1.registry.Plain := by
  intro x
  obtain ⟨hregistry, hfiles⟩ := h.buildOne_eq b t
  obtain ⟨hplain, hgenerated⟩ := h.process_hostOf hb t
  refine ⟨hfiles.trans ?_, hregistry ▸ hplain⟩
  rw [effect, hgenerated]
  cases ((o.hostOf c owner b t).process b.files t.path t.content ()).made? with
  | none => rfl
  | some p =>
    refine (o.writeOutput_eq b.files t.rel p).trans ?_
    dsimp only [Option.bind_some]
    cases p.settings.encoding.encode? p.text <;> rfl

/-- What is generated is the encoded text of a product that the build makes. -/
theorem Owns.exists_product (h : o.Owns c owner) {b : Build} (hb : b.registry.Plain)
    {output bytes : Text} (hgenerated : o.generated? owner b.files t = some (output, bytes)) :
    ∃ host p, o.setUp c (.standard b.registry (.shared (owner.loading b.files))
        (o.layout b.files t.path)) = .ok host ∧
      (host.process b.files t.path t.content ()).product = some p ∧
      p.settings.encoding.encode? p.text = some bytes ∧ o.outputPath t.rel p.outputFile = output := by
  rw [(h.process_hostOf hb t).2] at hgenerated
  obtain ⟨p, hmade, hencoded⟩ := Option.bind_eq_some_iff.1 hgenerated
  obtain ⟨_, hbytes, hpair⟩ := Option.map_eq_some_iff.1 hencoded
  obtain ⟨rfl, rfl⟩ := Prod.mk.inj hpair
  refine ⟨o.hostOf c owner b t, p, h.setUp _ _ _, ?_, hbytes, rfl⟩
  unfold Run.made? at hmade
  split at hmade
  · exact hmade
  · cases hmade

end BuildOptions

end TextTemplate
