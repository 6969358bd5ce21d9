/-
What a run reads on a disk: the files a template includes and the layout files of its output. Where
two trees have the same at the paths that are looked at for them, the template and its layout are the
same.
-/
import TextTemplate.EditorConfig.Definition
import TextTemplate.Host.Run
import TextTemplate.Proofs.Files.Footprint
import TextTemplate.Proofs.Include.Requests

namespace TextTemplate

variable {σ : Type} {fs gs : Files} {workDir : Text}

/-! ## Includes -/

namespace Host

/-- The paths that are looked at for the requests of a template. -/
def lookups (h : Host σ) (files : Files) (workDir : Text) (requests : List (Text × Text)) :
    List Text :=
  requests.flatMap fun q => files.passedAmong workDir (h.includeCandidates q.1 q.2)

theorem loadInclude_congr (h : Host σ) (hdisk : fs.workDir = some workDir) {requested from_ : Text}
    (hsame : Files.SameAt (fs.passedAmong workDir (h.includeCandidates requested from_)) fs gs) :
    h.loadInclude gs requested from_ = h.loadInclude fs requested from_ := by
  obtain ⟨hfound, hpassed⟩ := Files.findSome?_congr hdisk hsame
  rw [loadInclude, loadInclude, hfound]
  split
  · rfl
  · next name e hname =>
    rw [Files.read_congr hdisk (hsame.mono (hpassed name e hname))]

/-- A template is the same where its requests are answered by the same files. -/
theorem parse_congr (h : Host σ) (hdisk : fs.workDir = some workDir) {file content : Text}
    (hsame : Files.SameAt (lookups { h with templateFile := file } fs workDir
      (h.parse fs file content).requests) fs gs) :
    h.parse gs file content = h.parse fs file content := by
  have hparse := Template.parse?_includes file content (includes { h with templateFile := file } fs)
  refine Option.get_of_eq_some _ (Template.parse?_agree hparse fun q hq => ?_)
  have hload := loadInclude_congr { h with templateFile := file } hdisk
    (hsame.mono fun p hp => List.mem_flatMap.2 ⟨q, hq, hp⟩)
  exact congrArg Except.toOption hload

end Host

/-! ## Layouts -/

namespace EditorConfig

/-- The paths that are looked at for the layout files of directories. -/
def lookups (workDir : Text) (dirs : List Text) : List Text :=
  dirs.flatMap fun dir => Files.passed workDir (Path.join [dir, fileName])

/-- The directories whose layout files count for a file. -/
def directoriesOf (workDir file : Text) : List Text :=
  (Files.way (Path.abs workDir file)).dropLast.reverse ++ [utf8 "/"]

theorem ofDirectories?_congr (hdisk : fs.workDir = some workDir) (path : Text) {dirs : List Text}
    (hsame : Files.SameAt (lookups workDir dirs) fs gs) (d : Definition) :
    ofDirectories? gs path dirs d = ofDirectories? fs path dirs d := by
  induction dirs generalizing d with
  | nil => rfl
  | cons dir dirs ih =>
    have hrest := ih (hsame.mono fun p hp => by
      rw [lookups, List.flatMap_cons]
      exact List.mem_append_right _ hp)
    rw [ofDirectories?, ofDirectories?, Files.read_congr hdisk (hsame.mono fun p hp => by
      rw [lookups, List.flatMap_cons]
      exact List.mem_append_left _ hp)]
    split
    · split
      · exact hrest d
      · rfl
    · simp only [hrest]

theorem layout?_congr (hdisk : fs.workDir = some workDir) {file : Text}
    (hsame : Files.SameAt (lookups workDir (directoriesOf workDir file)) fs gs) (l : Layout) :
    layout? gs workDir file l = layout? fs workDir file l := by
  rw [layout?, layout?, ofFile?, ofFile?]
  exact congrArg _ (ofDirectories?_congr hdisk _ hsame _)

end EditorConfig

end TextTemplate
