/-
Trees of files. A tree holds its files and directories by path. Names lead to them in one of two
ways. On a disk a name is followed element by element from the root or the working directory, every
directory on the way has to be there, names have a greatest length, and a directory cannot be read
as a file. In memory a name is only cleaned and then looked up, `.` and `..` both mean the root, and
a directory reads as an empty file. Either way only finitely many cleaned names lead to something:
`Files.locate?_finite`.
-/
import TextTemplate.NameMap
import TextTemplate.Path

namespace TextTemplate

/-- What stands at a path. -/
inductive Entry where
  | file (content : Text)
  | directory
  deriving DecidableEq, Repr

/-- Why a name leads nowhere, or not to what is wanted. -/
inductive FileFault where
  | absent
  | noSuchFile
  | notDirectory
  | isDirectory
  | nameTooLong
  deriving DecidableEq, Repr

def FileFault.message : FileFault → Text
  | absent => utf8 "file does not exist"
  | noSuchFile => utf8 "no such file or directory"
  | notDirectory => utf8 "not a directory"
  | isDirectory => utf8 "is a directory"
  | nameTooLong => utf8 "file name too long"

/-- A failed operation on a name. -/
structure FileError where
  operation : Text
  name : Text
  fault : FileFault
  deriving DecidableEq, Repr

def FileError.message (e : FileError) : Text :=
  e.operation ++ utf8 " " ++ e.name ++ utf8 ": " ++ e.fault.message

/-- A tree of files: on a disk when it has a working directory, else in memory. -/
structure Files where
  workDir : Option Text
  entries : NameMap Entry

namespace Files

/-- The longest name a disk takes, and the longest element of one. -/
def nameLimit : Nat := 4095

def elementLimit : Nat := 255

/-- The path of a clean name in memory. -/
def memoryPath (name : Text) : Text :=
  if name = utf8 "." ∨ name = utf8 ".." then utf8 "/" else name

/-- What is at a path; the root is always there. -/
def at? (fs : Files) (path : Text) : Option Entry :=
  if path = utf8 "/" then some .directory else fs.entries.find? path

/-- Where an element leads from a directory, both given by their elements, last first. -/
def enter (here : List Text) (e : Text) : List Text :=
  if e.isEmpty ∨ e = utf8 "." then here else if e = utf8 ".." then here.tail else e :: here

/-- Follows the elements of a name from the directory `here`, given by its elements, last first. -/
def follow (fs : Files) (here : List Text) : List Text → Except FileFault (List Text)
  | [] => .ok here
  | e :: es =>
    match fs.at? (Path.ofElements true here.reverse) with
    | none => .error .noSuchFile
    | some (.file _) => .error .notDirectory
    | some .directory =>
      if e.length > elementLimit then .error .nameTooLong else fs.follow (enter here e) es

/-- Where a name on disk starts, by elements, last first. -/
def startOf (workDir name : Text) : List Text :=
  if Path.isAbs name then [] else (Path.elements workDir).reverse

/-- The path a name on disk leads to, whether or not something is there. -/
def diskPath (fs : Files) (workDir name : Text) : Except FileFault Text :=
  if name.isEmpty then .error .noSuchFile
  else if name.length > nameLimit then .error .nameTooLong
  else
    (fs.follow (startOf workDir name) (Text.pieces 0x2F name)).map fun here =>
      Path.ofElements true here.reverse

/-- What a name leads to. -/
def find (fs : Files) (name : Text) : Except FileFault Entry :=
  match fs.workDir with
  | none => (fs.at? (memoryPath (Path.clean name))).elim (.error .absent) .ok
  | some dir =>
    match fs.diskPath dir name with
    | .error fault => .error fault
    | .ok path => (fs.at? path).elim (.error .noSuchFile) .ok

/-- Whether a name leads to a file or directory. -/
def has (fs : Files) (name : Text) : Bool := (fs.find name).isOk

def isDirectory (fs : Files) (name : Text) : Bool :=
  match fs.find name with
  | .ok .directory => true
  | _ => false

/-- The content of a file. -/
def read (fs : Files) (name : Text) : Except FileError Text :=
  match fs.find name, fs.workDir with
  | .ok (.file content), _ => .ok content
  | .ok .directory, none => .ok []
  | .ok .directory, some _ => .error ⟨utf8 "read", name, .isDirectory⟩
  | .error fault, none => .error ⟨utf8 "open", memoryPath (Path.clean name), fault⟩
  | .error fault, some _ => .error ⟨utf8 "open", name, fault⟩

/-- Cleans a name and tells what it leads to. -/
def locate? (fs : Files) (name : Text) : Option (Text × Entry) :=
  let name := Path.clean name
  match fs.workDir with
  | none => (fs.at? (memoryPath name)).map (name, ·)
  | some dir =>
    match fs.diskPath dir name with
    | .error _ => none
    | .ok path => (fs.at? path).map (name, ·)

/-! ## Writing -/

/-- The paths on the way to a path, from the top down, itself the last. -/
def way (path : Text) : List Text :=
  let es := Path.elements path
  (List.range es.length).map fun n => Path.ofElements (Path.isAbs path) (es.take (n + 1))

/-- The paths of the directories above a path. -/
def above (path : Text) : List Text := (way path).dropLast.map memoryPath

/-- Makes directories of those paths where nothing is. -/
def addDirectories (fs : Files) (paths : List Text) : Files :=
  { fs with
    entries := paths.foldl (fun es p =>
      if p == utf8 "/" || es.names.contains p then es else es.insert p .directory) fs.entries }

/-- The tree with something else at a path. -/
def set (fs : Files) (path : Text) (e : Entry) : Files :=
  { fs with entries := fs.entries.insert path e }

/-- Puts a file at a path, under directories that are made as they are needed. -/
def put (fs : Files) (path content : Text) : Files :=
  (fs.addDirectories (above path)).set path (.file content)

/-- A tree in memory of files and empty directories by name. -/
def inMemory (files : List (Text × Text)) (directories : List Text) : Files :=
  let fs := files.foldl (fun fs (name, content) => fs.put (memoryPath (Path.clean name)) content)
    ⟨none, []⟩
  directories.foldl (fun fs name =>
    let path := memoryPath (Path.clean name)
    fs.addDirectories (above path ++ [path])) fs

/-- A tree on disk of files by name; the names are taken from the working directory. -/
def onDisk (workDir : Text) (files : List (Text × Text)) : Files :=
  files.foldl (fun fs (name, content) => fs.put (Path.abs workDir name) content)
    (Files.addDirectories ⟨some workDir, []⟩ (above workDir ++ [workDir]))

/-- Writes a file. A tree in memory makes the directories above it; on disk they have to be
there. -/
def write (fs : Files) (name content : Text) : Except FileError Files :=
  match fs.workDir with
  | none => .ok (fs.put (memoryPath (Path.clean name)) content)
  | some dir =>
    match fs.diskPath dir name with
    | .error fault => .error ⟨utf8 "open", name, fault⟩
    | .ok path =>
      match fs.at? path with
      | some .directory => .error ⟨utf8 "open", name, .isDirectory⟩
      | _ => .ok (fs.set path (.file content))

/-- Whether a name, or its last element, is too long. In memory no name is. -/
def isTooLong (fs : Files) (name element : Text) : Bool :=
  fs.workDir.isSome && (element.length > elementLimit || name.length > nameLimit)

/-- The path of a clean name given by its elements, which leads on disk to the directory `here`; all
last first. -/
def landing (fs : Files) (rooted : Bool) (name here : List Text) : Text :=
  match fs.workDir with
  | none => memoryPath (Path.ofElements rooted name.reverse)
  | some _ => Path.ofElements true here.reverse

/-- Makes the directories of a clean name, element by element: `name` are the elements behind, and
`here` is the directory they lead to, both last first. What is made before a failure stays. -/
def makeDirectories (fs : Files) (rooted : Bool) (name here : List Text) :
    List Text → Files × Option FileError
  | [] => (fs, none)
  | e :: es =>
    let written := Path.ofElements rooted (e :: name).reverse
    let path := fs.landing rooted (e :: name) (enter here e)
    if fs.isTooLong written e then (fs, some ⟨utf8 "mkdir", written, .nameTooLong⟩)
    else match fs.at? path with
      | some .directory => fs.makeDirectories rooted (e :: name) (enter here e) es
      | some (.file _) => (fs, some ⟨utf8 "mkdir", written, .notDirectory⟩)
      | none => (fs.set path .directory).makeDirectories rooted (e :: name) (enter here e) es

/-- Makes the directory of a clean name, and those above it. -/
def makeDirectory (fs : Files) (name : Text) : Files × Option FileError :=
  fs.makeDirectories (Path.isAbs name) [] (startOf (fs.workDir.getD []) name) (Path.elements name)

/-! ## Finitely many names -/

/-- There are finitely many texts of a given greatest length. -/
theorem exists_texts_of_length_le (n : Nat) : ∃ ts : List Text, ∀ t : Text, t.length ≤ n → t ∈ ts := by
  induction n with
  | zero => exact ⟨[[]], fun t h => by simp [List.length_eq_zero_iff.1 (Nat.le_zero.1 h)]⟩
  | succ n ih =>
    obtain ⟨ts, hts⟩ := ih
    refine ⟨[] :: ts.flatMap fun t => (List.range 256).map fun b => b.toUInt8 :: t, ?_⟩
    intro t h
    cases t with
    | nil => simp
    | cons b t =>
      refine List.mem_cons_of_mem _ (List.mem_flatMap.2 ⟨t, hts t (by simpa using h), ?_⟩)
      exact List.mem_map.2 ⟨b.toNat, List.mem_range.2 b.toNat_lt, by simp⟩

theorem length_le_of_diskPath {fs : Files} {dir name path : Text}
    (h : fs.diskPath dir name = .ok path) : name.length ≤ nameLimit := by
  unfold diskPath at h
  split at h
  · simp at h
  · split at h
    · simp at h
    · omega

theorem eq_of_memoryPath {name path : Text} (h : memoryPath name = path) :
    name ∈ [utf8 ".", utf8 "..", path] := by
  unfold memoryPath at h
  split at h
  · rename_i hc
    rcases hc with rfl | rfl <;> simp
  · simp [h]

theorem mem_of_at? {fs : Files} {path : Text} {e : Entry} (h : fs.at? path = some e) :
    path ∈ utf8 "/" :: fs.entries.names := by
  unfold at? at h
  split at h
  · rename_i hp
    simp [hp]
  · exact List.mem_cons_of_mem _ (NameMap.mem_names_of_find? h)

/-- **Finitely many clean names lead to something.** -/
theorem locate?_finite (fs : Files) :
    ∃ names : List Text, ∀ {name found : Text} {e : Entry},
      fs.locate? name = some (found, e) → found ∈ names := by
  obtain ⟨short, hshort⟩ := exists_texts_of_length_le nameLimit
  refine ⟨short ++ (utf8 "." :: utf8 ".." :: utf8 "/" :: fs.entries.names), ?_⟩
  intro name found e h
  unfold locate? at h
  simp only at h
  split at h
  · simp only [Option.map_eq_some_iff, Prod.mk.injEq] at h
    obtain ⟨e', he, rfl, _⟩ := h
    have hm := mem_of_at? he
    have hn := eq_of_memoryPath (rfl : memoryPath (Path.clean name) = _)
    simp only [List.mem_append, List.mem_cons, List.not_mem_nil, or_false] at hn hm ⊢
    rcases hn with hn | hn | hn
    · exact .inr (.inl hn)
    · exact .inr (.inr (.inl hn))
    · rw [← hn] at hm
      exact .inr (.inr (.inr hm))
  · split at h
    · simp at h
    · rename_i hd
      simp only [Option.map_eq_some_iff, Prod.mk.injEq] at h
      obtain ⟨_, _, rfl, _⟩ := h
      exact List.mem_append_left _ (hshort _ (length_le_of_diskPath hd))

end Files
end TextTemplate
