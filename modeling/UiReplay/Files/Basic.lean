import UiReplay.Files.Path

/-!
# Files and folders

The files under one folder are a list of places, each with what stands there.  A
place is the list of names that lead to it.  The folder itself is always there.

Going along a path needs a folder at every part but the last.  Reading needs a file
that holds a text.  Writing needs a folder to write in and no folder in the way.
Making folders goes part by part and keeps what is there.  What cannot be done has a
cause (`FileFault`).

* `find?_put` says that what is put at a place stands there.
* `find?_put_of_ne` says that the other places stay as they are.
-/

namespace UiReplay

/-- What stands at a place. -/
inductive FileEntry where
  /-- A folder. -/
  | folder
  /-- A file with its text, or with bytes that are no text. -/
  | file (text : Option String)
deriving DecidableEq, Repr

/-- A file with bytes. -/
def FileEntry.ofBytes (bytes : List Nat) : FileEntry :=
  .file (String.fromUTF8? ⟨(bytes.map UInt8.ofNat).toArray⟩)

/-- Why a file or a folder cannot be used. -/
inductive FileFault where
  /-- There is none. -/
  | missing
  /-- Something is in the way. -/
  | taken
  /-- A file stands where a folder should. -/
  | notFolder
  /-- A folder stands where a file should. -/
  | isFolder
  /-- The bytes of a file are no text. -/
  | notText
deriving DecidableEq, Repr

/-- The text of a fault, with the number that the system gives it. -/
def FileFault.message : FileFault → String
  | .missing => "No such file or directory (os error 2)"
  | .taken => "File exists (os error 17)"
  | .notFolder => "Not a directory (os error 20)"
  | .isFolder => "Is a directory (os error 21)"
  | .notText => "stream did not contain valid UTF-8"

/-- The names that lead to a place. -/
abbrev Place := List (List Char)

/-- The files and folders under one folder. -/
structure Files where
  /-- What stands at which place, the latest first. -/
  entries : List (Place × FileEntry) := []
deriving DecidableEq, Repr

namespace Files

/-! ## Places -/

/-- What stands at a place. -/
def find? (f : Files) (place : Place) : Option FileEntry :=
  if place = [] then some .folder
  else (f.entries.find? fun e => e.1 == place).map Prod.snd

/-- Puts something at a place. -/
def put (f : Files) (place : Place) (e : FileEntry) : Files := ⟨(place, e) :: f.entries⟩

theorem find?_put (f : Files) (place : Place) (e : FileEntry) (h : place ≠ []) :
    (f.put place e).find? place = some e := by
  simp [find?, put, h]

theorem find?_put_of_ne (f : Files) (e : FileEntry) {place other : Place} (h : place ≠ other) :
    (f.put place e).find? other = f.find? other := by
  by_cases ho : other = []
  · simp [find?, ho]
  · simp [find?, put, ho, h]

/-- The place that a path leads to.  All parts but the last lead through folders. -/
def walk (f : Files) (start : Place) : List (List Char) → Except FileFault Place
  | [] => .ok start
  | [name] => .ok (if name = ['.', '.'] then start.dropLast else start ++ [name])
  | name :: rest =>
      if name = ['.', '.'] then f.walk start.dropLast rest
      else
        match f.find? (start ++ [name]) with
        | some .folder => f.walk (start ++ [name]) rest
        | some (.file _) => .error .notFolder
        | none => .error .missing

/-- The place of a path.  An empty path has none. -/
def place? (f : Files) (path : String) : Except FileFault Place :=
  if path = "" then .error .missing else f.walk [] (FilePath.parts path)

/-! ## Reading and writing -/

/-- The text of a file. -/
def read? (f : Files) (path : String) : Except FileFault String := do
  match f.find? (← f.place? path) with
  | none => throw .missing
  | some .folder => throw .isFolder
  | some (.file text) =>
      if FilePath.endsInFolder path then throw .notFolder
      else
        match text with
        | some text => return text
        | none => throw .notText

/-- Writes a file. -/
def write? (f : Files) (path : String) (text : Option String) : Except FileFault Files := do
  let place ← f.place? path
  if FilePath.endsInFolder path || f.find? place = some .folder then throw .isFolder
  else return f.put place (.file text)

/-- Makes the folders along parts. -/
def makeAlong (f : Files) (start : Place) : List (List Char) → Except FileFault Files
  | [] => .ok f
  | name :: rest =>
      if name = ['.', '.'] then f.makeAlong start.dropLast rest
      else
        match f.find? (start ++ [name]) with
        | some .folder => f.makeAlong (start ++ [name]) rest
        | some (.file _) => .error (if rest.isEmpty then .taken else .notFolder)
        | none => (f.put (start ++ [name]) .folder).makeAlong (start ++ [name]) rest

/-- Makes a folder and those above it. -/
def makeFolders? (f : Files) (path : String) : Except FileFault Files :=
  f.makeAlong [] (FilePath.parts path)

/-- The files with one more, and with the folders that lead to it.  Nothing changes
when it cannot be there. -/
def provide (f : Files) (path : String) (e : FileEntry) : Files :=
  match f.makeFolders? ((FilePath.parent? path).getD ".") with
  | .error _ => f
  | .ok g =>
      match g.place? path with
      | .error _ => g
      | .ok place => g.put place e

/-- The names of what stands in a folder, each once. -/
def namesIn (f : Files) (folder : Place) : List String :=
  let inside := f.entries.filterMap fun e =>
    if e.1.dropLast = folder && e.1 ≠ [] then e.1.getLast? else none
  inside.eraseDups.map String.ofList

theorem put_of_write? {f g : Files} {path : String} {text : Option String}
    (h : f.write? path text = .ok g) :
    ∃ place, f.place? path = .ok place ∧ g = f.put place (.file text) := by
  cases hp : f.place? path with
  | error e => simp [write?, hp, bind, Except.bind] at h
  | ok place =>
      simp only [write?, hp, bind, Except.bind] at h
      split at h
      · cases h
      · cases h
        exact ⟨place, rfl, rfl⟩

/-! ## Tests -/

/-- The text of a file after a step that may fail. -/
def textAfter (path : String) (f : Except FileFault Files) : Except FileFault String :=
  f.bind fun f => f.read? path

example : (textAfter "./a.txt" ((Files.mk []).write? "a.txt" (some "x"))).toOption = some "x" := by
  decide +kernel
example : (textAfter "a" ((Files.mk []).write? "d/a.txt" (some "x"))).toOption = none := by
  decide +kernel
example : (textAfter "d/../d/e//a" (((Files.mk []).makeFolders? "d/e").bind
    fun f => f.write? "d/e/a" (some "x"))).toOption = some "x" := by decide +kernel

end Files

end UiReplay
