import Infrarust.Lib.Dict

/-!
# `Infrarust.Lib.Files`: files that are written step by step

A file system maps paths to files and files to their bytes. A writer opens a path, which makes the
file empty, and then writes its content in as many calls as it takes. The file that it writes is
the one that it opened: another writer may open the same path meanwhile, or rename it.

`Writing.Intact` says that nobody did. It holds when the file is opened, one call keeps it, and in
the end the path has the content (`read_of_intact`).
-/

set_option autoImplicit false

namespace Files

open List AList

structure FileSystem (P : Type) where
  /-- The file of a path. -/
  names : Dict P Nat
  contents : Dict Nat (List UInt8)
  /-- The number of the next file. -/
  next : Nat

/-- A content that is being written to a file. -/
structure Writing where
  file : Nat
  content : List UInt8
  written : Nat
deriving DecidableEq, Repr

/-- A text format for values of a type. What was written can be read. -/
structure Format (α : Type) where
  toText : α → Except String (List UInt8)
  fromText : List UInt8 → Except String α
  fromText_of_toText : ∀ {value : α} {content : List UInt8},
    toText value = .ok content → fromText content = .ok value

/-- Texts for the values of a list, in unary. -/
def Format.ofValues {α : Type} [DecidableEq α] (values : List α) : Format α where
  toText value :=
    if value ∈ values then .ok (List.replicate (values.idxOf value) 120) else .error "no text"
  fromText content :=
    match values[content.length]? with
    | some value => .ok value
    | none => .error "not a text"
  fromText_of_toText := by
    intro value content h
    split at h <;> cases h
    case isTrue hmem => rw [length_replicate, List.getElem?_idxOf hmem]

namespace FileSystem

variable {P : Type} [DecidableEq P]

variable (fs : FileSystem P)

def read (path : P) : Option (List UInt8) := (fs.names.lookup path).bind fs.contents.lookup

/-- Opens a path for writing. The file is created if there is none, and made empty if there is. -/
def create (path : P) : FileSystem P × Nat :=
  match fs.names.lookup path with
  | some file => ({ fs with contents := fs.contents.insert file [] }, file)
  | none =>
    ({ names := fs.names.insert path fs.next
       contents := fs.contents.insert fs.next []
       next := fs.next + 1 }, fs.next)

/-- Writes bytes over the ones from an offset on. A gap before them is filled with zeros. -/
def writeAt (file offset : Nat) (bytes : List UInt8) : FileSystem P :=
  let old := (fs.contents.lookup file).getD []
  let front := old.take offset
  { fs with
    contents := fs.contents.insert file
      (front ++ List.replicate (offset - front.length) 0 ++ bytes ++
        old.drop (offset + bytes.length)) }

/-- Gives a file another path, and fails if there is no such file. -/
def rename (source target : P) : Option (FileSystem P) :=
  (fs.names.lookup source).map fun file =>
    { fs with names := (fs.names.erase source).insert target file }

omit [DecidableEq P] in
/-- A write at the end of a file appends. -/
theorem lookup_writeAt_end {fs : FileSystem P} {file old}
    (h : fs.contents.lookup file = some old) (bytes) :
    (fs.writeAt file old.length bytes).contents.lookup file = some (old ++ bytes) := by
  show (fs.contents.insert file _).lookup file = _
  rw [lookup_insert, h, Option.getD_some, take_length, Nat.sub_self,
    replicate_zero, append_nil, drop_of_length_le (Nat.le_add_right _ _), append_nil]

theorem read_rename {fs fs' : FileSystem P} {source target content}
    (h : fs.rename source target = some fs') (hread : fs.read source = some content) :
    fs'.read target = some content := by
  obtain ⟨file, hfile, rfl⟩ := Option.map_eq_some_iff.mp h
  rw [read, hfile] at hread
  show ((((fs.names.erase source).insert target file).lookup target).bind
    fs.contents.lookup) = some content
  rw [lookup_insert]
  exact hread

theorem rename_of_read {fs : FileSystem P} {source content} (target)
    (hread : fs.read source = some content) : ∃ fs', fs.rename source target = some fs' := by
  obtain ⟨file, hfile, -⟩ := Option.bind_eq_some_iff.mp hread
  exact ⟨_, by rw [rename, hfile]; rfl⟩

end FileSystem

namespace Writing

variable {P : Type} [DecidableEq P] {fs : FileSystem P} {path : P} {writing : Writing}

/-- One call, which writes some of the bytes that are left. -/
def advance (fs : FileSystem P) (writing : Writing) (count : Nat) : FileSystem P × Writing :=
  let bytes := (writing.content.drop writing.written).take count
  (fs.writeAt writing.file writing.written bytes,
    { writing with written := writing.written + bytes.length })

/-- The path has the file, and the file has what was written. -/
structure Intact (fs : FileSystem P) (path : P) (writing : Writing) : Prop where
  name : fs.names.lookup path = some writing.file
  content : fs.contents.lookup writing.file = some (writing.content.take writing.written)
  le : writing.written ≤ writing.content.length

theorem intact_create (fs : FileSystem P) (path content) :
    Intact (fs.create path).1 path ⟨(fs.create path).2, content, 0⟩ := by
  cases hname : fs.names.lookup path with
  | some file =>
    have hcreate : fs.create path = ({ fs with contents := fs.contents.insert file [] }, file) := by
      rw [FileSystem.create, hname]
    rw [hcreate]
    exact ⟨hname, lookup_insert fs.contents, Nat.zero_le _⟩
  | none =>
    have hcreate : fs.create path =
        ({ names := fs.names.insert path fs.next
           contents := fs.contents.insert fs.next []
           next := fs.next + 1 }, fs.next) := by
      rw [FileSystem.create, hname]
    rw [hcreate]
    exact ⟨lookup_insert fs.names, lookup_insert fs.contents, Nat.zero_le _⟩

theorem take_written_append (content : List UInt8) (written count) :
    content.take written ++ (content.drop written).take count =
      content.take (written + ((content.drop written).take count).length) := by
  rw [← take_add]
  rw [length_take, length_drop]
  rcases Nat.le_total count (content.length - written) with h | h
  · rw [Nat.min_eq_left h]
  · rw [Nat.min_eq_right h, take_of_length_le (by omega), take_of_length_le (by omega)]

theorem Intact.advance (h : Intact fs path writing) (count) :
    Intact (writing.advance fs count).1 path (writing.advance fs count).2 := by
  have hend := FileSystem.lookup_writeAt_end h.content
    ((writing.content.drop writing.written).take count)
  rw [length_take_of_le h.le, take_written_append] at hend
  refine ⟨h.name, hend, ?_⟩
  show writing.written + ((writing.content.drop writing.written).take count).length ≤
    writing.content.length
  have hle := h.le
  rw [length_take, length_drop]
  omega

theorem read_of_intact (h : Intact fs path writing)
    (hwrt : writing.written = writing.content.length) :
    fs.read path = some writing.content := by
  rw [FileSystem.read, h.name]
  show fs.contents.lookup writing.file = some writing.content
  rw [h.content, hwrt, take_length]

end Writing

end Files
