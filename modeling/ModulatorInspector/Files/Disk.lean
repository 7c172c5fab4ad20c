import ModulatorInspector.Text.Lossy

namespace ModulatorInspector.Files

-- `notText` and `nulByte` are found before or after the system is asked; the others are its
-- answers. `other` is any further answer, with its number.
inductive Fault where
  | notFound | present | notDirectory | isDirectory | tooManyLinks | nameTooLong
  | nulByte | notText
  | other (text : String) (code : Nat)
  deriving DecidableEq, Repr

def Fault.message : Fault → String
  | .notFound => "No such file or directory (os error 2)"
  | .present => "File exists (os error 17)"
  | .notDirectory => "Not a directory (os error 20)"
  | .isDirectory => "Is a directory (os error 21)"
  | .tooManyLinks => "Too many levels of symbolic links (os error 40)"
  | .nameTooLong => "File name too long (os error 36)"
  | .nulByte => "file name contained an unexpected NUL byte"
  | .notText => "stream did not contain valid UTF-8"
  | .other text code => text ++ " (os error " ++ toString code ++ ")"

-- Names are bytes: a directory may hold names that are not text.
abbrev Name := List UInt8
-- The names from the root down. The root itself is the empty location and needs no entry.
abbrev Location := List Name

-- `unreadable` is a regular file, and `refusing` something else, that can be seen and not opened.
inductive Node where
  | file (content : List UInt8)
  | unreadable (fault : Fault)
  | directory
  | link (target : String)
  | refusing (fault : Fault)
  deriving DecidableEq

-- It is seen what an entry is, so this takes no access to it.
def Node.isFile : Node → Bool
  | .file _ | .unreadable _ => true
  | .directory | .link _ | .refusing _ => false

structure Tree where
  nodes : List (Location × Node)
  distinct : (nodes.map Prod.fst).Nodup

namespace Tree

def empty : Tree := ⟨[], by simp⟩

def node? (t : Tree) (spot : Location) : Option Node :=
  if spot = [] then some .directory else (t.nodes.find? fun entry => entry.1 = spot).map Prod.snd

def children (t : Tree) (parent : Location) : List Name :=
  t.nodes.filterMap fun entry => if entry.1.dropLast = parent then entry.1.getLast? else none

def without (t : Tree) (gone : Location → Bool) : Tree :=
  ⟨t.nodes.filter fun entry => !gone entry.1,
    t.distinct.sublist (List.filter_sublist.map Prod.fst)⟩

def remove (t : Tree) (spot : Location) : Tree :=
  t.without fun other => other.take spot.length = spot

def set (t : Tree) (spot : Location) (node : Node) : Tree :=
  ⟨(t.without fun other => other = spot).nodes ++ [(spot, node)], by
    have rest := (t.without fun other => other = spot).distinct
    rw [List.map_append, List.nodup_append]
    refine ⟨rest, by simp, ?_⟩
    intro a member b last equal
    simp only [List.map_cons, List.map_nil, List.mem_singleton] at last
    subst last
    subst equal
    obtain ⟨entry, kept, name⟩ := List.mem_map.mp member
    have differs := (List.mem_filter.mp kept).2
    simp [name] at differs⟩

end Tree

def isAbsolute (path : String) : Bool := path.toList.head? == some '/'

-- An absolute second part replaces the first; an empty first part adds no slash.
def join (base part : String) : String :=
  if isAbsolute part || base.isEmpty then part
  else if base.toList.getLast? == some '/' then base ++ part
  else base ++ "/" ++ part

def slash : UInt8 := 47
def here : Name := [46]
def parent : Name := [46, 46]

def segments : List UInt8 → List (List UInt8)
  | [] => [[]]
  | b :: rest =>
      if b = slash then [] :: segments rest
      else match segments rest with
        | first :: more => (b :: first) :: more
        | [] => [[b]]

structure Route where
  absolute : Bool
  steps : List Name

def Route.ofBytes (bytes : List UInt8) : Route where
  absolute := bytes.head? == some slash
  steps := (segments bytes).filter (· ≠ []) ++ if bytes.getLast? = some slash then [here] else []

def longestPath : Nat := 4095
def longestName : Nat := 255
def mostLinks : Nat := 40

def Route.ofText (path : String) : Except Fault Route :=
  let bytes := Utf8.bytes path
  if bytes.contains 0 then .error .nulByte
  else if bytes = [] then .error .notFound
  else if longestPath < bytes.length then .error .nameTooLong
  else .ok (Route.ofBytes bytes)

namespace Tree

def advance (t : Tree) (follow : Location → List Name → Except Fault Location) :
    Location → List Name → Except Fault Location
  | place, [] => .ok place
  | place, step :: rest =>
      match t.node? place with
      | none => .error .notFound
      | some .directory =>
          if step = Files.here then t.advance follow place rest
          else if step = Files.parent then t.advance follow place.dropLast rest
          else if longestName < step.length then .error .nameTooLong
          else match t.node? (place ++ [step]) with
            | none => .error .notFound
            | some (.link target) =>
                match Route.ofText target with
                | .error fault => .error fault
                | .ok route => follow (if route.absolute then [] else place) (route.steps ++ rest)
            | some _ => t.advance follow (place ++ [step]) rest
      | some _ => .error .notDirectory

-- The number is how many links may still be followed.
def walk (t : Tree) : Nat → Location → List Name → Except Fault Location
  | 0 => t.advance fun _ _ => .error .tooManyLinks
  | links + 1 => t.advance (t.walk links)

end Tree

structure Disk where
  tree : Tree
  workingDirectory : Location

namespace Disk

def start (d : Disk) (route : Route) : Location :=
  if route.absolute then [] else d.workingDirectory

def locate (d : Disk) (path : String) : Except Fault Location :=
  match Route.ofText path with
  | .error fault => .error fault
  | .ok route => d.tree.walk mostLinks (d.start route) route.steps

def find (d : Disk) (path : String) : Except Fault (Location × Node) :=
  match d.locate path with
  | .error fault => .error fault
  | .ok place =>
      match d.tree.node? place with
      | some node => .ok (place, node)
      | none => .error .notFound

def isFile (d : Disk) (path : String) : Bool :=
  match d.find path with
  | .error _ => false
  | .ok (_, node) => node.isFile

def readText (d : Disk) (path : String) : Except Fault String :=
  match d.find path with
  | .error fault => .error fault
  | .ok (_, .file content) =>
      match Utf8.text? content with
      | some text => .ok text
      | none => .error .notText
  | .ok (_, .unreadable fault) | .ok (_, .refusing fault) => .error fault
  | .ok _ => .error .isDirectory

def list (d : Disk) (path : String) : Except Fault (List Name) :=
  match d.find path with
  | .error fault => .error fault
  | .ok (place, .directory) => .ok (d.tree.children place)
  | .ok (_, .refusing fault) => .error fault
  | .ok _ => .error .notDirectory

-- Opening for reading and writing. Nothing is created and the tree stays as it is.
def openNode (d : Disk) (path : String) : Except Fault Unit :=
  match d.find path with
  | .error fault => .error fault
  | .ok (_, .file _) => .ok ()
  | .ok (_, .unreadable fault) | .ok (_, .refusing fault) => .error fault
  | .ok _ => .error .isDirectory

end Disk

end ModulatorInspector.Files
