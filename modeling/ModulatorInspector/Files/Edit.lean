import ModulatorInspector.Files.Disk

namespace ModulatorInspector.Files

inductive Change where
  | write (content : List UInt8)
  | makeDirectory
  | makeLink (target : String)
  | remove

namespace Tree

def enter (t : Tree) (place : Location) : List Name → Except Fault (Tree × Location)
  | [] => .ok (t, place)
  | step :: rest =>
      match t.walk mostLinks place [step] with
      | .ok next => t.enter next rest
      | .error .notFound =>
          if (t.node? (place ++ [step])).isSome then .error .notFound
          else (t.set (place ++ [step]) .directory).enter (place ++ [step]) rest
      | .error fault => .error fault

-- The spot that a file gets which is written under `name`. Behind a link it is where the link
-- leads, also when nothing is there yet. The number is how many links may still be followed.
def fileSpot (t : Tree) (links : Nat) (place : Location) (name : Name) : Except Fault Location :=
  if name = here ∨ name = parent then .error .isDirectory
  else if longestName < name.length then .error .nameTooLong
  else match t.node? (place ++ [name]), links with
    | some .directory, _ => .error .isDirectory
    | some (.link _), 0 => .error .tooManyLinks
    | some (.link target), links + 1 => do
        let route ← Route.ofText target
        let start := if route.absolute then [] else place
        let next ← t.walk mostLinks start (route.steps.dropLast ++ [here])
        match route.steps.getLast? with
        | none => .error .isDirectory
        | some last => t.fileSpot links next last
    | _, _ => .ok (place ++ [name])

def change (t : Tree) (place : Location) (name : Name) (what : Change) : Except Fault Tree :=
  if t.node? place ≠ some .directory then .error .notDirectory
  else match what with
    | .write content => (t.fileSpot mostLinks place name).map fun spot => t.set spot (.file content)
    | .makeDirectory => (t.enter place [name]).map Prod.fst
    | .makeLink target =>
        if name = here ∨ name = parent ∨ (t.node? (place ++ [name])).isSome then .error .present
        else .ok (t.set (place ++ [name]) (.link target))
    | .remove => .ok (t.remove (place ++ [name]))

end Tree

def Disk.change (d : Disk) (path : List UInt8) (what : Change) : Disk :=
  let route := Route.ofBytes path
  match route.steps.getLast? with
  | none => d
  | some name =>
      let tree := match d.tree.enter (d.start route) route.steps.dropLast with
        | .error _ => d.tree
        | .ok (tree, place) => (tree.change place name what).toOption.getD d.tree
      { d with tree }

end ModulatorInspector.Files
