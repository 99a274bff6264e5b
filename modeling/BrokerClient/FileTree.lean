import BrokerClient.Fields
import BrokerClient.Text.Blank
import BrokerClient.Text.Utf8

/-!
# File trees

A tree of folders and files as data, with the operations that settings files need: reading, writing
and making folders.  A path is resolved from a working folder, name by name, and every name but the
last has to be a folder.  A path that starts with the text of the root is resolved from the root.
-/

namespace BrokerClient

/-- Why a file operation failed. -/
inductive FileFault
  | notFound
  | exists
  | notFolder
  | isFolder
  | nameTooLong
  | zeroByte
  | notText
  deriving Repr, DecidableEq

def FileFault.message : FileFault → String
  | notFound => "No such file or directory (os error 2)"
  | «exists» => "File exists (os error 17)"
  | notFolder => "Not a directory (os error 20)"
  | isFolder => "Is a directory (os error 21)"
  | nameTooLong => "File name too long (os error 36)"
  | zeroByte => "file name contained an unexpected NUL byte"
  | notText => "stream did not contain valid UTF-8"

/-- A file, or a folder with its entries by name. -/
inductive FileNode
  | file (content : Bytes)
  | folder (entries : List (String × FileNode))

namespace FileNode

/-- The node at the end of a list of names. -/
def at? : FileNode → List String → Option FileNode
  | node, [] => some node
  | file _, _ :: _ => none
  | folder entries, name :: names =>
    match Fields.find? name entries with
    | none => none
    | some node => node.at? names

/-- Puts a node at the end of a list of names; the folders on the way have to be there. -/
def put (new : FileNode) : FileNode → List String → FileNode
  | _, [] => new
  | file content, _ :: _ => file content
  | folder entries, name :: names =>
    let old := (Fields.find? name entries).getD (folder [])
    folder (Fields.insert name (put new old names) entries)

/-- Puts a node at the end of a list of names, making the folders on the way. -/
def plant (new : FileNode) : FileNode → List String → FileNode
  | _, [] => new
  | file _, name :: names => folder [(name, plant new (folder []) names)]
  | folder entries, name :: names =>
    let old := (Fields.find? name entries).getD (folder [])
    folder (Fields.insert name (plant new old names) entries)

mutual

/-- All nodes below a folder with their paths; the path of a folder ends in a slash, and the
content of a file stands beside its path. -/
def listing (above : String) : FileNode → List (String × Option Bytes)
  | file _ => []
  | folder entries => listEntries above entries

def listEntries (above : String) : List (String × FileNode) → List (String × Option Bytes)
  | [] => []
  | (name, file content) :: rest => (above ++ name, some content) :: listEntries above rest
  | (name, folder entries) :: rest =>
    (above ++ name ++ "/", none) :: listEntries (above ++ name ++ "/") entries ++
      listEntries above rest

end

end FileNode

/-- A tree with the text of its root and the working folder, given by its names from the root. -/
structure FileTree where
  rootText : String
  root : FileNode
  workFolder : List String

namespace FileTree

/-- The longest name, in bytes. -/
def nameLimit : Nat := 255

/-- The longest path, in bytes. -/
def pathLimit : Nat := 4095

/-- The names of a path, those that say nothing left out. -/
def names (path : String) : List String :=
  (Text.split '/' path).filter fun name => !(name == "" || name == ".")

/-- The tree that holds files at paths from the root, and the working folder.  A path that ends in a
slash is that of an empty folder. -/
def ofFiles (rootText : String) (files : List (String × Bytes)) (workFolder : List String) :
    FileTree :=
  let place (root : FileNode) (file : String × Bytes) : FileNode :=
    let new : FileNode := if file.1.endsWith "/" then .folder [] else .file file.2
    new.plant root (names file.1)
  let root := files.foldl place (.folder [])
  let root :=
    if (root.at? workFolder).isSome then root else (FileNode.folder []).plant root workFolder
  { rootText, root, workFolder }

/-- Where a path starts, and its names from there. -/
def startOf (tree : FileTree) (path : String) : List String × List String :=
  let text := path.toList
  let root := tree.rootText.toList ++ ['/']
  if root.isPrefixOf text then ([], names (String.ofList (text.drop root.length)))
  else (tree.workFolder, names path)

/-- Goes from a folder through the names; gives the names from the root. -/
def walk (tree : FileTree) (here : List String) : List String → Except FileFault (List String)
  | [] => .ok here
  | name :: rest =>
    match tree.root.at? here with
    | none => .error .notFound
    | some (.file _) => .error .notFolder
    | some (.folder entries) =>
      if name == ".." then tree.walk here.dropLast rest
      else if nameLimit < name.utf8ByteSize then .error .nameTooLong
      else if (Fields.find? name entries).isNone then .error .notFound
      else tree.walk (here ++ [name]) rest

def endsInSlash (path : String) : Bool :=
  path.toList.getLast? == some '/'

/-- Refuses texts that are no paths at all. -/
def checkPath (path : String) : Except FileFault Unit :=
  if path.toList.contains '\x00' then .error .zeroByte
  else if path.isEmpty then .error .notFound
  else if pathLimit < path.utf8ByteSize then .error .nameTooLong
  else .ok ()

/-- Finds the node that a path names. -/
def find (tree : FileTree) (path : String) : Except FileFault FileNode := do
  checkPath path
  let (start, names) := tree.startOf path
  let place ← tree.walk start names
  match tree.root.at? place with
  | none => .error .notFound
  | some (.file content) =>
    if endsInSlash path then .error .notFolder else .ok (.file content)
  | some node => .ok node

/-- Is there a node at the path? -/
def contains (tree : FileTree) (path : String) : Bool :=
  match tree.find path with
  | .ok _ => true
  | .error _ => false

def isFolder (tree : FileTree) (path : String) : Bool :=
  match tree.find path with
  | .ok (.folder _) => true
  | _ => false

/-- The content of the file at a path. -/
def readBytes (tree : FileTree) (path : String) : Except FileFault Bytes := do
  match ← tree.find path with
  | .file content => .ok content
  | .folder _ => .error .isFolder

/-- The content of a text file. -/
def readText (tree : FileTree) (path : String) : Except FileFault Bytes := do
  let content ← tree.readBytes path
  if (Bytes.toString? content).isSome then .ok content else .error .notText

/-- The place of a new node: the names from the root, whether it is there or not. -/
def newPlace (tree : FileTree) (path : String) : Except FileFault (List String) := do
  checkPath path
  let (start, names) := tree.startOf path
  match names.reverse with
  | [] => .ok start
  | last :: before =>
    let folder ← tree.walk start before.reverse
    match tree.root.at? folder with
    | some (.folder _) =>
      if last == ".." then .ok folder.dropLast
      else if nameLimit < last.utf8ByteSize then .error .nameTooLong
      else .ok (folder ++ [last])
    | some (.file _) => .error .notFolder
    | none => .error .notFound

/-- Writes a file, replacing one that is there. -/
def write (tree : FileTree) (path : String) (content : Bytes) : Except FileFault FileTree := do
  let place ← tree.newPlace path
  if endsInSlash path then .error .isFolder
  else
    match tree.root.at? place with
    | some (.folder _) => .error .isFolder
    | _ => .ok { tree with root := FileNode.put (.file content) tree.root place }

/-- Makes one folder. -/
def makeFolder (tree : FileTree) (path : String) : Except FileFault FileTree := do
  let place ← tree.newPlace path
  match tree.root.at? place with
  | some _ => .error .exists
  | none => .ok { tree with root := FileNode.put (.folder []) tree.root place }

/-- The path of the folder that a path lies in; the empty text is the working folder. -/
def parent? (path : String) : Option String :=
  let text := path.toList
  let absolute := text.head? == some '/'
  let trimEnd (chars : List Char) : List Char :=
    -- slashes and single points at the end say nothing, except a point that stands first
    let rec go : Nat → List Char → List Char
      | 0, reversed => reversed
      | _, ['.'] => ['.']
      | _, ['/'] => ['/']
      | turns + 1, '/' :: rest => go turns rest
      | turns + 1, '.' :: '/' :: rest => go turns ('/' :: rest)
      | _, reversed => reversed
    (go (2 * chars.length) chars.reverse).reverse
  let trimmed := trimEnd text
  match trimmed with
  | [] => none
  | ['/'] => none
  | _ =>
    let upTo := (trimmed.reverse.dropWhile (· != '/')).reverse
    if upTo.isEmpty then some ""
    else
      let above := trimEnd upTo
      some (String.ofList (if above.isEmpty && absolute then ['/'] else above))

/-- The folders to be made for a path: the path itself and those above it, nearest first. -/
def folderChain : Nat → String → List String
  | 0, _ => []
  | turns + 1, path =>
    match parent? path with
    | none => []
    | some above => if path.isEmpty then [] else path :: folderChain turns above

/-- Makes a folder and those above it that are missing: first goes up to one that can be made or is
there, then down again.  The folders made before a failure stay. -/
def makeFolders (tree : FileTree) (path : String) : FileTree × Except FileFault Unit :=
  up (folderChain (path.length + 1) path) []
where
  up : List String → List String → FileTree × Except FileFault Unit
    | [], missing => down tree missing
    | path :: above, missing =>
      match tree.makeFolder path with
      | .ok tree => down tree missing
      | .error .notFound => up above (path :: missing)
      | .error .exists =>
        if tree.isFolder path then down tree missing else (tree, .error .exists)
      | .error fault => (tree, .error fault)
  down (tree : FileTree) : List String → FileTree × Except FileFault Unit
    | [] => (tree, .ok ())
    | path :: below =>
      match tree.makeFolder path with
      | .ok tree => down tree below
      | .error .exists => if tree.isFolder path then down tree below else (tree, .error .exists)
      | .error fault => (tree, .error fault)

end FileTree

end BrokerClient
