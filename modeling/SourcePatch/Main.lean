import SourcePatch.Command.Basic

/-!
# The program

A command works on a copy of that part of the disk which it can see: the patch sets, the places
where the root of the tree is looked for, and the targets of the patches. What it changes in the
copy is then changed on the disk.

No name on the disk stands for half a file: a file is written under another name first, and then
takes its own in one step.
-/

namespace SourcePatch.Program

/-- Cuts a path that is free of links into names. -/
def locationOf (text : String) : Location := (Path.ofString text).segments.filter (· != "")

/-- The target that a link which leads nowhere has in the copy: a name that no file can have. -/
def nowhere : Path := .ofNames ["\x00"]

/-- Copies the directories above a place that is free of links, and the place itself. -/
def copyPlace (d : Disk) (l : Location) : IO Disk := do
  let above := (List.range l.length).map fun n => l.take n
  let d := (above.filter (!·.isEmpty)).foldl (fun d l => d.put l .directory) d
  let file := (← IO.currentDir) / (Path.ofNames l).text
  match ← file.symlinkMetadata.toBaseIO with
  | .error _ => return d
  | .ok metadata =>
    match metadata.type with
    | .dir => return if l.isEmpty then d else d.put l .directory
    | .file => return d.put l (.file (← IO.FS.readBinFile file) 0o644)
    | _ => return d

/-- Copies the entry that a path names, and what it leads to. -/
def copyEntry (d : Disk) (p : Path) : IO Disk := do
  let workingDirectory ← IO.currentDir
  let parent := workingDirectory / (p.parent?.getD p).text
  match ← (IO.FS.realPath parent).toBaseIO, p.fileName? with
  | .ok real, some name =>
    let file := workingDirectory / p.text
    match ← file.symlinkMetadata.toBaseIO with
    | .error _ => copyPlace d (locationOf real.toString)
    | .ok metadata =>
      let l := locationOf real.toString ++ [name]
      if metadata.type == .symlink then
        let d ← copyPlace d l.dropLast
        match ← (IO.FS.realPath file).toBaseIO with
        | .ok target =>
          let target := locationOf target.toString
          copyPlace (d.put l (.link (.ofNames target))) target
        | .error _ => return d.put l (.link nowhere)
      else copyPlace d l
  | _, _ => return d

/-- Copies everything on the way along a path. -/
def copyPath (d : Disk) (p : Path) : IO Disk := p.ancestors.reverse.foldlM copyEntry d

/-- Copies the patch set files that a command may load. -/
def copyPatchSets (d : Disk) (named : List Path) : IO Disk := do
  if !named.isEmpty then return ← named.foldlM copyPath d
  let d ← copyPath d Command.patchesDirectory
  if !d.isDirectory Command.patchesDirectory then return d
  let listing ← ((← IO.currentDir) / Command.patchesDirectory.text).readDir
  let names := listing.toList.map (·.fileName)
  let files := names.filter fun name => (Path.splitName name).2 == some "toml"
  files.foldlM (fun d name => copyPath d (Command.patchesDirectory.join ⟨[name]⟩)) d

/-- Copies the places where the root is looked for, and all targets under the root. -/
def copyTree (d : Disk) (tree : TreeOptions) (sets : List LoadedSet) : IO Disk := do
  let start := tree.root.getD (.ofNames d.workingDirectory)
  let marker := tree.marker.getD (Command.markerOf sets)
  let d ← copyPath d start
  let start := match d.canonicalize start with
    | .ok l => Path.ofNames l
    | .error _ => start
  let d ← (start :: start.parent?.toList).foldlM (fun d p => copyPath d (p.join marker)) d
  match Root.find d start marker with
  | .error _ => return d
  | .ok r =>
    let targets := sets.flatMap fun s => s.set.patches.map (·.file)
    (Command.markersOf sets ++ targets).foldlM
      (fun d target => copyPath d (r.path.join (.ofString target))) d

/-- The tree options of a command, if it has any, and the patch set files that it names. -/
def neededBy : Command → Option TreeOptions × List Path
  | .apply tree _ _ _ | .status tree | .verify tree => (some tree, tree.patchFiles)
  | .list patchFiles => (none, patchFiles)

/-- The part of the disk that a command can see. -/
def copyFor (c : Command) : IO Disk := do
  let workingDirectory := locationOf (← IO.FS.realPath (← IO.currentDir)).toString
  let d ← copyPlace ⟨[], workingDirectory⟩ workingDirectory
  let (tree, patchFiles) := neededBy c
  let d ← copyPatchSets d patchFiles
  match tree, Command.loadSets d patchFiles with
  | some tree, .ok sets => copyTree d tree sets
  | _, _ => return d

/-- The name beside a file that starts with `.` and goes on with `mark`. -/
def beside (l : Location) (mark : String) : String :=
  (Path.ofNames (l.dropLast ++ ["." ++ mark ++ l.getLastD ""])).text

/-- Does something with a file beside another one, and takes that file away if it fails. -/
def orRemove (beside : String) (action : IO Unit) : IO Unit := do
  try action
  catch e =>
    try IO.FS.removeFile beside catch _ => pure ()
    throw e

/-- Writes a file under a name beside its own, and gives it its own name then. -/
def writeFile (l : Location) (bytes : ByteArray) : IO Unit := do
  let temporary := beside l "tmp"
  orRemove temporary do
    IO.FS.writeBinFile temporary bytes
    IO.FS.rename temporary (Path.ofNames l).text

/-- Replaces a file that is there. The mode of a file cannot be read, so it is kept by keeping the
file: under another name it gets its new text, while a copy with the old text stands in for it. -/
def replaceFile (l : Location) (old new : ByteArray) : IO Unit := do
  let aside := beside l "new"
  IO.FS.hardLink (Path.ofNames l).text aside
  orRemove aside do
    writeFile l old
    IO.FS.writeBinFile aside new
    IO.FS.rename aside (Path.ofNames l).text

/-- Writes what has changed in a copy, directories before what is in them. -/
def writeChanges (before after : Disk) : IO Unit := do
  let changed := after.entries.filter fun (l, n) => before.node? l != some n
  for (l, n) in changed.mergeSort fun a b => decide (a.1.length ≤ b.1.length) do
    match n, before.node? l with
    | .directory, _ => IO.FS.createDir (Path.ofNames l).text
    | .file new _, some (.file old _) => replaceFile l old new
    | .file new _, _ => writeFile l new
    | .link _, _ => pure ()

def print : Command.Printed → IO Unit
  | .result text => do (← IO.getStdout).putStr text
  | .problem text => do (← IO.getStderr).putStr text

end SourcePatch.Program

open SourcePatch SourcePatch.Program in
def main (arguments : List String) : IO UInt32 := do
  let top ← IO.getEnv "ANDROID_BUILD_TOP"
  let before ← match Request.parse top arguments with
    | .ok (.run _ command) => copyFor command
    | _ => pure ⟨[], []⟩
  let outcome := runProgram ⟨top, true⟩ arguments before
  writeChanges before outcome.disk
  outcome.printed.forM print
  return outcome.exitCode.toUInt32
