import SourcePatch.Disk.Operations
import SourcePatch.Edit.Verification
import SourcePatch.Text.Decoding

/-!
# Edits

An edit replaces a whole file. It does nothing if the file already holds the new text, and refuses
if the file is not what it is expected to be. The new text is written to a temporary file beside the
target, which then takes the target's name in one step: at no time is the target half written.

## Main definitions

* `Edit`, `Edit.apply`.
* `Disk.replaceFile`: the write itself.
* `WriteFaults`: what may go wrong in it besides.
* `readText`: a file as text.
-/

namespace SourcePatch

inductive EditError
  /-- The file is not what it was when the edit was planned. -/
  | changed (file : Path) (expected : Verification)
  | missingParent (file : Path)
  | io (cause : IoError)
  /-- The temporary file cannot be made or written. -/
  | temporary (cause : IoError)
  | notText (fault : Decoding.Fault)
  deriving DecidableEq

/-- The lower-case hexadecimal digits of a digest, all sixteen of them. -/
def digestText (digest : UInt64) : String :=
  let digits := Nat.toDigits 16 digest.toNat
  "0x" ++ String.ofList (List.replicate (16 - digits.length) '0' ++ digits)

def Verification.description : Verification → String
  | absent => "no file"
  | exact _ => "planned text"
  | hash digest => "xxh3 " ++ digestText digest

def EditError.message : EditError → String
  | changed file expected =>
    "File changed since it was planned: " ++ file.text ++ " (expected " ++
      expected.description ++ ")"
  | missingParent file => "Cannot write " ++ file.text ++ ": path has no parent directory"
  | io cause => "File I/O error: " ++ cause.message
  | temporary cause => "File I/O error: " ++ cause.message ++ " at path <temp>"
  | notText fault => "UTF-8 validation error: " ++ fault.message

/-- The bytes of a file, or `none` if it is not there. -/
def readBytes (d : Disk) (p : Path) : Except EditError (Option ByteArray) :=
  (d.read? p).mapError .io

/-- The text that bytes encode. -/
def decodeText (bytes : ByteArray) : Except EditError String :=
  match String.fromUTF8? bytes with
  | some text => .ok text
  | none => .error (.notText ((Decoding.firstFault? bytes).getD ⟨0, none⟩))

/-- The text of a file, or `none` if it is not there. -/
def readText (d : Disk) (p : Path) : Except EditError (Option String) := do
  match ← readBytes d p with
  | some bytes => return some (← decodeText bytes)
  | none => return none

/-! ## Writing -/

/-- The mode of a file that was not there before. -/
def defaultMode : Nat := 0o644

/-- The `n`-th name for a temporary file. It is as long as such names are, but has a slash in it, so
that no path that is written out leads to the file. -/
def temporaryName (n : Nat) : String :=
  let digits := toString n
  ".tmp/" ++ String.ofList (List.replicate (5 - digits.length) '0') ++ digits

/-- The file made at `p`, or what `next` makes if something is there already. -/
def unlessTaken (p : Path) (made : Except IoError Disk)
    (next : Unit → Except IoError (Path × Disk)) : Except IoError (Path × Disk) :=
  match made with
  | .ok d => .ok (p, d)
  | .error .fileExists => next ()
  | .error e => .error e

/-- Makes a temporary file in `directory` under the first name that is free. -/
def createTemporary (d : Disk) (directory : Path) :
    (attempts n : Nat) → Except IoError (Path × Disk)
  | 0, _ => .error .fileExists
  | attempts + 1, n =>
    let p := directory.join ⟨[temporaryName n]⟩
    unlessTaken p (d.createPrivate p) fun _ => createTemporary d directory attempts (n + 1)

/-- The mode that the file at `p` is to have after it is replaced. -/
def targetMode (d : Disk) (p : Path) : Except IoError Nat :=
  match d.mode p with
  | .ok mode => .ok mode
  | .error .noSuchFile => .ok defaultMode
  | .error e => .error e

/-- What goes wrong with a temporary file although nothing on the disk tells of it: there is no
space left, or no permission. -/
structure WriteFaults where
  /-- No more than so many bytes can be written. -/
  write : Option (Nat × IoError)
  sync : Option IoError
  setMode : Option IoError
  deriving DecidableEq, Repr

def WriteFaults.none : WriteFaults := ⟨.none, .none, .none⟩

/-- What an operation comes to if it may fail. -/
def orFault {α : Type} (fault : Option IoError) (result : Except IoError α) : Except IoError α :=
  match fault with
  | some e => .error e
  | none => result

/-- Writes the content of a temporary file, as far as that goes. -/
def writeContent (d : Disk) (temporary : Path) (content : ByteArray)
    (fault : Option (Nat × IoError)) : Except IoError Unit × Disk :=
  match fault with
  | none =>
    match d.append temporary content with
    | .error e => (.error e, d)
    | .ok d => (.ok (), d)
  | some (n, e) =>
    match d.append temporary (content.extract 0 n) with
    | .error e => (.error e, d)
    | .ok d => (.error e, d)

/-- Fills the temporary file and brings it to the disk, gives it the target's mode and then the
target's name. -/
def fillAndRename (d : Disk) (temporary target : Path) (content : ByteArray)
    (f : WriteFaults := .none) : Except EditError Unit × Disk :=
  match writeContent d temporary content f.write with
  | (.error e, d) => (.error (.temporary e), d)
  | (.ok (), d) =>
    match orFault f.sync (d.sync temporary) with
    | .error e => (.error (.io e), d)
    | .ok () =>
      match targetMode d target with
      | .error e => (.error (.io e), d)
      | .ok mode =>
        match orFault f.setMode (d.setMode temporary mode) with
        | .error e => (.error (.io e), d)
        | .ok d =>
          match d.renameFile temporary target with
          | .error e => (.error (.io e), d)
          | .ok d => (.ok (), d)

/-- Takes the temporary file away, if it is still there. -/
def discard (d : Disk) (temporary : Path) : Disk :=
  match d.removeFile temporary with
  | .ok d => d
  | .error _ => d

/-- Replaces a file, or makes it; if that fails, nothing has changed. -/
def Disk.replaceFile (d : Disk) (p : Path) (content : ByteArray) (f : WriteFaults := .none) :
    Except EditError Unit × Disk :=
  match p.parent? with
  | none => (.error (.missingParent p), d)
  | some directory =>
    if directory.isEmpty then (.error (.missingParent p), d)
    else match createTemporary d directory (d.entries.length + 1) 0 with
      | .error e => (.error (.temporary e), d)
      | .ok (temporary, d) =>
        match fillAndRename d temporary p content f with
        | (.ok (), d) => (.ok (), d)
        | (.error e, d) => (.error e, discard d temporary)

/-! ## Edits -/

structure Edit where
  file : Path
  newText : String
  expected : Verification
  deriving DecidableEq

inductive EditResult
  | applied (file : Path) (bytesWritten : Nat)
  | alreadyApplied (file : Path)
  deriving DecidableEq

namespace Edit

/-- An edit of a file that holds the text `current`, or that is not there. -/
def ofCurrent (file : Path) (newText : String) (current : Option String) : Edit :=
  ⟨file, newText, .ofCurrent (current.map String.toUTF8)⟩

/-- Whether the edit brings a file into existence. -/
def createsFile (e : Edit) : Bool := e.expected == .absent

def apply (e : Edit) (d : Disk) (f : WriteFaults := .none) : Except EditError EditResult × Disk :=
  match readBytes d e.file with
  | .error error => (.error error, d)
  | .ok current =>
    if current = some e.newText.toUTF8 then (.ok (.alreadyApplied e.file), d)
    else if e.expected.matchesCurrent current then
      match d.replaceFile e.file e.newText.toUTF8 f with
      | (.ok (), d) => (.ok (.applied e.file e.newText.utf8ByteSize), d)
      | (.error error, d) => (.error error, d)
    else (.error (.changed e.file e.expected), d)

end Edit

end SourcePatch
