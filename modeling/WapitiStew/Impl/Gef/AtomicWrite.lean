import Mathlib.Logic.Function.Basic
import WapitiStew.Framework.Transition
import WapitiStew.Impl.Gef.Bin
import WapitiStew.Impl.Gef.Csv

/-!
# Atomic saves

`atomicWrite` and `StagedFile` of `core/gef/FileOperations.h`, with the `write`
of a controller as its writer, for any number of calls that run concurrently in
one directory. A call moves from one system call to the next (`Phase`);
`callStep` takes what the environment answers (`Act`) and gives the next phase
and what happens to the directory (`Effect`). `create_directory` makes a
directory only where nothing has its name, and `rename` replaces a file in one
step; everything else may fail or throw at any point.

The stamp and the sequence number of a candidate name are arbitrary, so names of
different calls, and of other processes, may collide.
-/

namespace WSE.Impl.Gef

open WSE.Framework

abbrev Name := String

/-- An entry of the directory: a file, or a directory with the file `data` in it or without. -/
inductive Node
  | file (bytes : Bytes)
  | directory (data : Option Bytes)
  deriving DecidableEq

abbrev FileSystem := Name → Option Node

/-- What a call saves, and where: the calls on the stream that the plain `write` makes. -/
structure SaveCall where
  destination : Name
  emitted : Emitted
  completes : emitted.ended = .ok ()
  openFailure : GefError

/-- The complete encoding. -/
def SaveCall.bytes (call : SaveCall) : Bytes := call.emitted.chunks.flatten

/-- How a call ends. -/
abbrev SaveResult := Except Exception GefStatus

inductive Phase
  | idle
  | creating (attempt : Nat)
  | opening (directory : Name)
  | writing (directory : Name) (file : OStream) (rest : List Bytes)
  | closing (directory : Name) (file : OStream) (flushed : Bool)
  | replacing (directory : Name)
  /-- The destructor of `StagedFile`, with the result of the call. -/
  | removingFile (directory : Name) (result : SaveResult)
  | removingDirectory (directory : Name) (result : SaveResult)
  | done (result : SaveResult)
  deriving DecidableEq

inductive CreateResult
  | created | existed | error
  deriving DecidableEq

inductive RemoveResult
  | removed | failed | threw
  deriving DecidableEq

/-- What the environment answers to the next system call. -/
inductive Act
  | start
  | createDirectory (stamp : Int) (sequence : Nat) (r : CreateResult)
  | openFile (opens : Bool)
  | write (r : IOResult)
  | flush (r : IOResult)
  | close (r : IOResult)
  | rename (renamed : Bool)
  | removeFile (r : RemoveResult)
  | removeDirectory (r : RemoveResult)
  /-- An exception; the open file it leaves is closed with the result `r`, and a file that was
  being opened may exist already. -/
  | throwing (e : Exception) (exists_ : Bool) (r : IOResult)

/-- What a step does to the directory. -/
inductive Effect
  | none
  | createDirectory (directory : Name)
  | store (directory : Name) (bytes : Bytes)
  | replace (directory destination : Name)
  | removeFile (directory : Name)
  | removeDirectory (directory : Name)
  | removalFailed

def stagingName (stamp : Int) (sequence : Nat) : Name :=
  ".wse-save-" ++ toString stamp ++ "-" ++ toString sequence

def maxAttempts : Nat := 64

/-- `rename` can replace the destination by the staged file. -/
def FileSystem.renames (fs : FileSystem) (directory destination : Name) : Bool :=
  match fs directory, fs destination with
  | _, some (.directory _) => false
  | some (.directory (some _)), _ => true
  | _, _ => false

/-- The directory has no entries, so `remove` can remove it. -/
def FileSystem.isEmptyDirectory (fs : FileSystem) (directory : Name) : Bool :=
  match fs directory with
  | some (.directory .none) => true
  | _ => false

def FileSystem.apply (fs : FileSystem) : Effect → FileSystem
  | .none => fs
  | .createDirectory d => Function.update fs d (some (.directory .none))
  | .store d bytes => Function.update fs d (some (.directory (some bytes)))
  | .replace d destination =>
    match fs d with
    | some (.directory (some bytes)) =>
      Function.update (Function.update fs destination (some (.file bytes))) d
        (some (.directory .none))
    | _ => fs
  | .removeFile d => Function.update fs d (some (.directory .none))
  | .removeDirectory d => Function.update fs d .none
  | .removalFailed => fs

/-- One step of a call. -/
def callStep (call : SaveCall) (fs : FileSystem) : Phase → Act → Option (Phase × Effect)
  | .idle, .start => some (.creating 0, .none)
  | .creating attempt, .createDirectory stamp sequence r =>
    let candidate := stagingName stamp sequence
    match r with
    | .created =>
      if fs candidate = Option.none then some (.opening candidate, .createDirectory candidate)
      else Option.none
    | .existed =>
      if attempt + 1 < maxAttempts then some (.creating (attempt + 1), .none)
      else some (.done (.ok writeFailure), .none)
    | .error => some (.done (.ok writeFailure), .none)
  | .creating _, .throwing e _ _ => some (.done (.error e), .none)
  | .opening d, .openFile opens =>
    if opens then some (.writing d (OStream.opened []) call.emitted.chunks, .store d [])
    else some (.removingFile d (.ok (.failure call.openFailure)), .none)
  | .opening d, .throwing e exists_ _ =>
    some (.removingFile d (.error e), if exists_ then .store d [] else .none)
  | .writing d file (chunk :: rest), .write r =>
    let file := file.write r chunk
    some (.writing d file rest, .store d file.disk)
  | .writing d file [], .flush r =>
    let file := file.flush r
    some (.closing d file (!file.failed), .store d file.disk)
  | .writing d file _, .throwing e _ r =>
    some (.removingFile d (.error e), .store d (file.close r).disk)
  | .closing d file flushed, .close r =>
    let file := file.close r
    if flushed && !file.failed then some (.replacing d, .store d file.disk)
    else some (.removingFile d (.ok writeFailure), .store d file.disk)
  | .closing d file _, .throwing e _ r =>
    some (.removingFile d (.error e), .store d (file.close r).disk)
  | .replacing d, .rename renamed =>
    if renamed then
      if fs.renames d call.destination then
        some (.removingFile d (.ok .success), .replace d call.destination)
      else Option.none
    else some (.removingFile d (.ok writeFailure), .none)
  | .replacing d, .throwing e _ _ => some (.removingFile d (.error e), .none)
  | .removingFile d result, .removeFile r =>
    match r with
    | .removed => some (.removingDirectory d result, .removeFile d)
    | .failed => some (.removingDirectory d result, .removalFailed)
    | .threw => some (.done result, .removalFailed)
  | .removingDirectory d result, .removeDirectory r =>
    match r with
    | .removed =>
      if fs.isEmptyDirectory d then some (.done result, .removeDirectory d) else Option.none
    | .failed | .threw => some (.done result, .removalFailed)
  | _, _ => Option.none

/-- The directory, the calls, and a record of what they did: which call has created an entry
that is still there, the calls whose `rename` succeeded, newest first, and the calls that met a
failing removal. -/
structure SaveState where
  fs : FileSystem
  phase : Nat → Phase
  owner : Name → Option Nat
  commits : List Nat
  leftover : Nat → Bool

def SaveState.initial (fs : FileSystem) : SaveState :=
  ⟨fs, fun _ => .idle, fun _ => none, [], fun _ => false⟩

/-- The record of an effect of call `i`. -/
def SaveState.record (s : SaveState) (i : Nat) (p : Phase) (e : Effect) : SaveState where
  fs := s.fs.apply e
  phase := Function.update s.phase i p
  owner := match e with
    | .createDirectory d => Function.update s.owner d (some i)
    | .removeDirectory d => Function.update s.owner d none
    | _ => s.owner
  commits := match e with
    | .replace _ _ => i :: s.commits
    | _ => s.commits
  leftover := match e with
    | .removalFailed => Function.update s.leftover i true
    | _ => s.leftover

/-- A step of call `i`, where call `i` is `calls i`. -/
def saveStep (calls : Nat → SaveCall) (s : SaveState) (a : Nat × Act) : Option SaveState :=
  (callStep (calls a.1) s.fs (s.phase a.1) a.2).map fun (p, e) => s.record a.1 p e

end WSE.Impl.Gef
