import WapitiStew.Impl.Gef.AtomicWrite
import WapitiStew.Spec.Gef.Bin

/-!
# What an atomic save promises

`content` is the complete content of a destination, as a reader of the directory
sees it; directories are no content. After the saves `commits` have finished, a
destination holds what the last of them to it has saved, or what it held before
(`saved`). `Saved` is what a controller of either format saves.
-/

namespace WSE.Spec.Gef

open WSE.Framework WSE.Impl.Gef

/-- The content of the file that an entry is. -/
def content : Option Node → Option Bytes
  | some (.file bytes) => some bytes
  | _ => none

/-- The contents of the destinations after finished saves, newest first. -/
def saved (calls : Nat → SaveCall) (before : FileSystem) : List Nat → Name → Option Bytes
  | [], n => content (before n)
  | i :: commits, n =>
    if n = (calls i).destination then some (calls i).bytes else saved calls before commits n

/-- A controller that can be saved; a BIN controller holds a sequence of blocks. -/
inductive Saved
  | bin (c : BINController) (h : ∃ bs, c = store bs)
  | csv (c : CSVController)

/-- The plain `write` of the controller to a file that holds `before`, on a host. -/
def Saved.write (host : Bool) (env : WriteEnv) (before : Option Bytes) :
    Saved → Option Bytes × Except Abort GefStatus
  | .bin c _ => c.write host env false before
  | .csv c => c.write env before

def Saved.emitted (host : Bool) : Saved → Emitted
  | .bin c _ => c.emitted host
  | .csv c => c.emitted

def Saved.openFailure : Saved → GefError
  | .bin _ _ => ⟨.io, .fileOpenFailed, "the binary file cannot be opened", 0⟩
  | .csv _ => ⟨.io, .fileOpenFailed, "the CSV file cannot be opened", 0⟩

end WSE.Spec.Gef
