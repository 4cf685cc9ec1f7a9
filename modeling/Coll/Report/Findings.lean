import Coll.Report.Diagnostic

/-!
What has been reported so far. Findings only ever grow at the end.
-/

namespace Coll

/-- Diagnostics in the order in which they were reported. -/
structure Findings where
  diagnostics : Array Diagnostic := #[]
  deriving DecidableEq, Repr

namespace Findings

def toList (found : Findings) : List Diagnostic := found.diagnostics.toList

def add (found : Findings) (d : Diagnostic) : Findings := ⟨found.diagnostics.push d⟩

def addOption (found : Findings) : Option Diagnostic → Findings
  | none => found
  | some d => found.add d

def size (found : Findings) : Nat := found.diagnostics.size

def errorCount (found : Findings) : Nat := found.diagnostics.toList.countP Diagnostic.isError

def hasErrors (found : Findings) : Bool := found.diagnostics.any Diagnostic.isError

@[simp] theorem toList_empty : ({} : Findings).toList = [] := rfl

@[simp] theorem toList_add (found : Findings) (d : Diagnostic) :
    (found.add d).toList = found.toList ++ [d] := by
  simp [toList, add]

@[simp] theorem toList_addOption (found : Findings) (d : Option Diagnostic) :
    (found.addOption d).toList = found.toList ++ d.toList := by
  cases d <;> simp [addOption]

theorem errorCount_eq (found : Findings) :
    found.errorCount = found.toList.countP Diagnostic.isError := rfl

end Findings

end Coll
