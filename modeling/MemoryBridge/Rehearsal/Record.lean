/-!
# Records

A record is what has happened so far, one thing after another. Adding to it takes as long as what is
added, however much there is already.
-/

namespace MemoryBridge

structure Record (α : Type) where
  /-- What has happened, the latest first. -/
  latestFirst : List α := []
  deriving DecidableEq, Repr

namespace Record

variable {α : Type}

/-- What has happened, in order. -/
def toList (r : Record α) : List α := r.latestFirst.reverse

def add (r : Record α) (a : α) : Record α := ⟨a :: r.latestFirst⟩

def addAll (r : Record α) (as : List α) : Record α := ⟨as.reverseAux r.latestFirst⟩

@[simp] theorem toList_add (r : Record α) (a : α) : (r.add a).toList = r.toList ++ [a] := by
  simp [toList, add]

@[simp] theorem toList_addAll (r : Record α) (as : List α) :
    (r.addAll as).toList = r.toList ++ as := by
  simp [toList, addAll, List.reverseAux_eq]

end Record

end MemoryBridge
