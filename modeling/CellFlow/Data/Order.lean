import CellFlow.Data.Fault
import CellFlow.Data.Sort

/-!
Sorting keys, and pairs of keys. Only numbers can be compared with numbers, and texts with
texts; keys that cannot be compared with each other cannot be sorted.
-/

set_option autoImplicit false

namespace CellFlow.Key

def precedes (j k : Key) : Bool := !(k.less? j == some true)

def checkComparable (j k : Key) : Except Fault Unit :=
  if (j.less? k).isSome then .ok () else .error (.notOrdered "<" j.kind.name k.kind.name)

def checkSortable : List Key → Except Fault Unit
  | [] => .ok ()
  | k :: ks => do
    ks.forM fun j => checkComparable j k
    checkSortable ks

def decisive (p q : Key × Key) : Key × Key := if p.1 == q.1 then (p.2, q.2) else (p.1, q.1)

def checkPairsSortable : List (Key × Key) → Except Fault Unit
  | [] => .ok ()
  | p :: ps => do
    ps.forM fun q => checkComparable (decisive q p).1 (decisive q p).2
    checkPairsSortable ps

def sortPairs (ps : List (Key × Key)) : Except Fault (List (Key × Key)) := do
  checkPairsSortable ps
  return sortBy (fun p q => precedes (decisive p q).1 (decisive p q).2) ps

end CellFlow.Key
