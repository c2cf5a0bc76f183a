/-!
# Services and the edges between them

A workload is named by its namespace and its own name. Workloads are ordered by
namespace first, edges by their source first.
-/

set_option autoImplicit false

namespace ScrapeTelemetry

structure Workload where
  ns : String
  name : String
  deriving DecidableEq, Repr, Inhabited

namespace Workload

instance : Ord Workload := ⟨compareLex (compareOn ns) (compareOn name)⟩

instance : Std.TransOrd Workload :=
  inferInstanceAs (Std.TransCmp (compareLex (compareOn ns) (compareOn name)))

instance : Std.LawfulEqOrd Workload where
  compare_self := Std.ReflOrd.compare_self
  eq_of_compare {a b} h := by
    obtain ⟨h1, h2⟩ := Ordering.then_eq_eq.1 h
    have h1 : a.ns = b.ns := Std.LawfulEqOrd.eq_of_compare h1
    have h2 : a.name = b.name := Std.LawfulEqOrd.eq_of_compare h2
    cases a; cases b; simp_all

def unknown : Workload := ⟨"", ""⟩

def isUnknown (k : Workload) : Bool := k.ns.isEmpty && k.name.isEmpty

def display (k : Workload) : String := k.ns ++ "/" ++ k.name

end Workload

structure Edge where
  src : Workload
  dst : Workload
  deriving DecidableEq, Repr, Inhabited

namespace Edge

instance : Ord Edge := ⟨compareLex (compareOn src) (compareOn dst)⟩

instance : Std.TransOrd Edge :=
  inferInstanceAs (Std.TransCmp (compareLex (compareOn src) (compareOn dst)))

instance : Std.LawfulEqOrd Edge where
  compare_self := Std.ReflOrd.compare_self
  eq_of_compare {a b} h := by
    obtain ⟨h1, h2⟩ := Ordering.then_eq_eq.1 h
    have h1 : a.src = b.src := Std.LawfulEqOrd.eq_of_compare h1
    have h2 : a.dst = b.dst := Std.LawfulEqOrd.eq_of_compare h2
    cases a; cases b; simp_all

def display (k : Edge) : String := k.src.display ++ " -> " ++ k.dst.display

end Edge
end ScrapeTelemetry
