import ScrapeTelemetry.Settings.Basic
import ScrapeTelemetry.Text.Port
import ScrapeTelemetry.Traffic.Sample

/-!
# Business traffic

The filter keeps what users asked for. Health probes, requests to admin ports,
platform namespaces and services internal to an ingress are dropped; node
samples always pass.
-/

set_option autoImplicit false

namespace ScrapeTelemetry

structure BusinessFilter where
  deniedNamespaces : List String
  adminPorts : List Nat
  probes : List Pattern
  dropInternalIngress : Bool

namespace BusinessFilter

def ofSettings (s : FilterSettings) : Except Failure BusinessFilter :=
  match s.probePaths.mapM Pattern.ofText? with
  | some probes => .ok ⟨s.deniedNamespaces, s.adminPorts, probes, s.dropInternalIngress⟩
  | none => .error (.pattern "a probe pattern cannot be read")

def isProbe (f : BusinessFilter) (text : String) : Bool := f.probes.any (·.isMatch text)

def isDenied (f : BusinessFilter) (ns : String) : Bool := f.deniedNamespaces.contains ns

def isAdmin (f : BusinessFilter) (port : Nat) : Bool := f.adminPorts.contains port

def admitsIngress (f : BusinessFilter) (r : IngressRoute) : Bool :=
  !(f.dropInternalIngress && endsWith r.backend "@internal") &&
    !r.ns.any f.isDenied && !r.path.any f.isProbe

def isProbeRoute (f : BusinessFilter) (route : String) : Bool :=
  route == "probe" || endsWith route ":probe" || f.isProbe route

def admitsMesh (f : BusinessFilter) (m : MeshFlow) : Bool :=
  !(f.isDenied m.workload.ns || f.isDenied m.dst.ns) && !m.targetPort.any f.isAdmin &&
    !m.route.any f.isProbeRoute && !(m.authority.bind portIn?).any f.isAdmin

variable {α : Type}

def admits (f : BusinessFilter) : TrafficSample α → Bool
  | .ingressCount s => f.admitsIngress s.route
  | .ingressTiming s => f.admitsIngress s.route
  | .meshCount s => f.admitsMesh s.flow
  | .meshTiming s => f.admitsMesh s.flow
  | .node _ => true

def keep (f : BusinessFilter) (samples : List (TrafficSample α)) :
    List (TrafficSample α) :=
  samples.filter f.admits

end BusinessFilter
end ScrapeTelemetry
