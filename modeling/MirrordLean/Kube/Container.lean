import Mathlib

/-!
# mirrord kube - The target container and the mesh of a pod

When a target names no container, {lit}`choose_container` takes the first
container that is not a mesh or agent sidecar ({lit}`SKIP_NAMES`), and the
first container when every one is; it also reports whether the choice was
made among several, so that the user can be told to name one.
{lit}`check_mesh_vendor` tells which service mesh runs in a pod, from the
ambient annotation or from the names of its containers and init containers.

Main results:

- Theorem {lit}`chooseContainer_none_eq_candidates`: without a name, the
  choice is the first candidate, the candidates being the containers that are
  not sidecars, or all of them when every one is; the choice is reported as
  made among several exactly when there are two candidates or more.
- Theorem {lit}`chooseContainer_some`: with a name, the first container of
  that name, never reported as made among several.
- Theorem {lit}`checkMeshVendor_isSome_iff`: a mesh is detected exactly when
  the ambient annotation is enabled, or when the pod reports both its container
  and its init-container statuses and one of them is an Istio, Linkerd or Kuma
  sidecar or init container; the Istio CNI test never detects a pod the others
  miss.

Current gaps:

- A {lit}`ContainerStatus` is its name, the one field read here.
- The warning logged for a Telepresence container is left out.
-/

namespace Mirrord
namespace Kube

/-! ## Choosing the container -/

/-- {lit}`ContainerStatus` of {lit}`k8s_openapi`, by the field read here. -/
structure ContainerStatus where
  name : String
deriving DecidableEq, Repr

/-- {lit}`TELEPRESENCE_CONTAINER_NAME`. -/
def telepresenceContainerName : String := "traffic-agent"

/-- {lit}`SKIP_NAMES`: the mesh and agent sidecars no container is chosen
from while another is there. -/
def skipNames : List String :=
  ["kuma-sidecar", "kuma-init", "istio-proxy", "istio-init", "linkerd-proxy", "linkerd-init",
    "vault-agent", "vault-agent-init", "queue-proxy", telepresenceContainerName]

/-- {lit}`choose_container`: the container of the given name; without one, the
first container not in {lit}`SKIP_NAMES`, else the first container, with
{lit}`picked_from_many` set when all are skipped and there are several, or
when the filtered iterator yields a second container. -/
def chooseContainer (containerName : Option String) (containerStatuses : List ContainerStatus) :
    Option ContainerStatus × Bool :=
  match containerName with
  | some name => (containerStatuses.find? (·.name == name), false)
  | none =>
      let containerRefs := containerStatuses.filter fun status => !skipNames.contains status.name
      let (container, containerRefs, pickedFromMany) :=
        match containerRefs with
        | container :: rest => (some container, rest, false)
        | [] => (containerStatuses.head?, [], decide (containerStatuses.length > 1))
      (container, pickedFromMany || !containerRefs.isEmpty)

/-- Whether a container is one of the sidecars of {lit}`SKIP_NAMES`. -/
def isSidecar (status : ContainerStatus) : Bool := skipNames.contains status.name

/-- The containers a target that names none may mean: those that are not
sidecars, or all of them when every one is. -/
def candidates (statuses : List ContainerStatus) : List ContainerStatus :=
  if statuses.all isSidecar then statuses else statuses.filter fun status => !isSidecar status

/-- Without a name, {lit}`choose_container` picks the first candidate, and says
it picked from many exactly when there were two candidates or more. -/
theorem chooseContainer_none_eq_candidates (statuses : List ContainerStatus) :
    chooseContainer none statuses =
      ((candidates statuses).head?, decide (2 ≤ (candidates statuses).length)) := by
  unfold chooseContainer candidates
  cases h : statuses.filter fun status => !skipNames.contains status.name with
  | nil =>
    have hall : statuses.all isSidecar = true := by
      simpa [isSidecar, List.all_eq_true] using List.filter_eq_nil_iff.mp h
    simp only [hall, if_true, List.isEmpty_nil, Bool.not_true, Bool.or_false]
    rfl
  | cons container rest =>
    have hall : statuses.all isSidecar = false := by
      have hmem : container ∈ statuses.filter fun status => !skipNames.contains status.name := by
        rw [h]; exact List.mem_cons_self _ _
      simp only [List.mem_filter] at hmem
      simpa [List.all_eq_false, isSidecar] using ⟨container, hmem.1, by simpa using hmem.2⟩
    simp only [hall, isSidecar, if_false, Bool.false_eq_true, h, Bool.false_or, List.head?_cons,
      List.length_cons]
    cases rest <;> simp

/-- With a name, {lit}`choose_container` picks the first container of that name,
if any, and never says it picked from many. -/
theorem chooseContainer_some (name : String) (statuses : List ContainerStatus) :
    chooseContainer (some name) statuses = (statuses.find? (·.name == name), false) := rfl

/-! ## The mesh of a pod -/

/-- {lit}`MeshVendor` of {lit}`mirrord_agent_env`, by the variants detected here. -/
inductive MeshVendor
  | istioAmbient
  | istioCni
  | istio
  | linkerd
  | kuma
deriving DecidableEq, Repr

/-- {lit}`PodStatus`, by the two status lists read here. -/
structure PodStatus where
  containerStatuses : Option (List ContainerStatus)
  initContainerStatuses : Option (List ContainerStatus)
deriving DecidableEq, Repr

/-- {lit}`Pod`: the annotations of its metadata and its status. -/
structure Pod where
  annotations : Option (List (String × String))
  status : Option PodStatus
deriving DecidableEq, Repr

/-- {lit}`ISTIO`. -/
def istio : List String := ["istio-proxy", "istio-init"]

/-- {lit}`LINKERD`. -/
def linkerd : List String := ["linkerd-proxy", "linkerd-init"]

/-- {lit}`KUMA`. -/
def kuma : List String := ["kuma-sidecar", "kuma-init"]

/-- {lit}`ISTIO_CNI`. -/
def istioCni : List String := ["istio-proxy", "istio-validation"]

/-- Whether the annotation {lit}`ambient.istio.io/redirection` is {lit}`enabled`. -/
def ambientEnabled (pod : Pod) : Bool :=
  ((pod.annotations.bind fun annotations => annotations.lookup "ambient.istio.io/redirection").map
    (· == "enabled")).getD false

/-- The vendor test of {lit}`check_mesh_vendor` on the container names, in its
order: Istio CNI when all its containers are there, then Istio, Linkerd and
Kuma when any of theirs is. -/
def meshVendorOfNames (containerNames : List String) : Option MeshVendor :=
  if istioCni.all (containerNames.contains ·) then some .istioCni
  else if istio.any (containerNames.contains ·) then some .istio
  else if linkerd.any (containerNames.contains ·) then some .linkerd
  else if kuma.any (containerNames.contains ·) then some .kuma
  else none

/-- {lit}`check_mesh_vendor`: Istio ambient from the annotation; otherwise,
when the status has both lists, the vendor of the names of the containers
followed by the init containers. -/
def checkMeshVendor (pod : Pod) : Option MeshVendor :=
  if ambientEnabled pod then some .istioAmbient
  else do
    let containerStatuses ← (← pod.status).containerStatuses
    let initContainerStatuses ← (← pod.status).initContainerStatuses
    meshVendorOfNames ((containerStatuses ++ initContainerStatuses).map (·.name))

/-- The names test detects a vendor exactly when an Istio, Linkerd or Kuma
container is among the names: the Istio CNI test needs {lit}`istio-proxy`,
which the Istio test finds on its own. -/
theorem meshVendorOfNames_isSome_iff (containerNames : List String) :
    (meshVendorOfNames containerNames).isSome ↔ ∃ n ∈ containerNames, n ∈ istio ++ linkerd ++ kuma := by
  unfold meshVendorOfNames
  have hany : (∃ n ∈ containerNames, n ∈ istio ++ linkerd ++ kuma) ↔
      ((istio ++ linkerd ++ kuma).any (containerNames.contains ·)) = true := by
    simp only [List.any_eq_true, List.elem_iff, List.contains]
    exact ⟨fun ⟨n, h1, h2⟩ => ⟨n, h2, h1⟩, fun ⟨n, h1, h2⟩ => ⟨n, h2, h1⟩⟩
  rw [hany, List.any_append, List.any_append]
  by_cases hcni : istioCni.all (containerNames.contains ·)
  · have hproxy : "istio-proxy" ∈ containerNames := (by simpa [istioCni] using hcni : _ ∧ _).1
    simp only [hcni, if_true, Option.isSome_some, true_iff, Bool.or_eq_true]
    exact .inl (.inl (List.any_eq_true.mpr ⟨"istio-proxy", by simp [istio], by simpa using hproxy⟩))
  · simp only [hcni, Bool.false_eq_true, if_false]
    cases istio.any (containerNames.contains ·) <;> cases linkerd.any (containerNames.contains ·) <;>
      cases kuma.any (containerNames.contains ·) <;> decide

/-- {lit}`check_mesh_vendor` finds a mesh exactly when the ambient annotation is
enabled, or when the pod reports both status lists and one of their containers
is an Istio, Linkerd or Kuma sidecar or init container. -/
theorem checkMeshVendor_isSome_iff (pod : Pod) :
    (checkMeshVendor pod).isSome ↔
      ambientEnabled pod ∨
        ∃ status containerStatuses initContainerStatuses, pod.status = some status ∧
          status.containerStatuses = some containerStatuses ∧
          status.initContainerStatuses = some initContainerStatuses ∧
          ∃ c ∈ containerStatuses ++ initContainerStatuses, c.name ∈ istio ++ linkerd ++ kuma := by
  unfold checkMeshVendor
  by_cases ha : ambientEnabled pod
  · simp [ha]
  · obtain ⟨annotations, status⟩ := pod
    rcases status with _ | ⟨_ | cs, _ | ics⟩ <;>
      simp only [ha, Bool.false_eq_true, if_false, bind, Option.bind, Option.isSome_none,
        Option.some.injEq, reduceCtorEq, false_and, and_false, exists_const, exists_false, or_self,
        exists_and_left, exists_eq_left', false_or, meshVendorOfNames_isSome_iff, List.mem_map,
        exists_exists_and_eq_and]

end Kube
end Mirrord
