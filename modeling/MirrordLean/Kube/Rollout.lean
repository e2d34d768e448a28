import Mathlib

/-!
# mirrord kube - The pod template and selector of an Argo rollout

An Argo {lit}`Rollout` gives its pod template inline, in
{lit}`.spec.template`, or through {lit}`.spec.workloadRef`, a reference to
another workload.  {lit}`Rollout::get_pod_template` refuses a spec that fills
both or neither, and otherwise takes the inline template or looks the
referenced workload up.  {lit}`Rollout::get_match_labels` does the same for the
selector, except that a selector of the rollout's own wins over a
{lit}`workloadRef` next to it.

Main results:

- Theorems {lit}`getPodTemplate_eq_ok_iff` and
  {lit}`getMatchLabels_eq_ok_iff`: the rollouts each function answers for, and
  with what; {lit}`get_pod_template` only with exactly one of the template and
  the reference, {lit}`get_match_labels` with the selector whenever there is
  one.
- Theorem {lit}`getPodTemplate_invalidState_names_workloadRef`: every
  invalid-state error {lit}`get_pod_template` raises names
  {lit}`.spec.workloadRef`, except the error for a spec that fills both
  fields, whose message spells it {lit}`.spec.workladRef`.

Current gaps:

- The lookup of the referenced workload, {lit}`WorkloadRef::get_pod_template`
  and {lit}`get_match_labels`, is not among the sources: it is a parameter,
  which may fail, or find no workload.
- {lit}`PodTemplateSpec` and {lit}`LabelSelector` are type parameters; the
  errors keep the field or message, not the rollout they are about.
-/

namespace Mirrord
namespace Kube

/-! ## Rollouts and their errors -/

/-- {lit}`WorkloadRef` of a rollout's spec. -/
structure WorkloadRef where
  apiVersion : String
  kind : String
  name : String
deriving DecidableEq, Repr

/-- {lit}`RolloutSpec`, by the fields read here. -/
structure RolloutSpec (PodTemplateSpec LabelSelector : Type) where
  selector : Option LabelSelector
  template : Option PodTemplateSpec
  workloadRef : Option WorkloadRef
deriving DecidableEq, Repr

/-- {lit}`Rollout`: the namespace of its metadata and its spec. -/
structure Rollout (PodTemplateSpec LabelSelector : Type) where
  «namespace» : Option String
  spec : Option (RolloutSpec PodTemplateSpec LabelSelector)
deriving DecidableEq, Repr

/-- The {lit}`KubeApiError` variants raised here, and the errors of the
lookup. -/
inductive KubeApiError
  | missingField (field : String)
  | invalidState (message : String)
  | kubeError (message : String)
deriving DecidableEq, Repr

/-- The message for a spec that fills both the template and the reference. -/
def templateAndWorkloadRefFilled : String :=
  "both `.spec.template` and `.spec.workladRef` fields are filled"

/-- The message for a spec that fills neither the template nor the
reference. -/
def templateAndWorkloadRefEmpty : String :=
  "both `.spec.template` and `.spec.workloadRef` fields are empty"

/-- The message for a spec that fills neither the selector nor the
reference. -/
def selectorAndWorkloadRefEmpty : String :=
  "both `.spec.selector` and `.spec.workloadRef` fields are empty"

/-- The message for a reference the lookup finds nothing for. -/
def unknownResource (workloadRef : WorkloadRef) : String :=
  "field `.spec.workloadRef` refers to an unknown resource `" ++ workloadRef.apiVersion ++ "/" ++
    workloadRef.kind ++ "`"

/-! ## Resolving the template and the selector -/

section Resolution

variable {PodTemplateSpec LabelSelector α : Type}

/-- The tail both functions share: look the reference up in the rollout's
namespace, and name it when nothing is found. -/
def fromWorkloadRef (lookup : WorkloadRef → Option String → Except KubeApiError (Option α))
    («namespace» : Option String) (workloadRef : WorkloadRef) : Except KubeApiError α := do
  match ← lookup workloadRef «namespace» with
  | some found => .ok found
  | none => .error (.invalidState (unknownResource workloadRef))

/-- {lit}`Rollout::get_pod_template`. -/
def Rollout.getPodTemplate
    (lookup : WorkloadRef → Option String → Except KubeApiError (Option PodTemplateSpec))
    (rollout : Rollout PodTemplateSpec LabelSelector) : Except KubeApiError PodTemplateSpec :=
  match rollout.spec with
  | none => .error (.missingField ".spec")
  | some spec =>
      match spec with
      | { template := some _, workloadRef := some _, .. } =>
          .error (.invalidState templateAndWorkloadRefFilled)
      | { template := none, workloadRef := none, .. } =>
          .error (.invalidState templateAndWorkloadRefEmpty)
      | { template := some template, .. } => .ok template
      | { workloadRef := some workloadRef, .. } =>
          fromWorkloadRef lookup rollout.namespace workloadRef

/-- {lit}`Rollout::get_match_labels`: a selector of the rollout's own
overrides the referenced workload's. -/
def Rollout.getMatchLabels
    (lookup : WorkloadRef → Option String → Except KubeApiError (Option LabelSelector))
    (rollout : Rollout PodTemplateSpec LabelSelector) : Except KubeApiError LabelSelector :=
  match rollout.spec with
  | none => .error (.missingField ".spec")
  | some spec =>
      match spec with
      | { selector := none, workloadRef := none, .. } =>
          .error (.invalidState selectorAndWorkloadRefEmpty)
      | { selector := some selector, .. } => .ok selector
      | { workloadRef := some workloadRef, .. } =>
          fromWorkloadRef lookup rollout.namespace workloadRef

/-- The shared tail answers exactly what the lookup finds. -/
theorem fromWorkloadRef_eq_ok_iff
    {lookup : WorkloadRef → Option String → Except KubeApiError (Option α)}
    {«namespace» : Option String} {workloadRef : WorkloadRef} {found : α} :
    fromWorkloadRef lookup «namespace» workloadRef = .ok found ↔
      lookup workloadRef «namespace» = .ok (some found) := by
  unfold fromWorkloadRef
  rcases lookup workloadRef «namespace» with e | _ | found' <;>
    simp [bind, Except.bind, eq_comm]

/-- The errors of the shared tail: the lookup's own, or an unknown resource
named by its api version and kind. -/
theorem fromWorkloadRef_error
    {lookup : WorkloadRef → Option String → Except KubeApiError (Option α)}
    {«namespace» : Option String} {workloadRef : WorkloadRef} {e : KubeApiError}
    (h : fromWorkloadRef lookup «namespace» workloadRef = .error e) :
    lookup workloadRef «namespace» = .error e ∨
      (lookup workloadRef «namespace» = .ok none ∧
        e = .invalidState (unknownResource workloadRef)) := by
  unfold fromWorkloadRef at h
  rcases hl : lookup workloadRef «namespace» with e' | _ | found <;>
    simp_all [bind, Except.bind, eq_comm]

/-- {lit}`get_pod_template` answers with the inline template of a spec without
a reference, or the looked-up template of a spec with a reference and no
template, and with nothing else. -/
theorem getPodTemplate_eq_ok_iff
    (lookup : WorkloadRef → Option String → Except KubeApiError (Option PodTemplateSpec))
    (rollout : Rollout PodTemplateSpec LabelSelector) (template : PodTemplateSpec) :
    rollout.getPodTemplate lookup = .ok template ↔ ∃ spec, rollout.spec = some spec ∧
      (spec.template = some template ∧ spec.workloadRef = none ∨
        spec.template = none ∧ ∃ workloadRef, spec.workloadRef = some workloadRef ∧
          lookup workloadRef rollout.namespace = .ok (some template)) := by
  obtain ⟨«namespace», _ | ⟨selector, template', _ | workloadRef⟩⟩ := rollout
  · simp [Rollout.getPodTemplate]
  · cases template' <;> simp [Rollout.getPodTemplate, eq_comm]
  · cases template' <;> simp [Rollout.getPodTemplate, ← fromWorkloadRef_eq_ok_iff]

/-- {lit}`get_match_labels` answers with the rollout's own selector whenever
there is one, and the looked-up selector otherwise. -/
theorem getMatchLabels_eq_ok_iff
    (lookup : WorkloadRef → Option String → Except KubeApiError (Option LabelSelector))
    (rollout : Rollout PodTemplateSpec LabelSelector) (selector : LabelSelector) :
    rollout.getMatchLabels lookup = .ok selector ↔ ∃ spec, rollout.spec = some spec ∧
      (spec.selector = some selector ∨
        spec.selector = none ∧ ∃ workloadRef, spec.workloadRef = some workloadRef ∧
          lookup workloadRef rollout.namespace = .ok (some selector)) := by
  obtain ⟨«namespace», _ | ⟨selector', template, _ | workloadRef⟩⟩ := rollout
  · simp [Rollout.getMatchLabels]
  · cases selector' <;> simp [Rollout.getMatchLabels, eq_comm]
  · cases selector' <;> simp [Rollout.getMatchLabels, ← fromWorkloadRef_eq_ok_iff, eq_comm]

/-! ## Field paths in the messages -/

/-- The invalid-state errors {lit}`get_pod_template` raises itself: the
conflict, the empty spec, and an unknown resource. -/
theorem getPodTemplate_invalidState
    {lookup : WorkloadRef → Option String → Except KubeApiError (Option PodTemplateSpec)}
    {rollout : Rollout PodTemplateSpec LabelSelector} {message : String}
    (h : rollout.getPodTemplate lookup = .error (.invalidState message)) :
    message = templateAndWorkloadRefFilled ∨ message = templateAndWorkloadRefEmpty ∨
      (∃ workloadRef, message = unknownResource workloadRef) ∨
      ∃ workloadRef, lookup workloadRef rollout.namespace = .error (.invalidState message) := by
  obtain ⟨«namespace», _ | ⟨selector, _ | template, _ | workloadRef⟩⟩ := rollout <;>
    simp only [Rollout.getPodTemplate, Except.error.injEq, KubeApiError.invalidState.injEq,
      reduceCtorEq] at h
  · exact .inr (.inl h.symm)
  · rcases fromWorkloadRef_error h with hl | ⟨-, he⟩
    · exact .inr (.inr (.inr ⟨workloadRef, hl⟩))
    · exact .inr (.inr (.inl ⟨workloadRef, by simpa using he⟩))
  · exact .inl h.symm

/-- The field path of the reference. -/
def workloadRefField : List Char := ".spec.workloadRef".data

/-- The unknown-resource message names the reference's field. -/
theorem workloadRefField_infix_unknownResource (workloadRef : WorkloadRef) :
    workloadRefField <:+: (unknownResource workloadRef).data :=
  ⟨"field `".data, ("` refers to an unknown resource `" ++ workloadRef.apiVersion ++ "/" ++
    workloadRef.kind ++ "`").data, by simp [workloadRefField, unknownResource]⟩

/-- Every invalid-state error that {lit}`get_pod_template` raises names
{lit}`.spec.workloadRef`, except the error for a spec that fills both the
template and the reference, whose message spells the field
{lit}`.spec.workladRef`. -/
theorem getPodTemplate_invalidState_names_workloadRef
    (lookup : WorkloadRef → Option String → Except KubeApiError (Option PodTemplateSpec))
    (rollout : Rollout PodTemplateSpec LabelSelector) {message : String}
    (h : rollout.getPodTemplate lookup = .error (.invalidState message))
    (hlookup : ∀ workloadRef, lookup workloadRef rollout.namespace ≠ .error (.invalidState message)) :
    (workloadRefField <:+: message.data ↔ message ≠ templateAndWorkloadRefFilled) := by
  have hfilled : ¬ workloadRefField <:+: templateAndWorkloadRefFilled.data := by decide
  have hempty : workloadRefField <:+: templateAndWorkloadRefEmpty.data := by decide
  have hne : templateAndWorkloadRefEmpty ≠ templateAndWorkloadRefFilled := by decide
  rcases getPodTemplate_invalidState h with rfl | rfl | ⟨workloadRef, rfl⟩ | ⟨workloadRef, hl⟩
  · simpa using hfilled
  · simpa [hne] using hempty
  · refine iff_of_true (workloadRefField_infix_unknownResource workloadRef) fun heq => hfilled ?_
    exact heq ▸ workloadRefField_infix_unknownResource workloadRef
  · exact absurd hl (hlookup workloadRef)

end Resolution

end Kube
end Mirrord
