import Mathlib

/-!
# mirrord operator - Target names and operator features

A client reaches a target through the operator by the target's URL name,
{lit}`TargetCrd::urlfied_name`: the target's type and resource name and, when a
container is set, {lit}`container` and the container, all joined by dots; a
targetless run is {lit}`targetless`.  The operator announces its features in
{lit}`MirrordOperatorSpec`: {lit}`new` fills the full list and, for clients from
before that list, the deprecated {lit}`features` and {lit}`copy_target_enabled`;
{lit}`supported_features` reads the full list, or rebuilds it from the
deprecated fields when an older operator sent only those.

Main results:

- Theorem {lit}`urlfiedName_injective`: targets whose resource names have no
  dot get one URL name each.
- Theorem {lit}`urlfiedName_dotted_name_collides`: a resource whose name is
  {lit}`n.container.c` gets, without a container, the URL name of the
  resource {lit}`n` of the same type with the container {lit}`c`.
- Theorem {lit}`requireFeature_legacy_new`: through the deprecated fields
  alone, a spec built by {lit}`new` passes {lit}`require_feature` for the
  proxy API and copy target among its features, and refuses every other
  feature with the operator's version; an operator without the proxy API
  leaves {lit}`features` out, and then copy target is refused too.

Current gaps:

- {lit}`Target` of {lit}`mirrord_config` is taken by the fields
  {lit}`urlfied_name` reads; the conversion from {lit}`KubeTarget` is not among
  the sources.
- {lit}`LicenseInfoOwned`, which {lit}`new` copies into the spec unread, is
  not among the sources and is left out.
-/

namespace Mirrord
namespace Operator

/-! ## URL names of targets -/

/-- {lit}`Target` of {lit}`mirrord_config`: each workload's name and optional
container, or no target. -/
inductive Target
  | deployment (deployment : String) (container : Option String)
  | pod (pod : String) (container : Option String)
  | rollout (rollout : String) (container : Option String)
  | job (job : String) (container : Option String)
  | cronJob (cronJob : String) (container : Option String)
  | statefulSet (statefulSet : String) (container : Option String)
  | targetless
deriving DecidableEq, Repr

/-- {lit}`TARGETLESS_TARGET_NAME`. -/
def targetlessTargetName : String := "targetless"

/-- The type name, resource name and container that the match of
{lit}`urlfied_name` takes out of a target; none for {lit}`Targetless`, which
returns early. -/
def Target.urlParts : Target → Option (String × String × Option String)
  | .deployment target container => some ("deploy", target, container)
  | .pod target container => some ("pod", target, container)
  | .rollout target container => some ("rollout", target, container)
  | .job target container => some ("job", target, container)
  | .cronJob target container => some ("cronjob", target, container)
  | .statefulSet target container => some ("statefulset", target, container)
  | .targetless => none

/-- {lit}`TargetCrd::urlfied_name`. -/
def urlfiedName (target : Target) : String :=
  match target.urlParts with
  | none => targetlessTargetName
  | some (typeName, target, none) => typeName ++ "." ++ target
  | some (typeName, target, some container) =>
      typeName ++ "." ++ target ++ ".container." ++ container

/-- {lit}`TargetCrd::target_name_by_config`: the URL name of the configured
target, {lit}`targetless` without one. -/
def targetNameByConfig (path : Option Target) : String :=
  path.elim targetlessTargetName urlfiedName

/-- The resource name of a target has no dot.  Kubernetes allows dots in the
names of deployments, pods and the other workloads. -/
def Target.DotFreeName (target : Target) : Prop :=
  ∀ parts ∈ target.urlParts, '.' ∉ parts.2.1.data

/-- A target is determined by the parts its URL name is made of. -/
theorem Target.urlParts_injective {t t' : Target} (h : t.urlParts = t'.urlParts) : t = t' := by
  cases t <;> cases t' <;> simp_all [Target.urlParts]

/-- Only {lit}`Targetless` has no parts. -/
theorem Target.eq_targetless_of_urlParts {t : Target} (h : t.urlParts = none) : t = .targetless :=
  Target.urlParts_injective h

/-- The type names are words without dots. -/
theorem Target.dot_not_mem_typeName {t : Target} {typeName target container}
    (h : t.urlParts = some (typeName, target, container)) : '.' ∉ typeName.data := by
  cases t <;> simp only [Target.urlParts, reduceCtorEq, Option.some.injEq, Prod.mk.injEq] at h <;>
    rw [← h.1] <;> decide

/-- The characters of a URL name after the resource name:
{lit}`.container.` and the container, or nothing. -/
def containerSuffix (container : Option String) : List Char :=
  container.elim [] fun container => '.' :: ("container." ++ container).data

/-- The suffix names the container it was made from. -/
theorem containerSuffix_injective {container container' : Option String}
    (h : containerSuffix container = containerSuffix container') : container = container' := by
  cases container <;> cases container' <;> simp_all [containerSuffix, String.ext_iff]

/-- The characters of a URL name: the type name, a dot, the resource name, and
the container suffix. -/
theorem data_urlfiedName {t : Target} {typeName target container}
    (h : t.urlParts = some (typeName, target, container)) :
    (urlfiedName t).data = typeName.data ++ '.' :: (target.data ++ containerSuffix container) := by
  cases container <;> simp [urlfiedName, containerSuffix, h]

/-- Two words without a separator, each followed by the separator or nothing,
are equal when their concatenations are. -/
theorem eq_of_append_eq_of_not_mem {c : Char} {x x' y y' : List Char} (hx : c ∉ x) (hx' : c ∉ x')
    (hy : ∀ a ∈ y.head?, a = c) (hy' : ∀ a ∈ y'.head?, a = c) (h : x ++ y = x' ++ y') :
    x = x' ∧ y = y' := by
  induction x generalizing x' with
  | nil =>
    cases x' with
    | nil => exact ⟨rfl, h⟩
    | cons a x' => subst h; exact absurd (hy a rfl ▸ List.mem_cons_self a x') hx'
  | cons a x ih =>
    cases x' with
    | nil => subst h; exact absurd (hy' a rfl ▸ List.mem_cons_self a x) hx
    | cons a' x' =>
      simp only [List.cons_append, List.cons.injEq] at h
      obtain ⟨rfl, h⟩ := h
      obtain ⟨rfl, rfl⟩ := ih (fun hm => hx (.tail _ hm)) (fun hm => hx' (.tail _ hm)) h
      exact ⟨rfl, rfl⟩

/-- Targets whose resource names have no dot get one URL name each. -/
theorem urlfiedName_injective {t t' : Target} (hdot : t.DotFreeName) (hdot' : t'.DotFreeName)
    (h : urlfiedName t = urlfiedName t') : t = t' := by
  have hdata := congrArg String.data h
  have hdotted : ∀ {t : Target} {typeName target container},
      t.urlParts = some (typeName, target, container) → '.' ∈ (urlfiedName t).data :=
    fun hp => by simp [data_urlfiedName hp]
  have hplain : '.' ∉ (urlfiedName Target.targetless).data := by decide
  have hsuffix : ∀ container, ∀ a ∈ (containerSuffix container).head?, a = '.' := by
    rintro (_ | _) <;> simp [containerSuffix]
  rcases hp : t.urlParts with _ | ⟨typeName, target, container⟩ <;>
    rcases hp' : t'.urlParts with _ | ⟨typeName', target', container'⟩
  · exact Target.urlParts_injective (hp.trans hp'.symm)
  · obtain rfl := Target.eq_targetless_of_urlParts hp
    exact (hplain (hdata ▸ hdotted hp')).elim
  · obtain rfl := Target.eq_targetless_of_urlParts hp'
    exact (hplain (hdata ▸ hdotted hp)).elim
  · rw [data_urlfiedName hp, data_urlfiedName hp'] at hdata
    obtain ⟨htype, hrest⟩ := eq_of_append_eq_of_not_mem (Target.dot_not_mem_typeName hp)
      (Target.dot_not_mem_typeName hp') (by simp) (by simp) hdata
    -- the resource name ends at the next dot, so the container suffixes agree
    obtain ⟨htarget, hcontainer⟩ := eq_of_append_eq_of_not_mem (hdot _ hp) (hdot' _ hp')
      (hsuffix container) (hsuffix container') (List.cons_eq_cons.mp hrest).2
    obtain rfl : typeName = typeName' := String.ext htype
    obtain rfl : target = target' := String.ext htarget
    obtain rfl := containerSuffix_injective hcontainer
    exact Target.urlParts_injective (hp.trans hp'.symm)

theorem urlfiedName_injective_api :
    Target.DotFreeName (.pod "api" (some "main")) ∧ Target.DotFreeName (.pod "api" (some "main")) ∧
      urlfiedName (.pod "api" (some "main")) = urlfiedName (.pod "api" (some "main")) ∧
      Target.pod "api" (some "main") = .pod "api" (some "main") :=
  have hdot : Target.DotFreeName (.pod "api" (some "main")) := by
    simp [Target.DotFreeName, Target.urlParts]
  ⟨hdot, hdot, rfl, urlfiedName_injective hdot hdot rfl⟩

/-- The target of the same type with another resource name and container. -/
def Target.withName : Target → String → Option String → Target
  | .deployment .., target, container => .deployment target container
  | .pod .., target, container => .pod target container
  | .rollout .., target, container => .rollout target container
  | .job .., target, container => .job target container
  | .cronJob .., target, container => .cronJob target container
  | .statefulSet .., target, container => .statefulSet target container
  | .targetless, _, _ => .targetless

/-- A resource named {lit}`n.container.c` without a container is another
target with the URL name of the resource {lit}`n` of the same type with the
container {lit}`c`. -/
theorem urlfiedName_dotted_name_collides (t : Target) {typeName target container}
    (h : t.urlParts = some (typeName, target, some container)) :
    t.withName (target ++ ".container." ++ container) none ≠ t ∧
      urlfiedName (t.withName (target ++ ".container." ++ container) none) = urlfiedName t := by
  cases t <;> simp only [Target.urlParts, reduceCtorEq, Option.some.injEq, Prod.mk.injEq] at h <;>
    obtain ⟨rfl, rfl, rfl⟩ := h <;>
    simp [Target.withName, urlfiedName, Target.urlParts, String.append_assoc]

example : urlfiedName (.deployment "nginx.container.pyrex" none) =
    urlfiedName (.deployment "nginx" (some "pyrex")) := by decide

/-! ## Operator features -/

/-- {lit}`OperatorFeatures`, the deprecated list, which old clients cannot
extend. -/
inductive OperatorFeatures
  | proxyApi
deriving DecidableEq, Repr

/-- {lit}`NewOperatorFeature`; {lit}`Unknown` is what a client reads for a
feature newer than itself. -/
inductive NewOperatorFeature
  | proxyApi
  | copyTarget
  | sqsQueueSplitting
  | sessionManagement
  | unknown
deriving DecidableEq, Repr

/-- {lit}`From<&OperatorFeatures> for NewOperatorFeature`. -/
def NewOperatorFeature.ofOperatorFeatures : OperatorFeatures → NewOperatorFeature
  | .proxyApi => .proxyApi

/-- {lit}`MirrordOperatorSpec`, without its licence. -/
structure MirrordOperatorSpec where
  operatorVersion : String
  defaultNamespace : String
  features : Option (List OperatorFeatures)
  supportedFeatures : Option (List NewOperatorFeature)
  protocolVersion : Option String
  copyTargetEnabled : Option Bool
deriving DecidableEq, Repr

/-- {lit}`MirrordOperatorSpec::new`: the full list, and the deprecated fields
for older clients. -/
def MirrordOperatorSpec.new (operatorVersion defaultNamespace : String)
    (supportedFeatures : List NewOperatorFeature) (protocolVersion : Option String) :
    MirrordOperatorSpec :=
  { operatorVersion, defaultNamespace
    features := if supportedFeatures.contains .proxyApi then some [.proxyApi] else none
    supportedFeatures := some supportedFeatures
    protocolVersion
    copyTargetEnabled := some (supportedFeatures.contains .copyTarget) }

/-- {lit}`MirrordOperatorSpec::supported_features`: the full list if sent,
else the deprecated features followed by copy target when enabled, else
nothing. -/
def supportedFeatures (spec : MirrordOperatorSpec) : List NewOperatorFeature :=
  (spec.supportedFeatures.orElse fun _ =>
    spec.features.map fun features =>
      features.map NewOperatorFeature.ofOperatorFeatures ++
        (spec.copyTargetEnabled.bind fun enabled => if enabled then some .copyTarget else none).toList
  ).getD []

/-- The error of {lit}`require_feature`. -/
inductive OperatorApiError
  | unsupportedFeature (feature : NewOperatorFeature) (operatorVersion : String)
deriving DecidableEq, Repr

/-- {lit}`MirrordOperatorSpec::require_feature`. -/
def requireFeature (spec : MirrordOperatorSpec) (feature : NewOperatorFeature) :
    Except OperatorApiError Unit :=
  if (supportedFeatures spec).contains feature then .ok ()
  else .error (.unsupportedFeature feature spec.operatorVersion)

/-- The spec as a reader sees it when {lit}`supported_features` is absent, as
from an operator that predates it: the deprecated fields alone. -/
def MirrordOperatorSpec.legacy (spec : MirrordOperatorSpec) : MirrordOperatorSpec :=
  { spec with supportedFeatures := none }

/-- A spec built by {lit}`new` lists its features as given. -/
theorem supportedFeatures_new (operatorVersion defaultNamespace : String)
    (features : List NewOperatorFeature) (protocolVersion : Option String) :
    supportedFeatures (.new operatorVersion defaultNamespace features protocolVersion) = features :=
  rfl

/-- The deprecated fields that {lit}`new` fills carry the proxy API and copy
target among its features, and copy target only next to the proxy API:
without it {lit}`features` is left out, and {lit}`supported_features` reads
{lit}`copy_target_enabled` only behind a {lit}`features` list. -/
theorem mem_supportedFeatures_legacy_new (operatorVersion defaultNamespace : String)
    (features : List NewOperatorFeature) (protocolVersion : Option String) (f : NewOperatorFeature) :
    f ∈ supportedFeatures (MirrordOperatorSpec.new operatorVersion defaultNamespace features
      protocolVersion).legacy ↔
      .proxyApi ∈ features ∧ f ∈ features ∧ (f = .proxyApi ∨ f = .copyTarget) := by
  simp only [supportedFeatures, MirrordOperatorSpec.legacy, MirrordOperatorSpec.new]
  by_cases hp : NewOperatorFeature.proxyApi ∈ features <;>
    by_cases hc : NewOperatorFeature.copyTarget ∈ features <;>
    cases f <;> simp [hp, hc, NewOperatorFeature.ofOperatorFeatures, Option.orElse]

/-- Through the deprecated fields alone, a spec built by {lit}`new` passes
{lit}`require_feature` for the proxy API and copy target among its features
when the proxy API is one of them, and refuses every other feature, and every
feature of an operator without the proxy API, with the operator's version. -/
theorem requireFeature_legacy_new (operatorVersion defaultNamespace : String)
    (features : List NewOperatorFeature) (protocolVersion : Option String) (f : NewOperatorFeature) :
    requireFeature (MirrordOperatorSpec.new operatorVersion defaultNamespace features
      protocolVersion).legacy f =
      if .proxyApi ∈ features ∧ f ∈ features ∧ (f = .proxyApi ∨ f = .copyTarget) then .ok ()
      else .error (.unsupportedFeature f operatorVersion) := by
  simp only [requireFeature, List.elem_iff, List.contains, mem_supportedFeatures_legacy_new]
  split_ifs <;> rfl

end Operator
end Mirrord
