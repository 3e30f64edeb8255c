import DorisOperator.Util

/-!
# The objects: Kubernetes resources and the `DorisCluster` resource

The shapes the builders fill in and the reconciler submits. A structure here
carries the fields of its Kubernetes namesake that some modelled function reads
or writes, with the Go zero value as default, so that a Go composite literal
`corev1.ServicePort{Name: "http-port", Port: p}` is the Lean literal
`{ name := "http-port", port := p }`.

Two Go distinctions are kept because the code turns on them. A nil map is not
an empty map: writing to a nil map panics, so `DorisOperator.ObjectMeta.annotations`
is an `Option`. A nil pointer is not a zero value: the role sub-specifications of
`DorisOperator.DorisClusterSpec` are `Option`s, and their presence alone chooses
between the apply and the delete path of a role.

Numbers of type `int32` (ports, replicas) are `Int`: no modelled function
computes with them, it only copies them from one field to another.
-/

namespace DorisOperator

/-! ### Constants of the Kubernetes API -/

def serviceTypeClusterIP : String := "ClusterIP"

def readWriteOnce : String := "ReadWriteOnce"

def resourceStorage : String := "storage"

def storageMediumDefault : String := ""

def rollingUpdateStatefulSetStrategyType : String := "RollingUpdate"

/-! ### Metadata -/

/-- `types.NamespacedName`, the identity of an object in its kind. -/
structure NamespacedName where
  ns : String
  name : String
  deriving DecidableEq, Repr

/-- The owner back-reference `controllerutil.SetOwnerReference` adds. -/
structure OwnerReference where
  kind : String
  name : String
  deriving DecidableEq, Repr

/-- `metav1.ObjectMeta`; a nil `Annotations` map is `none`. -/
structure ObjectMeta where
  name : String := ""
  ns : String := ""
  labels : StrMap := []
  annotations : Option StrMap := none
  ownerReferences : List OwnerReference := []
  deriving DecidableEq, Repr

/-- The identity an object is stored under. -/
def ObjectMeta.key (m : ObjectMeta) : NamespacedName := ⟨m.ns, m.name⟩

/-! ### Pods -/

/-- `corev1.ResourceList`, resource names to quantities. -/
abbrev ResourceList := List (String × String)

/-- `ResourceList.Storage()`: the storage quantity, or a zero quantity – never
a nil pointer. -/
def ResourceList.storage (rl : ResourceList) : String := (rl.lookup resourceStorage).getD "0"

structure ResourceRequirements where
  requests : ResourceList := []
  deriving DecidableEq, Repr

structure ContainerPort where
  name : String := ""
  containerPort : Int := 0
  deriving DecidableEq, Repr

/-- `corev1.SecretKeySelector`, with its `LocalObjectReference` name. -/
structure SecretKeySelector where
  name : String
  key : String
  deriving DecidableEq, Repr

structure EnvVarSource where
  secretKeyRef : Option SecretKeySelector := none
  deriving DecidableEq, Repr

structure EnvVar where
  name : String
  value : String := ""
  valueFrom : Option EnvVarSource := none
  deriving DecidableEq, Repr

structure VolumeMount where
  name : String
  mountPath : String := ""
  deriving DecidableEq, Repr

/-- `intstr.IntOrString`. -/
inductive IntOrString where
  | int (i : Int)
  | string (s : String)
  deriving DecidableEq, Repr

structure TCPSocketAction where
  port : IntOrString
  deriving DecidableEq, Repr

/-- `corev1.Probe`, with its `ProbeHandler` flattened. -/
structure Probe where
  tcpSocket : Option TCPSocketAction := none
  initialDelaySeconds : Int := 0
  timeoutSeconds : Int := 0
  periodSeconds : Int := 0
  successThreshold : Int := 0
  failureThreshold : Int := 0
  deriving DecidableEq, Repr

structure Container where
  name : String
  image : String := ""
  imagePullPolicy : String := ""
  resources : ResourceRequirements := {}
  ports : List ContainerPort := []
  env : List EnvVar := []
  volumeMounts : List VolumeMount := []
  readinessProbe : Option Probe := none
  deriving DecidableEq, Repr

/-- `corev1.ConfigMapVolumeSource`, with its `LocalObjectReference` name. -/
structure ConfigMapVolumeSource where
  name : String
  deriving DecidableEq, Repr

structure EmptyDirVolumeSource where
  medium : String := ""
  deriving DecidableEq, Repr

/-- `corev1.VolumeSource`: one pointer per kind of source. -/
structure VolumeSource where
  configMap : Option ConfigMapVolumeSource := none
  emptyDir : Option EmptyDirVolumeSource := none
  deriving DecidableEq, Repr

structure Volume where
  name : String
  volumeSource : VolumeSource := {}
  deriving DecidableEq, Repr

structure HostAlias where
  ip : String
  hostnames : List String := []
  deriving DecidableEq, Repr

structure Toleration where
  key : String := ""
  operator : String := ""
  value : String := ""
  effect : String := ""
  deriving DecidableEq, Repr

/-- `corev1.Affinity`: its three parts, whose inner terms no modelled function
reads, as opaque texts. -/
structure Affinity where
  nodeAffinity : Option String := none
  podAffinity : Option String := none
  podAntiAffinity : Option String := none
  deriving DecidableEq, Repr

structure PodSpec where
  volumes : List Volume := []
  initContainers : List Container := []
  containers : List Container := []
  imagePullSecrets : List String := []
  serviceAccountName : String := ""
  affinity : Option Affinity := none
  tolerations : List Toleration := []
  priorityClassName : String := ""
  hostAliases : List HostAlias := []
  deriving DecidableEq, Repr

structure PodTemplateSpec where
  metadata : ObjectMeta := {}
  spec : PodSpec := {}
  deriving DecidableEq, Repr

/-! ### The four kinds the operator writes -/

structure PersistentVolumeClaimSpec where
  accessModes : List String := []
  storageClassName : Option String := none
  resources : ResourceRequirements := {}
  deriving DecidableEq, Repr

structure PersistentVolumeClaim where
  metadata : ObjectMeta := {}
  spec : PersistentVolumeClaimSpec := {}
  deriving DecidableEq, Repr

structure LabelSelector where
  matchLabels : StrMap := []
  deriving DecidableEq, Repr

structure StatefulSetUpdateStrategy where
  type : String := ""
  deriving DecidableEq, Repr

structure StatefulSetSpec where
  replicas : Option Int := none
  serviceName : String := ""
  selector : Option LabelSelector := none
  volumeClaimTemplates : List PersistentVolumeClaim := []
  template : PodTemplateSpec := {}
  updateStrategy : StatefulSetUpdateStrategy := {}
  deriving DecidableEq, Repr

structure StatefulSet where
  metadata : ObjectMeta := {}
  spec : StatefulSetSpec := {}
  deriving DecidableEq, Repr

structure ServicePort where
  name : String := ""
  port : Int := 0
  nodePort : Int := 0
  deriving DecidableEq, Repr

structure ServiceSpec where
  ports : List ServicePort := []
  selector : StrMap := []
  type : String := ""
  clusterIP : String := ""
  externalTrafficPolicy : String := ""
  deriving DecidableEq, Repr

structure Service where
  metadata : ObjectMeta := {}
  spec : ServiceSpec := {}
  deriving DecidableEq, Repr

structure ConfigMap where
  metadata : ObjectMeta := {}
  data : StrMap := []
  deriving DecidableEq, Repr

structure Secret where
  metadata : ObjectMeta := {}
  data : StrMap := []
  deriving DecidableEq, Repr

/-! ### The `DorisCluster` resource -/

/-- The user's settings for the FE client Service. -/
structure FeServiceSpec where
  type : String := ""
  externalTrafficPolicy : Option String := none
  httpPort : Option Int := none
  queryPort : Option Int := none
  deriving DecidableEq, Repr

/-- The FE sub-specification: what `MakeFe*` read of it. -/
structure FeSpec where
  image : String := ""
  replicas : Int := 0
  configs : StrMap := []
  service : Option FeServiceSpec := none
  storageClassName : Option String := none
  requests : ResourceList := []
  serviceAccount : String := ""
  affinity : Option Affinity := none
  tolerations : List Toleration := []
  priorityClassName : String := ""
  statefulSetUpdateStrategy : Option String := none
  hostAliases : List HostAlias := []
  additionalVolumes : List Volume := []
  additionalVolumeMounts : List VolumeMount := []
  additionalEnvs : List EnvVar := []
  additionalContainers : List Container := []
  additionalInitContainers : List Container := []
  deriving DecidableEq, Repr

/-- A BE, CN or Broker sub-specification. Only the builders of these roles,
absent from the sources, read it: what the design names of it is kept. -/
structure ComponentSpec where
  replicas : Int := 0
  configs : StrMap := []
  deriving DecidableEq, Repr

structure HadoopConf where
  config : StrMap := []
  hosts : List HostAlias := []
  deriving DecidableEq, Repr

structure DorisClusterSpec where
  fe : Option FeSpec := none
  be : Option ComponentSpec := none
  cn : Option ComponentSpec := none
  broker : Option ComponentSpec := none
  hadoopConf : Option HadoopConf := none
  imagePullPolicy : String := ""
  imagePullSecrets : List String := []
  serviceAccount : String := ""
  affinity : Option Affinity := none
  tolerations : List Toleration := []
  priorityClassName : String := ""
  statefulSetUpdateStrategy : Option String := none
  deriving DecidableEq, Repr

structure DorisCluster where
  name : String
  ns : String
  spec : DorisClusterSpec := {}
  deriving DecidableEq, Repr

/-- `DorisCluster.ObjKey()`, the cluster's own identity. -/
def DorisCluster.objKey (cr : DorisCluster) : NamespacedName := ⟨cr.ns, cr.name⟩

/-- Modelled from the spec: `DorisCluster.GetFeImage`, absent from the sources, is
the image the FE sub-specification names. -/
def DorisCluster.getFeImage (cr : DorisCluster) : String :=
  match cr.spec.fe with
  | some fe => fe.image
  | none => ""

/-- `controllerutil.SetOwnerReference(cr, obj, scheme)` on the object's metadata:
the cluster becomes an owner of the object, replacing an earlier reference to
it. -/
def ObjectMeta.setOwnerReference (m : ObjectMeta) (cr : DorisCluster) : ObjectMeta :=
  { m with ownerReferences :=
      m.ownerReferences.filter (· != ⟨"DorisCluster", cr.name⟩) ++ [⟨"DorisCluster", cr.name⟩] }

@[simp] theorem ObjectMeta.setOwnerReference_name (m : ObjectMeta) (cr : DorisCluster) :
    (m.setOwnerReference cr).name = m.name := rfl

@[simp] theorem ObjectMeta.setOwnerReference_ns (m : ObjectMeta) (cr : DorisCluster) :
    (m.setOwnerReference cr).ns = m.ns := rfl

@[simp] theorem ObjectMeta.setOwnerReference_labels (m : ObjectMeta) (cr : DorisCluster) :
    (m.setOwnerReference cr).labels = m.labels := rfl

@[simp] theorem ObjectMeta.setOwnerReference_annotations (m : ObjectMeta) (cr : DorisCluster) :
    (m.setOwnerReference cr).annotations = m.annotations := rfl

/-! ### Stages -/

/-- `dapi.DorisClusterOprStage`. -/
inductive DorisClusterOprStage where
  | stageSqlAccountSecret
  | stageFe | stageFeConfigmap | stageFeService | stageFeStatefulSet
  | stageBe | stageBeConfigmap | stageBeService | stageBeStatefulSet
  | stageCn | stageCnConfigmap | stageCnService | stageCnStatefulSet
  | stageBroker | stageBrokerConfigmap | stageBrokerService | stageBrokerStatefulSet
  | stageComplete
  deriving DecidableEq, Repr

/-- `dapi.OprStageStatus`. -/
inductive OprStageStatus where
  | stageResultSucceeded
  | stageResultFailed
  deriving DecidableEq, Repr

/-- `dapi.OprStageAction`; `unset` is the zero value `""` of the Go string type. -/
inductive OprStageAction where
  | unset
  | stageActionApply
  | stageActionDelete
  deriving DecidableEq, Repr

end DorisOperator
