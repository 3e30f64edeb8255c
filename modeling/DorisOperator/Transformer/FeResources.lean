import DorisOperator.Transformer.Keys

/-!
# The FE resources

The translation of `transformer/fe_resources.go`: the names of the FE objects,
the four FE ports, and the builders of the FE ConfigMap, client Service, peer
Service and StatefulSet. Each builder returns `none` – Go's nil – when the
cluster declares no FE, as the source does.

The four port accessors share one shape, `DorisOperator.getFePort`: the port
under a key of the FE configuration, or a compiled-in default. Three of them are
that shape at their own key. `DorisOperator.getFeRpcPort` is not: it reads the
key `query_port`, and keeps its own body so that the difference stays visible.

`MakeFePeerService` takes, in the source, a map `OprSqlAccount` that it never
reads and that the reconciler does not pass; the model leaves it out.
-/

namespace DorisOperator

/-! ### Names, labels and annotation keys -/

def defaultFeHttpPort : Int := 8030

def defaultFeEditLogPort : Int := 9010

def defaultFeRpcPort : Int := 9020

def defaultFeQueryPort : Int := 9030

/-- Modelled from the spec: `MakeResourceLabels`, absent from the sources, labels
an object with the cluster and the component it belongs to. -/
def makeResourceLabels (crName component : String) : StrMap :=
  [("app.kubernetes.io/instance", crName), ("app.kubernetes.io/component", component)]

/-- Modelled from the spec: the keys of the Prometheus scrape annotations, absent
from the sources, with their conventional values. -/
def prometheusPathAnnoKey : String := "prometheus.io/path"

/-- Modelled from the spec, as `DorisOperator.prometheusPathAnnoKey`. -/
def prometheusPortAnnoKey : String := "prometheus.io/port"

/-- Modelled from the spec, as `DorisOperator.prometheusPathAnnoKey`. -/
def prometheusScrapeAnnoKey : String := "prometheus.io/scrape"

def getFeComponentLabels (r : DorisCluster) : StrMap := makeResourceLabels r.name "fe"

def getFeConfigMapName (cr : DorisCluster) : NamespacedName := ⟨cr.ns, cr.name ++ "-fe-config"⟩

def getFeServiceName (cr : DorisCluster) : NamespacedName := ⟨cr.ns, cr.name ++ "-fe"⟩

def getFePeerServiceName (cr : DorisCluster) : NamespacedName := ⟨cr.ns, cr.name ++ "-fe-peer"⟩

def getFeStatefulSetName (r : DorisCluster) : NamespacedName := ⟨r.ns, r.name ++ "-fe"⟩

/-- The names the builders give are the identities the delete path removes. -/
theorem feKeys_objKey (cr : DorisCluster) :
    feKeys.configMap cr.objKey = getFeConfigMapName cr ∧
    feKeys.services.map (· cr.objKey) = [getFeServiceName cr, getFePeerServiceName cr] ∧
    feKeys.statefulSet cr.objKey = getFeStatefulSetName cr :=
  ⟨rfl, rfl, rfl⟩

/-! ### Ports -/

/-- The number a string of decimal digits spells; `none` for the empty string and
for a string with another character. -/
def parseDecimal (s : String) : Option Nat :=
  match s.data with
  | [] => none
  | c :: cs => (c :: cs).foldl (fun acc c => acc.bind fun n =>
      if c.isDigit then some (10 * n + (c.toNat - '0'.toNat)) else none) (some 0)

/-- Modelled from the spec: `getPortValueFromRawConf`, absent from the sources,
reads the port under `key` of a role's raw configuration as a decimal number,
and falls back to `defaultValue` when the key is absent or not a number. -/
def getPortValueFromRawConf (configs : StrMap) (key : String) (defaultValue : Int) : Int :=
  (((configs.get? key).bind parseDecimal).map Int.ofNat).getD defaultValue

/-- The shape of the FE port accessors: the port under `key` of the FE
configuration, and `default` when the cluster declares no FE. -/
def getFePort (key : String) (default : Int) (cr : DorisCluster) : Int :=
  match cr.spec.fe with
  | none => default
  | some fe => getPortValueFromRawConf fe.configs key default

def getFeHttpPort : DorisCluster → Int := getFePort "http_port" defaultFeHttpPort

def getFeQueryPort : DorisCluster → Int := getFePort "query_port" defaultFeQueryPort

/-- `GetFeRpcPort`, which reads the key `query_port`. -/
def getFeRpcPort (cr : DorisCluster) : Int :=
  match cr.spec.fe with
  | none => defaultFeRpcPort
  | some fe => getPortValueFromRawConf fe.configs "query_port" defaultFeRpcPort

def getFeEditLogPort : DorisCluster → Int := getFePort "edit_log_port" defaultFeEditLogPort

/-! ### Builders -/

/-- Modelled from the spec: `dumpJavaBasedComponentConf`, absent from the sources,
renders a raw configuration as the lines `key=value` of a Java properties
file. -/
def dumpJavaBasedComponentConf (configs : StrMap) : String :=
  "\n".intercalate (configs.map fun e => e.1 ++ "=" ++ e.2)

/-- Modelled from the spec: `mergeHostAlias`, absent from the sources, puts the
Hadoop hosts before the FE's own host aliases. -/
def mergeHostAlias (hadoopHosts feHostAliases : List HostAlias) : List HostAlias :=
  hadoopHosts ++ feHostAliases

def makeFeConfigMap (cr : DorisCluster) : Option ConfigMap := do
  let fe ← cr.spec.fe
  let configMapRef := getFeConfigMapName cr
  let data : StrMap := [("fe.conf", dumpJavaBasedComponentConf fe.configs)]
  -- merge hadoop config data
  let data := match cr.spec.hadoopConf with
    | some hadoopConf => mergeMaps [hadoopConf.config, data]
    | none => data
  let configMap : ConfigMap :=
    { metadata := { name := configMapRef.name, ns := configMapRef.ns, labels := getFeComponentLabels cr }
      data := data }
  return { configMap with metadata := configMap.metadata.setOwnerReference cr }

/-- `MakeFeService`. Each conditional assignment `if p != nil { x = *p }` of the
source is `x := p.getD x`, and a nil `crSvc` reads as settings that are all
unset. -/
def makeFeService (cr : DorisCluster) : Option Service := do
  let fe ← cr.spec.fe
  let serviceRef := getFeServiceName cr
  let feLabels := getFeComponentLabels cr
  let service : Service :=
    { metadata := { name := serviceRef.name, ns := serviceRef.ns, labels := feLabels }
      spec := { selector := feLabels, type := serviceTypeClusterIP } }
  let httpPort : ServicePort := { name := "http-port", port := getFeHttpPort cr }
  let queryPort : ServicePort := { name := "query-port", port := getFeQueryPort cr }
  -- when the user specifies a service type
  let crSvc := fe.service
  let service :=
    { service with
      spec.type := stringFallback ((crSvc.map FeServiceSpec.type).getD "") service.spec.type
      spec.externalTrafficPolicy :=
        (crSvc.bind (·.externalTrafficPolicy)).getD service.spec.externalTrafficPolicy }
  let httpPort := { httpPort with nodePort := (crSvc.bind (·.queryPort)).getD httpPort.nodePort }
  let queryPort := { queryPort with nodePort := (crSvc.bind (·.httpPort)).getD queryPort.nodePort }
  let service := { service with spec.ports := [httpPort, queryPort] }
  return { service with metadata := service.metadata.setOwnerReference cr }

def makeFePeerService (cr : DorisCluster) : Option Service := do
  let _ ← cr.spec.fe
  let serviceRef := getFePeerServiceName cr
  let feLabels := getFeComponentLabels cr
  let service : Service :=
    { metadata := { name := serviceRef.name, ns := serviceRef.ns, labels := feLabels }
      spec :=
        { ports :=
            [{ name := "http-port", port := getFeHttpPort cr },
             { name := "edit-log-port", port := getFeEditLogPort cr },
             { name := "rpc-port", port := getFeRpcPort cr }]
          selector := feLabels
          type := serviceTypeClusterIP
          clusterIP := "None" } }
  return { service with metadata := service.metadata.setOwnerReference cr }

/-- The FE main container before the user's additions. -/
def feMainContainer (cr : DorisCluster) (fe : FeSpec) : Container :=
  { name := "fe"
    image := cr.getFeImage
    imagePullPolicy := cr.spec.imagePullPolicy
    resources := { requests := fe.requests }
    ports :=
      [{ name := "http-port", containerPort := getFeHttpPort cr },
       { name := "edit-log-port", containerPort := getFeEditLogPort cr },
       { name := "rpc-port", containerPort := getFeRpcPort cr },
       { name := "query-port", containerPort := getFeQueryPort cr }]
    env :=
      [{ name := "FE_SVC", value := (getFeServiceName cr).name },
       { name := "ACC_USER"
         valueFrom := some { secretKeyRef := some ⟨(getOprSqlAccountSecretName cr).name, "user"⟩ } },
       { name := "ACC_PWD"
         valueFrom := some { secretKeyRef := some ⟨(getOprSqlAccountSecretName cr).name, "password"⟩ } }]
    volumeMounts :=
      [{ name := "conf", mountPath := "/etc/apache-doris/fe/" },
       { name := "fe-meta", mountPath := "/opt/apache-doris/fe/doris-meta" },
       { name := "fe-log", mountPath := "/opt/apache-doris/fe/log" }]
    readinessProbe := some
      { tcpSocket := some ⟨.int (getFeQueryPort cr)⟩
        initialDelaySeconds := 3
        timeoutSeconds := 1
        periodSeconds := 5
        successThreshold := 1
        failureThreshold := 3 } }

/-- `MakeFeStatefulSet`. `Requests.Storage()` never returns a nil pointer, so the
storage request of the volume claim template is always set. -/
def makeFeStatefulSet (cr : DorisCluster) : Option StatefulSet := do
  let fe ← cr.spec.fe
  let statefulSetRef := getFeStatefulSetName cr
  let feLabels := getFeComponentLabels cr
  -- volume claim template
  let pvcTemplate : PersistentVolumeClaim :=
    { metadata := { name := "fe-meta" }
      spec :=
        { accessModes := [readWriteOnce]
          storageClassName := fe.storageClassName
          resources := { requests := [(resourceStorage, fe.requests.storage)] } } }
  -- pod template: volumes, merged with the volumes defined by the user
  let volumes : List Volume :=
    [{ name := "conf", volumeSource := { configMap := some ⟨(getFeConfigMapName cr).name⟩ } },
     { name := "fe-log", volumeSource := { emptyDir := some { medium := storageMediumDefault } } }]
      ++ fe.additionalVolumes
  -- pod template: main container, merged with the containers configs defined by the user
  let mainContainer := feMainContainer cr fe
  let mainContainer := { mainContainer with env := mainContainer.env ++ fe.additionalEnvs }
  let mainContainer :=
    { mainContainer with volumeMounts := mainContainer.volumeMounts ++ fe.additionalVolumeMounts }
  let containers := mainContainer :: fe.additionalContainers
  let initContainers := fe.additionalInitContainers
  -- pod template: host alias
  let hostAlias := match cr.spec.hadoopConf with
    | some hadoopConf => mergeHostAlias hadoopConf.hosts fe.hostAliases
    | none => fe.hostAliases
  let podTemplate : PodTemplateSpec :=
    { metadata :=
        { labels := feLabels
          annotations := some
            [(prometheusPathAnnoKey, "/metrics"),
             (prometheusPortAnnoKey, toString (getFeHttpPort cr)),
             (prometheusScrapeAnnoKey, "true")] }
      spec :=
        { volumes := volumes
          initContainers := initContainers
          containers := containers
          imagePullSecrets := cr.spec.imagePullSecrets
          serviceAccountName := stringFallback fe.serviceAccount cr.spec.serviceAccount
          affinity := pointerFallback fe.affinity cr.spec.affinity
          tolerations := arrayFallback fe.tolerations cr.spec.tolerations
          priorityClassName := stringFallback fe.priorityClassName cr.spec.priorityClassName
          hostAliases := hostAlias } }
  -- update strategy
  let updateStg : StatefulSetUpdateStrategy :=
    { type := pointerFallbackAndDeRefer fe.statefulSetUpdateStrategy
        cr.spec.statefulSetUpdateStrategy rollingUpdateStatefulSetStrategyType }
  let statefulSet : StatefulSet :=
    { metadata := { name := statefulSetRef.name, ns := statefulSetRef.ns, labels := feLabels }
      spec :=
        { replicas := some fe.replicas
          serviceName := (getFePeerServiceName cr).name
          selector := some { matchLabels := feLabels }
          volumeClaimTemplates := [pvcTemplate]
          template := podTemplate
          updateStrategy := updateStg } }
  return { statefulSet with metadata := statefulSet.metadata.setOwnerReference cr }

/-! ### What the reconciler relies on -/

/-- The four builders build for every cluster that declares an FE. -/
theorem makeFe_isSome {cr : DorisCluster} (h : cr.spec.fe.isSome) :
    (makeFeConfigMap cr).isSome ∧ (makeFeService cr).isSome ∧ (makeFePeerService cr).isSome ∧
      (makeFeStatefulSet cr).isSome := by
  obtain ⟨fe, hfe⟩ := Option.isSome_iff_exists.mp h
  simp [makeFeConfigMap, makeFeService, makeFePeerService, makeFeStatefulSet, hfe]

/-- The StatefulSet's own annotations are left nil: only its pod template
carries annotations. -/
theorem makeFeStatefulSet_annotations {cr : DorisCluster} {sts : StatefulSet}
    (h : makeFeStatefulSet cr = some sts) : sts.metadata.annotations = none := by
  cases hfe : cr.spec.fe <;> simp [makeFeStatefulSet, hfe] at h
  subst h
  rfl

end DorisOperator
