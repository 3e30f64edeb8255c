import DorisOperator.Transformer.FeResources
import DorisOperator.Client

/-!
# The reconciler

The translation of `reconciler/doriscluster_reconciler.go`. `Reconcile` runs five
stages in order – the SQL-account Secret, then FE, BE, CN and Broker – and stops
at the first whose result carries an error (`DorisOperator.runStages`).

The four role stages are one pattern: the apply path when the role's
sub-specification is present, the delete path otherwise. They are
`DorisOperator.recRoleResources` at each role's own builders, identities, stage
labels and annotation key. The two places where the roles differ are
parameters: the Broker has no client Service, so its list of Services is
shorter, and the CN looks up a bound DorisAutoScaler between stamping its
StatefulSet and writing it (`DorisOperator.cnAutoScalerAdjust`).

The BE, CN and Broker builders, the builder of the Secret, the API group and
`util.MapMd5` are not in the sources: `DorisOperator.ReconcileEnv` takes them as
parameters, and carries what the design promises of the builders – each object
is named by its role's identity.

Three things are translated as the source has them. `clusterStageFail` gives a
failed stage the status `StageResultSucceeded`. The delete paths report every
failure under the role's Configmap stage. And the config hash is written into
the StatefulSet's own annotations, a map that `MakeFeStatefulSet` leaves nil.
-/

namespace DorisOperator

/-! ### Stage results -/

/-- `ClusterStageRecResult`; a nil `Err` is `none`. -/
structure ClusterStageRecResult where
  stage : DorisClusterOprStage
  status : OprStageStatus
  action : OprStageAction
  err : Option Error
  deriving DecidableEq, Repr

/-- `ClusterStageRecResult.Error`: the message of the stage's error, empty when
it has none. -/
def ClusterStageRecResult.error (r : ClusterStageRecResult) : String :=
  match r.err with
  | some err => err.msg
  | none => ""

def clusterStageSucc (stage : DorisClusterOprStage) (action : OprStageAction) :
    ClusterStageRecResult :=
  ⟨stage, .stageResultSucceeded, action, none⟩

/-- `clusterStageFail`, with the status the source gives it. -/
def clusterStageFail (stage : DorisClusterOprStage) (action : OprStageAction) (err : Error) :
    ClusterStageRecResult :=
  ⟨stage, .stageResultSucceeded, action, some err⟩

/-- The result of a pass in which no stage failed. -/
def completeResult : ClusterStageRecResult :=
  { stage := .stageComplete, status := .stageResultSucceeded, action := .unset, err := none }

/-- Go's `if err := call; err != nil { return clusterStageFail(stage, action, err) }`,
followed by `rest`. -/
def orFail (call : Rec (Option Error)) (stage : DorisClusterOprStage) (action : OprStageAction)
    (rest : Rec ClusterStageRecResult) : Rec ClusterStageRecResult := do
  match ← call with
  | some err => pure (clusterStageFail stage action err)
  | none => rest

/-- One `DorisOperator.orFail` statement per call, in order. -/
def orFailEach (calls : List (Rec (Option Error))) (stage : DorisClusterOprStage)
    (action : OprStageAction) (rest : Rec ClusterStageRecResult) : Rec ClusterStageRecResult :=
  calls.foldr (fun call k => orFail call stage action k) rest

/-! ### What the source takes from elsewhere -/

def feConfHashAnnotationKey (group : String) : String := group ++ "/fe-config"

def beConfHashAnnotationKey (group : String) : String := group ++ "/be-config"

def cnConfHashAnnotationKey (group : String) : String := group ++ "/cn-config"

def brokerConfHashAnnotationKey (group : String) : String := group ++ "/broker-config"

/-- A builder names its objects by a role's identity. -/
def Named {α : Type} (mk : DorisCluster → Option α) (meta : α → ObjectMeta)
    (key : NamespacedName → NamespacedName) : Prop :=
  ∀ cr a, mk cr = some a → (meta a).key = key cr.objKey

/-- The builders of one role: its ConfigMap, its Services in the order they are
written, and its StatefulSet, each nil when the role is not declared. Every
object is named by the role's identities. -/
structure RoleTransformer (keys : RoleKeys) where
  makeConfigMap : DorisCluster → Option ConfigMap
  makeServices : List (DorisCluster → Option Service)
  makeStatefulSet : DorisCluster → Option StatefulSet
  configMap_named : Named makeConfigMap ConfigMap.metadata keys.configMap
  services_named : List.Forall₂ (fun mk key => Named mk Service.metadata key) makeServices keys.services
  statefulSet_named : Named makeStatefulSet StatefulSet.metadata keys.statefulSet

/-- The FE builders of the sources. -/
def feTransformer : RoleTransformer feKeys where
  makeConfigMap := makeFeConfigMap
  makeServices := [makeFeService, makeFePeerService]
  makeStatefulSet := makeFeStatefulSet
  configMap_named cr cm h := by
    cases hf : cr.spec.fe <;> simp [makeFeConfigMap, hf] at h
    subst h; rfl
  services_named := by
    refine .cons (fun cr s h => ?_) (.cons (fun cr s h => ?_) .nil) <;>
      cases hf : cr.spec.fe <;> simp [makeFeService, makeFePeerService, hf] at h <;> subst h <;> rfl
  statefulSet_named cr sts h := by
    cases hf : cr.spec.fe <;> simp [makeFeStatefulSet, hf] at h
    subst h; rfl

/-- What the reconciler reaches in the parts of the operator absent from the
sources: the API group that prefixes the annotation keys, `util.MapMd5`, the
builder of the SQL-account Secret and the BE, CN and Broker builders. -/
structure ReconcileEnv where
  group : String
  mapMd5 : StrMap → String
  /-- `MakeOprSqlAccountSecret`, modelled as a function of the cluster: two passes
  of one cluster build the same Secret. -/
  makeOprSqlAccountSecret : DorisCluster → Secret
  secret_named : ∀ cr, (makeOprSqlAccountSecret cr).metadata.key = getOprSqlAccountSecretKey cr.objKey
  be : RoleTransformer beKeys
  cn : RoleTransformer cnKeys
  broker : RoleTransformer brokerKeys

/-- The stage labels of one role. -/
structure RoleStages where
  stage : DorisClusterOprStage
  configmap : DorisClusterOprStage
  service : DorisClusterOprStage
  statefulSet : DorisClusterOprStage

def feStages : RoleStages := ⟨.stageFe, .stageFeConfigmap, .stageFeService, .stageFeStatefulSet⟩

def beStages : RoleStages := ⟨.stageBe, .stageBeConfigmap, .stageBeService, .stageBeStatefulSet⟩

def cnStages : RoleStages := ⟨.stageCn, .stageCnConfigmap, .stageCnService, .stageCnStatefulSet⟩

def brokerStages : RoleStages :=
  ⟨.stageBroker, .stageBrokerConfigmap, .stageBrokerService, .stageBrokerStatefulSet⟩

/-! ### The stages -/

/-- `recOprAccountSecret`: create the SQL-account Secret unless it exists. -/
def recOprAccountSecret (env : ReconcileEnv) (cr : DorisCluster) : Rec ClusterStageRecResult := do
  let secretRef := getOprSqlAccountSecretKey cr.objKey
  let action := OprStageAction.stageActionApply
  -- check if secret exists
  match ← exist ⟨.secret, secretRef⟩ with
  | .error err => pure (clusterStageFail .stageSqlAccountSecret action err)
  | .ok found =>
    -- create secret if not exists
    if !found then
      orFail (create (.secret (env.makeOprSqlAccountSecret cr))) .stageSqlAccountSecret action <|
        pure (clusterStageSucc .stageSqlAccountSecret action)
    else
      pure (clusterStageSucc .stageSqlAccountSecret action)

/-- `statefulSet.Annotations[key] = value`: a write into the StatefulSet's own
annotations, which panics when that map is nil. -/
def setAnnotationEntry (sts : StatefulSet) (key value : String) : Rec StatefulSet :=
  match sts.metadata.annotations with
  | none => panic "assignment to entry in nil map"
  | some m => pure { sts with metadata.annotations := some (m.insert key value) }

/-- What the FE, BE and Broker do to their StatefulSet before writing it:
nothing. -/
def keepStatefulSet (sts : StatefulSet) : Rec (Except Error StatefulSet) := pure (.ok sts)

/-- What the CN does to its StatefulSet before writing it: when a DorisAutoScaler
refers to the cluster, the replicas are not overridden. -/
def cnAutoScalerAdjust (cr : DorisCluster) (statefulSet : StatefulSet) :
    Rec (Except Error StatefulSet) := do
  match ← findRefDorisAutoScaler cr.objKey with
  | .error err => pure (.error err)
  | .ok autoScaler =>
    pure (.ok (if autoScaler.isSome then { statefulSet with spec.replicas := none } else statefulSet))

/-- The closure `applyRes` of a role stage. -/
def applyRes {keys : RoleKeys} (t : RoleTransformer keys) (st : RoleStages) (annotationKey : String)
    (mapMd5 : StrMap → String) (adjust : StatefulSet → Rec (Except Error StatefulSet))
    (cr : DorisCluster) : Rec ClusterStageRecResult := do
  let action := OprStageAction.stageActionApply
  let configMap ← deref (t.makeConfigMap cr)
  orFail (createOrUpdate (.configMap configMap)) st.configmap action <|
  orFailEach (t.makeServices.map fun mk => do createOrUpdate (.service (← deref (mk cr))))
    st.service action <| do
  let statefulSet ← deref (t.makeStatefulSet cr)
  let statefulSet ← setAnnotationEntry statefulSet annotationKey (mapMd5 configMap.data)
  match ← adjust statefulSet with
  | .error err => pure (clusterStageFail st.statefulSet action err)
  | .ok statefulSet =>
    orFail (createOrUpdate (.statefulSet statefulSet)) st.statefulSet action <|
      pure (clusterStageSucc st.stage action)

/-- The closure `deleteRes` of a role stage: the StatefulSet first, then the
Services, then the ConfigMap. Every failure is reported under the Configmap
stage. -/
def deleteRes (keys : RoleKeys) (st : RoleStages) (cr : DorisCluster) : Rec ClusterStageRecResult :=
  let action := OprStageAction.stageActionDelete
  orFail (deleteWhenExist ⟨.statefulSet, keys.statefulSet cr.objKey⟩) st.configmap action <|
  orFailEach (keys.services.map fun key => deleteWhenExist ⟨.service, key cr.objKey⟩)
    st.configmap action <|
  orFail (deleteWhenExist ⟨.configMap, keys.configMap cr.objKey⟩) st.configmap action <|
    pure (clusterStageSucc st.stage action)

/-- The pattern of `recFeResources` and its siblings:
`util.Elvis(present, applyRes, deleteRes)()`. -/
def recRoleResources {keys : RoleKeys} (t : RoleTransformer keys) (st : RoleStages)
    (annotationKey : String) (mapMd5 : StrMap → String)
    (adjust : StatefulSet → Rec (Except Error StatefulSet)) (present : Bool) (cr : DorisCluster) :
    Rec ClusterStageRecResult :=
  elvis present (applyRes t st annotationKey mapMd5 adjust cr) (deleteRes keys st cr)

def recFeResources (env : ReconcileEnv) (cr : DorisCluster) : Rec ClusterStageRecResult :=
  recRoleResources feTransformer feStages (feConfHashAnnotationKey env.group) env.mapMd5
    keepStatefulSet cr.spec.fe.isSome cr

def recBeResources (env : ReconcileEnv) (cr : DorisCluster) : Rec ClusterStageRecResult :=
  recRoleResources env.be beStages (beConfHashAnnotationKey env.group) env.mapMd5
    keepStatefulSet cr.spec.be.isSome cr

def recCnResources (env : ReconcileEnv) (cr : DorisCluster) : Rec ClusterStageRecResult :=
  recRoleResources env.cn cnStages (cnConfHashAnnotationKey env.group) env.mapMd5
    (cnAutoScalerAdjust cr) cr.spec.cn.isSome cr

def recBrokerResources (env : ReconcileEnv) (cr : DorisCluster) : Rec ClusterStageRecResult :=
  recRoleResources env.broker brokerStages (brokerConfHashAnnotationKey env.group) env.mapMd5
    keepStatefulSet cr.spec.broker.isSome cr

/-! ### `Reconcile` -/

/-- The loop of `Reconcile`: run the stages in turn and return the first result
that carries an error, or the complete result when none does. -/
def runStages : List (Rec ClusterStageRecResult) → Rec ClusterStageRecResult
  | [] => pure completeResult
  | fn :: fns => do
    let result ← fn
    if result.err.isSome then pure result else runStages fns

def reconcile (env : ReconcileEnv) (cr : DorisCluster) : Rec ClusterStageRecResult :=
  runStages [recOprAccountSecret env cr, recFeResources env cr, recBeResources env cr,
    recCnResources env cr, recBrokerResources env cr]

end DorisOperator
