import Mathlib.Data.List.Forall2
import DorisOperator.Reconciler

/-!
# What a stage reports

A stage ends with a `ClusterStageRecResult`, and the design reads it as a
report: the status says whether the stage succeeded, the stage label which step
failed, the action which path ran. `DorisOperator.Yields P x` says that every
value `x` returns, from any world, satisfies `P`. It is closed under the
combinators of the reconciler, and so gives once, for the four roles, every
report a role stage can make (`DorisOperator.recRoleResources_reports`).

Two things follow from the code as it is.

* Every report has the status `StageResultSucceeded`, the reports of failed
  stages included (`DorisOperator.reconcile_status`): `clusterStageFail` writes
  that status.
* The delete path reports every failure under the role's Configmap stage,
  whichever of its calls failed (`DorisOperator.deleteRes_reports`).

The last sections fix two operators to run – one whose only builders are the FE
builders of the sources (`DorisOperator.feOnlyEnv`), and one that also builds
plain BE, CN and Broker objects (`DorisOperator.plainEnv`) – and run a pass on
two failure patterns.
-/

namespace DorisOperator

/-- Every value `x` returns, from any world, satisfies `P`. -/
def Yields {α : Type} (P : α → Prop) (x : Rec α) : Prop :=
  ∀ w a, (x w).1 = .ret a → P a

/-! ### The combinators -/

section Combinators

variable {α β : Type} {P P' : α → Prop} {Q : β → Prop}

theorem yields_pure {a : α} (h : P a) : Yields P (pure a) := fun _ _ hb => by
  cases hb
  exact h

theorem yields_true (x : Rec α) : Yields (fun _ => True) x := fun _ _ _ => trivial

theorem Yields.mono {x : Rec α} (hx : Yields P x) (h : ∀ a, P a → P' a) : Yields P' x :=
  fun w a ha => h a (hx w a ha)

theorem Yields.bind {x : Rec α} {f : α → Rec β} (hx : Yields P x) (hf : ∀ a, P a → Yields Q (f a)) :
    Yields Q (x >>= f) := by
  intro w b h
  rw [Rec.bind_apply] at h
  rcases hxw : x w with ⟨a | m, w'⟩ <;> rw [hxw] at h
  · exact hf a (hx w a (by rw [hxw])) w' b h
  · cases h

variable {R : ClusterStageRecResult → Prop} {st : DorisClusterOprStage} {act : OprStageAction}
  {rest : Rec ClusterStageRecResult}

theorem yields_orFail {c : Rec (Option Error)} (hfail : ∀ e, R (clusterStageFail st act e))
    (hrest : Yields R rest) : Yields R (orFail c st act rest) :=
  (yields_true c).bind fun v _ => by
    cases v with
    | none => exact hrest
    | some e => exact yields_pure (hfail e)

theorem yields_orFailEach {calls : List (Rec (Option Error))} (hfail : ∀ e, R (clusterStageFail st act e))
    (hrest : Yields R rest) : Yields R (orFailEach calls st act rest) := by
  induction calls with
  | nil => exact hrest
  | cons c calls ih => exact yields_orFail hfail ih

theorem yields_runStages {fns : List (Rec ClusterStageRecResult)} (hfns : ∀ fn ∈ fns, Yields R fn)
    (hc : R completeResult) : Yields R (runStages fns) := by
  induction fns with
  | nil => exact yields_pure hc
  | cons fn fns ih =>
    simp only [runStages]
    refine (hfns fn (.head _)).bind fun r hr => ?_
    split
    · exact yields_pure hr
    · exact ih fun f hf => hfns f (.tail _ hf)

end Combinators

/-! ### The reports of the stages -/

/-- What the code reports from a role stage: the status `StageResultSucceeded`,
the action of the path that ran, the role's own stage when no call failed, and
when one did, one of the role's step stages – on the delete path, always the
Configmap stage. -/
def RoleReport (st : RoleStages) (present : Bool) (r : ClusterStageRecResult) : Prop :=
  r.status = .stageResultSucceeded ∧ r.action = elvis present .stageActionApply .stageActionDelete ∧
    match r.err with
    | none => r.stage = st.stage
    | some _ => r.stage ∈ elvis present [st.configmap, st.service, st.statefulSet] [st.configmap]

theorem applyRes_reports {keys : RoleKeys} (t : RoleTransformer keys) (st : RoleStages)
    (annotationKey : String) (mapMd5 : StrMap → String)
    (adjust : StatefulSet → Rec (Except Error StatefulSet)) (cr : DorisCluster) :
    Yields (RoleReport st true) (applyRes t st annotationKey mapMd5 adjust cr) := by
  have hfail : ∀ s ∈ [st.configmap, st.service, st.statefulSet], ∀ e,
      RoleReport st true (clusterStageFail s .stageActionApply e) := fun s hs e =>
    ⟨rfl, rfl, hs⟩
  unfold applyRes
  refine (yields_true _).bind fun cm _ => yields_orFail (hfail _ (by simp)) <|
    yields_orFailEach (hfail _ (by simp)) <| (yields_true _).bind fun sts _ =>
      (yields_true _).bind fun sts' _ => (yields_true _).bind fun r _ => ?_
  cases r with
  | error e => exact yields_pure (hfail _ (by simp) e)
  | ok s => exact yields_orFail (hfail _ (by simp)) (yields_pure ⟨rfl, rfl, rfl⟩)

/-- The delete path reports each of its failures under the Configmap stage. -/
theorem deleteRes_reports (keys : RoleKeys) (st : RoleStages) (cr : DorisCluster) :
    Yields (RoleReport st false) (deleteRes keys st cr) :=
  have hfail : ∀ e, RoleReport st false (clusterStageFail st.configmap .stageActionDelete e) :=
    fun _ => ⟨rfl, rfl, List.mem_singleton_self _⟩
  yields_orFail hfail <| yields_orFailEach hfail <| yields_orFail hfail (yields_pure ⟨rfl, rfl, rfl⟩)

/-- **The reports of a role stage.** -/
theorem recRoleResources_reports {keys : RoleKeys} (t : RoleTransformer keys) (st : RoleStages)
    (annotationKey : String) (mapMd5 : StrMap → String)
    (adjust : StatefulSet → Rec (Except Error StatefulSet)) (present : Bool) (cr : DorisCluster) :
    Yields (RoleReport st present) (recRoleResources t st annotationKey mapMd5 adjust present cr) := by
  cases present
  · exact deleteRes_reports keys st cr
  · exact applyRes_reports t st annotationKey mapMd5 adjust cr

/-- The Secret stage reports under its own stage, with the status
`StageResultSucceeded` and the action `StageActionApply`. -/
theorem recOprAccountSecret_reports (env : ReconcileEnv) (cr : DorisCluster) :
    Yields (fun r => r.stage = .stageSqlAccountSecret ∧ r.status = .stageResultSucceeded ∧
      r.action = .stageActionApply) (recOprAccountSecret env cr) := by
  unfold recOprAccountSecret
  refine (yields_true _).bind fun v _ => ?_
  rcases v with e | found
  · exact yields_pure ⟨rfl, rfl, rfl⟩
  · cases found
    · exact yields_orFail (fun _ => ⟨rfl, rfl, rfl⟩) (yields_pure ⟨rfl, rfl, rfl⟩)
    · exact yields_pure ⟨rfl, rfl, rfl⟩

/-- **Every report of a pass has the status `StageResultSucceeded`**, whatever
the cluster, the store and the failures. -/
theorem reconcile_status (env : ReconcileEnv) (cr : DorisCluster) :
    Yields (·.status = .stageResultSucceeded) (reconcile env cr) := by
  have role : ∀ {keys : RoleKeys} (t : RoleTransformer keys) st key adjust present,
      Yields (·.status = .stageResultSucceeded)
        (recRoleResources t st key env.mapMd5 adjust present cr) := fun t st key adjust present =>
    (recRoleResources_reports t st key env.mapMd5 adjust present cr).mono fun _ h => h.1
  refine yields_runStages ?_ rfl
  simp only [List.mem_cons, List.mem_singleton, List.not_mem_nil, or_false, forall_eq_or_imp,
    forall_eq]
  exact ⟨(recOprAccountSecret_reports env cr).mono fun _ h => h.2.1, role _ _ _ _ _, role _ _ _ _ _,
    role _ _ _ _ _, role _ _ _ _ _⟩

/-! ### An operator to run -/

/-- The builders of a role that builds nothing. -/
def RoleTransformer.unbuilt (keys : RoleKeys) : RoleTransformer keys where
  makeConfigMap _ := none
  makeServices := keys.services.map fun _ _ => none
  makeStatefulSet _ := none
  configMap_named _ _ h := nomatch h
  services_named := List.forall₂_map_left_iff.mpr (List.forall₂_same.mpr fun _ _ _ _ h => nomatch h)
  statefulSet_named _ _ h := nomatch h

/-- An operator whose only builders are the FE builders of the sources; its
Secret carries a name and nothing else. -/
def feOnlyEnv : ReconcileEnv where
  group := "doris"
  mapMd5 _ := ""
  makeOprSqlAccountSecret cr :=
    { metadata := { name := (getOprSqlAccountSecretKey cr.objKey).name,
                    ns := (getOprSqlAccountSecretKey cr.objKey).ns } }
  secret_named _ := rfl
  be := .unbuilt beKeys
  cn := .unbuilt cnKeys
  broker := .unbuilt brokerKeys

/-- A cluster that declares no role. -/
def emptyCluster : DorisCluster := { name := "doris", ns := "default" }

/-- The metadata that names the identity `n`. -/
def metaOf (n : NamespacedName) : ObjectMeta := { name := n.name, ns := n.ns }

/-- Builders that build, for the clusters `present` holds of, objects named by
the role's identities – the StatefulSet with an annotation map and three
replicas – and nothing for any other cluster. -/
def RoleTransformer.plain (keys : RoleKeys) (present : DorisCluster → Bool) : RoleTransformer keys where
  makeConfigMap cr := if present cr then some { metadata := metaOf (keys.configMap cr.objKey) } else none
  makeServices := keys.services.map fun key cr =>
    if present cr then some { metadata := metaOf (key cr.objKey) } else none
  makeStatefulSet cr := if present cr then
    some { metadata := { metaOf (keys.statefulSet cr.objKey) with annotations := some [] },
           spec := { replicas := some 3 } } else none
  configMap_named cr _ h := by
    by_cases hp : present cr <;> simp [hp] at h
    subst h; rfl
  services_named := List.forall₂_map_left_iff.mpr (List.forall₂_same.mpr fun _ _ cr _ h => by
    by_cases hp : present cr <;> simp [hp] at h
    subst h; rfl)
  statefulSet_named cr _ h := by
    by_cases hp : present cr <;> simp [hp] at h
    subst h; rfl

/-- An operator whose BE, CN and Broker builders build plain objects for the
roles a cluster declares. -/
def plainEnv : ReconcileEnv :=
  { feOnlyEnv with
    be := .plain beKeys (·.spec.be.isSome)
    cn := .plain cnKeys (·.spec.cn.isSome)
    broker := .plain brokerKeys (·.spec.broker.isSome) }

/-- `doris` declaring the BE, the CN and the Broker. -/
def builtCluster : DorisCluster := { emptyCluster with spec := { be := some {}, cn := some {}, broker := some {} } }

/-- `builtCluster` once its BE is removed. -/
def beRemovedCluster : DorisCluster := { emptyCluster with spec := { cn := some {}, broker := some {} } }

/-! ### Two failure patterns -/

/-- **The Secret stage succeeds when its two calls do**: it checks for the
Secret, creates it from the builder when it is missing, and reports success. -/
theorem recOprAccountSecret_succ (env : ReconcileEnv) (cr : DorisCluster) (w : World)
    (hex : ∀ l, w.fail l (.exist ⟨.secret, getOprSqlAccountSecretKey cr.objKey⟩) = none)
    (hcr : ∀ l, w.fail l (.create (.secret (env.makeOprSqlAccountSecret cr))) = none) :
    recOprAccountSecret env cr w =
      (.ret (clusterStageSucc .stageSqlAccountSecret .stageActionApply),
        w.extend ((.exist ⟨.secret, getOprSqlAccountSecretKey cr.objKey⟩, none) ::
          if (w.store.objects ⟨.secret, getOprSqlAccountSecretKey cr.objKey⟩).isSome then []
          else [(.create (.secret (env.makeOprSqlAccountSecret cr)), none)])) := by
  have hst : (w.extend [(.exist ⟨.secret, getOprSqlAccountSecretKey cr.objKey⟩, none)]).store = w.store := rfl
  simp only [recOprAccountSecret, exist, issue, Rec.bind_apply, hex, getStore_apply, Rec.pure_apply, hst]
  cases (w.store.objects ⟨.secret, getOprSqlAccountSecretKey cr.objKey⟩).isSome
  · simp only [orFail, create, issue, Rec.bind_apply, hcr, World.extend_fail, World.extend_log,
      World.extend_extend, Bool.not_false, if_true, Rec.pure_apply]
    rfl
  · rfl

/-- **A pass in which every call fails** stops at the Secret stage with the
error, and reports it with the status `StageResultSucceeded`. -/
theorem reconcile_failed_status (env : ReconcileEnv) (cr : DorisCluster) :
    Yields (·.status = .stageResultSucceeded) (reconcile env cr) ∧
    ∀ S e, (reconcile env cr ⟨S, [], fun _ _ => some e⟩).1 =
      .ret ⟨.stageSqlAccountSecret, .stageResultSucceeded, .stageActionApply, some e⟩ :=
  ⟨reconcile_status env cr, fun S e => by
    simp [reconcile, runStages, recOprAccountSecret, exist, issue, Rec.bind_apply, clusterStageFail]⟩

/-- The oracle under which every deletion fails with `e`, and every other call
succeeds. -/
def deletionsFail (e : Error) : Oracle := fun _ c =>
  match c with
  | .deleteWhenExist _ => some e
  | _ => none

/-- **A failed deletion of the FE StatefulSet is reported under the FE Configmap
stage.** For every cluster without an FE and every store, when deletions fail
the pass stops at the FE stage, its last call is the deletion of the FE
StatefulSet, and the report names the stage `StageFeConfigmap`. -/
theorem feStatefulSetDelete_reported_as_configmap (env : ReconcileEnv) (cr : DorisCluster) (S : Store)
    (e : Error) (h : cr.spec.fe = none) :
    (reconcile env cr ⟨S, [], deletionsFail e⟩).1 =
      .ret ⟨.stageFeConfigmap, .stageResultSucceeded, .stageActionDelete, some e⟩ ∧
    (reconcile env cr ⟨S, [], deletionsFail e⟩).2.log.getLast?.map (·.1) =
      some (.deleteWhenExist ⟨.statefulSet, getFeStatefulSetKey cr.objKey⟩) := by
  have hp := recOprAccountSecret_succ env cr ⟨S, [], deletionsFail e⟩ (fun _ => rfl) (fun _ => rfl)
  simp [reconcile, runStages, Rec.bind_apply, hp, clusterStageSucc, recFeResources, recRoleResources,
    elvis, h, deleteRes, orFail, deleteWhenExist, issue, deletionsFail, feKeys, feStages, clusterStageFail]
  split <;> simp

theorem feStatefulSetDelete_reported_as_configmap_emptyCluster :
    emptyCluster.spec.fe = none ∧
    (reconcile feOnlyEnv emptyCluster ⟨Store.empty, [], deletionsFail ⟨"forbidden"⟩⟩).1 =
      .ret ⟨.stageFeConfigmap, .stageResultSucceeded, .stageActionDelete, some ⟨"forbidden"⟩⟩ ∧
    (reconcile feOnlyEnv emptyCluster ⟨Store.empty, [], deletionsFail ⟨"forbidden"⟩⟩).2.log.getLast?.map
      (·.1) = some (.deleteWhenExist ⟨.statefulSet, getFeStatefulSetKey emptyCluster.objKey⟩) :=
  ⟨rfl, feStatefulSetDelete_reported_as_configmap feOnlyEnv emptyCluster Store.empty ⟨"forbidden"⟩ rfl⟩

end DorisOperator
