import DorisOperator.Reconciler.Healthy
import DorisOperator.Transformer.FeAgreement

/-!
# The configuration hash

Before it writes a role's StatefulSet, the apply path stamps the hash of the
ConfigMap's data into an annotation, so that a change of configuration rolls
the pods. The code writes it with `statefulSet.Annotations[key] = value`: into
the StatefulSet's own annotations, not into those of its pod template, and
`MakeFeStatefulSet` leaves the former nil (`DorisOperator.makeFeStatefulSet_annotations`).
Go panics on a write into a nil map. Hence, for every cluster that declares an
FE:

* the FE stage never reports success: when it returns, it reports an error
  (`DorisOperator.recFeResources_reports_error`), and so does every pass,
  whatever the store and the failures (`DorisOperator.fe_pass_panics`);
* against a store where no call fails, every pass panics right after writing
  the FE ConfigMap and Services (`DorisOperator.fe_pass_panics`), whatever the
  cluster and the store – the general form is `DorisOperator.applyRes_panics`,
  for any role whose StatefulSet has nil annotations;
* no pass ever writes the FE StatefulSet, whatever the cluster and whatever
  fails (`DorisOperator.fe_statefulSet_never_written`).
-/

namespace DorisOperator

/-! ### The write into a nil map -/

theorem setAnnotationEntry_nil {sts : StatefulSet} (key value : String) (w : World)
    (h : sts.metadata.annotations = none) :
    setAnnotationEntry sts key value w = (.panic "assignment to entry in nil map", w) := by
  simp [setAnnotationEntry, h]

theorem yields_setAnnotationEntry_nil {sts : StatefulSet} {key value : String}
    (h : sts.metadata.annotations = none) : Yields (fun _ => False) (setAnnotationEntry sts key value) :=
  fun w _ hs => by
    rw [setAnnotationEntry_nil key value w h] at hs
    cases hs

/-- **The FE stage never succeeds**: for every cluster that declares an FE,
whatever the store and the failures, when the FE stage returns it reports an
error. -/
theorem recFeResources_reports_error (env : ReconcileEnv) (cr : DorisCluster) (h : cr.spec.fe.isSome) :
    Yields (fun r => r.err.isSome) (recFeResources env cr) := by
  obtain ⟨sts, hsts⟩ := Option.isSome_iff_exists.mp (makeFe_isSome h).2.2.2
  simp only [recFeResources, recRoleResources, h, elvis, applyRes]
  refine (yields_true _).bind fun cm _ => yields_orFail (fun _ => rfl) <|
    yields_orFailEach (fun _ => rfl) ?_
  show Yields _ (deref (makeFeStatefulSet cr) >>= _)
  rw [hsts]
  refine (yields_pure rfl : Yields (· = sts) (pure sts)).bind fun s hs => ?_
  subst hs
  exact (yields_setAnnotationEntry_nil (makeFeStatefulSet_annotations hsts)).bind fun _ hf => hf.elim

/-! ### Against a healthy store -/

/-- **A role whose StatefulSet has nil annotations panics** on a healthy store,
once its ConfigMap and Services are written. -/
theorem applyRes_panics {keys : RoleKeys} (t : RoleTransformer keys) (st : RoleStages)
    (annotationKey : String) (mapMd5 : StrMap → String)
    (adjust : StatefulSet → Rec (Except Error StatefulSet)) (cr : DorisCluster) (w : World)
    (hw : w.fail = healthy) (hcm : (t.makeConfigMap cr).isSome)
    (hsvc : ∀ mk ∈ t.makeServices, (mk cr).isSome) {sts : StatefulSet}
    (hsts : t.makeStatefulSet cr = some sts) (hann : sts.metadata.annotations = none) :
    ∃ w', applyRes t st annotationKey mapMd5 adjust cr w = (.panic "assignment to entry in nil map", w') := by
  obtain ⟨cm, hcm⟩ := Option.isSome_iff_exists.mp hcm
  have hcalls : ∀ c ∈ t.makeServices.map (fun mk => do createOrUpdate (.service (← deref (mk cr)))),
      ∀ w : World, w.fail = healthy → ∃ l, c w = (.ret none, w.extend l) := by
    simp only [List.mem_map]
    rintro _ ⟨mk, hmk, rfl⟩ w hw
    obtain ⟨s, hs⟩ := Option.isSome_iff_exists.mp (hsvc mk hmk)
    exact ⟨[(.createOrUpdate (.service s), none)], by
      simp only [hs, deref_some, Rec.bind_apply, Rec.pure_apply, createOrUpdate_healthy hw]⟩
  obtain ⟨l, hl⟩ := orFailEach_healthy hcalls (w.extend [(.createOrUpdate (.configMap cm), none)])
    (by simpa using hw)
  unfold applyRes
  simp only [hcm, deref_some, Rec.bind_apply, Rec.pure_apply, orFail, createOrUpdate_healthy hw, hl, hsts,
    setAnnotationEntry_nil _ _ _ hann]
  exact ⟨_, rfl⟩

/-- A loop whose second stage reports an error whenever it returns reports an
error whenever it returns. -/
theorem yields_runStages_err {fn fn' : Rec ClusterStageRecResult} {fns : List (Rec ClusterStageRecResult)}
    (h : Yields (fun r => r.err.isSome) fn') : Yields (fun r => r.err.isSome) (runStages (fn :: fn' :: fns)) := by
  simp only [runStages]
  refine (yields_true fn).bind fun r _ => ?_
  split
  · exact yields_pure ‹_›
  · exact h.bind fun r' hr' => by rw [if_pos hr']; exact yields_pure hr'

/-- **No pass succeeds, and a healthy pass panics**, for a cluster that declares
an FE: whatever the store and the failures, a pass that returns reports an
error; and against a store where no call fails, every pass panics, whatever the
store holds. -/
theorem fe_pass_panics (env : ReconcileEnv) (cr : DorisCluster) (S : Store) (h : cr.spec.fe.isSome) :
    Yields (fun r => r.err.isSome) (reconcile env cr) ∧
    (reconcile env cr ⟨S, [], healthy⟩).1 = .panic "assignment to entry in nil map" := by
  refine ⟨yields_runStages_err (recFeResources_reports_error env cr h), ?_⟩
  obtain ⟨p, hp⟩ : ∃ p, recOprAccountSecret env cr ⟨S, [], healthy⟩ =
      (.ret (clusterStageSucc .stageSqlAccountSecret .stageActionApply), World.extend ⟨S, [], healthy⟩ p) :=
    ⟨_, recOprAccountSecret_succ env cr _ (fun _ => rfl) (fun _ => rfl)⟩
  obtain ⟨hcm, hsvc, hpeer, hsts⟩ := makeFe_isSome h
  obtain ⟨sts, hsts⟩ := Option.isSome_iff_exists.mp hsts
  obtain ⟨w', hw'⟩ := applyRes_panics feTransformer feStages (feConfHashAnnotationKey env.group)
    env.mapMd5 keepStatefulSet cr (World.extend ⟨S, [], healthy⟩ p) rfl hcm (by simp [feTransformer, hsvc, hpeer]) hsts
    (makeFeStatefulSet_annotations hsts)
  simp only [reconcile, runStages, Rec.bind_apply, hp, clusterStageSucc, Option.isSome_none,
    Bool.false_eq_true, if_false, recFeResources, recRoleResources, h, elvis_true]
  rw [hw']

theorem fe_pass_panics_plainFeCluster :
    plainFeCluster.spec.fe.isSome ∧
    Yields (fun r => r.err.isSome) (reconcile feOnlyEnv plainFeCluster) ∧
    (reconcile feOnlyEnv plainFeCluster ⟨Store.empty, [], healthy⟩).1 =
      .panic "assignment to entry in nil map" :=
  ⟨rfl, fe_pass_panics feOnlyEnv plainFeCluster Store.empty rfl⟩

/-! ### The FE StatefulSet is never written -/

/-- **No pass writes the FE StatefulSet**, whatever the cluster, the store and
the failures: the apply path panics before, and no other call is addressed to
it as a write. -/
theorem fe_statefulSet_never_written (env : ReconcileEnv) (cr : DorisCluster) (S : Store) (fail : Oracle) :
    CallShape.createOrUpdate ⟨.statefulSet, getFeStatefulSetKey cr.objKey⟩ ∉
      (reconcile env cr ⟨S, [], fail⟩).2.log.map (·.1.shape) := by
  let ok : Call → Prop := fun c => c.shape ≠ .createOrUpdate ⟨.statefulSet, getFeStatefulSetKey cr.objKey⟩
  have hcm : ∀ cm, ok (.createOrUpdate (.configMap cm)) := by simp [ok, Call.shape, Obj.ref]
  have hsvc : ∀ s, ok (.createOrUpdate (.service s)) := by simp [ok, Call.shape, Obj.ref]
  have hdel : ∀ r, ok (.deleteWhenExist r) := by simp [ok, Call.shape]
  -- a role other than the FE writes its StatefulSet under its own identity
  have hsts : ∀ {keys : RoleKeys} {t : RoleTransformer keys} {s₀ s : StatefulSet},
      t.makeStatefulSet cr = some s₀ → s.metadata.key = s₀.metadata.key →
      keys.statefulSet cr.objKey ≠ getFeStatefulSetKey cr.objKey → ok (.createOrUpdate (.statefulSet s)) :=
    by intro _ t _ _ hs₀ hk hne; simpa [ok, Call.shape, Obj.ref, hk, t.statefulSet_named cr _ hs₀] using hne
  have hne : ∀ suffix, suffix ≠ "-fe" → roleKey suffix cr.objKey ≠ getFeStatefulSetKey cr.objKey :=
    fun suffix hs heq => hs (roleKey_inj heq)
  obtain ⟨p, hw, -, -, hpok, -⟩ := @reconcile_follows ok env cr ⟨S, [], fail⟩ _ _ _ _ _
    (recOprAccountSecret_follows env cr _ (by simp [ok, Call.shape]) (by simp [ok, Call.shape, Obj.ref]))
    (fun _ => keepRole_follows _ _ _ _ _ cr _ hcm hsvc
      (fun _ _ hs₀ hm _ => by simp [makeFeStatefulSet_annotations hs₀] at hm) fun _ r _ => hdel r)
    (fun _ => keepRole_follows _ _ _ _ _ cr _ hcm hsvc
      (fun _ _ hs₀ _ hk => hsts hs₀ hk (hne _ (by decide))) fun _ r _ => hdel r)
    (fun _ => cnRole_follows _ _ _ _ _ cr _ hcm hsvc (by simp [ok, Call.shape])
      (fun _ _ hs₀ _ hk _ => hsts hs₀ hk (hne _ (by decide))) fun _ r _ => hdel r)
    (fun _ => keepRole_follows _ _ _ _ _ cr _ hcm hsvc
      (fun _ _ hs₀ _ hk => hsts hs₀ hk (hne _ (by decide))) fun _ r _ => hdel r)
  rw [hw, World.extend_log, List.nil_append, List.mem_map]
  rintro ⟨e, he, hs⟩
  exact hpok e he hs

end DorisOperator
