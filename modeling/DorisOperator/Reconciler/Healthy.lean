import DorisOperator.Reconciler.Effects

/-!
# A pass against a healthy store

Against a store where no call fails (`DorisOperator.healthy`), each stage of a
pass either succeeds or panics, and the builders alone decide which.
`DorisOperator.StageRuns` says this of a stage, together with what the stage
does to the store when it succeeds, and every stage has it:

* the Secret stage always succeeds, and creates the Secret when it is missing
  (`DorisOperator.recOprAccountSecret_runs`);
* a role stage succeeds when the role is not declared, or when its builders
  build everything its apply path dereferences
  (`DorisOperator.RoleTransformer.built`); the role then converges to what it
  declares, and no other object changes (`DorisOperator.recRoleResources_healthy`).

What a role declares is `DorisOperator.RoleTransformer.declared`: its ConfigMap,
its Services and its StatefulSet as the builders make them, the StatefulSet
stamped with the hash of the ConfigMap's data and finished by the role's own rule
(for the CN, `DorisOperator.cnFinish`: no replicas while an autoscaler is bound).

The loop of `Reconcile` runs such stages in turn: it completes, the stores before
and after related by the stages' relations one after another, when every stage
succeeds, and it panics otherwise (`DorisOperator.runStages_healthy`). For a pass
this is `DorisOperator.reconcile_healthy_run`: a pass completes exactly when every
declared role is built (`DorisOperator.reconcile_healthy_completes`), and the
objects it then leaves are those the canonical calls leave
(`DorisOperator.reconcile_present_of_built`).

The last section writes the sequence of a pass down in the design's words, which
give the Broker a client Service besides its peer Service
(`DorisOperator.designCalls`). No pass follows it: the healthy pass of a cluster
without roles leaves it at the Broker's delete block
(`DorisOperator.healthy_pass_leaves_designCalls`).
-/

namespace DorisOperator

/-! ### Calls that succeed -/

theorem createOrUpdate_healthy {w : World} (hw : w.fail = healthy) (o : Obj) :
    createOrUpdate o w = (.ret none, w.extend [(.createOrUpdate o, none)]) := by
  simp [createOrUpdate, issue, hw, healthy]

theorem orFailEach_cons (c : Rec (Option Error)) (calls : List (Rec (Option Error)))
    (st : DorisClusterOprStage) (act : OprStageAction) (rest : Rec ClusterStageRecResult) :
    orFailEach (c :: calls) st act rest = orFail c st act (orFailEach calls st act rest) := rfl

/-- Writes that succeed from every world where no call fails, one after the
other, lead to what follows them. -/
theorem orFailEach_healthy {calls : List (Rec (Option Error))}
    (hcalls : ∀ c ∈ calls, ∀ w : World, w.fail = healthy → ∃ l, c w = (.ret none, w.extend l))
    (w : World) (hw : w.fail = healthy) :
    ∃ l, ∀ st act rest, orFailEach calls st act rest w = rest (w.extend l) := by
  induction calls generalizing w with
  | nil => exact ⟨[], fun _ _ _ => by simp [orFailEach]⟩
  | cons c calls ih =>
    obtain ⟨l, hl⟩ := hcalls c (.head _) w hw
    obtain ⟨l', hl'⟩ := ih (fun c' hc' => hcalls c' (.tail _ hc')) (w.extend l) (by simpa using hw)
    refine ⟨l ++ l', fun st act rest => ?_⟩
    simp only [orFailEach_cons, orFail, Rec.bind_apply, hl, hl', World.extend_extend]

/-- The targets of a log's calls. -/
def Log.targets (q : Log) : List ObjRef := q.filterMap (·.1.shape.target)

theorem Log.targets_eq (q : Log) : Log.targets q = (q.map (·.1.shape)).filterMap CallShape.target := by
  rw [Log.targets, List.filterMap_map]
  rfl

theorem replay_of_targets_nil {p : Log} (h : Log.targets p = []) (S : Store) : replay p S = S := by
  refine Store.ext (funext fun r => replay_objects_of_untargeted S fun e he ht => ?_) (by simp)
  have : r ∈ Log.targets p := List.mem_filterMap.mpr ⟨e, he, ht⟩
  simp [h] at this

/-! ### What a role declares -/

/-- The StatefulSet with the config hash `value` stamped under `key` into its
own annotations. -/
def stampConfigHash (sts : StatefulSet) (key value : String) : StatefulSet :=
  { sts with metadata.annotations := some ((sts.metadata.annotations.getD []).insert key value) }

/-- The objects a declared role asks of the store: its ConfigMap, its Services in
order, and its StatefulSet, stamped with the hash of the ConfigMap's data and
finished by the role's own rule; `none` when a builder builds nothing. -/
def RoleTransformer.declared {keys : RoleKeys} (t : RoleTransformer keys) (annotationKey : String)
    (mapMd5 : StrMap → String) (finish : StatefulSet → StatefulSet) (cr : DorisCluster) :
    Option (List Obj) := do
  let cm ← t.makeConfigMap cr
  let svcs ← t.makeServices.mapM (· cr)
  let sts ← t.makeStatefulSet cr
  pure (.configMap cm :: svcs.map .service ++
    [.statefulSet (finish (stampConfigHash sts annotationKey (mapMd5 cm.data)))])

@[simp] theorem stampConfigHash_key (sts : StatefulSet) (key value : String) :
    (stampConfigHash sts key value).metadata.key = sts.metadata.key := rfl

/-- The CN's own rule: while a DorisAutoScaler is bound to the cluster, the
replicas are left to it. -/
def cnFinish (autoScaler : Option DorisAutoScaler) (sts : StatefulSet) : StatefulSet :=
  if autoScaler.isSome then { sts with spec.replicas := none } else sts

@[simp] theorem cnFinish_key (autoScaler : Option DorisAutoScaler) (sts : StatefulSet) :
    (cnFinish autoScaler sts).metadata.key = sts.metadata.key := by
  unfold cnFinish
  split <;> rfl

/-- **A role has converged** from the objects `before` to the objects `after`:
when it is declared, each of its identities holds the object declared for it,
merged onto what was there; when it is not, none of its identities holds
anything. -/
def RoleConverged (keys : RoleKeys) (declared : Option (List Obj)) (present : Bool)
    (k : NamespacedName) (before after : ObjRef → Option Obj) : Prop :=
  if present then
    ∃ objs, declared = some objs ∧ objs.map Obj.ref = keys.refs k ∧
      ∀ o ∈ objs, after o.ref = some (o.mergeOnto (before o.ref))
  else ∀ r ∈ keys.refs k, after r = none

/-- Convergence reads the objects only at the role's identities. -/
theorem RoleConverged.congr {keys : RoleKeys} {declared : Option (List Obj)} {present : Bool}
    {k : NamespacedName} {before after before' after' : ObjRef → Option Obj}
    (h : RoleConverged keys declared present k before after)
    (hb : ∀ r ∈ keys.refs k, before r = before' r) (ha : ∀ r ∈ keys.refs k, after r = after' r) :
    RoleConverged keys declared present k before' after' := by
  cases present
  · simp only [RoleConverged, Bool.false_eq_true, ↓reduceIte] at h ⊢
    exact fun r hr => by rw [← ha r hr, h r hr]
  · simp only [RoleConverged, ↓reduceIte] at h ⊢
    obtain ⟨objs, hd, hrefs, hobjs⟩ := h
    have hmem : ∀ o ∈ objs, o.ref ∈ keys.refs k := fun o ho => hrefs ▸ List.mem_map_of_mem _ ho
    exact ⟨objs, hd, hrefs, fun o ho => by rw [← ha _ (hmem o ho), ← hb _ (hmem o ho), hobjs o ho]⟩

/-- The log of writing each of `objs` in turn, every write successful. -/
def writes (objs : List Obj) : Log := objs.map fun o => (.createOrUpdate o, none)

/-- Writing objects of pairwise different identities leaves each merged onto
what was there, and every other object as it was. -/
theorem replay_writes {objs : List Obj} (hnd : (objs.map Obj.ref).Nodup) (S : Store) :
    (∀ o ∈ objs, (replay (writes objs) S).objects o.ref = some (o.mergeOnto (S.objects o.ref))) ∧
    ∀ r ∉ objs.map Obj.ref, (replay (writes objs) S).objects r = S.objects r := by
  induction objs generalizing S with
  | nil => simp [writes]
  | cons o objs ih =>
    rw [List.map_cons, List.nodup_cons] at hnd
    have hS := ih hnd.2 ((Call.createOrUpdate o).apply S)
    have hstep : replay (writes (o :: objs)) S = replay (writes objs) ((Call.createOrUpdate o).apply S) := rfl
    rw [hstep]
    refine ⟨fun o' ho' => ?_, fun r hr => ?_⟩
    · rcases List.mem_cons.mp ho' with rfl | ho'
      · exact (hS.2 _ hnd.1).trans (Store.put_objects_self _ _ _)
      · have hne : o'.ref ≠ o.ref := fun h => hnd.1 (h ▸ List.mem_map_of_mem _ ho')
        exact (hS.1 o' ho').trans (by rw [Call.apply, Store.put_objects_ne _ _ hne])
    · rw [List.map_cons, List.mem_cons, not_or] at hr
      exact (hS.2 r hr.2).trans (Store.put_objects_ne _ _ hr.1)

/-! ### Each stage against a healthy store -/

/-- **What a stage does against a healthy store** whose autoscaler bindings are
`A`: when `completes`, it succeeds and the stores before and after are related
by `R`; otherwise it panics. -/
def StageRuns (A : NamespacedName → Option DorisAutoScaler) (completes : Bool) (R : Store → Store → Prop)
    (fn : Rec ClusterStageRecResult) : Prop :=
  ∀ w : World, w.fail = healthy → w.store.autoScalers = A →
    if completes then ∃ r p, r.err = none ∧ fn w = (.ret r, w.extend p) ∧ R w.store (replay p w.store)
    else ∃ m w', fn w = (.panic m, w')

/-- What the Secret stage does to the store: the Secret that was there stays,
or else `secret` is created, and nothing else changes. -/
def SecretStep (k : NamespacedName) (secret : Secret) (S S' : Store) : Prop :=
  S'.objects (oprSecretRef k) = (S.objects (oprSecretRef k)).or (some (.secret secret)) ∧
    ∀ r ≠ oprSecretRef k, S'.objects r = S.objects r

/-- **The Secret stage against a healthy store** succeeds, leaves the Secret that
was there or creates the one the builder makes, and changes nothing else. -/
theorem recOprAccountSecret_runs (env : ReconcileEnv) (cr : DorisCluster)
    (A : NamespacedName → Option DorisAutoScaler) :
    StageRuns A true (SecretStep cr.objKey (env.makeOprSqlAccountSecret cr)) (recOprAccountSecret env cr) := by
  intro w hw _
  rw [if_pos rfl]
  refine ⟨_, _, rfl, recOprAccountSecret_succ env cr w (fun _ => by rw [hw]; rfl) (fun _ => by rw [hw]; rfl), ?_⟩
  have href : (Obj.secret (env.makeOprSqlAccountSecret cr)).ref = oprSecretRef cr.objKey := by
    simp only [Obj.ref, env.secret_named, oprSecretRef]
  cases hS : w.store.objects (oprSecretRef cr.objKey) with
  | none =>
    rw [oprSecretRef] at hS
    rw [hS, Option.isSome_none, if_neg Bool.false_ne_true]
    refine ⟨?_, fun r hr => ?_⟩
    · show (w.store.put _ _).objects _ = _
      rw [href, Store.put_objects_self, oprSecretRef, hS]
      rfl
    · show (w.store.put _ _).objects _ = _
      rw [href, Store.put_objects_ne _ _ hr]
  | some o =>
    rw [oprSecretRef] at hS
    rw [hS, Option.isSome_some, if_pos rfl]
    exact ⟨show w.store.objects ⟨.secret, _⟩ = (w.store.objects ⟨.secret, _⟩).or _ by rw [hS]; rfl,
      fun _ _ => rfl⟩

/-- What the FE, BE and Broker, and the CN, do to their StatefulSet before
writing it, against a healthy store whose bindings are `A`: they finish it by
`finish`, and their calls write nothing. -/
def AdjustRuns (A : NamespacedName → Option DorisAutoScaler)
    (adjust : StatefulSet → Rec (Except Error StatefulSet)) (finish : StatefulSet → StatefulSet) : Prop :=
  ∀ w : World, w.fail = healthy → w.store.autoScalers = A → ∀ s, ∃ l, Log.targets l = [] ∧
    adjust s w = (.ret (.ok (finish s)), w.extend l)

/-- The FE, BE and Broker leave their StatefulSet as it is, and call nothing. -/
theorem keepStatefulSet_healthy (A : NamespacedName → Option DorisAutoScaler) :
    AdjustRuns A keepStatefulSet id :=
  fun _ _ _ _ => ⟨[], rfl, by simp [keepStatefulSet]⟩

/-- Against a healthy store, the CN's lookup finds the store's autoscaler binding
and finishes the StatefulSet by it; the lookup writes nothing. -/
theorem cnAutoScalerAdjust_healthy (cr : DorisCluster) (A : NamespacedName → Option DorisAutoScaler) :
    AdjustRuns A (cnAutoScalerAdjust cr) (cnFinish (A cr.objKey)) := fun w hw hA _ => by
  subst hA
  exact ⟨[(.findRefDorisAutoScaler cr.objKey, none)], rfl,
    by simp [cnAutoScalerAdjust, findRefDorisAutoScaler, issue, Rec.bind_apply, hw, healthy, cnFinish]⟩

/-- On a healthy store, the writes of a role's Services write every Service in
order and go on when every Service is built, and panic otherwise. -/
theorem orFailEach_services_healthy (mks : List (DorisCluster → Option Service)) (cr : DorisCluster)
    (st : DorisClusterOprStage) (act : OprStageAction) (w : World) (hw : w.fail = healthy) :
    (∃ svcs, mks.mapM (· cr) = some svcs ∧ ∀ rest,
      orFailEach (mks.map fun mk => do createOrUpdate (.service (← deref (mk cr)))) st act rest w =
        rest (w.extend (writes (svcs.map .service)))) ∨
    (mks.mapM (· cr) = none ∧ ∀ rest, ∃ m w',
      orFailEach (mks.map fun mk => do createOrUpdate (.service (← deref (mk cr)))) st act rest w =
        (.panic m, w')) := by
  induction mks generalizing w with
  | nil => exact .inl ⟨[], rfl, fun rest => by simp [orFailEach, writes]⟩
  | cons mk mks ih =>
    cases hmk : mk cr with
    | none =>
      refine .inr ⟨by simp only [List.mapM_cons, hmk]; rfl,
        fun rest => ⟨"invalid memory address or nil pointer dereference", w, ?_⟩⟩
      simp [orFailEach_cons, orFail, Rec.bind_apply, hmk, deref]
    | some s =>
      have hhead : ∀ rest,
          orFailEach ((mk :: mks).map fun mk => do createOrUpdate (.service (← deref (mk cr))))
              st act rest w =
            orFailEach (mks.map fun mk => do createOrUpdate (.service (← deref (mk cr)))) st act rest
              (w.extend [(.createOrUpdate (.service s), none)]) := fun rest => by
        simp only [List.map_cons, orFailEach_cons, orFail, Rec.bind_apply, hmk, deref_some, Rec.pure_apply,
          createOrUpdate_healthy hw]
      simp only [hhead]
      rcases ih (w.extend [(.createOrUpdate (.service s), none)]) (by simpa using hw) with
        ⟨svcs, hsv, heq⟩ | ⟨hsv, hpanic⟩
      · exact .inl ⟨s :: svcs, by simp only [List.mapM_cons, hmk, hsv]; rfl,
          fun rest => by rw [heq, World.extend_extend]; rfl⟩
      · exact .inr ⟨by simp only [List.mapM_cons, hmk, hsv]; rfl, hpanic⟩

/-- Whether a role's builders build everything its apply path writes: its
ConfigMap, each of its Services, and a StatefulSet whose annotations are a map. -/
def RoleTransformer.built {keys : RoleKeys} (t : RoleTransformer keys) (cr : DorisCluster) : Bool :=
  (t.makeConfigMap cr).isSome &&
    (t.makeServices.mapM fun (mk : DorisCluster → Option Service) => mk cr).isSome &&
    ((t.makeStatefulSet cr).bind (·.metadata.annotations)).isSome

/-- **The apply path against a healthy store.** When the role's builders build
everything, it writes exactly the objects the role declares, in order, and
succeeds; the calls the adjustment makes in between write nothing. Otherwise it
panics. -/
theorem applyRes_healthy {keys : RoleKeys} (t : RoleTransformer keys) (st : RoleStages)
    (annotationKey : String) (mapMd5 : StrMap → String) {A : NamespacedName → Option DorisAutoScaler}
    {adjust : StatefulSet → Rec (Except Error StatefulSet)} {finish : StatefulSet → StatefulSet}
    (hadj : AdjustRuns A adjust finish) (cr : DorisCluster) (w : World) (hw : w.fail = healthy)
    (hA : w.store.autoScalers = A) :
    if t.built cr then
      ∃ objs p, t.declared annotationKey mapMd5 finish cr = some objs ∧
        applyRes t st annotationKey mapMd5 adjust cr w =
          (.ret (clusterStageSucc st.stage .stageActionApply), w.extend p) ∧
        replay p w.store = replay (writes objs) w.store
    else ∃ m w', applyRes t st annotationKey mapMd5 adjust cr w = (.panic m, w') := by
  cases hcm : t.makeConfigMap cr with
  | none =>
    rw [if_neg (by rw [RoleTransformer.built, hcm]; simp)]
    simp only [applyRes, hcm]
    exact ⟨_, _, rfl⟩
  | some cm =>
  simp only [applyRes, hcm, deref_some, Rec.bind_apply, Rec.pure_apply, orFail, createOrUpdate_healthy hw]
  rcases orFailEach_services_healthy t.makeServices cr st.service .stageActionApply
    (w.extend [(.createOrUpdate (.configMap cm), none)]) (by simpa using hw) with
    ⟨svcs, hsv, heq⟩ | ⟨hsv, hpanic⟩
  · rw [heq]
    cases hsts : t.makeStatefulSet cr with
    | none =>
      rw [if_neg (by rw [RoleTransformer.built, hcm, hsv, hsts]; simp)]
      exact ⟨_, _, rfl⟩
    | some s₀ =>
    cases hm : s₀.metadata.annotations with
    | none =>
      rw [if_neg (by rw [RoleTransformer.built, hcm, hsv, hsts]; simp [hm])]
      simp only [hsts, deref_some, Rec.bind_apply, Rec.pure_apply, setAnnotationEntry, hm]
      exact ⟨_, _, rfl⟩
    | some m =>
    rw [if_pos (by rw [RoleTransformer.built, hcm, hsv, hsts]; simp [hm])]
    obtain ⟨l, hl, hadj'⟩ :=
      hadj (w.extend ([(.createOrUpdate (.configMap cm), none)] ++ writes (svcs.map .service)))
        (by simpa using hw) (by simpa using hA)
        { s₀ with metadata.annotations := some (m.insert annotationKey (mapMd5 cm.data)) }
    simp only [hsts, hm, deref_some, Rec.bind_apply, Rec.pure_apply, setAnnotationEntry, World.extend_extend,
      hadj', orFail, createOrUpdate_healthy, World.extend_fail, hw]
    refine ⟨.configMap cm :: svcs.map .service ++
      [.statefulSet (finish (stampConfigHash s₀ annotationKey (mapMd5 cm.data)))], _, ?_, rfl, ?_⟩
    · simp only [RoleTransformer.declared, hcm, hsv, hsts, Option.bind_eq_bind, Option.some_bind,
        stampConfigHash, hm, Option.getD_some]
      rfl
    · rw [replay_append, replay_append, replay_of_targets_nil hl, ← replay_append]
      simp [writes, stampConfigHash, hm]
  · rw [if_neg (by rw [RoleTransformer.built, hcm, hsv]; simp)]
    exact hpanic _

/-- A role's Service builders, all building, build Services named by the role's
Service identities, in order. -/
theorem services_refs {mks : List (DorisCluster → Option Service)}
    {keys : List (NamespacedName → NamespacedName)}
    (hn : List.Forall₂ (fun mk key => Named mk Service.metadata key) mks keys) (cr : DorisCluster)
    {svcs : List Service} (h : mks.mapM (· cr) = some svcs) :
    (svcs.map Obj.service).map Obj.ref = keys.map fun key => ⟨.service, key cr.objKey⟩ := by
  induction hn generalizing svcs with
  | nil =>
    obtain rfl : svcs = [] := (Option.some.inj h).symm
    rfl
  | cons hmk _ ih =>
    simp only [List.mapM_cons, Option.bind_eq_bind, Option.bind_eq_some, Option.pure_def,
      Option.some.injEq] at h
    obtain ⟨s, hs, svcs', hsv', rfl⟩ := h
    simp only [List.map_cons, ih hsv', Obj.ref, hmk cr s hs]

/-- What a role declares sits at the role's identities, one object each. -/
theorem RoleTransformer.declared_refs {keys : RoleKeys} (t : RoleTransformer keys) (annotationKey : String)
    (mapMd5 : StrMap → String) {finish : StatefulSet → StatefulSet}
    (hfin : ∀ s, (finish s).metadata.key = s.metadata.key) (cr : DorisCluster) {objs : List Obj}
    (h : t.declared annotationKey mapMd5 finish cr = some objs) : objs.map Obj.ref = keys.refs cr.objKey := by
  simp only [RoleTransformer.declared, Option.bind_eq_bind, Option.bind_eq_some, Option.pure_def,
    Option.some.injEq] at h
  obtain ⟨cm, hcm, svcs, hsv, sts, hsts, rfl⟩ := h
  simp only [List.map_cons, List.map_append, services_refs t.services_named cr hsv, RoleKeys.refs, Obj.ref,
    t.configMap_named cr cm hcm, hfin, stampConfigHash_key, t.statefulSet_named cr sts hsts, List.map_nil]

/-- **The delete path against a healthy store** succeeds. -/
theorem deleteRes_healthy (keys : RoleKeys) (st : RoleStages) (cr : DorisCluster) (w : World)
    (hw : w.fail = healthy) :
    ∃ p, deleteRes keys st cr w = (.ret (clusterStageSucc st.stage .stageActionDelete), w.extend p) := by
  have hdel : ∀ (r : ObjRef) (w' : World), w'.fail = healthy →
      deleteWhenExist r w' = (.ret none, w'.extend [(.deleteWhenExist r, none)]) := fun r w' hw' => by
    simp [deleteWhenExist, issue, hw', healthy]
  have hsvc : ∀ c ∈ keys.services.map (fun key => deleteWhenExist ⟨.service, key cr.objKey⟩),
      ∀ w' : World, w'.fail = healthy → ∃ l, c w' = (.ret none, w'.extend l) := by
    simp only [List.mem_map]
    rintro _ ⟨key, -, rfl⟩ w' hw'
    exact ⟨_, hdel _ w' hw'⟩
  obtain ⟨l, hl⟩ := orFailEach_healthy hsvc
    (w.extend [(.deleteWhenExist ⟨.statefulSet, keys.statefulSet cr.objKey⟩, none)]) (by simpa using hw)
  simp only [deleteRes, orFail, Rec.bind_apply, hdel, hl, World.extend_fail, hw, Rec.pure_apply,
    World.extend_extend]
  exact ⟨_, rfl⟩

/-- **The delete path.** When it returns without error, every object of the role
is gone and nothing else has changed, whatever the oracle. -/
theorem deleteRes_clears (keys : RoleKeys) (st : RoleStages) (cr : DorisCluster) (w : World)
    {r : ClusterStageRecResult} (h : (deleteRes keys st cr w).1 = .ret r) (herr : r.err = none) :
    ∃ p, (deleteRes keys st cr w).2 = w.extend p ∧
      ∀ ref, (replay p w.store).objects ref =
        if ref ∈ keys.refs cr.objKey then none else w.store.objects ref := by
  obtain ⟨p, hw, -, hc, -, -, hret⟩ := @deleteRes_follows (fun _ => True) keys st cr w fun _ _ => trivial
  obtain ⟨hf, hfull⟩ := hret r h
  have hcalls : deleteCalls keys cr.objKey = (ObjRef.mk .statefulSet (keys.statefulSet cr.objKey) ::
      keys.services.map (fun key => ObjRef.mk .service (key cr.objKey)) ++
      [ObjRef.mk .configMap (keys.configMap cr.objKey)]).map .deleteWhenExist := by
    simp [deleteCalls]
  refine ⟨p, hw, fun ref => ?_⟩
  rw [replay_deletes (hc.all_none (hf ▸ herr)) ((hfull herr).trans hcalls)]
  refine if_congr ?_ rfl rfl
  simp only [RoleKeys.refs, List.cons_append, List.mem_cons, List.mem_append, List.mem_singleton,
    List.not_mem_nil, or_false]
  exact (or_congr_right or_comm).trans (or_left_comm.trans (or_congr_right or_comm))

/-- What a role stage does to the store when it succeeds: the role converges to
`declared`, and no object but the role's changes. -/
def RoleStep (keys : RoleKeys) (declared : Option (List Obj)) (present : Bool) (k : NamespacedName)
    (S S' : Store) : Prop :=
  RoleConverged keys declared present k S.objects S'.objects ∧ ∀ r ∉ keys.refs k, S'.objects r = S.objects r

/-- **A role stage against a healthy store.** When the role is not declared, or
its builders build everything, the stage succeeds, the role converges, and no
object but the role's changes; otherwise the stage panics. -/
theorem recRoleResources_healthy {keys : RoleKeys} (t : RoleTransformer keys) (st : RoleStages)
    (annotationKey : String) (mapMd5 : StrMap → String) {A : NamespacedName → Option DorisAutoScaler}
    {adjust : StatefulSet → Rec (Except Error StatefulSet)} {finish : StatefulSet → StatefulSet}
    (present : Bool) (cr : DorisCluster) (hadj : AdjustRuns A adjust finish)
    (hfin : ∀ s, (finish s).metadata.key = s.metadata.key) (hnd : (keys.refs cr.objKey).Nodup) :
    StageRuns A (!present || t.built cr) (RoleStep keys (t.declared annotationKey mapMd5 finish cr) present cr.objKey)
      (recRoleResources t st annotationKey mapMd5 adjust present cr) := by
  intro w hw hA
  cases present with
  | false =>
    obtain ⟨p, hp⟩ := deleteRes_healthy keys st cr w hw
    obtain ⟨p', hp', hobj⟩ := deleteRes_clears keys st cr w (congrArg Prod.fst hp) rfl
    obtain rfl := World.extend_log_inj ((congrArg Prod.snd hp).symm.trans hp')
    simp only [Bool.not_false, Bool.true_or, ↓reduceIte, RoleStep, RoleConverged, Bool.false_eq_true]
    exact ⟨_, p, rfl, hp, fun ref href => by rw [hobj, if_pos href], fun ref href => by rw [hobj, if_neg href]⟩
  | true =>
    have happ := applyRes_healthy t st annotationKey mapMd5 hadj cr w hw hA
    simp only [Bool.not_true, Bool.false_or]
    by_cases hb : t.built cr
    · rw [if_pos hb] at happ ⊢
      obtain ⟨objs, p, hd, hp, hrep⟩ := happ
      have hrefs := t.declared_refs annotationKey mapMd5 hfin cr hd
      have hW := replay_writes (hrefs ▸ hnd) w.store
      refine ⟨_, p, rfl, hp, ?_, fun ref href => hrep ▸ hW.2 ref (hrefs ▸ href)⟩
      simp only [RoleConverged, ↓reduceIte, hrep]
      exact ⟨objs, hd, hrefs, hW.1⟩
    · rw [if_neg hb] at happ ⊢
      exact happ

/-! ### A pass against a healthy store -/

/-- The relations `Rs` applied one after another. -/
def Chain : List (Store → Store → Prop) → Store → Store → Prop
  | [], S, S' => S' = S
  | R :: Rs, S, S'' => ∃ S', R S S' ∧ Chain Rs S' S''

/-- A stage of a pass, with what it does against a healthy store whose bindings
are `A`. -/
structure HealthyStage (A : NamespacedName → Option DorisAutoScaler) where
  run : Rec ClusterStageRecResult
  completes : Bool
  rel : Store → Store → Prop
  runs : StageRuns A completes rel run

theorem runStages_cons_succ {fn : Rec ClusterStageRecResult} {fns : List (Rec ClusterStageRecResult)}
    {w w' : World} {r₀ : ClusterStageRecResult} (h : fn w = (.ret r₀, w')) (hr : r₀.err = none) :
    runStages (fn :: fns) w = runStages fns w' := by
  simp [runStages, Rec.bind_apply, h, hr]

theorem runStages_cons_panic {fn : Rec ClusterStageRecResult} {fns : List (Rec ClusterStageRecResult)}
    {w w' : World} {m : String} (h : fn w = (.panic m, w')) : runStages (fn :: fns) w = (.panic m, w') := by
  simp [runStages, Rec.bind_apply, h]

/-- **The loop of `Reconcile` against a healthy store.** When every stage
completes, the loop completes and relates the stores by the stages' relations in
turn; otherwise it panics at the first stage that does not. -/
theorem runStages_healthy {A : NamespacedName → Option DorisAutoScaler} (stages : List (HealthyStage A))
    (w : World) (hw : w.fail = healthy) (hA : w.store.autoScalers = A) :
    if stages.all (·.completes) then
      ∃ p, runStages (stages.map (·.run)) w = (.ret completeResult, w.extend p) ∧
        Chain (stages.map (·.rel)) w.store (replay p w.store)
    else ∃ m w', runStages (stages.map (·.run)) w = (.panic m, w') := by
  induction stages generalizing w with
  | nil => exact ⟨[], by simp [runStages], rfl⟩
  | cons st stages ih =>
    have H := st.runs w hw hA
    rw [List.map_cons, List.all_cons]
    cases hb : st.completes
    · rw [hb, if_neg Bool.false_ne_true] at H
      obtain ⟨m, w', e⟩ := H
      exact ⟨m, w', runStages_cons_panic e⟩
    · rw [hb, if_pos rfl] at H
      obtain ⟨r, p, hr, e, hR⟩ := H
      have ih' := ih (w.extend p) (by simpa using hw) (by simpa using hA)
      rw [runStages_cons_succ e hr, Bool.true_and]
      split
      · next hall =>
        obtain ⟨q, eq, hq⟩ := (if_pos hall).mp ih'
        exact ⟨p ++ q, by rw [eq, World.extend_extend], _, hR, by rwa [replay_append]⟩
      · next hall => exact (if_neg hall).mp ih'

/-- Whether every declared role's builders build everything its apply path
writes. -/
def rolesBuilt (env : ReconcileEnv) (cr : DorisCluster) : Bool :=
  (!cr.spec.fe.isSome || feTransformer.built cr) && (!cr.spec.be.isSome || env.be.built cr) &&
    (!cr.spec.cn.isSome || env.cn.built cr) && (!cr.spec.broker.isSome || env.broker.built cr)

/-- The stages of a pass against a healthy store whose bindings are `A`, each
with what it does there. -/
def healthyStages (env : ReconcileEnv) (cr : DorisCluster) (A : NamespacedName → Option DorisAutoScaler) :
    List (HealthyStage A) :=
  [⟨_, _, _, recOprAccountSecret_runs env cr A⟩,
    ⟨_, _, _, recRoleResources_healthy feTransformer feStages (feConfHashAnnotationKey env.group) env.mapMd5
      cr.spec.fe.isSome cr (keepStatefulSet_healthy A) (fun _ => rfl) (roleKeys_refs_nodup cr.objKey).1⟩,
    ⟨_, _, _, recRoleResources_healthy env.be beStages (beConfHashAnnotationKey env.group) env.mapMd5
      cr.spec.be.isSome cr (keepStatefulSet_healthy A) (fun _ => rfl) (roleKeys_refs_nodup cr.objKey).2.1⟩,
    ⟨_, _, _, recRoleResources_healthy env.cn cnStages (cnConfHashAnnotationKey env.group) env.mapMd5
      cr.spec.cn.isSome cr (cnAutoScalerAdjust_healthy cr A) (cnFinish_key _) (roleKeys_refs_nodup cr.objKey).2.2.1⟩,
    ⟨_, _, _, recRoleResources_healthy env.broker brokerStages (brokerConfHashAnnotationKey env.group)
      env.mapMd5 cr.spec.broker.isSome cr (keepStatefulSet_healthy A) (fun _ => rfl)
      (roleKeys_refs_nodup cr.objKey).2.2.2⟩]

/-- **A pass against a healthy store.** When every declared role is built, the
pass completes, and the stores before and after are related by what the Secret
stage and each role stage do; otherwise it panics. -/
theorem reconcile_healthy_run (env : ReconcileEnv) (cr : DorisCluster) (S : Store) :
    if rolesBuilt env cr then
      (reconcile env cr ⟨S, [], healthy⟩).1 = .ret completeResult ∧
        Chain ((healthyStages env cr S.autoScalers).map (·.rel)) S (reconcile env cr ⟨S, [], healthy⟩).2.store
    else ∃ m, (reconcile env cr ⟨S, [], healthy⟩).1 = .panic m := by
  have H := runStages_healthy (healthyStages env cr S.autoScalers) ⟨S, [], healthy⟩ rfl rfl
  have hall : (healthyStages env cr S.autoScalers).all (·.completes) = rolesBuilt env cr := by
    simp [healthyStages, rolesBuilt, Bool.and_assoc]
  have hrun : reconcile env cr = runStages ((healthyStages env cr S.autoScalers).map (·.run)) := rfl
  rw [hall, ← hrun] at H
  split
  · next hb =>
    obtain ⟨p, e, hc⟩ := (if_pos hb).mp H
    rw [e]
    exact ⟨rfl, hc⟩
  · next hb =>
    obtain ⟨m, w', e⟩ := (if_neg hb).mp H
    exact ⟨m, by rw [e]⟩

/-- **When a pass against a healthy store completes.** It completes exactly when
every declared role's builders build everything the role's apply path writes;
otherwise it panics. -/
theorem reconcile_healthy_completes (env : ReconcileEnv) (cr : DorisCluster) (S : Store) :
    ((reconcile env cr ⟨S, [], healthy⟩).1 = .ret completeResult ↔ rolesBuilt env cr = true) ∧
    (rolesBuilt env cr = false → ∃ m, (reconcile env cr ⟨S, [], healthy⟩).1 = .panic m) := by
  have H := reconcile_healthy_run env cr S
  cases hb : rolesBuilt env cr
  · rw [hb, if_neg Bool.false_ne_true] at H
    obtain ⟨m, hm⟩ := H
    exact ⟨by simp [hm], fun _ => ⟨m, hm⟩⟩
  · rw [hb, if_pos rfl] at H
    exact ⟨by simp [H.1], fun h => nomatch h⟩

/-- **The calls of a completed healthy pass.** When every declared role is built,
a healthy pass makes the whole canonical sequence of calls, every one of them
successful. -/
theorem reconcile_log_of_built (env : ReconcileEnv) (cr : DorisCluster) (S : Store)
    (hb : rolesBuilt env cr = true) :
    ∃ p, (reconcile env cr ⟨S, [], healthy⟩).2 = World.extend ⟨S, [], healthy⟩ p ∧ (∀ e ∈ p, e.2 = none) ∧
      p.map (·.1.shape) = canonicalCalls cr (S.present (oprSecretRef cr.objKey)) := by
  obtain ⟨hc, -⟩ := (if_pos hb).mp (reconcile_healthy_run env cr S)
  obtain ⟨p, hw, -, hclean, -, -, hret⟩ := reconcile_follows_canonical env cr ⟨S, [], healthy⟩
  obtain ⟨hf, hcalls⟩ := hret _ hc
  exact ⟨p, hw, hclean.all_none hf.symm, hcalls rfl⟩

/-- **What a completed healthy pass leaves**: the objects the canonical calls
leave. -/
theorem reconcile_present_of_built (env : ReconcileEnv) (cr : DorisCluster) (S : Store)
    (hb : rolesBuilt env cr = true) :
    (reconcile env cr ⟨S, [], healthy⟩).2.store.present =
      effects (canonicalCalls cr (S.present (oprSecretRef cr.objKey))) S.present := by
  obtain ⟨p, hw, hok, hcalls⟩ := reconcile_log_of_built env cr S hb
  rw [hw, World.extend_store, present_replay_of_succeeded hok, hcalls]

/-- The store a healthy pass of `builtCluster` leaves on the empty store. -/
def builtStore : Store := (reconcile plainEnv builtCluster ⟨Store.empty, [], healthy⟩).2.store

theorem builtStore_present : builtStore.present = effects (canonicalCalls builtCluster false) Store.empty.present :=
  reconcile_present_of_built plainEnv builtCluster Store.empty (by decide)

example : builtStore.present ⟨.statefulSet, beKeys.statefulSet builtCluster.objKey⟩ = true := by
  rw [builtStore_present]
  decide

/-! ### The sequence in the design's words -/

/-- The Broker's objects in the design's words, which give every role a client
Service besides its peer Service. -/
def brokerKeysInDesign : RoleKeys :=
  { brokerKeys with services := [roleKey "-broker", getBrokerPeerServiceKey] }

/-- The sequence of a pass in the design's words: as `DorisOperator.canonicalCalls`,
with a client Service in the Broker's blocks. -/
def designCalls (cr : DorisCluster) (secretFound : Bool) : List CallShape :=
  secretCalls cr.objKey secretFound ++
    roleCalls feKeys [] cr.spec.fe.isSome cr.objKey ++
    roleCalls beKeys [] cr.spec.be.isSome cr.objKey ++
    roleCalls cnKeys [.findRefDorisAutoScaler cr.objKey] cr.spec.cn.isSome cr.objKey ++
    roleCalls brokerKeysInDesign [] cr.spec.broker.isSome cr.objKey

/-- The healthy pass of `doris`, which declares no role, on the empty store logs
the seventeen canonical calls, and they are no prefix of the design's sequence:
the Broker's delete block deletes the peer Service right after the StatefulSet. -/
theorem healthy_pass_leaves_designCalls :
    (reconcile feOnlyEnv emptyCluster ⟨Store.empty, [], healthy⟩).2.log.length = 17 ∧
    ¬ (reconcile feOnlyEnv emptyCluster ⟨Store.empty, [], healthy⟩).2.log.map (·.1.shape) <+:
      designCalls emptyCluster false := by
  obtain ⟨p, hw, -, hcalls⟩ := reconcile_log_of_built feOnlyEnv emptyCluster Store.empty (by decide)
  rw [hw, World.extend_log, List.nil_append, ← List.length_map p (·.1.shape), hcalls]
  decide

end DorisOperator
