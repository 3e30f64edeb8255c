import Mathlib.Data.List.Forall2
import Mathlib.Data.List.Nodup
import DorisOperator.Reconciler.Follows

/-!
# The calls of a pass

The design fixes the order of a pass: the Secret's existence check, and its
creation when absent; then, for FE, BE, CN and Broker in turn, the role's apply
calls – its ConfigMap, its Services, for the CN the autoscaler lookup, its
StatefulSet – when the role is declared, or its delete calls – StatefulSet,
Services, ConfigMap – when it is not. `DorisOperator.canonicalCalls` writes this
sequence down with the Services each role of the code has: the Broker has a peer
Service and no client Service, where the design's words give every role both
(`DorisOperator.designCalls`, which no pass follows).

Each stage follows its part of the sequence (`DorisOperator.recOprAccountSecret_follows`,
`DorisOperator.recRoleResources_follows`), and the stage loop glues them
together (`DorisOperator.reconcile_follows`). Read back on a pass from an empty
log, this is `DorisOperator.reconcile_calls`: whatever the cluster, the store and
the failures, a pass issues a prefix of the canonical sequence, stops right after
the first call that fails, and – when it returns – reports that call's error, or
the complete result when there was none.
-/

namespace DorisOperator

/-! ### The canonical sequence -/

/-- The calls of the Secret stage: the existence check, then the creation when
the Secret was not found. -/
def secretCalls (k : NamespacedName) (found : Bool) : List CallShape :=
  .exist ⟨.secret, getOprSqlAccountSecretKey k⟩ ::
    if found then [] else [.create ⟨.secret, getOprSqlAccountSecretKey k⟩]

/-- The calls of a role's apply path; `lookups` are those it makes between
building its StatefulSet and writing it. -/
def applyCalls (keys : RoleKeys) (lookups : List CallShape) (k : NamespacedName) : List CallShape :=
  .createOrUpdate ⟨.configMap, keys.configMap k⟩ ::
    keys.services.map (fun key => .createOrUpdate ⟨.service, key k⟩) ++ lookups ++
    [.createOrUpdate ⟨.statefulSet, keys.statefulSet k⟩]

/-- The calls of a role's delete path. -/
def deleteCalls (keys : RoleKeys) (k : NamespacedName) : List CallShape :=
  .deleteWhenExist ⟨.statefulSet, keys.statefulSet k⟩ ::
    keys.services.map (fun key => .deleteWhenExist ⟨.service, key k⟩) ++
    [.deleteWhenExist ⟨.configMap, keys.configMap k⟩]

/-- The objects of a role: its ConfigMap, its Services and its StatefulSet. -/
def RoleKeys.refs (keys : RoleKeys) (k : NamespacedName) : List ObjRef :=
  ⟨.configMap, keys.configMap k⟩ :: keys.services.map (fun key => ⟨.service, key k⟩) ++
    [⟨.statefulSet, keys.statefulSet k⟩]

def roleCalls (keys : RoleKeys) (lookups : List CallShape) (present : Bool) (k : NamespacedName) :
    List CallShape :=
  if present then applyCalls keys lookups k else deleteCalls keys k

/-- **The canonical sequence of a pass**, given whether the Secret exists: the
design's order, each role's blocks naming the objects of its `RoleKeys`. The
Broker's blocks name its peer Service only, as `recBrokerResources` writes and
deletes no client Service. -/
def canonicalCalls (cr : DorisCluster) (secretFound : Bool) : List CallShape :=
  secretCalls cr.objKey secretFound ++
    roleCalls feKeys [] cr.spec.fe.isSome cr.objKey ++
    roleCalls beKeys [] cr.spec.be.isSome cr.objKey ++
    roleCalls cnKeys [.findRefDorisAutoScaler cr.objKey] cr.spec.cn.isSome cr.objKey ++
    roleCalls brokerKeys [] cr.spec.broker.isSome cr.objKey

/-! ### The identities of one cluster -/

/-- The Secret holding the operator's SQL account, of the cluster `k`. -/
def oprSecretRef (k : NamespacedName) : ObjRef := ⟨.secret, getOprSqlAccountSecretKey k⟩

/-- The identity of the given kind and suffix, of the cluster `k`. -/
def refAt (k : NamespacedName) (p : Kind × String) : ObjRef := ⟨p.1, roleKey p.2 k⟩

theorem refAt_inj {k : NamespacedName} {p p' : Kind × String} (h : refAt k p = refAt k p') : p = p' := by
  simp only [refAt, ObjRef.mk.injEq] at h
  exact Prod.ext h.1 (roleKey_inj h.2)

/-- The kinds and suffixes of the objects of each role, in the order of
`DorisOperator.RoleKeys.refs`. -/
def feSuffixes : List (Kind × String) :=
  [(.configMap, "-fe-config"), (.service, "-fe"), (.service, "-fe-peer"), (.statefulSet, "-fe")]

def beSuffixes : List (Kind × String) :=
  [(.configMap, "-be-config"), (.service, "-be"), (.service, "-be-peer"), (.statefulSet, "-be")]

def cnSuffixes : List (Kind × String) :=
  [(.configMap, "-cn-config"), (.service, "-cn"), (.service, "-cn-peer"), (.statefulSet, "-cn")]

def brokerSuffixes : List (Kind × String) :=
  [(.configMap, "-broker-config"), (.service, "-broker-peer"), (.statefulSet, "-broker")]

theorem feKeys_refs (k : NamespacedName) : feKeys.refs k = feSuffixes.map (refAt k) := rfl

theorem beKeys_refs (k : NamespacedName) : beKeys.refs k = beSuffixes.map (refAt k) := rfl

theorem cnKeys_refs (k : NamespacedName) : cnKeys.refs k = cnSuffixes.map (refAt k) := rfl

theorem brokerKeys_refs (k : NamespacedName) : brokerKeys.refs k = brokerSuffixes.map (refAt k) := rfl

theorem oprSecretRef_not_mem_refs (R : RoleKeys) (k : NamespacedName) : oprSecretRef k ∉ R.refs k := by
  simp [RoleKeys.refs, oprSecretRef]

/-- The identities of each role are pairwise different. -/
theorem roleKeys_refs_nodup (k : NamespacedName) :
    (feKeys.refs k).Nodup ∧ (beKeys.refs k).Nodup ∧ (cnKeys.refs k).Nodup ∧ (brokerKeys.refs k).Nodup :=
  have h (L : List (Kind × String)) (hL : L.Nodup) : (L.map (refAt k)).Nodup := hL.map fun _ _ => refAt_inj
  ⟨h feSuffixes (by decide), h beSuffixes (by decide), h cnSuffixes (by decide), h brokerSuffixes (by decide)⟩

/-! ### Each stage follows its calls -/

section Stages

variable {ok : Call → Prop}

theorem exist_ret {ref : ObjRef} {w : World} {found : Bool} (h : (exist ref w).1 = .ret (.ok found)) :
    found = (w.store.objects ref).isSome := by
  simp only [exist, issue, Rec.bind_apply] at h
  rcases hv : w.fail w.log (.exist ref) with _ | e <;>
    simp [hv, Rec.bind_apply, replay, Call.apply] at h
  exact h.symm

theorem recOprAccountSecret_follows (env : ReconcileEnv) (cr : DorisCluster) (w : World)
    (hex : ok (.exist ⟨.secret, getOprSqlAccountSecretKey cr.objKey⟩))
    (hcr : ok (.create (.secret (env.makeOprSqlAccountSecret cr)))) :
    Follows ok (·.err) (recOprAccountSecret env cr) w
      (secretCalls cr.objKey (w.store.objects ⟨.secret, getOprSqlAccountSecretKey cr.objKey⟩).isSome) := by
  unfold recOprAccountSecret secretCalls
  rw [← List.singleton_append]
  refine (follows_lookup _ _ w hex).bind (fun a p hx ha => ?_) (fun a er w' ha => ?_)
  · rcases a with e | found
    · cases ha
    have hfound := exist_ret (congrArg Prod.fst hx)
    subst hfound
    cases (w.store.objects ⟨.secret, getOprSqlAccountSecretKey cr.objKey⟩).isSome
    · exact follows_orFail (follows_issue_shape _ (by simp [Call.shape, Obj.ref, env.secret_named]) hcr)
        fun _ => follows_pure _ _ rfl
    · exact follows_pure _ _ rfl
  · rcases a with e | found
    · cases ha
      exact ⟨_, rfl, rfl⟩
    · cases ha

theorem deleteRes_follows (keys : RoleKeys) (st : RoleStages) (cr : DorisCluster) (w : World)
    (hdel : ∀ r ∈ keys.refs cr.objKey, ok (.deleteWhenExist r)) :
    Follows ok (·.err) (deleteRes keys st cr) w (deleteCalls keys cr.objKey) := by
  have hcs : deleteCalls keys cr.objKey =
      [.deleteWhenExist ⟨.statefulSet, keys.statefulSet cr.objKey⟩] ++
        (keys.services.map (fun key => .deleteWhenExist ⟨.service, key cr.objKey⟩) ++
          ([.deleteWhenExist ⟨.configMap, keys.configMap cr.objKey⟩] ++ [])) := by
    simp [deleteCalls]
  rw [hcs]
  exact follows_orFail (follows_issue _ _ (hdel _ (by simp [RoleKeys.refs]))) fun _ =>
    follows_orFailEach (List.forall₂_map_left_iff.mpr (List.forall₂_map_right_iff.mpr
      (List.forall₂_same.mpr fun key hkey _ =>
        follows_issue _ _ (hdel _ (by simp [RoleKeys.refs]; exact ⟨key, hkey, rfl⟩))))) fun _ =>
    follows_orFail (follows_issue _ _ (hdel _ (by simp [RoleKeys.refs]))) fun _ => follows_pure _ _ rfl

theorem applyRes_follows {keys : RoleKeys} (t : RoleTransformer keys) (st : RoleStages)
    (annotationKey : String) (mapMd5 : StrMap → String)
    (adjust : StatefulSet → Rec (Except Error StatefulSet)) (lookups : List CallShape)
    (cr : DorisCluster) (w : World)
    (hcm : ∀ cm, ok (.createOrUpdate (.configMap cm)))
    (hsvc : ∀ s, ok (.createOrUpdate (.service s)))
    (hadj : ∀ s p, Follows ok exceptErr (adjust s) (w.extend p) lookups)
    (hout : ∀ cm s₀ m p s', t.makeConfigMap cr = some cm → t.makeStatefulSet cr = some s₀ →
      s₀.metadata.annotations = some m →
      (adjust { s₀ with metadata.annotations := some (m.insert annotationKey (mapMd5 cm.data)) }
        (w.extend p)).1 = .ret (.ok s') →
      s'.metadata.key = s₀.metadata.key ∧ ok (.createOrUpdate (.statefulSet s'))) :
    Follows ok (·.err) (applyRes t st annotationKey mapMd5 adjust cr) w
      (applyCalls keys lookups cr.objKey) := by
  have hcs : applyCalls keys lookups cr.objKey =
      [.createOrUpdate ⟨.configMap, keys.configMap cr.objKey⟩] ++
        (keys.services.map (fun key => .createOrUpdate ⟨.service, key cr.objKey⟩) ++
          (lookups ++ ([.createOrUpdate ⟨.statefulSet, keys.statefulSet cr.objKey⟩] ++ []))) := by
    simp [applyCalls]
  rw [hcs]
  unfold applyRes
  refine follows_quiet (deref_world _ w) fun cm hcm' => ?_
  have hcmk := t.configMap_named cr cm (deref_ret hcm')
  refine follows_orFail (follows_issue_shape w (by simp [Call.shape, Obj.ref, hcmk]) (hcm cm))
    fun p => follows_orFailEach ?_ fun q => ?_
  · refine List.forall₂_map_left_iff.mpr (List.forall₂_map_right_iff.mpr
      (t.services_named.imp fun mk key hnamed w' => ?_))
    exact follows_quiet (deref_world _ _) fun s hs => follows_issue_shape _
      (by simp [Call.shape, Obj.ref, hnamed cr s (deref_ret hs)]) (hsvc s)
  · rw [World.extend_extend]
    refine follows_quiet (deref_world _ _) fun sts hsts => ?_
    refine follows_quiet (setAnnotationEntry_world _ _ _ _) fun sts' hann => ?_
    obtain ⟨m, hm, rfl⟩ := setAnnotationEntry_ret hann
    have hkey : sts.metadata.key = keys.statefulSet cr.objKey := t.statefulSet_named cr sts (deref_ret hsts)
    refine (hadj _ (p ++ q)).bind (fun r p' hr hre => ?_) (fun r er w' hre => ?_)
    · rcases r with e | s'
      · cases hre
      obtain ⟨hk, hok⟩ := hout cm sts m (p ++ q) s' (deref_ret hcm') (deref_ret hsts) hm (by rw [hr])
      rw [World.extend_extend]
      exact follows_orFail (follows_issue_shape _ (by simp [Call.shape, Obj.ref, hk, hkey]) hok)
        fun _ => follows_pure _ _ rfl
    · rcases r with e | s'
      · cases hre
        exact ⟨_, rfl, rfl⟩
      · cases hre

theorem recRoleResources_follows {keys : RoleKeys} (t : RoleTransformer keys) (st : RoleStages)
    (annotationKey : String) (mapMd5 : StrMap → String)
    (adjust : StatefulSet → Rec (Except Error StatefulSet)) (lookups : List CallShape)
    (present : Bool) (cr : DorisCluster) (w : World)
    (hcm : ∀ cm, ok (.createOrUpdate (.configMap cm)))
    (hsvc : ∀ s, ok (.createOrUpdate (.service s)))
    (hadj : ∀ s p, Follows ok exceptErr (adjust s) (w.extend p) lookups)
    (hout : ∀ cm s₀ m p s', t.makeConfigMap cr = some cm → t.makeStatefulSet cr = some s₀ →
      s₀.metadata.annotations = some m →
      (adjust { s₀ with metadata.annotations := some (m.insert annotationKey (mapMd5 cm.data)) }
        (w.extend p)).1 = .ret (.ok s') →
      s'.metadata.key = s₀.metadata.key ∧ ok (.createOrUpdate (.statefulSet s')))
    (hdel : present = false → ∀ r ∈ keys.refs cr.objKey, ok (.deleteWhenExist r)) :
    Follows ok (·.err) (recRoleResources t st annotationKey mapMd5 adjust present cr) w
      (roleCalls keys lookups present cr.objKey) := by
  cases present
  · exact deleteRes_follows keys st cr w (hdel rfl)
  · exact applyRes_follows t st annotationKey mapMd5 adjust lookups cr w hcm hsvc hadj hout

/-! ### The two ways a role treats its StatefulSet -/

theorem keepStatefulSet_ret {s s' : StatefulSet} {w : World}
    (h : (keepStatefulSet s w).1 = .ret (.ok s')) : s' = s := by
  cases h
  rfl

theorem cnAutoScalerAdjust_follows (cr : DorisCluster) (s : StatefulSet) (w : World)
    (hc : ok (.findRefDorisAutoScaler cr.objKey)) :
    Follows ok exceptErr (cnAutoScalerAdjust cr s) w [.findRefDorisAutoScaler cr.objKey] := by
  unfold cnAutoScalerAdjust
  rw [← List.append_nil [CallShape.findRefDorisAutoScaler cr.objKey]]
  refine (follows_lookup _ _ w hc).bind (fun a p _ ha => ?_) (fun a er w' ha => ?_) <;>
    rcases a with e | a <;> cases ha
  · exact follows_pure _ _ rfl
  · exact ⟨_, rfl, rfl⟩

/-- The CN's StatefulSet loses its replicas exactly when an autoscaler is bound
to the cluster. -/
theorem cnAutoScalerAdjust_ret {cr : DorisCluster} {s s' : StatefulSet} {w : World}
    (h : (cnAutoScalerAdjust cr s w).1 = .ret (.ok s')) :
    s' = if (w.store.autoScalers cr.objKey).isSome then { s with spec.replicas := none } else s := by
  simp only [cnAutoScalerAdjust, findRefDorisAutoScaler, issue, Rec.bind_apply] at h
  rcases hv : w.fail w.log (.findRefDorisAutoScaler cr.objKey) with _ | e <;>
    simp [hv, Rec.bind_apply] at h
  exact h.symm

/-- A role that writes its StatefulSet as built follows its calls, when every
StatefulSet it may write under the builder's identity satisfies `ok`. -/
theorem keepRole_follows {keys : RoleKeys} (t : RoleTransformer keys) (st : RoleStages)
    (annotationKey : String) (mapMd5 : StrMap → String) (present : Bool) (cr : DorisCluster)
    (w : World) (hcm : ∀ cm, ok (.createOrUpdate (.configMap cm)))
    (hsvc : ∀ s, ok (.createOrUpdate (.service s)))
    (hsts : ∀ s₀ s, t.makeStatefulSet cr = some s₀ → s₀.metadata.annotations.isSome →
      s.metadata.key = s₀.metadata.key → ok (.createOrUpdate (.statefulSet s)))
    (hdel : present = false → ∀ r ∈ keys.refs cr.objKey, ok (.deleteWhenExist r)) :
    Follows ok (·.err) (recRoleResources t st annotationKey mapMd5 keepStatefulSet present cr) w
      (roleCalls keys [] present cr.objKey) :=
  recRoleResources_follows t st annotationKey mapMd5 keepStatefulSet [] present cr w hcm hsvc
    (fun _ _ => follows_pure _ _ rfl)
    (fun _ s₀ _ _ _ _ hs₀ hm h => by
      rw [keepStatefulSet_ret h]
      exact ⟨rfl, hsts s₀ _ hs₀ (by simp [hm]) rfl⟩) hdel

/-- The CN follows its calls, the lookup included, when every StatefulSet it may
write under the builder's identity – without replicas when an autoscaler is
bound – satisfies `ok`. -/
theorem cnRole_follows {keys : RoleKeys} (t : RoleTransformer keys) (st : RoleStages)
    (annotationKey : String) (mapMd5 : StrMap → String) (present : Bool) (cr : DorisCluster)
    (w : World) (hcm : ∀ cm, ok (.createOrUpdate (.configMap cm)))
    (hsvc : ∀ s, ok (.createOrUpdate (.service s))) (hfind : ok (.findRefDorisAutoScaler cr.objKey))
    (hsts : ∀ s₀ s, t.makeStatefulSet cr = some s₀ → s₀.metadata.annotations.isSome →
      s.metadata.key = s₀.metadata.key →
      ((w.store.autoScalers cr.objKey).isSome → s.spec.replicas = none) →
      ok (.createOrUpdate (.statefulSet s)))
    (hdel : present = false → ∀ r ∈ keys.refs cr.objKey, ok (.deleteWhenExist r)) :
    Follows ok (·.err) (recRoleResources t st annotationKey mapMd5 (cnAutoScalerAdjust cr) present cr) w
      (roleCalls keys [.findRefDorisAutoScaler cr.objKey] present cr.objKey) :=
  recRoleResources_follows t st annotationKey mapMd5 _ _ present cr w hcm hsvc
    (fun s _ => cnAutoScalerAdjust_follows cr s _ hfind)
    (fun _ s₀ _ _ _ _ hs₀ hm h => by
      rw [cnAutoScalerAdjust_ret h, World.extend_store, replay_autoScalers]
      split
      · exact ⟨rfl, hsts s₀ _ hs₀ (by simp [hm]) rfl fun _ => rfl⟩
      · exact ⟨rfl, hsts s₀ _ hs₀ (by simp [hm]) rfl fun hb => absurd hb ‹_›⟩) hdel

end Stages

/-! ### A whole pass -/

theorem reconcile_follows {ok : Call → Prop} (env : ReconcileEnv) (cr : DorisCluster) (w : World)
    {cs₀ cs₁ cs₂ cs₃ cs₄ : List CallShape}
    (h₀ : Follows ok (·.err) (recOprAccountSecret env cr) w cs₀)
    (h₁ : ∀ p, Follows ok (·.err) (recFeResources env cr) (w.extend p) cs₁)
    (h₂ : ∀ p, Follows ok (·.err) (recBeResources env cr) (w.extend p) cs₂)
    (h₃ : ∀ p, Follows ok (·.err) (recCnResources env cr) (w.extend p) cs₃)
    (h₄ : ∀ p, Follows ok (·.err) (recBrokerResources env cr) (w.extend p) cs₄) :
    Follows ok (·.err) (reconcile env cr) w (cs₀ ++ cs₁ ++ cs₂ ++ cs₃ ++ cs₄) := by
  simp only [List.append_assoc]
  rw [← List.append_nil cs₄]
  refine follows_runStages_cons h₀ fun p₁ => follows_runStages_cons (h₁ p₁) fun p₂ => ?_
  rw [World.extend_extend]
  refine follows_runStages_cons (h₂ _) fun p₃ => ?_
  rw [World.extend_extend]
  refine follows_runStages_cons (h₃ _) fun p₄ => ?_
  rw [World.extend_extend]
  exact follows_runStages_cons (h₄ _) fun _ => follows_runStages_nil _

/-- Every pass follows the canonical sequence. -/
theorem reconcile_follows_canonical (env : ReconcileEnv) (cr : DorisCluster) (w : World) :
    Follows (fun _ => True) (·.err) (reconcile env cr) w
      (canonicalCalls cr (w.store.objects ⟨.secret, getOprSqlAccountSecretKey cr.objKey⟩).isSome) := by
  exact reconcile_follows env cr w (recOprAccountSecret_follows env cr w trivial trivial)
    (fun _ => keepRole_follows _ _ _ _ _ cr _ (fun _ => trivial) (fun _ => trivial)
      (fun _ _ _ _ _ => trivial) fun _ _ _ => trivial)
    (fun _ => keepRole_follows _ _ _ _ _ cr _ (fun _ => trivial) (fun _ => trivial)
      (fun _ _ _ _ _ => trivial) fun _ _ _ => trivial)
    (fun _ => cnRole_follows _ _ _ _ _ cr _ (fun _ => trivial) (fun _ => trivial) trivial
      (fun _ _ _ _ _ _ => trivial) fun _ _ _ => trivial)
    (fun _ => keepRole_follows _ _ _ _ _ cr _ (fun _ => trivial) (fun _ => trivial)
      (fun _ _ _ _ _ => trivial) fun _ _ _ => trivial)

/-- A pass that returns without error returns the complete result. -/
theorem runStages_complete {fns : List (Rec ClusterStageRecResult)} {w : World}
    {r : ClusterStageRecResult} (h : (runStages fns w).1 = .ret r) (hr : r.err = none) :
    r = completeResult := by
  induction fns generalizing w with
  | nil =>
    cases h
    rfl
  | cons fn fns ih =>
    simp only [runStages, Rec.bind_apply] at h
    rcases hfn : fn w with ⟨r₀ | m, w'⟩ <;> rw [hfn] at h
    · by_cases h₀ : r₀.err.isSome
      · simp only [h₀, if_true, Rec.pure_apply] at h
        cases h
        simp [hr] at h₀
      · simp only [h₀] at h
        exact ih h
    · cases h

/-- **The calls of a pass.** For every cluster, store and oracle, the calls a
pass logs carry the oracle's verdicts, all succeed but perhaps the last, and
form a prefix of the canonical sequence; and when the pass returns, its error is
the last call's verdict – and if that is nil, the pass made every canonical call
and returns the complete result. -/
theorem reconcile_calls (env : ReconcileEnv) (cr : DorisCluster) (S : Store) (fail : Oracle) :
    let run := reconcile env cr ⟨S, [], fail⟩
    let canonical := canonicalCalls cr (S.objects ⟨.secret, getOprSqlAccountSecretKey cr.objKey⟩).isSome
    Judged fail [] run.2.log ∧ run.2.log.Clean ∧ run.2.log.map (·.1.shape) <+: canonical ∧
      ∀ r, run.1 = .ret r → r.err = run.2.log.failure ∧
        (r.err = none → run.2.log.map (·.1.shape) = canonical ∧ r = completeResult) := by
  obtain ⟨p, hw, hj, hc, -, hpre, hret⟩ := reconcile_follows_canonical env cr ⟨S, [], fail⟩
  simp only [hw, World.extend_log, List.nil_append]
  refine ⟨hj, hc, hpre, fun r hr => ⟨(hret r hr).1, fun hn => ⟨(hret r hr).2 hn, ?_⟩⟩⟩
  exact runStages_complete hr hn

end DorisOperator
