import DorisOperator.Reconciler.ConfigHash
import DorisOperator.Reconciler.Recovery

/-!
# A pass that succeeds leaves its cluster as declared

What the reconciler is for: after a pass that returns without error, every
object of the cluster holds what the cluster declares. A cluster has converged
(`DorisOperator.ClusterConverged`) when its Secret exists, created from the
builder if it was missing, when each role has converged to what it declares
(`DorisOperator.RoleConverged`), and when nothing else changed.

Against a healthy store, a pass whose declared roles are all built runs each
stage to success (`DorisOperator.reconcile_healthy_run`), and each stage changes
only its own role's identities, so the stages' effects compose: the pass leaves
its cluster converged (`DorisOperator.reconcile_healthy`). A pass that returns
without error against any oracle made no failed call
(`DorisOperator.reconcile_truncates`), so it is the healthy pass, and it has
converged (`DorisOperator.reconcile_converges`). The declared state is where
passes come to rest: it is determined by the store a pass starts from
(`DorisOperator.ClusterConverged.unique`), it is converged from itself
(`DorisOperator.ClusterConverged.self`), and a pass leaves a store as it is
exactly when the store already is as declared (`DorisOperator.reconcile_eq_self_iff`).

The FE builders leave the StatefulSet's annotations nil, so the FE is never
built, and every pass of a cluster that declares an FE panics
(`DorisOperator.fe_pass_panics`): for such a cluster the convergence holds
vacuously, and no store is a fixpoint of its healthy pass. Both results speak of
the clusters that declare no FE.
-/

namespace DorisOperator

/-! ### What a cluster declares -/

/-- **A cluster has converged** from the store `S` to the store `S'`: its Secret
exists, the one that was there or else the one its builder makes; each of its
four roles has converged; and no object but the cluster's has changed. -/
def ClusterConverged (env : ReconcileEnv) (cr : DorisCluster) (S S' : Store) : Prop :=
  S'.objects (oprSecretRef cr.objKey) =
      (S.objects (oprSecretRef cr.objKey)).or (some (.secret (env.makeOprSqlAccountSecret cr))) ∧
    RoleConverged feKeys (feTransformer.declared (feConfHashAnnotationKey env.group) env.mapMd5 id cr)
      cr.spec.fe.isSome cr.objKey S.objects S'.objects ∧
    RoleConverged beKeys (env.be.declared (beConfHashAnnotationKey env.group) env.mapMd5 id cr)
      cr.spec.be.isSome cr.objKey S.objects S'.objects ∧
    RoleConverged cnKeys (env.cn.declared (cnConfHashAnnotationKey env.group) env.mapMd5
      (cnFinish (S.autoScalers cr.objKey)) cr) cr.spec.cn.isSome cr.objKey S.objects S'.objects ∧
    RoleConverged brokerKeys (env.broker.declared (brokerConfHashAnnotationKey env.group) env.mapMd5 id cr)
      cr.spec.broker.isSome cr.objKey S.objects S'.objects ∧
    ∀ r ∉ clusterRefs cr.objKey, S'.objects r = S.objects r

/-! ### A pass against a healthy store -/

/-- The identities of each role are apart from those of every other role. -/
theorem roleRefs_apart (k : NamespacedName) :
    Apart k feKeys beKeys ∧ Apart k feKeys cnKeys ∧ Apart k feKeys brokerKeys ∧ Apart k beKeys cnKeys ∧
      Apart k beKeys brokerKeys ∧ Apart k cnKeys brokerKeys := by
  have h : (((feKeys.refs k ++ beKeys.refs k) ++ cnKeys.refs k) ++ brokerKeys.refs k).Nodup :=
    (List.nodup_cons.mp (clusterRefs_nodup k : (oprSecretRef k :: roleRefs k).Nodup)).2
  obtain ⟨h₃, -, d₃⟩ := List.nodup_append.mp h
  obtain ⟨h₂, -, d₂⟩ := List.nodup_append.mp h₃
  obtain ⟨-, -, d₁⟩ := List.nodup_append.mp h₂
  exact ⟨fun _ hr => d₁ hr, fun _ hr => d₂ (List.mem_append_left _ hr),
    fun _ hr => d₃ (List.mem_append_left _ (List.mem_append_left _ hr)),
    fun _ hr => d₂ (List.mem_append_right _ hr),
    fun _ hr => d₃ (List.mem_append_left _ (List.mem_append_right _ hr)),
    fun _ hr => d₃ (List.mem_append_right _ hr)⟩

/-- **A pass against a healthy store converges.** When every declared role is
built, a pass completes and leaves its cluster as declared. -/
theorem reconcile_healthy (env : ReconcileEnv) (cr : DorisCluster) (S : Store) (hb : rolesBuilt env cr = true) :
    (reconcile env cr ⟨S, [], healthy⟩).1 = .ret completeResult ∧
      ClusterConverged env cr S (reconcile env cr ⟨S, [], healthy⟩).2.store := by
  obtain ⟨hc, hchain⟩ := (if_pos hb).mp (reconcile_healthy_run env cr S)
  refine ⟨hc, ?_⟩
  obtain ⟨afb, afc, afr, abc, abr, acr⟩ := roleRefs_apart cr.objKey
  have sec := fun R => oprSecretRef_not_mem_refs R cr.objKey
  obtain ⟨S₁, ⟨hs, hs'⟩, S₂, ⟨hc₁, hf₁⟩, S₃, ⟨hc₂, hf₂⟩, S₄, ⟨hc₃, hf₃⟩, S₅, ⟨hc₄, hf₄⟩, hS⟩ := hchain
  rw [hS]
  -- each stage changes only its own objects, so each role's convergence carries over
  refine ⟨?_, ?_, ?_, ?_, ?_, fun r hr => ?_⟩
  · rw [hf₄ _ (sec _), hf₃ _ (sec _), hf₂ _ (sec _), hf₁ _ (sec _), hs]
  · exact hc₁.congr (fun r hr => hs' r fun h => sec feKeys (h ▸ hr))
      fun r hr => by rw [hf₄ r (afr r hr), hf₃ r (afc r hr), hf₂ r (afb r hr)]
  · exact hc₂.congr
      (fun r hr => by rw [hf₁ r (fun h => afb r h hr), hs' r fun h => sec beKeys (h ▸ hr)])
      fun r hr => by rw [hf₄ r (abr r hr), hf₃ r (abc r hr)]
  · exact hc₃.congr (fun r hr => by
        rw [hf₂ r (fun h => abc r h hr), hf₁ r (fun h => afc r h hr),
          hs' r fun h => sec cnKeys (h ▸ hr)])
      fun r hr => by rw [hf₄ r (acr r hr)]
  · exact hc₄.congr (fun r hr => by
        rw [hf₃ r (fun h => acr r h hr), hf₂ r (fun h => abr r h hr), hf₁ r (fun h => afr r h hr),
          hs' r fun h => sec brokerKeys (h ▸ hr)])
      fun _ _ => rfl
  · have hm : r ∉ oprSecretRef cr.objKey :: roleRefs cr.objKey := hr
    simp only [roleRefs, List.mem_cons, List.mem_append, not_or] at hm
    obtain ⟨h₀, ⟨⟨h₁, h₂⟩, h₃⟩, h₄⟩ := hm
    rw [hf₄ r h₄, hf₃ r h₃, hf₂ r h₂, hf₁ r h₁, hs' r h₀]

/-! ### Against any oracle -/

/-- The store a pass leaves is its log replayed. -/
theorem reconcile_store_replay (env : ReconcileEnv) (cr : DorisCluster) (S : Store) (fail : Oracle) :
    (reconcile env cr ⟨S, [], fail⟩).2.store = replay (reconcile env cr ⟨S, [], fail⟩).2.log S := by
  obtain ⟨p, hp, -⟩ := reconcile_extend env cr S fail
  rw [hp]
  rfl

/-- **A pass that returns without error leaves its cluster as declared**, whatever
the oracle: the Secret exists, the one that was there or else the one its builder
makes – a function of the cluster (`DorisOperator.ReconcileEnv.makeOprSqlAccountSecret`);
each declared role holds exactly the objects its builders make, the
StatefulSet stamped with the hash of the ConfigMap's data, its replicas left to a
bound autoscaler for the CN, each merged onto the live object; no object of an
undeclared role is left; and no other object has changed. -/
theorem reconcile_converges (env : ReconcileEnv) (cr : DorisCluster) (S : Store) (fail : Oracle)
    {r : ClusterStageRecResult} (h : (reconcile env cr ⟨S, [], fail⟩).1 = .ret r) (herr : r.err = none) :
    ClusterConverged env cr S (reconcile env cr ⟨S, [], fail⟩).2.store := by
  rcases reconcile_truncates env cr S fail with ⟨h1, hlog⟩ | ⟨a, c, e, rest, hlog, -⟩
  · rw [reconcile_store_replay, hlog, ← reconcile_store_replay]
    by_cases hb : rolesBuilt env cr = true
    · exact (reconcile_healthy env cr S hb).2
    · obtain ⟨m, hm⟩ := (if_neg hb).mp (reconcile_healthy_run env cr S)
      rw [← h1, h] at hm
      cases hm
  · -- the pass ended on a failed call, so its result carries that call's error
    obtain ⟨p, hp, -, -, -, -, hret⟩ := reconcile_follows_canonical env cr ⟨S, [], fail⟩
    have hfail := (hret r h).1
    simp only [hp, World.extend_log, List.nil_append] at hlog
    simp [hlog, Log.failure, herr] at hfail

/-- The healthy pass of `doris` declaring the BE, the CN and the Broker, on the
empty store. -/
theorem reconcile_converges_builtCluster :
    rolesBuilt plainEnv builtCluster = true ∧
    (reconcile plainEnv builtCluster ⟨Store.empty, [], healthy⟩).1 = .ret completeResult ∧
    completeResult.err = none ∧
    ClusterConverged plainEnv builtCluster Store.empty
      (reconcile plainEnv builtCluster ⟨Store.empty, [], healthy⟩).2.store := by
  have hb : rolesBuilt plainEnv builtCluster = true := by decide
  have h := ((if_pos hb).mp (reconcile_healthy_run plainEnv builtCluster Store.empty)).1
  exact ⟨hb, h, rfl, reconcile_converges plainEnv builtCluster Store.empty healthy h rfl⟩

/-! ### The declared state is the pass's fixpoint -/

/-- What a role converges to is determined by where it starts. -/
theorem RoleConverged.unique {keys : RoleKeys} {declared : Option (List Obj)} {present : Bool}
    {k : NamespacedName} {before after₁ after₂ : ObjRef → Option Obj}
    (h₁ : RoleConverged keys declared present k before after₁)
    (h₂ : RoleConverged keys declared present k before after₂) :
    ∀ r ∈ keys.refs k, after₁ r = after₂ r := by
  cases present
  · simp only [RoleConverged, Bool.false_eq_true, ↓reduceIte] at h₁ h₂
    exact fun r hr => (h₁ r hr).trans (h₂ r hr).symm
  · simp only [RoleConverged, ↓reduceIte] at h₁ h₂
    obtain ⟨objs, hd, hrefs, ho₁⟩ := h₁
    obtain ⟨objs', hd', -, ho₂⟩ := h₂
    obtain rfl := Option.some.inj (hd.symm.trans hd')
    intro r hr
    obtain ⟨o, ho, rfl⟩ := List.mem_map.mp (hrefs ▸ hr)
    rw [ho₁ o ho, ho₂ o ho]

/-- What a cluster converges to is determined by where it starts. -/
theorem ClusterConverged.unique {env : ReconcileEnv} {cr : DorisCluster} {S S₁ S₂ : Store}
    (h₁ : ClusterConverged env cr S S₁) (h₂ : ClusterConverged env cr S S₂) :
    S₁.objects = S₂.objects := by
  obtain ⟨s₁, fe₁, be₁, cn₁, br₁, o₁⟩ := h₁
  obtain ⟨s₂, fe₂, be₂, cn₂, br₂, o₂⟩ := h₂
  funext r
  by_cases hr : r ∈ clusterRefs cr.objKey
  · have hr' : r ∈ oprSecretRef cr.objKey :: roleRefs cr.objKey := hr
    simp only [roleRefs, List.mem_cons, List.mem_append] at hr'
    rcases hr' with rfl | ((hr | hr) | hr) | hr
    · rw [s₁, s₂]
    · exact fe₁.unique fe₂ r hr
    · exact be₁.unique be₂ r hr
    · exact cn₁.unique cn₂ r hr
    · exact br₁.unique br₂ r hr
  · rw [o₁ r hr, o₂ r hr]

/-- What a role has converged to, it has converged to from there. -/
theorem RoleConverged.self {keys : RoleKeys} {declared : Option (List Obj)} {present : Bool}
    {k : NamespacedName} {before after : ObjRef → Option Obj}
    (h : RoleConverged keys declared present k before after) :
    RoleConverged keys declared present k after after := by
  cases present
  · exact h
  · simp only [RoleConverged, ↓reduceIte] at h ⊢
    obtain ⟨objs, hd, hrefs, hobjs⟩ := h
    exact ⟨objs, hd, hrefs, fun o ho => by rw [hobjs o ho, Obj.mergeOnto_mergeOnto]⟩

/-- **The declared state is converged from itself**: a store a cluster has
converged to, under the same autoscaler bindings, is as the cluster declares. -/
theorem ClusterConverged.self {env : ReconcileEnv} {cr : DorisCluster} {S S' : Store}
    (h : ClusterConverged env cr S S') (hA : S'.autoScalers = S.autoScalers) : ClusterConverged env cr S' S' := by
  obtain ⟨hs, fe, be, cn, br, -⟩ := h
  refine ⟨?_, fe.self, be.self, hA ▸ cn.self, br.self, fun _ _ => rfl⟩
  rw [hs]
  cases S.objects (oprSecretRef cr.objKey) <;> rfl

/-- **The declared stores are exactly the fixpoints of a pass.** When every
declared role is built, a pass against a healthy store leaves the store as it is
exactly when the store already holds what the cluster declares. -/
theorem reconcile_eq_self_iff (env : ReconcileEnv) (cr : DorisCluster) (S : Store)
    (hb : rolesBuilt env cr = true) :
    (reconcile env cr ⟨S, [], healthy⟩).2.store = S ↔ ClusterConverged env cr S S := by
  obtain ⟨-, hconv⟩ := reconcile_healthy env cr S hb
  refine ⟨fun h => by rwa [h] at hconv, fun hS => Store.ext (hconv.unique hS) ?_⟩
  rw [reconcile_store_replay]
  exact replay_autoScalers _ _

/-- The store the healthy pass of `builtCluster` leaves is as `builtCluster`
declares, and the next healthy pass leaves it as it is. -/
theorem reconcile_eq_self_iff_builtStore :
    rolesBuilt plainEnv builtCluster = true ∧
    ClusterConverged plainEnv builtCluster builtStore builtStore ∧
    ((reconcile plainEnv builtCluster ⟨builtStore, [], healthy⟩).2.store = builtStore ↔
      ClusterConverged plainEnv builtCluster builtStore builtStore) ∧
    (reconcile plainEnv builtCluster ⟨builtStore, [], healthy⟩).2.store = builtStore := by
  have hb : rolesBuilt plainEnv builtCluster = true := by decide
  have hconv : ClusterConverged plainEnv builtCluster builtStore builtStore :=
    (reconcile_healthy plainEnv builtCluster Store.empty hb).2.self
      (by rw [reconcile_store_replay, replay_autoScalers])
  have hiff := reconcile_eq_self_iff plainEnv builtCluster builtStore hb
  exact ⟨hb, hconv, hiff, hiff.mpr hconv⟩

end DorisOperator
