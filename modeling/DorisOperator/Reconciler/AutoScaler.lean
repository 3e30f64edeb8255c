import DorisOperator.Reconciler.Invariant

/-!
# The CN replicas under an autoscaler

When a DorisAutoScaler is bound to the cluster, the CN stage writes its
StatefulSet with nil replicas (`DorisOperator.cnAutoScalerAdjust`), so that the
count the autoscaler set is not overwritten: `CreateOrUpdate` merges field by
field, and a nil field leaves the live value (`DorisOperator.Obj.mergeOnto`).

`DorisOperator.cnReplicas_kept` states what follows, for every pass on a
cluster that declares the CN: the CN StatefulSet is written only after a
lookup of the autoscaler that succeeded earlier in the same pass, and with nil
replicas when a binding exists; and then a CN StatefulSet that exists keeps
its replica count through the pass, whatever `CN.Replicas` says and whatever
fails. Since it holds of every store, it holds of every pass of every run.

The calls of a pass are checked one by one (`DorisOperator.CnWrite`): a call
either does not touch the CN StatefulSet, or writes a StatefulSet there, without
replicas when a binding exists. The order comes from the canonical sequence, in
which the lookup stands right before the write.
-/

namespace DorisOperator

/-- The CN StatefulSet of the cluster `k`. -/
def cnStatefulSetRef (k : NamespacedName) : ObjRef := ⟨.statefulSet, getCnStatefulSetKey k⟩

/-! ### Calls that keep the replica count -/

/-- A call that leaves the CN StatefulSet alone, or writes a StatefulSet there –
with nil replicas when `bound`. -/
def CnWrite (k : NamespacedName) (bound : Bool) (c : Call) : Prop :=
  c.shape.target ≠ some (cnStatefulSetRef k) ∨
    ∃ s, c = .createOrUpdate (.statefulSet s) ∧ (bound → s.spec.replicas = none)

/-- Whatever a call of this kind does to the store, the StatefulSet at `r`, if
there is one, stays with its replica count. -/
def KeepsReplicas (r : ObjRef) (c : Call) : Prop :=
  ∀ S live, S.objects r = some (.statefulSet live) →
    ∃ s', (c.apply S).objects r = some (.statefulSet s') ∧ s'.spec.replicas = live.spec.replicas

theorem CnWrite.keepsReplicas {k : NamespacedName} {c : Call} (h : CnWrite k true c) :
    KeepsReplicas (cnStatefulSetRef k) c := by
  intro S live hS
  rcases h with h | ⟨s, rfl, hs⟩
  · exact ⟨live, by rw [c.apply_objects_of_target_ne S h, hS], rfl⟩
  · by_cases hr : (Obj.statefulSet s).ref = cnStatefulSetRef k
    · refine ⟨{ s with spec.replicas := s.spec.replicas.or live.spec.replicas }, ?_, by simp [hs rfl]⟩
      simp only [Call.apply, hr, Store.put_objects_self, hS, Obj.mergeOnto]
    · refine ⟨live, ?_, rfl⟩
      simp only [Call.apply]
      rw [Store.put_objects_ne _ _ (Ne.symm hr), hS]

/-- **A log of such calls keeps the replica count**, failed calls or not. -/
theorem replay_keepsReplicas {r : ObjRef} {p : Log} (h : ∀ e ∈ p, KeepsReplicas r e.1) {S : Store}
    {live : StatefulSet} (hS : S.objects r = some (.statefulSet live)) :
    ∃ s', (replay p S).objects r = some (.statefulSet s') ∧ s'.spec.replicas = live.spec.replicas := by
  induction p generalizing S live with
  | nil => exact ⟨live, hS, rfl⟩
  | cons e p ih =>
    rcases e with ⟨c, _ | _⟩
    · obtain ⟨s₁, h₁, hr₁⟩ := h _ (.head _) S live hS
      obtain ⟨s', h', hr'⟩ := ih (fun e he => h e (.tail _ he)) h₁
      exact ⟨s', h', hr'.trans hr₁⟩
    · exact ih (fun e he => h e (.tail _ he)) hS

/-! ### Every call of a pass is a `CnWrite` -/

theorem cnStatefulSetRef_mem_refs (k : NamespacedName) : cnStatefulSetRef k ∈ cnKeys.refs k :=
  statefulSet_mem_refs cnKeys k

/-- A role whose suffixes are none of the CN's has objects apart from the CN's. -/
theorem apart_cn {R : RoleKeys} {L : List (Kind × String)} (hR : ∀ k, R.refs k = L.map (refAt k))
    (h : ∀ p ∈ cnSuffixes, p ∉ L) (k : NamespacedName) : Apart k cnKeys R :=
  apart_of_suffixes (cnKeys_refs k) (hR k) h

/-- The Services, ConfigMaps and Secrets never touch the CN StatefulSet. -/
theorem cnWrite_of_kind {k : NamespacedName} {bound : Bool} {c : Call} {r : ObjRef}
    (ht : c.shape.target = some r) (hk : r.kind ≠ .statefulSet) : CnWrite k bound c :=
  .inl fun h => hk (by rw [ht, Option.some.injEq] at h; rw [h]; rfl)

/-- The CN stage, when the CN is declared, makes only `CnWrite` calls. -/
theorem cnStage_follows (env : ReconcileEnv) (cr : DorisCluster) (hcn : cr.spec.cn.isSome)
    (bound : Bool) (w : World) (hbound : (w.store.autoScalers cr.objKey).isSome = bound) :
    Follows (CnWrite cr.objKey bound) (·.err) (recCnResources env cr) w
      (roleCalls cnKeys [.findRefDorisAutoScaler cr.objKey] cr.spec.cn.isSome cr.objKey) :=
  cnRole_follows env.cn cnStages _ env.mapMd5 _ cr w (fun cm => cnWrite_of_kind rfl (by simp [Obj.ref]))
    (fun s => cnWrite_of_kind rfl (by simp [Obj.ref])) (.inl (by simp [Call.shape]))
    (fun _ s _ _ _ hr => .inr ⟨s, rfl, fun hb => hr (hbound.trans hb)⟩) fun h => by simp [hcn] at h

/-- A role whose objects are apart from the CN's makes only `CnWrite` calls. -/
theorem otherStage_follows {keys : RoleKeys} (t : RoleTransformer keys) (st : RoleStages)
    (annotationKey : String) (mapMd5 : StrMap → String) (present : Bool) (cr : DorisCluster)
    (bound : Bool) (w : World) (hap : Apart cr.objKey cnKeys keys) :
    Follows (CnWrite cr.objKey bound) (·.err)
      (recRoleResources t st annotationKey mapMd5 keepStatefulSet present cr) w
      (roleCalls keys [] present cr.objKey) := by
  have hne : ∀ r ∈ keys.refs cr.objKey, r ≠ cnStatefulSetRef cr.objKey :=
    fun r hr he => hap r (he ▸ cnStatefulSetRef_mem_refs cr.objKey) hr
  exact keepRole_follows t st annotationKey mapMd5 present cr w
    (fun cm => cnWrite_of_kind rfl (by simp [Obj.ref])) (fun s => cnWrite_of_kind rfl (by simp [Obj.ref]))
    (fun s₀ s hs₀ _ hk => .inl fun he => hne ⟨.statefulSet, s.metadata.key⟩
      (by rw [hk, t.statefulSet_named cr s₀ hs₀]; exact statefulSet_mem_refs keys _) (Option.some.inj he))
    fun _ r hr => .inl (by simpa [Call.shape] using hne r hr)

/-- **Every call of a pass that declares the CN is a `CnWrite`**, with `bound`
telling whether a DorisAutoScaler is bound to the cluster. -/
theorem reconcile_cnWrites (env : ReconcileEnv) (cr : DorisCluster) (S : Store) (fail : Oracle)
    (hcn : cr.spec.cn.isSome) :
    ∃ p, (reconcile env cr ⟨S, [], fail⟩).2 = World.extend ⟨S, [], fail⟩ p ∧ p.Clean ∧
      (∀ e ∈ p, CnWrite cr.objKey (S.autoScalers cr.objKey).isSome e.1) ∧
      p.map (·.1.shape) <+: canonicalCalls cr (S.present (oprSecretRef cr.objKey)) := by
  have hbound : ∀ p : Log, ((World.extend ⟨S, [], fail⟩ p).store.autoScalers cr.objKey).isSome =
      (S.autoScalers cr.objKey).isSome := fun p => by simp
  obtain ⟨p, hw, -, hc, hok, hpre, -⟩ := @reconcile_follows (CnWrite cr.objKey (S.autoScalers cr.objKey).isSome)
    env cr ⟨S, [], fail⟩ _ _ _ _ _
    (recOprAccountSecret_follows env cr _ (.inl (by simp [Call.shape]))
      (cnWrite_of_kind rfl (by simp [Obj.ref])))
    (fun _ => otherStage_follows _ _ _ _ _ cr _ _ (apart_cn feKeys_refs (by decide) _))
    (fun _ => otherStage_follows _ _ _ _ _ cr _ _ (apart_cn beKeys_refs (by decide) _))
    (fun p => cnStage_follows env cr hcn _ _ (hbound p))
    (fun _ => otherStage_follows _ _ _ _ _ cr _ _ (apart_cn brokerKeys_refs (by decide) _))
  exact ⟨p, hw, hc, hok, hpre⟩

/-! ### The lookup comes first -/

/-- In a log that follows `cs` and is clean, a call of shape `w` comes after a
successful call of shape `f`, when `f` stands right before the first `w` of
`cs`. -/
theorem precedes_of_prefix {p : Log} (hc : p.Clean) {cs : List CallShape}
    (hpre : p.map (·.1.shape) <+: cs) {X Y : List CallShape} {f w : CallShape}
    (hcs : cs = X ++ f :: w :: Y) (hw : w ∉ X) (hfw : f ≠ w) {p₁ p₂ : Log} {e : Call × Option Error}
    (hp : p = p₁ ++ e :: p₂) (he : e.1.shape = w) : ∃ e' ∈ p₁, e'.1.shape = f ∧ e'.2 = none := by
  obtain ⟨t, ht⟩ := hpre
  rw [hp, List.map_append, List.map_cons, he, hcs, List.append_assoc, List.cons_append] at ht
  have hf : f ∈ p₁.map (·.1.shape) := by
    rcases List.append_eq_append_iff.mp ht with ⟨a, hX, hrest⟩ | ⟨c, hl, hrest⟩
    · cases a with
      | nil => exact absurd (List.cons.inj hrest).1.symm hfw
      | cons a a' =>
        rw [List.cons_append, List.cons.injEq] at hrest
        exact absurd (hX ▸ hrest.1 ▸ List.mem_append_right _ (.head _)) hw
    · cases c with
      | nil => exact absurd (List.cons.inj hrest).1 hfw
      | cons c c' =>
        rw [List.cons_append, List.cons.injEq] at hrest
        rw [hl, ← hrest.1]
        exact List.mem_append_right _ (.head _)
  obtain ⟨e', he', hfe'⟩ := List.mem_map.mp hf
  refine ⟨e', he', hfe', hc e' ?_⟩
  rw [hp, List.dropLast_append_cons]
  exact List.mem_append_left _ he'

theorem Call.eq_of_shape_findRef {c : Call} {k : NamespacedName}
    (h : c.shape = .findRefDorisAutoScaler k) : c = .findRefDorisAutoScaler k := by
  cases c <;> simp only [Call.shape, reduceCtorEq, CallShape.findRefDorisAutoScaler.injEq] at h
  rw [h]

theorem cnWrite_not_mem_roleCalls {k : NamespacedName} {R : RoleKeys} (hap : Apart k cnKeys R)
    (present : Bool) : CallShape.createOrUpdate (cnStatefulSetRef k) ∉ roleCalls R [] present k := by
  intro h
  cases present
  · obtain ⟨r, hr⟩ := deleteCalls_deletes _ h
    cases hr
  · exact hap _ (cnStatefulSetRef_mem_refs k) (applyCalls_target (by simp) h rfl)

/-- In the canonical sequence of a cluster that declares the CN, the lookup
stands right before the first write of the CN StatefulSet. -/
theorem canonicalCalls_cn (cr : DorisCluster) (found : Bool) (hcn : cr.spec.cn.isSome) :
    ∃ X Y, canonicalCalls cr found = X ++ .findRefDorisAutoScaler cr.objKey ::
      .createOrUpdate (cnStatefulSetRef cr.objKey) :: Y ∧
      CallShape.createOrUpdate (cnStatefulSetRef cr.objKey) ∉ X := by
  refine ⟨secretCalls cr.objKey found ++ roleCalls feKeys [] cr.spec.fe.isSome cr.objKey ++
    roleCalls beKeys [] cr.spec.be.isSome cr.objKey ++
    (.createOrUpdate ⟨.configMap, cnKeys.configMap cr.objKey⟩ ::
      cnKeys.services.map (fun key => .createOrUpdate ⟨.service, key cr.objKey⟩)),
    roleCalls brokerKeys [] cr.spec.broker.isSome cr.objKey, ?_, ?_⟩
  · simp [canonicalCalls, roleCalls, hcn, applyCalls, cnStatefulSetRef, cnKeys]
  · simp only [List.mem_append, not_or]
    refine ⟨⟨⟨?_, cnWrite_not_mem_roleCalls (apart_cn feKeys_refs (by decide) _) _⟩,
      cnWrite_not_mem_roleCalls (apart_cn beKeys_refs (by decide) _) _⟩, ?_⟩
    · cases found <;> simp [secretCalls, cnStatefulSetRef]
    · simp [cnStatefulSetRef, cnKeys]

/-! ### The replicas through a pass -/

/-- **The CN replicas under an autoscaler.** In every pass on a cluster that
declares the CN, every write of the CN StatefulSet comes after a lookup of the
autoscaler that succeeded earlier in the pass, and carries nil replicas when a
binding exists; and then the CN StatefulSet, if it exists, keeps its replica
count through the pass, whatever the cluster declares and whatever fails. -/
theorem cnReplicas_kept (env : ReconcileEnv) (cr : DorisCluster) (S : Store) (fail : Oracle)
    (hcn : cr.spec.cn.isSome) :
    (∀ l₁ e l₂, (reconcile env cr ⟨S, [], fail⟩).2.log = l₁ ++ e :: l₂ →
      ∀ s, e.1 = .createOrUpdate (.statefulSet s) → s.metadata.key = getCnStatefulSetKey cr.objKey →
        (∃ e' ∈ l₁, e'.1 = .findRefDorisAutoScaler cr.objKey ∧ e'.2 = none) ∧
        ((S.autoScalers cr.objKey).isSome → s.spec.replicas = none)) ∧
    ∀ live, (S.autoScalers cr.objKey).isSome →
      S.objects (cnStatefulSetRef cr.objKey) = some (.statefulSet live) →
      ∃ s', (reconcile env cr ⟨S, [], fail⟩).2.store.objects (cnStatefulSetRef cr.objKey) =
        some (.statefulSet s') ∧ s'.spec.replicas = live.spec.replicas := by
  obtain ⟨p, hw, hc, hok, hpre⟩ := reconcile_cnWrites env cr S fail hcn
  simp only [hw, World.extend_log, World.extend_store, List.nil_append]
  refine ⟨fun l₁ e l₂ hp s he hk => ⟨?_, fun hb => ?_⟩, fun live hb hS => ?_⟩
  · obtain ⟨X, Y, hcs, hX⟩ := canonicalCalls_cn cr _ hcn
    have hsh : e.1.shape = .createOrUpdate (cnStatefulSetRef cr.objKey) := by
      rw [he, cnStatefulSetRef, ← hk]
      rfl
    obtain ⟨e', he', hf, hv⟩ := precedes_of_prefix hc hpre hcs hX (by simp) hp hsh
    exact ⟨e', he', Call.eq_of_shape_findRef hf, hv⟩
  · have hmem : e ∈ p := hp ▸ List.mem_append_right _ (.head _)
    rcases hok e hmem with h | ⟨s', he', hs'⟩
    · refine absurd ?_ h
      rw [he, cnStatefulSetRef, ← hk]
      rfl
    · rw [he, Call.createOrUpdate.injEq, Obj.statefulSet.injEq] at he'
      exact he' ▸ hs' hb
  · exact replay_keepsReplicas (fun e he => CnWrite.keepsReplicas (hb ▸ hok e he)) hS

/-- A cluster that declares only the CN, with every setting at its default. -/
def cnCluster : DorisCluster := { name := "doris", ns := "default", spec := { cn := some {} } }

/-- A CN StatefulSet of `doris` with five replicas, as an autoscaler left it. -/
def liveCnStatefulSet : StatefulSet :=
  { metadata := metaOf (getCnStatefulSetKey dorisKey), spec := { replicas := some 5 } }

/-- A store holding `liveCnStatefulSet`, with a DorisAutoScaler bound to `doris`. -/
def cnLiveStore : Store :=
  { Store.empty.put (cnStatefulSetRef dorisKey) (some (.statefulSet liveCnStatefulSet)) with
    autoScalers := fun k => if k = dorisKey then some ⟨dorisKey⟩ else none }

/-- A healthy pass of `cnCluster`, whose CN builders build a StatefulSet of three
replicas, on a store where an autoscaler is bound and the live CN StatefulSet has
five: the pass writes the CN StatefulSet, which keeps its five replicas. -/
theorem cnReplicas_kept_cnLiveStore :
    cnCluster.spec.cn.isSome ∧
    (cnLiveStore.autoScalers cnCluster.objKey).isSome ∧
    cnLiveStore.objects (cnStatefulSetRef cnCluster.objKey) = some (.statefulSet liveCnStatefulSet) ∧
    CallShape.createOrUpdate (cnStatefulSetRef cnCluster.objKey) ∈
      (reconcile plainEnv cnCluster ⟨cnLiveStore, [], healthy⟩).2.log.map (·.1.shape) ∧
    (∀ l₁ e l₂, (reconcile plainEnv cnCluster ⟨cnLiveStore, [], healthy⟩).2.log = l₁ ++ e :: l₂ →
      ∀ s, e.1 = .createOrUpdate (.statefulSet s) → s.metadata.key = getCnStatefulSetKey cnCluster.objKey →
        (∃ e' ∈ l₁, e'.1 = .findRefDorisAutoScaler cnCluster.objKey ∧ e'.2 = none) ∧
        ((cnLiveStore.autoScalers cnCluster.objKey).isSome → s.spec.replicas = none)) ∧
    ∀ live, (cnLiveStore.autoScalers cnCluster.objKey).isSome →
      cnLiveStore.objects (cnStatefulSetRef cnCluster.objKey) = some (.statefulSet live) →
      ∃ s', (reconcile plainEnv cnCluster ⟨cnLiveStore, [], healthy⟩).2.store.objects
        (cnStatefulSetRef cnCluster.objKey) = some (.statefulSet s') ∧ s'.spec.replicas = live.spec.replicas := by
  obtain ⟨p, hw, -, hcalls⟩ := reconcile_log_of_built plainEnv cnCluster cnLiveStore (by decide)
  exact ⟨rfl, by decide, Store.put_objects_self Store.empty (cnStatefulSetRef dorisKey) _,
    by rw [hw, World.extend_log, List.nil_append, hcalls]; decide,
    cnReplicas_kept plainEnv cnCluster cnLiveStore healthy rfl⟩

end DorisOperator
