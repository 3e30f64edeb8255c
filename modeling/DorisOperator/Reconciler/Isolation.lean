import DorisOperator.Reconciler.Invariant

/-!
# Clusters are kept apart

The operator may run passes for different DorisCluster instances side by side.
Nothing but the object store is shared between them, and every object a pass
touches is named from its own cluster's identity, so they stay apart as long as
the names do:

* the FE names the builders give two clusters never meet, kind by kind, and one
  cluster's client and peer Services have different names
  (`DorisOperator.feNames_disjoint`);
* more generally, no identity of one cluster – its Secret, and the ConfigMap,
  Services and StatefulSet of each role – is an identity of another
  (`DorisOperator.clusterRefs_apart`): two suffixes of one kind are equal or
  neither ends the other (`DorisOperator.clusterSuffixes_apart`), so no name
  reads as two clusters' names (`DorisOperator.roleKey_ne_of_not_suffix`);
* hence a pass leaves every object of another cluster as it was
  (`DorisOperator.reconcile_objects_of_other`), and every cluster keeps its
  invariant and its Secret in every store reached by passes of any clusters, in
  any order (`DorisOperator.sysRun_invariant`).
-/

namespace DorisOperator

/-! ### The FE names -/

/-- **The FE names of two clusters never meet**, kind by kind, whatever the two
names – a cluster named after another's object included – and one cluster's
client and peer Services have different names. -/
theorem feNames_disjoint :
    (∀ cr₁ cr₂ : DorisCluster, cr₁.objKey ≠ cr₂.objKey →
      getFeConfigMapName cr₁ ≠ getFeConfigMapName cr₂ ∧
      [getFeServiceName cr₁, getFePeerServiceName cr₁].Disjoint
        [getFeServiceName cr₂, getFePeerServiceName cr₂] ∧
      getFeStatefulSetName cr₁ ≠ getFeStatefulSetName cr₂) ∧
    ∀ cr : DorisCluster, getFeServiceName cr ≠ getFePeerServiceName cr := by
  have hsp : ∀ k k', roleKey "-fe" k ≠ roleKey "-fe-peer" k' :=
    roleKey_ne_of_not_suffix (by decide) (by decide)
  refine ⟨fun cr₁ cr₂ h => ?_, fun cr => hsp cr.objKey cr.objKey⟩
  have hc : ∀ {s}, roleKey s cr₁.objKey ≠ roleKey s cr₂.objKey := fun he => h (roleKey_cancel he)
  refine ⟨hc, fun a ha hb => ?_, hc⟩
  simp only [List.mem_cons, List.mem_singleton, List.not_mem_nil, or_false] at ha hb
  rcases ha with rfl | rfl <;> rcases hb with he | he
  · exact hc he
  · exact hsp cr₁.objKey cr₂.objKey he
  · exact hsp cr₂.objKey cr₁.objKey he.symm
  · exact hc he

/-! ### Every identity of a cluster -/

/-- The kinds and suffixes of every object the reconciler writes for a cluster:
its Secret, then the objects of each role. -/
def clusterSuffixes : List (Kind × String) :=
  (.secret, "-opr-account") :: feSuffixes ++ beSuffixes ++ cnSuffixes ++ brokerSuffixes

/-- The identities of every object the reconciler writes for the cluster `k`. -/
def clusterRefs (k : NamespacedName) : List ObjRef := clusterSuffixes.map (refAt k)

/-- Two suffixes of one kind are the same, or neither ends the other. -/
theorem clusterSuffixes_apart : ∀ p ∈ clusterSuffixes, ∀ p' ∈ clusterSuffixes, p.1 = p'.1 →
    p.2 = p'.2 ∨ ¬p.2.data <:+ p'.2.data ∧ ¬p'.2.data <:+ p.2.data := by
  decide

/-- **No identity of one cluster is an identity of another.** -/
theorem clusterRefs_apart {k k' : NamespacedName} (h : k ≠ k') :
    ∀ r ∈ clusterRefs k, r ∉ clusterRefs k' := by
  intro r hr hr'
  obtain ⟨p, hp, rfl⟩ := List.mem_map.mp hr
  obtain ⟨p', hp', he⟩ := List.mem_map.mp hr'
  simp only [refAt, ObjRef.mk.injEq] at he
  rcases clusterSuffixes_apart p hp p' hp' he.1.symm with hs | ⟨hpp', hp'p⟩
  · rw [hs] at he
    exact h (roleKey_cancel he.2).symm
  · exact roleKey_ne_of_not_suffix hpp' hp'p k k' he.2.symm

/-- A cluster's identities are its Secret and the objects of its four roles. -/
theorem mem_clusterRefs {k : NamespacedName} {r : ObjRef} :
    r ∈ clusterRefs k ↔ r = oprSecretRef k ∨ r ∈ feKeys.refs k ∨ r ∈ beKeys.refs k ∨
      r ∈ cnKeys.refs k ∨ r ∈ brokerKeys.refs k := by
  rw [show clusterRefs k = oprSecretRef k :: feKeys.refs k ++ beKeys.refs k ++ cnKeys.refs k ++
    brokerKeys.refs k from rfl]
  simp only [List.mem_cons, List.mem_append, or_assoc]

/-! ### A pass touches only its own cluster's objects -/

theorem roleCalls_target {R : RoleKeys} {lookups : List CallShape} (present : Bool) {k : NamespacedName}
    (hl : ∀ s ∈ lookups, s.target = none) {s : CallShape} {r : ObjRef}
    (hs : s ∈ roleCalls R lookups present k) (ht : s.target = some r) : r ∈ R.refs k := by
  cases present
  · exact deleteCalls_target hs ht
  · exact applyCalls_target hl hs ht

/-- Every call of the canonical sequence of a cluster targets one of its
identities. -/
theorem canonicalCalls_target (cr : DorisCluster) (found : Bool) {s : CallShape} {r : ObjRef}
    (hs : s ∈ canonicalCalls cr found) (ht : s.target = some r) : r ∈ clusterRefs cr.objKey := by
  have hnone : ∀ s ∈ ([] : List CallShape), s.target = none := by simp
  simp only [canonicalCalls, List.mem_append] at hs
  rw [mem_clusterRefs]
  rcases hs with (((hs | hs) | hs) | hs) | hs
  · exact .inl (secretCalls_target hs ht)
  · exact .inr (.inl (roleCalls_target _ hnone hs ht))
  · exact .inr (.inr (.inl (roleCalls_target _ hnone hs ht)))
  · exact .inr (.inr (.inr (.inl (roleCalls_target _ (by simp) hs ht))))
  · exact .inr (.inr (.inr (.inr (roleCalls_target _ hnone hs ht))))

/-- **A pass leaves every object of another cluster as it was**, whatever it
declares and whatever fails. -/
theorem reconcile_objects_of_other (env : ReconcileEnv) (cr : DorisCluster) (S : Store) (fail : Oracle)
    {k : NamespacedName} (hk : cr.objKey ≠ k) {r : ObjRef} (hr : r ∈ clusterRefs k) :
    (reconcile env cr ⟨S, [], fail⟩).2.store.objects r = S.objects r :=
  reconcile_objects_of_untargeted env cr S fail fun _ hs ht =>
    clusterRefs_apart hk _ (canonicalCalls_target cr _ hs ht) hr

/-! ### The invariant reads only the cluster's own objects -/

section Congr

variable {k : NamespacedName} {E E' : ObjRef → Bool}

theorem RoleInv.congr {R : RoleKeys} (hR : ∀ r ∈ R.refs k, r ∈ clusterRefs k)
    (h : ∀ r ∈ clusterRefs k, E r = E' r) (hinv : RoleInv k E R) : RoleInv k E' R := by
  intro hs
  rw [← h _ (hR _ (statefulSet_mem_refs R k))] at hs
  obtain ⟨hall, hsec⟩ := hinv hs
  exact ⟨fun r hr => h r (hR r hr) ▸ hall r hr, h _ (mem_clusterRefs.mpr (.inl rfl)) ▸ hsec⟩

theorem Inv.congr (h : ∀ r ∈ clusterRefs k, E r = E' r) (hinv : Inv k E) : Inv k E' :=
  ⟨hinv.1.congr (fun _ hr => mem_clusterRefs.mpr (.inr (.inl hr))) h,
    hinv.2.1.congr (fun _ hr => mem_clusterRefs.mpr (.inr (.inr (.inl hr)))) h,
    hinv.2.2.1.congr (fun _ hr => mem_clusterRefs.mpr (.inr (.inr (.inr (.inl hr))))) h,
    hinv.2.2.2.congr (fun _ hr => mem_clusterRefs.mpr (.inr (.inr (.inr (.inr hr))))) h⟩

end Congr

/-- A pass of another cluster keeps a cluster's invariant. -/
theorem reconcile_inv_of_other (env : ReconcileEnv) (cr : DorisCluster) (S : Store) (fail : Oracle)
    {k : NamespacedName} (hk : cr.objKey ≠ k) (h : Inv k S.present) :
    Inv k (reconcile env cr ⟨S, [], fail⟩).2.store.present :=
  h.congr fun r hr => by simp only [Store.present, reconcile_objects_of_other env cr S fail hk hr]

/-! ### Passes of any clusters, in any order -/

/-- The moves of the whole system: a pass of the reconciler on any cluster, with
any specification, against any failures; or a change of the DorisAutoScaler
bindings by another party. -/
inductive SysStep (env : ReconcileEnv) : Store → Store → Prop
  | pass (cr : DorisCluster) (fail : Oracle) (S : Store) :
      SysStep env S (reconcile env cr ⟨S, [], fail⟩).2.store
  | rebind (S : Store) (autoScalers : NamespacedName → Option DorisAutoScaler) :
      SysStep env S { S with autoScalers := autoScalers }

section SysStep

variable {env : ReconcileEnv} {S S' : Store}

theorem SysStep.inv (h : SysStep env S S') (k : NamespacedName) (hinv : Inv k S.present) :
    Inv k S'.present := by
  cases h with
  | pass cr fail S =>
    by_cases hk : cr.objKey = k
    · subst hk
      exact reconcile_inv env cr S fail hinv
    · exact reconcile_inv_of_other env cr S fail hk hinv
  | rebind => exact hinv

theorem SysStep.secret (h : SysStep env S S') (k : NamespacedName)
    (hs : S.present (oprSecretRef k) = true) : S'.objects (oprSecretRef k) = S.objects (oprSecretRef k) := by
  cases h with
  | pass cr fail S =>
    by_cases hk : cr.objKey = k
    · subst hk
      exact (reconcile_secret_untouched env cr S fail hs).2
    · exact reconcile_objects_of_other env cr S fail hk (mem_clusterRefs.mpr (.inl rfl))
  | rebind => rfl

end SysStep

/-- **Every cluster keeps its invariant under passes of any clusters.** In every
store reached from the empty store by passes of any clusters, in any order, and
by changes of the autoscaler bindings, every cluster satisfies
`DorisOperator.Inv`; and once a cluster's Secret exists, every store reached
from there holds it unchanged. -/
theorem sysRun_invariant (env : ReconcileEnv) {S : Store}
    (h : Relation.ReflTransGen (SysStep env) Store.empty S) (k : NamespacedName) :
    Inv k S.present ∧
    ∀ o, S.objects (oprSecretRef k) = some o → ∀ S', Relation.ReflTransGen (SysStep env) S S' →
      S'.objects (oprSecretRef k) = some o := by
  refine ⟨?_, fun o ho S' h' => ?_⟩
  · induction h with
    | refl => exact ⟨nofun, nofun, nofun, nofun⟩
    | tail _ hstep ih => exact hstep.inv k ih
  · induction h' with
    | refl => exact ho
    | tail _ hstep ih => rw [hstep.secret k (by simp [Store.present, ih]), ih]

/-- `doris` in the namespace `analytics`, declaring what `builtCluster` declares. -/
def analyticsCluster : DorisCluster := { builtCluster with ns := "analytics" }

/-- The store after a healthy pass of `builtCluster` on the empty store, and then
one of `analyticsCluster`. -/
def twoClusterStore : Store := (reconcile plainEnv analyticsCluster ⟨builtStore, [], healthy⟩).2.store

/-- A run of two clusters of one name in two namespaces, each of which writes its
StatefulSets. -/
theorem sysRun_invariant_twoClusterStore :
    Relation.ReflTransGen (SysStep plainEnv) Store.empty twoClusterStore ∧
    twoClusterStore.present ⟨.statefulSet, beKeys.statefulSet dorisKey⟩ = true ∧
    twoClusterStore.present ⟨.statefulSet, beKeys.statefulSet analyticsCluster.objKey⟩ = true ∧
    twoClusterStore.present (oprSecretRef dorisKey) = true ∧
    Inv dorisKey twoClusterStore.present ∧
    ∀ o, twoClusterStore.objects (oprSecretRef dorisKey) = some o →
      ∀ S', Relation.ReflTransGen (SysStep plainEnv) twoClusterStore S' →
      S'.objects (oprSecretRef dorisKey) = some o := by
  have hrun : Relation.ReflTransGen (SysStep plainEnv) Store.empty twoClusterStore :=
    .tail (.single (.pass builtCluster healthy Store.empty)) (.pass analyticsCluster healthy builtStore)
  have hS : twoClusterStore.present = effects (canonicalCalls analyticsCluster
      (builtStore.present (oprSecretRef analyticsCluster.objKey))) builtStore.present :=
    reconcile_present_of_built plainEnv analyticsCluster builtStore (by decide)
  rw [builtStore_present] at hS
  exact ⟨hrun, by rw [hS]; decide, by rw [hS]; decide, by rw [hS]; decide, sysRun_invariant plainEnv hrun dorisKey⟩

end DorisOperator
