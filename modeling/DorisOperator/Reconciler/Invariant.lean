import Mathlib.Logic.Relation
import DorisOperator.Reconciler.Healthy

/-!
# The invariant over runs

A run is what the store goes through: passes of the reconciler on one cluster,
whose specification may change from one pass to the next – roles added or
removed, configurations changed – and any call of which may fail, interleaved
with the changes other parties make to the DorisAutoScaler bindings
(`DorisOperator.Step`). From the empty store, every store a run reaches
satisfies two things (`DorisOperator.run_invariant`):

* whenever a role's StatefulSet exists, so do its ConfigMap, which it mounts as
  its `conf` volume, its Services, the peer one being its governing Service,
  and the SQL-account Secret its environment reads (`DorisOperator.Inv`);
* once the Secret exists, no pass targets it with a creation, a write or a
  deletion, and it stays as it is.

The proof reads a pass off the canonical sequence: the objects that exist after
it are the effect of a prefix of that sequence (`DorisOperator.reconcile_present`).
The Secret block creates the Secret unless it was there; a role's apply block
writes its StatefulSet last, after the objects it references; its delete block
removes the StatefulSet first. No block touches another role's objects, whose
identities carry other suffixes (`DorisOperator.Apart`).
-/

namespace DorisOperator

/-! ### Roles apart -/

/-- The objects of `R` are none of the objects of `R'`. -/
def Apart (k : NamespacedName) (R R' : RoleKeys) : Prop := ∀ r ∈ R.refs k, r ∉ R'.refs k

theorem apart_of_suffixes {k : NamespacedName} {R R' : RoleKeys} {L L' : List (Kind × String)}
    (hR : R.refs k = L.map (refAt k)) (hR' : R'.refs k = L'.map (refAt k)) (h : ∀ p ∈ L, p ∉ L') :
    Apart k R R' := by
  intro r hr hr'
  rw [hR, List.mem_map] at hr
  rw [hR', List.mem_map] at hr'
  obtain ⟨p, hp, rfl⟩ := hr
  obtain ⟨p', hp', he⟩ := hr'
  exact h p hp (refAt_inj he ▸ hp')

/-! ### The invariant, on which objects exist -/

/-- A role's StatefulSet exists only together with its ConfigMap, its Services
and the SQL-account Secret. -/
def RoleInv (k : NamespacedName) (E : ObjRef → Bool) (R : RoleKeys) : Prop :=
  E ⟨.statefulSet, R.statefulSet k⟩ = true → (∀ r ∈ R.refs k, E r = true) ∧ E (oprSecretRef k) = true

/-- **The invariant of a cluster's objects**, for each of its four roles. -/
def Inv (k : NamespacedName) (E : ObjRef → Bool) : Prop :=
  RoleInv k E feKeys ∧ RoleInv k E beKeys ∧ RoleInv k E cnKeys ∧ RoleInv k E brokerKeys

theorem statefulSet_mem_refs (R : RoleKeys) (k : NamespacedName) :
    ⟨.statefulSet, R.statefulSet k⟩ ∈ R.refs k := by
  simp [RoleKeys.refs]

section Blocks

variable {k : NamespacedName} {E : ObjRef → Bool} {q : List CallShape}

/-- Calls that delete nothing and do not target a role's StatefulSet keep its
part of the invariant. -/
theorem RoleInv.of_raise {R : RoleKeys} (hnd : ∀ s ∈ q, ∀ r, s ≠ .deleteWhenExist r)
    (hsts : ¬∃ s ∈ q, s.target = some ⟨.statefulSet, R.statefulSet k⟩) (hinv : RoleInv k E R) :
    RoleInv k (effects q E) R := by
  intro h
  rw [effects_of_no_deletes hnd] at h
  obtain ⟨hall, hsec⟩ := hinv (h.resolve_right hsts)
  exact ⟨fun r hr => (effects_of_no_deletes hnd E r).mpr (.inl (hall r hr)),
    (effects_of_no_deletes hnd E _).mpr (.inl hsec)⟩

/-! #### The Secret block -/

theorem secretCalls_target {found : Bool} {s : CallShape} {r : ObjRef} (hs : s ∈ secretCalls k found)
    (ht : s.target = some r) : r = oprSecretRef k := by
  cases found <;> simp [secretCalls] at hs <;> rcases hs with rfl | rfl <;> simp_all [oprSecretRef]

theorem secretCalls_no_deletes {found : Bool} : ∀ s ∈ secretCalls k found, ∀ r, s ≠ .deleteWhenExist r := by
  cases found <;> simp [secretCalls]

theorem Inv.secretCalls {found : Bool} (hq : q <+: secretCalls k found) (hinv : Inv k E) :
    Inv k (effects q E) := by
  have hnd : ∀ s ∈ q, ∀ r, s ≠ .deleteWhenExist r := fun s hs => secretCalls_no_deletes s (hq.subset hs)
  have hsts : ∀ R : RoleKeys, ¬∃ s ∈ q, s.target = some ⟨.statefulSet, R.statefulSet k⟩ :=
    fun R ⟨s, hs, ht⟩ => by cases secretCalls_target (hq.subset hs) ht
  exact ⟨hinv.1.of_raise hnd (hsts _), hinv.2.1.of_raise hnd (hsts _), hinv.2.2.1.of_raise hnd (hsts _),
    hinv.2.2.2.of_raise hnd (hsts _)⟩

/-- After the Secret block, the Secret exists. -/
theorem secretCalls_complete (found : Bool) (hf : E (oprSecretRef k) = found) :
    effects (secretCalls k found) E (oprSecretRef k) = true := by
  cases found
  · simp [secretCalls, effects_cons, oprSecretRef]
  · simpa [secretCalls, effects_cons] using hf

/-! #### A role's apply block -/

variable {R : RoleKeys} {lookups : List CallShape}

theorem applyCalls_target (hl : ∀ s ∈ lookups, s.target = none) {s : CallShape} {r : ObjRef}
    (hs : s ∈ applyCalls R lookups k) (ht : s.target = some r) : r ∈ R.refs k := by
  simp only [applyCalls, List.mem_append, List.mem_cons, List.mem_map, List.mem_singleton,
    List.not_mem_nil, or_false] at hs
  rcases hs with ((rfl | ⟨key, hkey, rfl⟩) | hs) | rfl
  · simp_all [RoleKeys.refs]
  · simp only [CallShape.target_createOrUpdate, Option.some.injEq] at ht
    subst ht
    simp only [RoleKeys.refs, List.mem_append, List.mem_cons, List.mem_map]
    exact .inl (.inr ⟨key, hkey, rfl⟩)
  · simp [hl s hs] at ht
  · simp_all [RoleKeys.refs]

theorem applyCalls_no_deletes (hl : ∀ s ∈ lookups, s.target = none) :
    ∀ s ∈ applyCalls R lookups k, ∀ r, s ≠ .deleteWhenExist r := by
  rintro s hs r rfl
  simp only [applyCalls, List.mem_append, List.mem_cons, List.mem_map, List.mem_singleton,
    List.not_mem_nil, reduceCtorEq, false_or, or_false, and_false, exists_false] at hs
  simpa using hl _ hs

/-- A prefix of the apply block that writes the StatefulSet is the whole block,
which writes each of the role's objects. -/
theorem applyCalls_prefix_writes_all (hl : ∀ s ∈ lookups, s.target = none)
    (hq : q <+: applyCalls R lookups k) (hsts : ∃ s ∈ q, s.target = some ⟨.statefulSet, R.statefulSet k⟩) :
    ∀ r ∈ R.refs k, ∃ s ∈ q, s.target = some r := by
  rcases List.prefix_concat_iff.mp hq with rfl | hq
  · intro r hr
    simp only [RoleKeys.refs, List.mem_append, List.mem_cons, List.mem_map, List.mem_singleton,
      List.not_mem_nil, or_false] at hr
    rcases hr with (rfl | ⟨key, hkey, rfl⟩) | rfl
    · exact ⟨.createOrUpdate ⟨.configMap, R.configMap k⟩, by simp [applyCalls], rfl⟩
    · exact ⟨.createOrUpdate ⟨.service, key k⟩, by simp [applyCalls]; exact .inl ⟨key, hkey, rfl⟩, rfl⟩
    · exact ⟨.createOrUpdate ⟨.statefulSet, R.statefulSet k⟩, by simp [applyCalls], rfl⟩
  · obtain ⟨s, hs, ht⟩ := hsts
    have hs := hq.subset hs
    simp only [List.mem_append, List.mem_cons, List.mem_map] at hs
    rcases hs with (rfl | ⟨key, -, rfl⟩) | hs
    · simp at ht
    · simp at ht
    · simp [hl s hs] at ht

theorem RoleInv.applyCalls {R' : RoleKeys} (hl : ∀ s ∈ lookups, s.target = none)
    (hR' : R' = R ∨ Apart k R R') (hq : q <+: applyCalls R lookups k)
    (hsec : E (oprSecretRef k) = true) (hinv : RoleInv k E R') : RoleInv k (effects q E) R' := by
  have hnd : ∀ s ∈ q, ∀ r, s ≠ .deleteWhenExist r := fun s hs => applyCalls_no_deletes hl s (hq.subset hs)
  by_cases hsts : ∃ s ∈ q, s.target = some ⟨.statefulSet, R'.statefulSet k⟩
  · rcases hR' with rfl | hap
    · exact fun _ => ⟨fun r hr => (effects_of_no_deletes hnd E r).mpr
        (.inr (applyCalls_prefix_writes_all hl hq hsts r hr)), (effects_of_no_deletes hnd E _).mpr (.inl hsec)⟩
    · obtain ⟨s, hs, ht⟩ := hsts
      exact absurd (statefulSet_mem_refs R' k) (hap _ (applyCalls_target hl (hq.subset hs) ht))
  · exact hinv.of_raise hnd hsts

theorem applyCalls_secret (hl : ∀ s ∈ lookups, s.target = none) (hq : q <+: applyCalls R lookups k)
    (hsec : E (oprSecretRef k) = true) : effects q E (oprSecretRef k) = true :=
  (effects_of_no_deletes (fun s hs => applyCalls_no_deletes hl s (hq.subset hs)) E _).mpr (.inl hsec)

/-! #### A role's delete block -/

theorem deleteCalls_deletes : ∀ s ∈ deleteCalls R k, ∃ r, s = .deleteWhenExist r := by
  simp only [deleteCalls, List.mem_append, List.mem_cons, List.mem_map, List.mem_singleton,
    List.not_mem_nil, or_false]
  rintro s ((rfl | ⟨key, -, rfl⟩) | rfl) <;> exact ⟨_, rfl⟩

theorem deleteCalls_target {s : CallShape} {r : ObjRef} (hs : s ∈ deleteCalls R k)
    (ht : s.target = some r) : r ∈ R.refs k := by
  simp only [deleteCalls, List.mem_append, List.mem_cons, List.mem_map, List.mem_singleton,
    List.not_mem_nil, or_false] at hs
  rcases hs with (rfl | ⟨key, hkey, rfl⟩) | rfl <;>
    simp only [CallShape.target_deleteWhenExist, Option.some.injEq] at ht <;> subst ht
  · exact statefulSet_mem_refs R k
  · simp only [RoleKeys.refs, List.mem_append, List.mem_cons, List.mem_map]
    exact .inl (.inr ⟨key, hkey, rfl⟩)
  · simp [RoleKeys.refs]

theorem RoleInv.deleteCalls {R' : RoleKeys} (hR' : R' = R ∨ Apart k R R') (hq : q <+: deleteCalls R k)
    (hinv : RoleInv k E R') : RoleInv k (effects q E) R' := by
  have hd : ∀ s ∈ q, ∃ r, s = .deleteWhenExist r := fun s hs => deleteCalls_deletes s (hq.subset hs)
  rcases hR' with rfl | hap
  · rcases List.prefix_cons_iff.mp hq with rfl | ⟨t, rfl, -⟩
    · exact hinv
    · intro h
      exact absurd ⟨_, .head _, rfl⟩ ((effects_of_deletes hd E _).mp h).2
  · intro h
    obtain ⟨hall, hsec⟩ := hinv ((effects_of_deletes hd E _).mp h).1
    have keep : ∀ r, E r = true → r ∉ R.refs k → effects q E r = true := fun r hr hnot =>
      (effects_of_deletes hd E r).mpr ⟨hr, fun ⟨s, hs, ht⟩ => hnot (deleteCalls_target (hq.subset hs) ht)⟩
    exact ⟨fun r hr => keep r (hall r hr) fun hr' => hap r hr' hr,
      keep _ hsec (oprSecretRef_not_mem_refs R k)⟩

theorem deleteCalls_secret (hq : q <+: deleteCalls R k) (hsec : E (oprSecretRef k) = true) :
    effects q E (oprSecretRef k) = true :=
  (effects_of_deletes (fun s hs => deleteCalls_deletes s (hq.subset hs)) E _).mpr
    ⟨hsec, fun ⟨_, hs, ht⟩ => oprSecretRef_not_mem_refs R k (deleteCalls_target (hq.subset hs) ht)⟩

end Blocks

/-! ### The canonical sequence keeps the invariant -/

/-- Every prefix of `cs` keeps `P`. -/
def Keeps (P : (ObjRef → Bool) → Prop) (cs : List CallShape) : Prop :=
  ∀ E, P E → ∀ q, q <+: cs → P (effects q E)

theorem Keeps.append {P : (ObjRef → Bool) → Prop} {A B : List CallShape} (hA : Keeps P A)
    (hB : Keeps P B) : Keeps P (A ++ B) := by
  intro E hE q hq
  rcases prefix_append_cases hq with hq | ⟨q', rfl, hq'⟩
  · exact hA E hE q hq
  · rw [effects_append]
    exact hB _ (hA E hE A (List.prefix_refl _)) q' hq'

/-- A role's block keeps the invariant and the Secret, given that the role's
objects are apart from those of the three others. -/
theorem keeps_roleCalls {k : NamespacedName} {R : RoleKeys} {lookups : List CallShape}
    (hl : ∀ s ∈ lookups, s.target = none) (present : Bool)
    (hfe : feKeys = R ∨ Apart k R feKeys) (hbe : beKeys = R ∨ Apart k R beKeys)
    (hcn : cnKeys = R ∨ Apart k R cnKeys) (hbroker : brokerKeys = R ∨ Apart k R brokerKeys) :
    Keeps (fun E => Inv k E ∧ E (oprSecretRef k) = true) (roleCalls R lookups present k) := by
  rintro E ⟨⟨h₁, h₂, h₃, h₄⟩, hsec⟩ q hq
  cases present
  · exact ⟨⟨h₁.deleteCalls hfe hq, h₂.deleteCalls hbe hq, h₃.deleteCalls hcn hq,
      h₄.deleteCalls hbroker hq⟩, deleteCalls_secret hq hsec⟩
  · exact ⟨⟨h₁.applyCalls hl hfe hq hsec, h₂.applyCalls hl hbe hq hsec, h₃.applyCalls hl hcn hq hsec,
      h₄.applyCalls hl hbroker hq hsec⟩, applyCalls_secret hl hq hsec⟩

/-- **Every prefix of the canonical sequence keeps the invariant.** -/
theorem Inv.canonicalCalls {cr : DorisCluster} {E : ObjRef → Bool} (hinv : Inv cr.objKey E) {q : List CallShape}
    (hq : q <+: canonicalCalls cr (E (oprSecretRef cr.objKey))) : Inv cr.objKey (effects q E) := by
  have ap : ∀ {R R' : RoleKeys} {L L' : List (Kind × String)}, (∀ k, R.refs k = L.map (refAt k)) →
      (∀ k, R'.refs k = L'.map (refAt k)) → (∀ p ∈ L, p ∉ L') → R' = R ∨ Apart cr.objKey R R' :=
    fun hR hR' h => .inr (apart_of_suffixes (hR _) (hR' _) h)
  have hnone : ∀ s ∈ ([] : List CallShape), s.target = none := by simp
  have hfe := keeps_roleCalls hnone cr.spec.fe.isSome (.inl rfl)
    (ap feKeys_refs beKeys_refs (by decide)) (ap feKeys_refs cnKeys_refs (by decide))
    (ap feKeys_refs brokerKeys_refs (by decide))
  have hbe := keeps_roleCalls hnone cr.spec.be.isSome (ap beKeys_refs feKeys_refs (by decide)) (.inl rfl)
    (ap beKeys_refs cnKeys_refs (by decide)) (ap beKeys_refs brokerKeys_refs (by decide))
  have hcn := keeps_roleCalls
    (show ∀ s ∈ [CallShape.findRefDorisAutoScaler cr.objKey], s.target = none by simp) cr.spec.cn.isSome (ap cnKeys_refs feKeys_refs (by decide)) (ap cnKeys_refs beKeys_refs (by decide))
    (.inl rfl) (ap cnKeys_refs brokerKeys_refs (by decide))
  have hbroker := keeps_roleCalls hnone cr.spec.broker.isSome
    (ap brokerKeys_refs feKeys_refs (by decide)) (ap brokerKeys_refs beKeys_refs (by decide))
    (ap brokerKeys_refs cnKeys_refs (by decide)) (.inl rfl)
  simp only [DorisOperator.canonicalCalls, List.append_assoc] at hq
  rcases prefix_append_cases hq with hq | ⟨q', rfl, hq'⟩
  · exact hinv.secretCalls hq
  · rw [effects_append]
    exact (hfe.append (hbe.append (hcn.append hbroker)) _
      ⟨hinv.secretCalls (List.prefix_refl _), secretCalls_complete _ rfl⟩ q' hq').1

/-! ### Passes and runs -/

/-- **A pass keeps the invariant**, whatever the cluster declares and whatever
fails. -/
theorem reconcile_inv (env : ReconcileEnv) (cr : DorisCluster) (S : Store) (fail : Oracle)
    (h : Inv cr.objKey S.present) : Inv cr.objKey (reconcile env cr ⟨S, [], fail⟩).2.store.present := by
  obtain ⟨q, hq, hS⟩ := reconcile_present env cr S fail
  rw [hS]
  exact h.canonicalCalls hq

/-- Once the Secret exists, no canonical call targets it. -/
theorem canonicalCalls_avoid_secret (cr : DorisCluster) :
    ∀ s ∈ DorisOperator.canonicalCalls cr true, s.target ≠ some (oprSecretRef cr.objKey) := by
  intro s hs ht
  simp only [DorisOperator.canonicalCalls, secretCalls, if_true, List.mem_append, List.mem_singleton,
    roleCalls] at hs
  have hnot := fun {R : RoleKeys} (hr : oprSecretRef cr.objKey ∈ R.refs cr.objKey) =>
    oprSecretRef_not_mem_refs R cr.objKey hr
  rcases hs with (((rfl | hs) | hs) | hs) | hs
  · simp at ht
  all_goals split at hs
  all_goals first
    | exact hnot (applyCalls_target (by simp) hs ht)
    | exact hnot (deleteCalls_target hs ht)

/-- A pass on a store holding the Secret makes no call targeting it and leaves it
as it is. -/
theorem reconcile_secret_untouched (env : ReconcileEnv) (cr : DorisCluster) (S : Store) (fail : Oracle)
    (h : S.present (oprSecretRef cr.objKey) = true) :
    (∀ e ∈ (reconcile env cr ⟨S, [], fail⟩).2.log, e.1.shape.target ≠ some (oprSecretRef cr.objKey)) ∧
    (reconcile env cr ⟨S, [], fail⟩).2.store.objects (oprSecretRef cr.objKey) =
      S.objects (oprSecretRef cr.objKey) := by
  have havoid := canonicalCalls_avoid_secret cr
  rw [← h] at havoid
  obtain ⟨p, hw, -, -, -, hpre, -⟩ := reconcile_follows_canonical env cr ⟨S, [], fail⟩
  refine ⟨fun e he => ?_, reconcile_objects_of_untargeted env cr S fail havoid⟩
  rw [hw, World.extend_log, List.nil_append] at he
  exact havoid _ (hpre.subset (List.mem_map_of_mem (·.1.shape) he))

/-- The moves of a run on the cluster `k`: a pass of the reconciler on any
specification of that cluster, against any failures; or a change of the
DorisAutoScaler bindings by another party. -/
inductive Step (env : ReconcileEnv) (k : NamespacedName) : Store → Store → Prop
  | pass (cr : DorisCluster) (fail : Oracle) (S : Store) (hk : cr.objKey = k) :
      Step env k S (reconcile env cr ⟨S, [], fail⟩).2.store
  | rebind (S : Store) (autoScalers : NamespacedName → Option DorisAutoScaler) :
      Step env k S { S with autoScalers := autoScalers }

theorem Step.inv {env : ReconcileEnv} {k : NamespacedName} {S S' : Store} (h : Step env k S S')
    (hinv : Inv k S.present) : Inv k S'.present := by
  cases h with
  | pass cr fail S hk =>
    subst hk
    exact reconcile_inv env cr S fail hinv
  | rebind => exact hinv

theorem Step.secret {env : ReconcileEnv} {k : NamespacedName} {S S' : Store} (h : Step env k S S')
    (hs : S.present (oprSecretRef k) = true) : S'.objects (oprSecretRef k) = S.objects (oprSecretRef k) := by
  cases h with
  | pass cr fail S hk =>
    subst hk
    exact (reconcile_secret_untouched env cr S fail hs).2
  | rebind => rfl

/-- **The invariant over runs.** Every store a run reaches from the empty store
satisfies `DorisOperator.Inv`; and once it holds the Secret, every store the
run goes on to reach holds the same Secret, and no pass from there targets it. -/
theorem run_invariant (env : ReconcileEnv) (k : NamespacedName) {S : Store}
    (h : Relation.ReflTransGen (Step env k) Store.empty S) :
    Inv k S.present ∧
    ∀ o, S.objects (oprSecretRef k) = some o → ∀ S', Relation.ReflTransGen (Step env k) S S' →
      S'.objects (oprSecretRef k) = some o ∧
      ∀ cr fail, cr.objKey = k →
        ∀ e ∈ (reconcile env cr ⟨S', [], fail⟩).2.log, e.1.shape.target ≠ some (oprSecretRef k) := by
  have hempty : Inv k Store.empty.present := by
    refine ⟨?_, ?_, ?_, ?_⟩ <;> intro h <;> cases h
  refine ⟨?_, fun o ho S' h' => ?_⟩
  · induction h with
    | refl => exact hempty
    | tail _ hstep ih => exact hstep.inv ih
  · have hS' : S'.objects (oprSecretRef k) = some o := by
      induction h' with
      | refl => exact ho
      | tail _ hstep ih => rw [hstep.secret (by simp [Store.present, ih]), ih]
    refine ⟨hS', fun cr fail hk e he => ?_⟩
    subst hk
    exact (reconcile_secret_untouched env cr S' fail (by simp [Store.present, hS'])).1 e he

/-- The cluster `doris` in the namespace `default`. -/
def dorisKey : NamespacedName := ⟨"default", "doris"⟩

/-- The store after a healthy pass of `builtCluster` on the empty store, and a
healthy pass once its BE is removed. -/
def beRemovedStore : Store := (reconcile plainEnv beRemovedCluster ⟨builtStore, [], healthy⟩).2.store

/-- A run that writes the BE, CN and Broker StatefulSets and then removes the
BE. -/
theorem run_invariant_beRemovedStore :
    Relation.ReflTransGen (Step plainEnv dorisKey) Store.empty beRemovedStore ∧
    builtStore.present ⟨.statefulSet, beKeys.statefulSet dorisKey⟩ = true ∧
    beRemovedStore.present ⟨.statefulSet, beKeys.statefulSet dorisKey⟩ = false ∧
    beRemovedStore.present ⟨.statefulSet, cnKeys.statefulSet dorisKey⟩ = true ∧
    beRemovedStore.present (oprSecretRef dorisKey) = true ∧
    Inv dorisKey beRemovedStore.present ∧
    ∀ o, beRemovedStore.objects (oprSecretRef dorisKey) = some o →
      ∀ S', Relation.ReflTransGen (Step plainEnv dorisKey) beRemovedStore S' →
      S'.objects (oprSecretRef dorisKey) = some o ∧
      ∀ cr fail, cr.objKey = dorisKey →
        ∀ e ∈ (reconcile plainEnv cr ⟨S', [], fail⟩).2.log, e.1.shape.target ≠ some (oprSecretRef dorisKey) := by
  have hrun : Relation.ReflTransGen (Step plainEnv dorisKey) Store.empty beRemovedStore :=
    .tail (.single (.pass builtCluster healthy Store.empty rfl)) (.pass beRemovedCluster healthy builtStore rfl)
  have hS : beRemovedStore.present = effects (canonicalCalls beRemovedCluster
      (builtStore.present (oprSecretRef dorisKey))) builtStore.present :=
    reconcile_present_of_built plainEnv beRemovedCluster builtStore (by decide)
  rw [builtStore_present] at hS
  refine ⟨hrun, by rw [builtStore_present]; decide, by rw [hS]; decide, by rw [hS]; decide, by rw [hS]; decide,
    run_invariant plainEnv dorisKey hrun⟩

end DorisOperator
