import DorisOperator.Reconciler.Idempotence

/-!
# A failed pass heals at the next

`Reconcile` is fail-fast and does not roll back: the first stage that reports an
error ends the pass, and what the earlier calls did stays done. The design
expects that partial work to be completed by the next pass. This module proves
it of the model.

A failure only cuts a pass short (`DorisOperator.reconcile_truncates`). A pass
reads the store only through its cluster's Secret and autoscaler binding, so
against any oracle it issues the calls of the pass against a healthy store, one
for one, until the first call the oracle fails; and there it stops, since every
stage returns at its first error. What such a pass leaves is therefore a prefix
of a healthy pass replayed, and a healthy pass started from there ends where
the healthy pass ends (`DorisOperator.reconcile_after_prefix_replay`). Together:
after a pass that fails anywhere, a pass against a healthy store returns what a
healthy pass returns and leaves the store as it would
(`DorisOperator.reconcile_heals`).

The same holds over whole runs of the system (`DorisOperator.StableStep`): passes
of the cluster that fail anywhere, passes of other clusters, and changes of other
clusters' autoscaler bindings, in any number and order, change nothing of what
the next healthy pass of the cluster returns and makes of its objects
(`DorisOperator.sysRun_heals`). The passes of other clusters do not touch what
the cluster's pass reads or its objects (`DorisOperator.reconcile_congr`).
-/

namespace DorisOperator

/-- A clean log whose call `(c, some e)` failed ends with that call. -/
theorem Log.Clean.eq_nil_of_failed {a p : Log} {c : Call} {e : Error} (hc : (a ++ (c, some e) :: p).Clean) :
    p = [] := by
  rcases p.eq_nil_or_concat with rfl | ⟨p, x, rfl⟩
  · rfl
  · rw [List.concat_eq_append, ← List.cons_append, ← List.append_assoc] at hc
    have := hc (c, some e) (by rw [List.dropLast_concat]; simp)
    simp at this

/-- **A failure only cuts a pass short.** Against any oracle, a pass issues the
calls of the pass against a healthy store, in the same order, up to its first
failed call, and stops there; when no call fails, it is that pass. -/
theorem reconcile_truncates (env : ReconcileEnv) (cr : DorisCluster) (S : Store) (fail : Oracle) :
    ((reconcile env cr ⟨S, [], fail⟩).1 = (reconcile env cr ⟨S, [], healthy⟩).1 ∧
      (reconcile env cr ⟨S, [], fail⟩).2.log = (reconcile env cr ⟨S, [], healthy⟩).2.log) ∨
    ∃ a c e rest, (reconcile env cr ⟨S, [], fail⟩).2.log = a ++ [(c, some e)] ∧
      (reconcile env cr ⟨S, [], healthy⟩).2.log = a ++ (c, none) :: rest := by
  rcases reconcile_tracks env cr ⟨S, [], fail⟩ ⟨S, [], healthy⟩ ((secretView cr.objKey).refl S) with
    ⟨p, h1, h2, h3⟩ | ⟨a, c, p, p', hne, h2, h3⟩
  · exact .inl ⟨h1, by rw [h2, h3]; rfl⟩
  · simp only [List.nil_append, healthy] at hne h2
    obtain ⟨e, he⟩ := Option.ne_none_iff_exists'.mp hne
    obtain ⟨q, hq, -, hc, -⟩ := reconcile_follows_canonical env cr ⟨S, [], fail⟩
    obtain rfl := World.extend_log_inj (hq.symm.trans h2)
    rw [he] at hc
    obtain rfl := hc.eq_nil_of_failed
    exact .inr ⟨a, c, e, p', by simp only [h2, World.extend_log, List.nil_append, he], by rw [h3]; rfl⟩

/-- **A failed pass heals at the next.** Whatever fails in a pass, a pass
against a healthy store after it returns what a pass against a healthy store
returns from where the failed pass began, and leaves the store as that pass
leaves it. -/
theorem reconcile_heals (env : ReconcileEnv) (cr : DorisCluster) (S : Store) (fail : Oracle) :
    (reconcile env cr ⟨(reconcile env cr ⟨S, [], fail⟩).2.store, [], healthy⟩).1 =
      (reconcile env cr ⟨S, [], healthy⟩).1 ∧
    (reconcile env cr ⟨(reconcile env cr ⟨S, [], fail⟩).2.store, [], healthy⟩).2.store =
      (reconcile env cr ⟨S, [], healthy⟩).2.store := by
  obtain ⟨p, hp, -⟩ := reconcile_extend env cr S fail
  have hS : (reconcile env cr ⟨S, [], fail⟩).2.store = replay (reconcile env cr ⟨S, [], fail⟩).2.log S := by
    rw [hp]
    rfl
  rw [hS]
  rcases reconcile_truncates env cr S fail with ⟨-, hlog⟩ | ⟨a, c, e, rest, hlog, hH⟩
  · rw [hlog]
    exact reconcile_after_prefix_replay env cr S (List.prefix_refl _)
  · -- the failed call took no effect
    rw [hlog, replay_append, show replay [(c, some e)] (replay a S) = replay a S from rfl]
    exact reconcile_after_prefix_replay env cr S (by rw [hH]; exact List.prefix_append _ _)

/-! ### Runs of the system -/

/-- A step of the system that leaves the cluster `cr` as declared: a pass of
`cr` itself, whatever fails; a pass of another cluster, whatever fails; or a
change of the autoscaler bindings that keeps the binding of `cr`. -/
inductive StableStep (env : ReconcileEnv) (cr : DorisCluster) : Store → Store → Prop
  | self (fail : Oracle) (S : Store) : StableStep env cr S (reconcile env cr ⟨S, [], fail⟩).2.store
  | other (cr' : DorisCluster) (fail : Oracle) (S : Store) (h : cr'.objKey ≠ cr.objKey) :
      StableStep env cr S (reconcile env cr' ⟨S, [], fail⟩).2.store
  | rebind (S : Store) (autoScalers : NamespacedName → Option DorisAutoScaler)
      (h : autoScalers cr.objKey = S.autoScalers cr.objKey) :
      StableStep env cr S { S with autoScalers := autoScalers }

/-- From two stores that agree on what a pass of `cr` reads and on the objects
of `cr`, passes of `cr` return the same outcome and leave the same objects of
`cr`. -/
theorem reconcile_congr (env : ReconcileEnv) (cr : DorisCluster) (fail : Oracle) {S₁ S₂ : Store}
    (hv : (passView cr.objKey).rel ⟨S₁, [], fail⟩ ⟨S₂, [], fail⟩)
    (ho : ∀ r ∈ clusterRefs cr.objKey, S₁.objects r = S₂.objects r) :
    (reconcile env cr ⟨S₂, [], fail⟩).1 = (reconcile env cr ⟨S₁, [], fail⟩).1 ∧
    ∀ r ∈ clusterRefs cr.objKey, (reconcile env cr ⟨S₂, [], fail⟩).2.store.objects r =
      (reconcile env cr ⟨S₁, [], fail⟩).2.store.objects r := by
  obtain ⟨p, h1, h2, h3⟩ := reconcile_local env cr _ _ hv
  refine ⟨h1.symm, fun r hr => ?_⟩
  rw [h2, h3]
  exact (replay_objects_congr p (ho r hr)).symm

/-- One step that leaves `cr` as declared changes nothing of what the next
healthy pass of `cr` returns and does to the objects of `cr`. -/
theorem StableStep.heals {env : ReconcileEnv} {cr : DorisCluster} {S₁ S₂ : Store} (h : StableStep env cr S₁ S₂) :
    (reconcile env cr ⟨S₂, [], healthy⟩).1 = (reconcile env cr ⟨S₁, [], healthy⟩).1 ∧
    ∀ r ∈ clusterRefs cr.objKey, (reconcile env cr ⟨S₂, [], healthy⟩).2.store.objects r =
      (reconcile env cr ⟨S₁, [], healthy⟩).2.store.objects r := by
  cases h with
  | self fail _ =>
    obtain ⟨h1, h2⟩ := reconcile_heals env cr S₁ fail
    exact ⟨h1, fun r _ => by rw [h2]⟩
  | other cr' fail _ h =>
    exact reconcile_congr env cr healthy (sees_after_other env h S₁ healthy fail)
      fun r hr => (reconcile_objects_of_other env cr' S₁ fail h hr).symm
  | rebind _ autoScalers h => exact reconcile_congr env cr healthy ⟨⟨fun _ _ => rfl, h.symm⟩, rfl⟩ fun _ _ => rfl

/-- **A cluster converges whatever happens around it.** Take any run of the
system in which the cluster `cr` stays as declared: passes of `cr` that fail
anywhere, passes of any other clusters, changes of any other cluster's
autoscaler binding. A healthy pass of `cr` at its end returns what a healthy pass
of `cr` returns at its start, leaves the objects of `cr` as that pass leaves
them, and every other object as the run left it. The Secret among them is the
same because the Secret builder is a function of the cluster
(`DorisOperator.ReconcileEnv.makeOprSqlAccountSecret`). -/
theorem sysRun_heals (env : ReconcileEnv) (cr : DorisCluster) {S S' : Store}
    (h : Relation.ReflTransGen (StableStep env cr) S S') :
    (reconcile env cr ⟨S', [], healthy⟩).1 = (reconcile env cr ⟨S, [], healthy⟩).1 ∧
    ∀ r, (reconcile env cr ⟨S', [], healthy⟩).2.store.objects r =
      if r ∈ clusterRefs cr.objKey then (reconcile env cr ⟨S, [], healthy⟩).2.store.objects r
      else S'.objects r := by
  have hrun : (reconcile env cr ⟨S', [], healthy⟩).1 = (reconcile env cr ⟨S, [], healthy⟩).1 ∧
      ∀ r ∈ clusterRefs cr.objKey, (reconcile env cr ⟨S', [], healthy⟩).2.store.objects r =
        (reconcile env cr ⟨S, [], healthy⟩).2.store.objects r := by
    induction h with
    | refl => exact ⟨rfl, fun _ _ => rfl⟩
    | tail _ hstep ih =>
      obtain ⟨h1, h2⟩ := hstep.heals
      exact ⟨h1.trans ih.1, fun r hr => (h2 r hr).trans (ih.2 r hr)⟩
  refine ⟨hrun.1, fun r => ?_⟩
  split_ifs with hr
  · exact hrun.2 r hr
  · exact reconcile_objects_of_untargeted env cr S' healthy fun s hs ht => hr (canonicalCalls_target cr _ hs ht)

/-- The oracle under which every write of a StatefulSet fails with `e`, and every
other call succeeds. -/
def statefulSetWritesFail (e : Error) : Oracle := fun _ c =>
  match c with
  | .createOrUpdate (.statefulSet _) => some e
  | _ => none

/-- The store a pass of `builtCluster` leaves on the empty store when every
StatefulSet write fails. -/
def failedPassStore : Store :=
  (reconcile plainEnv builtCluster ⟨Store.empty, [], statefulSetWritesFail ⟨"conflict"⟩⟩).2.store

/-- A pass that fails at the BE StatefulSet, after writing the Secret and the BE
ConfigMap and Services; the next healthy pass completes and writes the BE
StatefulSet, as a healthy pass on the empty store does. -/
theorem sysRun_heals_failedPass :
    (reconcile plainEnv builtCluster ⟨Store.empty, [], statefulSetWritesFail ⟨"conflict"⟩⟩).1 =
      .ret (clusterStageFail .stageBeStatefulSet .stageActionApply ⟨"conflict"⟩) ∧
    failedPassStore.present ⟨.configMap, beKeys.configMap dorisKey⟩ = true ∧
    failedPassStore.present ⟨.statefulSet, beKeys.statefulSet dorisKey⟩ = false ∧
    Relation.ReflTransGen (StableStep plainEnv builtCluster) Store.empty failedPassStore ∧
    (reconcile plainEnv builtCluster ⟨failedPassStore, [], healthy⟩).1 = .ret completeResult ∧
    (reconcile plainEnv builtCluster ⟨failedPassStore, [], healthy⟩).2.store.present
      ⟨.statefulSet, beKeys.statefulSet dorisKey⟩ = true ∧
    (reconcile plainEnv builtCluster ⟨failedPassStore, [], healthy⟩).1 =
      (reconcile plainEnv builtCluster ⟨Store.empty, [], healthy⟩).1 ∧
    ∀ r, (reconcile plainEnv builtCluster ⟨failedPassStore, [], healthy⟩).2.store.objects r =
      if r ∈ clusterRefs builtCluster.objKey then
        (reconcile plainEnv builtCluster ⟨Store.empty, [], healthy⟩).2.store.objects r
      else failedPassStore.objects r := by
  have hrun : Relation.ReflTransGen (StableStep plainEnv builtCluster) Store.empty failedPassStore :=
    .single (.self (statefulSetWritesFail ⟨"conflict"⟩) Store.empty)
  have H := sysRun_heals plainEnv builtCluster hrun
  have hc := ((if_pos (by decide)).mp (reconcile_healthy_run plainEnv builtCluster Store.empty)).1
  have hbe : (reconcile plainEnv builtCluster ⟨failedPassStore, [], healthy⟩).2.store.present
      ⟨.statefulSet, beKeys.statefulSet dorisKey⟩ = true := by
    have hB : (reconcile plainEnv builtCluster ⟨Store.empty, [], healthy⟩).2.store = builtStore := rfl
    have h : builtStore.present ⟨.statefulSet, beKeys.statefulSet dorisKey⟩ = true := by
      rw [builtStore_present]
      decide
    rw [Store.present, H.2, if_pos (by decide), hB]
    exact h
  exact ⟨rfl, by decide, by decide, hrun, H.1.trans hc, hbe, H⟩

end DorisOperator
