import Mathlib.Data.List.Nodup
import DorisOperator.Reconciler.Locality

/-!
# Reconciling twice

Against a store where no call fails, a pass of a cluster has converged the
store: a second pass with the same cluster returns what the first returned and
leaves every object as the first left it (`DorisOperator.reconcile_idempotent`).
The second pass still issues its writes, as the code issues them
unconditionally; each writes back what is already there: every prefix of its
calls leaves the store as the first pass left it
(`DorisOperator.reconcile_twice_noop`).

The second pass finds the Secret the first one made sure of, so its Secret stage
only looks. Its role stages see what the first pass's saw, the same verdicts and
the same autoscaler binding, and so issue the same calls
(`DorisOperator.roleStages_tracks`). Those calls target pairwise different
objects (`DorisOperator.roleLog_targets`; so do the calls of any pass,
`DorisOperator.reconcile_targets_nodup`), and a call applied twice does what it
does once (`DorisOperator.Call.apply_apply`), so replaying them again changes
nothing (`DorisOperator.replay_replay`). The argument holds as well after any
prefix of a healthy pass (`DorisOperator.reconcile_after_prefix_replay`), which
is what a failed pass leaves behind.
-/

namespace DorisOperator

/-! ### A call, and a log, applied twice -/

theorem Obj.mergeOnto_mergeOnto (o : Obj) (x : Option Obj) :
    o.mergeOnto (some (o.mergeOnto x)) = o.mergeOnto x := by
  cases o with
  | statefulSet s =>
    rcases x with _ | ⟨_ | _ | _ | live⟩ <;> simp only [Obj.mergeOnto, Option.or_self]
    cases s.spec.replicas <;> rfl
  | _ => rfl

theorem Store.put_put (S : Store) (r : ObjRef) (o o' : Option Obj) : (S.put r o).put r o' = S.put r o' := by
  simp [Store.put]

/-- A call applied twice does what it does once. -/
theorem Call.apply_apply (c : Call) (S : Store) : c.apply (c.apply S) = c.apply S := by
  cases c with
  | exist _ | findRefDorisAutoScaler _ => rfl
  | create _ | deleteWhenExist _ => exact Store.put_put _ _ _ _
  | createOrUpdate o =>
    simp only [Call.apply, Store.put_objects_self, Obj.mergeOnto_mergeOnto]
    exact Store.put_put _ _ _ _

/-- **A log whose calls target pairwise different objects, replayed again,
changes nothing.** -/
theorem replay_replay {q : Log} (hq : (Log.targets q).Nodup) (S : Store) : replay q (replay q S) = replay q S := by
  induction q generalizing S with
  | nil => rfl
  | cons e q ih =>
    obtain ⟨c, v⟩ := e
    -- the rest of the log never targets the object of the first call
    have hrest : (Log.targets q).Nodup ∧ ∀ r, c.shape.target = some r → r ∉ Log.targets q := by
      cases ht : c.shape.target with
      | none =>
        simp only [Log.targets, List.filterMap_cons, ht] at hq
        exact ⟨hq, nofun⟩
      | some r₀ =>
        simp only [Log.targets, List.filterMap_cons, ht, List.nodup_cons] at hq
        exact ⟨hq.2, fun r hr => Option.some.inj hr ▸ hq.1⟩
    cases v with
    | some _ => exact ih hrest.1 S
    | none =>
      have hcomm : ∀ T, c.apply (replay q T) = replay q (c.apply T) := fun T =>
        @replay_comm [(c, none)] q (fun r => by
          by_cases ht : c.shape.target = some r
          · exact .inr fun e he he' => hrest.2 r ht (List.mem_filterMap.mpr ⟨e, he, he'⟩)
          · exact .inl fun e he => by rw [List.mem_singleton.mp he]; exact ht) T
      show replay q (c.apply (replay q (c.apply S))) = replay q (c.apply S)
      rw [hcomm, Call.apply_apply, ih hrest.1]

/-- A log whose calls target pairwise different objects, replayed after a
prefix of it, ends where it ends alone. -/
theorem replay_prefix_replay {q₁ q : Log} (h : q₁ <+: q) (hq : (Log.targets q).Nodup) (S : Store) :
    replay q (replay q₁ S) = replay q S := by
  obtain ⟨q₂, rfl⟩ := h
  have hq₁ : (Log.targets q₁).Nodup := hq.sublist ((List.sublist_append_left q₁ q₂).filterMap _)
  rw [replay_append, replay_append, replay_replay hq₁]

/-- A log whose calls target pairwise different objects, replayed, is left as
it is by a prefix of it replayed again. -/
theorem replay_prefix_after {q₁ q : Log} (h : q₁ <+: q) (hq : (Log.targets q).Nodup) (S : Store) :
    replay q₁ (replay q S) = replay q S := by
  obtain ⟨q₂, rfl⟩ := h
  have hd := List.nodup_append.mp (by rwa [Log.targets, List.filterMap_append] at hq)
  have hcomm : ∀ r, (∀ e ∈ q₁, e.1.shape.target ≠ some r) ∨ ∀ e ∈ q₂, e.1.shape.target ≠ some r := by
    intro r
    by_cases hr : r ∈ Log.targets q₁
    · exact .inr fun e he ht => hd.2.2 hr (List.mem_filterMap.mpr ⟨e, he, ht⟩)
    · exact .inl fun e he ht => hr (List.mem_filterMap.mpr ⟨e, he, ht⟩)
  rw [replay_append, replay_comm hcomm, replay_replay hd.1]

/-! ### The role calls target different objects -/

/-- The calls of the four role stages, after the Secret stage. -/
def roleCanonical (cr : DorisCluster) : List CallShape :=
  roleCalls feKeys [] cr.spec.fe.isSome cr.objKey ++ roleCalls beKeys [] cr.spec.be.isSome cr.objKey ++
    roleCalls cnKeys [.findRefDorisAutoScaler cr.objKey] cr.spec.cn.isSome cr.objKey ++
    roleCalls brokerKeys [] cr.spec.broker.isSome cr.objKey

theorem canonicalCalls_eq (cr : DorisCluster) (found : Bool) :
    canonicalCalls cr found = secretCalls cr.objKey found ++ roleCanonical cr := by
  simp [canonicalCalls, roleCanonical, List.append_assoc]

theorem perm_cons_append_singleton {α : Type} (a b : α) (l : List α) :
    (a :: (l ++ [b])).Perm (b :: (l ++ [a])) :=
  ((List.perm_append_singleton b l).cons a).trans
    ((List.Perm.swap b a l).trans ((List.perm_append_singleton a l).symm.cons b))

/-- A role's calls target its objects, each once. -/
theorem roleCalls_targets_perm (R : RoleKeys) (lookups : List CallShape)
    (hl : lookups.filterMap CallShape.target = []) (present : Bool) (k : NamespacedName) :
    ((roleCalls R lookups present k).filterMap CallShape.target).Perm (R.refs k) := by
  have hs : ∀ f : (NamespacedName → NamespacedName) → ObjRef,
      R.services.filterMap (fun key => some (f key)) = R.services.map f :=
    fun f => congrFun (List.filterMap_eq_map f) _
  cases present
  · simp only [roleCalls, deleteCalls, RoleKeys.refs, Bool.false_eq_true, if_false, List.filterMap_cons,
      List.filterMap_append, List.filterMap_map, List.filterMap_nil, Function.comp_def,
      CallShape.target_deleteWhenExist, hs, List.cons_append]
    exact perm_cons_append_singleton _ _ _
  · simp [roleCalls, applyCalls, RoleKeys.refs, List.filterMap_append, hl, Function.comp_def, hs]

theorem clusterRefs_nodup (k : NamespacedName) : (clusterRefs k).Nodup := by
  unfold clusterRefs
  exact List.Nodup.map (fun _ _ h => refAt_inj h) (by decide)

/-- The objects of a cluster's four roles: its identities but the Secret. -/
def roleRefs (k : NamespacedName) : List ObjRef :=
  feKeys.refs k ++ beKeys.refs k ++ cnKeys.refs k ++ brokerKeys.refs k

theorem roleCanonical_targets_perm (cr : DorisCluster) :
    ((roleCanonical cr).filterMap CallShape.target).Perm (roleRefs cr.objKey) := by
  simp only [roleCanonical, roleRefs, List.filterMap_append]
  exact (((roleCalls_targets_perm feKeys [] rfl _ _).append (roleCalls_targets_perm beKeys [] rfl _ _)).append
    (roleCalls_targets_perm cnKeys [.findRefDorisAutoScaler cr.objKey] rfl _ _)).append
    (roleCalls_targets_perm brokerKeys [] rfl _ _)

/-- **The calls of the role stages target pairwise different objects**, and
never the Secret. -/
theorem roleCanonical_targets (cr : DorisCluster) :
    ((roleCanonical cr).filterMap CallShape.target).Nodup ∧
      oprSecretRef cr.objKey ∉ (roleCanonical cr).filterMap CallShape.target := by
  obtain ⟨hs, hnd⟩ := List.nodup_cons.mp
    (clusterRefs_nodup cr.objKey : (oprSecretRef cr.objKey :: roleRefs cr.objKey).Nodup)
  exact ⟨hnd.perm (roleCanonical_targets_perm cr).symm, fun h => hs ((roleCanonical_targets_perm cr).subset h)⟩

/-- In a pass that begins with the Secret stage's calls `ps`, the calls `q` of
the role stages target pairwise different objects, and never the Secret –
whatever fails. -/
theorem roleLog_targets (env : ReconcileEnv) (cr : DorisCluster) (S : Store) (fail : Oracle) {ps q : Log}
    (hlog : (reconcile env cr ⟨S, [], fail⟩).2 = World.extend ⟨S, [], fail⟩ (ps ++ q))
    (hs : ps.map (·.1.shape) = secretCalls cr.objKey (S.present (oprSecretRef cr.objKey))) :
    (Log.targets q).Nodup ∧ oprSecretRef cr.objKey ∉ Log.targets q := by
  obtain ⟨p, hp, -, -, -, hpre, -⟩ := reconcile_follows_canonical env cr ⟨S, [], fail⟩
  obtain rfl := World.extend_log_inj (hp.symm.trans hlog)
  rw [canonicalCalls_eq, List.map_append, hs] at hpre
  have hq : (Log.targets q).Sublist ((roleCanonical cr).filterMap CallShape.target) := by
    rw [Log.targets_eq]
    exact ((List.prefix_append_right_inj _).mp hpre).sublist.filterMap _
  exact ⟨(roleCanonical_targets cr).1.sublist hq, fun h => (roleCanonical_targets cr).2 (hq.subset h)⟩

/-- The canonical calls target pairwise different objects. -/
theorem canonicalCalls_targets_nodup (cr : DorisCluster) (found : Bool) :
    ((canonicalCalls cr found).filterMap CallShape.target).Nodup := by
  rw [canonicalCalls_eq, List.filterMap_append]
  obtain ⟨hnd, hsec⟩ := roleCanonical_targets cr
  cases found
  · exact List.nodup_cons.mpr ⟨hsec, hnd⟩
  · exact hnd

/-- **The calls of a pass target pairwise different objects**, whatever fails. -/
theorem reconcile_targets_nodup (env : ReconcileEnv) (cr : DorisCluster) (S : Store) (fail : Oracle) :
    (Log.targets (reconcile env cr ⟨S, [], fail⟩).2.log).Nodup := by
  obtain ⟨p, hp, -, -, -, hpre, -⟩ := reconcile_follows_canonical env cr ⟨S, [], fail⟩
  rw [hp]
  show (Log.targets p).Nodup
  rw [Log.targets_eq]
  exact (canonicalCalls_targets_nodup cr _).sublist (hpre.sublist.filterMap _)

/-! ### The Secret stage against a healthy store -/

/-- Against a store where no call fails, the Secret stage succeeds after its
canonical calls, each of which succeeds. -/
theorem recOprAccountSecret_healthy (env : ReconcileEnv) (cr : DorisCluster) (w : World)
    (hw : w.fail = healthy) :
    ∃ p, recOprAccountSecret env cr w =
        (.ret (clusterStageSucc .stageSqlAccountSecret .stageActionApply), w.extend p) ∧
      p.map (·.1.shape) = secretCalls cr.objKey (w.store.present (oprSecretRef cr.objKey)) ∧
      ∀ e ∈ p, e.2 = none := by
  refine ⟨_, recOprAccountSecret_succ env cr w (fun _ => by rw [hw]; rfl) (fun _ => by rw [hw]; rfl), ?_, ?_⟩
  · simp only [secretCalls, Store.present, oprSecretRef]
    split <;> simp [Call.shape, Obj.ref, env.secret_named]
  · split <;> simp

/-- After the Secret stage's calls, all successful, the Secret exists. -/
theorem present_after_secretCalls {p : Log} (hp : ∀ e ∈ p, e.2 = none) {k : NamespacedName} {S : Store}
    (hs : p.map (·.1.shape) = secretCalls k (S.present (oprSecretRef k))) :
    (replay p S).present (oprSecretRef k) = true := by
  rw [present_replay_of_succeeded hp, hs]
  exact secretCalls_complete _ rfl

/-- Once the Secret stage has succeeded, a pass goes on with the role stages. -/
theorem reconcile_of_secret (env : ReconcileEnv) (cr : DorisCluster) {w w' : World}
    (h : recOprAccountSecret env cr w = (.ret (clusterStageSucc .stageSqlAccountSecret .stageActionApply), w')) :
    reconcile env cr w = runStages (roleStages env cr) w' := by
  rw [reconcile_eq]
  simp only [runStages, Rec.bind_apply, h]
  rfl

/-- A prefix of a list is the list, or a prefix of the list without its last
element. -/
theorem prefix_eq_or_prefix_dropLast {α : Type} {l₁ l₂ : List α} (h : l₁ <+: l₂) :
    l₁ = l₂ ∨ l₁ <+: l₂.dropLast := by
  obtain ⟨t, rfl⟩ := h
  rcases t.eq_nil_or_concat with rfl | ⟨t, x, rfl⟩
  · exact .inl (List.append_nil _).symm
  · right
    rw [List.concat_eq_append, ← List.append_assoc, List.dropLast_concat]
    exact List.prefix_append _ _

/-- The Secret stage's calls but the last target nothing. -/
theorem secretCalls_dropLast_targets (k : NamespacedName) (found : Bool) :
    (secretCalls k found).dropLast.filterMap CallShape.target = [] := by
  cases found <;> rfl

/-! ### Reconciling after a prefix of a healthy pass -/

/-- **A healthy pass completes what a prefix of it began.** Replay any prefix
of the calls of a pass against a healthy store; a pass from there returns what
that pass returned and leaves the store as it left it. -/
theorem reconcile_after_prefix_replay (env : ReconcileEnv) (cr : DorisCluster) (S : Store) {H₁ : Log}
    (h : H₁ <+: (reconcile env cr ⟨S, [], healthy⟩).2.log) :
    (reconcile env cr ⟨replay H₁ S, [], healthy⟩).1 = (reconcile env cr ⟨S, [], healthy⟩).1 ∧
    (reconcile env cr ⟨replay H₁ S, [], healthy⟩).2.store = (reconcile env cr ⟨S, [], healthy⟩).2.store := by
  obtain ⟨ps, hps, hs, hsn⟩ := recOprAccountSecret_healthy env cr ⟨S, [], healthy⟩ rfl
  have hrun := reconcile_of_secret env cr hps
  obtain ⟨q, hq⟩ := (runStages_tracks (roleStages_tracks env cr)).extends (World.extend ⟨S, [], healthy⟩ ps)
  have hlog : (reconcile env cr ⟨S, [], healthy⟩).2 = World.extend ⟨S, [], healthy⟩ (ps ++ q) := by
    rw [hrun, hq, World.extend_extend]
  obtain ⟨hnd, hsec⟩ := roleLog_targets env cr S healthy hlog hs
  rw [hlog, World.extend_log, List.nil_append] at h
  -- the prefix only looks, or it made the Secret stage's calls and some of the role stages'
  have hcases : Log.targets H₁ = [] ∨ ∃ q₁, H₁ = ps ++ q₁ ∧ q₁ <+: q := by
    rcases prefix_append_cases h with h | ⟨q₁, rfl, hq₁⟩
    · rcases prefix_eq_or_prefix_dropLast h with rfl | h
      · exact .inr ⟨[], (List.append_nil _).symm, List.nil_prefix⟩
      · refine .inl (List.eq_nil_of_sublist_nil ?_)
        rw [Log.targets_eq, ← secretCalls_dropLast_targets cr.objKey (S.present (oprSecretRef cr.objKey)), ← hs,
          ← List.map_dropLast]
        exact (h.map _).sublist.filterMap _
    · exact .inr ⟨q₁, rfl, hq₁⟩
  rcases hcases with hnil | ⟨q₁, rfl, hq₁⟩
  · rw [replay_of_targets_nil hnil]
    exact ⟨rfl, rfl⟩
  -- the Secret exists after the prefix, so the next pass only looks for it
  have hpres : (replay (ps ++ q₁) S).present (oprSecretRef cr.objKey) = true := by
    rw [replay_append, Store.present,
      replay_objects_of_untargeted _ fun e he ht => hsec (List.mem_filterMap.mpr ⟨e, hq₁.subset he, ht⟩)]
    exact present_after_secretCalls hsn hs
  obtain ⟨ps₂, hps₂, hs₂, -⟩ := recOprAccountSecret_healthy env cr ⟨replay (ps ++ q₁) S, [], healthy⟩ rfl
  have hnil : Log.targets ps₂ = [] := by
    rw [Log.targets_eq, hs₂]
    simp [hpres, secretCalls]
  rw [reconcile_of_secret env cr hps₂, hrun]
  -- the role stages of the two passes see the same binding, and no call fails
  rcases runStages_tracks (roleStages_tracks env cr) (World.extend ⟨S, [], healthy⟩ ps)
      (World.extend ⟨replay (ps ++ q₁) S, [], healthy⟩ ps₂) (by simp [bindingView]) with
    ⟨q', hout, hq₁', hq₂'⟩ | ⟨_, _, _, _, hne, -⟩
  · obtain rfl := World.extend_log_inj (hq₁'.symm.trans hq)
    refine ⟨hout.symm, ?_⟩
    rw [hq₂', hq]
    simp only [World.extend_store, replay_of_targets_nil hnil]
    rw [replay_append, replay_prefix_replay hq₁ hnd]
  · exact absurd rfl hne

/-! ### Reconciling twice -/

/-- **Reconciling twice changes nothing.** Against a store where no call fails,
a second pass of the same cluster returns what the first returned – its result,
or the same panic – and leaves the store as the first left it. -/
theorem reconcile_idempotent (env : ReconcileEnv) (cr : DorisCluster) (S : Store) :
    (reconcile env cr ⟨(reconcile env cr ⟨S, [], healthy⟩).2.store, [], healthy⟩).1 =
      (reconcile env cr ⟨S, [], healthy⟩).1 ∧
    (reconcile env cr ⟨(reconcile env cr ⟨S, [], healthy⟩).2.store, [], healthy⟩).2.store =
      (reconcile env cr ⟨S, [], healthy⟩).2.store := by
  obtain ⟨p, hp, -⟩ := reconcile_extend env cr S healthy
  have key := reconcile_after_prefix_replay env cr S (show p <+: _ by rw [hp]; exact List.prefix_refl p)
  have hS : (reconcile env cr ⟨S, [], healthy⟩).2.store = replay p S := by rw [hp]; rfl
  rw [hS] at key ⊢
  exact key

/-- **The second of two passes writes nothing new, call by call.** Against a
store where no call fails, every prefix of the calls of a second pass of the
same cluster, replayed on the store the first pass left, leaves that store as it
is: each write of the second pass finds its object as the write leaves it. -/
theorem reconcile_twice_noop (env : ReconcileEnv) (cr : DorisCluster) (S : Store) (n : Nat) :
    replay ((reconcile env cr ⟨(reconcile env cr ⟨S, [], healthy⟩).2.store, [], healthy⟩).2.log.take n)
      (reconcile env cr ⟨S, [], healthy⟩).2.store = (reconcile env cr ⟨S, [], healthy⟩).2.store := by
  obtain ⟨p, hp, -⟩ := reconcile_extend env cr S healthy
  generalize hS₁ : (reconcile env cr ⟨S, [], healthy⟩).2.store = S₁
  obtain ⟨p₂, hp₂, -⟩ := reconcile_extend env cr S₁ healthy
  -- the second pass, replayed whole, changes nothing
  have hsame : replay p₂ S₁ = S₁ := by
    have h := (reconcile_after_prefix_replay env cr S (show p <+: _ by rw [hp]; exact List.prefix_refl p)).2
    rw [hS₁, show replay p S = S₁ by rw [← hS₁, hp]; rfl, hp₂] at h
    exact h
  have hnd := reconcile_targets_nodup env cr S₁ healthy
  rw [hp₂] at hnd ⊢
  calc replay (p₂.take n) S₁ = replay (p₂.take n) (replay p₂ S₁) := by rw [hsame]
    _ = replay p₂ S₁ := replay_prefix_after (List.take_prefix n p₂) hnd S₁
    _ = S₁ := hsame

end DorisOperator
