import DorisOperator.Reconciler.Calls
import DorisOperator.Reconciler.Results

/-!
# What a pass does to the store

A call changes at most one object, its target (`DorisOperator.CallShape.target`),
so a log leaves every object that none of its calls targets as it found it
(`DorisOperator.replay_objects_of_untargeted`). Which objects exist after a call
that succeeds is told by the call's shape alone: a creation or a write makes
its target exist, a deletion makes it absent (`DorisOperator.CallShape.effect`).
The calls of a pass all succeed but perhaps the last, so which objects exist
after a pass is the effect of a prefix of the calls it made
(`DorisOperator.present_replay`), and so of a prefix of the canonical sequence
(`DorisOperator.reconcile_present`). The invariants over runs are read from
this.

The last section is the delete path of the FE: when it succeeds, the four
objects the FE apply path writes are gone and nothing else has changed; run
again, it changes nothing, and it succeeds (`DorisOperator.feDelete_clears`).
-/

namespace DorisOperator

/-! ### The object a call changes -/

/-- The object a call may change: the one it creates, writes or deletes. -/
def CallShape.target : CallShape → Option ObjRef
  | .create r | .createOrUpdate r | .deleteWhenExist r => some r
  | .exist _ | .findRefDorisAutoScaler _ => none

@[simp] theorem CallShape.target_exist (r : ObjRef) : (CallShape.exist r).target = none := rfl

@[simp] theorem CallShape.target_create (r : ObjRef) : (CallShape.create r).target = some r := rfl

@[simp] theorem CallShape.target_createOrUpdate (r : ObjRef) :
    (CallShape.createOrUpdate r).target = some r := rfl

@[simp] theorem CallShape.target_findRefDorisAutoScaler (k : NamespacedName) :
    (CallShape.findRefDorisAutoScaler k).target = none := rfl

@[simp] theorem CallShape.target_deleteWhenExist (r : ObjRef) :
    (CallShape.deleteWhenExist r).target = some r := rfl

theorem Call.apply_objects_of_target_ne (c : Call) (S : Store) {r : ObjRef}
    (h : c.shape.target ≠ some r) : (c.apply S).objects r = S.objects r := by
  cases c with
  | exist _ | findRefDorisAutoScaler _ => rfl
  | create _ | createOrUpdate _ | deleteWhenExist _ =>
    exact Store.put_objects_ne _ _ fun he => h (by subst he; rfl)

/-- **Frame**: a log none of whose calls targets `r` leaves `r` as it was. -/
theorem replay_objects_of_untargeted {l : Log} (S : Store) {r : ObjRef}
    (h : ∀ e ∈ l, e.1.shape.target ≠ some r) : (replay l S).objects r = S.objects r := by
  induction l generalizing S with
  | nil => rfl
  | cons e l ih =>
    rw [← List.singleton_append, replay_append, ih _ fun e' he' => h e' (.tail _ he')]
    rcases e with ⟨c, _ | _⟩
    · exact c.apply_objects_of_target_ne S (h _ (.head _))
    · rfl

theorem Call.apply_of_shape_delete {c : Call} {r : ObjRef} (h : c.shape = .deleteWhenExist r)
    (S : Store) : c.apply S = S.put r none := by
  cases c <;> simp only [Call.shape, CallShape.deleteWhenExist.injEq, reduceCtorEq] at h
  subst h
  rfl

theorem Store.put_none_of_absent {S : Store} {r : ObjRef} (h : S.objects r = none) : S.put r none = S := by
  rw [← h]
  exact congrArg (fun o => { S with objects := o }) (Function.update_eq_self r S.objects)

/-! ### Which objects exist -/

/-- Which objects a store holds. -/
def Store.present (S : Store) (r : ObjRef) : Bool := (S.objects r).isSome

/-- What a call that succeeds does to which objects exist. -/
def CallShape.effect : CallShape → (ObjRef → Bool) → ObjRef → Bool
  | .create r, E | .createOrUpdate r, E => Function.update E r true
  | .deleteWhenExist r, E => Function.update E r false
  | .exist _, E | .findRefDorisAutoScaler _, E => E

@[simp] theorem CallShape.effect_exist (r : ObjRef) (E : ObjRef → Bool) :
    (CallShape.exist r).effect E = E := rfl

@[simp] theorem CallShape.effect_create (r : ObjRef) (E : ObjRef → Bool) :
    (CallShape.create r).effect E = Function.update E r true := rfl

@[simp] theorem CallShape.effect_createOrUpdate (r : ObjRef) (E : ObjRef → Bool) :
    (CallShape.createOrUpdate r).effect E = Function.update E r true := rfl

@[simp] theorem CallShape.effect_findRefDorisAutoScaler (k : NamespacedName) (E : ObjRef → Bool) :
    (CallShape.findRefDorisAutoScaler k).effect E = E := rfl

@[simp] theorem CallShape.effect_deleteWhenExist (r : ObjRef) (E : ObjRef → Bool) :
    (CallShape.deleteWhenExist r).effect E = Function.update E r false := rfl

theorem Call.present_apply (c : Call) (S : Store) : (c.apply S).present = c.shape.effect S.present := by
  funext r
  cases c <;> simp only [Call.apply, Call.shape, CallShape.effect, Store.present, Store.put]
  all_goals first | rfl | (rw [Function.update_apply, Function.update_apply]; split <;> rfl)

/-- Which objects exist after the calls `cs`, all successful. -/
def effects (cs : List CallShape) (E : ObjRef → Bool) : ObjRef → Bool :=
  cs.foldl (fun E s => s.effect E) E

@[simp] theorem effects_nil (E : ObjRef → Bool) : effects [] E = E := rfl

theorem effects_cons (s : CallShape) (cs : List CallShape) (E : ObjRef → Bool) :
    effects (s :: cs) E = effects cs (s.effect E) := rfl

theorem effects_append (cs cs' : List CallShape) (E : ObjRef → Bool) :
    effects (cs ++ cs') E = effects cs' (effects cs E) :=
  List.foldl_append _ _ _ _

/-- Calls none of which deletes leave an object existing when it did, or when
one of them targets it. -/
theorem effects_of_no_deletes {q : List CallShape} (hq : ∀ s ∈ q, ∀ r, s ≠ .deleteWhenExist r)
    (E : ObjRef → Bool) (r : ObjRef) :
    effects q E r = true ↔ E r = true ∨ ∃ s ∈ q, s.target = some r := by
  induction q generalizing E with
  | nil => simp
  | cons s q ih =>
    rw [effects_cons, ih (fun s' hs' => hq s' (.tail _ hs'))]
    simp only [List.mem_cons, or_and_right, exists_or, exists_eq_left]
    cases s with
    | create r₀ | createOrUpdate r₀ =>
      by_cases h : r = r₀
      · subst h
        simp
      · simp [Function.update_apply, h, Ne.symm h]
    | deleteWhenExist r₀ => exact absurd rfl (hq _ (.head _) r₀)
    | exist _ | findRefDorisAutoScaler _ => simp

/-- Deletions leave an object existing when it did and none of them targets it. -/
theorem effects_of_deletes {q : List CallShape} (hq : ∀ s ∈ q, ∃ r, s = .deleteWhenExist r)
    (E : ObjRef → Bool) (r : ObjRef) :
    effects q E r = true ↔ E r = true ∧ ¬∃ s ∈ q, s.target = some r := by
  induction q generalizing E with
  | nil => simp
  | cons s q ih =>
    rw [effects_cons, ih (fun s' hs' => hq s' (.tail _ hs'))]
    simp only [List.mem_cons, or_and_right, exists_or, exists_eq_left]
    obtain ⟨r₀, rfl⟩ := hq s (.head _)
    by_cases h : r = r₀
    · subst h
      simp
    · simp [Function.update_apply, h, Ne.symm h]

theorem present_replay_of_succeeded {p : Log} (h : ∀ e ∈ p, e.2 = none) (S : Store) :
    (replay p S).present = effects (p.map (·.1.shape)) S.present := by
  induction p generalizing S with
  | nil => rfl
  | cons e p ih =>
    rcases e with ⟨c, v⟩
    obtain rfl : v = none := h _ (.head _)
    exact (ih (fun e he => h e (.tail _ he)) (c.apply S)).trans (by rw [c.present_apply]; rfl)

/-- After a log whose calls all succeed but perhaps the last, which objects
exist is the effect of a prefix of its calls. -/
theorem present_replay {p : Log} (hc : p.Clean) (S : Store) :
    ∃ q, q <+: p.map (·.1.shape) ∧ (replay p S).present = effects q S.present := by
  rcases p.eq_nil_or_concat with rfl | ⟨p, ⟨c, v⟩, rfl⟩
  · exact ⟨[], List.nil_prefix, rfl⟩
  · rw [List.concat_eq_append] at hc ⊢
    have hp : ∀ e ∈ p, e.2 = none := fun e he => hc e (by simpa using he)
    rw [replay_append]
    cases v with
    | none =>
      refine ⟨_, List.prefix_refl _, ?_⟩
      rw [List.map_append, effects_append, ← present_replay_of_succeeded hp]
      exact c.present_apply _
    | some _ =>
      exact ⟨_, by simp, present_replay_of_succeeded hp S⟩

/-- A prefix of `A ++ B` is a prefix of `A`, or `A` followed by a prefix of `B`. -/
theorem prefix_append_cases {α : Type} {A B q : List α} (h : q <+: A ++ B) :
    q <+: A ∨ ∃ q', q = A ++ q' ∧ q' <+: B := by
  rw [List.prefix_iff_eq_take, List.take_append_eq_append_take] at h
  by_cases hn : q.length ≤ A.length
  · left
    rw [h, Nat.sub_eq_zero_of_le hn, List.take_zero, List.append_nil]
    exact List.take_prefix _ _
  · right
    exact ⟨_, by rwa [List.take_of_length_le (by omega)] at h, List.take_prefix _ _⟩

/-- **Which objects exist after a pass** is the effect of a prefix of the
canonical sequence, whatever fails. -/
theorem reconcile_present (env : ReconcileEnv) (cr : DorisCluster) (S : Store) (fail : Oracle) :
    ∃ q, q <+: canonicalCalls cr (S.present ⟨.secret, getOprSqlAccountSecretKey cr.objKey⟩) ∧
      (reconcile env cr ⟨S, [], fail⟩).2.store.present = effects q S.present := by
  obtain ⟨p, hw, -, hc, -, hpre, -⟩ := reconcile_follows_canonical env cr ⟨S, [], fail⟩
  obtain ⟨q, hq, hS⟩ := present_replay hc S
  exact ⟨q, hq.trans hpre, by rw [hw]; exact hS⟩

/-- **Frame for a pass**: an object no canonical call targets is left as it was. -/
theorem reconcile_objects_of_untargeted (env : ReconcileEnv) (cr : DorisCluster) (S : Store)
    (fail : Oracle) {r : ObjRef}
    (h : ∀ s ∈ canonicalCalls cr (S.present ⟨.secret, getOprSqlAccountSecretKey cr.objKey⟩),
      s.target ≠ some r) :
    (reconcile env cr ⟨S, [], fail⟩).2.store.objects r = S.objects r := by
  obtain ⟨p, hw, -, -, -, hpre, -⟩ := reconcile_follows_canonical env cr ⟨S, [], fail⟩
  rw [hw]
  exact replay_objects_of_untargeted S fun e he =>
    h _ (hpre.subset (List.mem_map_of_mem (·.1.shape) he))

/-! ### The FE delete path -/

/-- The identities the FE apply path writes, as the FE builders name them. -/
def feNamedRefs (cr : DorisCluster) : List ObjRef :=
  [⟨.configMap, getFeConfigMapName cr⟩, ⟨.service, getFeServiceName cr⟩,
    ⟨.service, getFePeerServiceName cr⟩, ⟨.statefulSet, getFeStatefulSetName cr⟩]

theorem feDeleteCalls_eq (cr : DorisCluster) :
    deleteCalls feKeys cr.objKey =
      [⟨.statefulSet, getFeStatefulSetName cr⟩, ⟨.service, getFeServiceName cr⟩,
        ⟨.service, getFePeerServiceName cr⟩, ⟨.configMap, getFeConfigMapName cr⟩].map
        .deleteWhenExist := rfl

/-- Deletions that all succeed remove their targets and nothing else. -/
theorem replay_deletes {p : Log} (h : ∀ e ∈ p, e.2 = none) {rs : List ObjRef}
    (hs : p.map (·.1.shape) = rs.map .deleteWhenExist) (S : Store) (r : ObjRef) :
    (replay p S).objects r = if r ∈ rs then none else S.objects r := by
  induction p generalizing rs S with
  | nil =>
    obtain rfl : rs = [] := List.map_eq_nil_iff.mp hs.symm
    simp
  | cons e p ih =>
    cases rs with
    | nil => simp at hs
    | cons r₀ rs =>
      simp only [List.map_cons, List.cons.injEq] at hs
      rcases e with ⟨c, v⟩
      obtain rfl : v = none := h _ (.head _)
      show (replay p (c.apply S)).objects r = _
      rw [ih (fun e he => h e (.tail _ he)) hs.2, Call.apply_of_shape_delete hs.1]
      by_cases h₀ : r = r₀
      · simp [h₀]
      · simp [h₀, Store.put_objects_ne _ _ h₀]

/-- Deletions of objects that are absent change nothing, failed or not. -/
theorem replay_of_absent_deletes {p : Log} {S : Store}
    (h : ∀ e ∈ p, ∃ r, e.1.shape = .deleteWhenExist r ∧ S.objects r = none) : replay p S = S := by
  induction p with
  | nil => rfl
  | cons e p ih =>
    obtain ⟨r, hr, habs⟩ := h e (.head _)
    rcases e with ⟨c, _ | _⟩
    · show replay p (c.apply S) = S
      rw [Call.apply_of_shape_delete hr, Store.put_none_of_absent habs]
      exact ih fun e he => h e (.tail _ he)
    · exact ih fun e he => h e (.tail _ he)

/-- **The FE delete path clears the FE objects.** For a cluster without an FE,
when the FE stage succeeds the four objects the FE builders name are gone and
every other object is as it was; run again, whatever fails, the stage leaves
the store unchanged, and against a healthy store it succeeds. -/
theorem feDelete_clears (env : ReconcileEnv) (cr : DorisCluster) (w : World)
    (r : ClusterStageRecResult) (hfe : cr.spec.fe = none) (hr : (recFeResources env cr w).1 = .ret r)
    (herr : r.err = none) :
    (∀ ref ∈ feNamedRefs cr, (recFeResources env cr w).2.store.objects ref = none) ∧
    (∀ ref ∉ feNamedRefs cr, (recFeResources env cr w).2.store.objects ref = w.store.objects ref) ∧
    (∀ l fail, (recFeResources env cr ⟨(recFeResources env cr w).2.store, l, fail⟩).2.store =
      (recFeResources env cr w).2.store) ∧
    ∀ l, (recFeResources env cr ⟨(recFeResources env cr w).2.store, l, healthy⟩).1 =
      .ret (clusterStageSucc .stageFe .stageActionDelete) := by
  have hdel : ∀ w', recFeResources env cr w' = deleteRes feKeys feStages cr w' := fun w' => by
    simp [recFeResources, recRoleResources, hfe, elvis]
  have follows := fun w' => @deleteRes_follows (fun _ => True) feKeys feStages cr w' fun _ _ => trivial
  obtain ⟨p, hw, -, hc, -, -, hret⟩ := follows w
  rw [← hdel] at hw hret
  obtain ⟨hf, hfull⟩ := hret r hr
  have hS : ∀ ref, (recFeResources env cr w).2.store.objects ref =
      if ref ∈ [⟨.statefulSet, getFeStatefulSetName cr⟩, ⟨.service, getFeServiceName cr⟩,
        ⟨.service, getFePeerServiceName cr⟩, ⟨.configMap, getFeConfigMapName cr⟩] then none
      else w.store.objects ref := fun ref => by
    rw [hw]
    exact replay_deletes (hc.all_none (hf ▸ herr)) ((hfull herr).trans (feDeleteCalls_eq cr)) _ ref
  have hmem : ∀ ref, ref ∈ [⟨.statefulSet, getFeStatefulSetName cr⟩, ⟨.service, getFeServiceName cr⟩,
      ⟨.service, getFePeerServiceName cr⟩, ⟨.configMap, getFeConfigMapName cr⟩] ↔
      ref ∈ feNamedRefs cr := fun ref => by
    simp only [feNamedRefs, List.mem_cons, List.mem_singleton, or_assoc, or_comm, or_left_comm]
  refine ⟨fun ref h => by rw [hS, if_pos ((hmem ref).mpr h)], fun ref h => by
    rw [hS, if_neg (mt (hmem ref).mp h)], fun l fail => ?_, fun l => ?_⟩
  · obtain ⟨p', hw', -, -, -, hpre, -⟩ := follows ⟨(recFeResources env cr w).2.store, l, fail⟩
    rw [hdel, hw', World.extend_store]
    refine replay_of_absent_deletes fun e he => ?_
    have hs := hpre.subset (List.mem_map_of_mem (·.1.shape) he)
    rw [feDeleteCalls_eq, List.mem_map] at hs
    obtain ⟨ref, href, hsh⟩ := hs
    exact ⟨ref, hsh.symm, by rw [hS, if_pos href]⟩
  · simp [hdel, deleteRes, orFail, orFailEach, deleteWhenExist, issue, healthy, feKeys, Rec.bind_apply]
    rfl

/-- An object of the kind and name of `r`, with nothing else set. -/
def ObjRef.blank (r : ObjRef) : Obj :=
  match r.kind with
  | .secret => .secret { metadata := metaOf r.key }
  | .configMap => .configMap { metadata := metaOf r.key }
  | .service => .service { metadata := metaOf r.key }
  | .statefulSet => .statefulSet { metadata := metaOf r.key }

/-- A store holding the Secret and the four FE objects of `doris`. -/
def feStore : Store :=
  (⟨.secret, getOprSqlAccountSecretKey emptyCluster.objKey⟩ :: feNamedRefs emptyCluster).foldl
    (fun S r => S.put r (some r.blank)) Store.empty

/-- The FE stage of `doris`, which declares no FE, on a store holding its four FE
objects and its Secret: the FE objects go, the Secret stays, and the stage run
again deletes nothing. -/
theorem feDelete_clears_feStore :
    emptyCluster.spec.fe = none ∧
    (∀ ref ∈ ⟨.secret, getOprSqlAccountSecretKey emptyCluster.objKey⟩ :: feNamedRefs emptyCluster,
      feStore.present ref = true) ∧
    (recFeResources feOnlyEnv emptyCluster ⟨feStore, [], healthy⟩).1 =
      .ret (clusterStageSucc .stageFe .stageActionDelete) ∧
    (clusterStageSucc .stageFe .stageActionDelete).err = none ∧
    let S' := (recFeResources feOnlyEnv emptyCluster ⟨feStore, [], healthy⟩).2.store
    (∀ ref ∈ feNamedRefs emptyCluster, S'.objects ref = none) ∧
    (∀ ref ∉ feNamedRefs emptyCluster, S'.objects ref = feStore.objects ref) ∧
    (∀ l fail, (recFeResources feOnlyEnv emptyCluster ⟨S', l, fail⟩).2.store = S') ∧
    ∀ l, (recFeResources feOnlyEnv emptyCluster ⟨S', l, healthy⟩).1 =
      .ret (clusterStageSucc .stageFe .stageActionDelete) :=
  ⟨rfl, by decide, rfl, rfl, feDelete_clears feOnlyEnv emptyCluster ⟨feStore, [], healthy⟩ _ rfl rfl rfl⟩

end DorisOperator
