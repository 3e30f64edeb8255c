import DorisOperator.Reconciler

/-!
# Following a sequence of calls

The reconciler is straight-line code around its calls to the object store: each
call is followed by `if err != nil { return ... }`. What such code does is
therefore told by the sequence of calls it would make if none failed. Run
against any oracle, it makes a prefix of that sequence, stops right after the
first call that fails, and reports that call's error.

`DorisOperator.Follows` says this of a computation, together with the two
things the rest of the development needs from a run: the store afterwards is the
store before with the effects of the logged calls that succeeded, and every
logged call satisfies a predicate `ok` on calls – `True` for the order of the
calls, a statement about the objects written when the content matters.

The combinators of the reconciler preserve it: a call (`DorisOperator.follows_issue`),
a step that only panics or returns (`DorisOperator.follows_quiet`), sequencing
in which an error is passed on untouched (`DorisOperator.Follows.bind`), and from
these `orFail`, `orFailEach` and the stage loop.
-/

namespace DorisOperator

/-! ### Logs that stop at their first failure -/

/-- The verdict on the last call of a log: the error a stage reports. -/
def Log.failure (p : Log) : Option Error := p.getLast?.bind (·.2)

/-- Every call of the log succeeded, but perhaps the last. -/
def Log.Clean (p : Log) : Prop := ∀ e ∈ p.dropLast, e.2 = none

/-- The verdicts of the entries `p`, logged after `l`, are the oracle's. -/
def Judged (fail : Oracle) : Log → Log → Prop
  | _, [] => True
  | l, e :: p => e.2 = fail l e.1 ∧ Judged fail (l ++ [e]) p

@[simp] theorem Log.failure_nil : Log.failure [] = none := rfl

@[simp] theorem Log.clean_nil : Log.Clean [] := by simp [Log.Clean]

theorem Log.failure_append {p q : Log} (h : p.failure = none) : (p ++ q).failure = q.failure := by
  rcases q.eq_nil_or_concat with rfl | ⟨q, e, rfl⟩
  · simpa using h
  · simp [Log.failure]

/-- A clean log whose last verdict is nil succeeded throughout. -/
theorem Log.Clean.all_none {p : Log} (hc : p.Clean) (hf : p.failure = none) : ∀ e ∈ p, e.2 = none := by
  rcases p.eq_nil_or_concat with rfl | ⟨p, e, rfl⟩
  · simp
  · intro x hx
    rw [List.concat_eq_append] at hx hc hf
    rcases List.mem_append.mp hx with hx | hx
    · exact hc x (by simpa using hx)
    · simp only [List.mem_singleton] at hx
      subst hx
      simpa [Log.failure] using hf

theorem Log.Clean.append {p q : Log} (hp : p.Clean) (hf : p.failure = none) (hq : q.Clean) :
    (p ++ q).Clean := by
  rcases q.eq_nil_or_concat with rfl | ⟨q, e, rfl⟩
  · simpa using hp
  · intro x hx
    rw [List.concat_eq_append] at hx hq
    rw [← List.append_assoc, List.dropLast_concat] at hx
    rcases List.mem_append.mp hx with hx | hx
    · exact hp.all_none hf x hx
    · exact hq x (by simpa using hx)

theorem judged_append (fail : Oracle) (l p q : Log) :
    Judged fail l (p ++ q) ↔ Judged fail l p ∧ Judged fail (l ++ p) q := by
  induction p generalizing l with
  | nil => simp [Judged]
  | cons e p ih => simp [Judged, ih, and_assoc]

/-! ### What it is to follow a sequence of calls -/

/-- **`x` follows the calls `cs` from `w`.** It logs entries `p`, judged by the
oracle, each satisfying `ok`, all successful but perhaps the last, whose shapes
are a prefix of `cs`; the world it leaves is `w` extended by `p`; and when it
returns `a`, the error `err a` is the last verdict, and a nil error means all of
`cs` was issued. -/
def Follows {α : Type} (ok : Call → Prop) (err : α → Option Error) (x : Rec α) (w : World)
    (cs : List CallShape) : Prop :=
  ∃ p : Log, (x w).2 = w.extend p ∧ Judged w.fail w.log p ∧ p.Clean ∧ (∀ e ∈ p, ok e.1) ∧
    p.map (·.1.shape) <+: cs ∧
    ∀ a, (x w).1 = .ret a → err a = p.failure ∧ (err a = none → p.map (·.1.shape) = cs)

variable {ok : Call → Prop} {α β : Type}

/-- An issued call follows its own shape. -/
theorem follows_issue (c : Call) (w : World) (hc : ok c) : Follows ok id (issue c) w [c.shape] :=
  ⟨[(c, w.fail w.log c)], rfl, by simp [Judged], by simp [Log.Clean], by simpa using hc,
    List.prefix_refl _, fun a ha => by
      cases ha
      simp [Log.failure]⟩

/-- A step that changes nothing but may panic, then a computation that follows
`cs`. -/
theorem follows_quiet {e : β → Option Error} {x : Rec α} {f : α → Rec β} {w : World}
    {cs : List CallShape} (hx : (x w).2 = w) (hf : ∀ a, (x w).1 = .ret a → Follows ok e (f a) w cs) :
    Follows ok e (x >>= f) w cs := by
  unfold Follows at hf ⊢
  rw [Rec.bind_apply]
  rcases hxw : x w with ⟨_ | m, w'⟩
  · rw [hxw] at hx hf
    subst hx
    exact hf _ rfl
  · rw [hxw] at hx
    subst hx
    exact ⟨[], by simp, trivial, by simp, by simp, List.nil_prefix, fun _ h => by cases h⟩

/-- **Sequencing.** `x` follows `cs₁`; when it returns without error, `f`
follows `cs₂` from where `x` left off; when it returns an error, `f` hands the
error on without a call. Then `x >>= f` follows `cs₁ ++ cs₂`. -/
theorem Follows.bind {e₁ : α → Option Error} {e₂ : β → Option Error} {x : Rec α}
    {f : α → Rec β} {w : World} {cs₁ cs₂ : List CallShape} (hx : Follows ok e₁ x w cs₁)
    (hok : ∀ a p, x w = (.ret a, w.extend p) → e₁ a = none → Follows ok e₂ (f a) (w.extend p) cs₂)
    (herr : ∀ a er w', e₁ a = some er → ∃ b, f a w' = (.ret b, w') ∧ e₂ b = some er) :
    Follows ok e₂ (x >>= f) w (cs₁ ++ cs₂) := by
  obtain ⟨p, hw, hj, hc, hpok, hpre, hret⟩ := hx
  unfold Follows at hok ⊢
  rw [Rec.bind_apply]
  rcases hxw : x w with ⟨a | m, w'⟩
  · rw [hxw] at hw hret
    subst hw
    obtain ⟨ha, hfull⟩ := hret a rfl
    rcases hea : e₁ a with _ | er
    · obtain ⟨q, hw', hj', hc', hqok, hqpre, hqret⟩ := hok a p hxw hea
      have hpf : p.failure = none := ha.symm.trans hea
      refine ⟨p ++ q, by rw [hw', World.extend_extend],
        (judged_append _ _ _ _).mpr ⟨hj, by simpa using hj'⟩, hc.append hpf hc',
        fun x hx => (List.mem_append.mp hx).elim (hpok x) (hqok x), ?_, fun b hb => ?_⟩
      · simpa [hfull hea] using (List.prefix_append_right_inj (cs₁)).mpr hqpre
      · obtain ⟨hb1, hb2⟩ := hqret b hb
        refine ⟨by rw [hb1, Log.failure_append hpf], fun hn => ?_⟩
        simp [hfull hea, hb2 hn]
    · obtain ⟨b, hb, heb⟩ := herr a er (w.extend p) hea
      simp only [hb]
      refine ⟨p, rfl, hj, hc, hpok, hpre.trans (List.prefix_append _ _), fun b' hb' => ?_⟩
      cases hb'
      exact ⟨heb.trans (hea.symm.trans ha), fun h => by simp [heb] at h⟩
  · rw [hxw] at hw
    exact ⟨p, hw, hj, hc, hpok, hpre.trans (List.prefix_append _ _), fun _ h => by cases h⟩

/-- A value without an error follows the empty sequence. -/
theorem follows_pure {e : α → Option Error} (a : α) (w : World) (ha : e a = none) :
    Follows ok e (pure a) w [] :=
  ⟨[], by simp, trivial, by simp, by simp, List.nil_prefix, fun b hb => by
    cases hb
    simp [ha]⟩

theorem follows_issue_shape {c : Call} {s : CallShape} (w : World) (hs : c.shape = s) (hc : ok c) :
    Follows ok id (issue c) w [s] :=
  hs ▸ follows_issue c w hc

/-! ### The combinators of the reconciler -/

/-- The error of a Go pair `(value, error)`. -/
def exceptErr {α : Type} : Except Error α → Option Error
  | .error e => some e
  | .ok _ => none

theorem follows_orFail {c : Rec (Option Error)} {st : DorisClusterOprStage} {act : OprStageAction}
    {rest : Rec ClusterStageRecResult} {w : World} {cs₁ cs₂ : List CallShape}
    (hc : Follows ok id c w cs₁) (hrest : ∀ p, Follows ok (·.err) rest (w.extend p) cs₂) :
    Follows ok (·.err) (orFail c st act rest) w (cs₁ ++ cs₂) :=
  hc.bind (fun v p _ (hv : v = none) => by
      subst hv
      exact hrest p)
    (fun v er w' (hv : v = some er) => by
      subst hv
      exact ⟨_, rfl, rfl⟩)

theorem follows_orFailEach {calls : List (Rec (Option Error))} {shapes : List CallShape}
    {st : DorisClusterOprStage} {act : OprStageAction} {rest : Rec ClusterStageRecResult}
    {w : World} {cs : List CallShape}
    (hcalls : List.Forall₂ (fun c s => ∀ w', Follows ok id c w' [s]) calls shapes)
    (hrest : ∀ p, Follows ok (·.err) rest (w.extend p) cs) :
    Follows ok (·.err) (orFailEach calls st act rest) w (shapes ++ cs) := by
  induction hcalls generalizing w with
  | nil => simpa using hrest []
  | @cons c s calls shapes hc _ ih =>
    show Follows ok _ (orFail c st act (orFailEach calls st act rest)) w ([s] ++ (shapes ++ cs))
    exact follows_orFail (hc w) fun p => ih fun q => by
      rw [World.extend_extend]
      exact hrest _

theorem follows_runStages_nil (w : World) : Follows ok (·.err) (runStages []) w [] :=
  follows_pure completeResult w rfl

theorem follows_runStages_cons {fn : Rec ClusterStageRecResult} {fns : List (Rec ClusterStageRecResult)}
    {w : World} {cs cs' : List CallShape} (hfn : Follows ok (·.err) fn w cs)
    (hfns : ∀ p, Follows ok (·.err) (runStages fns) (w.extend p) cs') :
    Follows ok (·.err) (runStages (fn :: fns)) w (cs ++ cs') :=
  hfn.bind (fun r p _ hr => by
      have h : (if r.err.isSome then pure r else runStages fns) = runStages fns := by simp [hr]
      show Follows ok _ (if r.err.isSome then pure r else runStages fns) _ _
      rw [h]
      exact hfns p)
    (fun r er w' hr => ⟨r, by simp [hr], hr⟩)

/-! ### The primitives -/

theorem deref_world {γ : Type} (o : Option γ) (w : World) : (deref o w).2 = w := by
  cases o <;> rfl

theorem deref_ret {γ : Type} {o : Option γ} {w : World} {a : γ} (h : (deref o w).1 = .ret a) :
    o = some a := by
  cases o with
  | none => cases h
  | some b =>
    cases h
    rfl

theorem setAnnotationEntry_world (sts : StatefulSet) (key value : String) (w : World) :
    (setAnnotationEntry sts key value w).2 = w := by
  unfold setAnnotationEntry
  rcases h : sts.metadata.annotations with _ | m <;> simp only [h] <;> rfl

/-- Stamping an annotation returns only when the StatefulSet's own annotations
are a map, and then touches that map and nothing else. -/
theorem setAnnotationEntry_ret {sts sts' : StatefulSet} {key value : String} {w : World}
    (h : (setAnnotationEntry sts key value w).1 = .ret sts') :
    ∃ m, sts.metadata.annotations = some m ∧
      sts' = { sts with metadata.annotations := some (m.insert key value) } := by
  unfold setAnnotationEntry at h
  rcases ha : sts.metadata.annotations with _ | m <;> simp only [ha] at h
  · cases h
  · cases h
    exact ⟨m, rfl, rfl⟩

/-- A lookup – `exist`, `findRefDorisAutoScaler` – follows its one call: when
the call succeeds, it reads its answer off the store and returns it. -/
theorem follows_lookup {γ : Type} (c : Call) (g : Store → γ) (w : World) (hc : ok c) :
    Follows ok exceptErr (do
      match ← issue c with
      | some err => pure (.error err)
      | none => return .ok (g (← getStore))) w [c.shape] := by
  rw [← List.append_nil [c.shape]]
  exact (follows_issue _ w hc).bind
    (fun v p _ (hv : v = none) => by
      subst hv
      exact follows_quiet rfl fun s _ => follows_pure _ _ rfl)
    (fun v er w' (hv : v = some er) => by
      subst hv
      exact ⟨_, rfl, rfl⟩)

end DorisOperator
