import Mathlib.Data.List.Nodup

set_option autoImplicit false

/- Bringing a keyed store from one table to another by a list of edits. An edit acts
at one key at most, and the list holds one edit for every key at which the tables
differ. -/
namespace Reconcile

variable {σ ε K V β : Type}

/-- At its own key an edit changes the observation `look` as `effect` says; at any
other key it leaves the observation alone. Every edit keeps `inv`. -/
structure Local (inv : σ → Prop) (apply : σ → ε → Option σ) (key : ε → Option K)
    (look : σ → K → β) (effect : ε → β → β → Prop) : Prop where
  keep : ∀ s e t, inv s → apply s e = some t → inv t
  frame : ∀ s e t k, inv s → apply s e = some t → key e ≠ some k → look t k = look s k
  change : ∀ s e t k, inv s → apply s e = some t → key e = some k →
    effect e (look s k) (look t k)

/-- `es` tells every difference between two tables, and each of them once: `tell k v`
says that the new table has `v` at `k`. -/
structure Tells (key : ε → Option K) (tell : K → Option V → ε) (old new : K → Option V)
    (es : List ε) : Prop where
  nodup : (es.filterMap key).Nodup
  sound : ∀ e ∈ es, ∀ k, key e = some k → old k ≠ new k ∧ e = tell k (new k)
  complete : ∀ k, old k ≠ new k → tell k (new k) ∈ es ∧ key (tell k (new k)) = some k

section Fold

variable {apply : σ → ε → Option σ} {s t : σ} {es : List ε}

/-- What every edit of the list keeps, the whole list keeps. -/
theorem foldlM_invariant {I : σ → Prop} (keep : ∀ e ∈ es, ∀ s t, I s → apply s e = some t → I t)
    (ran : es.foldlM apply s = some t) (base : I s) : I t := by
  induction es generalizing s with
  | nil =>
    cases ran
    exact base
  | cons e es ih =>
    rw [List.foldlM_cons] at ran
    obtain ⟨u, moved, rest⟩ := Option.bind_eq_some_iff.mp ran
    have next : I u := keep e List.mem_cons_self s u base moved
    exact ih (fun e member => keep e (List.mem_cons_of_mem _ member)) rest next

/-- A list all of whose edits are enabled under an invariant runs to its end. -/
theorem foldlM_total {I : σ → Prop} (enabled : ∀ e ∈ es, ∀ s, I s → ∃ t, apply s e = some t ∧ I t)
    (base : I s) : ∃ t, es.foldlM apply s = some t := by
  induction es generalizing s with
  | nil => exact ⟨s, rfl⟩
  | cons e es ih =>
    obtain ⟨u, moved, next⟩ := enabled e List.mem_cons_self s base
    obtain ⟨t, rest⟩ := ih (fun e member => enabled e (List.mem_cons_of_mem _ member)) next
    refine ⟨t, ?_⟩
    rw [List.foldlM_cons]
    exact Option.bind_eq_some_iff.mpr ⟨u, moved, rest⟩

theorem foldlM_split {before after : List ε} {e : ε}
    (ran : (before ++ e :: after).foldlM apply s = some t) :
    ∃ u v, before.foldlM apply s = some u ∧ apply u e = some v ∧ after.foldlM apply v = some t := by
  rw [List.foldlM_append] at ran
  obtain ⟨u, first, ran⟩ := Option.bind_eq_some_iff.mp ran
  rw [List.foldlM_cons] at ran
  obtain ⟨v, moved, rest⟩ := Option.bind_eq_some_iff.mp ran
  exact ⟨u, v, first, moved, rest⟩

end Fold

section Keys

variable {key : ε → Option K} {tell : K → Option V → ε} {old new : K → Option V} {es : List ε}

/-- The edit at a key cuts the list into two parts that do not touch the key. -/
theorem Tells.split (tells : Tells key tell old new es) {e : ε} {k : K} (member : e ∈ es)
    (own : key e = some k) : ∃ before after, es = before ++ e :: after ∧
      (∀ x ∈ before, key x ≠ some k) ∧ ∀ x ∈ after, key x ≠ some k := by
  obtain ⟨before, after, rfl⟩ := List.append_of_mem member
  have nodup := tells.nodup
  rw [List.filterMap_append, List.filterMap_cons_some own, List.nodup_append] at nodup
  obtain ⟨-, tail, disjoint⟩ := nodup
  refine ⟨before, after, rfl, fun x left same => ?_, fun x right same => ?_⟩
  · have first : k ∈ before.filterMap key := List.mem_filterMap.mpr ⟨x, left, same⟩
    exact disjoint k first k List.mem_cons_self rfl
  · have second : k ∈ after.filterMap key := List.mem_filterMap.mpr ⟨x, right, same⟩
    exact (List.nodup_cons.mp tail).1 second

/-- Edits without a key may stand on either side. -/
theorem Tells.append (tells : Tells key tell old new es) {before after : List ε}
    (left : ∀ e ∈ before, key e = none) (right : ∀ e ∈ after, key e = none) :
    Tells key tell old new (before ++ es ++ after) := by
  have silent : ∀ {xs : List ε}, (∀ e ∈ xs, key e = none) → xs.filterMap key = [] :=
    fun none_of => List.filterMap_eq_nil_iff.mpr none_of
  refine ⟨?_, fun e member k own => ?_, fun k differs => ?_⟩
  · rw [List.filterMap_append, List.filterMap_append, silent left, silent right, List.nil_append,
      List.append_nil]
    exact tells.nodup
  · rcases List.mem_append.mp member with member | member
    · rcases List.mem_append.mp member with member | member
      · rw [left e member] at own
        cases own
      · exact tells.sound e member k own
    · rw [right e member] at own
      cases own
  · obtain ⟨member, own⟩ := tells.complete k differs
    exact ⟨List.mem_append_left _ (List.mem_append_right _ member), own⟩

variable {inv : σ → Prop} {apply : σ → ε → Option σ} {look : σ → K → β}
  {effect : ε → β → β → Prop} {s t : σ}

theorem Local.keepAll (acts : Local inv apply key look effect) (base : inv s)
    (ran : es.foldlM apply s = some t) : inv t :=
  foldlM_invariant (fun e _ s t => acts.keep s e t) ran base

theorem Local.frameAll (acts : Local inv apply key look effect) (base : inv s) {k : K}
    (ran : es.foldlM apply s = some t) (away : ∀ e ∈ es, key e ≠ some k) : look t k = look s k := by
  have both : inv t ∧ look t k = look s k := by
    apply foldlM_invariant (I := fun u => inv u ∧ look u k = look s k) _ ran ⟨base, rfl⟩
    intro e member u v holds moved
    have kept : inv v := acts.keep u e v holds.1 moved
    exact ⟨kept, (acts.frame u e v k holds.1 moved (away e member)).trans holds.2⟩
  exact both.2

/-- A key at which the tables agree is left alone. -/
theorem Local.untouched (acts : Local inv apply key look effect)
    (tells : Tells key tell old new es) (base : inv s) (ran : es.foldlM apply s = some t) {k : K}
    (same : old k = new k) : look t k = look s k := by
  apply acts.frameAll base ran
  intro e member own
  exact (tells.sound e member k own).1 same

/-- A key at which they differ sees its one edit, between lists that leave it alone. -/
theorem Local.reached (acts : Local inv apply key look effect)
    (tells : Tells key tell old new es) (base : inv s) (ran : es.foldlM apply s = some t) {k : K}
    (differs : old k ≠ new k) : ∃ u v, ∃ after : List ε, inv u ∧ look u k = look s k ∧
      apply u (tell k (new k)) = some v ∧ after.foldlM apply v = some t ∧
      ∀ e ∈ after, key e ≠ some k := by
  obtain ⟨member, own⟩ := tells.complete k differs
  obtain ⟨before, after, rfl, left, right⟩ := tells.split member own
  obtain ⟨u, v, first, moved, rest⟩ := foldlM_split ran
  have kept : inv u := acts.keepAll base first
  have same : look u k = look s k := acts.frameAll base first left
  exact ⟨u, v, after, kept, same, moved, rest, right⟩

theorem Local.changed (acts : Local inv apply key look effect)
    (tells : Tells key tell old new es) (base : inv s) (ran : es.foldlM apply s = some t) {k : K}
    (differs : old k ≠ new k) : effect (tell k (new k)) (look s k) (look t k) := by
  obtain ⟨u, v, after, kept, same, moved, rest, away⟩ := acts.reached tells base ran differs
  have own : key (tell k (new k)) = some k := (tells.complete k differs).2
  have here : effect (tell k (new k)) (look u k) (look v k) := acts.change u _ v k kept moved own
  have later : look t k = look v k := acts.frameAll (acts.keep u _ v kept moved) rest away
  rwa [same, ← later] at here

/-- An observation that shows the table itself shows the new table in the end. -/
theorem Local.agrees {look : σ → K → Option V} {effect : ε → Option V → Option V → Prop}
    (acts : Local inv apply key look effect) (tells : Tells key tell old new es) (base : inv s)
    (ran : es.foldlM apply s = some t) (sets : ∀ k v b b', effect (tell k v) b b' → b' = v)
    (shown : ∀ k, look s k = old k) (k : K) : look t k = new k := by
  by_cases same : old k = new k
  · rw [acts.untouched tells base ran same, shown k, same]
  · exact sets k (new k) _ _ (acts.changed tells base ran same)

end Keys

end Reconcile
