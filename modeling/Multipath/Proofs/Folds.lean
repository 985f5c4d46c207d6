import Mathlib.Data.List.Induction

/-!
# Folds and their invariants

Almost every table is filled by a fold over a list, and most of these folds may stop with a fault.
This file says once how an invariant is carried along such a fold.  The invariant speaks about the
part of the list that is already behind the fold, which is a prefix of the whole list.

* `foldl_invariant` is for folds that cannot fail;
* `foldlM_total` shows that a fold does not fail, and carries an invariant to its result;
* `foldlM_eq_ok` is for folds whose state can be written down;
* `foldlM_invariant` carries an invariant through a fold that is known not to have failed;
* `foldlM_eq_error_iff` says where a fold failed;
* `mapM_total` and `mapM_eq_some_iff` are for lists that are mapped rather than folded.
-/

namespace Multipath

variable {α β ε : Type} {l : List α} {b : β}

theorem bind_eq_ok {x : Except ε α} {f : α → Except ε β} :
    x >>= f = .ok b ↔ ∃ a, x = .ok a ∧ f a = .ok b := by
  cases x with
  | error e => simp [bind, Except.bind]
  | ok a => simp [bind, Except.bind]

theorem bind_eq_error {x : Except ε α} {f : α → Except ε β} {e : ε} :
    x >>= f = .error e ↔ x = .error e ∨ ∃ a, x = .ok a ∧ f a = .error e := by
  cases x with
  | error e' => simp [bind, Except.bind]
  | ok a => simp [bind, Except.bind]

theorem mapError_eq_ok {ε' : Type} {x : Except ε α} {f : ε → ε'} {a : α} :
    x.mapError f = .ok a ↔ x = .ok a := by
  cases x with
  | error e => simp [Except.mapError]
  | ok a => simp [Except.mapError]

/-- What a fold comes to next stands right behind the part that it is done with. -/
theorem getElem?_of_prefix_concat {done : List α} {x : α} (h : done ++ [x] <+: l) :
    l[done.length]? = some x := by
  obtain ⟨rest, rfl⟩ := h
  simp

theorem length_lt_of_prefix_concat {done : List α} {x : α} (h : done ++ [x] <+: l) :
    done.length < l.length :=
  (List.getElem?_eq_some_iff.mp (getElem?_of_prefix_concat h)).1

/-- An invariant of a fold, over the prefixes of the list. -/
theorem foldl_invariant (motive : List α → β → Prop) {f : β → α → β} (start : motive [] b)
    (step : ∀ done x b, done ++ [x] <+: l → motive done b → motive (done ++ [x]) (f b x)) :
    motive l (l.foldl f b) := by
  induction l using List.reverseRecOn with
  | nil => exact start
  | append_singleton l x ih =>
      rw [List.foldl_append]
      refine step l x _ (List.prefix_refl _) (ih ?_)
      intro done y c hpre
      exact step done y c (hpre.trans (List.prefix_append l [x]))

/-- A fold none of whose steps fails under the invariant does not fail. -/
theorem foldlM_total (motive : List α → β → Prop) {f : β → α → Except ε β} (start : motive [] b)
    (step : ∀ done x b, done ++ [x] <+: l → motive done b →
      ∃ b', f b x = .ok b' ∧ motive (done ++ [x]) b') :
    ∃ b', l.foldlM f b = .ok b' ∧ motive l b' := by
  induction l using List.reverseRecOn with
  | nil => exact ⟨b, rfl, start⟩
  | append_singleton l x ih =>
      obtain ⟨c, hc, hmc⟩ := ih fun done y c hpre =>
        step done y c (hpre.trans (List.prefix_append l [x]))
      obtain ⟨b', hb', hmb'⟩ := step l x c (List.prefix_refl _) hmc
      refine ⟨b', ?_, hmb'⟩
      rw [List.foldlM_append, bind_eq_ok]
      exact ⟨c, hc, by simpa using hb'⟩

/-- A fold that is known to be in state `state done` behind every part `done` of the list. -/
theorem foldlM_eq_ok (state : List α → β) {f : β → α → Except ε β}
    (step : ∀ done x, done ++ [x] <+: l → f (state done) x = .ok (state (done ++ [x]))) :
    l.foldlM f (state []) = .ok (state l) := by
  obtain ⟨b, hb, rfl⟩ := foldlM_total (fun done b => b = state done) rfl
    fun done x b hpre hb => ⟨_, hb ▸ step done x hpre, rfl⟩
  exact hb

/-- An invariant of a fold that did not fail. -/
theorem foldlM_invariant (motive : List α → β → Prop) {f : β → α → Except ε β} {b' : β}
    (h : l.foldlM f b = .ok b') (start : motive [] b)
    (step : ∀ done x b b', done ++ [x] <+: l → motive done b → f b x = .ok b' →
      motive (done ++ [x]) b') :
    motive l b' := by
  induction l using List.reverseRecOn generalizing b' with
  | nil =>
      have hb : b = b' := by simpa [pure, Except.pure] using h
      exact hb ▸ start
  | append_singleton l x ih =>
      rw [List.foldlM_append, bind_eq_ok] at h
      obtain ⟨c, hc, hx⟩ := h
      refine step l x c b' (List.prefix_refl _) (ih hc ?_) ?_
      · intro done y d d' hpre
        exact step done y d d' (hpre.trans (List.prefix_append l [x]))
      · simpa using hx

/-- A fold fails in the step that fails first. -/
theorem foldlM_eq_error_iff {f : β → α → Except ε β} {e : ε} :
    l.foldlM f b = .error e ↔ ∃ before x after c, l = before ++ x :: after ∧
      before.foldlM f b = .ok c ∧ f c x = .error e := by
  constructor
  · intro h
    induction l generalizing b with
    | nil => simp [pure, Except.pure] at h
    | cons y l ih =>
        rw [List.foldlM_cons, bind_eq_error] at h
        rcases h with hy | ⟨c, hy, hrest⟩
        · exact ⟨[], y, l, b, rfl, rfl, hy⟩
        · obtain ⟨before, x, after, c', rfl, hc', hx⟩ := ih hrest
          refine ⟨y :: before, x, after, c', rfl, ?_, hx⟩
          rw [List.foldlM_cons, bind_eq_ok]
          exact ⟨c, hy, hc'⟩
  · rintro ⟨before, x, after, c, rfl, hc, hx⟩
    rw [List.foldlM_append, bind_eq_error]
    refine Or.inr ⟨c, hc, ?_⟩
    rw [List.foldlM_cons, bind_eq_error]
    exact Or.inl hx

/-- A list is read element by element, if reading is exact. -/
theorem mapM_eq_some_iff {read : α → Option β} {write : β → α}
    (h : ∀ x y, read x = some y ↔ x = write y) {ys : List β} :
    l.mapM read = some ys ↔ l = ys.map write := by
  induction l generalizing ys with
  | nil => cases ys <;> simp
  | cons x l ih =>
      simp only [List.mapM_cons, Option.bind_eq_bind, Option.pure_def, Option.bind_eq_some_iff, h, ih,
        Option.some.injEq]
      constructor
      · rintro ⟨y, rfl, ys, rfl, rfl⟩
        rfl
      · intro hys
        obtain ⟨y, ys, rfl, rfl, rfl⟩ := List.map_eq_cons_iff.mp hys.symm
        exact ⟨y, rfl, ys, rfl, rfl⟩

/-- A map none of whose calls fails does not fail. -/
theorem mapM_total {f : α → Except ε β} {good : α → β → Prop}
    (h : ∀ x ∈ l, ∃ y, f x = .ok y ∧ good x y) :
    ∃ ys, l.mapM f = .ok ys ∧ ∀ (i : Nat) x, l[i]? = some x →
      ∃ y, ys[i]? = some y ∧ good x y := by
  induction l with
  | nil => exact ⟨[], rfl, by simp⟩
  | cons x l ih =>
      obtain ⟨y, hy, hxy⟩ := h x (by simp)
      obtain ⟨ys, hys, hall⟩ := ih fun x hx => h x (by simp [hx])
      refine ⟨y :: ys, ?_, ?_⟩
      · rw [List.mapM_cons, hy]
        simp only [bind, Except.bind]
        rw [hys]
        rfl
      · intro i x' hx'
        cases i with
        | zero =>
            obtain rfl : x = x' := by simpa using hx'
            exact ⟨y, rfl, hxy⟩
        | succ i => exact hall i x' (by simpa using hx')

end Multipath
