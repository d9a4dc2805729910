import Mathlib.Data.List.Nodup
import Mathlib.Data.List.Perm.Subperm
import Mathlib.Logic.Function.Basic
import Mathlib.Tactic.Lemma

/-!
# Reading and setting in two steps

A level that several change, each by reading it in one step and setting it in a later one. What is set comes of what was
read, whatever was set in between, so that the level is told by some of the changes, one after another.
-/

namespace DeviceAgent

/-- How far someone has come who changes a level. -/
inductive Progress where
  | before
  /-- The level was read and is to be set to this one. -/
  | between (target : Nat)
  | after

/-- What one step of anyone does to a level that each changes in a way of their own. -/
inductive Turns (change : Nat → Nat → Nat) (progress : Nat → Progress) (level : Nat) : (Nat → Progress) → Nat → Prop
  | stay : Turns change progress level progress level
  | read (i : Nat) (h : progress i = .before) :
    Turns change progress level (Function.update progress i (.between (change i level))) level
  | set (i target : Nat) (h : progress i = .between target) :
    Turns change progress level (Function.update progress i .after) target

/-- A level that comes of some of the changes, one after another, none of those missing that were set without loss. -/
structure Serial (change : Nat → Nat → Nat) (first : Nat) (progress : Nat → Progress) (n : Nat) (lossy : Nat → Prop)
    (order : List Nat) (level : Nat) : Prop where
  nodup : order.Nodup
  done : ∀ i ∈ order, i < n ∧ progress i = .after
  kept : ∀ i < n, progress i = .after → ¬ lossy i → i ∈ order
  level : level = order.foldl (fun level i => change i level) first

/-- The level comes of some of the changes that were made, and so does what was read for each that is to be made. -/
structure Accounted (change : Nat → Nat → Nat) (first : Nat) (progress : Nat → Progress) (n : Nat) (lossy : Nat → Prop)
    (level : Nat) : Prop where
  late : ∀ i, n ≤ i → progress i = .after
  level : ∃ order, Serial change first progress n lossy order level ∧ ((∃ i < n, progress i = .after) → order ≠ [])
  target : ∀ i t, progress i = .between t →
    ∃ order seen, Serial change first progress n lossy order seen ∧ t = change i seen

section Turning

variable {change : Nat → Nat → Nat} {first level : Nat} {progress progress' : Nat → Progress} {n : Nat}
  {lossy lossy' : Nat → Prop} {order : List Nat}

lemma Serial.mono (h : Serial change first progress n lossy order level)
    (hdone : ∀ i, progress i = .after → progress' i = .after)
    (hkept : ∀ i < n, progress' i = .after → ¬ lossy' i → progress i = .after ∧ ¬ lossy i) :
    Serial change first progress' n lossy' order level where
  nodup := h.nodup
  done i hi := ⟨(h.done i hi).1, hdone i (h.done i hi).2⟩
  kept i hi hafter hlossless := by
    obtain ⟨hbefore, hl⟩ := hkept i hi hafter hlossless
    exact h.kept i hi hbefore hl
  level := h.level

/-- Setting what was made of a level adds one change to those that the level comes of. -/
lemma Serial.set {i seen target : Nat} (h : Serial change first progress n lossy order seen)
    (hi : progress i = .between target) (hn : i < n) (hl : ∀ i, lossy i → lossy' i) :
    Serial change first (Function.update progress i .after) n lossy' (order ++ [i]) (change i seen) where
  nodup := by
    have hnew : i ∉ order := by
      intro hmem
      have hafter := (h.done i hmem).2
      rw [hi] at hafter
      exact Progress.noConfusion hafter
    rw [← List.concat_eq_append]
    exact h.nodup.concat hnew
  done j hj := by
    by_cases hji : j = i
    · rw [hji, Function.update_self]
      exact ⟨hn, rfl⟩
    · rw [Function.update_of_ne hji]
      rw [List.mem_append, List.mem_singleton] at hj
      exact h.done j (hj.resolve_right hji)
  kept j hj hafter hlossless := by
    rw [List.mem_append, List.mem_singleton]
    by_cases hji : j = i
    · exact Or.inr hji
    · rw [Function.update_of_ne hji] at hafter
      exact Or.inl (h.kept j hj hafter fun hbefore => hlossless (hl j hbefore))
  level := by rw [List.foldl_append, ← h.level, List.foldl_cons, List.foldl_nil]

lemma Serial.length_le (h : Serial change first progress n lossy order level) : order.length ≤ n := by
  have hsubset : order ⊆ List.range n := fun i hi => List.mem_range.mpr (h.done i hi).1
  simpa using (List.Nodup.subperm h.nodup hsubset).length_le

/-- Where nothing is lost, every change counts. -/
lemma Serial.perm_range (h : Serial change first progress n lossy order level) (hall : ∀ i < n, i ∈ order) :
    order.Perm (List.range n) := by
  rw [List.perm_ext_iff_of_nodup h.nodup List.nodup_range]
  intro i
  rw [List.mem_range]
  exact ⟨fun hi => (h.done i hi).1, hall i⟩

lemma accounted_before (h : ∀ i < n, progress i = .before) (hlate : ∀ i, n ≤ i → progress i = .after) :
    Accounted change first progress n lossy first where
  late := hlate
  level := by
    have hnone : ∀ i < n, progress i ≠ .after := by
      intro i hi hafter
      rw [h i hi] at hafter
      exact Progress.noConfusion hafter
    refine ⟨[], ⟨List.nodup_nil, nofun, fun i hi hafter => absurd hafter (hnone i hi), rfl⟩, ?_⟩
    rintro ⟨i, hi, hafter⟩
    exact absurd hafter (hnone i hi)
  target i t hbetween := by
    rcases Nat.lt_or_ge i n with hi | hi
    · rw [h i hi] at hbetween
      exact Progress.noConfusion hbetween
    · rw [hlate i hi] at hbetween
      exact Progress.noConfusion hbetween

namespace Accounted

lemma stay (h : Accounted change first progress n lossy level) (hl : ∀ i, lossy i → lossy' i) :
    Accounted change first progress n lossy' level := by
  have hkept : ∀ i < n, progress i = .after → ¬ lossy' i → progress i = .after ∧ ¬ lossy i :=
    fun i _ hafter hlossless => ⟨hafter, fun hlossy => hlossless (hl i hlossy)⟩
  refine ⟨h.late, ?_, ?_⟩
  · obtain ⟨order, hserial, hne⟩ := h.level
    exact ⟨order, hserial.mono (fun _ hi => hi) hkept, hne⟩
  · intro i t hbetween
    obtain ⟨order, seen, hserial, ht⟩ := h.target i t hbetween
    exact ⟨order, seen, hserial.mono (fun _ hi => hi) hkept, ht⟩

/-- What is read comes of the changes that the level comes of. -/
lemma read (h : Accounted change first progress n lossy level) (hl : ∀ i, lossy i → lossy' i) {i : Nat}
    (hi : progress i = .before) :
    Accounted change first (Function.update progress i (.between (change i level))) n lossy' level := by
  have hafter (j : Nat) :
      Function.update progress i (.between (change i level)) j = .after ↔ progress j = .after := by
    by_cases hji : j = i
    · simp [hji, hi]
    · rw [Function.update_of_ne hji]
  have hkept : ∀ j < n, Function.update progress i (.between (change i level)) j = .after → ¬ lossy' j →
      progress j = .after ∧ ¬ lossy j :=
    fun j _ hj hlossless => ⟨(hafter j).mp hj, fun hlossy => hlossless (hl j hlossy)⟩
  obtain ⟨order, hserial, hne⟩ := h.level
  have hcurrent := hserial.mono (fun j hj => (hafter j).mpr hj) hkept
  refine ⟨fun j hj => (hafter j).mpr (h.late j hj), ⟨order, hcurrent, ?_⟩, ?_⟩
  · rintro ⟨j, hj, hdone⟩
    exact hne ⟨j, hj, (hafter j).mp hdone⟩
  · intro j t hbetween
    by_cases hji : j = i
    · rw [hji, Function.update_self] at hbetween
      obtain rfl := Progress.between.inj hbetween
      exact ⟨order, level, hcurrent, by rw [hji]⟩
    · rw [Function.update_of_ne hji] at hbetween
      obtain ⟨order', seen, hserial', ht⟩ := h.target j t hbetween
      exact ⟨order', seen, hserial'.mono (fun j hj => (hafter j).mpr hj) hkept, ht⟩

/-- A change may be lost to those that are between their steps when it is set. -/
lemma set (h : Accounted change first progress n lossy level) (hl : ∀ i, lossy i → lossy' i) {i target : Nat}
    (hi : progress i = .between target) (hmeet : ∀ j u, j ≠ i → progress j = .between u → lossy' i) :
    Accounted change first (Function.update progress i .after) n lossy' target := by
  have hn : i < n := by
    by_contra hge
    rw [h.late i (Nat.not_lt.mp hge)] at hi
    exact Progress.noConfusion hi
  have hdone (j : Nat) (hj : progress j = .after) : Function.update progress i .after j = .after := by
    by_cases hji : j = i
    · rw [hji, Function.update_self]
    · rw [Function.update_of_ne hji, hj]
  obtain ⟨order, seen, hserial, rfl⟩ := h.target i target hi
  refine ⟨fun j hj => hdone j (h.late j hj), ⟨order ++ [i], hserial.set hi hn hl, fun _ => by simp⟩, ?_⟩
  intro j t hbetween
  have hji : j ≠ i := by
    rintro rfl
    rw [Function.update_self] at hbetween
    exact Progress.noConfusion hbetween
  rw [Function.update_of_ne hji] at hbetween
  obtain ⟨order', seen', hserial', ht⟩ := h.target j t hbetween
  refine ⟨order', seen', hserial'.mono hdone ?_, ht⟩
  -- Who is still between reading and setting has not seen the change that is set now, which is lossy for that.
  intro l hl' hafter hlossless
  by_cases hli : l = i
  · exact absurd (hmeet j t hji hbetween) (hli ▸ hlossless)
  · rw [Function.update_of_ne hli] at hafter
    exact ⟨hafter, fun hlossy => hlossless (hl l hlossy)⟩

lemma turns {level' : Nat} (h : Accounted change first progress n lossy level)
    (ht : Turns change progress level progress' level') (hl : ∀ i, lossy i → lossy' i)
    (hmeet : ∀ i j t u, i ≠ j → progress i = .between t → progress j = .between u → lossy' i) :
    Accounted change first progress' n lossy' level' := by
  cases ht with
  | stay => exact h.stay hl
  | read i hi => exact h.read hl hi
  | set i target hi => exact h.set hl hi fun j u hji hj => hmeet i j _ u hji.symm hi hj

end Accounted

end Turning

end DeviceAgent
