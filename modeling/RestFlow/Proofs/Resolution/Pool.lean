import Mathlib.Data.List.Nodup
import RestFlow.Proofs.Order.Keys
import RestFlow.Proofs.Order.Sorting
import RestFlow.Proofs.Resource.Equality
import RestFlow.Resolution.Index

/-!
# Adding inputs to a pool

Directives and writers add inputs to a pool, one after the other (`ProducerPool.addAll`).  Nothing
else of the pool is changed, every input stays (`mem_inputs_addAll`), and every input of the pool
was there before or has been added (`mem_or_mem_of_mem_inputs_addAll`).  What is added does not
depend on more of the pool than its index shows (`index_addAll_congr`), and the inputs of an index
are determined by what a result lists of them (`inputs_index_eq`).
-/

namespace RestFlow

namespace ProducerPool

/-- Add several inputs of one origin. -/
def addAll (pool : ProducerPool) (rs : List Resource) (origin : InputOrigin) : ProducerPool :=
  rs.foldl (fun pool r => pool.addInput r origin) pool

variable (pool : ProducerPool) (r : Resource) (rs : List Resource) (origin : InputOrigin)

@[simp] lemma responses_addInput : (pool.addInput r origin).responses = pool.responses := by
  unfold addInput
  split <;> rfl

@[simp] lemma sameBody_addInput : (pool.addInput r origin).sameBody = pool.sameBody := by
  unfold addInput
  split <;> rfl

/-- Inputs are no responses. -/
@[simp] lemma responses_addAll : (pool.addAll rs origin).responses = pool.responses := by
  unfold addAll
  induction rs generalizing pool with
  | nil => rfl
  | cons r rest ih => rw [List.foldl_cons, ih, responses_addInput]

/-- Inputs are no body properties. -/
@[simp] lemma sameBody_addAll : (pool.addAll rs origin).sameBody = pool.sameBody := by
  unfold addAll
  induction rs generalizing pool with
  | nil => rfl
  | cons r rest ih => rw [List.foldl_cons, ih, sameBody_addInput]

variable {pool r rs origin}

/-- An input that a pool has stays when another one is added. -/
lemma mem_inputs_addInput {i : Resource × InputOrigin} (h : i ∈ pool.inputs) :
    i ∈ (pool.addInput r origin).inputs := by
  unfold addInput
  split
  · exact h
  · exact List.mem_append_left _ h

/-- The inputs that a pool has stay when others are added. -/
lemma mem_inputs_addAll {i : Resource × InputOrigin} (h : i ∈ pool.inputs) :
    i ∈ (pool.addAll rs origin).inputs := by
  unfold addAll
  induction rs generalizing pool with
  | nil => exact h
  | cons r rest ih =>
    rw [List.foldl_cons]
    exact ih (mem_inputs_addInput h)

/-- Every input of a pool was there before or has been added. -/
lemma mem_or_mem_of_mem_inputs_addAll {i : Resource × InputOrigin}
    (h : i ∈ (pool.addAll rs origin).inputs) : i ∈ pool.inputs ∨ i.1 ∈ rs ∧ i.2 = origin := by
  unfold addAll at h
  induction rs generalizing pool with
  | nil => exact .inl h
  | cons r rest ih =>
    rw [List.foldl_cons] at h
    rcases ih h with h | ⟨hrest, horigin⟩
    · unfold addInput at h
      split at h
      · exact .inl h
      · rcases List.mem_append.mp h with h | h
        · exact .inl h
        · rw [List.mem_singleton.mp h]
          exact .inr ⟨List.mem_cons_self, rfl⟩
    · exact .inr ⟨List.mem_cons_of_mem r hrest, horigin⟩

/-- Inputs of other origins stay as they are. -/
lemma filter_inputs_addAll {test : Resource × InputOrigin → Bool}
    (htest : ∀ r, test (r, origin) = false) :
    (pool.addAll rs origin).inputs.filter test = pool.inputs.filter test := by
  unfold addAll
  induction rs generalizing pool with
  | nil => rfl
  | cons r rest ih =>
    rw [List.foldl_cons, ih]
    unfold addInput
    split
    · rfl
    · rw [List.filter_append, List.filter_cons_of_neg (by simp [htest]), List.filter_nil,
        List.append_nil]

/-- Every input that is added is found in the pool afterwards. -/
lemma exists_mem_inputs_addAll (pool : ProducerPool) (origin : InputOrigin) (hr : r ∈ rs) :
    ∃ i ∈ (pool.addAll rs origin).inputs, (i.1 == r) = true := by
  unfold addAll
  induction rs generalizing pool with
  | nil => cases hr
  | cons a rest ih =>
    rw [List.foldl_cons]
    rcases List.mem_cons.mp hr with rfl | hr
    · have hfirst : ∃ i ∈ (pool.addInput r origin).inputs, (i.1 == r) = true := by
        unfold addInput
        split
        · rename_i hany
          exact List.any_eq_true.mp hany
        · exact ⟨(r, origin), List.mem_append_right _ (List.mem_singleton_self _), ReflBEq.rfl⟩
      obtain ⟨i, hi, heq⟩ := hfirst
      exact ⟨i, mem_inputs_addAll hi, heq⟩
    · exact ih _ hr

/-! ## The order of arrival -/

/-- No input is in a pool twice. -/
lemma nodup_inputs_addAll (h : pool.inputs.Nodup) : (pool.addAll rs origin).inputs.Nodup := by
  unfold addAll
  induction rs generalizing pool with
  | nil => exact h
  | cons r rest ih =>
    rw [List.foldl_cons]
    refine ih ?_
    unfold addInput
    split
    · exact h
    · rename_i hany
      rw [List.nodup_append]
      refine ⟨h, List.nodup_singleton _, ?_⟩
      rintro i hi j hj rfl
      obtain rfl := List.mem_singleton.mp hj
      exact hany (List.any_eq_true.mpr ⟨_, hi, ReflBEq.rfl⟩)

/-- If equality of the inputs that are added is literal, all of them are in the pool afterwards. -/
lemma mem_inputs_addAll_iff (hpool : pool.inputs = [])
    (heq : ∀ a ∈ rs, ∀ b ∈ rs, (a == b) = true → a = b) {i : Resource × InputOrigin} :
    i ∈ (pool.addAll rs origin).inputs ↔ i.1 ∈ rs ∧ i.2 = origin := by
  have hforth : ∀ j ∈ (pool.addAll rs origin).inputs, j.1 ∈ rs ∧ j.2 = origin := by
    intro j hj
    rcases mem_or_mem_of_mem_inputs_addAll hj with hj | hj
    · rw [hpool] at hj
      cases hj
    · exact hj
  refine ⟨hforth i, fun ⟨hi, horigin⟩ => ?_⟩
  obtain ⟨j, hj, hji⟩ := exists_mem_inputs_addAll pool origin hi
  obtain ⟨hjmem, hjorigin⟩ := hforth j hj
  have hij : j = i := Prod.ext (heq _ hjmem _ hi hji) (hjorigin.trans horigin.symm)
  rwa [← hij]

/-- Inputs whose equality is literal may be added in any order. -/
theorem inputs_addAll_perm {pool' : ProducerPool} {rs' : List Resource} (hpool : pool.inputs = [])
    (hpool' : pool'.inputs = []) (hp : rs.Perm rs')
    (heq : ∀ a ∈ rs, ∀ b ∈ rs, (a == b) = true → a = b) :
    (pool.addAll rs origin).inputs.Perm (pool'.addAll rs' origin).inputs := by
  have heq' : ∀ a ∈ rs', ∀ b ∈ rs', (a == b) = true → a = b :=
    fun a ha b hb => heq a (hp.mem_iff.mpr ha) b (hp.mem_iff.mpr hb)
  have hnodup : (pool.addAll rs origin).inputs.Nodup := nodup_inputs_addAll (by simp [hpool])
  have hnodup' : (pool'.addAll rs' origin).inputs.Nodup := nodup_inputs_addAll (by simp [hpool'])
  rw [List.perm_ext_iff_of_nodup hnodup hnodup']
  intro i
  rw [mem_inputs_addAll_iff hpool heq, mem_inputs_addAll_iff hpool' heq', hp.mem_iff]

/-- Pools with the same inputs in any order gain the same further inputs. -/
theorem exists_inputs_addAll_eq {pool' : ProducerPool} (hp : pool.inputs.Perm pool'.inputs)
    (rs : List Resource) (origin : InputOrigin) :
    ∃ added, (pool.addAll rs origin).inputs = pool.inputs ++ added ∧
      (pool'.addAll rs origin).inputs = pool'.inputs ++ added := by
  unfold addAll
  induction rs generalizing pool pool' with
  | nil => exact ⟨[], by simp, by simp⟩
  | cons r rest ih =>
    have hany : (pool.inputs.any fun i => i.1 == r) = pool'.inputs.any fun i => i.1 == r :=
      hp.any_eq
    rw [List.foldl_cons, List.foldl_cons]
    -- whether a resource is an input already does not depend on the order
    by_cases hr : pool.inputs.any fun i => i.1 == r
    · rw [addInput, if_pos hr, addInput, if_pos (hany ▸ hr)]
      exact ih hp
    · rw [addInput, if_neg hr, addInput, if_neg (hany ▸ hr)]
      have hp' : ({ pool with inputs := pool.inputs ++ [(r, origin)] } : ProducerPool).inputs.Perm
          ({ pool' with inputs := pool'.inputs ++ [(r, origin)] } : ProducerPool).inputs :=
        hp.append_right [(r, origin)]
      obtain ⟨added, h, h'⟩ := ih hp'
      refine ⟨(r, origin) :: added, h.trans ?_, h'.trans ?_⟩
      · rw [List.append_assoc, List.singleton_append]
      · rw [List.append_assoc, List.singleton_append]

/-- Pools with the same index have the same index when the same inputs are added to both. -/
theorem index_addAll_congr {pool' : ProducerPool} (h : pool.index = pool'.index)
    (rs : List Resource) (origin : InputOrigin) :
    (pool.addAll rs origin).index = (pool'.addAll rs origin).index := by
  obtain ⟨hresponses, hsameBody, hinputs⟩ := ProducerIndex.mk.inj h
  rw [sortOn_eq_sortBy, sortOn_eq_sortBy] at hinputs
  have hperm : pool.inputs.Perm pool'.inputs := by
    have hsorted := sortBy_perm (compareOn fun i => i.1.sortKey) pool.inputs
    rw [hinputs] at hsorted
    exact hsorted.symm.trans (sortBy_perm _ _)
  obtain ⟨added, hadded, hadded'⟩ := exists_inputs_addAll_eq hperm rs origin
  have hsorted : sortOn (fun i => i.1.sortKey) (pool.inputs ++ added) =
      sortOn (fun i => i.1.sortKey) (pool'.inputs ++ added) := by
    rw [sortOn_eq_sortBy, sortOn_eq_sortBy]
    exact sortBy_append_congr hinputs added
  rw [index, index, responses_addAll, responses_addAll, sameBody_addAll, sameBody_addAll,
    hresponses, hsameBody, hadded, hadded', hsorted]

/-- The inputs of an index can be read off a listing of them by name, because names are a part of
what the index sorts them by. -/
theorem inputs_index_eq {pool' : ProducerPool}
    (h : sortOn (fun i => i.1.name) pool.index.inputs =
      sortOn (fun i => i.1.name) pool'.index.inputs) : pool.index.inputs = pool'.index.inputs := by
  rw [sortOn_eq_sortBy, sortOn_eq_sortBy] at h
  have hsorted : ∀ p : ProducerPool, p.index.inputs.Pairwise fun a b =>
      (compareOn (fun i : Resource × InputOrigin => i.1.sortKey) a b).isLE := by
    intro p
    exact pairwise_sortOn (fun i : Resource × InputOrigin => i.1.sortKey) p.inputs
  refine eq_of_sortBy_eq (hsorted pool) (hsorted pool') (fun a b hab => ?_) h
  have hkey : a.1.sortKey = b.1.sortKey := Std.LawfulEqOrd.eq_of_compare hab
  have hname : a.1.name = b.1.name := congrArg Resource.SortKey.name hkey
  rw [compareOn, hname]
  exact Std.ReflCmp.compare_self

end ProducerPool

end RestFlow
