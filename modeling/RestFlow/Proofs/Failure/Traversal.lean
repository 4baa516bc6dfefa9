import Mathlib.Data.List.Forall2
import RestFlow.Failure.Basic

/-!
# Computations that may fail

Inversion lemmas for sequences (`bind_eq_ok_iff`, `bind_eq_error_iff`) and traversals
(`mapM_eq_ok_iff`, `exists_first_of_mapM_eq_error`) of computations that may fail.

`MalformedIf x P` says that the computation `x` fails exactly under the condition `P`, and then
because a resource is malformed.  The condition of a sequence or traversal is put together from
those of its parts (`MalformedIf.bind`, `MalformedIf.mapM`).
-/

namespace RestFlow

variable {ε α β : Type}

/-- A computation that succeeds has a result. -/
lemma exists_of_isOk {x : Except ε α} (h : x.isOk = true) : ∃ a, x = .ok a := by
  cases x with
  | error e => cases h
  | ok a => exact ⟨a, rfl⟩

/-- A computation of which something can be told has a result. -/
lemma exists_of_toOption_map {x : Except ε α} {f : α → β} {b : β}
    (h : x.toOption.map f = some b) : ∃ a, x = .ok a ∧ f a = b := by
  cases x with
  | error e => cases h
  | ok a => exact ⟨a, rfl, Option.some.inj h⟩

/-! ## Sequences and traversals -/

/-- A sequence succeeds when both parts do. -/
lemma bind_eq_ok_iff {x : Except ε α} {f : α → Except ε β} {b : β} :
    x >>= f = .ok b ↔ ∃ a, x = .ok a ∧ f a = .ok b := by
  cases x with
  | error e => simp [bind, Except.bind]
  | ok a => simp [bind, Except.bind]

/-- A sequence fails when its first part fails, or its second part after the first one. -/
lemma bind_eq_error_iff {x : Except ε α} {f : α → Except ε β} {e : ε} :
    x >>= f = .error e ↔ x = .error e ∨ ∃ a, x = .ok a ∧ f a = .error e := by
  cases x with
  | error e => simp [bind, Except.bind]
  | ok a => simp [bind, Except.bind]

/-- A traversal gives the results of all its parts. -/
lemma mapM_eq_ok_iff {f : α → Except ε β} {l : List α} {bs : List β} :
    l.mapM f = .ok bs ↔ List.Forall₂ (fun a b => f a = .ok b) l bs := by
  induction l generalizing bs with
  | nil => simp [pure, Except.pure, eq_comm]
  | cons a rest ih =>
    rw [List.mapM_cons, bind_eq_ok_iff, List.forall₂_cons_left_iff]
    constructor
    · rintro ⟨b, hb, h⟩
      obtain ⟨tail, htail, heq⟩ := bind_eq_ok_iff.mp h
      exact ⟨b, tail, hb, ih.mp htail, (Except.ok.inj heq).symm⟩
    · rintro ⟨b, tail, hb, htail, rfl⟩
      exact ⟨b, hb, bind_eq_ok_iff.mpr ⟨tail, ih.mpr htail, rfl⟩⟩

/-- Every result of a traversal is the result of one of its parts. -/
lemma exists_of_mem_mapM {f : α → Except ε β} {l : List α} {bs : List β}
    (h : l.mapM f = .ok bs) {b : β} (hb : b ∈ bs) : ∃ a ∈ l, f a = .ok b := by
  induction mapM_eq_ok_iff.mp h with
  | nil => cases hb
  | @cons a c l' bs' hac htail ih =>
    rcases List.mem_cons.mp hb with rfl | hb
    · exact ⟨a, List.mem_cons_self, hac⟩
    · obtain ⟨d, hd, hdb⟩ := ih (mapM_eq_ok_iff.mpr htail) hb
      exact ⟨d, List.mem_cons_of_mem a hd, hdb⟩

/-- A traversal whose parts succeed gives their results in order. -/
lemma mapM_eq_ok_map {f : α → Except ε β} {g : α → β} {l : List α}
    (h : ∀ a ∈ l, f a = .ok (g a)) : l.mapM f = .ok (l.map g) := by
  rw [mapM_eq_ok_iff, List.forall₂_map_right_iff, List.forall₂_same]
  exact h

/-- What the results of a traversal contribute can be read off the list. -/
lemma map_eq_of_mapM {γ : Type} {f : α → Except ε β} {g : β → γ} {k : α → γ} {l : List α}
    {bs : List β} (h : l.mapM f = .ok bs) (hg : ∀ a b, f a = .ok b → g b = k a) :
    bs.map g = l.map k := by
  rw [mapM_eq_ok_iff] at h
  induction h with
  | nil => rfl
  | cons hab _ ih => rw [List.map_cons, List.map_cons, hg _ _ hab, ih]

/-- Two traversals of the same list whose parts contribute the same come to the same. -/
lemma flatMap_eq_of_mapM {γ : Type} {f f' : α → Except ε β} {g : β → List γ} {l : List α}
    {bs bs' : List β} (h : l.mapM f = .ok bs) (h' : l.mapM f' = .ok bs')
    (hg : ∀ a b b', f a = .ok b → f' a = .ok b' → g b = g b') : bs.flatMap g = bs'.flatMap g := by
  rw [mapM_eq_ok_iff] at h h'
  induction h generalizing bs' with
  | nil =>
    cases h'
    rfl
  | cons hab _ ih =>
    cases h' with
    | cons hab' htail' => rw [List.flatMap_cons, List.flatMap_cons, hg _ _ _ hab hab', ih htail']

/-- A traversal fails as the first of its parts that fails. -/
lemma exists_first_of_mapM_eq_error {f : α → Except ε β} {l : List α} {e : ε}
    (h : l.mapM f = .error e) :
    ∃ before a after, l = before ++ a :: after ∧ f a = .error e ∧
      ∀ b ∈ before, ∃ c, f b = .ok c := by
  induction l with
  | nil => cases h
  | cons a rest ih =>
    rw [List.mapM_cons, bind_eq_error_iff] at h
    rcases h with h | ⟨c, hc, h⟩
    · exact ⟨[], a, rest, rfl, h, fun _ hb => nomatch hb⟩
    · rcases bind_eq_error_iff.mp h with h | ⟨_, -, h⟩
      · obtain ⟨before, d, after, rfl, hd, hbefore⟩ := ih h
        exact ⟨a :: before, d, after, rfl, hd, List.forall_mem_cons.mpr ⟨⟨c, hc⟩, hbefore⟩⟩
      · cases h

/-- A traversal fails as one of its parts does. -/
lemma exists_of_mapM_eq_error {f : α → Except ε β} {l : List α} {e : ε}
    (h : l.mapM f = .error e) : ∃ a ∈ l, f a = .error e := by
  obtain ⟨before, a, after, rfl, ha, -⟩ := exists_first_of_mapM_eq_error h
  exact ⟨a, List.mem_append_right before List.mem_cons_self, ha⟩

/-- A traversal that succeeds does so in every part. -/
lemma forall_of_mapM_eq_ok {f : α → Except ε β} {l : List α} {bs : List β}
    (h : l.mapM f = .ok bs) : ∀ a ∈ l, ∃ b, f a = .ok b := by
  induction mapM_eq_ok_iff.mp h with
  | nil => simp
  | @cons a b l' bs' hab htail ih =>
    rintro c hc
    rcases List.mem_cons.mp hc with rfl | hc
    · exact ⟨b, hab⟩
    · exact ih (mapM_eq_ok_iff.mpr htail) c hc

/-- A traversal fails when one of its parts does. -/
lemma exists_mapM_eq_error {f : α → Except ε β} {l : List α} {a : α} (ha : a ∈ l) {e : ε}
    (he : f a = .error e) : ∃ e', l.mapM f = .error e' := by
  cases hm : l.mapM f with
  | error e' => exact ⟨e', rfl⟩
  | ok bs =>
    obtain ⟨b, hb⟩ := forall_of_mapM_eq_ok hm a ha
    rw [he] at hb
    cases hb

/-! ## Malformed resources -/

namespace Failure

/-- The failure of a resource without a name or place. -/
def isMalformed : Failure → Bool
  | malformedResource .. => true
  | _ => false

lemma isMalformed_iff {f : Failure} :
    f.isMalformed = true ↔ ∃ request reason, f = .malformedResource request reason := by
  cases f <;> simp [isMalformed]

end Failure

/-- The computation fails exactly under the condition `P`, and then because a resource is
malformed. -/
def MalformedIf (x : Except Failure α) (P : Prop) : Prop :=
  (P ↔ ∃ f, x = .error f) ∧ ∀ f, x = .error f → f.isMalformed = true

namespace MalformedIf

variable {x : Except Failure α} {P Q : Prop}

lemma congr (h : MalformedIf x P) (hPQ : Q ↔ P) : MalformedIf x Q :=
  ⟨hPQ.trans h.1, h.2⟩

lemma of_eq_ok {a : α} (h : x = .ok a) : MalformedIf x False := by
  subst h
  exact ⟨⟨False.elim, fun ⟨_, hf⟩ => nomatch hf⟩, fun _ hf => nomatch hf⟩

/-- A sequence is malformed when one of its parts is. -/
lemma bind {f : α → Except Failure β} (hx : MalformedIf x P)
    (hf : ∀ a, x = .ok a → MalformedIf (f a) Q) : MalformedIf (x >>= f) (P ∨ Q) := by
  cases x with
  | error e =>
    have hP : P := hx.1.mpr ⟨e, rfl⟩
    refine ⟨⟨fun _ => ⟨e, rfl⟩, fun _ => .inl hP⟩, fun g hg => hx.2 g ?_⟩
    rw [← Except.error.inj hg]
  | ok a =>
    have hP : ¬P := fun hP => by
      obtain ⟨e, he⟩ := hx.1.mp hP
      cases he
    exact (hf a rfl).congr (by simp [hP])

/-- A traversal is malformed when one of its parts is. -/
lemma mapM {f : α → Except Failure β} {l : List α} {P : α → Prop}
    (h : ∀ a ∈ l, MalformedIf (f a) (P a)) : MalformedIf (l.mapM f) (∃ a ∈ l, P a) := by
  refine ⟨⟨?_, ?_⟩, ?_⟩
  · rintro ⟨a, ha, hP⟩
    obtain ⟨e, he⟩ := (h a ha).1.mp hP
    exact exists_mapM_eq_error ha he
  · rintro ⟨e, he⟩
    obtain ⟨a, ha, hae⟩ := exists_of_mapM_eq_error he
    exact ⟨a, ha, (h a ha).1.mpr ⟨e, hae⟩⟩
  · intro e he
    obtain ⟨a, ha, hae⟩ := exists_of_mapM_eq_error he
    exact (h a ha).2 e hae

lemma mapM_false {f : α → Except Failure β} {l : List α}
    (h : ∀ a ∈ l, MalformedIf (f a) False) : MalformedIf (l.mapM f) False :=
  (mapM h).congr (by simp)

/-- What is made of a result does not matter. -/
lemma map {f : α → β} (h : MalformedIf x P) : MalformedIf (f <$> x) P := by
  have hpure : ∀ a, x = .ok a → MalformedIf (pure (f a) : Except Failure β) False :=
    fun a _ => of_eq_ok rfl
  rw [map_eq_pure_bind]
  exact (h.bind hpure).congr (or_false P).symm.to_iff

end MalformedIf

end RestFlow
