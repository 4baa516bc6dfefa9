import Mathlib.Data.List.Basic
import Mathlib.Tactic.Lemma
import RestFlow.Sequence.Constraints

/-!
# Which source an input has

An input that only a directive made a producer gives way to its source, the producer of a parameter
of its request that has its name.  There may be several such parameters, of different kinds or at
different places of the body, and the input is only one of them.  Of those that have a producer the
decisive one (`Dependency.IsDecisive`) is the last one of the kind that comes first among
`Dependency.sourceKinds`; its producer is the source (`Dependency.source?_eq_some_iff`), and it is
what readers of the input are given (`Dependency.alias?_eq_some_iff`).
-/

namespace RestFlow.Dependency

/-- The consumer has a producer, and it is a parameter of the request of an input and has its
name. -/
def isNamesake (input : Resource) (d : Dependency) : Bool :=
  d.isResolved && (d.consumer.request == input.request && d.consumer.name == input.name)

/-- The consumer is the input: it is at the same place of the same request. -/
def isFor (input : Resource) (d : Dependency) : Bool :=
  d.consumer.request == input.request && d.consumer.resource.reference == input.reference

/-- The consumer is the one among the namesakes of an input that its source is read from: none of
them is of a kind that is looked into before, and the ones after it are of other kinds. -/
structure IsDecisive (l : List Dependency) (input : Resource) (e : Dependency) : Prop where
  isNamesake : e.isNamesake input = true
  first : ∀ x ∈ l, x.isNamesake input = true →
    sourceKinds.idxOf e.consumer.kind ≤ sourceKinds.idxOf x.consumer.kind
  last : ∃ before after, l = before ++ e :: after ∧
    ∀ x ∈ after, x.isNamesake input = true → x.consumer.kind ≠ e.consumer.kind

variable {l : List Dependency} {input : Resource} {kind : ParameterKind} {p : Producer}

lemma IsDecisive.mem {e : Dependency} (h : IsDecisive l input e) : e ∈ l := by
  obtain ⟨before, after, rfl, -⟩ := h.last
  exact List.mem_append_right _ List.mem_cons_self

/-- The request and the name of a namesake, and that it has a producer. -/
lemma isNamesake_iff {d : Dependency} :
    d.isNamesake input = true ↔ (∃ p, d.producer = some p) ∧
      (d.consumer.request == input.request) = true ∧ d.consumer.name = input.name := by
  rw [isNamesake, Bool.and_eq_true, Bool.and_eq_true, isResolved, Option.isSome_iff_exists,
    beq_iff_eq (a := d.consumer.name)]

/-- A producer is looked for among the namesakes of one kind. -/
lemma ite_producer_eq_some_iff {d : Dependency} :
    (if d.consumer.request == input.request && d.consumer.kind == kind &&
        d.consumer.name == input.name then d.producer else none) = some p ↔
      d.isNamesake input = true ∧ d.consumer.kind = kind ∧ d.producer = some p := by
  rw [isNamesake_iff]
  constructor
  · intro h
    split at h
    · rename_i htest
      rw [Bool.and_eq_true, Bool.and_eq_true, beq_iff_eq (a := d.consumer.kind),
        beq_iff_eq (a := d.consumer.name)] at htest
      obtain ⟨⟨hrequest, hkind⟩, hname⟩ := htest
      exact ⟨⟨⟨p, h⟩, hrequest, hname⟩, hkind, h⟩
    · cases h
  · rintro ⟨⟨-, hrequest, hname⟩, hkind, hp⟩
    rw [if_pos, hp]
    rw [Bool.and_eq_true, Bool.and_eq_true, beq_iff_eq (a := d.consumer.kind),
      beq_iff_eq (a := d.consumer.name)]
    exact ⟨⟨hrequest, hkind⟩, hname⟩

/-- No producer is found among the namesakes of a kind if there are none. -/
lemma producerOf?_eq_none_iff :
    producerOf? l input.request kind input.name = none ↔
      ∀ x ∈ l, x.isNamesake input = true → x.consumer.kind ≠ kind := by
  rw [producerOf?, List.findSome?_eq_none_iff]
  constructor
  · intro h x hx hnamesake hkind
    obtain ⟨p, hp⟩ := (isNamesake_iff.mp hnamesake).1
    have hnone := h x (List.mem_reverse.mpr hx)
    rw [ite_producer_eq_some_iff.mpr ⟨hnamesake, hkind, hp⟩] at hnone
    cases hnone
  · intro h x hx
    rw [Option.eq_none_iff_forall_ne_some]
    intro p hp
    obtain ⟨hnamesake, hkind, -⟩ := ite_producer_eq_some_iff.mp hp
    exact h x (List.mem_reverse.mp hx) hnamesake hkind

/-- The producer that is found among the namesakes of a kind is that of the last one. -/
lemma producerOf?_eq_some_iff :
    producerOf? l input.request kind input.name = some p ↔
      ∃ before e after, l = before ++ e :: after ∧ e.isNamesake input = true ∧
        e.consumer.kind = kind ∧ e.producer = some p ∧
        ∀ x ∈ after, x.isNamesake input = true → x.consumer.kind ≠ kind := by
  rw [producerOf?, List.findSome?_eq_some_iff]
  -- the search goes backwards, so before and after change places
  constructor
  · rintro ⟨later, e, earlier, hsplit, he, hlater⟩
    obtain ⟨hnamesake, hkind, hp⟩ := ite_producer_eq_some_iff.mp he
    refine ⟨earlier.reverse, e, later.reverse, ?_, hnamesake, hkind, hp, ?_⟩
    · rw [← List.reverse_reverse l, hsplit]
      simp
    · intro x hx hx' hxkind
      obtain ⟨q, hq⟩ := (isNamesake_iff.mp hx').1
      have hnone := hlater x (List.mem_reverse.mp hx)
      rw [ite_producer_eq_some_iff.mpr ⟨hx', hxkind, hq⟩] at hnone
      cases hnone
  · rintro ⟨before, e, after, rfl, hnamesake, hkind, hp, hafter⟩
    refine ⟨after.reverse, e, before.reverse, by simp, ?_, ?_⟩
    · exact ite_producer_eq_some_iff.mpr ⟨hnamesake, hkind, hp⟩
    · intro x hx
      rw [Option.eq_none_iff_forall_ne_some]
      intro q hq
      obtain ⟨hx', hxkind, -⟩ := ite_producer_eq_some_iff.mp hq
      exact hafter x (List.mem_reverse.mp hx) hx' hxkind

/-- The kinds before one are those of smaller index. -/
lemma mem_before_iff {before after : List ParameterKind}
    (hsplit : sourceKinds = before ++ kind :: after) (hkind : kind ∉ before)
    (other : ParameterKind) :
    other ∈ before ↔ sourceKinds.idxOf other < sourceKinds.idxOf kind := by
  rw [hsplit, List.idxOf_append_of_notMem hkind, List.idxOf_cons_self]
  constructor
  · intro hother
    rw [List.idxOf_append_of_mem hother]
    exact List.idxOf_lt_length_of_mem hother
  · intro hlt
    by_contra hother
    rw [List.idxOf_append_of_notMem hother] at hlt
    omega

lemma mem_sourceKinds (kind : ParameterKind) : kind ∈ sourceKinds := by
  cases kind <;> decide

/-- The source of an input is the producer of the decisive one among its namesakes. -/
theorem source?_eq_some_iff :
    source? l input = some p ↔ ∃ e, IsDecisive l input e ∧ e.producer = some p := by
  constructor
  · intro h
    obtain ⟨earlier, kind, later, hsplit, hkind, hearlier⟩ := List.findSome?_eq_some_iff.mp h
    obtain ⟨before, e, after, hl, hnamesake, rfl, hp, hafter⟩ := producerOf?_eq_some_iff.mp hkind
    have hfresh : e.consumer.kind ∉ earlier := by
      intro hmem
      rw [hearlier _ hmem] at hkind
      cases hkind
    refine ⟨e, ⟨hnamesake, fun x hx hx' => ?_, before, after, hl, hafter⟩, hp⟩
    -- a namesake of an earlier kind would have been found first
    by_contra hlt
    have hmem := (mem_before_iff hsplit hfresh x.consumer.kind).mpr (Nat.lt_of_not_le hlt)
    exact producerOf?_eq_none_iff.mp (hearlier _ hmem) x hx hx' rfl
  · rintro ⟨e, ⟨hnamesake, hfirst, before, after, hl, hafter⟩, hp⟩
    obtain ⟨earlier, later, hsplit, hfresh⟩ :=
      List.eq_append_cons_of_mem (mem_sourceKinds e.consumer.kind)
    refine List.findSome?_eq_some_iff.mpr ⟨earlier, e.consumer.kind, later, hsplit, ?_, ?_⟩
    · exact producerOf?_eq_some_iff.mpr ⟨before, e, after, hl, hnamesake, rfl, hp, hafter⟩
    · intro kind hkind
      refine producerOf?_eq_none_iff.mpr fun x hx hx' hxkind => ?_
      have hlt := (mem_before_iff hsplit hfresh kind).mp hkind
      have hle := hfirst x hx hx'
      rw [hxkind] at hle
      omega

/-- A dependency is given another producer if it is bound to an input that a directive named, and
then the one of the decisive namesake, which has to be shareable. -/
theorem alias?_eq_some_iff {d : Dependency} :
    alias? l d = some p ↔ ∃ input, d.producer = some (.inputOnly input .directive) ∧
      p.isShareable = true ∧ ∃ e, IsDecisive l input e ∧ e.producer = some p := by
  constructor
  · intro h
    unfold alias? at h
    split at h
    · rename_i input hinput
      obtain ⟨hsource, hshareable⟩ := Option.filter_eq_some_iff.mp h
      exact ⟨input, hinput, hshareable, source?_eq_some_iff.mp hsource⟩
    · cases h
  · rintro ⟨input, hinput, hshareable, hdecisive⟩
    rw [alias?, hinput]
    exact Option.filter_eq_some_iff.mpr ⟨source?_eq_some_iff.mpr hdecisive, hshareable⟩

/-- A dependency keeps its producer, or is given the source of the input that it was bound to. -/
lemma eq_or_exists_of_mem_aliasInputs {d' : Dependency} (h : d' ∈ aliasInputs l) :
    d' ∈ l ∨ ∃ d ∈ l, ∃ p, alias? l d = some p ∧ d' = { d with producer := some p } := by
  obtain ⟨d, hd, rfl⟩ := List.mem_map.mp h
  cases halias : alias? l d with
  | none => exact .inl hd
  | some p => exact .inr ⟨d, hd, p, halias, rfl⟩

/-- A dependency that is given a source is among the results with it. -/
lemma mem_aliasInputs_of_alias? {d : Dependency} (hd : d ∈ l) (h : alias? l d = some p) :
    { d with producer := some p } ∈ aliasInputs l := by
  refine List.mem_map.mpr ⟨d, hd, ?_⟩
  rw [h]

/-- A dependency that is not bound to an input of a directive stays. -/
lemma mem_aliasInputs_of_shareable {d : Dependency} (hd : d ∈ l) (hp : d.producer = some p)
    (hshareable : p.isShareable = true) : d ∈ aliasInputs l := by
  have hnone : alias? l d = none := by
    rw [alias?, hp]
    cases p with
    | inputOnly input origin => cases hshareable
    | response r => rfl
    | sameBody r => rfl
    | dictionary payload => rfl
    | ordering constraint => rfl
  refine List.mem_map.mpr ⟨d, hd, ?_⟩
  rw [hnone]

end RestFlow.Dependency
