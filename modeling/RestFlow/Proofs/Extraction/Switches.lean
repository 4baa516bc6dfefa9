import RestFlow.Proofs.Extraction.Collection
import RestFlow.Proofs.Extraction.Parts
import RestFlow.Proofs.Extraction.Readers

/-!
# Hiding a kind of input

Query parameters, headers and body properties are resolved if the configuration asks for them.  All
consumers share one dictionary and one index, so it is not obvious that hiding some of them makes no
difference to the others.

Without directives it does not (`Setup.dependenciesOf_asking`).  Only writers among the path
parameters feed the index and the dictionary before the pass over all consumers, and these are
always there, so that the strategies look at the same things (`Setup.writers_eq_of_agree`).  The
pass over mirrored properties stays within bodies, so that it may be carried out kind by kind
(`Setup.isSeparate_kind`).  Constraints between requests only depend on path parameters, because
nobody else is bound to an input (`OrderingConstraint.implied_part`).
-/

namespace RestFlow

section

variable {α β : Type} {test : α → Bool} {l : List α}

/-- What contributes nothing may be left out. -/
lemma flatMap_filter_of_nil {f : α → List β} (h : ∀ a ∈ l, test a = false → f a = []) :
    (l.filter test).flatMap f = l.flatMap f := by
  induction l with
  | nil => rfl
  | cons a rest ih =>
    have ih := ih fun b hb => h b (List.mem_cons_of_mem a hb)
    cases ha : test a with
    | true => rw [List.filter_cons_of_pos ha, List.flatMap_cons, List.flatMap_cons, ih]
    | false =>
      rw [List.filter_cons_of_neg (by simp [ha]), List.flatMap_cons, h a List.mem_cons_self ha,
        List.nil_append, ih]

/-- Where nothing is found need not be searched. -/
lemma findSome?_filter_of_none {f : α → Option β} (h : ∀ a ∈ l, test a = false → f a = none) :
    (l.filter test).findSome? f = l.findSome? f := by
  induction l with
  | nil => rfl
  | cons a rest ih =>
    have ih := ih fun b hb => h b (List.mem_cons_of_mem a hb)
    cases ha : test a with
    | true => rw [List.filter_cons_of_pos ha, List.findSome?_cons, List.findSome?_cons, ih]
    | false =>
      rw [List.filter_cons_of_neg (by simp [ha]), List.findSome?_cons, h a List.mem_cons_self ha,
        ih]

end

namespace OrderingConstraint

/-! ## Constraints -/

variable {keep : Consumer → Bool} {l : List Dependency}

/-- The supplier of an input is found among the consumers that count if all that are the input
do. -/
lemma supplier?_part {input : Resource}
    (h : ∀ z ∈ l, (z.consumer.resource == input) = true → keep z.consumer = true) :
    supplier? (Dependency.part keep l) input = supplier? l input := by
  refine findSome?_filter_of_none fun z hz hdropped => ?_
  have hother : ¬(z.consumer.resource == input) = true := by
    intro hinput
    rw [h z hz hinput] at hdropped
    cases hdropped
  split
  · rw [if_neg hother]
  · rfl

/-- Constraints are implied by the consumers that count, if these are all that are bound to an input
or are such an input. -/
lemma implied_part
    (h : ∀ y ∈ l, ∀ input origin, y.producer = some (.inputOnly input origin) →
      keep y.consumer = true ∧
        ∀ z ∈ l, (z.consumer.resource == input) = true → keep z.consumer = true) :
    implied (Dependency.part keep l) = implied l := by
  have hsame : ∀ y ∈ l, impliedBy (Dependency.part keep l) y = impliedBy l y := by
    intro y hy
    unfold impliedBy
    split
    · rename_i input origin hp
      rw [supplier?_part (h y hy input origin hp).2]
    · rfl
  -- what does not count implies nothing
  have hnothing : ∀ y ∈ l, keep y.consumer = false → impliedBy l y = [] := by
    intro y hy hdropped
    unfold impliedBy
    split
    · rename_i input origin hp
      rw [(h y hy input origin hp).1] at hdropped
      cases hdropped
    · rfl
  rw [implied, implied, ← flatMap_filter_of_nil hnothing]
  exact List.flatMap_congr fun y hy => hsame y (Dependency.mem_part_iff.mp hy).1

end OrderingConstraint

namespace Setup

variable {s : Setup} {i : Interface} {c c' : Collection} {d : Dictionary}
  {shared : ParameterKind → Bool}

/-! ## Kinds of consumers -/

/-- Whoever mirrors a property is of its kind. -/
lemma isSeparate_kind {index : ProducerIndex} {aliases : SortedMap String} {l : List Dependency}
    (hl : ∀ y ∈ l, y.consumer.kind = y.consumer.resource.reference.kind) (kind : ParameterKind) :
    SameBodyState.IsSeparate index aliases (fun x => x.kind == kind) l :=
  SameBodyState.isSeparate_of_body hl fun y z hy hz _ => by rw [hy, hz]

/-! ## The passes -/

section Passes

variable (hnone : s.declaredDirectives i = []) (hagree : c.Agree shared c')
include hnone hagree

/-- The pool at the start is the same. -/
lemma initialPool_eq_of_agree : s.initialPool i c = s.initialPool i c' := by
  unfold initialPool
  rw [hnone, hagree.responses, hagree.sameBody]
  rfl

variable (hpath : shared .path = true)
include hpath

omit hnone in
/-- The writers are the same, because they are path parameters. -/
lemma pathWriters_eq_of_agree : c.pathWriters = c'.pathWriters := by
  have hpaths : ∀ a : Collection,
      a.pathWriters = (Consumer.ofKind .path a.consumers).filter Consumer.isPathWriter := by
    intro a
    rw [Collection.pathWriters, Consumer.ofKind, List.filter_filter]
    refine List.filter_congr fun x _ => ?_
    rw [Consumer.isPathWriter]
    cases x.kind <;> simp
  rw [hpaths, hpaths, hagree.consumers .path hpath]

/-- The pass over writers is the same. -/
lemma writers_eq_of_agree : s.writers i c d = s.writers i c' d := by
  have hwriters := pathWriters_eq_of_agree hagree hpath
  rw [Collection.pathWriters, Collection.pathWriters] at hwriters
  rw [writers, writers, writerPass, writerPass, initialPool_eq_of_agree hnone hagree, hwriters]

lemma settings_eq_of_agree : s.settings i c d = s.settings i c' d := by
  rw [settings, settings, writers_eq_of_agree hnone hagree hpath]

/-- The pass over all consumers is the same for the kinds that are shared. -/
lemma part_main_eq_of_agree {kind : ParameterKind} (hkind : shared kind = true) :
    Dependency.part (fun x => x.kind == kind) (s.main i c d).dependencies =
      Dependency.part (fun x => x.kind == kind) (s.main i c' d).dependencies := by
  have hpart : ∀ a : Collection,
      Dependency.part (fun x => x.kind == kind) (s.main i a d).dependencies =
        (Consumer.ofKind kind a.consumers).map fun x =>
          ⟨x, (x.resolve (s.settings i a d) (s.writers i a d).dictionary).1.producer⟩ := by
    intro a
    rw [dependencies_main, Dependency.part, List.filter_map]
    rfl
  rw [hpart, hpart, hagree.consumers kind hkind, settings_eq_of_agree hnone hagree hpath,
    writers_eq_of_agree hnone hagree hpath]

/-- The pass over mirrored properties is the same for the kinds that are shared. -/
theorem part_mirrored_eq_of_agree
    (hc : ∀ x ∈ c.consumers, x.kind = x.resource.reference.kind)
    (hc' : ∀ x ∈ c'.consumers, x.kind = x.resource.reference.kind) {kind : ParameterKind}
    (hkind : shared kind = true) :
    Dependency.part (fun x => x.kind == kind) (s.mirrored i c d).dependencies =
      Dependency.part (fun x => x.kind == kind) (s.mirrored i c' d).dependencies := by
  have hmain : ∀ a : Collection, (∀ x ∈ a.consumers, x.kind = x.resource.reference.kind) →
      ∀ y ∈ (s.main i a d).dependencies,
        y.consumer.kind = y.consumer.resource.reference.kind :=
    fun a ha y hy => ha _ (mem_dependencies_main_iff.mp hy).1
  rw [mirrored, mirrored, part_sameBodyPass (isSeparate_kind (hmain c hc) kind) _ d,
    part_sameBodyPass (isSeparate_kind (hmain c' hc') kind) _ d,
    part_main_eq_of_agree hnone hagree hpath hkind, writers_eq_of_agree hnone hagree hpath]

end Passes

/-- Without directives, the constraints that are implied are those implied by path parameters. -/
lemma implied_part_mirrored (hnone : s.declaredDirectives i = [])
    (hc : (s.collect i).2 = .ok c) :
    OrderingConstraint.implied
        (Dependency.part (fun x => x.kind == .path) (s.mirrored i c d).dependencies) =
      OrderingConstraint.implied (s.mirrored i c d).dependencies := by
  have hpath : ∀ y ∈ (s.mirrored i c d).dependencies,
      y.consumer.resource.reference.kind = .path → (y.consumer.kind == .path) = true := by
    intro y hy hkind
    rw [kind_eq_of_mem_consumers hc (mem_consumers_of_mem_mirrored hy), hkind]
    rfl
  -- only path parameters are bound to inputs, and only path parameters are inputs
  refine OrderingConstraint.implied_part fun y hy input origin hp => ?_
  obtain ⟨scope, found, hscope, hfound, -, -, -, heq⟩ :=
    Strategy.input_of_fromInputs (fromInputs_of_mem_mirrored hnone hc hy hp)
  obtain ⟨rfl, -⟩ := Producer.inputOnly.inj heq
  constructor
  · refine hpath y hy ((Reference.isSome_scope?_iff _).mp ?_)
    rw [hscope]
    rfl
  · intro z hz hzinput
    refine hpath z hz ?_
    obtain ⟨-, w, hw, hwinput⟩ := exists_writer_of_mem_inputs hnone hfound
    obtain ⟨hwmem, hwpath, -⟩ := Collection.mem_pathWriters_iff.mp hw
    rw [Resource.reference_eq_of_beq hzinput, ← hwinput, ← kind_eq_of_mem_consumers hc hwmem,
      hwpath]

end Setup

/-! ## Results -/

namespace Consumer

/-- Equal consumers are of the same kind. -/
lemma kind_eq_of_beq {x y : Consumer} (h : (x == y) = true) : x.kind = y.kind := by
  obtain ⟨_, _, _⟩ := x
  obtain ⟨_, _, _⟩ := y
  have h : (_ && (_ && _)) = true := h
  rw [Bool.and_eq_true, Bool.and_eq_true] at h
  exact beq_iff_eq.mp h.2.1

end Consumer

namespace Extraction

/-- The dependencies of a consumer, one for each time that it was collected. -/
def dependenciesOf (result : Extraction) (x : Consumer) : List Dependency :=
  result.all.filter fun dep => dep.consumer == x

end Extraction

namespace Setup

variable {s : Setup} {i : Interface} {c : Collection} {d : Dictionary} {result result' : Extraction}
  {query header body : Bool}

/-- A kind of which there are consumers was asked for. -/
lemma asks_of_mem_consumers (hc : (s.collect i).2 = .ok c) {x : Consumer} (hx : x ∈ c.consumers) :
    s.asks x.kind = true := by
  cases hasks : s.asks x.kind with
  | true => rfl
  | false => exact absurd rfl (kind_ne_of_asks_eq_false hc hasks x hx)

/-- Without directives, what is asked for makes no difference to the bonds of the consumers that are
asked for both times, nor to the constraints. -/
theorem dependenciesOf_asking (hnone : s.declaredDirectives i = [])
    (hresult : (s.extract i d).2 = .ok result)
    (hresult' : ((s.asking query header body).extract i d).2 = .ok result') :
    (∀ x ∈ result.consumers, x ∈ result'.consumers →
        result.dependenciesOf x = result'.dependenciesOf x) ∧
      result.orderingConstraints = result'.orderingConstraints := by
  obtain ⟨c, groups, hc, -, rfl⟩ := extract_eq_ok_iff.mp hresult
  obtain ⟨c', groups', hc', -, rfl⟩ := extract_eq_ok_iff.mp hresult'
  have hagree := agree_collect hc hc'
  have hall := all_eq_mirrored hnone hc hresult
  -- the passes after the collection do not look at what is asked for
  have hall' : ((s.asking query header body).assembled i c' d groups').all =
      (s.mirrored i c' d).dependencies :=
    all_eq_mirrored (s := s.asking query header body) hnone hc' hresult'
  have hparts : ∀ kind, s.asks kind = true → (s.asking query header body).asks kind = true →
      Dependency.part (fun x => x.kind == kind) (s.mirrored i c d).dependencies =
        Dependency.part (fun x => x.kind == kind) (s.mirrored i c' d).dependencies :=
    fun kind hasks hasks' => part_mirrored_eq_of_agree hnone hagree rfl
      (fun _ => kind_eq_of_mem_consumers hc) (fun _ => kind_eq_of_mem_consumers hc')
      (by rw [hasks, hasks']; rfl)
  constructor
  · intro x hx hx'
    have hkind := hparts x.kind (asks_of_mem_consumers hc hx) (asks_of_mem_consumers hc' hx')
    have hof : ∀ l : List Dependency, l.filter (fun dep => dep.consumer == x) =
        (Dependency.part (fun y => y.kind == x.kind) l).filter fun dep => dep.consumer == x := by
      intro l
      rw [Dependency.part, List.filter_filter]
      refine List.filter_congr fun dep _ => ?_
      cases hdep : dep.consumer == x with
      | false => rfl
      | true => rw [Consumer.kind_eq_of_beq hdep, beq_self_eq_true, Bool.and_self]
    rw [Extraction.dependenciesOf, Extraction.dependenciesOf, hall, hall', hof, hkind, ← hof]
  · have himplied : OrderingConstraint.implied (s.mirrored i c d).dependencies =
        OrderingConstraint.implied (s.mirrored i c' d).dependencies := by
      rw [← implied_part_mirrored hnone hc, hparts .path rfl rfl]
      exact implied_part_mirrored (s := s.asking query header body) hnone hc'
    show s.constraints i (s.mirrored i c d).dependencies =
      s.constraints i (s.mirrored i c' d).dependencies
    rw [constraints, constraints, himplied]

end Setup

namespace Interface

/-- Stores are created by a PUT with a `name`, and the orders of a store are read page by page. -/
def storesAndPages : Interface where
  requests := [
    { id := { endpoint := "/stores/\x7bstoreId\x7d", method := .put }
      data := {
        pathParameters := [stringParameter "storeId"]
        body := some (.internal "" .object true false [(stringParameter "name").payload]) } },
    { id := { endpoint := "/stores/\x7bstoreId\x7d/orders", method := .get }
      data := {
        pathParameters := [stringParameter "storeId"]
        queryParameters := [stringParameter "page"] } }]

end Interface

namespace Setup

open Interface

/-- Four inputs are consumers as a rule. -/
lemma extract_storesAndPages :
    ∃ result, (({} : Setup).extract storesAndPages .standard).2 = .ok result ∧
      result.consumers.map Consumer.name = ["storeId", "name", "storeId", "page"] ∧
      result.consumers[2]? = some orderedStore :=
  ⟨_, rfl, rfl, rfl⟩

/-- If only headers are asked for, the path parameters are the only consumers. -/
lemma extract_storesAndPages_asking :
    ∃ result, ((({} : Setup).asking false true false).extract storesAndPages .standard).2 =
        .ok result ∧
      result.consumers = [createdStore, orderedStore] ∧
      result.dependenciesOf orderedStore =
        [⟨orderedStore, some (.inputOnly createdStore.resource .writer)⟩] ∧
      result.orderingConstraints.length = 1 :=
  ⟨_, rfl, rfl, rfl, rfl⟩

/-- The store whose orders are read is bound alike, whatever else is asked for. -/
theorem dependenciesOf_orderedStore :
    ∃ result result', (({} : Setup).extract storesAndPages .standard).2 = .ok result ∧
      ((({} : Setup).asking false true false).extract storesAndPages .standard).2 = .ok result' ∧
      result.consumers.length = 4 ∧ result'.consumers.length = 2 ∧
      result.dependenciesOf orderedStore = result'.dependenciesOf orderedStore ∧
      result.orderingConstraints = result'.orderingConstraints ∧
      result'.orderingConstraints.length = 1 := by
  obtain ⟨result, hresult, hnames, hthird⟩ := extract_storesAndPages
  obtain ⟨result', hresult', hconsumers', -, hlength⟩ := extract_storesAndPages_asking
  obtain ⟨hbonds, hconstraints⟩ := dependenciesOf_asking rfl hresult hresult'
  have hcount := congrArg List.length hnames
  rw [List.length_map] at hcount
  have hmem' : orderedStore ∈ result'.consumers := by
    rw [hconsumers']
    exact List.mem_cons_of_mem _ (List.mem_singleton_self _)
  exact ⟨result, result', hresult, hresult', hcount, congrArg List.length hconsumers',
    hbonds orderedStore (List.mem_of_getElem? hthird) hmem', hconstraints, hlength⟩

end Setup

end RestFlow
