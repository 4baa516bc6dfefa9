import RestFlow.Proofs.Extraction.Mirroring

/-!
# Mirrored properties, part by part

Consumers only mirror properties of their own body, so the pass over mirrored properties may be
carried out for some of the consumers alone, as long as no property is separated from those that
mirror it (`SameBodyState.IsSeparate`).  What the pass makes of all dependencies is, among these
consumers, what it makes of theirs (`Setup.part_sameBodyPass`), whatever the dictionary is.

The proof follows the turns.  The turn of a consumer that counts is its turn among those that count
(`SameBodyState.part_turn`), where `SameBodyState.rank` is the number of those before it, and the
turn of another consumer changes nothing among them (`SameBodyState.part_turn_of_dropped`).
-/

namespace RestFlow

section

variable {α : Type} {test : α → Bool} {l : List α} {position : Nat} {a : α}

/-- Changing an element that is kept, and stays so, changes it among those that are kept. -/
lemma filter_modify_of_pos {f : α → α} (h : l[position]? = some a) (ha : test a = true)
    (hfa : test (f a) = true) :
    (l.modify position f).filter test =
      (l.filter test).modify ((l.take position).filter test).length f := by
  induction l generalizing position with
  | nil => cases h
  | cons b rest ih =>
    cases position with
    | zero =>
      obtain rfl := Option.some.inj h
      rw [List.modify_zero_cons, List.filter_cons_of_pos hfa, List.filter_cons_of_pos ha]
      rfl
    | succ position =>
      rw [List.modify_succ_cons, List.take_succ_cons]
      by_cases hb : test b = true
      · rw [List.filter_cons_of_pos hb, List.filter_cons_of_pos hb, List.filter_cons_of_pos hb,
          List.length_cons, List.modify_succ_cons, ih h]
      · rw [List.filter_cons_of_neg hb, List.filter_cons_of_neg hb, List.filter_cons_of_neg hb,
          ih h]

/-- An element that is kept is found where as many are kept before it. -/
lemma getElem?_filter_of_pos (h : l[position]? = some a) (ha : test a = true) :
    (l.filter test)[((l.take position).filter test).length]? = some a := by
  induction l generalizing position with
  | nil => cases h
  | cons b rest ih =>
    cases position with
    | zero =>
      obtain rfl := Option.some.inj h
      rw [List.filter_cons_of_pos ha]
      rfl
    | succ position =>
      rw [List.take_succ_cons]
      by_cases hb : test b = true
      · rw [List.filter_cons_of_pos hb, List.filter_cons_of_pos hb, List.length_cons,
          List.getElem?_cons_succ, ih h]
      · rw [List.filter_cons_of_neg hb, List.filter_cons_of_neg hb, ih h]

end

namespace Dependency

/-- The dependencies of the consumers that count. -/
def part (keep : Consumer → Bool) (l : List Dependency) : List Dependency :=
  l.filter fun d => keep d.consumer

variable {keep : Consumer → Bool} {d : Dependency} {l : List Dependency}

lemma mem_part_iff : d ∈ part keep l ↔ d ∈ l ∧ keep d.consumer = true :=
  List.mem_filter

lemma part_append (l l' : List Dependency) : part keep (l ++ l') = part keep l ++ part keep l' :=
  List.filter_append l l'

lemma part_cons_of_pos (h : keep d.consumer = true) : part keep (d :: l) = d :: part keep l :=
  List.filter_cons_of_pos h

lemma part_cons_of_neg (h : keep d.consumer = false) : part keep (d :: l) = part keep l :=
  List.filter_cons_of_neg (by simp [h])

end Dependency

namespace SameBodyState

open Dependency (part part_append part_cons_of_pos part_cons_of_neg)

/-! ## One turn -/

section Turn

variable {index : ProducerIndex} {aliases : SortedMap String} {keep : Consumer → Bool}
  {l : List Dependency} {position : Nat} {p : Producer} {r : Resource} {y : Dependency}

variable (index aliases) in
/-- What a turn of the pass makes of the dependencies, whatever the dictionary is. -/
def turn (l : List Dependency) (position : Nat) : List Dependency :=
  match l[position]? with
  | some ⟨x, none⟩ =>
    match x.mirror? index aliases with
    | some r => mirroring l position r
    | none => l
  | _ => l

/-- The dependencies after a step of the pass. -/
lemma dependencies_step (st : SameBodyState) (position : Nat) :
    (step index aliases st position).dependencies =
      turn index aliases st.dependencies position := by
  unfold turn
  rcases step_cases index aliases st position with ⟨hstep, hnothing⟩ | ⟨x, r, hx, hr, hstep⟩
  · rw [hstep]
    split
    · rename_i x hx
      rw [hnothing x hx]
    · rfl
  · rw [hstep, hx]
    dsimp only
    rw [hr]
    rfl

/-- What a turn does depends on the body properties of the index only. -/
lemma turn_congr {index' : ProducerIndex} (h : index.sameBody = index'.sameBody) :
    turn index aliases = turn index' aliases := by
  funext l position
  simp only [turn, Consumer.mirror?_congr h]

/-- A turn leaves the consumers as they are. -/
lemma map_consumer_turn : (turn index aliases l position).map Dependency.consumer =
    l.map Dependency.consumer := by
  have hstep := map_consumer_step index aliases ⟨l, default, 0⟩ position
  rwa [dependencies_step] at hstep

variable (keep) in
/-- The number of consumers that count before a position. -/
def rank (l : List Dependency) (position : Nat) : Nat :=
  (part keep (l.take position)).length

/-- The number of consumers that count depends on the consumers only. -/
lemma rank_congr {l' : List Dependency}
    (h : l.map Dependency.consumer = l'.map Dependency.consumer) (position : Nat) :
    rank keep l position = rank keep l' position := by
  have hcount : ∀ m : List Dependency,
      rank keep m position = ((m.map Dependency.consumer).take position).countP keep := by
    intro m
    rw [rank, part, ← List.countP_eq_length_filter, ← List.map_take, List.countP_map]
    rfl
  rw [hcount, hcount, h]

/-- After a consumer that counts there is one more. -/
lemma rank_succ_of_kept (h : l[position]? = some y) (hy : keep y.consumer = true) :
    rank keep l (position + 1) = rank keep l position + 1 := by
  rw [rank, rank, List.take_add_one, h, Option.toList_some, part_append, part_cons_of_pos hy,
    List.length_append]
  rfl

/-- After a consumer that does not count there are as many as before. -/
lemma rank_succ_of_dropped (h : ∀ y, l[position]? = some y → keep y.consumer = false) :
    rank keep l (position + 1) = rank keep l position := by
  rw [rank, rank, List.take_add_one, part_append, List.length_append]
  cases hy : l[position]? with
  | none => rfl
  | some y =>
    rw [Option.toList_some, part_cons_of_neg (h y hy)]
    rfl

/-- A consumer that counts is given a producer among those that count. -/
lemma part_bind (h : l[position]? = some y) (hy : keep y.consumer = true) :
    part keep (bind l position p) = bind (part keep l) (rank keep l position) p :=
  filter_modify_of_pos h hy hy

/-- Giving a producer to a consumer that does not count changes nothing among the others. -/
lemma part_bind_of_dropped (h : ∀ y, l[position]? = some y → keep y.consumer = false) :
    part keep (bind l position p) = part keep l :=
  filter_modify fun y hy => ⟨h y hy, h y hy⟩

/-- The first dependency without a producer and with the resource is the first one of the list, or
is looked for further on. -/
lemma bindFirst_cons : bindFirst (y :: l) r p =
    if y.producer.isNone && y.consumer.resource == r then { y with producer := some p } :: l
    else y :: bindFirst l r p := by
  unfold bindFirst
  rw [List.findIdx?_cons]
  by_cases htest : (y.producer.isNone && y.consumer.resource == r) = true
  · rw [if_pos htest, if_pos htest]
    rfl
  · rw [if_neg htest, if_neg htest]
    cases l.findIdx? fun d => d.producer.isNone && d.consumer.resource == r <;> rfl

/-- A producer is given out among the consumers that count if all with the resource count. -/
lemma part_bindFirst_of_kept
    (h : ∀ y ∈ l, (y.consumer.resource == r) = true → keep y.consumer = true) :
    part keep (bindFirst l r p) = bindFirst (part keep l) r p := by
  induction l with
  | nil => rfl
  | cons y rest ih =>
    have ih := ih fun z hz => h z (List.mem_cons_of_mem y hz)
    rw [bindFirst_cons]
    by_cases htest : (y.producer.isNone && y.consumer.resource == r) = true
    · have hy : keep y.consumer = true :=
        h y List.mem_cons_self (Bool.and_eq_true _ _ ▸ htest).2
      -- a producer changes nothing about whether its consumer counts
      have hbound : keep { y with producer := some p }.consumer = true := hy
      rw [if_pos htest, part_cons_of_pos hbound, part_cons_of_pos hy, bindFirst_cons,
        if_pos htest]
    · rw [if_neg htest]
      cases hy : keep y.consumer with
      | true => rw [part_cons_of_pos hy, part_cons_of_pos hy, bindFirst_cons, if_neg htest, ih]
      | false => rw [part_cons_of_neg hy, part_cons_of_neg hy, ih]

/-- Giving out a producer changes nothing among the consumers that count if none with the resource
counts. -/
lemma part_bindFirst_of_dropped
    (h : ∀ y ∈ l, (y.consumer.resource == r) = true → keep y.consumer = false) :
    part keep (bindFirst l r p) = part keep l := by
  rcases bindFirst_cases l r p with ⟨hsame, -⟩ | ⟨n, x, hn, hx, hbind⟩
  · rw [hsame]
  · rw [hbind]
    refine part_bind_of_dropped fun y hy => ?_
    rw [hn] at hy
    rw [← Option.some.inj hy]
    exact h _ (List.mem_of_getElem? hn) hx

variable (index aliases keep) in
/-- A property counts if and only if those that mirror it do. -/
def IsSeparate (l : List Dependency) : Prop :=
  ∀ y ∈ l, ∀ r, y.consumer.mirror? index aliases = some r →
    ∀ z ∈ l, (z.consumer.resource == r) = true → keep z.consumer = keep y.consumer

/-- Whoever mirrors a property is a body property of the same request, so that it is enough if body
properties of one request count together. -/
lemma isSeparate_of_body (hl : ∀ y ∈ l, y.consumer.kind = y.consumer.resource.reference.kind)
    (hkeep : ∀ x x' : Consumer, x.kind = .body → x'.kind = .body →
      (x.request == x'.request) = true → keep x = keep x') :
    IsSeparate index aliases keep l := by
  intro y hy r hr z hz hzr
  obtain ⟨hkind, _, _, -, -, hmirrors⟩ := Consumer.exists_of_mirror? hr
  obtain ⟨-, hrequest, hplace⟩ := Consumer.of_mem_mirrors hmirrors
  rw [← Resource.place?_eq_of_beq hzr] at hplace
  have hzkind : z.consumer.kind = .body := by
    rw [hl z hz]
    exact (Reference.isSome_place?_iff _).mp hplace
  exact hkeep _ _ hzkind hkind (BEq.trans (Resource.beq_eq_true_iff.mp hzr).1 hrequest)

/-- Separation is a matter of the consumers. -/
lemma IsSeparate.congr {l' : List Dependency}
    (h : l.map Dependency.consumer = l'.map Dependency.consumer)
    (hl : IsSeparate index aliases keep l) : IsSeparate index aliases keep l' := by
  have hmem : ∀ y ∈ l', ∃ z ∈ l, z.consumer = y.consumer := by
    intro y hy
    have hconsumer := List.mem_map_of_mem (f := Dependency.consumer) hy
    rw [← h] at hconsumer
    exact List.mem_map.mp hconsumer
  intro y hy r hr z hz hzr
  obtain ⟨y', hy', hyconsumer⟩ := hmem y hy
  obtain ⟨z', hz', hzconsumer⟩ := hmem z hz
  rw [← hyconsumer] at hr ⊢
  rw [← hzconsumer] at hzr ⊢
  exact hl y' hy' r hr z' hz' hzr

/-- The turn of a consumer that counts is its turn among those that count. -/
lemma part_turn (hl : IsSeparate index aliases keep l) (h : l[position]? = some y)
    (hy : keep y.consumer = true) :
    part keep (turn index aliases l position) =
      turn index aliases (part keep l) (rank keep l position) := by
  have hkept : (part keep l)[rank keep l position]? = some y := getElem?_filter_of_pos h hy
  unfold turn
  rw [h, hkept]
  split
  · rename_i x hx
    cases hx
    cases hmirror : x.mirror? index aliases with
    | none => rfl
    | some r =>
      have hsame : ∀ z ∈ l, (z.consumer.resource == r) = true → keep z.consumer = true :=
        fun z hz hzr => (hl _ (List.mem_of_getElem? h) r hmirror z hz hzr).trans hy
      -- the consumer keeps its place when the property is given its suffix
      have hconsumers := map_consumer_bindFirst l r (backing r)
      have hturn := congrArg (·[position]?) hconsumers
      rw [List.getElem?_map, List.getElem?_map, h, Option.map_some] at hturn
      obtain ⟨z, hz, hzx⟩ := Option.map_eq_some_iff.mp hturn
      have hzkept : keep z.consumer = true := by rw [hzx, hy]
      show part keep (mirroring l position r) = mirroring (part keep l) (rank keep l position) r
      rw [mirroring, mirroring, part_bind hz hzkept, part_bindFirst_of_kept hsame,
        rank_congr hconsumers]
  · rfl

/-- The turn of a consumer that does not count changes nothing among the others. -/
lemma part_turn_of_dropped (hl : IsSeparate index aliases keep l)
    (h : ∀ y, l[position]? = some y → keep y.consumer = false) :
    part keep (turn index aliases l position) = part keep l := by
  unfold turn
  split
  · rename_i x hx
    cases hmirror : x.mirror? index aliases with
    | none => rfl
    | some r =>
      -- whoever is mirrored does not count either, and nobody else is bound
      have hdropped : ∀ z ∈ l, (z.consumer.resource == r) = true → keep z.consumer = false :=
        fun z hz hzr => (hl _ (List.mem_of_getElem? hx) r hmirror z hz hzr).trans (h _ hx)
      have hconsumers := map_consumer_bindFirst l r (backing r)
      have hturn : ∀ z, (bindFirst l r (backing r))[position]? = some z →
          keep z.consumer = false := by
        intro z hz
        have hconsumer := congrArg (·[position]?) hconsumers
        rw [List.getElem?_map, List.getElem?_map, hz, hx, Option.map_some,
          Option.map_some] at hconsumer
        rw [Option.some.inj hconsumer]
        exact h _ hx
      show part keep (mirroring l position r) = part keep l
      rw [mirroring, part_bind_of_dropped hturn, part_bindFirst_of_dropped hdropped]
  · rfl

end Turn

/-! ## All turns -/

variable {index : ProducerIndex} {aliases : SortedMap String} {keep : Consumer → Bool}
  {l : List Dependency}

variable (index aliases) in
/-- What a number of turns make of the dependencies. -/
def turns (l : List Dependency) (n : Nat) : List Dependency :=
  (List.range n).foldl (turn index aliases) l

/-- One more turn. -/
lemma turns_succ (n : Nat) :
    turns index aliases l (n + 1) = turn index aliases (turns index aliases l n) n := by
  rw [turns, List.range_succ, List.foldl_append]
  rfl

/-- Turns leave the consumers as they are. -/
lemma map_consumer_turns (n : Nat) :
    (turns index aliases l n).map Dependency.consumer = l.map Dependency.consumer := by
  induction n with
  | zero => rfl
  | succ n ih => rw [turns_succ, map_consumer_turn, ih]

/-- Turns among all dependencies are, among those that count, the turns of these. -/
theorem part_turns (hl : IsSeparate index aliases keep l) (n : Nat) :
    part keep (turns index aliases l n) =
      turns index aliases (part keep l) (rank keep l n) := by
  induction n with
  | zero => rfl
  | succ n ih =>
    have hconsumers : (turns index aliases l n).map Dependency.consumer =
        l.map Dependency.consumer := map_consumer_turns n
    have hseparate := hl.congr hconsumers.symm
    -- turns change no consumer, so ranks stay as they are
    have hrank : ∀ m, rank keep (turns index aliases l n) m = rank keep l m :=
      rank_congr hconsumers
    rw [turns_succ]
    by_cases hkept : ∃ y, (turns index aliases l n)[n]? = some y ∧ keep y.consumer = true
    · obtain ⟨y, hy, hkeep⟩ := hkept
      rw [part_turn hseparate hy hkeep, ih, ← hrank (n + 1), rank_succ_of_kept hy hkeep, hrank,
        turns_succ]
    · have hdropped : ∀ y, (turns index aliases l n)[n]? = some y → keep y.consumer = false :=
        fun y hy => Bool.eq_false_iff.mpr fun hkeep => hkept ⟨y, hy, hkeep⟩
      rw [part_turn_of_dropped hseparate hdropped, ih, ← hrank (n + 1),
        rank_succ_of_dropped hdropped, hrank]

end SameBodyState

namespace Setup

open SameBodyState

variable {s : Setup} {index : ProducerIndex} {l : List Dependency}

/-- The dependencies after the pass over mirrored properties do not depend on the dictionary. -/
lemma dependencies_sameBodyPass (d : Dictionary) :
    (s.sameBodyPass index l d).dependencies = turns index s.config.aliases l l.length := by
  refine sameBodyPass_turns
    (fun n st => st.dependencies = turns index s.config.aliases l n) rfl fun n st hst => ?_
  rw [dependencies_step, hst, turns_succ]

/-- Nor do they depend on more of the index than the body properties. -/
lemma dependencies_sameBodyPass_congr {index' : ProducerIndex}
    (h : index.sameBody = index'.sameBody) (d d' : Dictionary) :
    (s.sameBodyPass index l d).dependencies = (s.sameBodyPass index' l d').dependencies := by
  rw [dependencies_sameBodyPass, dependencies_sameBodyPass, turns, turns, turn_congr h]

/-- What the pass over mirrored properties makes of all dependencies is, among the consumers that
count, what it makes of theirs. -/
theorem part_sameBodyPass {keep : Consumer → Bool}
    (hl : IsSeparate index s.config.aliases keep l) (d d' : Dictionary) :
    Dependency.part keep (s.sameBodyPass index l d).dependencies =
      (s.sameBodyPass index (Dependency.part keep l) d').dependencies := by
  rw [dependencies_sameBodyPass, dependencies_sameBodyPass, part_turns hl, rank, List.take_length]

end Setup

end RestFlow
