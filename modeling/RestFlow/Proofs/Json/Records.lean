import Mathlib.Data.List.Nodup
import Mathlib.Tactic.Lemma
import RestFlow.Json.Decode
import RestFlow.Proofs.Order.SortedMap

/-!
# Records read from what was written

An object that has a member for every present field, and each of them once, is read field by field:
the value of a field is found by its name (`Members.map_snd_find?_present`), and a record has been
read when all its fields have (`Record.read_seq`).  No member of such an object is in the way
(`Record.decoder_ofPresent`).
-/

namespace RestFlow

/-! ## Members -/

namespace Members

/-- The members of an object of fields of which some are absent. -/
def present (fields : List (String × Option Json)) : Members :=
  ⟨fields.filterMap fun f => f.2.map (f.1, ·), false⟩

variable {fields : List (String × Option Json)}

lemma entries_present_none (name : String) :
    (present ((name, none) :: fields)).entries = (present fields).entries :=
  rfl

lemma entries_present_some (name : String) (value : Json) :
    (present ((name, some value) :: fields)).entries = (name, value) :: (present fields).entries :=
  rfl

/-- The names of the members are among those of the fields, in the same order. -/
lemma names_present_sublist (fields : List (String × Option Json)) :
    ((present fields).entries.map Prod.fst).Sublist (fields.map Prod.fst) := by
  induction fields with
  | nil => exact List.Sublist.slnil
  | cons f fields ih =>
    obtain ⟨name, value | value⟩ := f
    · exact ih.cons name
    · exact ih.cons_cons name

/-- The value of a field is found by its name. -/
lemma lookup_present {name : String} {value : Option Json}
    (hnodup : (fields.map Prod.fst).Nodup) (h : (name, value) ∈ fields) :
    (present fields).entries.lookup name = value := by
  induction fields with
  | nil => cases h
  | cons f fields ih =>
    rw [List.map_cons, List.nodup_cons] at hnodup
    rcases List.mem_cons.mp h with rfl | hrest
    · cases value with
      | some value => rw [entries_present_some, SortedMap.lookup_cons_eq_ite, if_pos rfl]
      | none =>
        -- the name of an absent field is not repeated further on
        rw [entries_present_none, List.lookup_eq_none_iff]
        intro e he
        refine bne_iff_ne.mpr fun hname => hnodup.1 ?_
        exact (names_present_sublist fields).mem (List.mem_map.mpr ⟨e, he, hname.symm⟩)
    · have hname : name ≠ f.1 := by
        intro heq
        exact hnodup.1 (List.mem_map.mpr ⟨(name, value), hrest, heq⟩)
      obtain ⟨name', value' | value'⟩ := f
      · rw [entries_present_none, ih hnodup.2 hrest]
      · rw [entries_present_some, SortedMap.lookup_cons_eq_ite, if_neg hname, ih hnodup.2 hrest]

/-- A field is found where its name first occurs. -/
lemma map_snd_find? (m : Members) (name : String) :
    (m.find? name).map Prod.snd = m.entries.lookup name := by
  have hfrom : ∀ (entries : List (String × Json)) (k : Nat),
      ((entries.zipIdx k).find? fun e => e.1.1 == name).map (fun e => e.1.2) =
        entries.lookup name := by
    intro entries
    induction entries with
    | nil => exact fun _ => rfl
    | cons e entries ih =>
      intro k
      rw [List.zipIdx_cons, List.find?_cons, SortedMap.lookup_cons_eq_ite]
      by_cases hname : name = e.1
      · rw [if_pos hname, beq_iff_eq.mpr hname.symm]
        rfl
      · rw [if_neg hname, beq_eq_false_iff_ne.mpr (Ne.symm hname)]
        exact ih (k + 1)
  rw [find?, Option.map_map]
  exact hfrom m.entries 0

/-- The value of a field is the one that it was written with. -/
lemma map_snd_find?_present {name : String} {value : Option Json}
    (hnodup : (fields.map Prod.fst).Nodup) (h : (name, value) ∈ fields) :
    ((present fields).find? name).map Prod.snd = value := by
  rw [map_snd_find?, lookup_present hnodup h]

end Members

/-! ## Records -/

namespace Record

variable {α β : Type} {m : Members} {fields : List (String × Option Json)} {name : String}

/-- What is made of a record that was read. -/
lemma read_map {r : Record α} {a : α} (h : r.read m = .ok a) (f : α → β) :
    (f <$> r).read m = .ok (f a) := by
  show f <$> r.read m = _
  rw [h]
  rfl

/-- Two records that were read are read together. -/
lemma read_seq {r : Record (α → β)} {r' : Record α} {f : α → β} {a : α} (h : r.read m = .ok f)
    (h' : r'.read m = .ok a) : (r <*> r').read m = .ok (f a) := by
  show combine (r.read m) (r'.read m) = _
  rw [h, h']
  rfl

/-- A field that has to be present is read from its member. -/
lemma read_required {decode : Decoder α} {value : Json} {a : α}
    (hnodup : (fields.map Prod.fst).Nodup) (h : (name, some value) ∈ fields)
    (hdecode : decode value = .ok a) :
    (required name decode).read (.present fields) = .ok a := by
  obtain ⟨⟨place, _⟩, hfind, rfl⟩ :=
    Option.map_eq_some_iff.mp (Members.map_snd_find?_present hnodup h)
  simp only [required, hfind, readAt, hdecode]

/-- A field with a value in its absence is read from its member, if there is one. -/
lemma read_defaulted {decode : Decoder α} {value : Option Json} {default a : α}
    (hnodup : (fields.map Prod.fst).Nodup) (h : (name, value) ∈ fields)
    (hdecode : value.elim (.ok default) decode = .ok a) :
    (defaulted name default decode).read (.present fields) = .ok a := by
  have hvalue := Members.map_snd_find?_present hnodup h
  cases hfind : (Members.present fields).find? name with
  | none =>
    rw [hfind] at hvalue
    subst hvalue
    simp only [defaulted, hfind]
    exact congrArg _ (Except.ok.inj hdecode)
  | some found =>
    rw [hfind] at hvalue
    subst hvalue
    have hdecode : decode found.2 = .ok a := hdecode
    simp only [defaulted, hfind, readAt, hdecode]

/-- A text that may be absent is read from its member, if there is one. -/
lemma read_optional_string {text : Option String} (hnodup : (fields.map Prod.fst).Nodup)
    (h : (name, text.map .string) ∈ fields) :
    (optional name .string).read (.present fields) = .ok text := by
  refine read_defaulted hnodup h ?_
  cases text <;> rfl

/-- Members of a record that all have names of their own are in nobody's way. -/
lemma firstIntruder_eq_none {names seen : List String} {closed : Bool} {place : Nat}
    {entries : List (String × Json)} (hnames : ∀ e ∈ entries, e.1 ∈ names)
    (hseen : ∀ e ∈ entries, e.1 ∉ seen) (hnodup : (entries.map Prod.fst).Nodup) :
    firstIntruder names closed seen place entries = none := by
  induction entries generalizing seen place with
  | nil => rfl
  | cons e entries ih =>
    obtain ⟨name, value⟩ := e
    rw [List.map_cons, List.nodup_cons] at hnodup
    obtain ⟨hname, hnames⟩ := List.forall_mem_cons.mp hnames
    obtain ⟨hfirst, hseen⟩ := List.forall_mem_cons.mp hseen
    rw [firstIntruder, if_pos hname, if_neg hfirst]
    refine ih hnames (fun e he hmem => ?_) hnodup.2
    rcases List.mem_cons.mp hmem with hfst | hmem
    · exact hnodup.1 (List.mem_map.mpr ⟨e, he, hfst⟩)
    · exact hseen e he hmem

/-- A record is read from the object of its fields if all of them can be read. -/
theorem decoder_ofPresent {r : Record α} {a : α} (hnames : fields.map Prod.fst = r.names)
    (hnodup : (fields.map Prod.fst).Nodup) (h : r.read (.present fields) = .ok a) :
    r.decoder (Json.ofPresent fields) = .ok a := by
  have hsublist := Members.names_present_sublist fields
  have hintruder : firstIntruder r.names false [] 0 (Members.present fields).entries = none := by
    refine firstIntruder_eq_none (fun e he => ?_) (fun _ _ => List.not_mem_nil)
      (hnodup.sublist hsublist)
    rw [← hnames]
    exact hsublist.mem (List.mem_map_of_mem he)
  have hread : r.read ⟨(Members.present fields).entries, false⟩ = .ok a := h
  show r.ofMembers false (Members.present fields).entries = _
  simp only [ofMembers, hread, hintruder]

end Record

end RestFlow
