import RestFlow.Body.Form
import RestFlow.Proofs.Request.Identity
import RestFlow.Proofs.Resource.Equality

/-!
# Pointers stand for plain paths

A pointer is read as a path of plain segments (`AccessPath.plain_ofPointer`), so plain paths are the
only ones that a pointer stands for (`AccessPath.ofPointer_pointer_eq_iff`). Among them pointers
show everything: a text that goes on with a slash after the pointer of a plain path leads through
that path (`AccessPath.segments_ofPointer_append`), hence one plain path is above another exactly if
its pointer and a slash start the pointer of the other (`AccessPath.isAncestorOf_iff_startsWith`),
and consumers at different plain places have different keys (`Consumer.key_beq_eq_false`).
-/

namespace RestFlow

namespace AccessPath

variable {p q : AccessPath}

/-- The segments of a pointer are plain texts. -/
lemma plain_ofPointer (text : String) : (ofPointer text).Plain :=
  fun _ h => Endpoint.isPlainSegment_of_mem_segments h

/-- A path can be read from its pointer exactly if it is plain. -/
theorem ofPointer_pointer_eq_iff : ofPointer p.pointer = p ↔ p.Plain := by
  refine ⟨fun h => ?_, ofPointer_pointer⟩
  rw [← h]
  exact plain_ofPointer p.pointer

/-- A path that was read from a text is read again from its pointer. -/
theorem ofPointer_pointer_ofPointer (text : String) :
    ofPointer (ofPointer text).pointer = ofPointer text :=
  ofPointer_pointer (plain_ofPointer text)

/-- What follows the pointer of a plain path after a slash leads on from there. -/
lemma segments_ofPointer_append (hp : p.Plain) (rest : String) :
    (ofPointer (p.pointer ++ "/" ++ rest)).segments =
      p.segments ++ (ofPointer ("/" ++ rest)).segments := by
  have hcut : (Text.cut '/' ('/' :: rest.toList)).1 = [] := by
    rw [Text.cut_cons, if_pos rfl]
  have htext : ("/" ++ rest).toList = '/' :: rest.toList := by
    rw [String.toList_append]
    rfl
  rw [String.append_assoc]
  show (Text.pieces '/' (p.pointer ++ ("/" ++ rest)).toList).map String.ofList =
    p.segments ++ (Text.pieces '/' ("/" ++ rest).toList).map String.ofList
  rw [String.toList_append, htext, toList_pointer,
    Text.pieces_flatMap_cons_append hp.forall_toList hcut, List.map_append, map_ofList_segments]

/-- The pointer of a path goes on with a slash after the pointer of a path above it. -/
lemma startsWith_of_isAncestorOf (h : p.isAncestorOf q = true) :
    q.pointer.startsWith (p.pointer ++ "/") = true := by
  rw [isAncestorOf, Bool.and_eq_true, decide_eq_true_eq, List.isPrefixOf_iff_prefix] at h
  obtain ⟨hlength, below, hbelow⟩ := h
  cases below with
  | nil =>
    rw [← hbelow, List.append_nil] at hlength
    exact absurd hlength (Nat.lt_irrefl _)
  | cons segment below =>
    rw [String.startsWith_string_iff, String.toList_append, toList_pointer, toList_pointer, ← hbelow,
      List.map_append, List.flatMap_append, List.prefix_append_right_inj]
    exact ⟨segment.toList ++ (below.map String.toList).flatMap ('/' :: ·), rfl⟩

/-- A plain path is above another one exactly if its pointer and a slash start the pointer of the
other. -/
theorem isAncestorOf_iff_startsWith (hp : p.Plain) (hq : q.Plain) :
    p.isAncestorOf q = true ↔ q.pointer.startsWith (p.pointer ++ "/") = true := by
  refine ⟨startsWith_of_isAncestorOf, fun h => ?_⟩
  rw [String.startsWith_string_iff] at h
  obtain ⟨rest, hrest⟩ := h
  have hpointer : q.pointer = p.pointer ++ "/" ++ String.ofList rest := by
    refine String.toList_injective ?_
    rw [String.toList_append, String.toList_ofList, hrest]
  have hsegments : p.segments <+: q.segments := by
    rw [← ofPointer_pointer hq, hpointer, segments_ofPointer_append hp]
    exact List.prefix_append _ _
  refine (isPrefix_iff.mp hsegments).resolve_left ?_
  -- the two pointers differ by the slash at least
  rintro rfl
  have hlength := congrArg List.length hrest
  rw [String.toList_append, List.length_append, List.length_append] at hlength
  have hslash : "/".toList.length = 1 := rfl
  omega

/-- A path is read as it was written exactly if it is plain: its written form is its pointer. -/
theorem decode_encode_eq_ok_iff : decode p.encode = .ok p ↔ p.Plain := by
  have hread : decode p.encode = .ok (ofPointer p.pointer) := rfl
  rw [hread, Except.ok.injEq, ofPointer_pointer_eq_iff]

end AccessPath

namespace Consumer

variable {c d : Consumer} {p q : AccessPath}

/-- Consumers at different plain places have different keys. -/
lemma key_beq_eq_false (hc : c.resource.place? = some p) (hd : d.resource.place? = some q)
    (hp : p.Plain) (hq : q.Plain) (hne : p ≠ q) : (c.key == d.key) = false := by
  rw [Bool.eq_false_iff]
  intro h
  have hmapKey : d.key.mapKey = c.key.mapKey := by rw [(ConsumerKey.beq_eq_true_iff.mp h).2]
  have hpointer : q.pointer = p.pointer := by
    change d.resource.mapKey = c.resource.mapKey at hmapKey
    rwa [Resource.mapKey, Resource.mapKey, hc, hd] at hmapKey
  exact hne (hp.eq_of_pointer_eq hq hpointer.symm)

end Consumer

namespace AccessPath

/-- A path can be read from its pointer exactly if every segment is a non-empty text without
slashes, and any path that was read from a text can.  Among such paths the ones below a path are
those whose pointer goes on with a slash after its pointer, and consumers at different ones have
different keys. -/
theorem pointers_stand_for_plain_paths :
    (∀ p : AccessPath, ofPointer p.pointer = p ↔ p.Plain) ∧
      (∀ text, ofPointer (ofPointer text).pointer = ofPointer text) ∧
      (∀ p q : AccessPath, p.Plain → q.Plain →
        (p.isAncestorOf q = true ↔ q.pointer.startsWith (p.pointer ++ "/") = true)) ∧
      ∀ (c d : Consumer) (p q : AccessPath), c.resource.place? = some p →
        d.resource.place? = some q → p.Plain → q.Plain → p ≠ q → (c.key == d.key) = false := by
  exact ⟨fun _ => ofPointer_pointer_eq_iff, ofPointer_pointer_ofPointer,
    fun _ _ => isAncestorOf_iff_startsWith, fun _ _ _ _ => Consumer.key_beq_eq_false⟩

/-! ### The items of an order -/

/-- The list of the items. -/
def itemsPath : AccessPath :=
  ⟨["items"]⟩

/-- The identifier of an item. -/
def itemIdPath : AccessPath :=
  ⟨["items", arrayMarker, "id"]⟩

/-- What an order takes at a place of its body. -/
def orderInput (place : AccessPath) : Consumer where
  resource := .situated .input { endpoint := "/orders", method := .post } (.ofPlace place)
    .camelCase .string
  kind := .body

/-- The two pointers show that the identifier is below the list, and the inputs at these places are
not confused. -/
theorem pointers_stand_for_items :
    (itemsPath.Plain ∧ itemIdPath.Plain) ∧ ofPointer itemIdPath.pointer = itemIdPath ∧
      itemIdPath.pointer.startsWith (itemsPath.pointer ++ "/") = true ∧
      ((orderInput itemsPath).key == (orderInput itemIdPath).key) = false := by
  have hitems : IsPlainSegment "items" := by constructor <;> decide
  have hid : IsPlainSegment "id" := by constructor <;> decide
  have hlist : itemsPath.Plain := plain_root.child hitems
  have hitem : itemIdPath.Plain := (hlist.child isPlainSegment_arrayMarker).child hid
  obtain ⟨hread, -, habove, hkeys⟩ := pointers_stand_for_plain_paths
  exact ⟨⟨hlist, hitem⟩, (hread _).mpr hitem, (habove _ _ hlist hitem).mp (by decide),
    hkeys _ _ _ _ rfl rfl hlist hitem (by decide)⟩

end AccessPath

end RestFlow
